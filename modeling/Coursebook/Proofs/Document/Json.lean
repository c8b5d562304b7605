/-
Documents as JSON. Every record is read from what is written for it, and so
is a document tree without doubles that is not nested too deeply, from one
line and from indented lines (`json_round_trip`). The blocks of a record are
two levels of nesting and keep well within what is read; a tree may be deeper,
and then it is written but not read (`quotes`).
-/
import Coursebook.Document.Json
import Coursebook.Proofs.Node.Json

namespace Coursebook

namespace Json

theorem isReadable_record {depth : Nat} {fields : List (String × Json)} (h : ∀ f ∈ fields, f.2.isReadable depth = true) :
    (record fields).isReadable (depth + 1) = true := by
  have hmembers : allMembersReadable depth (fields.map fun f => (f.1.toList, f.2)) = true := by
    induction fields with
    | nil => rfl
    | cons f fields ih =>
      obtain ⟨hf, hfields⟩ := List.forall_mem_cons.1 h
      exact Bool.and_eq_true_iff.2 ⟨hf, ih hfields⟩
  rw [record, isReadable, Nat.add_sub_cancel, Bool.and_eq_true]
  exact ⟨decide_eq_true (Nat.succ_pos depth), hmembers⟩

theorem isReadable_ofList {α : Type} {depth : Nat} {f : α → Json} (h : ∀ a, (f a).isReadable depth = true) (as : List α) :
    (ofList f as).isReadable (depth + 1) = true := by
  have hitems : allReadable depth (as.map f) = true := by
    induction as with
    | nil => rfl
    | cons a as ih => exact Bool.and_eq_true_iff.2 ⟨h a, ih⟩
  rw [ofList, isReadable, Nat.add_sub_cancel, Bool.and_eq_true]
  exact ⟨decide_eq_true (Nat.succ_pos depth), hitems⟩

theorem isExact_ofList {α : Type} {f : α → Json} (h : ∀ a, (f a).isExact = true) (as : List α) :
    (ofList f as).isExact = true := by
  rw [ofList, isExact]
  induction as with
  | nil => rfl
  | cons a as ih => exact Bool.and_eq_true_iff.2 ⟨h a, ih⟩

end Json

theorem DocumentKind.ofJson?_name (kind : DocumentKind) : ofJson? (.string kind.name) = some kind := by
  cases kind <;> rfl

namespace Block

/-- The fields of a block are strings, or missing. -/
theorem toJson_eq (b : Block) : ∃ kind fields, b.toJson = kindRecord kind fields ∧ "type" ∉ fields.map Prod.fst ∧
    ∀ f ∈ fields, f.2 = .null ∨ ∃ s, f.2 = .string s := by
  have hfield : ∀ o : Option Text, optionalField o = .null ∨ ∃ s, optionalField o = .string s := by
    intro o
    cases o with
    | none => exact .inl rfl
    | some s => exact .inr ⟨s, rfl⟩
  cases b <;> refine ⟨_, _, rfl, by simp, ?_⟩ <;> simp [hfield]

theorem isExact_toJson (b : Block) : b.toJson.isExact = true := by
  obtain ⟨kind, fields, hb, -, hfields⟩ := b.toJson_eq
  rw [hb]
  refine Json.isExact_record (List.forall_mem_cons.2 ⟨rfl, fun f hf => ?_⟩)
  rcases hfields f hf with h | ⟨s, h⟩ <;> rw [h] <;> rfl

/-- A block is one level of nesting. -/
theorem isReadable_toJson (b : Block) (depth : Nat) : b.toJson.isReadable (depth + 1) = true := by
  obtain ⟨kind, fields, hb, -, hfields⟩ := b.toJson_eq
  rw [hb]
  refine Json.isReadable_record (List.forall_mem_cons.2 ⟨rfl, fun f hf => ?_⟩)
  rcases hfields f hf with h | ⟨s, h⟩ <;> rw [h] <;> rfl

/-- **A block is read from what is written for it.** -/
theorem ofJson?_toJson (b : Block) : ofJson? b.toJson = some b := by
  cases b <;>
    simp [ofJson?, toJson, kindRecord, Json.tagged?_record, bodyOf?, namedBodyOf?, optionalOf?, optionalField,
      Json.Record.ofJson?_record, Json.Record.withDefault, List.lookup_cons, Json.asText, Json.asOption_ofOption]

end Block

namespace Record

theorem isExact_toJson (r : Record) : r.toJson.isExact = true := by
  refine Json.isExact_record ?_
  have := Json.isExact_ofList Block.isExact_toJson r.blocks
  cases htitle : r.title <;> simp [Json.ofOption, Json.isExact, this]

/-- **A record is read from what is written for it.** -/
theorem ofJson?_toJson (r : Record) : ofJson? r.toJson = some r := by
  have hblocks : blocksOfJson? (.ofList Block.toJson r.blocks) = some r.blocks := by
    have hreadable : (Json.ofList Block.toJson r.blocks).isReadable (Json.maxNesting - 1) = true :=
      Json.isReadable_ofList (fun b => b.isReadable_toJson 124) r.blocks
    rw [blocksOfJson?, if_pos hreadable, Json.asList_map Block.ofJson?_toJson]
  simp [ofJson?, toJson, Json.Record.ofJson?_record, Json.Record.withDefault, List.lookup_cons, Json.asOption_ofOption,
    DocumentKind.ofJson?_name, hblocks]

end Record

/-- **JSON is read back.** A document tree comes back from one line and from indented lines, whatever its strings
are, if it has no more levels of nesting than are read, and only then. A record always comes back, and then has the
same text. -/
theorem json_round_trip :
    (∀ ns : List Node, Node.allExact ns = true →
      ((Json.read? (Node.listToJson ns).compact).bind Node.listOfJson? = some ns ↔
        (Node.listToJson ns).height ≤ Json.maxNesting) ∧
      ((Json.read? ((Node.listToJson ns).pretty 0)).bind Node.listOfJson? = some ns ↔
        (Node.listToJson ns).height ≤ Json.maxNesting)) ∧
    ∀ r : Record,
      Record.read? r.toJson.compact = some r ∧ Record.read? (r.toJson.pretty 0) = some r ∧
      (Record.read? r.toJson.compact).map Record.text = some r.text := by
  refine ⟨fun ns hns => ?_, fun r => ?_⟩
  · rw [Json.read?_compact (Node.isExact_listToJson hns), Json.read?_pretty (Node.isExact_listToJson hns)]
    exact ⟨Node.listOfJson?_listToJson_iff hns, Node.listOfJson?_listToJson_iff hns⟩
  · have hcompact : Record.read? r.toJson.compact = some r := by
      rw [Record.read?, Json.read?_compact r.isExact_toJson, Option.bind_some, r.ofJson?_toJson]
    have hpretty : Record.read? (r.toJson.pretty 0) = some r := by
      rw [Record.read?, Json.read?_pretty r.isExact_toJson, Option.bind_some, r.ofJson?_toJson]
    exact ⟨hcompact, hpretty, by rw [hcompact, Option.map_some]⟩

/-- A quote, a backslash and a control character come back. -/
theorem json_round_trip_escapes :
    Node.allExact [.heading 2 [.code ['"', '\\', '\x07']], .image (.ofPath ['é'])] = true ∧
      (Json.read? (Node.listToJson [.heading 2 [.code ['"', '\\', '\x07']], .image (.ofPath ['é'])]).compact).bind
        Node.listOfJson? = some [.heading 2 [.code ['"', '\\', '\x07']], .image (.ofPath ['é'])] :=
  ⟨rfl, (json_round_trip.1 _ rfl).1.2 (by decide)⟩

/-! ## Deep trees -/

/-- A block quote with `n` block quotes inside each other in it. -/
def quotes : Nat → Node
  | 0 => .blockQuote []
  | n + 1 => .blockQuote [quotes n]

theorem allExact_quotes (n : Nat) : Node.allExact [quotes n] = true := by
  rw [Node.allExact, Node.allExact, Bool.and_true]
  induction n with
  | zero => rfl
  | succ n ih => rw [quotes, Node.isExact, Node.allExact, Node.allExact, ih, Bool.and_true]

theorem height_quotes (n : Nat) : (Node.listToJson [quotes n]).height = 2 * n + 3 := by
  have hquote : (quotes n).toJson.height = 2 * n + 2 := by
    induction n with
    | zero => rfl
    | succ n ih =>
      have hstep : (quotes (n + 1)).toJson.height = 1 + (1 + (quotes n).toJson.height) := by
        simp [quotes, Node.toJson, Node.toJsonAll, Node.kindRecord, Json.record, Json.str, Json.height, Json.heightAll,
          Json.heightMembers]
      omega
  rw [Node.listToJson, Json.height, Node.toJsonAll, Node.toJsonAll, Json.heightAll, Json.heightAll, hquote]
  omega

/-- 64 block quotes inside each other are written, but not read back. -/
theorem json_round_trip_quotes :
    Node.allExact [quotes 63] = true ∧
      (Json.read? (Node.listToJson [quotes 63]).compact).bind Node.listOfJson? ≠ some [quotes 63] := by
  have hexact := allExact_quotes 63
  refine ⟨hexact, ?_⟩
  rw [Json.read?_compact (Node.isExact_listToJson hexact), Option.bind_some, Ne, Node.listOfJson?_listToJson_iff hexact,
    height_quotes]
  decide

end Coursebook
