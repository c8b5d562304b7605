/-
Document trees as JSON. A tree is read from what is written for it, whatever
its strings are, as long as it is exact: the levels of its headings are
bytes, and its images have no sizes, which would be doubles.
-/
import Coursebook.Node.Json
import Coursebook.Proofs.Json.Layout
import Coursebook.Proofs.Json.Record

namespace Coursebook

namespace Json

/-! ## Nesting -/

mutual

/-- What has a value in all its parts is readable as deeply as it is nested. -/
theorem isReadable_iff : ∀ {v : Json}, v.isExact = true → ∀ {depth : Nat}, v.isReadable depth = true ↔ v.height ≤ depth
  | .null, _, _ | .bool _, _, _ | .integer _, _, _ | .string _, _, _ => iff_of_true rfl (Nat.zero_le _)
  | .array items, h, depth => by
    rw [isReadable, height, Bool.and_eq_true, decide_eq_true_eq, allReadable_iff h]
    omega
  | .object members, h, depth => by
    rw [isReadable, height, Bool.and_eq_true, decide_eq_true_eq, allMembersReadable_iff h]
    omega

theorem allReadable_iff : ∀ {vs : List Json}, allExact vs = true → ∀ {depth : Nat},
    allReadable depth vs = true ↔ heightAll vs ≤ depth
  | [], _, _ => iff_of_true rfl (Nat.zero_le _)
  | v :: vs, h, depth => by
    obtain ⟨hv, hvs⟩ := Bool.and_eq_true_iff.1 h
    rw [allReadable, heightAll, Bool.and_eq_true, isReadable_iff hv, allReadable_iff hvs, Nat.max_le]

theorem allMembersReadable_iff : ∀ {ms : List (Text × Json)}, allMembersExact ms = true → ∀ {depth : Nat},
    allMembersReadable depth ms = true ↔ heightMembers ms ≤ depth
  | [], _, _ => iff_of_true rfl (Nat.zero_le _)
  | (_, v) :: ms, h, depth => by
    obtain ⟨hv, hms⟩ := Bool.and_eq_true_iff.1 h
    rw [allMembersReadable, heightMembers, Bool.and_eq_true, isReadable_iff hv, allMembersReadable_iff hms, Nat.max_le]

end

end Json

theorem Command.ListKind.ofJson?_name (kind : Command.ListKind) : ListKind.ofJson? (.string kind.name) = some kind := by
  cases kind <;> rfl

theorem EmphasisStyle.ofJson?_name (style : EmphasisStyle) : ofJson? (.string style.name) = some style := by
  cases style <;> rfl

theorem Category.ofJson?_name (c : Category) : Category.ofJson? (.string c.name) = some c := by
  cases c <;> rfl

/-- An image without sizes is read from what is written for it. -/
theorem Image.ofJson?_members {i : Image} (hwidth : i.width = none) (hheight : i.height = none) :
    Image.ofJson? (.record i.members) = some i := by
  obtain ⟨path, width, height⟩ := i
  cases hwidth
  cases hheight
  simp [Image.ofJson?, members, Json.Record.ofJson?_record, Json.Record.optional, List.lookup_cons, Json.asText, Json.ofOption,
    Json.asOption]

namespace Node

/-! ## Trees that are read back -/

mutual

/-- Whether a node can be read back in full. -/
def isExact : Node → Bool
  | heading level cs => level ≤ 255 && allExact cs
  | list _ items => itemsExact items
  | image i => i.width.isNone && i.height.isNone
  | paragraph cs | section_ _ cs | emphasis _ cs | link _ cs | blockQuote cs => allExact cs
  | math _ _ | lineBreak | code _ | codeBlock _ _ | rule | text _ | raw _ => true

def allExact : List Node → Bool
  | [] => true
  | n :: ns => isExact n && allExact ns

def itemsExact : List (List Node) → Bool
  | [] => true
  | i :: is => allExact i && itemsExact is

end

theorem isExact_kindRecord {kind : String} {fields : List (String × Json)} (h : ∀ f ∈ fields, f.2.isExact = true) :
    (kindRecord kind fields).isExact = true :=
  Json.isExact_record (List.forall_mem_cons.2 ⟨rfl, h⟩)

mutual

theorem isExact_toJson : ∀ (n : Node), n.isExact = true → n.toJson.isExact = true
  | heading level cs, hn => by
    obtain ⟨hlevel, hcs⟩ := Bool.and_eq_true_iff.1 hn
    have hlevel := Json.isExact_nat (Nat.le_trans (of_decide_eq_true hlevel) (by decide))
    have := allExact_toJsonAll cs hcs
    refine isExact_kindRecord ?_
    simp [Json.isExact, hlevel, this]
  | paragraph cs, hn | section_ _ cs, hn | emphasis _ cs, hn | link _ cs, hn | blockQuote cs, hn => by
    have := allExact_toJsonAll cs hn
    refine isExact_kindRecord ?_
    simp [Json.isExact, this]
  | list kind items, hn => by
    have := itemsExact_toJsonItems items hn
    refine isExact_kindRecord ?_
    simp [Json.isExact, this]
  | math .inline s, _ | math .display s, _ | lineBreak, _ | code _, _ | rule, _ | text _, _ | raw _, _ => by
    refine isExact_kindRecord ?_
    simp [Json.isExact]
  | codeBlock language s, _ => by
    refine isExact_kindRecord ?_
    cases language <;> simp [Json.isExact, Json.ofOption]
  | image i, hn => by
    obtain ⟨hwidth, hheight⟩ := Bool.and_eq_true_iff.1 hn
    refine isExact_kindRecord ?_
    simp [Image.members, Json.isExact, Option.isNone_iff_eq_none.1 hwidth, Option.isNone_iff_eq_none.1 hheight, Json.ofOption]

theorem allExact_toJsonAll : ∀ (ns : List Node), allExact ns = true → Json.allExact (toJsonAll ns) = true
  | [], _ => rfl
  | n :: ns, hns => by
    obtain ⟨hn, hns⟩ := Bool.and_eq_true_iff.1 hns
    exact Bool.and_eq_true_iff.2 ⟨isExact_toJson n hn, allExact_toJsonAll ns hns⟩

theorem itemsExact_toJsonItems : ∀ (is : List (List Node)), itemsExact is = true → Json.allExact (toJsonItems is) = true
  | [], _ => rfl
  | i :: is, his => by
    obtain ⟨hi, his⟩ := Bool.and_eq_true_iff.1 his
    exact Bool.and_eq_true_iff.2 ⟨allExact_toJsonAll i hi, itemsExact_toJsonItems is his⟩

end

theorem isExact_listToJson {ns : List Node} (hns : allExact ns = true) : (listToJson ns).isExact = true :=
  allExact_toJsonAll ns hns

/-! ## Reading a node -/

theorem ofJsonWithin?_kindRecord {depth : Nat} {kind : String} {fields : List (String × Json)}
    (h : "type" ∉ fields.map Prod.fst) :
    ofJsonWithin? (depth + 1) (kindRecord kind fields) = ofTagged? (ofJsonWithin? depth) kind (.record fields) := by
  have htag : String.ofList kind.toList = kind := String.ofList_toList
  rw [ofJsonWithin?, kindRecord, Json.tagged?_record kind h, Option.bind_eq_bind, Option.bind_some]
  simp only [htag]

/-- What stands in a node is nested less deeply. -/
theorem height_lt_kindRecord (kind : String) {fields : List (String × Json)} {f : String × Json} (h : f ∈ fields) :
    f.2.height < (kindRecord kind fields).height := by
  have hmembers : ∀ {fields : List (String × Json)}, f ∈ fields →
      f.2.height ≤ Json.heightMembers (fields.map fun f => (f.1.toList, f.2)) := by
    intro fields h
    induction fields with
    | nil => cases h
    | cons g fields ih =>
      rw [List.map_cons, Json.heightMembers]
      rcases List.mem_cons.1 h with rfl | h
      · exact Nat.le_max_left _ _
      · exact Nat.le_trans (ih h) (Nat.le_max_right _ _)
  have := hmembers (List.mem_cons_of_mem ("type", .str kind) h)
  rw [kindRecord, Json.record, Json.height]
  exact Nat.lt_one_add_iff.2 this

/-- The nodes below a node that is read within some depth are read within one less. -/
theorem heightAll_lt (name : String) {depth : Nat} {kind : String} {fields : List (String × Json)} {vs : List Json}
    (hdepth : (kindRecord kind fields).height < depth + 1) (h : (name, .array vs) ∈ fields) : Json.heightAll vs < depth := by
  have := height_lt_kindRecord kind h
  rw [Json.height] at this
  omega

mutual

/-- **A node is read from what is written for it.** -/
theorem ofJsonWithin?_toJson : ∀ (n : Node), n.isExact = true → ∀ {depth : Nat}, n.toJson.height < depth →
    ofJsonWithin? depth n.toJson = some n
  | heading level cs, hn, depth + 1, hdepth => by
    obtain ⟨hlevel, hcs⟩ := Bool.and_eq_true_iff.1 hn
    have hlevel := Json.asByte_nat (of_decide_eq_true hlevel)
    have hcs := mapM_toJsonAll cs hcs (heightAll_lt "children" hdepth (by simp))
    rw [toJson, ofJsonWithin?_kindRecord (by simp)]
    simp [ofTagged?, Json.Record.ofJson?_record, List.lookup_cons, Json.asList, hlevel, hcs]
  | paragraph cs, hn, depth + 1, hdepth => by
    have hcs := mapM_toJsonAll cs hn (heightAll_lt "children" hdepth (by simp))
    rw [toJson, ofJsonWithin?_kindRecord (by simp)]
    simp [ofTagged?, Json.Record.ofJson?_record, Json.asList, hcs]
  | list kind items, hn, depth + 1, hdepth => by
    have hitems := mapM_toJsonItems items hn (heightAll_lt "items" hdepth (by simp)).le
    rw [toJson, ofJsonWithin?_kindRecord (by simp)]
    simp [ofTagged?, Json.Record.ofJson?_record, List.lookup_cons, Json.asList, hitems, Command.ListKind.ofJson?_name]
  | math .inline s, _, depth + 1, _ | math .display s, _, depth + 1, _ => by
    rw [toJson, ofJsonWithin?_kindRecord (by simp)]
    simp [ofTagged?, ofTagged?.source, Json.Record.ofJson?_record, Json.asText]
  | image i, hn, depth + 1, _ => by
    obtain ⟨hwidth, hheight⟩ := Bool.and_eq_true_iff.1 hn
    rw [toJson, ofJsonWithin?_kindRecord (by simp [Image.members])]
    have himage := Image.ofJson?_members (Option.isNone_iff_eq_none.1 hwidth) (Option.isNone_iff_eq_none.1 hheight)
    simp [ofTagged?, himage]
  | section_ c cs, hn, depth + 1, hdepth => by
    have hcs := mapM_toJsonAll cs hn (heightAll_lt "children" hdepth (by simp))
    rw [toJson, ofJsonWithin?_kindRecord (by simp)]
    simp [ofTagged?, Json.Record.ofJson?_record, List.lookup_cons, Json.asList, hcs, Category.ofJson?_name]
  | emphasis style cs, hn, depth + 1, hdepth => by
    have hcs := mapM_toJsonAll cs hn (heightAll_lt "children" hdepth (by simp))
    rw [toJson, ofJsonWithin?_kindRecord (by simp)]
    simp [ofTagged?, Json.Record.ofJson?_record, List.lookup_cons, Json.asList, hcs, EmphasisStyle.ofJson?_name]
  | lineBreak, _, depth + 1, _ => by
    rw [toJson, ofJsonWithin?_kindRecord (by simp)]
    simp [ofTagged?, Json.isUnit, Json.record]
  | code s, _, depth + 1, _ => by
    rw [toJson, ofJsonWithin?_kindRecord (by simp)]
    simp [ofTagged?, ofTagged?.source, Json.Record.ofJson?_record, Json.asText]
  | codeBlock language s, _, depth + 1, _ => by
    rw [toJson, ofJsonWithin?_kindRecord (by simp)]
    simp [ofTagged?, Json.Record.ofJson?_record, List.lookup_cons, Json.asText, Json.Record.optional, Json.asOption_ofOption]
  | link url cs, hn, depth + 1, hdepth => by
    have hcs := mapM_toJsonAll cs hn (heightAll_lt "children" hdepth (by simp))
    rw [toJson, ofJsonWithin?_kindRecord (by simp)]
    simp [ofTagged?, Json.Record.ofJson?_record, List.lookup_cons, Json.asList, Json.asText, hcs]
  | blockQuote cs, hn, depth + 1, hdepth => by
    have hcs := mapM_toJsonAll cs hn (heightAll_lt "children" hdepth (by simp))
    rw [toJson, ofJsonWithin?_kindRecord (by simp)]
    simp [ofTagged?, Json.Record.ofJson?_record, Json.asList, hcs]
  | rule, _, depth + 1, _ => by
    rw [toJson, ofJsonWithin?_kindRecord (by simp)]
    simp [ofTagged?, Json.isUnit, Json.record]
  | text t, _, depth + 1, _ => by
    rw [toJson, ofJsonWithin?_kindRecord (by simp)]
    simp [ofTagged?, Json.Record.ofJson?_record, Json.asText]
  | raw html, _, depth + 1, _ => by
    rw [toJson, ofJsonWithin?_kindRecord (by simp)]
    simp [ofTagged?, Json.Record.ofJson?_record, Json.asText]

theorem mapM_toJsonAll : ∀ (ns : List Node), allExact ns = true → ∀ {depth : Nat}, Json.heightAll (toJsonAll ns) < depth →
    (toJsonAll ns).mapM (ofJsonWithin? depth) = some ns
  | [], _, _, _ => rfl
  | n :: ns, hns, depth, hdepth => by
    obtain ⟨hn, hns⟩ := Bool.and_eq_true_iff.1 hns
    rw [toJsonAll, Json.heightAll, Nat.max_lt] at hdepth
    rw [toJsonAll, List.mapM_cons, ofJsonWithin?_toJson n hn hdepth.1, mapM_toJsonAll ns hns hdepth.2]
    rfl

theorem mapM_toJsonItems : ∀ (is : List (List Node)), itemsExact is = true → ∀ {depth : Nat},
    Json.heightAll (toJsonItems is) ≤ depth →
      (toJsonItems is).mapM (Json.asList (ofJsonWithin? depth)) = some is
  | [], _, _, _ => rfl
  | i :: is, his, depth, hdepth => by
    obtain ⟨hi, his⟩ := Bool.and_eq_true_iff.1 his
    rw [toJsonItems, Json.heightAll, Nat.max_le, Json.height] at hdepth
    rw [toJsonItems, List.mapM_cons, Json.asList, mapM_toJsonAll i hi (by omega), mapM_toJsonItems is his hdepth.2]
    rfl

end

theorem ofJson?_toJson {n : Node} (hn : n.isExact = true) (hdepth : n.toJson.height ≤ Json.maxNesting) :
    ofJson? n.toJson = some n := by
  rw [ofJson?, if_pos ((Json.isReadable_iff (isExact_toJson n hn)).2 hdepth), ofJsonWithin?_toJson n hn (Nat.lt_succ_self _)]

/-- **Nodes are read from what is written for them** if they are not nested too deeply, and only then. -/
theorem listOfJson?_listToJson_iff {ns : List Node} (hns : allExact ns = true) :
    listOfJson? (listToJson ns) = some ns ↔ (listToJson ns).height ≤ Json.maxNesting := by
  rw [listOfJson?, ← Json.isReadable_iff (isExact_listToJson hns)]
  split
  · next hreadable =>
    refine iff_of_true ?_ hreadable
    rw [listToJson, Json.isReadable, Bool.and_eq_true] at hreadable
    have hitems := (Json.allReadable_iff (allExact_toJsonAll ns hns)).1 hreadable.2
    clear hreadable
    rw [listToJson, Json.asList]
    induction ns with
    | nil => rfl
    | cons n ns ih =>
      obtain ⟨hn, hns⟩ := Bool.and_eq_true_iff.1 hns
      rw [toJsonAll, Json.heightAll, Nat.max_le] at hitems
      rw [toJsonAll, List.mapM_cons, ofJson?_toJson hn (Nat.le_trans hitems.1 (Nat.sub_le _ _)), ih hns hitems.2]
      rfl
  · next hreadable => exact iff_of_false (by simp) hreadable

end Node

end Coursebook
