/-
Records and variants are read from what is written for them: a record with
each of its fields once (`Record.ofJson?_record`), and a variant with its tag
in front (`tagged?_record`).
-/
import Coursebook.Json.Record

namespace Coursebook.Json

/-! ## Values -/

theorem asByte_nat {n : Nat} (h : n ≤ 255) : (nat n).asByte = some n := if_pos h

theorem asOption_ofOption (o : Option Text) : asOption asText (.ofOption .string o) = some o := by
  cases o <;> rfl

theorem asList_map {α : Type} {f : α → Json} {read : Json → Option α} (hread : ∀ a, read (f a) = some a) (as : List α) :
    asList read (.ofList f as) = some as := by
  rw [ofList, asList]
  induction as with
  | nil => rfl
  | cons a as ih =>
    rw [List.map_cons, List.mapM_cons, hread, ih]
    rfl

/-! ## Records -/

/-- The record with these fields. -/
def Record.ofFields (fields : List (String × Json)) : Record := ⟨false, fields.map fun f => (f.1.toList, f.2)⟩

@[simp]
theorem Record.get?_ofFields (fields : List (String × Json)) (name : String) :
    (ofFields fields).get? name = fields.lookup name := by
  rw [get?, ofFields]
  induction fields with
  | nil => rfl
  | cons f fields ih =>
    obtain ⟨name', v⟩ := f
    have hname : (name.toList == name'.toList) = (name == name') := by
      rw [Bool.eq_iff_iff, beq_iff_eq, beq_iff_eq, String.toList_inj]
    rw [List.map_cons, List.lookup_cons, List.lookup_cons, hname]
    cases name == name' with
    | true => rfl
    | false => exact ih

@[simp]
theorem Record.required_ofFields {α : Type} (fields : List (String × Json)) (name : String) (read : Json → Option α) :
    (ofFields fields).required name read = (fields.lookup name).bind read := by
  rw [required, get?_ofFields]

theorem Record.distinctNames_of_nodup {fields : List (String × Json)} (h : (fields.map Prod.fst).Nodup) :
    distinctNames (fields.map fun f => (f.1.toList, f.2)) = true := by
  induction fields with
  | nil => rfl
  | cons f fields ih =>
    obtain ⟨hf, hfields⟩ := List.nodup_cons.1 h
    rw [List.map_cons, distinctNames, ih hfields, Bool.and_true, Bool.not_eq_true', List.any_eq_false]
    intro m hm heq
    obtain ⟨g, hg, rfl⟩ := List.mem_map.1 hm
    exact hf (List.mem_map.2 ⟨g, hg, String.toList_inj.1 (of_decide_eq_true heq)⟩)

/-- A record is read from what is written for it. -/
theorem Record.ofJson?_record {names : List String} {fields : List (String × Json)} (h : fields.map Prod.fst = names)
    (hnames : names.Nodup) : Record.ofJson? names (.record fields) = some (ofFields fields) := by
  subst h
  have hknown : ((fields.map fun f => (f.1.toList, f.2)).filter fun m => (fields.map Prod.fst).any (·.toList = m.1)) =
      fields.map fun f => (f.1.toList, f.2) := by
    refine List.filter_eq_self.2 fun m hm => ?_
    obtain ⟨f, hf, rfl⟩ := List.mem_map.1 hm
    exact List.any_eq_true.2 ⟨f.1, List.mem_map_of_mem hf, decide_eq_true rfl⟩
  simp only [ofJson?, record, hknown, distinctNames_of_nodup hnames, if_true]
  rfl

/-! ## Variants -/

/-- A variant is taken apart into its tag and its fields. -/
theorem tagged?_record (tag : String) {fields : List (String × Json)} (h : "type" ∉ fields.map Prod.fst) :
    tagged? (.record (("type", .str tag) :: fields)) = some (tag.toList, .record fields) := by
  have hother : ∀ m ∈ fields.map fun f => (f.1.toList, f.2), m.1 ≠ "type".toList := by
    intro m hm heq
    obtain ⟨f, hf, rfl⟩ := List.mem_map.1 hm
    exact h (List.mem_map.2 ⟨f, hf, String.toList_inj.1 heq⟩)
  have hnone : ((fields.map fun f => (f.1.toList, f.2)).filter (·.1 = "type".toList)) = [] :=
    List.filter_eq_nil_iff.2 fun m hm => by simpa using hother m hm
  have hall : ((fields.map fun f => (f.1.toList, f.2)).filter (·.1 ≠ "type".toList)) =
      fields.map fun f => (f.1.toList, f.2) :=
    List.filter_eq_self.2 fun m hm => by simpa using hother m hm
  simp only [tagged?, record, List.map_cons]
  rw [List.filter_cons_of_pos (by simp), List.filter_cons_of_neg (by simp), hnone, hall]
  rfl

end Coursebook.Json
