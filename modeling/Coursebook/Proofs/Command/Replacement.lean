/-
The replacement of calls, apart from what they are replaced by. If a call is
replaced by itself, nothing changes; if markup is put around its argument, no
call is left that ends (`replaceCalls_lossless_complete`).

The second is about braces. Markup has none, so to the reader of groups a text
and what it became are the same (`read?_replaceCalls`): an opening brace that
was never closed is not closed by what was put around it, behind it or inside
of it. Where a call stands in what came out, its name stood in the text, for
markup neither holds a backslash nor starts with what may go on a name. So
such a call was seen, and it was not replaced as its argument had no end.
-/
import Coursebook.Proofs.Command.Call
import Coursebook.Proofs.Command.Group

namespace Coursebook.Command

/-- An argument with a text in front of it and one behind. -/
def between (before after arg : Text) : Text := before ++ (arg ++ after)

/-! ## Calls replaced by themselves -/

theorem replaceCalls_self {name s : Text} (h : ¬word name ++ ['*', '{'] <:+: s) :
    replaceCalls name (between (word name ++ ['{']) ['}']) s = s := by
  refine replaceCalls_induct (P := fun s u => ¬word name ++ ['*', '{'] <:+: s → u = s) (fun _ => rfl) ?keep ?call ?pass s h
  case keep =>
    intro c s _ ih h
    rw [ih fun hs => h (hs.trans (List.suffix_cons c s).isInfix)]
  case call =>
    intro star t arg r hstar hcut harg hr h
    obtain rfl := eq_of_cutGroup? hcut
    obtain rfl : star = [] := hstar.resolve_right (by rintro rfl; exact h ⟨[], arg ++ '}' :: r, by simp⟩)
    have hinside : arg <:+: word name ++ ([] ++ '{' :: (arg ++ '}' :: r)) := ⟨word name ++ ['{'], '}' :: r, by simp⟩
    have hbehind : r <:+: word name ++ ([] ++ '{' :: (arg ++ '}' :: r)) := ⟨word name ++ '{' :: (arg ++ ['}']), [], by simp⟩
    rw [harg fun hs => h (hs.trans hinside), hr fun hs => h (hs.trans hbehind)]
    simp [between]
  case pass =>
    intro s _ ih h
    rw [ih fun hs => h (hs.trans (List.suffix_append _ s).isInfix)]

/-! ## Markup -/

/-- Markup to be put around an argument: the reader of groups passes over it, and a name cannot go on
with it. -/
structure IsMarkup (v : Text) : Prop where
  ne_nil : v ≠ []
  free : Groups.Free v
  head : ∀ c ∈ v.head?, Text.isAsciiLetter c = false ∧ c ≠ '*'

instance : DecidablePred IsMarkup := fun v =>
  have := List.decidableBAll (fun c => Text.isAsciiLetter c = false ∧ c ≠ '*') v.head?.toList
  decidable_of_iff (v ≠ [] ∧ Groups.Free v ∧ ∀ c ∈ v.head?.toList, Text.isAsciiLetter c = false ∧ c ≠ '*')
    ⟨fun h => ⟨h.1, h.2.1, by simpa using h.2.2⟩, fun h => ⟨h.ne_nil, h.free, by simpa using h.head⟩⟩

theorem IsMarkup.backslash_not_mem {v : Text} (hv : IsMarkup v) : '\\' ∉ v := fun h => (hv.free _ h).1 rfl

theorem free_star {star : Text} (hstar : star = [] ∨ star = ['*']) : Groups.Free star := by
  rcases hstar with rfl | rfl <;> decide

theorem free_of_letters {name : Text} (hname : ∀ c ∈ name, Text.isAsciiLetter c = true) : Groups.Free name := by
  intro c hc
  refine ⟨?_, ?_, ?_⟩ <;> rintro rfl <;> exact absurd (hname _ hc) (by decide)

section

variable {name : Text} (hne : name ≠ []) (hname : ∀ c ∈ name, Text.isAsciiLetter c = true)
variable {before after : Text} (hbefore : IsMarkup before) (hafter : IsMarkup after)

include hne hname hbefore hafter

/-- **The reader of groups** reads the same in what a text became. -/
theorem read?_replaceCalls {g g' : Groups} {s : Text} (h : g.read? s = some g') :
    g.read? (replaceCalls name (between before after) s) = some g' := by
  have hword := Groups.read?_word (free_of_letters hname) hne
  refine replaceCalls_induct (P := fun s u => ∀ g g', g.read? s = some g' → g.read? u = some g')
    (fun _ _ h => h) ?keep ?call ?pass s g g' h
  case keep =>
    intro c s _ ih g g' h
    rw [Groups.read?_cons, Option.bind_eq_some_iff] at h ⊢
    obtain ⟨k, hnext, hread⟩ := h
    exact ⟨k, hnext, ih k g' hread⟩
  case call =>
    intro star t arg r hstar hcut harg hr g g' h
    obtain rfl := eq_of_cutGroup? hcut
    -- The argument closes its own groups, with any number of them around.
    have hinside : ∀ d, Groups.read? ⟨false, d⟩ arg = some ⟨false, d⟩ := fun d => by
      simpa [Groups.within] using Groups.read?_within (read?_of_cutGroup? hcut) d
    have hrest : Groups.read? ⟨false, g.depth⟩ r = some g' := by
      simpa [Groups.read?_append, hword, Groups.read?_free (free_star hstar), hinside] using h
    have hargd := harg _ _ (hinside g.depth)
    simp [between, Groups.read?_append, Groups.read?_free_of_ne_nil hbefore.free hbefore.ne_nil, hargd,
      Groups.read?_free hafter.free, hr _ _ hrest]
  case pass =>
    intro s _ ih g g' h
    rw [Groups.read?_append, hword] at h ⊢
    exact ih _ g' h

end

/-- Only a name starts with a backslash, and only markup as markup does: what starts with another character
starts with one that stayed. -/
theorem exists_of_replaceCalls_eq {name before after : Text} (hne : before ≠ []) {c : Char} {s t : Text}
    (hc : c ≠ '\\' ∧ c ∉ before.head?) (h : replaceCalls name (between before after) s = c :: t) :
    ∃ s', s = c :: s' ∧ replaceCalls name (between before after) s' = t := by
  refine replaceCalls_induct (P := fun s u => u = c :: t →
    ∃ s', s = c :: s' ∧ replaceCalls name (between before after) s' = t) (by simp) ?keep ?call ?pass s h
  case keep =>
    intro d s _ _ h
    obtain ⟨rfl, rfl⟩ := List.cons.inj h
    exact ⟨s, rfl, rfl⟩
  case call =>
    intro star u arg r _ _ _ _ h
    obtain ⟨d, v, rfl⟩ := List.exists_cons_of_ne_nil hne
    obtain ⟨rfl, -⟩ := List.cons.inj h
    exact absurd rfl hc.2
  case pass =>
    intro s _ _ h
    exact absurd (List.cons.inj h).1.symm hc.1

theorem exists_of_replaceCalls_eq_append {name before after : Text} (hne : before ≠ []) {p s t : Text}
    (hp : ∀ c ∈ p, c ≠ '\\' ∧ c ∉ before.head?) (h : replaceCalls name (between before after) s = p ++ t) :
    ∃ s', s = p ++ s' ∧ replaceCalls name (between before after) s' = t := by
  induction p generalizing s with
  | nil => exact ⟨s, rfl, h⟩
  | cons c p ih =>
    obtain ⟨hc, hp⟩ := List.forall_mem_cons.1 hp
    obtain ⟨s', rfl, hs'⟩ := exists_of_replaceCalls_eq hne hc h
    obtain ⟨s'', rfl, hs''⟩ := ih hp hs'
    exact ⟨s'', rfl, hs''⟩

/-! ## Calls that are left -/

/-- Whether no call of the command in a text has an argument that ends. -/
def AllOpen (name s : Text) : Prop :=
  ∀ star r, star = [] ∨ star = ['*'] → opening name star ++ r <:+ s → cutArgument? r = none

section

variable {name : Text} (hne : name ≠ []) (hname : ∀ c ∈ name, Text.isAsciiLetter c = true)
variable {star : Text} (hstar : star = [] ∨ star = ['*'])

include hne hname hstar in
/-- Behind the opening of a call a text that closes all its groups closes one more. -/
theorem cutArgument?_ne_none_of_opening {r t : Text} {e : Bool} (ht : Groups.read? ⟨false, 0⟩ t = some ⟨e, 0⟩)
    (h : opening name star ++ r <:+ t) : cutArgument? r ≠ none := by
  intro hr
  obtain ⟨g', hr⟩ := Option.isSome_iff_exists.1 (cutArgument?_eq_none_iff.1 hr)
  obtain ⟨a, rfl⟩ := h
  rw [Groups.read?_append, Option.bind_eq_some_iff] at ht
  obtain ⟨g, -, ht⟩ := ht
  have hbehind : Groups.read? ⟨false, g.depth + 1⟩ r = some ⟨g'.escaped, g'.depth + (g.depth + 1)⟩ := by
    simpa [Groups.within] using Groups.read?_within hr (g.depth + 1)
  simp [opening, Groups.read?_append, Groups.read?_word (free_of_letters hname) hne, Groups.read?_free (free_star hstar), hbehind] at ht

include hname hstar in
/-- The opening of a call holds nothing that markup starts with, and one backslash. -/
theorem IsMarkup.head_ne {v : Text} (hv : IsMarkup v) : ∀ c ∈ name ++ (star ++ ['{']), c ≠ '\\' ∧ c ∉ v.head? := by
  intro c hc
  have hkind : Text.isAsciiLetter c = true ∨ c = '*' ∨ c = '{' := by
    rcases List.mem_append.1 hc with hc | hc
    · exact .inl (hname c hc)
    · rcases hstar with rfl | rfl <;> simp at hc <;> simp [hc]
  constructor
  · rintro rfl
    exact absurd hkind (by decide)
  · intro hhead
    obtain ⟨hletter, hcs⟩ := hv.head c hhead
    have hbrace := (hv.free c (List.mem_of_mem_head? hhead)).2.1
    simp [hletter, hcs, hbrace] at hkind

variable {before after : Text} (hbefore : IsMarkup before) (hafter : IsMarkup after)

include hname hstar hafter in
/-- A call that starts in front of markup is opened there. -/
theorem opening_suffix_append {a r t : Text} (h : opening name star ++ r <:+ a ++ (after ++ t)) :
    opening name star ++ r <:+ t ∨ ∃ r', opening name star ++ r' <:+ a ∧ r = r' ++ (after ++ t) := by
  have hb := hafter.backslash_not_mem
  rcases List.suffix_or_suffix_of_suffix h (List.suffix_append a (after ++ t)) with hbehind | ⟨a', ha'⟩
  · exact .inl (opening_suffix_of_append hb hbehind)
  · obtain ⟨c, v, rfl⟩ := List.exists_cons_of_ne_nil hafter.ne_nil
    have hc : c ∉ opening name star := by
      intro hmem
      rcases List.mem_cons.1 hmem with rfl | hmem
      · exact hb (List.mem_cons_self ..)
      · exact (hafter.head_ne hname hstar c hmem).2 rfl
    have hread : Text.after? (opening name star) (a' ++ c :: (v ++ t)) = some r :=
      Text.after?_eq_some.2 ha'
    rw [Text.after?_append_cons hc, Option.map_eq_some_iff] at hread
    obtain ⟨r', hr', rfl⟩ := hread
    obtain rfl := Text.after?_eq_some.1 hr'
    obtain ⟨p, hp⟩ := h
    rw [← ha', ← List.append_assoc] at hp
    exact .inr ⟨r', ⟨p, List.append_cancel_right hp⟩, rfl⟩

include hne hname hbefore hafter

/-- **No call that ends** is left. -/
theorem allOpen_replaceCalls (s : Text) : AllOpen name (replaceCalls name (between before after) s) := by
  refine replaceCalls_induct (P := fun _ u => AllOpen name u) ?nil ?keep ?call ?pass s
  case nil =>
    intro star r _ h
    simp [opening_append, word] at h
  case keep =>
    intro c s hnone ih star r hstar h
    rcases List.suffix_cons_iff.1 h with hhead | h
    · -- The name stood behind the backslash before, so the backslash would not have stayed alone.
      obtain ⟨rfl, hrest⟩ := List.cons.inj (show '\\' :: (name ++ (star ++ ['{']) ++ r) = _ from hhead)
      obtain ⟨s', rfl, -⟩ := exists_of_replaceCalls_eq_append hbefore.ne_nil (hbefore.head_ne hname hstar) hrest.symm
      rw [Text.after?_eq_none_iff] at hnone
      exact absurd ⟨star ++ ['{'] ++ s', by simp [word]⟩ hnone
    · exact ih star r hstar h
  case call =>
    intro star' t arg r' hstar' hcut harg hr star r hstar h
    rw [between, List.append_assoc, List.append_assoc] at h
    have hinside := opening_suffix_of_append hbefore.backslash_not_mem h
    rcases opening_suffix_append hname hstar hafter hinside with hbehind | ⟨t', ht, rfl⟩
    · exact hr star r hstar hbehind
    · -- What the argument became closes its groups as the argument did, so every call in it ends.
      have hread := read?_replaceCalls hne hname hbefore hafter (read?_of_cutGroup? hcut)
      exact absurd (harg star t' hstar ht) (cutArgument?_ne_none_of_opening hne hname hstar hread ht)
  case pass =>
    intro s hnone ih star r hstar h
    rcases List.suffix_cons_iff.1 (show _ <:+ '\\' :: (name ++ _) from h) with hhead | h
    · -- The call that was passed is still one without an end.
      rw [opening_append] at hhead
      have hrest := List.append_cancel_left (List.cons.inj hhead).2
      obtain ⟨s', rfl, rfl⟩ := exists_of_replaceCalls_eq_append hbefore.ne_nil (p := star ++ ['{']) (t := r)
        (fun c hc => hbefore.head_ne hname hstar c (List.mem_append_right _ hc)) (by simpa using hrest.symm)
      rw [List.append_assoc, List.singleton_append, argument?_eq hstar, cutArgument?_eq_none_iff] at hnone
      obtain ⟨g, hg⟩ := Option.isSome_iff_exists.1 hnone
      exact cutArgument?_eq_none_iff.2 (by simp [read?_replaceCalls hne hname hbefore hafter hg])
    · have hb : '\\' ∉ name := fun h => absurd (hname _ h) (by decide)
      exact ih star r hstar (opening_suffix_of_append hb h)

end

/-- **The replacement of calls is lossless and complete.** Calls that are replaced by themselves leave the text
as it was, if none is starred, and markup around their arguments leaves no call that ends, at any depth. -/
theorem replaceCalls_lossless_complete {name : Text} (hne : name ≠ [])
    (hname : ∀ c ∈ name, Text.isAsciiLetter c = true) (s : Text) :
    (¬word name ++ ['*', '{'] <:+: s → replaceCalls name (between (word name ++ ['{']) ['}']) s = s) ∧
      ∀ before after, IsMarkup before → IsMarkup after → AllOpen name (replaceCalls name (between before after) s) :=
  ⟨replaceCalls_self, fun _ _ hbefore hafter => allOpen_replaceCalls hne hname hbefore hafter s⟩

/-- A call in a call, between escaped braces, and one that does not end. -/
theorem replaceCalls_lossless_complete_nested :
    let name := "textbf".toList
    let s := "\\textbf\x7ba \\\x7b\\textbf\x7bb\x7d\\\x7d\x7d \\textbf\x7bc \x7bd\x7d".toList
    replaceCalls name (between (word name ++ ['{']) ['}']) s = s ∧
      AllOpen name (replaceCalls name (between "<b>".toList "</b>".toList) s) ∧
      replaceCalls name (between "<b>".toList "</b>".toList) s = "<b>a \\\x7b<b>b</b>\\\x7d</b> \\textbf\x7bc \x7bd\x7d".toList := by
  intro name s
  have h := @replaceCalls_lossless_complete name (by decide) (List.all_eq_true.1 (by decide)) s
  exact ⟨h.1 (by rw [← Text.contains_iff]; decide), h.2 _ _ (by decide) (by decide), by decide +kernel⟩

end Coursebook.Command
