/-
Solutions, headings and emphasis, as edits. A call is exchanged around its
argument: its name and opening brace for what stands in front of the
markup, its closing brace for what stands behind. So the argument stays
where it is, with all that it holds, and was lowered before.

Each pass changes a text exactly if a call with a whole argument, or a
closed environment, stands in it (`outcome_replaceCalls`,
`outcome_lowerSolutions`).
-/
import Coursebook.Proofs.Command.ListBlock

namespace Coursebook.Command

open Text (isBlankText)

/-! ## Solutions -/

def solutionOpening : Text := "\n\n<details class=\"solution\">\n<summary>Solution</summary>\n\n".toList

def solutionClosing : Text := "\n\n</details>\n\n".toList

theorem solutionBlock_eq (body : Text) : solutionBlock body = solutionOpening ++ (Text.trim body ++ solutionClosing) :=
  List.append_assoc _ _ _

theorem exchange_openSolution {b : Text} (hb : isBlankText b = true) :
    Exchange false (Environment.openTag solutionName ++ b) solutionOpening := by
  have hends : Ends (Environment.openTag solutionName) := ⟨Environment.beginMark ++ solutionName, '}', rfl, by decide⟩
  exact .of_ends_false (Plain.append (by decide) (plain_of_isBlankText hb)) (hends.append_blank hb) (by decide) (by decide)

theorem exchange_closeSolution {b : Text} (hb : isBlankText b = true) :
    Exchange false (b ++ Environment.closeTag solutionName) solutionClosing := by
  have hends : Ends (Environment.closeTag solutionName) := ⟨Environment.endMark ++ solutionName, '}', rfl, by decide⟩
  exact .of_ends_false ((plain_of_isBlankText hb).append (by decide)) (hends.append_left b) (by decide) (by decide)

theorem shrinks_solutionBlock (body : Text) :
    Shrinks false (Environment.openTag solutionName ++ (body ++ Environment.closeTag solutionName)) (solutionBlock body) := by
  have hopen := exchange_openSolution (Text.isBlankText_leadingBlank body)
  have hclose := exchange_closeSolution (Text.isBlankText_trailingBlank (Text.trimStart body))
  have hshrinks := (Shrinks.of_exchange hopen (by simp [Environment.openTag, Environment.beginMark])).append_right
    (Lowers.append (.refl (a := Text.trim body)) (.exchange hclose))
  have hbody : Environment.openTag solutionName ++ (body ++ Environment.closeTag solutionName) =
      (Environment.openTag solutionName ++ Text.leadingBlank body) ++
        (Text.trim body ++ (Text.trailingBlank (Text.trimStart body) ++ Environment.closeTag solutionName)) := by
    conv => lhs; rw [← Text.leading_trim_trailing body]
    simp only [List.append_assoc]
  rw [hbody, solutionBlock_eq]
  exact hshrinks

/-- The environment that is read at the head of a text. -/
def readSolution? (s : Text) : Option (Text × Text) := do
  let s ← Text.after? (Environment.openTag solutionName) s
  let (body, r) ← Text.cut? (Environment.closeTag solutionName) s
  return (solutionBlock body, r)

theorem lowerSolutions_eq : lowerSolutions = Text.replaceMatches readSolution? := rfl

theorem eq_of_readSolution? {s out r : Text} (h : readSolution? s = some (out, r)) : ∃ body,
    s = Environment.openTag solutionName ++ (body ++ Environment.closeTag solutionName) ++ r ∧ out = solutionBlock body := by
  simp only [readSolution?, Option.bind_eq_bind, Option.bind_eq_some_iff, Option.pure_def, Option.some.injEq,
    Prod.exists, Prod.mk.injEq] at h
  obtain ⟨t, hafter, body, r', hcut, rfl, rfl⟩ := h
  exact ⟨body, by simp [Text.after?_eq_some.1 hafter, Text.eq_of_cut? hcut], rfl⟩

theorem isClosedIn_iff_readSolution? {s : Text} :
    Environment.IsClosedIn solutionName s ↔ ∃ t, t <:+ s ∧ (readSolution? t).isSome := by
  have hread : ∀ t, (readSolution? t).isSome ↔ ∃ body r, t = Environment.openTag solutionName ++
      (body ++ (Environment.closeTag solutionName ++ r)) := by
    intro t
    rw [Environment.isSome_read_iff]
    constructor
    · intro h
      obtain ⟨p, hp⟩ := Option.isSome_iff_exists.1 h
      simp only [readSolution?, Option.bind_eq_bind, Option.bind_eq_some_iff, Prod.exists] at hp
      obtain ⟨t', hafter, body, r, hcut, -⟩ := hp
      exact ⟨t', body, r, hafter, hcut⟩
    · rintro ⟨t', body, r, hafter, hcut⟩
      simp [readSolution?, hafter, hcut]
  simp only [hread]
  constructor
  · rintro ⟨a, body, r, rfl⟩
    exact ⟨_, List.suffix_append a _, body, r, rfl⟩
  · rintro ⟨t, ⟨a, rfl⟩, body, r, rfl⟩
    exact ⟨a, body, r, rfl⟩

/-- **Solutions are lowered** if there are any. -/
theorem outcome_lowerSolutions (s : Text) :
    Outcome (Shrinks false) (Environment.IsClosedIn solutionName s) s (lowerSolutions s) := by
  have hout : ∀ {s out r r'}, readSolution? s = some (out, r) → Lowers false r r' → Shrinks false s (out ++ r') := by
    intro s out r r' h hr
    obtain ⟨body, rfl, rfl⟩ := eq_of_readSolution? h
    exact (shrinks_solutionBlock body).append_right hr
  rw [lowerSolutions_eq]
  refine (Outcome.replaceMatches rfl ?_ ?_ ?_ s).congr isClosedIn_iff_readSolution?.symm
  · intro c s out r h
    obtain ⟨body, hs, -⟩ := eq_of_readSolution? h
    refine Text.length_of_match hs ?_
    rw [List.length_append]
    exact Nat.add_pos_left (Environment.openTag_length_pos solutionName) _
  · exact fun c x y h => Shrinks.append_left (x := [c]) .refl h
  · rintro s out r r' h (rfl | hr)
    · exact hout h .refl
    · exact hout h hr.lowers

/-! ## Calls -/

/-- The name of a command: nothing in it means anything to the reader, and it starts with a letter. -/
def IsName (name : Text) : Prop := (Plain name ∧ '\\' ∉ name) ∧ name.head?.any Text.isAsciiLetter = true

instance : DecidablePred IsName := fun _ => inferInstanceAs (Decidable (_ ∧ _))

theorem IsName.plain {name : Text} (h : IsName name) : Plain name := h.1.1

theorem IsName.backslash_not_mem {name : Text} (h : IsName name) : '\\' ∉ name := h.1.2

theorem IsName.exists_cons {name : Text} (h : IsName name) : ∃ c u, name = c :: u ∧ Text.isAsciiLetter c = true := by
  cases name with
  | nil => exact absurd h.2 (by simp)
  | cons c u => exact ⟨c, u, rfl, h.2⟩

theorem argument?_eq {star : Text} (hstar : star = [] ∨ star = ['*']) (t : Text) :
    argument? (star ++ '{' :: t) = cutArgument? t := by
  rcases hstar with rfl | rfl <;> rfl

theorem exists_of_argument? {s arg r : Text} (h : argument? s = some (arg, r)) :
    ∃ star t, (star = [] ∨ star = ['*']) ∧ s = star ++ '{' :: t ∧ cutArgument? t = some (arg, r) := by
  unfold argument? at h
  split at h
  · next t ht =>
    have hs : ∃ star, (star = [] ∨ star = ['*']) ∧ s = star ++ dropStar s := by
      unfold dropStar
      split
      · exact ⟨['*'], .inr rfl, rfl⟩
      · exact ⟨[], .inl rfl, rfl⟩
    obtain ⟨star, hstar, hs⟩ := hs
    exact ⟨star, t, hstar, ht ▸ hs, h⟩
  · simp at h

/-- **A replacement, call by call.** A character stays if no call of the command can start at it, a call
with a whole argument is replaced, and without one its name stays. -/
theorem replaceCalls_induct {name : Text} {f : Text → Text} {P : Text → Text → Prop} (nil : P [] [])
    (keep : ∀ c s, Text.after? (word name) (c :: s) = none → P s (replaceCalls name f s) →
      P (c :: s) (c :: replaceCalls name f s))
    (call : ∀ star t arg r, star = [] ∨ star = ['*'] → cutArgument? t = some (arg, r) →
      P arg (replaceCalls name f arg) → P r (replaceCalls name f r) →
      P (word name ++ (star ++ '{' :: t)) (f (replaceCalls name f arg) ++ replaceCalls name f r))
    (pass : ∀ s, argument? s = none → P s (replaceCalls name f s) →
      P (word name ++ s) (word name ++ replaceCalls name f s)) (s : Text) : P s (replaceCalls name f s) := by
  fun_induction replaceCalls name f s with
  | case1 => exact nil
  | case2 c s hnone ih => exact keep c s hnone ih
  | case3 c s behind hsome arg r harg ih₁ ih₂ =>
    obtain ⟨star, t, hstar, rfl, hcut⟩ := exists_of_argument? harg
    rw [Text.after?_eq_some.1 hsome]
    exact call star t arg r hstar hcut ih₁ ih₂
  | case4 c s behind hsome hnone ih =>
    rw [Text.after?_eq_some.1 hsome]
    exact pass behind hnone ih

/-- Whether a command of this name stands in a text with a whole argument behind it. -/
def HasCall (name s : Text) : Prop := ∃ t, word name ++ t <:+ s ∧ (argument? t).isSome

/-- A control word does not start inside of another one's name. -/
theorem word_suffix_append {name u s t : Text} (hname : '\\' ∉ name) (h : word u ++ t <:+ name ++ s) :
    word u ++ t <:+ s := by
  induction name with
  | nil => exact h
  | cons c name ih =>
    rw [List.mem_cons, not_or] at hname
    rw [List.cons_append, List.suffix_cons_iff] at h
    rcases h with h | h
    · exact absurd (List.cons.inj h).1 hname.1
    · exact ih hname.2 h

theorem hasCall_cons {name s : Text} {c : Char} (h : Text.after? (word name) (c :: s) = none) :
    HasCall name (c :: s) ↔ HasCall name s := by
  constructor
  · rintro ⟨t, ht, harg⟩
    rw [List.suffix_cons_iff] at ht
    rcases ht with ht | ht
    · rw [← ht, Text.after?_append] at h
      simp at h
    · exact ⟨t, ht, harg⟩
  · rintro ⟨t, ht, harg⟩
    exact ⟨t, ht.trans (List.suffix_cons c s), harg⟩

theorem hasCall_word {name s : Text} (hname : '\\' ∉ name) (h : argument? s = none) :
    HasCall name (word name ++ s) ↔ HasCall name s := by
  constructor
  · rintro ⟨t, ht, harg⟩
    rcases List.suffix_cons_iff.1 (show word name ++ t <:+ '\\' :: (name ++ s) from ht) with ht | ht
    · obtain rfl := List.append_cancel_left (List.cons.inj ht).2
      simp [h] at harg
    · exact ⟨t, word_suffix_append hname ht, harg⟩
  · rintro ⟨t, ht, harg⟩
    exact ⟨t, ht.trans (List.suffix_append _ _), harg⟩

/-- **A command is lowered** where it is called, if its calls are. -/
theorem outcome_replaceCalls {name : Text} {f : Text → Text} (hname : IsName name)
    (hf : ∀ {star : Text} (arg : Text), star = [] ∨ star = ['*'] →
      Shrinks false (word name ++ (star ++ '{' :: (arg ++ ['}']))) (f arg)) (s : Text) :
    Outcome (Shrinks false) (HasCall name s) s (replaceCalls name f s) := by
  refine replaceCalls_induct (P := fun s u => Outcome (Shrinks false) (HasCall name s) s u) ?nil ?keep ?call ?pass s
  case nil => exact .inl ⟨by rintro ⟨t, ht, -⟩; simp [word] at ht, rfl⟩
  case keep =>
    intro c s hnone ih
    have hiff := hasCall_cons hnone
    rcases ih with ⟨hasked, heq⟩ | ⟨hasked, h⟩
    · exact .inl ⟨mt hiff.1 hasked, congrArg (c :: ·) heq⟩
    · exact .inr ⟨hiff.2 hasked, Shrinks.append_left (x := [c]) .refl h⟩
  case call =>
    intro star t arg r hstar hcut ih₁ ih₂
    refine .inr ⟨⟨_, List.suffix_rfl, by simp [argument?_eq hstar, hcut]⟩, ?_⟩
    -- The argument is lowered first, so that the call around it is one of what it became.
    have hinside : Lowers false (word name ++ (star ++ '{' :: (arg ++ ['}'])))
        (word name ++ (star ++ '{' :: (replaceCalls name f arg ++ ['}']))) := by
      have := ih₁.lowers.context (word name ++ (star ++ ['{'])) ['}']
      simpa using this
    have hcall := (hf (replaceCalls name f arg) hstar).append_right ih₂.lowers
    rw [eq_of_cutGroup? hcut]
    have := Shrinks.of_lowers (hinside.append .refl) hcall
    simpa using this
  case pass =>
    intro s hnone ih
    have hiff := hasCall_word hname.backslash_not_mem hnone
    rcases ih with ⟨hasked, heq⟩ | ⟨hasked, h⟩
    · exact .inl ⟨mt hiff.1 hasked, congrArg (word name ++ ·) heq⟩
    · exact .inr ⟨hiff.2 hasked, Shrinks.append_left .refl h⟩

/-- The opening of a call. -/
def opening (name star : Text) : Text := word name ++ (star ++ ['{'])

theorem opening_append (name star r : Text) : opening name star ++ r = word name ++ (star ++ '{' :: r) := by
  simp [opening]

/-- A call does not start inside of a text without a backslash. -/
theorem opening_suffix_of_append {name star v r s : Text} (hv : '\\' ∉ v) (h : opening name star ++ r <:+ v ++ s) :
    opening name star ++ r <:+ s := by
  rw [opening_append] at h ⊢
  exact word_suffix_append hv h

section

variable {name star : Text} (hname : IsName name) (hstar : star = [] ∨ star = ['*'])
include hname hstar

theorem plain_opening : Plain (opening name star) := by
  have hword : Plain (word name) := Plain.append (w := ['\\']) (by decide) hname.plain
  refine hword.append (Plain.append ?_ (by decide))
  rcases hstar with rfl | rfl <;> decide

/-- The opening of a call, with white space behind it, is exchanged for markup. -/
theorem shrinks_opening {b v : Text} (hb : isBlankText b = true) (hv : Inert v) (hne : v ≠ []) :
    Shrinks false (opening name star ++ b) v := by
  have hends : Ends (opening name star) := ⟨word name ++ star, '{', by simp [opening], by decide⟩
  refine .of_exchange (.of_ends_false ((plain_opening hname hstar).append (plain_of_isBlankText hb))
    (hends.append_blank hb) hv hne) ?_
  simp [opening, word]

/-- A call with nothing but white space inside is exchanged as a whole. -/
theorem shrinks_call {b v : Text} (hb : isBlankText b = true) (hv : Inert v) (hne : v ≠ []) :
    Shrinks false (opening name star ++ (b ++ ['}'])) v := by
  have hplain : Plain (opening name star ++ (b ++ ['}'])) :=
    (plain_opening hname hstar).append ((plain_of_isBlankText hb).append (by decide))
  have hends : Ends (opening name star ++ (b ++ ['}'])) := ⟨opening name star ++ b, '}', by simp, by decide⟩
  exact .of_exchange (.of_ends_false hplain hends hv hne) (by simp [opening, word])

/-- A call with nothing inside may go. -/
theorem shrinks_hollow : Shrinks false (opening name star ++ ['}']) [] where
  lowers := by
    have hhollow : Hollow (opening name star ++ ['}']) := by
      obtain ⟨c, u, rfl, hc⟩ := hname.exists_cons
      refine ⟨⟨c, u ++ (star ++ ['{']) ++ ['}'], by simp [opening, word], hc⟩,
        (plain_opening hname hstar).append (by decide), ⟨_, '}', rfl, by decide⟩, fun p => ?_⟩
      have hopened : (p.after (opening (c :: u) star)).opened = true := by
        rw [opening, ← List.append_assoc, Place.after_append]
        rfl
      rw [Place.seen_append]
      simp [Place.seen, Place.hollow_mem_marks_iff, hopened]
    have := Edit.dropHollow [] [] rfl hhollow
    simpa using Relation.ReflTransGen.single this
  count_lt := by simp [opening, word]

end

/-! ## Headings -/

/-- **Collapsing white space** is to exchange each piece of it, but those at the ends. -/
theorem respaces_collapseBlank (s : Text) : Respaces (Text.trim s) (Text.collapseBlank s) := by
  unfold Text.collapseBlank
  fun_induction Text.words s with
  | case1 s h =>
    rw [Text.trim, h]
    exact .refl
  | case2 s c r h ih =>
    have hc : Text.isBlank c = false := Text.isBlank_of_trimStart h
    have hr : r = r.takeWhile (!Text.isBlank ·) ++ r.dropWhile (!Text.isBlank ·) := List.takeWhile_append_dropWhile.symm
    have hword : ∀ d ∈ c :: r.takeWhile (!Text.isBlank ·), Text.isBlank d = false := by
      intro d hd
      rcases List.mem_cons.1 hd with rfl | hd
      · exact hc
      · simpa using List.all_eq_true.1 List.all_takeWhile d hd
    have hbehind : ∀ d t, r.dropWhile (!Text.isBlank ·) = d :: t → Text.isBlank d = true := by
      intro d t hd
      have := List.head?_dropWhile_not (!Text.isBlank ·) r
      rw [hd] at this
      simpa using this
    rw [Text.trim, h]
    conv => lhs; rw [hr, ← List.cons_append]
    generalize c :: r.takeWhile (!Text.isBlank ·) = w at hword
    generalize r.dropWhile (!Text.isBlank ·) = rest at ih hbehind
    cases hblank : isBlankText rest with
    | true =>
      rw [Text.trimEnd_word_append hword hblank, Text.words_eq_nil_iff.2 hblank]
      exact .refl
    | false =>
      have hne : Text.trimEnd rest ≠ [] := by simp [Text.trimEnd_eq_nil_iff, hblank]
      have hwords : Text.words rest ≠ [] := by simp [Text.words_eq_nil_iff, hblank]
      obtain ⟨v, vs, hvs⟩ := List.exists_cons_of_ne_nil hwords
      have hjoin : Text.join [' '] (w :: Text.words rest) = w ++ ([' '] ++ Text.join [' '] (Text.words rest)) := by
        rw [hvs]
        simp [Text.join]
      have hlead : Text.leadingBlank rest ≠ [] := by
        cases rest with
        | nil => simp [isBlankText] at hblank
        | cons d t => simp [Text.leadingBlank, hbehind d t rfl]
      rw [Text.trimEnd_append hne, Text.trimEnd_eq_append_trim hblank, hjoin]
      have hgap : Respaces (Text.leadingBlank rest) [' '] :=
        .blank (Text.isBlankText_leadingBlank rest) (by decide) hlead (by simp)
      exact Respaces.append .refl (hgap.append ih)

/-- **A heading** keeps its title, with other white space. -/
theorem shrinks_headingBlock {name star : Text} (hname : IsName name) (hstar : star = [] ∨ star = ['*']) (level : Nat)
    (title : Text) :
    Shrinks false (word name ++ (star ++ '{' :: (title ++ ['}']))) (headingBlock level title) := by
  have hmarks : Inert (['\n', '\n'] ++ (List.replicate level '#' ++ [' '])) :=
    Inert.append (by decide) (Inert.append (inert_replicate (by decide) level) (by decide))
  have hopen := shrinks_opening hname hstar (Text.isBlankText_leadingBlank title) hmarks (by simp)
  have htrail := Text.isBlankText_trailingBlank (Text.trimStart title)
  have hclose : Exchange false (Text.trailingBlank (Text.trimStart title) ++ ['}']) ['\n', '\n'] :=
    .of_ends_false ((plain_of_isBlankText htrail).append (by decide)) ⟨_, '}', rfl, by decide⟩ (by decide) (by simp)
  have hshrinks := hopen.append_right (((respaces_collapseBlank title).lowers false).append (.exchange hclose))
  have hx : word name ++ (star ++ '{' :: (title ++ ['}'])) = (opening name star ++ Text.leadingBlank title) ++
      (Text.trim title ++ (Text.trailingBlank (Text.trimStart title) ++ ['}'])) := by
    conv => lhs; rw [← Text.leading_trim_trailing title]
    simp [opening]
  have hy : headingBlock level title =
      ['\n', '\n'] ++ (List.replicate level '#' ++ [' ']) ++ (Text.collapseBlank title ++ ['\n', '\n']) := by
    simp [headingBlock]
  rw [hx, hy]
  exact hshrinks

/-- Whether a heading command is called in a text. -/
def HasHeading (s : Text) : Prop := ∃ h ∈ headingLevels, HasCall h.1 s

theorem outcome_lowerHeadings (s : Text) : Outcome (Shrinks false) (HasHeading s) s (lowerHeadings s) := by
  have hnames : ∀ h ∈ headingLevels, IsName h.1 := by decide
  refine Outcome.foldl (fun s (h : Text × Nat) => replaceCalls h.1 (headingBlock h.2) s) (fun h hh s => ?_) s
  have hname := hnames h hh
  exact outcome_replaceCalls hname (fun title hstar => shrinks_headingBlock hname hstar h.2 title) s

/-! ## Emphasis -/

/-- **Emphasis** keeps its argument, and the white space around it. -/
theorem shrinks_emphasize {name star before after : Text} (hname : IsName name) (hstar : star = [] ∨ star = ['*'])
    (hbefore : Inert before ∧ before ≠ []) (hafter : Inert after ∧ after ≠ []) (arg : Text) :
    Shrinks false (word name ++ (star ++ '{' :: (arg ++ ['}']))) (emphasize before after arg) := by
  have hx : word name ++ (star ++ '{' :: (arg ++ ['}'])) = opening name star ++ (arg ++ ['}']) := by simp [opening]
  rw [hx, emphasize]
  split
  · next htrim =>
    have hblank := Text.trim_eq_nil_iff.1 htrim
    cases arg with
    | nil => exact shrinks_hollow hname hstar
    | cons c arg => exact shrinks_call hname hstar hblank (inert_of_isBlankText hblank) (by simp)
  · next htrim =>
    have hblank : isBlankText arg = false := by rwa [← Bool.not_eq_true, ← Text.trim_eq_nil_iff]
    have hlead := Text.isBlankText_leadingBlank arg
    have htrail := Text.isBlankText_trailingBlank arg
    have hopen : Shrinks false (opening name star ++ Text.leadingBlank arg) (Text.leadingBlank arg ++ before) :=
      shrinks_opening hname hstar hlead ((inert_of_isBlankText hlead).append hbefore.1)
        (by simp [hbefore.2])
    have hends : Ends (Text.trailingBlank arg ++ ['}']) := ⟨_, '}', rfl, by decide⟩
    have hclose : Exchange false (Text.trailingBlank arg ++ ['}']) (after ++ Text.trailingBlank arg) :=
      .of_ends_false ((plain_of_isBlankText htrail).append (by decide)) hends
        (hafter.1.append (inert_of_isBlankText htrail)) (by simp [hafter.2])
    have hshrinks := hopen.append_right (Lowers.append (.refl (a := Text.trim arg)) (.exchange hclose))
    have harg : arg ++ ['}'] = Text.leadingBlank arg ++ (Text.trim arg ++ (Text.trailingBlank arg ++ ['}'])) := by
      conv => lhs; rw [← Text.trimEnd_append_trailingBlank arg, Text.trimEnd_eq_append_trim hblank]
      simp
    conv => lhs; rw [harg]
    simpa using hshrinks

/-- Whether an emphasis command is called in a text. -/
def HasEmphasis (s : Text) : Prop := ∃ e ∈ emphasisMarkup, HasCall e.1 s

theorem outcome_lowerEmphasis (s : Text) : Outcome (Shrinks false) (HasEmphasis s) s (lowerEmphasis s) := by
  have htable : ∀ e ∈ emphasisMarkup, IsName e.1 ∧ (Inert e.2.1 ∧ e.2.1 ≠ []) ∧ Inert e.2.2 ∧ e.2.2 ≠ [] := by decide
  refine Outcome.foldl (fun s (e : Text × Text × Text) => replaceCalls e.1 (emphasize e.2.1 e.2.2) s) (fun e he s => ?_) s
  obtain ⟨hname, hbefore, hafter⟩ := htable e he
  exact outcome_replaceCalls hname (fun arg hstar => shrinks_emphasize hname hstar hbefore hafter arg) s

end Coursebook.Command
