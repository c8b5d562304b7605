/-
Nested environments. The closing tag that ends an environment is found by
reading a text from the left, with the number of environments that are open
on the way. There are two other accounts of that tag.

By counting: it is the first closing tag such that as many tags of its name
open as close between the start of the body and there (`answers_cutBody?`).
The tags of a name without a backslash have one backslash only, so no tag
starts inside of another one, and a step of the reader moves the count by the
tag that it reads (`Step.passes`).

By searching: from a place in the text, look for the next closing tag and for
the next opening tag, and go on behind the nearer one (`Rounds`). The search
comes to an end on every text, and its answer is the same
(`rounds_cutBody?`, `Rounds.unique`).
-/
import Coursebook.Proofs.Math.Environment
import Mathlib.Order.Bounds.Basic

namespace Coursebook.Text

/-- How often a needle occurs in a text: the places at which it starts and is complete. -/
def occurrences (needle : Text) : Text → Nat
  | [] => 0
  | c :: s => (if startsWith needle (c :: s) then 1 else 0) + occurrences needle s

theorem occurrences_cons_of_not_prefix {needle s : Text} {c : Char} (h : ¬needle <+: c :: s) :
    occurrences needle (c :: s) = occurrences needle s := by
  rw [occurrences, if_neg (mt startsWith_iff.1 h), Nat.zero_add]

/-- No needle starts in a stretch without the first character of the needle. -/
theorem occurrences_append_of_not_mem {needle w : Text} {c : Char} (hneedle : needle.head? = some c) (hw : c ∉ w)
    (s : Text) : occurrences needle (w ++ s) = occurrences needle s := by
  obtain ⟨needle, rfl⟩ := List.head?_eq_some_iff.1 hneedle
  induction w with
  | nil => rfl
  | cons d w ih =>
    obtain ⟨hd, hw⟩ := not_or.1 (mt List.mem_cons.2 hw)
    rw [List.cons_append, occurrences_cons_of_not_prefix fun hp => hd (List.cons_prefix_cons.1 hp).1, ih hw]

/-- In a stretch whose first character alone may be that of the needle, the needle starts there or nowhere. -/
theorem occurrences_append {needle w : Text} {c : Char} (hneedle : needle.head? = some c) (hne : w ≠ [])
    (hw : c ∉ w.tail) (s : Text) :
    occurrences needle (w ++ s) = (if startsWith needle (w ++ s) then 1 else 0) + occurrences needle s := by
  obtain ⟨d, w, rfl⟩ := List.exists_cons_of_ne_nil hne
  rw [List.tail_cons] at hw
  rw [List.cons_append, occurrences, occurrences_append_of_not_mem hneedle hw]

end Coursebook.Text

namespace Coursebook.Environment

open Text (occurrences)

variable {name : Text}

/-! ## Counting tags -/

/-- Whether a closing tag starts at position `i` of a text, and the tags in front of it close `depth`
environments more than they open. -/
structure Ends (name : Text) (depth : Nat) (s : Text) (i : Nat) : Prop where
  tag : closeTag name <+: s.drop i
  balance : depth + occurrences (openTag name) (s.take i) = occurrences (closeTag name) (s.take i)

/-- A stretch in which no environment ends, and behind which `depth'` of them are open instead of `depth`. -/
structure Passes (name : Text) (depth : Nat) (w r : Text) (depth' : Nat) : Prop where
  inside : ∀ i < w.length, ¬Ends name depth (w ++ r) i
  behind : ∀ i, Ends name depth (w ++ r) (w.length + i) ↔ Ends name depth' r i

namespace Passes

variable {depth depth' : Nat} {w r : Text}

theorem not_ends (h : Passes name depth w r depth') (hr : ∀ i, ¬Ends name depth' r i) (i : Nat) :
    ¬Ends name depth (w ++ r) i := by
  rcases Nat.lt_or_ge i w.length with hlt | hge
  · exact h.inside i hlt
  · obtain ⟨j, rfl⟩ := Nat.exists_eq_add_of_le hge
    rw [h.behind]
    exact hr j

theorem isLeast (h : Passes name depth w r depth') {i : Nat} (hr : IsLeast {i | Ends name depth' r i} i) :
    IsLeast {i | Ends name depth (w ++ r) i} (w.length + i) := by
  refine ⟨(h.behind i).2 hr.1, fun j hj => ?_⟩
  have hge : w.length ≤ j := Nat.le_of_not_lt fun hlt => h.inside j hlt hj
  obtain ⟨k, rfl⟩ := Nat.exists_eq_add_of_le hge
  exact Nat.add_le_add_left (hr.2 ((h.behind k).1 hj)) _

/-- A stretch with no backslash but its first character is passed by counting its tags. -/
theorem intro {o k : Nat} (hw : '\\' ∉ w.tail) (hfirst : ¬Ends name depth (w ++ r) 0)
    (hopen : ∀ t, t <+: r → occurrences (openTag name) (w ++ t) = o + occurrences (openTag name) t)
    (hclose : ∀ t, t <+: r → occurrences (closeTag name) (w ++ t) = k + occurrences (closeTag name) t)
    (hdepth : depth + o = depth' + k) : Passes name depth w r depth' where
  inside i hi hends := by
    cases i with
    | zero => exact hfirst hends
    | succ i =>
      have htag := hends.tag
      rw [List.drop_append_of_le_length (Nat.le_of_lt hi), List.drop_eq_getElem_cons hi, closeTag_eq] at htag
      have hbackslash : '\\' = w[i + 1] := (List.cons_prefix_cons.1 htag).1
      rw [← List.getElem_tail (by rw [List.length_tail]; omega)] at hbackslash
      exact hw (hbackslash ▸ List.getElem_mem _)
  behind i := by
    have hdrop : (w ++ r).drop (w.length + i) = r.drop i := List.drop_length_add_append i
    have htake : (w ++ r).take (w.length + i) = w ++ r.take i := List.take_length_add_append i
    constructor
    · rintro ⟨htag, hbalance⟩
      rw [hdrop] at htag
      rw [htake, hopen _ (List.take_prefix i r), hclose _ (List.take_prefix i r)] at hbalance
      exact ⟨htag, by omega⟩
    · rintro ⟨htag, hbalance⟩
      refine ⟨by rwa [hdrop], ?_⟩
      rw [htake, hopen _ (List.take_prefix i r), hclose _ (List.take_prefix i r)]
      omega

end Passes

/-! ## Steps of the reader -/

/-- What is read at once from the head of a text, with the number of environments that are open in front of it and
behind it: a tag, or a character at which no tag starts. -/
inductive Step (name : Text) : Nat → Text → Text → Nat → Prop where
  | leave (depth : Nat) (r : Text) : Step name (depth + 1) (closeTag name) r depth
  | enter (depth : Nat) (r : Text) : Step name depth (openTag name) r (depth + 1)
  | char (depth : Nat) {c : Char} {r : Text} (hclose : ¬closeTag name <+: c :: r) (hopen : ¬openTag name <+: c :: r) :
    Step name depth [c] r depth

/-- Cutting goes from left to right, step by step, up to the closing tag behind which nothing is open. -/
theorem cutBody?_induct {Q : Nat → Text → Option (Text × Text) → Prop} (nil : ∀ depth, Q depth [] none)
    (stop : ∀ r, Q 0 (closeTag name ++ r) (some ([], r)))
    (step : ∀ {depth depth' w r found}, Step name depth w r depth' → Q depth' r found →
      Q depth (w ++ r) (found.map fun (body, after) => (w ++ body, after)))
    (depth : Nat) (s : Text) : Q depth s (cutBody? name depth s) := by
  fun_induction cutBody? name depth s with
  | case1 depth => exact nil depth
  | case2 c s r hclose =>
    rw [Text.after?_eq_some.1 hclose]
    exact stop r
  | case3 c s r hclose depth ih =>
    rw [Text.after?_eq_some.1 hclose]
    exact step (.leave depth r) ih
  | case4 depth c s hclose r hopen ih =>
    rw [Text.after?_eq_some.1 hopen]
    exact step (.enter depth r) ih
  | case5 depth c s hclose hopen ih =>
    exact step (.char depth (Text.after?_eq_none_iff.1 hclose) (Text.after?_eq_none_iff.1 hopen)) ih

theorem openTag_not_prefix_append (name t : Text) : ¬openTag name <+: closeTag name ++ t := by
  simp [openTag, closeTag, beginMark, endMark, List.cons_prefix_cons]

theorem closeTag_not_prefix_append (name t : Text) : ¬closeTag name <+: openTag name ++ t := by
  simp [openTag, closeTag, beginMark, endMark, List.cons_prefix_cons]

/-- **A step passes what it reads.** -/
theorem Step.passes (hname : '\\' ∉ name) {depth depth' : Nat} {w r : Text} (h : Step name depth w r depth') :
    Passes name depth w r depth' := by
  have hopenTag : '\\' ∉ (openTag name).tail := by simp [openTag, beginMark, hname]
  have hcloseTag : '\\' ∉ (closeTag name).tail := by simp [closeTag, endMark, hname]
  cases h with
  | leave =>
    refine Passes.intro (o := 0) (k := 1) hcloseTag (fun hends => ?_) (fun t _ => ?_) (fun t _ => ?_) rfl
    · exact absurd hends.balance (by simp [occurrences])
    · rw [Text.occurrences_append rfl (by simp [closeTag]) hcloseTag,
        if_neg (mt Text.startsWith_iff.1 (openTag_not_prefix_append name t))]
    · rw [Text.occurrences_append rfl (by simp [closeTag]) hcloseTag,
        if_pos (Text.startsWith_iff.2 (List.prefix_append _ t))]
  | enter =>
    refine Passes.intro (o := 1) (k := 0) hopenTag (fun hends => ?_) (fun t _ => ?_) (fun t _ => ?_) rfl
    · exact closeTag_not_prefix_append name r hends.tag
    · rw [Text.occurrences_append rfl (by simp [openTag]) hopenTag,
        if_pos (Text.startsWith_iff.2 (List.prefix_append _ t))]
    · rw [Text.occurrences_append rfl (by simp [openTag]) hopenTag,
        if_neg (mt Text.startsWith_iff.1 (closeTag_not_prefix_append name t))]
  | @char _ c _ hclose hopen =>
    have hnone : ∀ {tag t : Text}, ¬tag <+: c :: r → t <+: r → occurrences tag ([c] ++ t) = 0 + occurrences tag t := by
      intro tag t htag ht
      have hcons : c :: t <+: c :: r := List.cons_prefix_cons.2 ⟨rfl, ht⟩
      rw [List.singleton_append, Nat.zero_add, Text.occurrences_cons_of_not_prefix fun hp => htag (hp.trans hcons)]
    exact Passes.intro (o := 0) (k := 0) List.not_mem_nil (fun hends => hclose hends.tag) (fun _ => hnone hopen)
      (fun _ => hnone hclose) rfl

/-! ## Where an environment ends -/

/-- What a cut has to say of the tags of a text. -/
def Answers (name : Text) (depth : Nat) (s : Text) : Option (Text × Text) → Prop
  | none => ∀ i, ¬Ends name depth s i
  | some (body, after) => s = body ++ closeTag name ++ after ∧ IsLeast {i | Ends name depth s i} body.length

theorem not_ends_nil (depth i : Nat) : ¬Ends name depth [] i := by
  intro hends
  have htag := hends.tag
  rw [List.drop_nil, List.prefix_nil] at htag
  exact absurd htag (by simp [closeTag])

theorem Answers.step (hname : '\\' ∉ name) {depth depth' : Nat} {w r : Text} {found : Option (Text × Text)}
    (hstep : Step name depth w r depth') (h : Answers name depth' r found) :
    Answers name depth (w ++ r) (found.map fun (body, after) => (w ++ body, after)) := by
  cases found with
  | none => exact (hstep.passes hname).not_ends h
  | some cut =>
    obtain ⟨body, after⟩ := cut
    obtain ⟨rfl, hleast⟩ := h
    refine ⟨by simp, ?_⟩
    rw [List.length_append]
    exact (hstep.passes hname).isLeast hleast

/-- **The body ends at the first closing tag** behind which nothing is open, if there is one. -/
theorem answers_cutBody? (hname : '\\' ∉ name) (depth : Nat) (s : Text) :
    Answers name depth s (cutBody? name depth s) := by
  refine cutBody?_induct (Q := Answers name) not_ends_nil (fun r => ?_) (Answers.step hname) depth s
  have hends : Ends name 0 (closeTag name ++ r) 0 := ⟨List.prefix_append _ r, rfl⟩
  exact ⟨rfl, hends, fun i _ => Nat.zero_le i⟩

/-! ## Searching for tags -/

/-- The search for the end of an environment, round by round. A round looks for the next closing tag and for the
next opening tag, each on its own. Without a closing tag nothing is found. Otherwise the nearer one of the two
counts, and the search goes on behind it, or it is the tag that was looked for. -/
inductive Rounds (name : Text) : Nat → Text → Option (Text × Text) → Prop where
  | missing {depth : Nat} {s : Text} (hclose : Text.cut? (closeTag name) s = none) : Rounds name depth s none
  | enter {depth : Nat} {s a b r r' : Text} {found : Option (Text × Text)}
    (hclose : Text.cut? (closeTag name) s = some (b, r')) (hopen : Text.cut? (openTag name) s = some (a, r))
    (hnear : a.length < b.length) (hrest : Rounds name (depth + 1) r found) :
    Rounds name depth s (found.map fun (body, after) => (a ++ openTag name ++ body, after))
  | leave {depth : Nat} {s b r : Text} {found : Option (Text × Text)}
    (hclose : Text.cut? (closeTag name) s = some (b, r))
    (hnear : ∀ a r', Text.cut? (openTag name) s = some (a, r') → b.length ≤ a.length)
    (hrest : Rounds name depth r found) :
    Rounds name (depth + 1) s (found.map fun (body, after) => (b ++ closeTag name ++ body, after))
  | stop {s b r : Text} (hclose : Text.cut? (closeTag name) s = some (b, r))
    (hnear : ∀ a r', Text.cut? (openTag name) s = some (a, r') → b.length ≤ a.length) :
    Rounds name 0 s (some (b, r))

namespace Rounds

variable {depth : Nat} {s : Text} {found found' : Option (Text × Text)}

/-- Without a closing tag the first round is the last. -/
theorem eq_none (h : Rounds name depth s found) (hclose : Text.cut? (closeTag name) s = none) : found = none := by
  cases h with
  | missing => rfl
  | enter hclose' | leave hclose' | stop hclose' =>
    rw [hclose] at hclose'
    cases hclose'

/-- The search has one answer. -/
theorem unique (h : Rounds name depth s found) (h' : Rounds name depth s found') : found = found' := by
  -- What a round finds next decides which of the four it is.
  induction h generalizing found' with
  | missing hclose => exact (h'.eq_none hclose).symm
  | enter hclose hopen hnear _ ih =>
    cases h' with
    | missing hclose' => cases hclose.symm.trans hclose'
    | enter _ hopen' _ hrest' =>
      cases hopen.symm.trans hopen'
      rw [ih hrest']
    | leave hclose' hnear' | stop hclose' hnear' =>
      cases hclose.symm.trans hclose'
      exact absurd (hnear' _ _ hopen) (Nat.not_le_of_lt hnear)
  | leave hclose hnear _ ih =>
    cases h' with
    | missing hclose' => cases hclose.symm.trans hclose'
    | enter hclose' hopen' hnear' =>
      cases hclose.symm.trans hclose'
      exact absurd (hnear _ _ hopen') (Nat.not_le_of_lt hnear')
    | leave hclose' _ hrest' =>
      cases hclose.symm.trans hclose'
      rw [ih hrest']
  | stop hclose hnear =>
    cases h' with
    | missing hclose' => cases hclose.symm.trans hclose'
    | enter hclose' hopen' hnear' =>
      cases hclose.symm.trans hclose'
      exact absurd (hnear _ _ hopen') (Nat.not_le_of_lt hnear')
    | stop hclose' => exact hclose.symm.trans hclose'

/-- A character at which no tag starts is passed over by both searches of a round. -/
theorem cons {c : Char} (hcloseTag : ¬closeTag name <+: c :: s) (hopenTag : ¬openTag name <+: c :: s)
    (h : Rounds name depth s found) :
    Rounds name depth (c :: s) (found.map fun (body, after) => (c :: body, after)) := by
  have hcut : ∀ {needle}, ¬needle <+: c :: s →
      Text.cut? needle (c :: s) = (Text.cut? needle s).map fun (before, r) => (c :: before, r) := by
    intro needle hneedle
    rw [Text.cut?, Text.after?_eq_none_iff.2 hneedle]
  have hfar : ∀ {b : Text}, (∀ a r', Text.cut? (openTag name) s = some (a, r') → b.length ≤ a.length) →
      ∀ a r', Text.cut? (openTag name) (c :: s) = some (a, r') → (c :: b).length ≤ a.length := by
    intro b hnear a r' hopen
    rw [hcut hopenTag] at hopen
    obtain ⟨⟨a', r''⟩, hopen', heq⟩ := Option.map_eq_some_iff.1 hopen
    cases heq
    exact Nat.succ_le_succ (hnear _ _ hopen')
  cases h with
  | missing hclose => exact .missing (by rw [hcut hcloseTag, hclose]; rfl)
  | @enter _ _ a b r r' found hclose hopen hnear hrest =>
    have hclose' : Text.cut? (closeTag name) (c :: s) = some (c :: b, r') := by rw [hcut hcloseTag, hclose]; rfl
    have hopen' : Text.cut? (openTag name) (c :: s) = some (c :: a, r) := by rw [hcut hopenTag, hopen]; rfl
    rw [Option.map_map]
    exact .enter hclose' hopen' (Nat.succ_lt_succ hnear) hrest
  | @leave _ _ b r found hclose hnear hrest =>
    have hclose' : Text.cut? (closeTag name) (c :: s) = some (c :: b, r) := by rw [hcut hcloseTag, hclose]; rfl
    rw [Option.map_map]
    exact .leave hclose' (hfar hnear) hrest
  | stop hclose hnear => exact .stop (by rw [hcut hcloseTag, hclose]; rfl) (hfar hnear)

end Rounds

/-- **The search comes to an end**, with the answer of the reader. -/
theorem rounds_cutBody? (name : Text) (depth : Nat) (s : Text) : Rounds name depth s (cutBody? name depth s) := by
  refine cutBody?_induct (Q := Rounds name) (fun depth => ?_) (fun r => ?_)
    (fun {depth depth' w r found} hstep ih => ?_) depth s
  · exact .missing (by simp [Text.cut?, closeTag])
  · exact .stop (Text.cut?_self_append _ r) fun _ _ _ => Nat.zero_le _
  · cases hstep with
    | leave => exact .leave (Text.cut?_self_append _ r) (fun _ _ _ => Nat.zero_le _) ih
    | enter =>
      have hopen := Text.cut?_self_append (openTag name) r
      cases hclose : Text.cut? (closeTag name) (openTag name ++ r) with
      | none =>
        have hrest : Text.cut? (closeTag name) r = none :=
          Text.cut?_eq_none_iff.2 fun hi => Text.cut?_eq_none_iff.1 hclose (hi.trans (List.suffix_append _ r).isInfix)
        rw [ih.eq_none hrest]
        exact .missing hclose
      | some cut =>
        obtain ⟨b, r'⟩ := cut
        refine .enter hclose hopen (List.length_pos_iff.2 fun hb => ?_) ih
        have heq := Text.eq_of_cut? hclose
        rw [hb, List.nil_append] at heq
        exact closeTag_not_prefix_append name r (heq ▸ List.prefix_append _ r')
    | char _ hclose hopen => exact ih.cons hclose hopen

/-! ## Positions -/

/-- The position of the closing tag that ends the environment whose body starts at `start`, and the position behind
it. -/
def bodyEnd? (name s : Text) (start : Nat) : Option (Nat × Nat) :=
  (cut? name (s.drop start)).map fun (body, after) => (start + body.length, s.length - after.length)

/-- Whether a closing tag starts at position `e`, and between `start` and there as many tags open as close. -/
structure ClosesAt (name s : Text) (start e : Nat) : Prop where
  behind : start ≤ e
  tag : closeTag name <+: s.drop e
  balanced : occurrences (openTag name) (Text.slice s start e) = occurrences (closeTag name) (Text.slice s start e)

theorem closesAt_add_iff {s : Text} {start i : Nat} :
    ClosesAt name s start (start + i) ↔ Ends name 0 (s.drop start) i := by
  have hslice : Text.slice s start (start + i) = (s.drop start).take i := by
    rw [Text.slice, Nat.add_sub_cancel_left]
  constructor
  · rintro ⟨-, htag, hbalanced⟩
    rw [hslice] at hbalanced
    exact ⟨by rwa [List.drop_drop], by rwa [Nat.zero_add]⟩
  · rintro ⟨htag, hbalance⟩
    rw [Nat.zero_add] at hbalance
    exact ⟨Nat.le_add_right start i, by rwa [List.drop_drop] at htag, by rwa [hslice]⟩

theorem not_closesAt {s : Text} {start : Nat} (h : ∀ i, ¬Ends name 0 (s.drop start) i) (e : Nat) :
    ¬ClosesAt name s start e := by
  intro hcloses
  obtain ⟨i, rfl⟩ := Nat.exists_eq_add_of_le hcloses.behind
  exact h i (closesAt_add_iff.1 hcloses)

theorem isLeast_closesAt {s : Text} {start i : Nat} (h : IsLeast {i | Ends name 0 (s.drop start) i} i) :
    IsLeast {e | ClosesAt name s start e} (start + i) := by
  refine ⟨closesAt_add_iff.2 h.1, fun e he => ?_⟩
  obtain ⟨j, rfl⟩ := Nat.exists_eq_add_of_le he.behind
  exact Nat.add_le_add_left (h.2 (closesAt_add_iff.1 he)) start

theorem bodyEnd?_cases (hname : '\\' ∉ name) (s : Text) (start : Nat) :
    bodyEnd? name s start = none ∧ (∀ e, ¬ClosesAt name s start e) ∨
      ∃ e, bodyEnd? name s start = some (e, e + (closeTag name).length) ∧ IsLeast {e | ClosesAt name s start e} e := by
  have hanswers := answers_cutBody? hname 0 (s.drop start)
  rw [← cut?] at hanswers
  cases hcut : cut? name (s.drop start) with
  | none =>
    rw [hcut] at hanswers
    exact .inl ⟨by rw [bodyEnd?, hcut]; rfl, not_closesAt hanswers⟩
  | some cut =>
    obtain ⟨body, after⟩ := cut
    rw [hcut] at hanswers
    obtain ⟨heq, hleast⟩ := hanswers
    refine .inr ⟨start + body.length, ?_, isLeast_closesAt hleast⟩
    have hlength := congrArg List.length heq
    have := closeTag_length_pos name
    simp only [List.length_drop, List.length_append] at hlength
    rw [bodyEnd?, hcut, Option.map_some]
    simp only [Option.some.injEq, Prod.mk.injEq, true_and]
    omega

/-- **An environment ends where its tags balance**: at the first closing tag, from the start of the body on, such that
as many tags open as close between the two, and nowhere if there is none. The search by rounds comes to an end on every
text and finds the same tag. -/
theorem bodyEnd?_balance (hname : '\\' ∉ name) (s : Text) (start : Nat) :
    (∀ e after, bodyEnd? name s start = some (e, after) ↔
      IsLeast {e | ClosesAt name s start e} e ∧ after = e + (closeTag name).length) ∧
    (bodyEnd? name s start = none ↔ ¬∃ e, ClosesAt name s start e) ∧
    ∀ found, Rounds name 0 (s.drop start) found ↔ found = cut? name (s.drop start) := by
  refine ⟨fun e after => ?_, ?_, fun found => ?_⟩
  · rcases bodyEnd?_cases hname s start with ⟨hnone, hno⟩ | ⟨e', hsome, hleast⟩
    · rw [hnone]
      exact iff_of_false (Option.some_ne_none _).symm fun h => hno e h.1.1
    · rw [hsome, Option.some.injEq, Prod.mk.injEq]
      constructor
      · rintro ⟨rfl, rfl⟩
        exact ⟨hleast, rfl⟩
      · rintro ⟨h, rfl⟩
        obtain rfl := hleast.unique h
        exact ⟨rfl, rfl⟩
  · rcases bodyEnd?_cases hname s start with ⟨hnone, hno⟩ | ⟨e', hsome, hleast⟩
    · exact iff_of_true hnone fun ⟨e, he⟩ => hno e he
    · rw [hsome]
      exact iff_of_false (Option.some_ne_none _) fun hno => hno ⟨e', hleast.1⟩
  · constructor
    · exact fun h => h.unique (rounds_cutBody? name 0 _)
    · rintro rfl
      exact rounds_cutBody? name 0 _

/-- A grid in a grid, and behind them a closing tag that closes nothing. -/
def nestedGrids : Text :=
  "\\begin\x7btabular\x7d\x7bc\x7d\\begin\x7btabular\x7dé\\end\x7btabular\x7d".toList ++
    "\\end\x7btabular\x7d\\end\x7btabular\x7d".toList

/-- The outer grid ends at the second closing tag, and behind the last one none is left. -/
theorem bodyEnd?_balance_nested :
    '\\' ∉ "tabular".toList ∧ IsLeast {e | ClosesAt "tabular".toList nestedGrids 15 e} 47 ∧
      ¬∃ e, ClosesAt "tabular".toList nestedGrids 61 e := by
  have hname : '\\' ∉ "tabular".toList := by decide
  have hend : bodyEnd? "tabular".toList nestedGrids 15 = some (47, 60) := by cbv
  have hnone : bodyEnd? "tabular".toList nestedGrids 61 = none := by cbv
  refine ⟨hname, ?_, (bodyEnd?_balance hname nestedGrids 61).2.1.1 hnone⟩
  exact (((bodyEnd?_balance hname nestedGrids 15).1 47 60).1 hend).1

end Coursebook.Environment
