/-
Prose and math. A text is cut into segments at the canonical math
delimiters: `$b$` is inline math, `$$b$$` is display math, and everything
else is prose. A backslash takes the next character out of consideration,
an opener without its closer is prose, and an inline span may not cross a
blank line.

`split_raw` says that nothing is lost: the raw texts of the segments,
joined in order, are the text.
-/
import Coursebook.Text.Basic

namespace Coursebook

/-- How a formula is set: in the line or on a line of its own. -/
inductive MathKind where
  | inline
  | display
deriving Repr, DecidableEq

def MathKind.delimiter : MathKind → Text
  | .inline => ['$']
  | .display => ['$', '$']

/-- A stretch of prose, or a formula without its delimiters. -/
inductive Segment where
  | prose (text : Text)
  | math (kind : MathKind) (body : Text)
deriving Repr, DecidableEq

namespace Segment

def raw : Segment → Text
  | prose t => t
  | math k b => k.delimiter ++ b ++ k.delimiter

def body : Segment → Text
  | prose t => t
  | math _ b => b

def isMath : Segment → Bool
  | prose _ => false
  | math _ _ => true

/-! ## Finding spans -/

/-- Cuts a text around the first occurrence of `needle` that no backslash escapes: a character
after a backslash is never where an occurrence starts, unless the needle starts with that backslash. -/
def cutUnescaped? (needle : Text) : Text → Option (Text × Text)
  | [] => none
  | c :: s =>
    match Text.after? needle (c :: s) with
    | some r => some ([], r)
    | none =>
      if c = '\\' then
        match s with
        | [] => none
        | d :: s => (cutUnescaped? needle s).map fun (before, r) => (c :: d :: before, r)
      else (cutUnescaped? needle s).map fun (before, r) => (c :: before, r)

theorem eq_of_cutUnescaped? {needle : Text} {s before r : Text}
    (h : cutUnescaped? needle s = some (before, r)) : s = before ++ needle ++ r := by
  fun_induction cutUnescaped? needle s generalizing before with
  | case1 => simp at h
  | case2 c s r' hr =>
    simp only [Option.some.injEq, Prod.mk.injEq] at h
    obtain ⟨rfl, rfl⟩ := h
    simpa using Text.after?_eq_some.1 hr
  | case3 => simp at h
  | case4 d s _ ih =>
    simp only [Option.map_eq_some_iff, Prod.mk.injEq, Prod.exists] at h
    obtain ⟨b, r', hb, rfl, rfl⟩ := h
    simp [ih hb]
  | case5 c s _ _ ih =>
    simp only [Option.map_eq_some_iff, Prod.mk.injEq, Prod.exists] at h
    obtain ⟨b, r', hb, rfl, rfl⟩ := h
    simp [ih hb]

/-- Reads a formula at the head of a text: its kind, its body, and what follows it. -/
def mathSpan? : Text → Option (MathKind × Text × Text)
  | '$' :: '$' :: s => (cutUnescaped? ['$', '$'] s).map fun (body, r) => (.display, body, r)
  | '$' :: s =>
    match cutUnescaped? ['$'] s with
    | some (body, r) => if body = [] ∨ Text.contains ['\n', '\n'] body then none else some (.inline, body, r)
    | none => none
  | _ => none

theorem eq_of_mathSpan? {s body r : Text} {k : MathKind} (h : mathSpan? s = some (k, body, r)) :
    s = (math k body).raw ++ r := by
  unfold mathSpan? at h
  split at h
  · simp only [Option.map_eq_some_iff, Prod.mk.injEq, Prod.exists] at h
    obtain ⟨b, r', hb, rfl, rfl, rfl⟩ := h
    simp [eq_of_cutUnescaped? hb, raw, MathKind.delimiter]
  · split at h
    · split at h
      · simp at h
      · rename_i hb _
        simp only [Option.some.injEq, Prod.mk.injEq] at h
        obtain ⟨rfl, rfl, rfl⟩ := h
        simp [eq_of_cutUnescaped? hb, raw, MathKind.delimiter]
    · simp at h
  · simp at h

theorem length_of_mathSpan? {s body r : Text} {k : MathKind} (h : mathSpan? s = some (k, body, r)) :
    r.length < s.length := by
  rw [eq_of_mathSpan? h]
  cases k <;> simp [raw, MathKind.delimiter] <;> omega

/-! ## Splitting -/

/-- Puts a character of prose in front of a list of segments. -/
def consProse (c : Char) : List Segment → List Segment
  | prose t :: ss => prose (c :: t) :: ss
  | ss => prose [c] :: ss

def split : Text → List Segment
  | [] => []
  | c :: s =>
    match _h : mathSpan? (c :: s) with
    | some (k, b, r) => math k b :: split r
    | none =>
      if c = '\\' then
        match s with
        | [] => [prose [c]]
        | d :: s => consProse c (consProse d (split s))
      else consProse c (split s)
termination_by s => s.length
decreasing_by
  · exact length_of_mathSpan? _h
  · simp only [List.length_cons]; omega
  · simp only [List.length_cons]; omega

def joinRaw (ss : List Segment) : Text := ss.flatMap raw

@[simp] theorem joinRaw_consProse (c : Char) (ss : List Segment) : joinRaw (consProse c ss) = c :: joinRaw ss := by
  unfold consProse
  split <;> simp [joinRaw, raw]

theorem split_raw (s : Text) : joinRaw (split s) = s := by
  fun_induction split s with
  | case1 => rfl
  | case2 c s k b r h ih =>
    have : joinRaw (math k b :: split r) = (math k b).raw ++ joinRaw (split r) := rfl
    rw [this, ih, ← eq_of_mathSpan? h]
  | case3 => rfl
  | case4 d s _ ih => simp [ih]
  | case5 c s _ _ ih => simp [ih]

/-! ## Changing segments -/

/-- Changes every segment and joins the results in order. -/
def mapSegments (f : Segment → Text) (s : Text) : Text := (split s).flatMap f

/-- Changes the prose and leaves the formulas as they are. -/
def mapText (f : Text → Text) : Text → Text :=
  mapSegments fun
    | prose t => f t
    | m => m.raw

/-- Changes the bodies of the formulas and leaves the prose as it is. -/
def mapMath (f : MathKind → Text → Text) : Text → Text :=
  mapSegments fun
    | prose t => t
    | math k b => (math k (f k b)).raw

end Segment

end Coursebook
