/-
White space. One set serves the whole library: the characters of the
Unicode property `White_Space`. On it stand trimming and cutting a text
into words.
-/
import Coursebook.Text.Basic

namespace Coursebook.Text

/-- The Unicode property `White_Space`. -/
def isBlank (c : Char) : Bool :=
  let n := c.toNat
  n = 0x20 || (0x09 ≤ n && n ≤ 0x0D) || n = 0x85 || n = 0xA0 || n = 0x1680 || (0x2000 ≤ n && n ≤ 0x200A)
    || n = 0x2028 || n = 0x2029 || n = 0x202F || n = 0x205F || n = 0x3000

/-- The white space that a line may hold beside its ending: spaces and tabs. -/
def isSpaceOrTab (c : Char) : Bool := c = ' ' || c = '\t'

/-- What follows a line ending at the head of a text. -/
def afterLineEnd? : Text → Option Text
  | '\n' :: s => some s
  | '\r' :: '\n' :: s => some s
  | _ => none

def trimStart (s : Text) : Text := s.dropWhile isBlank

def trimEnd : Text → Text
  | [] => []
  | c :: s =>
    match trimEnd s with
    | [] => if isBlank c then [] else [c]
    | r => c :: r

def trim (s : Text) : Text := trimEnd (trimStart s)

def leadingBlank (s : Text) : Text := s.takeWhile isBlank

def trailingBlank (s : Text) : Text := s.drop (trimEnd s).length

theorem trimEnd_append_trailingBlank (s : Text) : trimEnd s ++ trailingBlank s = s := by
  have h : ∀ s, trimEnd s <+: s := by
    intro s
    induction s with
    | nil => exact List.nil_prefix
    | cons c s ih =>
      unfold trimEnd
      split
      · split <;> simp
      · exact List.cons_prefix_cons.2 ⟨rfl, ih⟩
  obtain ⟨t, ht⟩ := h s
  conv => rhs; rw [← ht]
  rw [trailingBlank]
  conv => lhs; rhs; rhs; rw [← ht]
  simp

def isBlankText (s : Text) : Bool := s.all isBlank

def words (s : Text) : List Text :=
  match _h : trimStart s with
  | [] => []
  | c :: r => (c :: r.takeWhile (!isBlank ·)) :: words (r.dropWhile (!isBlank ·))
termination_by s.length
decreasing_by
  have h1 : (trimStart s).length ≤ s.length := (List.dropWhile_sublist _).length_le
  have h2 : (r.dropWhile (!isBlank ·)).length ≤ r.length := (List.dropWhile_sublist _).length_le
  rw [_h] at h1
  simp at h1
  omega

/-- A text with every run of white space made one space and none at its ends. -/
def collapseBlank (s : Text) : Text := join [' '] (words s)

/-- The control characters of Unicode (category `Cc`). -/
def isControl (c : Char) : Bool := c.toNat < 0x20 || (0x7F ≤ c.toNat && c.toNat ≤ 0x9F)

end Coursebook.Text
