/-
The characters of a style. Sizes are written with digits, a sign and a
point, or as `inf` and `NaN`; so whatever sizes are declared for an image,
its style can stand between the quotes of an attribute
(`Image.all_style`).
-/
import Coursebook.Proofs.Html.Tags
import Coursebook.Proofs.Text.Numeral

namespace Coursebook

open Html (isValueChar)

theorem isValueChar_of_isDigit {c : Char} (h : c.isDigit = true) : isValueChar c = true := by
  have hne : ∀ d : Char, d.isDigit = false → c ≠ d := fun d hd hc => by
    rw [hc, hd] at h
    exact Bool.false_ne_true h
  simp only [isValueChar, Html.isTextChar, Bool.and_eq_true, decide_eq_true_eq]
  exact ⟨hne '"' (by decide), hne '<' (by decide), hne '>' (by decide)⟩

/-! ## Numbers -/

theorem Text.all_ofInt (i : Int) : (Text.ofInt i).all isValueChar = true := by
  have hnat : ∀ n, (Text.ofNat n).all isValueChar = true := fun n =>
    List.all_eq_true.2 fun c hc => isValueChar_of_isDigit (Text.isDigit_of_mem_ofNat hc)
  cases i with
  | ofNat n => exact hnat n
  | negSucc n => exact hnat (n + 1)

namespace Decimal

/-- Whether a decimal is written with digits. -/
def HasDigits (d : Decimal) : Prop := ∀ c ∈ d.digits, c.isDigit = true

theorem hasDigits_ofUnits (n : Nat) (k : Int) : HasDigits (ofUnits n k) := fun c hc => by
  have hsuffix : c ∈ (Text.ofNat n).reverse := (List.dropWhile_sublist _).mem (List.mem_reverse.1 hc)
  exact Text.isDigit_of_mem_ofNat (List.mem_reverse.1 hsuffix)

/-- The search ends with some decimal, whichever reads back. -/
theorem hasDigits_search (b : Binary64) (q : Binary64.Ratio) (p : Int) (fuel n : Nat) :
    HasDigits (search b q p fuel n) := by
  induction fuel generalizing n with
  | zero => exact hasDigits_ofUnits _ _
  | succ fuel ih =>
    rw [search]
    split
    · exact hasDigits_ofUnits _ _
    · exact ih (n + 1)

theorem isDigit_of_mem_zeros {n : Nat} {c : Char} (h : c ∈ zeros n) : c.isDigit = true := by
  rw [(List.mem_replicate.1 h).2]
  rfl

theorem HasDigits.positional {d : Decimal} (h : d.HasDigits) :
    (∀ c ∈ d.positional.1, c.isDigit = true) ∧ ∀ c ∈ d.positional.2, c.isDigit = true := by
  unfold Decimal.positional
  dsimp only
  split
  · refine ⟨fun c hc => ?_, fun c hc => (List.mem_append.1 hc).elim isDigit_of_mem_zeros (h c)⟩
    rw [List.mem_singleton.1 hc]
    rfl
  · split
    · exact ⟨fun c hc => (List.mem_append.1 hc).elim (h c) isDigit_of_mem_zeros, by simp⟩
    · exact ⟨fun c hc => h c (List.mem_of_mem_take hc), fun c hc => h c (List.mem_of_mem_drop hc)⟩

end Decimal

theorem all_plainText (x : Float) : (plainText x).all isValueChar = true := by
  have hdigits := (Decimal.hasDigits_search (.ofFloat x) (Binary64.ofFloat x).value
    (Decimal.pointOf (Binary64.ofFloat x).value) 17 1).positional
  have hall : ∀ {s : Text}, (∀ c ∈ s, c.isDigit = true) → s.all isValueChar = true := fun h =>
    List.all_eq_true.2 fun c hc => isValueChar_of_isDigit (h c hc)
  have hsign : (if Binary64.isNegative x then ['-'] else []).all isValueChar = true := by split <;> rfl
  unfold plainText
  split
  · dsimp only
    split
    · rw [List.all_append, hsign]
      rfl
    · split
      · next whole hp =>
        rw [List.all_append, hsign, hall fun c hc => hdigits.1 c (hp ▸ hc)]
        rfl
      · next whole part _ hp =>
        rw [List.all_append, List.all_append, hsign, hall fun c hc => hdigits.1 c (hp ▸ hc), List.all_cons,
          hall fun c hc => hdigits.2 c (hp ▸ hc)]
        rfl
  · split
    · decide
    · split <;> decide

/-! ## Styles -/

theorem Length.all_cssText (l : Length) : l.cssText.all isValueChar = true := by
  have hnumber : ∀ x, (numberText x).all isValueChar = true := fun x => by
    unfold numberText
    dsimp only
    split
    · exact Text.all_ofInt _
    · exact all_plainText _
  cases l with
  | px x | percent x =>
    rw [cssText, List.all_append, hnumber]
    decide

theorem Text.all_join {p : Char → Bool} {sep : Text} (hsep : sep.all p = true) {ss : List Text}
    (h : ∀ s ∈ ss, s.all p = true) : (Text.join sep ss).all p = true := by
  induction ss with
  | nil => rfl
  | cons s ss ih =>
    obtain ⟨hs, hss⟩ := List.forall_mem_cons.1 h
    cases ss with
    | nil => exact hs
    | cons s' ss =>
      rw [join, List.all_append, List.all_append, hs, hsep, ih hss]
      · rfl
      · simp

theorem Image.all_style (i : Image) : i.style.all isValueChar = true := by
  refine Text.all_join (by decide) ?_
  have hwidth : ∀ l : Length, ("width: ".toList ++ l.cssText).all isValueChar = true := fun l => by
    rw [List.all_append, l.all_cssText, Bool.and_true]
    decide
  have hheight : ∀ l : Length, ("height: ".toList ++ l.cssText).all isValueChar = true := fun l => by
    rw [List.all_append, l.all_cssText, Bool.and_true]
    decide
  rw [declarations]
  cases i.width <;> cases i.height <;>
    simp only [List.forall_mem_append, List.forall_mem_cons, hwidth, hheight, true_and] <;> decide

end Coursebook
