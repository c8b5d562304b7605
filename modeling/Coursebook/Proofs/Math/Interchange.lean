/-
Interchangeable notations. An inline formula can be written between
parentheses or between dollars, and both become the same text. A displayed
one can be written between brackets, in an environment, or between two
dollars, and should become one displayed formula each time, up to white
space around its body.

Two dollars are copied. The other notations are trimmed, and then the dollars
stand right behind the last character that is no white space. If that is a
backslash which escaped the white space, it escapes the first dollar now, and
the formula is lost: `canonicalize_interchange` says that this is the only
case. Inline formulas keep their white space there (`inlineBody`).
-/
import Coursebook.Proofs.Math.Spelling
import Coursebook.Proofs.Segment.Body

namespace Coursebook.Math

open Environment (openTag closeTag)
open Segment (IsBody FirstUnescaped math split)
open Text (endsEscaped)

/-- One displayed formula, with the body `b` up to the white space around it. -/
def IsSingleDisplay (b : Text) (ss : List Segment) : Prop :=
  ∃ b', ss = [math .display b'] ∧ Text.trim b' = Text.trim b

/-! ## Canonical text of one formula -/

theorem canonicalize_spelling {w : Spelling} {b span : Text} (h : formula? (w.source b ++ []) = some (span, [])) :
    canonicalize (w.source b) = span := by
  rw [List.append_nil] at h
  have hliteral : literalToken? (w.source b) = none := by cases w <;> rfl
  have hlength : 0 < (w.source b).length := by
    cases w <;> simp [Spelling.source, environment, Environment.openTag, Environment.beginMark]
  have hnil : canonicalize [] = [] := by rw [canonicalize, Text.replaceMatches]
  rw [canonicalize_formula hliteral h hlength, hnil, List.append_nil]

theorem inlineBody_ne_nil {b : Text} (h : Text.isBlankText b = false) : inlineBody b ≠ [] := by
  have htrim : Text.trimEnd (Text.trimStart b) ≠ [] := mt Text.trim_eq_nil_iff.1 (by simp [h])
  rw [inlineBody]
  split
  · intro he
    rw [he] at htrim
    exact htrim rfl
  · exact htrim

/-- What an inline formula is replaced by does not depend on its notation if something is left of it. -/
theorem inlineSpan_of_not_blank {b : Text} (h : Text.isBlankText b = false) (fallback : Text) :
    inlineSpan b fallback = (math .inline (inlineBody b)).raw := by
  rw [inlineSpan]
  split
  · next he => exact absurd he (inlineBody_ne_nil h)
  · rfl

theorem canonicalize_parens {b : Text} (hs : Text.isBlankText b = false) (h : FirstUnescaped ['\\', ')'] b) :
    canonicalize (Spelling.parens.source b) = (math .inline (inlineBody b)).raw := by
  rw [canonicalize_spelling (formula?_parens h []), inlineSpan_of_not_blank hs]

theorem canonicalize_dollar {b : Text} (hs : Text.isBlankText b = false) (h : IsBody .inline b) :
    canonicalize (Spelling.dollar.source b) = (math .inline (inlineBody b)).raw := by
  rw [← inlineSpan_of_not_blank hs (math .inline b).raw]
  exact canonicalize_spelling (formula?_inline (h.mathSpan? []))

theorem canonicalize_dollars {b : Text} (h : IsBody .display b) :
    canonicalize (Spelling.dollars.source b) = displaySpan b :=
  canonicalize_spelling (formula?_display (h.mathSpan? []))

theorem canonicalize_brackets {b : Text} (h : FirstUnescaped ['\\', ']'] b) :
    canonicalize (Spelling.brackets.source b) = displaySpan (Text.trim b) :=
  canonicalize_spelling (formula?_brackets h [])

theorem backslash_not_mem_displayNames : ∀ name ∈ displayNames, '\\' ∉ name := by decide

theorem canonicalize_equation {name b : Text} (known : name ∈ displayNames) (hopen : ¬openTag name <:+: b)
    (hclose : ¬closeTag name <:+: b) :
    canonicalize ((Spelling.equation name known).source b) = displaySpan (Text.trim b) := by
  have htags := Environment.noTagOf_of_not_infix (backslash_not_mem_displayNames name known) hopen hclose
  exact canonicalize_spelling
    (formula?_environment (not_mem_displayNames name known) htags (environmentSpan?_equation known b) [])

/-! ## Displayed formulas -/

theorem displaySpan_inj {b b' : Text} (h : displaySpan b = displaySpan b') : b = b' := by
  simpa [displaySpan, Segment.raw] using h

/-- A body without dollars between two dollars on each side is a displayed formula if it does not escape
the first dollar behind it. -/
theorem split_displaySpan_iff {t : Text} (hd : '$' ∉ t) :
    split (displaySpan t) = [math .display t] ↔ endsEscaped t = false := by
  constructor
  · intro h
    have hmem : math .display t ∈ split (displaySpan t) := h ▸ List.mem_singleton_self _
    have hbody : IsBody .display t := Segment.wellFormed_of_mem_split _ _ hmem
    exact FirstUnescaped.unescaped hbody
  · intro h
    have hbody : IsBody .display t := FirstUnescaped.of_unescaped h hd
    exact hbody.split_raw

/-- **A trimmed display span is one displayed formula** exactly if trimming leaves no open escape. -/
theorem isSingleDisplay_displaySpan_iff {b : Text} (hd : '$' ∉ b) :
    IsSingleDisplay b (split (displaySpan (Text.trim b))) ↔ endsEscaped (Text.trim b) = false := by
  have hd : '$' ∉ Text.trim b := fun hm => hd ((Text.trim_infix b).subset hm)
  rw [← split_displaySpan_iff hd]
  constructor
  · rintro ⟨b', hsplit, -⟩
    have hraw := Segment.split_raw (displaySpan (Text.trim b))
    rw [hsplit, Segment.joinRaw, List.flatMap_singleton] at hraw
    rw [hsplit, displaySpan_inj hraw]
  · exact fun hsplit => ⟨_, hsplit, Text.trim_trim b⟩

/-- **Notations are interchangeable**, but for displayed formulas whose trimmed body ends in an open escape.

For a body without dollars that is not white space alone: between parentheses and between dollars it becomes
the same text; between two dollars it is one displayed formula; and between brackets or in an environment it
is one displayed formula if and only if the escapes in its trimmed body are complete. -/
theorem canonicalize_interchange (b : Text) (hs : Text.isBlankText b = false) (hd : '$' ∉ b) :
    (FirstUnescaped ['\\', ')'] b → ¬['\n', '\n'] <:+: b →
      canonicalize (Spelling.parens.source b) = canonicalize (Spelling.dollar.source b)) ∧
    (FirstUnescaped ['$', '$'] b → IsSingleDisplay b (split (canonicalize (Spelling.dollars.source b)))) ∧
    (FirstUnescaped ['\\', ']'] b →
      (IsSingleDisplay b (split (canonicalize (Spelling.brackets.source b))) ↔ endsEscaped (Text.trim b) = false)) ∧
    ∀ name (known : name ∈ displayNames), ¬openTag name <:+: b → ¬closeTag name <:+: b →
      (IsSingleDisplay b (split (canonicalize ((Spelling.equation name known).source b))) ↔
        endsEscaped (Text.trim b) = false) := by
  refine ⟨fun hclose hline => ?_, fun hclose => ?_, fun hclose => ?_, fun name known hopen hclose => ?_⟩
  · have hne : b ≠ [] := by rintro rfl; exact Bool.noConfusion hs
    have hbody : IsBody .inline b := ⟨hne, .of_unescaped hclose.unescaped hd, hline⟩
    rw [canonicalize_parens hs hclose, canonicalize_dollar hs hbody]
  · have hbody : IsBody .display b := hclose
    rw [canonicalize_dollars hbody]
    exact ⟨b, hbody.split_raw, rfl⟩
  · rw [canonicalize_brackets hclose, isSingleDisplay_displaySpan_iff hd]
  · rw [canonicalize_equation known hopen hclose, isSingleDisplay_displaySpan_iff hd]

/-- Between brackets, a body that ends in an escaped space is no formula. -/
theorem canonicalize_interchange_escapedSpace :
    Text.isBlankText ['a', '\\', ' '] = false ∧ '$' ∉ ['a', '\\', ' '] ∧
      ¬IsSingleDisplay ['a', '\\', ' '] (split (canonicalize (Spelling.brackets.source ['a', '\\', ' ']))) := by
  have hblank : Text.isBlankText ['a', '\\', ' '] = false := by decide
  have hdollar : '$' ∉ ['a', '\\', ' '] := by decide
  have hclose : FirstUnescaped ['\\', ']'] ['a', '\\', ' '] := by
    rw [Segment.firstUnescaped_iff_cut (by simp)]
    cbv
  refine ⟨hblank, hdollar, ?_⟩
  rw [(canonicalize_interchange ['a', '\\', ' '] hblank hdollar).2.2.1 hclose]
  decide

end Coursebook.Math
