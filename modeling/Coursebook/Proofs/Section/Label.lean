/-
Headings that begin with a label. In a heading `label : name` the label
decides, whatever the name is: it may spell other labels, hold separators of
its own, or start with a mark that wants to join what stands in front of it.
Normal form C keeps the separator as it is, since nothing joins a space or a
colon (`ofHeading_named`), and what the label is searched for ends in front
of the first separator.

A heading `Announces` a category if that is what its text says, also when
the text is read back as the argument of a command. Braces in a name may end
that argument early or late; the label stands in front of all of them.
-/
import Coursebook.Proofs.Command.Closing
import Coursebook.Proofs.Text.Ascii
import Coursebook.Proofs.Text.Case
import Coursebook.Proofs.Text.Normal.Solid
import Coursebook.Proofs.Text.Numeral
import Coursebook.Section

namespace Coursebook

open Command (argument? cutArgument? Groups.Free)
open Text (Solid)

/-- Whether a heading says that its section is of a category, as it stands in a command and as it is read there. -/
structure Announces (title : Text) (c : Category) : Prop where
  category : Category.ofHeading title = c
  read : ∀ rest arg r, argument? ('{' :: title ++ '}' :: rest) = some (arg, r) → Category.ofHeading arg = c

/-- A text that names a category in front of a separator. -/
structure IsLabel (label : Text) (c : Category) : Prop where
  normal : Text.normalize label = label
  single : Text.cut? labelSeparator label = none
  free : Groups.Free label
  category : Category.ofWords label = c

namespace Category

theorem ofHeading_of_single {s : Text} (hn : Text.normalize s = s) (hs : Text.cut? labelSeparator s = none) :
    ofHeading s = ofWords s := by
  rw [ofHeading, hn, hs]

/-- Nothing joins the separator, so a text is normalized in front of it and behind it. -/
theorem normalize_append_separator (s t : Text) :
    Text.normalize (s ++ labelSeparator ++ t) = Text.normalize s ++ labelSeparator ++ Text.normalize t := by
  have hspace : Solid ' ' := Solid.of_lt (by decide)
  have hcolon : Solid ':' := Solid.of_lt (by decide)
  have hbehind : ∀ u, Text.normalize (' ' :: u) = ' ' :: Text.normalize u :=
    Text.normalize_cons_loose hspace (by decide)
  have hmiddle : Text.normalize (':' :: ' ' :: t) = ':' :: ' ' :: Text.normalize t := by
    rw [← List.singleton_append, Text.normalize_append _ (by simpa using hspace.leads), Text.normalize_solid hcolon, hbehind]
    rfl
  rw [List.append_assoc, Text.normalize_append s (by simpa [labelSeparator] using hspace.leads)]
  simp [labelSeparator, hbehind, hmiddle]

/-- **The label decides** if it names a category. -/
theorem ofHeading_named {label : Text} (hn : Text.normalize label = label) (hspace : ' ' ∉ label)
    (hc : ofWords label ≠ generic) (name : Text) :
    ofHeading (label ++ labelSeparator ++ name) = ofWords label := by
  have hcut : Text.cut? labelSeparator (label ++ labelSeparator ++ Text.normalize name) =
      some (label, Text.normalize name) := by
    have hfirst := @Text.cut?_append_of_not_mem ' ' [':', ' '] label hspace (labelSeparator ++ Text.normalize name)
    rw [List.append_assoc]
    refine hfirst.trans ?_
    rw [show [' ', ':', ' '] = labelSeparator from rfl, Text.cut?_self_append, Option.map_some]
    exact congrArg (fun a => some (a, Text.normalize name)) (List.append_nil label)
  rw [ofHeading, normalize_append_separator, hn, hcut]
  split
  · next h =>
    obtain ⟨rfl, rfl⟩ := Prod.mk.inj (Option.some.inj h)
    split
    · next hgeneric => exact absurd hgeneric hc
    · rfl
  · next h => cases h

/-- The category of the first keyword that occurs in a text in lower case. -/
def ofLowered (s : Text) : Category := ((keywords.find? fun k => Text.contains k.1 s).map (·.2)).getD generic

/-- Keywords are searched for letter by letter in a text of ASCII and accented letters. -/
theorem ofWords_eq {s : Text} (h : ∀ c ∈ s, c.toNat < 0x80 ∨ Text.isAccented c = true) :
    ofWords s = ofLowered (s.map Text.asciiLower) := by
  rw [ofWords, Text.lower_eq_map h]
  rfl

end Category

/-! ## Headings with a label -/

namespace IsLabel

variable {label : Text} {c : Category}

theorem announces (h : IsLabel label c) : Announces label c where
  category := (Category.ofHeading_of_single h.normal h.single).trans h.category
  read rest arg r hread := by
    have hcut : cutArgument? (label ++ '}' :: rest) = some (label, rest) :=
      Command.cutArgument?_eq_some_iff.2 ⟨rfl, Command.Groups.read?_free h.free 0⟩
    obtain ⟨rfl, -⟩ := Prod.mk.inj (Option.some.inj (hcut.symm.trans hread))
    exact (Category.ofHeading_of_single h.normal h.single).trans h.category

theorem announces_named (h : IsLabel label c) (hspace : ' ' ∉ label) (hc : c ≠ .generic) (name : Text) :
    Announces (label ++ labelSeparator ++ name) c where
  category := (Category.ofHeading_named h.normal hspace (h.category ▸ hc) name).trans h.category
  read rest arg r hread := by
    have heq : (label ++ labelSeparator) ++ (name ++ '}' :: rest) = arg ++ '}' :: r := by
      rw [← List.append_assoc]
      exact Command.eq_of_cutGroup? hread
    have hclose : '}' ∉ label ++ labelSeparator := by
      rw [List.mem_append, not_or]
      exact ⟨fun hmem => (h.free _ hmem).2.2 rfl, by decide⟩
    obtain ⟨name', rfl, -⟩ := Text.append_eq_of_not_mem heq hclose
    exact (Category.ofHeading_named h.normal hspace (h.category ▸ hc) name').trans h.category

end IsLabel

/-! ## The labels -/

/-- The labels of sections that are not numbered. -/
def fixedLabels : List (Text × Category) :=
  [("Introduction".toList, .introduction), ("Définition".toList, .definition), ("Théorème".toList, .theorem_),
    ("Formule".toList, .formula), ("Exemple".toList, .example_), ("Résumé".toList, .summary), ("Attention".toList, .alert)]

theorem isLabel_fixed : ∀ l ∈ fixedLabels, IsLabel l.1 l.2 ∧ ' ' ∉ l.1 ∧ l.2 ≠ .generic := by
  have hnormal : ∀ l ∈ fixedLabels, Text.normalize l.1 = l.1 := by decide +kernel
  have hsingle : ∀ l ∈ fixedLabels, Text.cut? labelSeparator l.1 = none ∧ Groups.Free l.1 := by decide +kernel
  have hletters : ∀ l ∈ fixedLabels, l.1.all (fun c => c.toNat < 0x80 || Text.isAccented c) = true := by decide +kernel
  have hwords : ∀ l ∈ fixedLabels, Category.ofLowered (l.1.map Text.asciiLower) = l.2 := by decide +kernel
  have hplain : ∀ l ∈ fixedLabels, ' ' ∉ l.1 ∧ l.2 ≠ .generic := by decide +kernel
  intro l hl
  obtain ⟨hcut, hfree⟩ := hsingle l hl
  have haccented : ∀ c ∈ l.1, c.toNat < 0x80 ∨ Text.isAccented c = true := by simpa using hletters l hl
  exact ⟨⟨hnormal l hl, hcut, hfree, (Category.ofWords_eq haccented).trans (hwords l hl)⟩, hplain l hl⟩

/-- The label of the exercise with a number. -/
def exerciseLabel (n : Nat) : Text := "Exercice ".toList ++ Text.ofNat n

theorem mem_exerciseLabel {n : Nat} {c : Char} (h : c ∈ exerciseLabel n) :
    c ∈ "Exercice ".toList ∨ Text.isAsciiDigit c = true :=
  (List.mem_append.1 h).imp_right Text.isAsciiDigit_of_mem_ofNat

theorem toNat_lt_of_mem_exerciseLabel {n : Nat} {c : Char} (h : c ∈ exerciseLabel n) : c.toNat < 0x80 := by
  have hword : "Exercice ".toList.all (·.toNat < 0x80) = true := by decide
  rcases mem_exerciseLabel h with h | h
  · exact of_decide_eq_true (List.all_eq_true.1 hword c h)
  · exact Text.toNat_lt_of_alphanumeric (by rw [Text.isAsciiAlphanumeric, h, Bool.or_true])

theorem lower_exerciseLabel (n : Nat) :
    (exerciseLabel n).map Text.asciiLower = "exercice ".toList ++ Text.ofNat n := by
  have hword : "Exercice ".toList.map Text.asciiLower = "exercice ".toList := by decide
  have hdigits : (Text.ofNat n).map Text.asciiLower = Text.ofNat n := by
    conv => rhs; rw [← List.map_id (Text.ofNat n)]
    refine List.map_congr_left fun c hc => ?_
    have hd := Text.isAsciiLetter_of_digit (Text.isAsciiDigit_of_mem_ofNat hc)
    rw [Text.isAsciiLetter, Bool.or_eq_false_iff] at hd
    rw [Text.asciiLower, hd.2, if_neg Bool.false_ne_true, id]
  refine List.map_append.trans ?_
  rw [hword, hdigits]

/-- No keyword in front of that of exercises occurs in the label of one. -/
theorem ofWords_exerciseLabel (n : Nat) : Category.ofWords (exerciseLabel n) = .exercise := by
  have hearlier : ∀ k ∈ Category.keywords.take 16, ' ' ∉ k.1 ∧ Text.contains k.1 "exercice".toList = false ∧
      k.1.all Text.isAsciiDigit = false := by decide +kernel
  have hfind : Category.keywords.find? (fun k => Text.contains k.1 ("exercice ".toList ++ Text.ofNat n)) =
      some ("exercice".toList, .exercise) := by
    rw [show "exercice ".toList = "exercice".toList ++ [' '] by decide, List.append_assoc, List.find?_eq_some_iff_append]
    refine ⟨Text.contains_iff.2 (List.prefix_append _ _).isInfix, Category.keywords.take 16, Category.keywords.drop 17,
      by decide +kernel, fun k hk => ?_⟩
    obtain ⟨hspace, hword, hdigits⟩ := hearlier k hk
    rw [Bool.not_eq_true', ← Bool.not_eq_true, Text.contains_iff, List.singleton_append,
      Text.infix_append_cons hspace, not_or]
    constructor
    · rw [← Text.contains_iff, hword]
      exact Bool.false_ne_true
    · intro h
      obtain ⟨c, hc, hdigit⟩ := List.all_eq_false.1 hdigits
      exact hdigit (Text.isAsciiDigit_of_mem_ofNat (h.subset hc))
  rw [Category.ofWords_eq fun c hc => .inl (toNat_lt_of_mem_exerciseLabel hc), lower_exerciseLabel, Category.ofLowered, hfind]
  rfl

theorem isLabel_exercise (n : Nat) : IsLabel (exerciseLabel n) .exercise where
  normal := Text.normalize_eq_self_of_solid fun c hc => Solid.of_lt (Nat.lt_trans (toNat_lt_of_mem_exerciseLabel hc) (by decide))
  single := by
    refine Text.cut?_eq_none_of_not_mem (c := ':') (by decide) fun h => ?_
    rcases mem_exerciseLabel h with h | h
    · exact absurd h (by decide)
    · exact absurd h (by decide)
  free c hc := by
    rcases mem_exerciseLabel hc with hc | hc
    · exact (show Groups.Free "Exercice ".toList by decide) c hc
    · have halnum : Text.isAsciiAlphanumeric c = true := by rw [Text.isAsciiAlphanumeric, hc, Bool.or_true]
      exact ⟨Text.ne_of_alphanumeric halnum (by decide), Text.ne_of_alphanumeric halnum (by decide),
        Text.ne_of_alphanumeric halnum (by decide)⟩
  category := ofWords_exerciseLabel n

end Coursebook
