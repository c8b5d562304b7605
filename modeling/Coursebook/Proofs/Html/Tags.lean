/-
The tags of a piece of HTML, as a strict reader finds them (`tags?`). It
goes through the text one character after the other and fails where an angle
bracket is not the end of a tag, where a quote in a tag is not around a
value, and where a tag does not look like those that are written here.

What the writers put together is read piece by piece: a text that ends
between tags can be followed by another one (`tags?_append`), an element
gives its own tags around those of its content (`tags?_element`), and
escaped text gives none (`tags?_escape`). Only `>` leads out of a tag, so
white space that is trimmed at the end of a text was never part of one
(`tags?_trimEnd`).
-/
import Coursebook.Proofs.Text.Trim
import Coursebook.Render.Html

namespace Coursebook.Html

/-! ## The reader -/

/-- A tag, with the names of its attributes. -/
inductive Tag where
  | opening (name : Text) (attributes : List Text)
  | closing (name : Text)
deriving Repr, DecidableEq

/-- The elements that hold no tags: their text goes on to the next closing tag. -/
def rawTextNames : List Text := ["style".toList, "script".toList]

def isNameChar (c : Char) : Bool := Text.isAsciiAlphanumeric c || c = '-' || c = '!'

def isName (name : Text) : Bool := name ≠ [] && name.all isNameChar

/-- Whether a character may stand between tags. -/
def isTextChar (c : Char) : Bool := c ≠ '<' && c ≠ '>'

/-- Whether a character may stand in the value of an attribute. -/
def isValueChar (c : Char) : Bool := c ≠ '"' && isTextChar c

/-- Where a reader is: between tags, or in a part of a tag. In an opening tag it knows the name and
the attributes that it has read. -/
inductive Place where
  | text
  | rawText
  | rawTagStart
  | tagStart
  | closingName (name : Text)
  | openingName (name : Text)
  | attributeStart (name : Text) (attributes : List Text)
  | attributeName (name : Text) (attributes : List Text) (current : Text)
  | valueStart (name : Text) (attributes : List Text)
  | value (name : Text) (attributes : List Text)
  | valueEnd (name : Text) (attributes : List Text)
deriving Repr, DecidableEq

/-- The place behind an opening tag. -/
def Place.behind (name : Text) : Place := if name ∈ rawTextNames then .rawText else .text

/-- Reads what stands behind a name or a value in an opening tag. -/
def stepBehind (name : Text) (attributes : List Text) (c : Char) : Option (Place × List Tag) :=
  if c = ' ' then some (.attributeStart name attributes, [])
  else if c = '>' then some (.behind name, [.opening name attributes])
  else none

/-- Reads one character: the place behind it, and the tag that it ends. -/
def step : Place → Char → Option (Place × List Tag)
  | .text, c => if c = '<' then some (.tagStart, []) else if isTextChar c then some (.text, []) else none
  | .rawText, c => some (if c = '<' then .rawTagStart else .rawText, [])
  | .rawTagStart, c => if c = '/' then some (.closingName [], []) else none
  | .tagStart, c =>
    if c = '/' then some (.closingName [], []) else if isNameChar c then some (.openingName [c], []) else none
  | .closingName name, c =>
    if isNameChar c then some (.closingName (name ++ [c]), [])
    else if c = '>' ∧ name ≠ [] then some (.text, [.closing name])
    else none
  | .openingName name, c =>
    if isNameChar c then some (.openingName (name ++ [c]), []) else stepBehind name [] c
  | .attributeStart name as, c => if isNameChar c then some (.attributeName name as [c], []) else none
  | .attributeName name as a, c =>
    if isNameChar c then some (.attributeName name as (a ++ [c]), [])
    else if c = '=' then some (.valueStart name (as ++ [a]), [])
    else stepBehind name (as ++ [a]) c
  | .valueStart name as, c => if c = '"' then some (.value name as, []) else none
  | .value name as, c =>
    if isValueChar c then some (.value name as, []) else if c = '"' then some (.valueEnd name as, []) else none
  | .valueEnd name as, c => stepBehind name as c

/-- Reads a text from a place: the place behind it, and the tags that end in it. -/
def read (p : Place) : Text → Option (Place × List Tag)
  | [] => some (p, [])
  | c :: s => do
    let (q, ts) ← step p c
    let (r, us) ← read q s
    return (r, ts ++ us)

/-- The tags of a text that starts and ends between tags. -/
def tags? (s : Text) : Option (List Tag) :=
  match read .text s with
  | some (.text, ts) => some ts
  | _ => none

example : tags? "<p class=\"a\">b<br></p>".toList =
    some [.opening "p".toList ["class".toList], .opening "br".toList [], .closing "p".toList] := by decide

example : tags? "<p>a < b</p>".toList = none := by decide

theorem tags?_eq_some {s : Text} {ts : List Tag} : tags? s = some ts ↔ read .text s = some (.text, ts) := by
  unfold tags?
  split
  · next h => simp [h]
  · next h => exact ⟨by simp, fun h' => absurd h' (h ts)⟩

theorem read_cons {p r : Place} {c : Char} {s : Text} {vs : List Tag} : read p (c :: s) = some (r, vs) ↔
    ∃ q ts us, step p c = some (q, ts) ∧ read q s = some (r, us) ∧ ts ++ us = vs := by
  simp only [read, Option.bind_eq_bind, Option.bind_eq_some_iff, Option.pure_def, Option.some.injEq, Prod.exists,
    Prod.mk.injEq]
  constructor
  · rintro ⟨q, ts, hc, r, us, hs, rfl, rfl⟩
    exact ⟨q, ts, us, hc, hs, rfl⟩
  · rintro ⟨q, ts, us, hc, hs, rfl⟩
    exact ⟨q, ts, hc, r, us, hs, rfl, rfl⟩

theorem read_append {p r : Place} {a b : Text} {vs : List Tag} : read p (a ++ b) = some (r, vs) ↔
    ∃ q ts us, read p a = some (q, ts) ∧ read q b = some (r, us) ∧ ts ++ us = vs := by
  induction a generalizing p vs with
  | nil => simp [read, and_assoc]
  | cons c a ih =>
    rw [List.cons_append, read_cons]
    constructor
    · rintro ⟨q, ts, us, hc, h, rfl⟩
      obtain ⟨q', ts', us', ha, hb, rfl⟩ := ih.1 h
      exact ⟨q', ts ++ ts', us', read_cons.2 ⟨q, ts, ts', hc, ha, rfl⟩, hb, List.append_assoc ..⟩
    · rintro ⟨q', vs', us', h, hb, rfl⟩
      obtain ⟨q, ts, ts', hc, ha, rfl⟩ := read_cons.1 h
      exact ⟨q, ts, ts' ++ us', hc, ih.2 ⟨q', ts', us', ha, hb, rfl⟩, (List.append_assoc ..).symm⟩

theorem read_trans {p q r : Place} {a b : Text} {ts us : List Tag} (ha : read p a = some (q, ts))
    (hb : read q b = some (r, us)) : read p (a ++ b) = some (r, ts ++ us) := read_append.2 ⟨q, ts, us, ha, hb, rfl⟩

theorem tags?_append {a b : Text} {ts us : List Tag} (ha : tags? a = some ts) (hb : tags? b = some us) :
    tags? (a ++ b) = some (ts ++ us) := by
  rw [tags?_eq_some] at ha hb ⊢
  exact read_trans ha hb

/-- Characters that change nothing. -/
theorem read_stay {p : Place} {s : Text} (h : ∀ c ∈ s, step p c = some (p, [])) : read p s = some (p, []) := by
  induction s with
  | nil => rfl
  | cons c s ih =>
    obtain ⟨hc, hs⟩ := List.forall_mem_cons.1 h
    exact read_cons.2 ⟨p, [], [], hc, ih hs, rfl⟩

theorem tags?_eq_nil {s : Text} (h : s.all isTextChar = true) : tags? s = some [] := by
  refine tags?_eq_some.2 (read_stay fun c hc => ?_)
  have hchar := List.all_eq_true.1 h c hc
  have hne : c ≠ '<' := by
    rintro rfl
    exact absurd hchar (by decide)
  rw [step, if_neg hne, if_pos hchar]

/-! ## The end of a text -/

/-- Only `>` leads from a tag to the text behind it. -/
theorem step_text {p : Place} {c : Char} {ts : List Tag} (h : step p c = some (.text, ts)) (hc : c ≠ '>') :
    p = .text ∧ ts = [] := by
  have hbehind : ∀ name as, stepBehind name as c ≠ some (.text, ts) := fun name as => by
    simp only [stepBehind, if_neg hc]
    split <;> simp
  cases p with
  | text =>
    simp only [step] at h
    split at h
    · simp at h
    · split at h <;> simp_all
  | rawText =>
    simp only [step, Option.some.injEq, Prod.mk.injEq] at h
    split at h <;> simp at h
  | valueEnd name as => exact absurd h (hbehind name as)
  | openingName name =>
    simp only [step] at h
    split at h
    · simp at h
    · exact absurd h (hbehind name [])
  | attributeName name as a =>
    simp only [step] at h
    split at h
    · simp at h
    · split at h
      · simp at h
      · exact absurd h (hbehind name _)
  | closingName name =>
    simp only [step, hc, false_and, if_false] at h
    split at h <;> simp at h
  | rawTagStart | attributeStart | valueStart =>
    simp only [step] at h
    split at h <;> simp at h
  | tagStart | value =>
    simp only [step] at h
    split at h
    · simp at h
    · split at h <;> simp at h

theorem read_text {p : Place} {s : Text} {ts : List Tag} (h : read p s = some (.text, ts)) (hs : '>' ∉ s) :
    p = .text ∧ ts = [] := by
  induction s generalizing p ts with
  | nil => simpa [read, eq_comm] using h
  | cons c s ih =>
    obtain ⟨hc, hs⟩ : '>' ≠ c ∧ '>' ∉ s := by simpa using hs
    obtain ⟨q, ts, us, hstep, hread, rfl⟩ := read_cons.1 h
    obtain ⟨rfl, rfl⟩ := ih hread hs
    obtain ⟨rfl, rfl⟩ := step_text hstep (Ne.symm hc)
    exact ⟨rfl, rfl⟩

/-- **What is cut off behind the last tag is no part of it.** -/
theorem tags?_of_append {a b : Text} {ts : List Tag} (h : tags? (a ++ b) = some ts) (hb : '>' ∉ b) :
    tags? a = some ts := by
  obtain ⟨q, us, vs, ha, hread, rfl⟩ := read_append.1 (tags?_eq_some.1 h)
  obtain ⟨rfl, rfl⟩ := read_text hread hb
  rw [List.append_nil]
  exact tags?_eq_some.2 ha

theorem tags?_trimEnd {s : Text} {ts : List Tag} (h : tags? s = some ts) : tags? (Text.trimEnd s) = some ts := by
  rw [← Text.trimEnd_append_trailingBlank s] at h
  refine tags?_of_append h fun hmem => ?_
  exact absurd (List.all_eq_true.1 (Text.isBlankText_trailingBlank s) _ hmem) (by decide)

theorem tags?_dropLineEnd {s : Text} {ts : List Tag} (h : tags? s = some ts) : tags? (dropLineEnd s) = some ts := by
  unfold dropLineEnd
  split
  · next hlast =>
    obtain ⟨r, rfl⟩ := List.getLast?_eq_some_iff.1 hlast
    rw [List.dropLast_concat]
    exact tags?_of_append h (by decide)
  · exact h

theorem tags?_lineEnd_append {s : Text} {ts : List Tag} (h : tags? s = some ts) : tags? (lineEnd ++ s) = some ts :=
  tags?_append (show tags? lineEnd = some [] from rfl) h

theorem tags?_append_lineEnd {s : Text} {ts : List Tag} (h : tags? s = some ts) : tags? (s ++ lineEnd) = some ts := by
  rw [← List.append_nil ts]
  exact tags?_append h rfl

/-! ## Escaped text -/

theorem all_escapeChar {p : Char → Bool}
    (hentities : ∀ e ∈ ["&amp;".toList, "&lt;".toList, "&gt;".toList], e.all p = true) {c : Char}
    (hc : isTextChar c = true → p c = true) : (escapeChar c).all p = true := by
  unfold escapeChar
  split
  · exact hentities _ (by simp)
  · exact hentities _ (by simp)
  · exact hentities _ (by simp)
  · next _ hlt hgt =>
    have hchar : isTextChar c = true := by
      simp only [isTextChar, Bool.and_eq_true, decide_eq_true_eq]
      exact ⟨hlt, hgt⟩
    simpa using hc hchar

theorem all_escape (s : Text) : (escape s).all isTextChar = true := by
  rw [escape, List.all_flatMap, List.all_eq_true]
  exact fun c _ => all_escapeChar (by decide) id

theorem all_escapeQuoted (s : Text) : (escapeQuoted s).all isValueChar = true := by
  rw [escapeQuoted, List.all_flatMap, List.all_eq_true]
  intro c _
  unfold escapeQuotedChar
  split
  · decide
  · next hquote => exact all_escapeChar (by decide) fun hc => by simp [isValueChar, hquote, hc]

theorem tags?_escape (s : Text) : tags? (escape s) = some [] := tags?_eq_nil (all_escape s)

/-! ## Tags -/

theorem read_name (place : Text → Place)
    (hplace : ∀ name c, isNameChar c = true → step (place name) c = some (place (name ++ [c]), []))
    {s : Text} (h : s.all isNameChar = true) (name : Text) : read (place name) s = some (place (name ++ s), []) := by
  induction s generalizing name with
  | nil => simp [read]
  | cons c s ih =>
    rw [List.all_cons, Bool.and_eq_true] at h
    have hs := ih h.2 (name ++ [c])
    rw [List.append_assoc, List.singleton_append] at hs
    exact read_cons.2 ⟨_, [], [], hplace name c h.1, hs, rfl⟩

/-- Whether a place in an opening tag is behind a name or a value: the tag can end, or go on with one
more attribute. -/
def Behind (p : Place) (name : Text) (attributes : List Text) : Prop :=
  ∀ c, isNameChar c = false → c ≠ '=' → step p c = stepBehind name attributes c

theorem behind_openingName (name : Text) : Behind (.openingName name) name [] := fun c hc _ => by
  rw [step, if_neg (by simp [hc])]

theorem behind_attributeName (name : Text) (as : List Text) (a : Text) :
    Behind (.attributeName name as a) name (as ++ [a]) := fun c hc heq => by
  rw [step, if_neg (by simp [hc]), if_neg heq]

theorem behind_valueEnd (name : Text) (as : List Text) : Behind (.valueEnd name as) name as := fun _ _ _ => rfl

/-- Whether a text is a row of attributes with these names. -/
def IsAttributes (s : Text) (as : List Text) : Prop := ∀ p name before,
  Behind p name before → ∃ q, Behind q name (before ++ as) ∧ read p s = some (q, [])

namespace IsAttributes

theorem nil : IsAttributes [] [] := fun p _ _ h => ⟨p, by rwa [List.append_nil], rfl⟩

theorem append {s t : Text} {as bs : List Text} (hs : IsAttributes s as) (ht : IsAttributes t bs) :
    IsAttributes (s ++ t) (as ++ bs) := fun p name before h => by
  obtain ⟨q, hq, hreads⟩ := hs p name before h
  obtain ⟨r, hr, hreadt⟩ := ht q name _ hq
  exact ⟨r, by rwa [← List.append_assoc], read_trans hreads hreadt⟩

/-- The name of an attribute, behind a space. -/
theorem read_attributeName {p : Place} {name : Text} {before : List Text} (h : Behind p name before) {a : Text}
    (ha : isName a = true) : read p (' ' :: a) = some (.attributeName name before a, []) := by
  cases a with
  | nil => simp [isName] at ha
  | cons c a =>
    simp only [isName, Bool.and_eq_true, List.all_cons] at ha
    have hspace : step p ' ' = some (.attributeStart name before, []) := h ' ' (by decide) (by decide)
    have hfirst : step (.attributeStart name before) c = some (.attributeName name before [c], []) := if_pos ha.2.1
    have hrest := read_name (.attributeName name before) (fun _ _ hc => if_pos hc) ha.2.2 [c]
    exact read_cons.2 ⟨_, [], [], hspace, read_cons.2 ⟨_, [], [], hfirst, hrest, rfl⟩, rfl⟩

/-- An attribute without a value. -/
theorem bare {a : Text} (ha : isName a = true) : IsAttributes (' ' :: a) [a] := fun _ _ _ h =>
  ⟨_, behind_attributeName _ _ _, read_attributeName h ha⟩

/-- **An attribute ends with its value.** -/
theorem attr {a : String} {value : Text} (ha : isName a.toList = true) (hv : value.all isValueChar = true) :
    IsAttributes (attr a value) [a.toList] := fun p name before h => by
  refine ⟨.valueEnd name (before ++ [a.toList]), behind_valueEnd _ _, ?_⟩
  have hvalue : read (.value name (before ++ [a.toList])) value = some (.value name (before ++ [a.toList]), []) :=
    read_stay fun c hc => if_pos (List.all_eq_true.1 hv c hc)
  have hquoted := read_trans (p := .attributeName name before a.toList) (a := ['=', '"']) rfl
    (read_trans (b := ['"']) hvalue rfl)
  have hattr : Html.attr a value = (' ' :: a.toList) ++ (['=', '"'] ++ (value ++ ['"'])) := by simp [Html.attr]
  rw [hattr]
  exact read_trans (read_attributeName h ha) hquoted

end IsAttributes

theorem read_opening {name attributes : Text} {as : List Text} (hn : isName name = true)
    (ha : IsAttributes attributes as) : read .text (opening name attributes) = some (.behind name, [.opening name as]) := by
  cases name with
  | nil => simp [isName] at hn
  | cons c name =>
    simp only [isName, Bool.and_eq_true, List.all_cons] at hn
    obtain ⟨q, hq, hattributes⟩ := ha _ _ _ (behind_openingName (c :: name))
    have hne : c ≠ '/' := by
      rintro rfl
      exact absurd hn.2.1 (by decide)
    have hfirst : step .tagStart c = some (.openingName [c], []) := by rw [step, if_neg hne, if_pos hn.2.1]
    have hstart : read .text ['<', c] = some (.openingName [c], []) :=
      read_cons.2 ⟨.tagStart, [], [], rfl, read_cons.2 ⟨_, [], [], hfirst, rfl, rfl⟩, rfl⟩
    have hname := read_name .openingName (fun _ _ hc => if_pos hc) hn.2.2 [c]
    have hend : read q ['>'] = some (.behind (c :: name), [.opening (c :: name) as]) :=
      read_cons.2 ⟨_, _, [], hq '>' (by decide) (by decide), rfl, rfl⟩
    have htag : opening (c :: name) attributes = ['<', c] ++ (name ++ (attributes ++ ['>'])) := by simp [opening]
    rw [htag]
    exact read_trans hstart (read_trans hname (read_trans hattributes hend))

theorem read_closing {p : Place} (hp : p = .text ∨ p = .rawText) {name : Text} (hn : isName name = true) :
    read p (closing name) = some (.text, [.closing name]) := by
  simp only [isName, Bool.and_eq_true, decide_eq_true_eq] at hn
  have hstart : read p ['<', '/'] = some (.closingName [], []) := by
    rcases hp with rfl | rfl <;> rfl
  have hname := read_name .closingName (fun _ _ hc => if_pos hc) hn.2 []
  have hend : read (.closingName name) ['>'] = some (.text, [.closing name]) :=
    read_cons.2 ⟨.text, [.closing name], [], by
      rw [step, if_neg (by decide), if_pos ⟨rfl, hn.1⟩], rfl, rfl⟩
  have htag : closing name = ['<', '/'] ++ (name ++ ['>']) := by simp [closing]
  rw [htag]
  exact read_trans hstart (read_trans hname hend)

/-! ## Elements -/

/-- The elements that have no closing tag. -/
def voidNames : List Text := ["img".toList, "br".toList, "hr".toList]

/-- Whether a name is one of an element that holds other ones up to its closing tag. -/
def isElementName (name : Text) : Bool := isName name && name ∉ rawTextNames && name ∉ voidNames

/-- The tags of an element around those of its content. -/
def tagsAround (name : Text) (attributes : List Text) (inner : List Tag) : List Tag :=
  .opening name attributes :: (inner ++ [.closing name])

theorem tags?_opening {name attributes : Text} {as : List Text} (hn : isName name = true) (hraw : name ∉ rawTextNames)
    (ha : IsAttributes attributes as) : tags? (opening name attributes) = some [.opening name as] := by
  rw [tags?_eq_some, read_opening hn ha, Place.behind, if_neg hraw]

theorem tags?_around {name attributes content : Text} {as : List Text} {ts : List Tag} (hn : isElementName name = true)
    (ha : IsAttributes attributes as) (h : tags? content = some ts) :
    tags? (opening name attributes ++ content ++ closing name) = some (tagsAround name as ts) := by
  simp only [isElementName, Bool.and_eq_true, decide_eq_true_eq] at hn
  obtain ⟨⟨hname, hraw⟩, -⟩ := hn
  have hclosing : tags? (closing name) = some [.closing name] := tags?_eq_some.2 (read_closing (.inl rfl) hname)
  exact tags?_append (tags?_append (tags?_opening hname hraw ha) h) hclosing

/-- **An element gives its tags around those of its content.** -/
theorem tags?_element {name : String} {attributes content : Text} {as : List Text} {ts : List Tag}
    (hn : isElementName name.toList = true) (ha : IsAttributes attributes as) (h : tags? content = some ts) :
    tags? (element name attributes content) = some (tagsAround name.toList as ts) := tags?_around hn ha h

/-- An element of raw text gives only its own tags, whatever it holds beside `<`. -/
theorem tags?_rawText {name attributes content : Text} {as : List Text} (hn : isName name = true)
    (hraw : name ∈ rawTextNames) (ha : IsAttributes attributes as) (h : '<' ∉ content) :
    tags? (opening name attributes ++ content ++ closing name) = some (tagsAround name as []) := by
  have hopening := read_opening hn ha
  rw [Place.behind, if_pos hraw] at hopening
  have hcontent : read .rawText content = some (.rawText, []) := read_stay fun c hc => by
    have hne : c ≠ '<' := fun heq => h (heq ▸ hc)
    rw [step, if_neg hne]
  exact tags?_eq_some.2 (read_trans (read_trans hopening hcontent) (read_closing (.inr rfl) hn))

/-! ## Nesting -/

/-- Whether tags open and close elements in order, inside elements that are open, innermost first. -/
def nested : List Text → List Tag → Bool
  | opened, [] => opened = []
  | opened, .opening name _ :: ts => if name ∈ voidNames then nested opened ts else nested (name :: opened) ts
  | [], .closing _ :: _ => false
  | name :: opened, .closing other :: ts => name = other && nested opened ts

/-- Whether tags close all that they open and nothing else. -/
def Balanced (ts : List Tag) : Prop := ∀ opened us, nested opened (ts ++ us) = nested opened us

namespace Balanced

variable {ts us : List Tag}

theorem nested_nil (h : Balanced ts) : nested [] ts = true := by
  have := h [] []
  rwa [List.append_nil] at this

theorem nil : Balanced [] := fun _ _ => rfl

theorem append (h : Balanced ts) (h' : Balanced us) : Balanced (ts ++ us) := fun opened vs => by
  rw [List.append_assoc, h, h']

theorem void {name : Text} (hn : name ∈ voidNames) (as : List Text) : Balanced [.opening name as] := fun _ _ => if_pos hn

theorem around {name : Text} (hn : isElementName name = true) (as : List Text) (h : Balanced ts) :
    Balanced (tagsAround name as ts) := fun opened us => by
  simp only [isElementName, Bool.and_eq_true, decide_eq_true_eq] at hn
  rw [tagsAround, List.cons_append, nested, if_neg hn.2, List.append_assoc, h, List.singleton_append, nested]
  simp

end Balanced

end Coursebook.Html
