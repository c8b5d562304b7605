/-
What is written as JSON is read back, on one line or indented
(`read?_compact`, `read?_pretty`). The two ways of writing differ in white space only, so
both are a `Layout`, and there is one proof for all of these.

A value is read back in full if it is exact: a number in it is an integer of
a 64-bit word, and nothing in it is unreadable. Doubles are left out.
-/
import Coursebook.Json.Read
import Coursebook.Json.Write
import Coursebook.Proofs.Text.Numeral
import Mathlib.Data.List.DropRight

namespace Coursebook.Json

/-! ## Layouts -/

/-- The white space around the parts of a value: what stands in front of a part, or of a closing bracket, that is
so many levels in, and what stands behind a colon. -/
structure Layout where
  line : Nat → Text
  gap : Text

namespace Layout

def oneLine : Layout := ⟨fun _ => [], []⟩

def indented : Layout := ⟨newLine, [' ']⟩

mutual

def write (l : Layout) (level : Nat) : Json → Text
  | .array [] => ['[', ']']
  | .array items => '[' :: writeItems l (level + 1) items ++ l.line level ++ [']']
  | .object [] => ['{', '}']
  | .object members => '{' :: writeMembers l (level + 1) members ++ l.line level ++ ['}']
  | v => leafText v

def writeItems (l : Layout) (level : Nat) : List Json → Text
  | [] => []
  | [v] => l.line level ++ write l level v
  | v :: vs => l.line level ++ write l level v ++ ',' :: writeItems l level vs

def writeMembers (l : Layout) (level : Nat) : List (Text × Json) → Text
  | [] => []
  | [(k, v)] => l.line level ++ quote k ++ ':' :: (l.gap ++ write l level v)
  | (k, v) :: ms => l.line level ++ quote k ++ ':' :: (l.gap ++ write l level v) ++ ',' :: writeMembers l level ms

end

mutual

theorem write_oneLine (level : Nat) : ∀ v : Json, write oneLine level v = v.compact
  | .array [] => by simp [write, compact, compactItems]
  | .array (v :: vs) => by
    rw [write, writeItems_oneLine, compact]
    · simp [oneLine]
    · simp
  | .object [] => by simp [write, compact, compactMembers]
  | .object (m :: ms) => by
    rw [write, writeMembers_oneLine, compact]
    · simp [oneLine]
    · simp
  | .null | .bool _ | .integer _ | .real _ | .string _ | .unreadable => by simp [write, compact]

theorem writeItems_oneLine (level : Nat) : ∀ vs : List Json, writeItems oneLine level vs = compactItems vs
  | [] => rfl
  | [v] => by rw [writeItems, compactItems, write_oneLine level v]; rfl
  | v :: w :: vs => by
    rw [writeItems, compactItems, write_oneLine level v, writeItems_oneLine level (w :: vs)]
    · rfl
    · simp
    · simp

theorem writeMembers_oneLine (level : Nat) : ∀ ms : List (Text × Json), writeMembers oneLine level ms = compactMembers ms
  | [] => rfl
  | [(k, v)] => by rw [writeMembers, compactMembers, write_oneLine level v]; rfl
  | (k, v) :: m :: ms => by
    rw [writeMembers, compactMembers, write_oneLine level v, writeMembers_oneLine level (m :: ms)]
    · rfl
    · simp
    · simp

end

mutual

theorem write_indented (level : Nat) : ∀ v : Json, write indented level v = v.pretty level
  | .array [] => by simp [write, pretty]
  | .array (v :: vs) => by
    rw [write, writeItems_indented, pretty]
    · rfl
    · simp
    · simp
  | .object [] => by simp [write, pretty]
  | .object (m :: ms) => by
    rw [write, writeMembers_indented, pretty]
    · rfl
    · simp
    · simp
  | .null | .bool _ | .integer _ | .real _ | .string _ | .unreadable => by simp [write, pretty]

theorem writeItems_indented (level : Nat) : ∀ vs : List Json, writeItems indented level vs = prettyItems level vs
  | [] => rfl
  | [v] => by rw [writeItems, prettyItems, write_indented level v]; rfl
  | v :: w :: vs => by
    rw [writeItems, prettyItems, write_indented level v, writeItems_indented level (w :: vs)]
    · rfl
    · simp
    · simp

theorem writeMembers_indented (level : Nat) :
    ∀ ms : List (Text × Json), writeMembers indented level ms = prettyMembers level ms
  | [] => rfl
  | [(k, v)] => by rw [writeMembers, prettyMembers, write_indented level v]; rfl
  | (k, v) :: m :: ms => by
    rw [writeMembers, prettyMembers, write_indented level v, writeMembers_indented level (m :: ms)]
    · rfl
    · simp
    · simp

end

end Layout

/-! ## White space -/

def Blank (s : Text) : Prop := ∀ c ∈ s, isSpace c = true

theorem skipSpace_append {b : Text} (hb : Blank b) {c : Char} (hc : isSpace c = false) (r : Text) :
    skipSpace (b ++ c :: r) = c :: r := by
  rw [skipSpace, List.dropWhile_append_of_pos hb]
  simp [hc]

theorem skipSpace_cons {c : Char} (hc : isSpace c = false) (r : Text) : skipSpace (c :: r) = c :: r :=
  skipSpace_append (b := []) (by simp [Blank]) hc r

/-- Whether a layout has white space only. -/
def Layout.Blank (l : Layout) : Prop := (∀ level, Json.Blank (l.line level)) ∧ Json.Blank l.gap

theorem Layout.blank_oneLine : oneLine.Blank := by simp [Layout.Blank, Json.Blank, oneLine]

theorem Layout.blank_indented : indented.Blank := by
  refine ⟨fun level c hc => ?_, by simp [Json.Blank, indented, isSpace]⟩
  rcases List.mem_cons.1 hc with rfl | hc
  · rfl
  · rw [List.eq_of_mem_replicate hc]
    rfl

/-! ## Strings -/

/-- A control character is read back from its code. -/
theorem readUnicodeEscape_control {c : Char} (hc : c.toNat < 0x20) (r : Text) :
    readUnicodeEscape ('0' :: '0' :: hexDigit (c.toNat / 16) :: hexDigit (c.toNat % 16) :: r) = some (some c, r) := by
  have hcodes : ∀ n < 0x20,
      ['0', '0', hexDigit (n / 16), hexDigit (n % 16)].all (fun x => (Text.hexDigit? x).isSome) = true ∧
        Text.hexValue ['0', '0', hexDigit (n / 16), hexDigit (n % 16)] = n := by
    decide
  obtain ⟨hdigits, hvalue⟩ := hcodes c.toNat hc
  have hhigh : isHighSurrogate c.toNat = false := by simp [isHighSurrogate]; omega
  have hlow : isLowSurrogate c.toNat = false := by simp [isLowSurrogate]; omega
  rw [readUnicodeEscape, readHex4, if_pos hdigits, hvalue]
  simp [hhigh, hlow]

theorem readChars_simple {e c : Char} (h : simpleEscape? e = some c) (fuel : Nat) (r : Text) :
    readChars (fuel + 1) ('\\' :: e :: r) = (readChars fuel r).map (consChar (some c)) := by
  have he : e ≠ 'u' := fun he => by simp [he, simpleEscape?] at h
  rw [readChars, h, Option.map_eq_bind]
  · rfl
  · exact he

theorem readChars_plain {c : Char} (hquote : c ≠ '"') (hbackslash : c ≠ '\\') (hcode : ¬c.toNat < 0x20) (fuel : Nat)
    (r : Text) : readChars (fuel + 1) (c :: r) = (readChars fuel r).map (consChar (some c)) := by
  rw [readChars, if_neg (not_or.2 ⟨hbackslash, hcode⟩), Option.map_eq_bind]
  · rfl
  · exact hquote
  · exact fun _ hc _ => hbackslash hc
  · exact fun _ _ hc _ => hbackslash hc

/-- A character is read back from what is written for it. -/
theorem readChars_escapeChar (fuel : Nat) (c : Char) (r : Text) :
    readChars (fuel + 1) (escapeChar c ++ r) = (readChars fuel r).map (consChar (some c)) := by
  unfold escapeChar
  split
  case h_8 hquote hbackslash _ _ _ _ _ =>
    split
    next hc =>
      simp only [List.cons_append, List.nil_append, readChars, readUnicodeEscape_control hc]
      rw [Option.map_eq_bind]
      rfl
    next hc => exact readChars_plain hquote hbackslash hc fuel r
  all_goals exact readChars_simple rfl fuel r

theorem readChars_quoted (s r : Text) : ∀ {fuel : Nat}, s.length < fuel →
    readChars fuel (s.flatMap escapeChar ++ '"' :: r) = some (some s, r) := by
  induction s with
  | nil =>
    intro fuel hfuel
    obtain ⟨fuel, rfl⟩ := Nat.exists_eq_add_of_lt hfuel
    rw [Nat.add_assoc, Nat.add_comm]
    rfl
  | cons c s ih =>
    intro fuel hfuel
    obtain ⟨fuel, rfl⟩ : ∃ n, fuel = n + 1 := ⟨fuel - 1, by omega⟩
    rw [List.flatMap_cons, List.append_assoc, readChars_escapeChar, ih (Nat.lt_of_succ_lt_succ hfuel)]
    rfl

theorem length_escapeChar_pos (c : Char) : 0 < (escapeChar c).length := by
  unfold escapeChar
  split
  case h_8 => split <;> simp
  all_goals simp

theorem quote_append (s r : Text) : quote s ++ r = '"' :: (s.flatMap escapeChar ++ '"' :: r) := by
  simp [quote]

/-- **A string is read back**, whatever is in it. -/
theorem readString_quoted (s r : Text) : readString (s.flatMap escapeChar ++ '"' :: r) = some (some s, r) := by
  refine readChars_quoted s r ?_
  have hlength : s.length ≤ (s.flatMap escapeChar).length := by
    induction s with
    | nil => exact Nat.le_refl 0
    | cons c s ih =>
      have := length_escapeChar_pos c
      rw [List.flatMap_cons, List.length_append, List.length_cons]
      omega
  rw [List.length_append, List.length_cons]
  omega

/-! ## Numbers -/

/-- Whether a number may end in front of a text. -/
def EndsNumber (r : Text) : Prop := ∀ c ∈ r.head?, Text.isAsciiDigit c = false ∧ c ∉ ['.', 'e', 'E']

theorem EndsNumber.readFraction {r : Text} (h : EndsNumber r) : readFraction r = some (none, r) := by
  cases r with
  | nil => rfl
  | cons c r =>
    have hpoint : c ≠ '.' := fun hc => (h c rfl).2 (by simp [hc])
    rw [Json.readFraction]
    exact fun _ hc => hpoint (List.cons.inj hc).1

theorem EndsNumber.readExponent {r : Text} (h : EndsNumber r) : readExponent r = some (none, r) := by
  cases r with
  | nil => rfl
  | cons c r =>
    have hletter : c ≠ 'e' ∧ c ≠ 'E' := ⟨fun hc => (h c rfl).2 (by simp [hc]), fun hc => (h c rfl).2 (by simp [hc])⟩
    simp only [Json.readExponent, if_pos hletter]
    rfl

theorem EndsNumber.readDigits {r : Text} (h : EndsNumber r) {ds : Text} (hne : ds ≠ [])
    (hds : ∀ d ∈ ds, Text.isAsciiDigit d = true) : readDigits (ds ++ r) = some (ds, r) := by
  have hend : r.takeWhile Text.isAsciiDigit = [] ∧ r.dropWhile Text.isAsciiDigit = r := by
    cases r with
    | nil => exact ⟨rfl, rfl⟩
    | cons c r => simp [(h c rfl).1]
  obtain ⟨d, ds, rfl⟩ := List.exists_cons_of_ne_nil hne
  rw [Json.readDigits, List.takeWhile_append_of_pos hds, List.dropWhile_append_of_pos hds, hend.1, hend.2, List.append_nil]

/-- The number that a word and the digits behind it amount to. -/
def extended (word : Nat) (ds : Text) : Nat := ds.foldl (fun n d => n * 10 + (d.toNat - 48)) word

theorem le_extended : ∀ (word : Nat) (ds : Text), word ≤ extended word ds
  | _, [] => Nat.le_refl _
  | word, d :: ds => Nat.le_trans (by omega) (le_extended (word * 10 + (d.toNat - 48)) ds)

/-- Digits are pushed to the end as long as what they amount to is a word. -/
theorem pushDigits_eq : ∀ {word : Nat} {ds : Text}, extended word ds ≤ Decimal.maxWord →
    pushDigits word ds = (extended word ds, 0)
  | _, [], _ => rfl
  | word, d :: ds, h => by
    rw [pushDigits, if_pos (Nat.le_trans (le_extended _ ds) h)]
    exact pushDigits_eq h

/-- A word is read back from its digits. -/
theorem readNumber_ofNat {n : Nat} (negative : Bool) (hn : n ≤ Decimal.maxWord)
    (hneg : negative = true → 0 < n ∧ n ≤ 0x8000000000000000) {r : Text} (hr : EndsNumber r) :
    readNumber negative (Text.ofNat n ++ r) = some (.integer (if negative then -n else n), r) := by
  have hpush : pushDigits 0 (Text.ofNat n) = (n, 0) := by
    have hvalue : extended 0 (Text.ofNat n) = n := Text.digitsValue_ofNat n
    rw [pushDigits_eq (by rwa [hvalue]), hvalue]
  have hzero : ¬((Text.ofNat n).length ≠ 1 ∧ (Text.ofNat n).head? = some '0') := by
    rintro ⟨hlength, hhead⟩
    rw [Text.eq_zero_of_head?_ofNat hhead] at hlength
    exact hlength rfl
  have hvalue : numberValue negative (Text.ofNat n) none none = .integer (if negative then -n else n) := by
    have hword : if negative = true then 0 < n ∧ n ≤ 0x8000000000000000 else True := by
      split
      next h => exact hneg h
      next => trivial
    simp only [numberValue, hpush]
    exact if_pos ⟨trivial, hword⟩
  rw [readNumber, hr.readDigits (Text.ofNat_ne_nil n) fun d => Text.isAsciiDigit_of_mem_ofNat]
  simp only [Option.bind_eq_bind, Option.bind_some, if_neg hzero, hr.readFraction, hr.readExponent, hvalue]
  rfl

/-! ## Values -/

mutual

/-- Whether a value is read back in full: an integer in it is a 64-bit word, and there are no doubles. -/
def isExact : Json → Bool
  | .integer n => -0x8000000000000000 ≤ n && n ≤ Decimal.maxWord
  | .array items => allExact items
  | .object members => allMembersExact members
  | .real _ | .unreadable => false
  | .null | .bool _ | .string _ => true

def allExact : List Json → Bool
  | [] => true
  | v :: vs => isExact v && allExact vs

/-- Whether the value of every member is read back in full. -/
def allMembersExact : List (Text × Json) → Bool
  | [] => true
  | (_, v) :: ms => isExact v && allMembersExact ms

end

theorem isExact_nat {n : Nat} (h : n ≤ Decimal.maxWord) : (nat n).isExact = true := by
  simp only [nat, isExact, Bool.and_eq_true, decide_eq_true_eq]
  omega

theorem isExact_record {members : List (String × Json)} (h : ∀ m ∈ members, m.2.isExact = true) :
    (record members).isExact = true := by
  rw [record, isExact]
  induction members with
  | nil => rfl
  | cons m members ih =>
    obtain ⟨hm, hmembers⟩ := List.forall_mem_cons.1 h
    exact Bool.and_eq_true_iff.2 ⟨hm, ih hmembers⟩

theorem skipSpace_skipSpace (s : Text) : skipSpace (skipSpace s) = skipSpace s := List.dropWhile_idempotent isSpace s

theorem readValue_skipSpace (fuel : Nat) (s : Text) : readValue fuel (skipSpace s) = readValue fuel s := by
  cases fuel with
  | zero => rfl
  | succ fuel => rw [readValue, readValue, skipSpace_skipSpace]

theorem readItems_skipSpace (fuel : Nat) (s : Text) : readItems fuel (skipSpace s) = readItems fuel s := by
  cases fuel with
  | zero => rfl
  | succ fuel => rw [readItems, readItems, readValue_skipSpace]

theorem readMembers_skipSpace (fuel : Nat) (s : Text) : readMembers fuel (skipSpace s) = readMembers fuel s := by
  cases fuel with
  | zero => rfl
  | succ fuel => rw [readMembers, readMembers, skipSpace_skipSpace]

theorem readValue_string {fuel : Nat} {s t r : Text} (h : skipSpace s = quote t ++ r) :
    readValue (fuel + 1) s = some (.string t, r) := by
  rw [readValue, h, quote_append]
  simp only [readString_quoted]
  rfl

theorem isAsciiDigit_of_ofNat_append {n : Nat} {r t : Text} {c : Char} (h : Text.ofNat n ++ r = c :: t) :
    Text.isAsciiDigit c = true := by
  obtain ⟨d, ds, hds⟩ := List.exists_cons_of_ne_nil (Text.ofNat_ne_nil n)
  rw [hds, List.cons_append] at h
  exact (List.cons.inj h).1 ▸ Text.isAsciiDigit_of_mem_ofNat (hds ▸ List.mem_cons_self)

theorem readValue_integer {fuel : Nat} {s : Text} {n : Int} {r : Text} (hn : isExact (.integer n) = true) (hr : EndsNumber r)
    (h : skipSpace s = Text.ofInt n ++ r) : readValue (fuel + 1) s = some (.integer n, r) := by
  rw [isExact, Bool.and_eq_true, decide_eq_true_eq, decide_eq_true_eq] at hn
  cases n with
  | ofNat n =>
    have hread : readNumber false (Text.ofNat n ++ r) = some (.integer n, r) :=
      readNumber_ofNat false (Int.ofNat_le.1 hn.2) (by simp) hr
    rw [Text.ofInt] at h
    rw [readValue, h]
    split
    case h_8 => exact hread
    all_goals exact absurd (isAsciiDigit_of_ofNat_append ‹_›) (by decide)
  | negSucc n =>
    have hbound : n + 1 ≤ 0x8000000000000000 := by omega
    have hread := readNumber_ofNat true (Nat.le_trans hbound (by decide)) (fun _ => ⟨Nat.succ_pos n, hbound⟩) hr
    rw [Text.ofInt] at h
    rw [readValue, h]
    exact hread

/-! ### Arrays and objects -/

theorem readValue_array {fuel : Nat} {s t r : Text} {vs : List Json} (h : skipSpace s = '[' :: t)
    (hend : ∀ u, skipSpace t ≠ ']' :: u) (hitems : readItems fuel t = some (vs, r)) :
    readValue (fuel + 1) s = some (.array vs, r) := by
  rw [readValue, h]
  simp only [readItems_skipSpace, hitems, Option.map_some]

theorem readItems_last {fuel : Nat} {s b r : Text} {v : Json} (hv : readValue fuel s = some (v, b ++ ']' :: r))
    (hb : Blank b) : readItems (fuel + 1) s = some ([v], r) := by
  rw [readItems, hv]
  simp [skipSpace_append hb (c := ']') rfl]

theorem readItems_next {fuel : Nat} {s t r : Text} {v : Json} {vs : List Json} (hv : readValue fuel s = some (v, ',' :: t))
    (hvs : readItems fuel t = some (vs, r)) : readItems (fuel + 1) s = some (v :: vs, r) := by
  rw [readItems, hv]
  simp [skipSpace_cons (c := ',') rfl, hvs]

/-- The members of an object as they come out of the reading. -/
def named (ms : List (Text × Json)) : List (Option Text × Json) := ms.map fun m => (some m.1, m.2)

theorem objectOf_named (ms : List (Text × Json)) : objectOf (named ms) = .object ms := by
  have hmembers : (named ms).mapM (fun m => m.1.map fun k => (k, m.2)) = some ms := by
    induction ms with
    | nil => rfl
    | cons m ms ih =>
      rw [named] at ih
      rw [named, List.map_cons, List.mapM_cons, ih]
      rfl
  simp only [objectOf, hmembers]

theorem readValue_object {fuel : Nat} {s t r : Text} {ms : List (Text × Json)} (h : skipSpace s = '\x7b' :: t)
    (hend : ∀ u, skipSpace t ≠ '\x7d' :: u) (hmembers : readMembers fuel t = some (named ms, r)) :
    readValue (fuel + 1) s = some (.object ms, r) := by
  rw [readValue, h]
  simp only [readMembers_skipSpace, hmembers, Option.map_some, objectOf_named]

theorem readMembers_last {fuel : Nat} {s k t b r : Text} {v : Json} (hs : skipSpace s = quote k ++ ':' :: t)
    (hv : readValue fuel t = some (v, b ++ '\x7d' :: r)) (hb : Blank b) :
    readMembers (fuel + 1) s = some (named [(k, v)], r) := by
  rw [readMembers, hs, quote_append]
  simp [readString_quoted, skipSpace_cons (c := ':') rfl, hv, skipSpace_append hb (c := '\x7d') rfl, named]

theorem readMembers_next {fuel : Nat} {s k t u r : Text} {v : Json} {ms : List (Text × Json)}
    (hs : skipSpace s = quote k ++ ':' :: t) (hv : readValue fuel t = some (v, ',' :: u))
    (hms : readMembers fuel u = some (named ms, r)) : readMembers (fuel + 1) s = some (named ((k, v) :: ms), r) := by
  rw [readMembers, hs, quote_append]
  simp [readString_quoted, skipSpace_cons (c := ':') rfl, hv, skipSpace_cons (c := ',') rfl, hms, named]

/-! ### Everything that a layout writes -/

theorem endsNumber_cons {c : Char} (hc : Text.isAsciiDigit c = false ∧ c ∉ ['.', 'e', 'E']) (r : Text) :
    EndsNumber (c :: r) := by
  rintro d ⟨⟩
  exact hc

theorem not_number_of_isSpace {c : Char} (hc : isSpace c = true) : Text.isAsciiDigit c = false ∧ c ∉ ['.', 'e', 'E'] := by
  simp only [isSpace, Bool.or_eq_true, decide_eq_true_eq] at hc
  rcases hc with ((rfl | rfl) | rfl) | rfl <;> decide

theorem Blank.endsNumber {b r : Text} (hb : Blank b) (hr : EndsNumber r) : EndsNumber (b ++ r) := by
  cases b with
  | nil => exact hr
  | cons c b => exact endsNumber_cons (not_number_of_isSpace (hb c List.mem_cons_self)) _

/-- What is written for a value starts with no white space, and with no closing bracket. -/
theorem Layout.exists_write_eq_cons (l : Layout) (level : Nat) {v : Json} (hv : v.isExact = true) :
    ∃ c t, l.write level v = c :: t ∧ isSpace c = false ∧ c ≠ ']' := by
  cases v with
  | null => exact ⟨_, _, rfl, by decide⟩
  | bool b => cases b <;> exact ⟨_, _, rfl, by decide⟩
  | string s => exact ⟨_, _, rfl, by decide⟩
  | array items => cases items <;> exact ⟨_, _, rfl, by decide⟩
  | object members => cases members <;> exact ⟨_, _, rfl, by decide⟩
  | real | unreadable => cases hv
  | integer n =>
    cases n with
    | negSucc n => exact ⟨_, _, rfl, by decide⟩
    | ofNat n =>
      obtain ⟨d, ds, hds⟩ := List.exists_cons_of_ne_nil (Text.ofNat_ne_nil n)
      have hd : Text.isAsciiDigit d = true := Text.isAsciiDigit_of_mem_ofNat (hds ▸ List.mem_cons_self)
      refine ⟨d, ds, hds, ?_, ?_⟩
      · refine Bool.eq_false_iff.2 fun hspace => ?_
        rw [(not_number_of_isSpace hspace).1] at hd
        cases hd
      · rintro rfl
        exact absurd hd (by decide)

theorem Blank.skipSpace_write {b : Text} (hb : Blank b) (l : Layout) (level : Nat) {v : Json} (hv : v.isExact = true) (r : Text) :
    skipSpace (b ++ (l.write level v ++ r)) = l.write level v ++ r := by
  obtain ⟨c, t, ht, hc, -⟩ := l.exists_write_eq_cons level hv
  rw [ht, List.cons_append, skipSpace_append hb hc]

theorem fuel_pos {l : Layout} {level fuel : Nat} {v : Json} (hv : v.isExact = true)
    (hfuel : 2 * (l.write level v).length ≤ fuel) : ∃ n, fuel = n + 1 := by
  obtain ⟨c, t, ht, -⟩ := l.exists_write_eq_cons level hv
  rw [ht, List.length_cons] at hfuel
  exact ⟨fuel - 1, by omega⟩

theorem readValue_leaf {v : Json} (hv : v.isExact = true) (hitems : ∀ vs, v ≠ .array vs) (hmembers : ∀ ms, v ≠ .object ms)
    {fuel : Nat} {s r : Text} (hr : EndsNumber r) (hs : skipSpace s = leafText v ++ r) :
    readValue (fuel + 1) s = some (v, r) := by
  cases v with
  | null => rw [readValue, hs]; rfl
  | bool b => cases b <;> (rw [readValue, hs]; rfl)
  | integer n => exact readValue_integer hv hr hs
  | string t => exact readValue_string hs
  | array items => exact absurd rfl (hitems items)
  | object members => exact absurd rfl (hmembers members)
  | real | unreadable => cases hv

theorem Layout.writeItems_cons (l : Layout) (level : Nat) (v : Json) (vs : List Json) :
    ∃ t, l.writeItems level (v :: vs) = l.line level ++ (l.write level v ++ t) := by
  cases vs with
  | nil => exact ⟨[], by rw [writeItems, List.append_nil]⟩
  | cons w vs => exact ⟨_, by rw [writeItems, List.append_assoc]; simp⟩

theorem Layout.writeMembers_cons (l : Layout) (level : Nat) (k : Text) (v : Json) (ms : List (Text × Json)) :
    ∃ t, l.writeMembers level ((k, v) :: ms) = l.line level ++ (quote k ++ t) := by
  cases ms with
  | nil => exact ⟨_, by rw [writeMembers, List.append_assoc]⟩
  | cons m ms => exact ⟨_, by rw [writeMembers, List.append_assoc, List.append_assoc]; simp⟩

theorem Layout.write_items_append (l : Layout) (level : Nat) (v : Json) (vs : List Json) (r : Text) :
    l.write level (.array (v :: vs)) ++ r = '[' :: (l.writeItems (level + 1) (v :: vs) ++ (l.line level ++ ']' :: r)) := by
  simp [write]

theorem Layout.write_members_append (l : Layout) (level : Nat) (m : Text × Json) (ms : List (Text × Json)) (r : Text) :
    l.write level (.object (m :: ms)) ++ r =
      '\x7b' :: (l.writeMembers (level + 1) (m :: ms) ++ (l.line level ++ '\x7d' :: r)) := by
  simp [write]

section

variable {l : Layout} (hl : l.Blank)

include hl

theorem readValue_items {fuel level : Nat} {s r : Text} {v : Json} {vs : List Json} (hv : v.isExact = true)
    (hs : skipSpace s = l.write level (.array (v :: vs)) ++ r)
    (hitems : readItems fuel (l.writeItems (level + 1) (v :: vs) ++ (l.line level ++ ']' :: r)) = some (v :: vs, r)) :
    readValue (fuel + 1) s = some (.array (v :: vs), r) := by
  rw [l.write_items_append] at hs
  refine readValue_array hs (fun u => ?_) hitems
  obtain ⟨t, ht⟩ := l.writeItems_cons (level + 1) v vs
  obtain ⟨c, w, hw, -, hc⟩ := l.exists_write_eq_cons (level + 1) hv
  rw [ht, List.append_assoc, List.append_assoc, (hl.1 _).skipSpace_write l _ hv, hw]
  exact fun hu => hc (List.cons.inj hu).1

theorem readValue_members {fuel level : Nat} {s r : Text} {m : Text × Json} {ms : List (Text × Json)}
    (hs : skipSpace s = l.write level (.object (m :: ms)) ++ r)
    (hmembers : readMembers fuel (l.writeMembers (level + 1) (m :: ms) ++ (l.line level ++ '\x7d' :: r)) =
      some (named (m :: ms), r)) :
    readValue (fuel + 1) s = some (.object (m :: ms), r) := by
  rw [l.write_members_append] at hs
  refine readValue_object hs (fun u => ?_) hmembers
  obtain ⟨t, ht⟩ := l.writeMembers_cons (level + 1) m.1 m.2 ms
  rw [ht, List.append_assoc, List.append_assoc, quote_append, skipSpace_append (hl.1 _) rfl]
  exact fun hu => absurd (List.cons.inj hu).1 (by decide)

mutual

/-- **What a layout writes is read back**, behind white space and in front of anything that ends a number. -/
theorem readValue_write : ∀ {v : Json}, v.isExact = true → ∀ (level : Nat) {fuel : Nat} {s r : Text}, EndsNumber r →
    skipSpace s = l.write level v ++ r → 2 * (l.write level v).length ≤ fuel → readValue fuel s = some (v, r)
  | .null, hv, level, fuel, s, r, hr, hs, hfuel | .bool _, hv, level, fuel, s, r, hr, hs, hfuel
  | .integer _, hv, level, fuel, s, r, hr, hs, hfuel | .real _, hv, level, fuel, s, r, hr, hs, hfuel
  | .string _, hv, level, fuel, s, r, hr, hs, hfuel | .unreadable, hv, level, fuel, s, r, hr, hs, hfuel => by
    obtain ⟨fuel, rfl⟩ := fuel_pos hv hfuel
    exact readValue_leaf hv nofun nofun hr hs
  | .array [], hv, level, fuel, s, r, _, hs, hfuel => by
    obtain ⟨fuel, rfl⟩ := fuel_pos hv hfuel
    rw [readValue, hs]
    simp [Layout.write, skipSpace_cons (c := ']') rfl]
  | .object [], hv, level, fuel, s, r, _, hs, hfuel => by
    obtain ⟨fuel, rfl⟩ := fuel_pos hv hfuel
    rw [readValue, hs]
    simp [Layout.write, skipSpace_cons (c := '\x7d') rfl]
  | .array (v :: vs), hv, level, fuel, s, r, _, hs, hfuel => by
    obtain ⟨fuel, rfl⟩ := fuel_pos hv hfuel
    have hlength := congrArg List.length (l.write_items_append level v vs [])
    simp only [List.length_append, List.length_cons, List.length_nil] at hlength
    have hvs : allExact (v :: vs) = true := hv
    refine readValue_items hl (Bool.and_eq_true_iff.1 hvs).1 hs (readItems_write (List.cons_ne_nil v vs) hvs _ (hl.1 level) ?_)
    omega
  | .object (m :: ms), hv, level, fuel, s, r, _, hs, hfuel => by
    obtain ⟨fuel, rfl⟩ := fuel_pos hv hfuel
    have hlength := congrArg List.length (l.write_members_append level m ms [])
    simp only [List.length_append, List.length_cons, List.length_nil] at hlength
    refine readValue_members hl hs (readMembers_write (List.cons_ne_nil m ms) hv _ (hl.1 level) ?_)
    omega

theorem readItems_write : ∀ {vs : List Json}, vs ≠ [] → allExact vs = true → ∀ (level : Nat) {fuel : Nat} {b r : Text},
    Blank b → 2 * (l.writeItems level vs).length + 1 ≤ fuel →
      readItems fuel (l.writeItems level vs ++ (b ++ ']' :: r)) = some (vs, r)
  | [], hne, _, _, _, _, _, _, _ => absurd rfl hne
  | [v], _, hvs, level, fuel, b, r, hb, hfuel => by
    obtain ⟨fuel, rfl⟩ : ∃ n, fuel = n + 1 := ⟨fuel - 1, by omega⟩
    have hv := (Bool.and_eq_true_iff.1 hvs).1
    rw [Layout.writeItems, List.length_append] at hfuel
    refine readItems_last (readValue_write hv level (hb.endsNumber (endsNumber_cons (by decide) r)) ?_ (by omega)) hb
    rw [Layout.writeItems, List.append_assoc, (hl.1 level).skipSpace_write l level hv]
  | v :: w :: vs, _, hvs, level, fuel, b, r, hb, hfuel => by
    obtain ⟨fuel, rfl⟩ : ∃ n, fuel = n + 1 := ⟨fuel - 1, by omega⟩
    obtain ⟨hv, hvs⟩ := Bool.and_eq_true_iff.1 hvs
    have hwrite : l.writeItems level (v :: w :: vs) =
        l.line level ++ (l.write level v ++ ',' :: l.writeItems level (w :: vs)) := by
      rw [Layout.writeItems, List.append_assoc]
      simp
    rw [hwrite, List.length_append, List.length_append, List.length_cons] at hfuel
    refine readItems_next (readValue_write hv level (endsNumber_cons (c := ',') (by decide) _) ?_ (by omega))
      (readItems_write (List.cons_ne_nil w vs) hvs level hb (by omega))
    rw [hwrite, List.append_assoc, List.append_assoc, (hl.1 level).skipSpace_write l level hv, List.cons_append]

theorem readMembers_write : ∀ {ms : List (Text × Json)}, ms ≠ [] → allMembersExact ms = true →
    ∀ (level : Nat) {fuel : Nat} {b r : Text}, Blank b → 2 * (l.writeMembers level ms).length + 1 ≤ fuel →
      readMembers fuel (l.writeMembers level ms ++ (b ++ '\x7d' :: r)) = some (named ms, r)
  | [], hne, _, _, _, _, _, _, _ => absurd rfl hne
  | [(k, v)], _, hms, level, fuel, b, r, hb, hfuel => by
    obtain ⟨fuel, rfl⟩ : ∃ n, fuel = n + 1 := ⟨fuel - 1, by omega⟩
    have hv := (Bool.and_eq_true_iff.1 hms).1
    have hwrite : l.writeMembers level [(k, v)] = l.line level ++ (quote k ++ ':' :: (l.gap ++ l.write level v)) := by
      rw [Layout.writeMembers, List.append_assoc]
    simp only [hwrite, List.length_append, List.length_cons] at hfuel
    refine readMembers_last ?_ (readValue_write hv level (hb.endsNumber (endsNumber_cons (by decide) r))
      (hl.2.skipSpace_write l level hv _) (by omega)) hb
    simp only [hwrite, List.append_assoc, List.cons_append]
    rw [quote_append, skipSpace_append (hl.1 level) rfl]
  | (k, v) :: m :: ms, _, hms, level, fuel, b, r, hb, hfuel => by
    obtain ⟨fuel, rfl⟩ : ∃ n, fuel = n + 1 := ⟨fuel - 1, by omega⟩
    obtain ⟨hv, hms⟩ := Bool.and_eq_true_iff.1 hms
    have hwrite : l.writeMembers level ((k, v) :: m :: ms) =
        l.line level ++ (quote k ++ ':' :: (l.gap ++ (l.write level v ++ ',' :: l.writeMembers level (m :: ms)))) := by
      rw [Layout.writeMembers]
      · simp
      · simp
    simp only [hwrite, List.length_append, List.length_cons] at hfuel
    refine readMembers_next ?_ (readValue_write hv level (endsNumber_cons (c := ',') (by decide) _)
      (hl.2.skipSpace_write l level hv _) (by omega)) (readMembers_write (List.cons_ne_nil m ms) hms level hb (by omega))
    simp only [hwrite, List.append_assoc, List.cons_append]
    rw [quote_append, skipSpace_append (hl.1 level) rfl]

end

theorem read?_write {v : Json} (hv : v.isExact = true) (level : Nat) : read? (l.write level v) = some v := by
  have hstart : skipSpace (l.write level v) = l.write level v ++ [] := by
    have hnone : Blank [] := by simp [Blank]
    simpa using hnone.skipSpace_write l level hv []
  have hend : EndsNumber [] := by simp [EndsNumber]
  rw [read?, readValue_write hl hv level hend hstart (by omega)]
  rfl

end

/-- **A value is read back from one line.** -/
theorem read?_compact {v : Json} (hv : v.isExact = true) : read? v.compact = some v := by
  rw [← Layout.write_oneLine 0]
  exact read?_write Layout.blank_oneLine hv 0

/-- **A value is read back from its lines.** -/
theorem read?_pretty {v : Json} (hv : v.isExact = true) (level : Nat) : read? (v.pretty level) = some v := by
  rw [← Layout.write_indented level]
  exact read?_write Layout.blank_indented hv level

end Coursebook.Json
