/-
Reading JSON as RFC 8259 defines it: no byte order mark, no comments, no
trailing commas, nothing but white space behind the value.

A number without fraction and exponent is an integer as long as a 64-bit
word holds it, signed or not; any other number is a double.
-/
import Coursebook.Decimal.Scaled
import Coursebook.Json.Value
import Coursebook.Text.Table

namespace Coursebook.Json

def isSpace (c : Char) : Bool := c = ' ' || c = '\n' || c = '\t' || c = '\r'

def skipSpace (s : Text) : Text := s.dropWhile isSpace

/-! ## Strings -/

def readHex4 : Text → Option (Nat × Text)
  | a :: b :: c :: d :: s =>
    if [a, b, c, d].all fun x => (Text.hexDigit? x).isSome then some (Text.hexValue [a, b, c, d], s) else none
  | _ => none

/-- The characters that a backslash and one letter write. -/
def simpleEscape? : Char → Option Char
  | '"' => some '"'
  | '\\' => some '\\'
  | '/' => some '/'
  | 'b' => some '\x08'
  | 'f' => some '\x0c'
  | 'n' => some '\n'
  | 'r' => some '\r'
  | 't' => some '\t'
  | _ => none

/-- What a code unit of an escape starts or stands for. -/
def isHighSurrogate (n : Nat) : Bool := 0xD800 ≤ n && n < 0xDC00

/-- Whether a code unit is the second half of a surrogate pair. -/
def isLowSurrogate (n : Nat) : Bool := 0xDC00 ≤ n && n < 0xE000

/-- Reads what follows `\u`: a character, or nothing for an unpaired surrogate. -/
def readUnicodeEscape (s : Text) : Option (Option Char × Text) := do
  let (n, r) ← readHex4 s
  if isHighSurrogate n then
    match r with
    | '\\' :: 'u' :: r' =>
      let (m, r'') ← readHex4 r'
      if isLowSurrogate m then some (some (Char.ofNat (0x10000 + (n - 0xD800) * 0x400 + (m - 0xDC00))), r'')
      else some (none, r)
    | _ => some (none, r)
  else if isLowSurrogate n then some (none, r)
  else some (some (Char.ofNat n), r)

/-- Puts a character in front of a string that was read, if both have a value. -/
def consChar (c : Option Char) : Option Text × Text → Option Text × Text
  | (s, r) => (match c, s with
    | some c, some s => some (c :: s)
    | _, _ => none, r)

/-- Reads the characters of a string up to its closing quote. -/
def readChars : (fuel : Nat) → Text → Option (Option Text × Text)
  | 0, _ => none
  | _ + 1, [] => none
  | _ + 1, '"' :: s => some (some [], s)
  | fuel + 1, '\\' :: 'u' :: s => do
    let (c, r) ← readUnicodeEscape s
    return consChar c (← readChars fuel r)
  | fuel + 1, '\\' :: e :: s => do
    let c ← simpleEscape? e
    return consChar (some c) (← readChars fuel s)
  | fuel + 1, c :: s => do
    if c = '\\' ∨ c.toNat < 0x20 then none
    return consChar (some c) (← readChars fuel s)

/-! ## Numbers -/

def readDigits (s : Text) : Option (Text × Text) :=
  match s.takeWhile Text.isAsciiDigit with
  | [] => none
  | ds => some (ds, s.dropWhile Text.isAsciiDigit)

def readFraction : Text → Option (Option Text × Text)
  | '.' :: s => do
    let (ds, r) ← readDigits s
    return (some ds, r)
  | s => some (none, s)

def readExponent : Text → Option (Option Int × Text)
  | c :: s => do
    if c ≠ 'e' ∧ c ≠ 'E' then return (none, c :: s)
    let (negative, s) := match s with
      | '-' :: s => (true, s)
      | '+' :: s => (false, s)
      | s => (false, s)
    let (ds, r) ← readDigits s
    let n := Text.digitsValue ds
    return (some (if negative then -n else n), r)
  | [] => some (none, [])

/-- Appends digits to a word as long as it holds them: the word, and the number of digits left. -/
def pushDigits (word : Nat) : Text → Nat × Nat
  | [] => (word, 0)
  | d :: ds =>
    let next := word * 10 + (d.toNat - 48)
    if next ≤ Decimal.maxWord then pushDigits next ds else (word, (d :: ds).length)

/-- The value of a number, given its sign, its digits in front of the point and behind it, and its
exponent. -/
def numberValue (negative : Bool) (whole : Text) (fraction : Option Text) (exponent : Option Int) : Json :=
  let (word, excess) := pushDigits 0 whole
  let sign (x : Float) := if negative then -x else x
  match fraction, exponent with
  | none, none =>
    if excess = 0 ∧ (if negative then 0 < word ∧ word ≤ 0x8000000000000000 else True) then
      .integer (if negative then -word else word)
    else (Decimal.ofWord? word excess).elim .unreadable fun x => .real (sign x)
  | fraction, exponent =>
    let ds := fraction.getD []
    let (word, left) := pushDigits word ds
    let e := (excess : Int) - (ds.length - left : Nat) + exponent.getD 0
    (Decimal.ofWord? word e).elim .unreadable fun x => .real (sign x)

/-- Reads a number behind its sign. A zero in front stands alone. -/
def readNumber (negative : Bool) (s : Text) : Option (Json × Text) := do
  let (whole, r) ← readDigits s
  if whole.length ≠ 1 ∧ whole.head? = some '0' then none
  let (fraction, r) ← readFraction r
  let (exponent, r) ← readExponent r
  return (numberValue negative whole fraction exponent, r)

/-! ## Values -/

def readString (s : Text) : Option (Option Text × Text) := readChars (s.length + 1) s

/-- An object from members; without a value if one of the names has none. -/
def objectOf (members : List (Option Text × Json)) : Json :=
  match members.mapM fun (k, v) => k.map fun k => (k, v) with
  | some ms => .object ms
  | none => .unreadable

mutual

def readValue : (fuel : Nat) → Text → Option (Json × Text)
  | 0, _ => none
  | fuel + 1, s =>
    match skipSpace s with
    | '"' :: r => (readString r).map fun (v, r) => (v.elim .unreadable .string, r)
    | '[' :: r =>
      match skipSpace r with
      | ']' :: r => some (.array [], r)
      | r => (readItems fuel r).map fun (vs, r) => (.array vs, r)
    | '{' :: r =>
      match skipSpace r with
      | '}' :: r => some (.object [], r)
      | r => (readMembers fuel r).map fun (ms, r) => (objectOf ms, r)
    | 't' :: 'r' :: 'u' :: 'e' :: r => some (.bool true, r)
    | 'f' :: 'a' :: 'l' :: 's' :: 'e' :: r => some (.bool false, r)
    | 'n' :: 'u' :: 'l' :: 'l' :: r => some (.null, r)
    | '-' :: r => readNumber true r
    | r => readNumber false r

/-- Reads the items of an array, at least one, and the closing bracket. -/
def readItems : (fuel : Nat) → Text → Option (List Json × Text)
  | 0, _ => none
  | fuel + 1, s => do
    let (v, r) ← readValue fuel s
    match skipSpace r with
    | ',' :: r =>
      let (vs, r) ← readItems fuel r
      return (v :: vs, r)
    | ']' :: r => return ([v], r)
    | _ => none

/-- Reads the members of an object, at least one, and the closing brace. -/
def readMembers : (fuel : Nat) → Text → Option (List (Option Text × Json) × Text)
  | 0, _ => none
  | fuel + 1, s =>
    match skipSpace s with
    | '"' :: r => do
      let (k, r) ← readString r
      match skipSpace r with
      | ':' :: r =>
        let (v, r) ← readValue fuel r
        match skipSpace r with
        | ',' :: r =>
          let (ms, r) ← readMembers fuel r
          return ((k, v) :: ms, r)
        | '}' :: r => return ([(k, v)], r)
        | _ => none
      | _ => none
    | _ => none

end

def read? (s : Text) : Option Json := do
  let (v, r) ← readValue (2 * s.length + 2) s
  if skipSpace r = [] then some v else none

end Coursebook.Json
