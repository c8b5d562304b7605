/-
Writing JSON, on one line or indented by two spaces. Only what the notation
demands is escaped: quotes, backslashes and control characters.

A double is written with the fewest digits that read back, positionally from
1e-5 up to 1e16 and with a signed exponent otherwise, always with a point or
an exponent; a number that is not finite is written as `null`.
-/
import Coursebook.Decimal.Shortest
import Coursebook.Json.Value

namespace Coursebook.Json

/-! ## Leaves -/

def hexDigit (n : Nat) : Char := Nat.digitChar (n % 16)

def escapeChar (c : Char) : Text :=
  match c with
  | '"' => ['\\', '"']
  | '\\' => ['\\', '\\']
  | '\n' => ['\\', 'n']
  | '\r' => ['\\', 'r']
  | '\t' => ['\\', 't']
  | '\x08' => ['\\', 'b']
  | '\x0c' => ['\\', 'f']
  | c =>
    if c.toNat < 0x20 then ['\\', 'u', '0', '0', hexDigit (c.toNat / 16), hexDigit (c.toNat % 16)] else [c]

def quote (s : Text) : Text := '"' :: s.flatMap escapeChar ++ ['"']

/-- A decimal, positionally if its point is in reach. -/
def decimalText (d : Decimal) : Text :=
  if -5 < d.point ∧ d.point ≤ 16 then
    match d.positional with
    | (whole, []) => whole ++ ['.', '0']
    | (whole, part) => whole ++ '.' :: part
  else d.scientific

def realText (x : Float) : Text :=
  if Binary64.isFinite x then
    let sign := if Binary64.isNegative x then ['-'] else []
    let b := Binary64.ofFloat x
    if b.mantissa = 0 then sign ++ ['0', '.', '0'] else sign ++ decimalText (Decimal.shortest b)
  else "null".toList

def leafText : Json → Text
  | .bool true => "true".toList
  | .bool false => "false".toList
  | .integer n => Text.ofInt n
  | .real x => realText x
  | .string s => quote s
  | _ => "null".toList

/-! ## On one line -/

mutual

def compact : Json → Text
  | .array items => '[' :: compactItems items ++ [']']
  | .object members => '{' :: compactMembers members ++ ['}']
  | v => leafText v

def compactItems : List Json → Text
  | [] => []
  | [v] => compact v
  | v :: vs => compact v ++ ',' :: compactItems vs

def compactMembers : List (Text × Json) → Text
  | [] => []
  | [(k, v)] => quote k ++ ':' :: compact v
  | (k, v) :: ms => quote k ++ ':' :: compact v ++ ',' :: compactMembers ms

end

/-! ## Indented -/

def newLine (level : Nat) : Text := '\n' :: List.replicate (2 * level) ' '

mutual

/-- A value over several lines, its parts one level further in. -/
def pretty (level : Nat) : Json → Text
  | .array [] => ['[', ']']
  | .array items => '[' :: prettyItems (level + 1) items ++ newLine level ++ [']']
  | .object [] => ['{', '}']
  | .object members => '{' :: prettyMembers (level + 1) members ++ newLine level ++ ['}']
  | v => leafText v

def prettyItems (level : Nat) : List Json → Text
  | [] => []
  | [v] => newLine level ++ pretty level v
  | v :: vs => newLine level ++ pretty level v ++ ',' :: prettyItems level vs

def prettyMembers (level : Nat) : List (Text × Json) → Text
  | [] => []
  | [(k, v)] => newLine level ++ quote k ++ ':' :: ' ' :: pretty level v
  | (k, v) :: ms => newLine level ++ quote k ++ ':' :: ' ' :: pretty level v ++ ',' :: prettyMembers level ms

end

end Coursebook.Json
