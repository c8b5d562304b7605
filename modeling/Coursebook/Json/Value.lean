/-
JSON values. Objects keep the order of their members and may repeat a name:
what a repeated name means is for the reader of a record to say.
-/
import Coursebook.Text.Basic

namespace Coursebook

/-- A JSON value. `unreadable` stands for a text that is well-formed but has no value: a number
beyond the doubles, or a string with an unpaired surrogate. -/
inductive Json where
  | null
  | bool (b : Bool)
  | integer (n : Int)
  | real (x : Float)
  | string (s : Text)
  | array (items : List Json)
  | object (members : List (Text × Json))
  | unreadable
deriving Inhabited

namespace Json

def str (s : String) : Json := .string s.toList

def nat (n : Nat) : Json := .integer n

/-- A value that may be missing; `null` stands for a missing one. -/
def ofOption {α} (f : α → Json) : Option α → Json
  | some a => f a
  | none => .null

def ofList {α} (f : α → Json) (xs : List α) : Json := .array (xs.map f)

/-- An object whose member names are given as literals. -/
def record (members : List (String × Json)) : Json := .object (members.map fun (k, v) => (k.toList, v))

/-- How many levels of nesting a text may have to be read. -/
def maxNesting : Nat := 127

mutual

/-- Whether a value can be read in full within `depth` levels of nesting. -/
def isReadable (depth : Nat) : Json → Bool
  | .unreadable => false
  | .array items => 0 < depth && allReadable (depth - 1) items
  | .object members => 0 < depth && allMembersReadable (depth - 1) members
  | _ => true

def allReadable (depth : Nat) : List Json → Bool
  | [] => true
  | v :: vs => isReadable depth v && allReadable depth vs

/-- Whether the value of every member can be read in full. -/
def allMembersReadable (depth : Nat) : List (Text × Json) → Bool
  | [] => true
  | (_, v) :: ms => isReadable depth v && allMembersReadable depth ms

end

end Json

end Coursebook
