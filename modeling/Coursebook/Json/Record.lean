/-
Reading records and variants from JSON.

A record is an object with a member for each field, or an array of the
fields in order. A field named twice is an error, an unknown name is passed
over, and an array may leave fields out only at its end and only those that
have a default.

A variant is an object with its tag among the members, or an array with the
tag in front; a variant without fields is a string, or an object that maps
its name to `null`.
-/
import Coursebook.Json.Value

namespace Coursebook.Json

/-! ## Plain values -/

def asText : Json → Option Text
  | .string s => some s
  | _ => none

def asBool : Json → Option Bool
  | .bool b => some b
  | _ => none

/-- Reads a whole number of at most `most`. -/
def asNatUpTo (most : Nat) : Json → Option Nat
  | .integer (.ofNat n) => if n ≤ most then some n else none
  | _ => none

def asByte : Json → Option Nat := asNatUpTo 255

def asWord : Json → Option Nat := asNatUpTo 0xffffffffffffffff

/-- Reads a number; a whole number is rounded to a double. -/
def asFloat : Json → Option Float
  | .real x => some x
  | .integer (.ofNat n) => some (UInt64.ofNat n).toFloat
  | .integer (.negSucc n) => some (-(UInt64.ofNat (n + 1)).toFloat)
  | _ => none

/-- Reads a value that may be `null`. -/
def asOption {α : Type} (read : Json → Option α) : Json → Option (Option α)
  | .null => some none
  | v => (read v).map some

def asList {α : Type} (read : Json → Option α) : Json → Option (List α)
  | .array vs => vs.mapM read
  | _ => none

/-! ## Records -/

/-- The fields of a record that are present, by name; `positional` if they came in order. -/
structure Record where
  positional : Bool
  fields : List (Text × Json)

namespace Record

def distinctNames : List (Text × Json) → Bool
  | [] => true
  | (k, _) :: ms => !(ms.any (·.1 = k)) && distinctNames ms

def ofJson? (names : List String) : Json → Option Record
  | .object ms =>
    let known := ms.filter fun (k, _) => names.any (·.toList = k)
    if distinctNames known then some ⟨false, known⟩ else none
  | .array vs => if vs.length ≤ names.length then some ⟨true, (names.map String.toList).zip vs⟩ else none
  | _ => none

def get? (r : Record) (name : String) : Option Json := r.fields.lookup name.toList

def required {α : Type} (r : Record) (name : String) (read : Json → Option α) : Option α := (r.get? name).bind read

/-- Reads a field that takes a default when it is missing. -/
def withDefault {α : Type} (r : Record) (name : String) (read : Json → Option α) (default : α) : Option α :=
  match r.get? name with
  | some v => read v
  | none => some default

/-- Reads a field that may be `null`, or missing unless the fields came in order. -/
def optional {α : Type} (r : Record) (name : String) (read : Json → Option α) : Option (Option α) :=
  match r.get? name with
  | some v => asOption read v
  | none => if r.positional then none else some none

end Record

/-! ## Variants -/

/-- Splits a variant into its tag and the rest of its fields. -/
def tagged? : Json → Option (Text × Json)
  | .object ms =>
    match ms.filter (·.1 = "type".toList) with
    | [(_, .string tag)] => some (tag, .object (ms.filter (·.1 ≠ "type".toList)))
    | _ => none
  | .array (.string tag :: vs) => some (tag, .array vs)
  | _ => none

/-- Whether the rest of a variant fits one without fields: any object, or no items. -/
def isUnit : Json → Bool
  | .object _ => true
  | .array vs => vs.isEmpty
  | _ => false

def asName : Json → Option Text
  | .string s => some s
  | .object [(name, .null)] => some name
  | _ => none

/-- Splits a variant whose tag and content are two fields; the tag is written as a variant without fields. -/
def tagAndContent? (tagName contentName : String) (v : Json) : Option (Text × Json) := do
  let r ← Record.ofJson? [tagName, contentName] v
  return (← r.required tagName asName, ← r.required contentName some)

def asOneOf {α : Type} (name : α → Text) (all : List α) (v : Json) : Option α := do
  let s ← asName v
  all.find? fun a => name a = s

end Coursebook.Json
