import TraceIdentity.Table
/-!
# JSON trees

The values that records are exchanged as. A number keeps its written decimal
places, so that `200.0` is not the integer `200`. A field that is given twice
has no value to read.
-/
namespace TraceIdentity

/-- A JSON value; `number m p` is `m` divided by `10 ^ p`, written with `p` places. -/
inductive Json where
  | null
  | bool (value : Bool)
  | number (mantissa : Int) (places : Nat)
  | string (value : String)
  | array (items : List Json)
  | object (fields : List (String × Json))
  deriving Repr, Inhabited

namespace Json

def word (value : UInt16) : Json :=
  number value.toNat 0

def present (fields : List (String × Option Json)) : List (String × Json) :=
  fields.filterMap fun f => f.2.map (f.1, ·)

def ofTable (t : Table String) : Json :=
  object (t.entries.map fun e => (e.1, string e.2))

/-- The fields of an object, or of an array that has the values of the first `names` in order. -/
def fields? (names : List String) : Json → Option (List (String × Json))
  | object fields => some fields
  | array items => if items.length ≤ names.length then some (names.zip items) else none
  | _ => none

def string? : Json → Option String
  | string value => some value
  | _ => none

/-- A bare name: a string, or an object whose only field has that name and is null. -/
def name? : Json → Option String
  | string name | object [(name, null)] => some name
  | _ => none

def bool? : Json → Option Bool
  | bool value => some value
  | _ => none

/-- An integer from 0 to 65535, written without decimal places. -/
def word? : Json → Option UInt16
  | number (.ofNat n) 0 => if n < 65536 then some (UInt16.ofNat n) else none
  | _ => none

/-- An object whose values are all strings; the last of several values of a key stays. -/
def table? : Json → Option (Table String)
  | object fields =>
    (fields.mapM fun (f : String × Json) => f.2.string?.map (f.1, ·)).map Table.ofList
  | _ => none

/-- Look a field up; the outer `none` says that it is given more than once. -/
def field? (fields : List (String × Json)) (name : String) : Option (Option Json) :=
  match fields.filter (·.1 == name) with
  | [] => some none
  | [f] => some (some f.2)
  | _ => none

def required {α : Type} (read : Json → Option α) (fields : List (String × Json))
    (name : String) : Option α :=
  (field? fields name).bind fun f => f.bind read

/-- Read a field that may be absent or null. -/
def optional {α : Type} (read : Json → Option α) (fields : List (String × Json))
    (name : String) : Option (Option α) :=
  match field? fields name with
  | none => none
  | some none | some (some null) => some none
  | some (some value) => (read value).map some

/-- Read a field that stands for `default` when it is absent; null is refused. -/
def withDefault {α : Type} (read : Json → Option α) (default : α)
    (fields : List (String × Json)) (name : String) : Option α :=
  match field? fields name with
  | none => none
  | some none => some default
  | some (some value) => read value

end Json

end TraceIdentity
