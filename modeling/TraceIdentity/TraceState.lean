import TraceIdentity.Table.Lookup
import TraceIdentity.Text.Blank
import TraceIdentity.Text.Quoted
import TraceIdentity.Text.Split
/-!
# Trace state

Vendor entries that travel with a trace, in the order in which they were added.
A key may occur more than once and its last value counts. Reading a header
skips every malformed member and stops at a limit.
-/
namespace TraceIdentity
open Text

structure TraceState where
  entries : List (String × String) := []
  deriving DecidableEq, Repr, Inhabited

namespace TraceState

/-- Read `key=value`; blanks around both are dropped and the key must not be empty. -/
def member? (cs : List Char) : Option (String × String) :=
  match cut '=' (trim cs) with
  | none => none
  | some (key, value) =>
    if trim key = [] then none
    else some (String.ofList (trim key), String.ofList (trim value))

/-- Add what the members say to `found`, in order, until it holds `limit` entries. A blank or
malformed member takes no place. -/
def gather (limit : Nat) (found : List (String × String)) :
    List (List Char) → List (String × String)
  | [] => found
  | cs :: rest =>
    if trim cs = [] then gather limit found rest
    else if limit ≤ found.length then found
    else gather limit (found ++ (member? cs).toList) rest

/-- Read the first `limit` well-formed members of a comma-separated header. -/
def parse (header : String) (limit : Nat) : TraceState :=
  ⟨gather limit [] (splitOn ',' header.toList)⟩

def push (s : TraceState) (key value : String) : TraceState :=
  ⟨s.entries ++ [(key, value)]⟩

def pushAll (s : TraceState) (entries : List (String × String)) : TraceState :=
  entries.foldl (fun s e => s.push e.1 e.2) s

def size (s : TraceState) : Nat :=
  s.entries.length

def isEmpty (s : TraceState) : Bool :=
  s.entries.isEmpty

/-- The value of the last entry with this key. -/
def find? (s : TraceState) (key : String) : Option String :=
  s.entries.reverse.lookup key

/-- The entries by key, each key with its last value. -/
def properties (s : TraceState) : Table String :=
  Table.ofList s.entries

def showMember (e : String × String) : String :=
  e.1 ++ "=" ++ e.2

def toHeader (s : TraceState) : String :=
  ",".intercalate (s.entries.map showMember)

def header? (s : TraceState) : Option String :=
  if s.isEmpty then none else some s.toHeader

/-- An entry that survives being written and read again. -/
def Clean (e : String × String) : Prop :=
  e.1.toList ≠ [] ∧ Trimmed e.1.toList ∧ ',' ∉ e.1.toList ∧ '=' ∉ e.1.toList ∧
    Trimmed e.2.toList ∧ ',' ∉ e.2.toList

instance (e : String × String) : Decidable (Clean e) :=
  inferInstanceAs (Decidable (_ ∧ _))

def dumpMember (e : String × String) : String :=
  "(" ++ String.ofList (quoted '"' e.1.toList) ++ ", " ++ String.ofList (quoted '"' e.2.toList)
    ++ ")"

def dump (s : TraceState) : String :=
  "TraceState \x7b entries: [" ++ ", ".intercalate (s.entries.map dumpMember) ++ "] \x7d"

theorem isBlank_equals : isBlank '=' = false := by
  decide

theorem member?_of_trim_eq_nil {cs : List Char} (h : trim cs = []) : member? cs = none := by
  rw [member?, h]
  rfl

theorem gather_eq (limit : Nat) (found : List (String × String)) (members : List (List Char)) :
    gather limit found members =
      found ++ (members.filterMap member?).take (limit - found.length) := by
  induction members generalizing found with
  | nil => simp [gather]
  | cons cs rest ih =>
    rw [gather]
    split
    · next hblank => rw [ih, List.filterMap_cons_none (member?_of_trim_eq_nil hblank)]
    · split
      · next hfull => simp [Nat.sub_eq_zero_of_le hfull]
      · next hroom =>
        cases hm : member? cs with
        | none => simp [ih, hm]
        | some e =>
          have hless : limit - found.length = limit - (found.length + 1) + 1 := by omega
          simp [ih, hm, hless]

/-- Reading up to a limit is reading everything and keeping a prefix. -/
theorem entries_parse (header : String) (limit : Nat) :
    (parse header limit).entries = ((splitOn ',' header.toList).filterMap member?).take limit :=
  gather_eq limit [] (splitOn ',' header.toList)

theorem size_parse_le (header : String) (limit : Nat) : (parse header limit).size ≤ limit := by
  rw [size, entries_parse]
  exact List.length_take_le _ _

@[simp] theorem find?_properties (s : TraceState) (key : String) :
    s.properties.find? key = s.find? key :=
  Table.find?_ofList s.entries key

end TraceState

end TraceIdentity
