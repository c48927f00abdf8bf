import TraceIdentity.Table
/-!
# Header maps

Header values under distinct exact names. A name is looked up exactly first and
then ignoring the case of ASCII letters; setting a header uses the exact name.
The list of entries is one order that the map may be gone through in. A map promises
none, and an insertion may change it; the order decides only between names that differ
in case alone. What is said of a map before and after a set is therefore said of exact
names, of names whose spelling is settled, or of every order of the entries.
-/
namespace TraceIdentity

/-- Header values, each exact name once. -/
structure Headers where
  entries : List (String × String)
  nodup : (entries.map (·.1)).Nodup
  deriving DecidableEq, Repr

namespace Headers

def empty : Headers :=
  ⟨[], .nil⟩

instance : Inhabited Headers :=
  ⟨empty⟩

def traceparent : String := "traceparent"
def tracestate : String := "tracestate"
def requestId : String := "Request-Id"
def requestContext : String := "Request-Context"

/-- The name with its ASCII letters in lowercase. -/
def fold (name : String) : List Char :=
  name.toList.map Char.toLower

def sameName (a b : String) : Bool :=
  fold a == fold b

def get? (h : Headers) (name : String) : Option String :=
  h.entries.lookup name

/-- The value under this exact name, else under the first name that differs only in case. -/
def find? (h : Headers) (name : String) : Option String :=
  match h.get? name with
  | some value => some value
  | none => (h.entries.find? fun e => sameName e.1 name).map (·.2)

/-- The value under a name; an empty value counts as absent. -/
def value? (h : Headers) (name : String) : Option String :=
  (h.find? name).filter (· ≠ "")

def contains (h : Headers) (name : String) : Bool :=
  (h.find? name).isSome

/-- Replace the value under `name`, or put it last. -/
def put (name value : String) : List (String × String) → List (String × String)
  | [] => [(name, value)]
  | e :: es => if e.1 = name then (name, value) :: es else e :: put name value es

theorem names_put (name value : String) (es : List (String × String)) :
    (put name value es).map (·.1) =
      if name ∈ es.map (·.1) then es.map (·.1) else es.map (·.1) ++ [name] := by
  induction es with
  | nil => simp [put]
  | cons e es ih =>
    by_cases he : e.1 = name
    · simp [put, he]
    · have hn : ¬ name = e.1 := fun h => he h.symm
      simp only [put, if_neg he, List.map_cons, ih, List.mem_cons, hn, false_or]
      split <;> rfl

private theorem put_nodup (name value : String) (es : List (String × String))
    (h : (es.map (·.1)).Nodup) : ((put name value es).map (·.1)).Nodup := by
  rw [names_put]
  split
  · exact h
  · next hn =>
    rw [List.nodup_append]
    refine ⟨h, by simp, ?_⟩
    intro a ha b hb hab
    rw [List.mem_singleton] at hb
    exact hn (hb ▸ hab ▸ ha)

/-- Set the value under this exact name. The other entries stay in their order here, which a map
does not promise. -/
def set (h : Headers) (name value : String) : Headers :=
  ⟨put name value h.entries, put_nodup name value h.entries h.nodup⟩

def set? (h : Headers) (name : String) (value : Option String) : Headers :=
  match value with
  | some value => h.set name value
  | none => h

/-- Set headers in order, so that the last of several values under one name stays. -/
def ofList (es : List (String × String)) : Headers :=
  es.foldl (fun h e => h.set e.1 e.2) empty

def table (h : Headers) : Table String :=
  Table.ofList h.entries

theorem get?_set (h : Headers) (name other value : String) :
    (h.set name value).get? other = if other = name then some value else h.get? other := by
  obtain ⟨es, hes⟩ := h
  simp only [get?, set]
  clear hes
  induction es with
  | nil => simp [put]
  | cons e es ih =>
    by_cases he : e.1 = name
    · by_cases ho : other = name <;> simp [put, he, ho, Table.lookup_cons]
    · simp only [put, if_neg he, Table.lookup_cons, ih]
      by_cases ho : other = e.1
      · have hn : ¬ other = name := fun h => he (ho.symm.trans h)
        rw [if_pos ho, if_pos ho, if_neg hn]
      · rw [if_neg ho, if_neg ho]

end Headers

end TraceIdentity
