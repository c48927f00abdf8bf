import TraceIdentity.Headers
/-!
# Looking up headers that were set

A header that was set is found under its exact name, and setting it leaves every
look-up alone whose name differs in more than case, the other entries being in the
order they were in.
-/
namespace TraceIdentity.Headers

@[simp] theorem find?_set_self (h : Headers) (name value : String) :
    (h.set name value).find? name = some value := by
  rw [find?, get?_set, if_pos rfl]

theorem sameName_iff {a b : String} : sameName a b = true ↔ fold a = fold b := by
  simp [sameName]

theorem sameName_self (name : String) : sameName name name = true := by
  simp [sameName]

theorem ne_of_sameName {name other : String} (hn : sameName name other = false) :
    other ≠ name := by
  intro he
  subst he
  rw [sameName_self] at hn
  exact Bool.noConfusion hn

private theorem find?_put {name value other : String} (es : List (String × String))
    (hn : sameName name other = false) :
    (put name value es).find? (fun e => sameName e.1 other) =
      es.find? fun e => sameName e.1 other := by
  induction es with
  | nil => simp [put, hn]
  | cons e es ih =>
    by_cases he : e.1 = name
    · rw [put, if_pos he, List.find?_cons, List.find?_cons, he, hn]
    · rw [put, if_neg he, List.find?_cons, List.find?_cons, ih]

theorem find?_set_of_sameName {h : Headers} {name value other : String}
    (hn : sameName name other = false) : (h.set name value).find? other = h.find? other := by
  rw [find?, find?, get?_set, if_neg (ne_of_sameName hn)]
  cases h.get? other with
  | some v => rfl
  | none => exact congrArg (Option.map (·.2)) (find?_put h.entries hn)

/-- A header that is there under its exact name is found, whatever other names look like it. -/
theorem find?_of_get? {h : Headers} {name value : String} (hv : h.get? name = some value) :
    h.find? name = some value := by
  rw [find?, hv]

theorem value?_of_get? {h : Headers} {name value : String} (hget : h.get? name = some value)
    (hv : value ≠ "") : h.value? name = some value := by
  rw [value?, find?_of_get? hget, Option.filter_some, if_pos (by simpa using hv)]

theorem value?_set_self {h : Headers} {name value : String} (hv : value ≠ "") :
    (h.set name value).value? name = some value :=
  value?_of_get? ((get?_set h name name value).trans (if_pos rfl)) hv

theorem value?_set_of_sameName {h : Headers} {name value other : String}
    (hn : sameName name other = false) : (h.set name value).value? other = h.value? other := by
  rw [value?, value?, find?_set_of_sameName hn]

theorem get?_set_of_ne {h : Headers} {name value other : String} (hn : other ≠ name) :
    (h.set name value).get? other = h.get? other := by
  rw [get?_set, if_neg hn]

theorem get?_set?_self (h : Headers) (name : String) (value : Option String) :
    (h.set? name value).get? name = (value <|> h.get? name) := by
  cases value with
  | none => rfl
  | some v => exact (get?_set h name name v).trans (if_pos rfl)

theorem get?_set?_of_ne {h : Headers} {name other : String} {value : Option String}
    (hn : other ≠ name) : (h.set? name value).get? other = h.get? other := by
  cases value with
  | none => rfl
  | some v => exact get?_set_of_ne hn

/-- The names of all headers that are written for a call. -/
def written : List String :=
  [traceparent, tracestate, requestId, requestContext]

theorem sameName_written : ∀ a ∈ written, ∀ b ∈ written, a ≠ b → sameName a b = false := by
  decide

end TraceIdentity.Headers
