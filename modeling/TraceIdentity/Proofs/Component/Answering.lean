import TraceIdentity.IdSource.Counting
import TraceIdentity.Proofs.Component.Coherence
import TraceIdentity.Proofs.Headers.Spelling
/-!
# Naming the component in a response

A component that knows its id names itself in a response that has no such header, changes
no other one, and does so once. A header with an empty value keeps it from naming itself,
although every reader of headers takes an empty value for no value.
-/
namespace TraceIdentity.Component

variable {σ : Type} (c : Component σ)

/-- The component names itself exactly if it knows its id and no reader finds a name. -/
def NamesWhenMissing (response : Headers) : Prop :=
  (c.introduce response).1 = true ↔
    (∃ id, c.KnownAs id) ∧ response.value? Headers.requestContext = none

/-- What becomes of a response, and of one that the component was asked to name itself in before. -/
structure Answered (response : Headers) : Prop where
  added_iff : (c.introduce response).1 = true ↔
    (∃ id, c.KnownAs id) ∧ response.find? Headers.requestContext = none
  added : (c.introduce response).1 = true → ∃ id, c.KnownAs id ∧
    (c.introduce response).2.value? Headers.requestContext = some ("appId=" ++ id) ∧
      ∀ name, name ≠ Headers.requestContext →
        (c.introduce response).2.get? name = response.get? name
  kept : (c.introduce response).1 = false → (c.introduce response).2 = response
  again : c.introduce (c.introduce response).2 = (false, (c.introduce response).2)
  /-- If the id was known, a later call adds nothing, whatever the resolver answers by then. -/
  again_known : (∃ id, c.KnownAs id) → ∀ later : Component σ,
    later.introduce (c.introduce response).2 = (false, (c.introduce response).2)
  namesWhenMissing_iff : c.NamesWhenMissing response ↔
    ¬ ((∃ id, c.KnownAs id) ∧ response.find? Headers.requestContext = some "")

section Cases

variable {c} {response : Headers}

theorem introduce_of_find? {value : String}
    (hfind : response.find? Headers.requestContext = some value) :
    c.introduce response = (false, response) := by
  rw [introduce, Headers.contains, hfind]
  rfl

theorem introduce_of_unknown (hnone : ¬ ∃ id, c.KnownAs id) :
    c.introduce response = (false, response) := by
  rw [introduce, c.appId_eq_none hnone]
  split <;> rfl

theorem introduce_of_knownAs {id : String} (hid : c.KnownAs id)
    (hfind : response.find? Headers.requestContext = none) :
    c.introduce response = (true, response.set Headers.requestContext ("appId=" ++ id)) := by
  rw [introduce, Headers.contains, hfind, ← c.requestContext_of_knownAs hid, requestContext,
    c.appId_eq_some_iff.mpr hid]
  rfl

end Cases

variable (response : Headers)

theorem introduce_eq_true_iff :
    (c.introduce response).1 = true ↔
      (∃ id, c.KnownAs id) ∧ response.find? Headers.requestContext = none := by
  by_cases hknown : ∃ id, c.KnownAs id
  · obtain ⟨id, hid⟩ := hknown
    cases hfind : response.find? Headers.requestContext with
    | some value => simp [introduce_of_find? hfind]
    | none =>
      have hknown : ∃ id, c.KnownAs id := ⟨id, hid⟩
      simp [introduce_of_knownAs hid hfind, hknown]
  · simp [introduce_of_unknown hknown, hknown]

theorem find?_introduce (hknown : ∃ id, c.KnownAs id) :
    ∃ value, (c.introduce response).2.find? Headers.requestContext = some value := by
  obtain ⟨id, hid⟩ := hknown
  cases hfind : response.find? Headers.requestContext with
  | some value => exact ⟨value, by rw [introduce_of_find? hfind, hfind]⟩
  | none =>
    refine ⟨"appId=" ++ id, ?_⟩
    rw [introduce_of_knownAs hid hfind, Headers.find?_set_self]

theorem namesWhenMissing_iff :
    c.NamesWhenMissing response ↔
      ¬ ((∃ id, c.KnownAs id) ∧ response.find? Headers.requestContext = some "") := by
  rw [NamesWhenMissing, introduce_eq_true_iff, Headers.value?]
  cases response.find? Headers.requestContext with
  | none => simp
  | some value =>
    by_cases hempty : value = ""
    · simp [hempty]
    · simp [hempty]

theorem introduce_answered : c.Answered response := by
  constructor
  case added_iff => exact c.introduce_eq_true_iff response
  case added =>
    intro hadded
    obtain ⟨⟨id, hid⟩, hfind⟩ := (c.introduce_eq_true_iff response).mp hadded
    rw [introduce_of_knownAs hid hfind]
    refine ⟨id, hid, Headers.value?_set_self (by simp), ?_⟩
    intro name hname
    exact Headers.get?_set_of_ne hname
  case kept =>
    intro hkept
    by_cases hknown : ∃ id, c.KnownAs id
    · cases hfind : response.find? Headers.requestContext with
      | some value => rw [introduce_of_find? hfind]
      | none =>
        have hadded := (c.introduce_eq_true_iff response).mpr ⟨hknown, hfind⟩
        rw [hadded] at hkept
        cases hkept
    · rw [introduce_of_unknown hknown]
  case again =>
    by_cases hknown : ∃ id, c.KnownAs id
    · obtain ⟨value, hfind⟩ := c.find?_introduce response hknown
      exact introduce_of_find? hfind
    · exact introduce_of_unknown hknown
  case again_known =>
    intro hknown later
    obtain ⟨value, hfind⟩ := c.find?_introduce response hknown
    exact introduce_of_find? hfind
  case namesWhenMissing_iff => exact c.namesWhenMissing_iff response

/-- An empty header is no value to a reader, but the component does not name itself over it. -/
theorem not_namesWhenMissing_of_empty :
    let c : Component IdSource.Drawn :=
      { settings := { instrumentationKey := some "key" }
        ids := .counting
        resolver := AppId.Resolver.fixed (some "own") }
    let response := Headers.ofList [(Headers.requestContext, "")]
    response.OneSpelling ∧ c.KnownAs "own" ∧
      response.value? Headers.requestContext = none ∧
        c.introduce response = (false, response) ∧ ¬ c.NamesWhenMissing response := by
  intro c response
  have hknown : c.KnownAs "own" := ⟨"key", rfl, by decide, rfl, by decide⟩
  have hfind : response.find? Headers.requestContext = some "" := by decide +kernel
  refine ⟨by decide +kernel, hknown, by decide +kernel, introduce_of_find? hfind, ?_⟩
  rw [namesWhenMissing_iff, Classical.not_not]
  exact ⟨⟨"own", hknown⟩, hfind⟩

end TraceIdentity.Component
