import TraceIdentity.Proofs.AppId
import TraceIdentity.Proofs.Component.Pieces
/-!
# How components introduce themselves

A call and its response each carry the application id of the component that sent
them. Both are taken alike: the other side learns the id exactly if each knows its
own, the two differ, and the id can be carried by a pair.
-/
namespace TraceIdentity

/-- The `Request-Context` value, empty if there is none. -/
def Headers.introduction (h : Headers) : String :=
  (h.find? requestContext).getD ""

namespace Component

variable {σ τ : Type}

/-- The resolver has this id for the instrumentation key, and neither of them is empty. -/
def KnownAs (c : Component σ) (id : String) : Prop :=
  ∃ key, c.settings.instrumentationKey = some key ∧ key ≠ "" ∧ c.resolver key = some id ∧ id ≠ ""

/-- The id that one component can tell another one, which has a different id. -/
def Tells (teller : Component σ) (listener : Component τ) (id : String) : Prop :=
  teller.KnownAs id ∧ '=' ∉ id.toList ∧ ∃ own, listener.KnownAs own ∧ id ≠ own

/-- What both sides of a call learn, if neither the call nor the response has other headers. A side
that does not know its id writes nothing, over whatever headers. -/
structure Introduced (caller : Component σ) (callee : Component τ) (current : Option SpanContext)
    (s : σ) (s' : τ) : Prop where
  source : ∀ id, caller.Tells callee id →
    (callee.receive (caller.send current .empty s).2.1 s').1.source = some id
  no_source : (¬ ∃ id, caller.Tells callee id) →
    (callee.receive (caller.send current .empty s).2.1 s').1.source = none
  target : ∀ id, callee.Tells caller id →
    caller.targetOf (callee.introduce .empty).2.introduction = id
  no_target : (¬ ∃ id, callee.Tells caller id) →
    caller.targetOf (callee.introduce .empty).2.introduction = ""
  silent_call : (¬ ∃ id, caller.KnownAs id) → ∀ h,
    Headers.Updated h (caller.send current h s).2.1 Headers.requestContext none
  silent_response : (¬ ∃ id, callee.KnownAs id) → ∀ response,
    callee.introduce response = (false, response)

variable (c : Component σ)

theorem appId_eq_some_iff {id : String} : c.appId = some id ↔ c.KnownAs id := by
  simp only [appId, AppId.resolved_eq_some_iff, Option.bind_eq_some_iff, Settings.key?,
    Option.filter_eq_some_iff, decide_eq_true_eq, KnownAs]
  constructor
  · rintro ⟨⟨key, ⟨hkey, hne⟩, hid⟩, hid'⟩
    exact ⟨key, hkey, hne, hid, hid'⟩
  · rintro ⟨key, hkey, hne, hid, hid'⟩
    exact ⟨⟨key, ⟨hkey, hne⟩, hid⟩, hid'⟩

theorem resolved_appId : AppId.resolved c.appId = c.appId :=
  AppId.resolved_resolved _

theorem appId_eq_none (h : ¬ ∃ id, c.KnownAs id) : c.appId = none := by
  cases hid : c.appId with
  | none => rfl
  | some id => exact absurd ⟨id, c.appId_eq_some_iff.mp hid⟩ h

theorem write_eq_empty_iff : AppId.write c.appId = "" ↔ c.appId = none := by
  cases hid : c.appId with
  | none => simp [AppId.write_of_unresolved, AppId.resolved]
  | some id =>
    have hresolved : AppId.resolved (some id) = some id := hid ▸ c.resolved_appId
    simp [AppId.write_of_resolved hresolved]

theorem other_write_iff (teller : Component σ) (listener : Component τ) {id : String} :
    AppId.other (AppId.write teller.appId) listener.appId = .ok id ↔ teller.Tells listener id := by
  simp only [AppId.other_write_eq_ok_iff, resolved_appId, appId_eq_some_iff, Tells]

section Taken

/-- The source of a request is taken from its introduction, as the target of a call is. -/
theorem sourceOf_eq (h : Headers) :
    c.sourceOf h = (AppId.other h.introduction c.appId).toOption := by
  unfold sourceOf Headers.introduction Headers.value?
  cases h.find? Headers.requestContext with
  | none => rfl
  | some value =>
    by_cases hv : value = ""
    · subst hv
      rfl
    · rw [Option.filter_some, if_pos (by simpa using hv)]
      rfl

theorem targetOf_eq (response : String) :
    c.targetOf response = (AppId.other response c.appId).toOption.getD "" :=
  AppId.target_eq response c.appId

theorem introduction_send (current : Option SpanContext) (s : σ) :
    (c.send current .empty s).2.1.introduction = AppId.write c.appId := by
  rw [Headers.introduction, (c.updated_requestContext_send current .empty s).find?_of_empty,
    requestContext?, requestContext]
  split
  · next hempty => exact hempty.symm
  · rfl

theorem introduction_introduce : (c.introduce .empty).2.introduction = AppId.write c.appId := by
  have hcontains : Headers.empty.contains Headers.requestContext = false := rfl
  rw [introduce, hcontains, if_neg Bool.false_ne_true]
  cases hid : c.appId with
  | none =>
    have hwrite : AppId.write c.appId = "" := c.write_eq_empty_iff.mpr hid
    rw [hid] at hwrite
    exact hwrite.symm
  | some id => rw [Headers.introduction, Headers.find?_set_self, Option.getD_some]

end Taken

theorem toOption_other_of_tells {teller : Component σ} {listener : Component τ} {id : String}
    (h : teller.Tells listener id) :
    (AppId.other (AppId.write teller.appId) listener.appId).toOption = some id := by
  rw [(other_write_iff teller listener).mpr h]
  rfl

theorem toOption_other_of_not_tells {teller : Component σ} {listener : Component τ}
    (h : ¬ ∃ id, teller.Tells listener id) :
    (AppId.other (AppId.write teller.appId) listener.appId).toOption = none := by
  cases hread : AppId.other (AppId.write teller.appId) listener.appId with
  | error f => rfl
  | ok id => exact absurd ⟨id, (other_write_iff teller listener).mp hread⟩ h

theorem source_receive_send (caller : Component σ) (callee : Component τ)
    (current : Option SpanContext) (s : σ) (s' : τ) :
    (callee.receive (caller.send current .empty s).2.1 s').1.source =
      (AppId.other (AppId.write caller.appId) callee.appId).toOption := by
  show callee.sourceOf (caller.send current .empty s).2.1 = _
  rw [sourceOf_eq, introduction_send]

theorem targetOf_introduce (caller : Component σ) (callee : Component τ) :
    caller.targetOf (callee.introduce .empty).2.introduction =
      (AppId.other (AppId.write callee.appId) caller.appId).toOption.getD "" := by
  rw [targetOf_eq, introduction_introduce]

theorem components_introduced (caller : Component σ) (callee : Component τ)
    (current : Option SpanContext) (s : σ) (s' : τ) :
    Introduced caller callee current s s' := by
  constructor
  · intro id htells
    rw [source_receive_send, toOption_other_of_tells htells]
  · intro hnone
    rw [source_receive_send, toOption_other_of_not_tells hnone]
  · intro id htells
    rw [targetOf_introduce, toOption_other_of_tells htells, Option.getD_some]
  · intro hnone
    rw [targetOf_introduce, toOption_other_of_not_tells hnone, Option.getD_none]
  · intro hnone h
    have hempty : caller.requestContext = "" :=
      caller.write_eq_empty_iff.mpr (caller.appId_eq_none hnone)
    have hcall := caller.updated_requestContext_send current h s
    rw [requestContext?, if_pos hempty] at hcall
    exact hcall
  · intro hnone response
    rw [introduce, callee.appId_eq_none hnone]
    split <;> rfl

end Component

end TraceIdentity
