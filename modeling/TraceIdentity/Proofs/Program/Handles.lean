import TraceIdentity.Proofs.Host.Places
import TraceIdentity.Proofs.Program.Account
/-!
# What a step does to handles

A step enters one scope and makes its handle, or tries to release one handle that
is held and gives it up, or touches no scope at all. The place where it acts is
known from the action and from the store of the work that it is about.
-/
namespace TraceIdentity

/-- The handle that a step answers with. -/
def Answer.made? : Answer → Option Handle
  | .entered handle => some handle
  | _ => none

/-- The id of the handle that an action gives up. -/
def Action.given? : Action → Option Nat
  | .tryRelease id _ _ | .release id _ _ | .dropGuard id _ _ | .leave _ id _
  | .finishAndLeave _ id _ _ => some id
  | _ => none

/-- The fault that a step reports, or that stops its code. -/
def Answer.fault? : Answer → Option Fault
  | .tried (.error f) => some f
  | .stopped v => some v.cause
  | _ => none

@[simp] theorem made?_ofRelease (result : Except Violation Unit) :
    (Answer.ofRelease result).made? = none := by
  cases result <;> rfl

@[simp] theorem made?_ofClosing (result : Except Violation Bool) :
    (Answer.ofClosing result).made? = none := by
  cases result <;> rfl

theorem fault?_tried (result : Except Fault Unit) (f : Fault) :
    (Answer.tried result).fault? = some f ↔ result = .error f := by
  cases result <;> simp [Answer.fault?]

theorem fault?_ofRelease (result : Except Fault Unit) (f : Fault) :
    (Answer.ofRelease (result.mapError Violation.mk)).fault? = some f ↔ result = .error f := by
  cases result <;> simp [Answer.fault?, Answer.ofRelease, Except.mapError]

theorem fault?_ofClosing (result : Except Violation Unit) (won : Bool) :
    (Answer.ofClosing (result.map fun _ => won)).fault? = (Answer.ofRelease result).fault? := by
  cases result <;> rfl

/-- How the holder of a handle can give it up. -/
inductive Held.ReleasedBy (s : Held) : Action → Prop where
  | tryRelease (store : Store) (site : Site) : s.holder = .code →
    ReleasedBy s (.tryRelease s.handle.id store site)
  | release (store : Store) (site : Site) : s.holder = .code →
    ReleasedBy s (.release s.handle.id store site)
  | dropGuard (store : Store) (site : Site) : s.holder = .guard store →
    ReleasedBy s (.dropGuard s.handle.id store site)
  | leave (k : Nat) (site : Site) : s.holder = .work k → ReleasedBy s (.leave k s.handle.id site)
  | finishAndLeave (k : Nat) (o : Work.Outcome) (site : Site) : s.holder = .work k →
    ReleasedBy s (.finishAndLeave k s.handle.id o site)

namespace Work

theorem leave_release (w : Work) (site : Site) (handle : Handle) (h : Host) :
    (w.leave site handle h).1 = (h.release w.store site handle).1 ∧
      (w.leave site handle h).2.2 = (h.release w.store site handle).2 := by
  cases hclosed : (h.release w.store site handle).1 with
  | ok done => simp [leave, hclosed]
  | error v => simp [leave, hclosed]

theorem finishAndLeave_release (w : Work) (o : Outcome) (site : Site) (handle : Handle)
    (h : Host) :
    (∃ won, (w.finishAndLeave o site handle h).result =
        (h.release w.store site handle).1.map fun _ => won) ∧
      (w.finishAndLeave o site handle h).host = (h.release w.store site handle).2 := by
  cases hfin : w.isFinished with
  | true =>
    have hleave := w.leave_release site handle h
    rw [finishAndLeave_of_finished hfin]
    exact ⟨⟨false, congrArg (Except.map fun _ => false) hleave.1⟩, hleave.2⟩
  | false =>
    have hleave := { w with phase := o.phase }.leave_release site handle h
    rw [finishAndLeave_of_running hfin]
    exact ⟨⟨true, congrArg (Except.map fun _ => true) hleave.1⟩, hleave.2⟩

@[simp] theorem store_deactivate (w : Work) : w.deactivate.store = w.store := by
  simp only [deactivate]
  split <;> rfl

end Work

namespace Program

variable {p q : Program} {k : Nat} {e : Event} {a : Action} {w : Work}

/-- The place where an action enters or releases a scope. -/
def place? (p : Program) : Action → Option Place
  | .enter store site _ | .guard store site _ | .start store site _
  | .tryRelease _ store site | .release _ store site | .dropGuard _ store site =>
    some (store.place site)
  | .resume k site | .leave k _ site | .finishAndLeave k _ _ site =>
    p.works[k]?.map fun w => w.store.place site
  | .finish _ _ | .tryFinish _ _ => none

/-- What a step does to the slots and to the handles that are held. -/
inductive Conduct (p : Program) (e : Event) (q : Program) : Prop where
  | rests : e.answer.made? = none → e.action.given? = none → q.host = p.host → q.held = p.held →
    Conduct p e q
  | enters (store : Store) (site : Site) (c : SpanContext) (holder : Holder) :
    e.answer.made? = some (p.host.enter store site c).1 → e.action.given? = none →
    p.place? e.action = some (store.place site) → q.host = (p.host.enter store site c).2 →
    q.held = ⟨(p.host.enter store site c).1, holder, store.place site⟩ :: p.held →
    (∀ k, holder = .work k → k < q.works.length) → Conduct p e q
  | releases (s : Held) (store : Store) (site : Site) : s ∈ p.held → e.answer.made? = none →
    e.action.given? = some s.handle.id → p.place? e.action = some (store.place site) →
    q.host = (p.host.tryRelease store site s.handle).2 → q.held = p.held.erase s →
    (∀ f, e.answer.fault? = some f ↔ (p.host.tryRelease store site s.handle).1 = .error f) →
    Conduct p e q

section Works

theorem Ends.store {w' : Work} (h : Ends k e w w') : w'.store = w.store := by
  cases h <;> rfl

theorem Moves.store {w' : Work} {n n' : Nat} (h : Moves k e w n w' n') : w'.store = w.store := by
  cases h with
  | leaves n hresumes hstops => exact w.store_deactivate
  | _ => rfl

theorem step_store (hstep : p.step a = some (e, q)) (hw : p.works[k]? = some w) :
    ∃ w', q.works[k]? = some w' ∧ w'.store = w.store := by
  obtain ⟨ended, w', hends, hmoves, hw'⟩ := step_turns hstep hw
  exact ⟨w', hw', hmoves.store.trans hends.store⟩

theorem place?_of_step (hstep : p.step a = some (e, q)) {b : Action} {place : Place}
    (hb : p.place? b = some place) : q.place? b = some place := by
  have hworks : ∀ k site, p.place? (.resume k site) = some place →
      q.place? (.resume k site) = some place := by
    intro k site hk
    obtain ⟨w, hw, hplace⟩ := Option.map_eq_some_iff.mp hk
    obtain ⟨w', hw', hstore⟩ := step_store hstep hw
    rw [place?, hw', Option.map_some, hstore, hplace]
  cases b with
  | resume k site => exact hworks k site hb
  | leave k id site => exact hworks k site hb
  | finishAndLeave k id o site => exact hworks k site hb
  | _ => exact hb

theorem length_works_step (hstep : p.step a = some (e, q)) :
    p.works.length ≤ q.works.length := by
  have hcontexts := congrArg List.length (contexts_step hstep)
  rw [List.length_append, List.length_map, List.length_map] at hcontexts
  omega

end Works

section Steps

private theorem conduct_release {id : Nat} {holder : Holder} {handle : Handle} {r : Program}
    (store : Store) (site : Site) (htake : p.take? id holder = some (handle, r))
    (hmade : e.answer.made? = none) (hgiven : e.action.given? = some id)
    (hplace : p.place? e.action = some (store.place site))
    (hhost : q.host = (r.host.tryRelease store site handle).2) (hheld : q.held = r.held)
    (hfault : ∀ f, e.answer.fault? = some f ↔
      (r.host.tryRelease store site handle).1 = .error f) : Conduct p e q := by
  obtain ⟨s, hs, rfl, rfl, -, rfl⟩ := take?_eq_some htake
  exact .releases s store site hs hmade hgiven hplace hhost hheld hfault

/-- A step enters one scope, tries to release one, or touches none. -/
theorem step_conduct (hstep : p.step a = some (e, q)) : Conduct p e q := by
  cases a with
  | enter store site c =>
    obtain ⟨rfl, rfl⟩ := Prod.mk.inj (Option.some.inj hstep)
    exact .enters store site c .code rfl rfl rfl rfl rfl (by simp)
  | guard store site c =>
    obtain ⟨rfl, rfl⟩ := Prod.mk.inj (Option.some.inj hstep)
    exact .enters store site c (.guard store) rfl rfl rfl rfl rfl (by simp)
  | start store site c =>
    obtain ⟨rfl, rfl⟩ := Prod.mk.inj (Option.some.inj hstep)
    refine .enters store site c (.work p.works.length) rfl rfl rfl rfl rfl ?_
    intro k hk
    cases hk
    simp [hold]
  | resume k site =>
    obtain ⟨w, hw, he⟩ := Option.map_eq_some_iff.mp hstep
    cases hfin : w.isFinished with
    | true =>
      rw [step_resume_of_finished hw hfin] at hstep
      obtain ⟨rfl, rfl⟩ := Prod.mk.inj (Option.some.inj hstep)
      exact .rests rfl rfl rfl rfl
    | false =>
      rw [step_resume_of_running hw hfin] at hstep
      obtain ⟨rfl, rfl⟩ := Prod.mk.inj (Option.some.inj hstep)
      refine .enters w.store site w.context (.work k) rfl rfl ?_ rfl rfl ?_
      · simp [place?, hw]
      · intro j hj
        cases hj
        have hk := (List.getElem?_eq_some_iff.mp hw).1
        simpa [hold, setWork] using hk
  | finish k o =>
    obtain ⟨w, hw, he⟩ := Option.map_eq_some_iff.mp hstep
    split at he <;> cases he <;> exact .rests rfl rfl rfl rfl
  | tryFinish k o =>
    obtain ⟨w, hw, he⟩ := Option.map_eq_some_iff.mp hstep
    split at he <;> cases he <;> exact .rests rfl rfl rfl rfl
  | tryRelease id store site =>
    obtain ⟨⟨handle, r⟩, htake, he⟩ := Option.map_eq_some_iff.mp hstep
    obtain ⟨rfl, rfl⟩ := Prod.mk.inj he
    exact conduct_release store site htake rfl rfl rfl rfl rfl (fault?_tried _)
  | release id store site =>
    obtain ⟨⟨handle, r⟩, htake, he⟩ := Option.map_eq_some_iff.mp hstep
    obtain ⟨rfl, rfl⟩ := Prod.mk.inj he
    exact conduct_release store site htake (made?_ofRelease _) rfl rfl rfl rfl (fault?_ofRelease _)
  | dropGuard id store site =>
    obtain ⟨⟨handle, r⟩, htake, he⟩ := Option.map_eq_some_iff.mp hstep
    obtain ⟨rfl, rfl⟩ := Prod.mk.inj he
    exact conduct_release store site htake (made?_ofRelease _) rfl rfl rfl rfl (fault?_ofRelease _)
  | leave k id site =>
    obtain ⟨w, hw, hbind⟩ := Option.bind_eq_some_iff.mp hstep
    obtain ⟨⟨handle, r⟩, htake, he⟩ := Option.map_eq_some_iff.mp hbind
    obtain ⟨rfl, rfl⟩ := Prod.mk.inj he
    have hleave := w.leave_release site handle r.host
    refine conduct_release w.store site htake (made?_ofRelease _) rfl ?_
      hleave.2 rfl ?_
    · simp [place?, hw]
    · intro f
      rw [hleave.1]
      exact fault?_ofRelease _ f
  | finishAndLeave k id o site =>
    obtain ⟨w, hw, hbind⟩ := Option.bind_eq_some_iff.mp hstep
    obtain ⟨⟨handle, r⟩, htake, he⟩ := Option.map_eq_some_iff.mp hbind
    obtain ⟨rfl, rfl⟩ := Prod.mk.inj he
    obtain ⟨⟨won, hresult⟩, hhost⟩ := w.finishAndLeave_release o site handle r.host
    refine conduct_release w.store site htake (made?_ofClosing _) rfl ?_
      hhost rfl ?_
    · simp [place?, hw]
    · intro f
      rw [hresult, fault?_ofClosing]
      exact fault?_ofRelease _ f

end Steps

end Program

end TraceIdentity
