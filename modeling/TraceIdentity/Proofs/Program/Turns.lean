import TraceIdentity.Proofs.Program.Frame
/-!
# What a step does to a unit of work

Steps about a unit of work are given by one equation each. A step takes the work
through at most one ending and then through at most one change of its scopes.
-/
namespace TraceIdentity.Program

/-- How a step tries to end work `k`. -/
inductive Ends (k : Nat) (e : Event) (w : Work) : Work → Prop where
  | spared : e.attempt? k = none → e.heard? k = none → Ends k e w w
  | won (o : Work.Outcome) : w.isFinished = false → e.attempt? k = some o →
    e.heard? k = some ⟨w.context, o⟩ → Ends k e w { w with phase := o.phase }
  | lost (o : Work.Outcome) : w.isFinished = true → e.attempt? k = some o → e.heard? k = none →
    Ends k e w w

/-- How a step changes work `k` and the number of its scopes. -/
inductive Moves (k : Nat) (e : Event) (w : Work) : Nat → Work → Nat → Prop where
  | stays (n : Nat) : e.resumes k = false → e.stops k = false → Moves k e w n w n
  | enters (n : Nat) : w.isFinished = false → e.resumes k = true → e.stops k = false →
    Moves k e w n { w with phase := .resumed, active := w.active + 1 } (n + 1)
  | leaves (n : Nat) : e.resumes k = false → e.stops k = false →
    Moves k e w (n + 1) w.deactivate n
  | stops (n : Nat) : e.resumes k = false → e.stops k = true → Moves k e w (n + 1) w n

/-- What a step does to work `k`: it may end, and then a scope of it may open or close. -/
def Turns (k : Nat) (e : Event) (p : Program) (w : Work) (q : Program) : Prop :=
  ∃ ended w', Ends k e w ended ∧ Moves k e ended (p.scopes k) w' (q.scopes k) ∧
    q.works[k]? = some w'

section Steps

variable {p q : Program} {k : Nat} {w : Work} {e : Event}

theorem step_resume_of_finished (hw : p.works[k]? = some w) (h : w.isFinished = true)
    (site : Site) : p.step (.resume k site) = some (⟨.resume k site, .ended, none⟩, p) := by
  simp [step, hw, Work.resume?_of_finished h]

theorem step_resume_of_running (hw : p.works[k]? = some w) (h : w.isFinished = false)
    (site : Site) :
    p.step (.resume k site) =
      let entered := p.host.enter w.store site w.context
      some (⟨.resume k site, .entered entered.1, none⟩,
        ({ p with host := entered.2 }.setWork k
          { w with phase := .resumed, active := w.active + 1 }).hold entered.1 (.work k)
            (w.store.place site)) := by
  simp [step, hw, Work.resume?_of_running h, Work.activate]

theorem step_finish_of_finished (hw : p.works[k]? = some w) (h : w.isFinished = true)
    (o : Work.Outcome) : p.step (.finish k o) = some (⟨.finish k o, .told false, none⟩, p) := by
  simp [step, hw, Work.finish_of_finished h]

theorem step_finish_of_running (hw : p.works[k]? = some w) (h : w.isFinished = false)
    (o : Work.Outcome) :
    p.step (.finish k o) = some (⟨.finish k o, .told true, some (k, ⟨w.context, o⟩)⟩,
      p.setWork k { w with phase := o.phase }) := by
  simp [step, hw, Work.finish_of_running h]

theorem step_tryFinish_of_finished (hw : p.works[k]? = some w) (h : w.isFinished = true)
    (o : Work.Outcome) :
    p.step (.tryFinish k o) =
      some (⟨.tryFinish k o, .tried (.error (.alreadyEnded w.phase)), none⟩, p) := by
  simp [step, hw, Work.finish_of_finished h]

theorem step_tryFinish_of_running (hw : p.works[k]? = some w) (h : w.isFinished = false)
    (o : Work.Outcome) :
    p.step (.tryFinish k o) = some (⟨.tryFinish k o, .tried (.ok ()), some (k, ⟨w.context, o⟩)⟩,
      p.setWork k { w with phase := o.phase }) := by
  simp [step, hw, Work.finish_of_running h]

theorem step_leave {id : Nat} {handle : Handle} (hw : p.works[k]? = some w)
    (htake : p.take? id (.work k) = some (handle, q)) (site : Site) :
    p.step (.leave k id site) =
      let left := w.leave site handle q.host
      some (⟨.leave k id site, .ofRelease left.1, none⟩,
        { q with host := left.2.2 }.setWork k left.2.1) := by
  simp [step, hw, htake]

theorem step_finishAndLeave_of_finished {id : Nat} {handle : Handle} (hw : p.works[k]? = some w)
    (h : w.isFinished = true) (htake : p.take? id (.work k) = some (handle, q))
    (o : Work.Outcome) (site : Site) :
    p.step (.finishAndLeave k id o site) =
      let left := w.leave site handle q.host
      some (⟨.finishAndLeave k id o site, .ofClosing (left.1.map fun _ => false), none⟩,
        { q with host := left.2.2 }.setWork k left.2.1) := by
  simp [step, hw, htake, Work.finishAndLeave_of_finished h]

theorem step_finishAndLeave_of_running {id : Nat} {handle : Handle} (hw : p.works[k]? = some w)
    (h : w.isFinished = false) (htake : p.take? id (.work k) = some (handle, q))
    (o : Work.Outcome) (site : Site) :
    p.step (.finishAndLeave k id o site) =
      let left := { w with phase := o.phase }.leave site handle q.host
      some (⟨.finishAndLeave k id o site, .ofClosing (left.1.map fun _ => true),
        some (k, ⟨w.context, o⟩)⟩, { q with host := left.2.2 }.setWork k left.2.1) := by
  simp [step, hw, htake, Work.finishAndLeave_of_running h]

theorem take?_of_step_leave {id : Nat} {site : Site}
    (h : p.step (.leave k id site) = some (e, q)) :
    ∃ handle q', p.take? id (.work k) = some (handle, q') := by
  obtain ⟨v, -, hbind⟩ := Option.bind_eq_some_iff.mp h
  obtain ⟨⟨handle, q'⟩, htake, -⟩ := Option.map_eq_some_iff.mp hbind
  exact ⟨handle, q', htake⟩

theorem take?_of_step_finishAndLeave {id : Nat} {o : Work.Outcome} {site : Site}
    (h : p.step (.finishAndLeave k id o site) = some (e, q)) :
    ∃ handle q', p.take? id (.work k) = some (handle, q') := by
  obtain ⟨v, -, hbind⟩ := Option.bind_eq_some_iff.mp h
  obtain ⟨⟨handle, q'⟩, htake, -⟩ := Option.map_eq_some_iff.mp hbind
  exact ⟨handle, q', htake⟩

end Steps

section Turns

variable {p q : Program} {k : Nat} {e : Event} {w : Work}

theorem stays_of_frame (hspared : e.Spares k) (hframe : Frame k p q) (hw : p.works[k]? = some w) :
    Turns k e p w q := by
  refine ⟨w, w, .spared hspared.attempt hspared.heard, ?_, hframe.works.trans hw⟩
  rw [hframe.scopes]
  exact .stays _ hspared.resumes hspared.stops

theorem turns_lost {o : Work.Outcome} (hw : p.works[k]? = some w) (hfin : w.isFinished = true)
    (hattempt : e.attempt? k = some o) (hheard : e.heard? k = none)
    (hresumes : e.resumes k = false) (hstops : e.stops k = false) : Turns k e p w p :=
  ⟨w, w, .lost o hfin hattempt hheard, .stays _ hresumes hstops, hw⟩

theorem turns_won {o : Work.Outcome} (hw : p.works[k]? = some w) (hfin : w.isFinished = false)
    (hattempt : e.attempt? k = some o) (hheard : e.heard? k = some ⟨w.context, o⟩)
    (hresumes : e.resumes k = false) (hstops : e.stops k = false) :
    Turns k e p w (p.setWork k { w with phase := o.phase }) :=
  ⟨_, _, .won o hfin hattempt hheard, .stays _ hresumes hstops, getElem?_setWork_self hw⟩

theorem moves_leave (w : Work) (site : Site) (handle : Handle) (host : Host) (n : Nat)
    (hresumes : e.resumes k = false)
    (hstops : e.stops k = (Answer.ofRelease (w.leave site handle host).1).isStopped) :
    Moves k e w (n + 1) (w.leave site handle host).2.1 n := by
  cases hclosed : (host.release w.store site handle).1 with
  | ok done =>
    simp only [Work.leave, hclosed] at hstops ⊢
    exact .leaves n hresumes hstops
  | error v =>
    simp only [Work.leave, hclosed] at hstops ⊢
    exact .stops n hresumes hstops

theorem turns_resume {site : Site} (h : p.step (.resume k site) = some (e, q))
    (hw : p.works[k]? = some w) : Turns k e p w q := by
  cases hfin : w.isFinished with
  | true =>
    rw [step_resume_of_finished hw hfin] at h
    obtain ⟨rfl, rfl⟩ := Prod.mk.inj (Option.some.inj h)
    exact stays_of_frame ⟨rfl, rfl, rfl, rfl⟩ (Frame.refl p) hw
  | false =>
    rw [step_resume_of_running hw hfin] at h
    obtain ⟨rfl, rfl⟩ := Prod.mk.inj (Option.some.inj h)
    refine ⟨w, _, .spared rfl rfl, ?_, getElem?_setWork_self hw⟩
    rw [scopes_hold, if_pos rfl]
    exact .enters _ hfin (decide_eq_true rfl) rfl

theorem turns_finish {o : Work.Outcome} (h : p.step (.finish k o) = some (e, q))
    (hw : p.works[k]? = some w) : Turns k e p w q := by
  cases hfin : w.isFinished with
  | true =>
    rw [step_finish_of_finished hw hfin] at h
    obtain ⟨rfl, rfl⟩ := Prod.mk.inj (Option.some.inj h)
    exact turns_lost hw hfin (if_pos rfl) rfl rfl rfl
  | false =>
    rw [step_finish_of_running hw hfin] at h
    obtain ⟨rfl, rfl⟩ := Prod.mk.inj (Option.some.inj h)
    exact turns_won hw hfin (if_pos rfl) (if_pos rfl) rfl rfl

theorem turns_tryFinish {o : Work.Outcome} (h : p.step (.tryFinish k o) = some (e, q))
    (hw : p.works[k]? = some w) : Turns k e p w q := by
  cases hfin : w.isFinished with
  | true =>
    rw [step_tryFinish_of_finished hw hfin] at h
    obtain ⟨rfl, rfl⟩ := Prod.mk.inj (Option.some.inj h)
    exact turns_lost hw hfin (if_pos rfl) rfl rfl rfl
  | false =>
    rw [step_tryFinish_of_running hw hfin] at h
    obtain ⟨rfl, rfl⟩ := Prod.mk.inj (Option.some.inj h)
    exact turns_won hw hfin (if_pos rfl) (if_pos rfl) rfl rfl

theorem turns_leave {id : Nat} {site : Site} (h : p.step (.leave k id site) = some (e, q))
    (hw : p.works[k]? = some w) : Turns k e p w q := by
  obtain ⟨handle, q', htake⟩ := take?_of_step_leave h
  have hscopes : p.scopes k = q'.scopes k + 1 := by
    rw [scopes_take? htake k, if_pos rfl]
  rw [step_leave hw htake] at h
  obtain ⟨rfl, rfl⟩ := Prod.mk.inj (Option.some.inj h)
  rw [← works_take? htake] at hw
  refine ⟨w, _, .spared rfl rfl, ?_, getElem?_setWork_self hw⟩
  rw [hscopes]
  exact moves_leave w site handle q'.host _ rfl (by simp [Event.stops])

theorem turns_finishAndLeave {id : Nat} {o : Work.Outcome} {site : Site}
    (h : p.step (.finishAndLeave k id o site) = some (e, q)) (hw : p.works[k]? = some w) :
    Turns k e p w q := by
  obtain ⟨handle, q', htake⟩ := take?_of_step_finishAndLeave h
  have hscopes : p.scopes k = q'.scopes k + 1 := by
    rw [scopes_take? htake k, if_pos rfl]
  cases hfin : w.isFinished with
  | true =>
    rw [step_finishAndLeave_of_finished hw hfin htake] at h
    obtain ⟨rfl, rfl⟩ := Prod.mk.inj (Option.some.inj h)
    rw [← works_take? htake] at hw
    refine ⟨w, _, .lost o hfin (if_pos rfl) rfl, ?_, getElem?_setWork_self hw⟩
    rw [hscopes]
    exact moves_leave w site handle q'.host _ rfl (by simp [Event.stops])
  | false =>
    rw [step_finishAndLeave_of_running hw hfin htake] at h
    obtain ⟨rfl, rfl⟩ := Prod.mk.inj (Option.some.inj h)
    rw [← works_take? htake] at hw
    refine ⟨_, _, .won o hfin (if_pos rfl) (if_pos rfl), ?_, getElem?_setWork_self hw⟩
    rw [hscopes]
    exact moves_leave _ site handle q'.host _ rfl (by simp [Event.stops])

/-- A step takes work `k` through at most one ending and one change of its scopes. -/
theorem step_turns {a : Action} (h : p.step a = some (e, q)) (hw : p.works[k]? = some w) :
    Turns k e p w q := by
  by_cases hsubject : p.subject? a = some k
  · cases a with
    | enter store site c => cases hsubject
    | guard store site c => cases hsubject
    | tryRelease id store site => cases hsubject
    | release id store site => cases hsubject
    | dropGuard id store site => cases hsubject
    | start store site c =>
      cases hsubject
      rw [List.getElem?_eq_none (Nat.le_refl _)] at hw
      cases hw
    | resume j site =>
      cases hsubject
      exact turns_resume h hw
    | finish j o =>
      cases hsubject
      exact turns_finish h hw
    | tryFinish j o =>
      cases hsubject
      exact turns_tryFinish h hw
    | leave j id site =>
      cases hsubject
      exact turns_leave h hw
    | finishAndLeave j id o site =>
      cases hsubject
      exact turns_finishAndLeave h hw
  · obtain ⟨hspared, hframe⟩ := step_frame h hsubject
    exact stays_of_frame hspared hframe hw

theorem Ends.context {w' : Work} (h : Ends k e w w') : w'.context = w.context := by
  cases h <;> rfl

theorem Moves.context {w' : Work} {n n' : Nat} (h : Moves k e w n w' n') :
    w'.context = w.context := by
  cases h with
  | leaves n hresumes hstops => exact w.context_deactivate
  | _ => rfl

end Turns


end TraceIdentity.Program
