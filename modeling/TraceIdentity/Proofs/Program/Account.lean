import TraceIdentity.Proofs.Program.Turns
/-!
# Accounts of one unit of work

An account relates what happened so far to a unit of work and the number of its
scopes. One that is right when the work starts, and stays right with every
ending and every change of the scopes, is right after every run.
-/
namespace TraceIdentity.Program

variable {p q : Program} {k : Nat} {e : Event} {t : List Event} {w : Work} {h : Host}

/-- The contexts of the work started so far. -/
def starts (t : List Event) : List SpanContext :=
  t.filterMap fun e =>
    match e.action with
    | .start _ _ c => some c
    | _ => none

/-- The outcomes with which the steps tried to end work `k`. -/
def attempts (k : Nat) (t : List Event) : List Work.Outcome :=
  t.filterMap (·.attempt? k)

/-- Everything the listener of work `k` heard. -/
def heard (k : Nat) (t : List Event) : List Work.Ending :=
  t.filterMap (·.heard? k)

theorem starts_append (t t' : List Event) : starts (t ++ t') = starts t ++ starts t' :=
  List.filterMap_append

@[simp] theorem attempts_append (t t' : List Event) :
    attempts k (t ++ t') = attempts k t ++ attempts k t' := List.filterMap_append

@[simp] theorem heard_append (t t' : List Event) :
    heard k (t ++ t') = heard k t ++ heard k t' := List.filterMap_append

theorem start_of_subject? {a : Action} (hstep : p.step a = some (e, q)) (hp : p.works[k]? = none)
    (ha : p.subject? a = some k) : ∃ store site c, a = .start store site c := by
  cases a with
  | start store site c => exact ⟨store, site, c, rfl⟩
  | enter store site c => cases ha
  | guard store site c => cases ha
  | tryRelease id store site => cases ha
  | release id store site => cases ha
  | dropGuard id store site => cases ha
  | resume j site => cases ha; simp [step, hp] at hstep
  | finish j o => cases ha; simp [step, hp] at hstep
  | tryFinish j o => cases ha; simp [step, hp] at hstep
  | leave j id site => cases ha; simp [step, hp] at hstep
  | finishAndLeave j id o site => cases ha; simp [step, hp] at hstep

theorem step_born {a : Action} (hstep : p.step a = some (e, q)) (hp : p.works[k]? = none) :
    e.Spares k ∧ (Frame k p q ∨
      ∃ c store, (∃ site, a = .start store site c) ∧
        q.works[k]? = some { context := c, store, active := 1 } ∧
          q.scopes k = p.scopes k + 1) := by
  by_cases ha : p.subject? a = some k
  · obtain ⟨store, site, c, rfl⟩ := start_of_subject? hstep hp ha
    cases ha
    obtain ⟨rfl, rfl⟩ := Prod.mk.inj (Option.some.inj hstep)
    refine ⟨⟨rfl, rfl, rfl, rfl⟩, .inr ⟨c, store, ⟨site, rfl⟩, List.getElem?_concat_length, ?_⟩⟩
    rw [scopes_hold, if_pos rfl]
    rfl
  · obtain ⟨hspares, hframe⟩ := step_frame hstep ha
    exact ⟨hspares, .inl hframe⟩

private theorem spares_append (ht : ∀ e ∈ t, e.Spares k) (he : e.Spares k) :
    ∀ e' ∈ t ++ [e], e'.Spares k := by
  intro e' he'
  rcases List.mem_append.mp he' with he' | he'
  · exact ht e' he'
  · rwa [List.mem_singleton.mp he']

theorem Run.unstarted (hrun : Run { host := h } t p) (hp : p.works[k]? = none) :
    (∀ e ∈ t, e.Spares k) ∧ p.scopes k = 0 := by
  induction hrun with
  | refl => exact ⟨by simp, rfl⟩
  | @snoc t p q a e hrun hstep ih =>
    cases hq : p.works[k]? with
    | some w =>
      obtain ⟨-, w', -, -, hw'⟩ := step_turns hstep hq
      rw [hw'] at hp
      cases hp
    | none =>
      obtain ⟨hspared, hscopes⟩ := ih hq
      obtain ⟨hspares, hframe | ⟨c, store, -, hborn, -⟩⟩ := step_born hstep hq
      · exact ⟨spares_append hspared hspares, hframe.scopes.trans hscopes⟩
      · rw [hborn] at hp
        cases hp

/-- An account that starts with the work and is kept by every step is right after every run. -/
theorem Run.account {P : List Event → Work → Nat → Prop}
    (born : ∀ t c store, (∀ e ∈ t, e.Spares k) → P t { context := c, store, active := 1 } 1)
    (kept : ∀ t e w ended w' n n', P t w n → Ends k e w ended → Moves k e ended n w' n' →
      P (t ++ [e]) w' n')
    (hrun : Run { host := h } t p) (hw : p.works[k]? = some w) : P t w (p.scopes k) := by
  induction hrun generalizing w with
  | refl => simp at hw
  | @snoc t p q a e hrun hstep ih =>
    cases hp : p.works[k]? with
    | some v =>
      obtain ⟨ended, w', hends, hmoves, hw'⟩ := step_turns hstep hp
      cases hw.symm.trans hw'
      exact kept t e v ended w _ _ (ih hp) hends hmoves
    | none =>
      obtain ⟨hspared, hscopes⟩ := hrun.unstarted hp
      obtain ⟨hspares, hframe | ⟨c, store, -, hborn, hscope⟩⟩ := step_born hstep hp
      · rw [hframe.works, hp] at hw
        cases hw
      · cases hw.symm.trans hborn
        rw [hscope, hscopes]
        exact born (t ++ [e]) c store (spares_append hspared hspares)

theorem contexts_step {a : Action} (hstep : p.step a = some (e, q)) :
    q.works.map (·.context) = p.works.map (·.context) ++ starts [e] := by
  by_cases ha : ∃ store site c, a = .start store site c
  · obtain ⟨store, site, c, rfl⟩ := ha
    cases hstep
    simp [starts, Work.start, Work.activate]
  · have hnone : starts [e] = [] := by
      have haction := action_of_step hstep
      cases a with
      | start store site c => exact absurd ⟨store, site, c, rfl⟩ ha
      | _ => simp [starts, haction]
    rw [hnone, List.append_nil]
    apply List.ext_getElem?
    intro k
    rw [List.getElem?_map, List.getElem?_map]
    cases hp : p.works[k]? with
    | some w =>
      obtain ⟨ended, w', hends, hmoves, hw'⟩ := step_turns hstep hp
      rw [hw', Option.map_some, Option.map_some, hmoves.context, hends.context]
    | none =>
      obtain ⟨-, hframe | ⟨c, store, ⟨site, hstart⟩, -⟩⟩ := step_born hstep hp
      · rw [hframe.works, hp]
      · exact absurd ⟨store, site, c, hstart⟩ ha

theorem Run.contexts (hrun : Run { host := h } t p) : p.works.map (·.context) = starts t := by
  induction hrun with
  | refl => rfl
  | snoc hrun hstep ih => rw [contexts_step hstep, ih, ← starts_append]

theorem Run.context (hrun : Run { host := h } t p) (hw : p.works[k]? = some w) :
    (starts t)[k]? = some w.context := by
  rw [← hrun.contexts, List.getElem?_map, hw]
  rfl

end TraceIdentity.Program
