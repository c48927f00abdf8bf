import TraceIdentity.Proofs.Program
/-!
# What a step leaves alone

A step may try to end a unit of work, and may enter or leave a scope of it. A
step that is about nothing, or about other work, does neither.
-/
namespace TraceIdentity

/-- Whether the answer is that the code of the step was stopped. -/
def Answer.isStopped : Answer → Bool
  | .stopped _ => true
  | _ => false

@[simp] theorem isStopped_ofClosing (result : Except Violation Unit) (won : Bool) :
    (Answer.ofClosing (result.map fun _ => won)).isStopped =
      (Answer.ofRelease result).isStopped := by
  cases result <;> rfl

namespace Event

/-- The outcome with which a step tries to end work `k`. -/
def attempt? (k : Nat) (e : Event) : Option Work.Outcome :=
  match e.action with
  | .finish j o | .tryFinish j o | .finishAndLeave j _ o _ => if j = k then some o else none
  | _ => none

/-- What the listener of work `k` hears in a step. -/
def heard? (k : Nat) (e : Event) : Option Work.Ending :=
  match e.call with
  | some (j, ending) => if j = k then some ending else none
  | none => none

/-- Whether a step goes on with work `k`. -/
def resumes (k : Nat) (e : Event) : Bool :=
  match e.action, e.answer with
  | .resume j _, .entered _ => j = k
  | _, _ => false

/-- Whether a step leaves a scope of work `k` and is stopped by its release. -/
def stops (k : Nat) (e : Event) : Bool :=
  match e.action with
  | .leave j _ _ | .finishAndLeave j _ _ _ => j = k && e.answer.isStopped
  | _ => false

/-- A step that neither tries to end work `k` nor enters or leaves a scope of it. -/
structure Spares (k : Nat) (e : Event) : Prop where
  attempt : e.attempt? k = none
  heard : e.heard? k = none
  resumes : e.resumes k = false
  stops : e.stops k = false

end Event

namespace Program

theorem action_of_step {p q : Program} {a : Action} {e : Event} (h : p.step a = some (e, q)) :
    e.action = a := by
  cases a with
  | enter store site c =>
    cases h
    rfl
  | guard store site c =>
    cases h
    rfl
  | start store site c =>
    cases h
    rfl
  | resume k site =>
    obtain ⟨w, -, he⟩ := Option.map_eq_some_iff.mp h
    split at he <;> cases he <;> rfl
  | finish k o =>
    obtain ⟨w, -, he⟩ := Option.map_eq_some_iff.mp h
    split at he <;> cases he <;> rfl
  | tryFinish k o =>
    obtain ⟨w, -, he⟩ := Option.map_eq_some_iff.mp h
    split at he <;> cases he <;> rfl
  | tryRelease id store site =>
    obtain ⟨taken, -, he⟩ := Option.map_eq_some_iff.mp h
    cases he
    rfl
  | release id store site =>
    obtain ⟨taken, -, he⟩ := Option.map_eq_some_iff.mp h
    cases he
    rfl
  | dropGuard id store site =>
    obtain ⟨taken, -, he⟩ := Option.map_eq_some_iff.mp h
    cases he
    rfl
  | leave k id site =>
    obtain ⟨w, -, hbind⟩ := Option.bind_eq_some_iff.mp h
    obtain ⟨taken, -, he⟩ := Option.map_eq_some_iff.mp hbind
    cases he
    rfl
  | finishAndLeave k id o site =>
    obtain ⟨w, -, hbind⟩ := Option.bind_eq_some_iff.mp h
    obtain ⟨taken, -, he⟩ := Option.map_eq_some_iff.mp hbind
    cases he
    rfl

/-- The work that an action is about. -/
def subject? (p : Program) : Action → Option Nat
  | .start _ _ _ => some p.works.length
  | .resume k _ | .finish k _ | .tryFinish k _ | .leave k _ _ | .finishAndLeave k _ _ _ => some k
  | _ => none

section Frames

variable {p q r : Program} {k : Nat}

@[simp] theorem works_setWork (p : Program) (j : Nat) (w : Work) :
    (p.setWork j w).works = p.works.set j w := rfl

@[simp] theorem works_hold (p : Program) (handle : Handle) (holder : Holder) (place : Place) :
    (p.hold handle holder place).works = p.works := rfl

@[simp] theorem scopes_hold (p : Program) (handle : Handle) (holder : Holder) (place : Place)
    (k : Nat) : (p.hold handle holder place).scopes k =
      p.scopes k + if holder = .work k then 1 else 0 := by
  simp [scopes, hold, List.countP_cons]

theorem getElem?_setWork_self {w v : Work} (hw : p.works[k]? = some w) :
    (p.setWork k v).works[k]? = some v := by
  obtain ⟨hk, -⟩ := List.getElem?_eq_some_iff.mp hw
  rw [works_setWork, List.getElem?_set_self hk]

theorem take?_eq_some {id : Nat} {holder : Holder} {handle : Handle}
    (h : p.take? id holder = some (handle, q)) :
    ∃ s ∈ p.held, s.handle = handle ∧ s.handle.id = id ∧ s.holder = holder ∧
      q = { p with held := p.held.erase s } := by
  obtain ⟨s, hs, hq⟩ := Option.map_eq_some_iff.mp h
  obtain ⟨hhandle, rfl⟩ := Prod.mk.inj hq
  have hfound := List.find?_some hs
  simp only [decide_eq_true_eq] at hfound
  exact ⟨s, List.mem_of_find?_eq_some hs, hhandle, hfound.1, hfound.2, rfl⟩

theorem take?_of_mem {s : Held} (hs : s ∈ p.held) :
    ∃ handle q, p.take? s.handle.id s.holder = some (handle, q) := by
  have hfound : (p.held.find? fun r => r.handle.id = s.handle.id ∧ r.holder = s.holder).isSome := by
    rw [List.find?_isSome]
    exact ⟨s, hs, by simp⟩
  obtain ⟨r, hr⟩ := Option.isSome_iff_exists.mp hfound
  exact ⟨r.handle, _, by rw [take?, hr]; rfl⟩

theorem works_take? {id : Nat} {holder : Holder} {handle : Handle}
    (h : p.take? id holder = some (handle, q)) : q.works = p.works := by
  obtain ⟨s, -, -, -, -, rfl⟩ := take?_eq_some h
  rfl

theorem scopes_take? {id : Nat} {holder : Holder} {handle : Handle}
    (h : p.take? id holder = some (handle, q)) (k : Nat) :
    p.scopes k = q.scopes k + if holder = .work k then 1 else 0 := by
  obtain ⟨s, hs, -, -, rfl, rfl⟩ := take?_eq_some h
  have hperm := (List.perm_cons_erase hs).countP_eq (·.holder = .work k)
  rw [List.countP_cons] at hperm
  simpa [scopes] using hperm

/-- Work `k` and the number of its scopes stay as they were. -/
structure Frame (k : Nat) (p q : Program) : Prop where
  works : q.works[k]? = p.works[k]?
  scopes : q.scopes k = p.scopes k

theorem Frame.refl (p : Program) : Frame k p p :=
  ⟨rfl, rfl⟩

theorem Frame.trans (hpq : Frame k p q) (hqr : Frame k q r) : Frame k p r :=
  ⟨hqr.works.trans hpq.works, hqr.scopes.trans hpq.scopes⟩

theorem frame_host (p : Program) (host : Host) : Frame k p { p with host } :=
  ⟨rfl, rfl⟩

theorem frame_hold (p : Program) (handle : Handle) {holder : Holder} (place : Place)
    (hne : holder ≠ .work k) : Frame k p (p.hold handle holder place) :=
  ⟨rfl, by rw [scopes_hold, if_neg hne]; rfl⟩

theorem frame_setWork (p : Program) {j : Nat} (w : Work) (hne : j ≠ k) :
    Frame k p (p.setWork j w) :=
  ⟨List.getElem?_set_ne hne, rfl⟩

theorem frame_append (p : Program) (w : Work) (hne : p.works.length ≠ k) :
    Frame k p { p with works := p.works ++ [w] } := by
  refine ⟨?_, rfl⟩
  rcases Nat.lt_or_gt_of_ne hne with hlt | hgt
  · have hlen : (p.works ++ [w]).length ≤ k := by
      rw [List.length_append]
      exact hlt
    rw [List.getElem?_eq_none hlen, List.getElem?_eq_none (Nat.le_of_lt hlt)]
  · exact List.getElem?_append_left hgt

theorem frame_take? {id : Nat} {holder : Holder} {handle : Handle}
    (h : p.take? id holder = some (handle, q)) (hne : holder ≠ .work k) : Frame k p q := by
  refine ⟨by rw [works_take? h], ?_⟩
  rw [scopes_take? h k, if_neg hne]
  rfl

/-- A step about nothing, or about other work, leaves work `k` and its scopes alone. -/
theorem step_frame {a : Action} {e : Event} (h : p.step a = some (e, q))
    (hne : p.subject? a ≠ some k) : e.Spares k ∧ Frame k p q := by
  cases a with
  | enter store site c =>
    obtain ⟨rfl, rfl⟩ := Prod.mk.inj (Option.some.inj h)
    exact ⟨⟨rfl, rfl, rfl, rfl⟩, (frame_host p _).trans (frame_hold _ _ _ (by simp))⟩
  | guard store site c =>
    obtain ⟨rfl, rfl⟩ := Prod.mk.inj (Option.some.inj h)
    exact ⟨⟨rfl, rfl, rfl, rfl⟩, (frame_host p _).trans (frame_hold _ _ _ (by simp))⟩
  | start store site c =>
    obtain ⟨rfl, rfl⟩ := Prod.mk.inj (Option.some.inj h)
    have hlen : p.works.length ≠ k := fun hk => hne (congrArg some hk)
    refine ⟨⟨rfl, rfl, rfl, rfl⟩, ?_⟩
    exact (frame_append p _ hlen).trans
      ((frame_host _ _).trans (frame_hold _ _ _ (by simpa using hlen)))
  | resume j site =>
    have hj : j ≠ k := fun hk => hne (congrArg some hk)
    obtain ⟨w, -, he⟩ := Option.map_eq_some_iff.mp h
    split at he
    · obtain ⟨rfl, rfl⟩ := Prod.mk.inj he
      exact ⟨⟨rfl, rfl, rfl, rfl⟩, Frame.refl p⟩
    · obtain ⟨rfl, rfl⟩ := Prod.mk.inj he
      refine ⟨⟨rfl, rfl, decide_eq_false hj, rfl⟩, ?_⟩
      exact (frame_host p _).trans
        ((frame_setWork _ _ hj).trans (frame_hold _ _ _ (by simpa using hj)))
  | finish j o =>
    have hj : j ≠ k := fun hk => hne (congrArg some hk)
    obtain ⟨w, -, he⟩ := Option.map_eq_some_iff.mp h
    split at he
    · obtain ⟨rfl, rfl⟩ := Prod.mk.inj he
      exact ⟨⟨if_neg hj, if_neg hj, rfl, rfl⟩, frame_setWork p _ hj⟩
    · obtain ⟨rfl, rfl⟩ := Prod.mk.inj he
      exact ⟨⟨if_neg hj, rfl, rfl, rfl⟩, Frame.refl p⟩
  | tryFinish j o =>
    have hj : j ≠ k := fun hk => hne (congrArg some hk)
    obtain ⟨w, -, he⟩ := Option.map_eq_some_iff.mp h
    split at he
    · obtain ⟨rfl, rfl⟩ := Prod.mk.inj he
      exact ⟨⟨if_neg hj, if_neg hj, rfl, rfl⟩, frame_setWork p _ hj⟩
    · obtain ⟨rfl, rfl⟩ := Prod.mk.inj he
      exact ⟨⟨if_neg hj, rfl, rfl, rfl⟩, Frame.refl p⟩
  | tryRelease id store site =>
    obtain ⟨⟨handle, q'⟩, htake, he⟩ := Option.map_eq_some_iff.mp h
    obtain ⟨rfl, rfl⟩ := Prod.mk.inj he
    exact ⟨⟨rfl, rfl, rfl, rfl⟩, (frame_take? htake (by simp)).trans (frame_host _ _)⟩
  | release id store site =>
    obtain ⟨⟨handle, q'⟩, htake, he⟩ := Option.map_eq_some_iff.mp h
    obtain ⟨rfl, rfl⟩ := Prod.mk.inj he
    exact ⟨⟨rfl, rfl, rfl, rfl⟩, (frame_take? htake (by simp)).trans (frame_host _ _)⟩
  | dropGuard id store site =>
    obtain ⟨⟨handle, q'⟩, htake, he⟩ := Option.map_eq_some_iff.mp h
    obtain ⟨rfl, rfl⟩ := Prod.mk.inj he
    exact ⟨⟨rfl, rfl, rfl, rfl⟩, (frame_take? htake (by simp)).trans (frame_host _ _)⟩
  | leave j id site =>
    have hj : j ≠ k := fun hk => hne (congrArg some hk)
    obtain ⟨w, -, hbind⟩ := Option.bind_eq_some_iff.mp h
    obtain ⟨⟨handle, q'⟩, htake, he⟩ := Option.map_eq_some_iff.mp hbind
    obtain ⟨rfl, rfl⟩ := Prod.mk.inj he
    refine ⟨⟨rfl, rfl, rfl, by simp [Event.stops, hj]⟩, ?_⟩
    exact (frame_take? htake (by simpa using hj)).trans
      ((frame_host _ _).trans (frame_setWork _ _ hj))
  | finishAndLeave j id o site =>
    have hj : j ≠ k := fun hk => hne (congrArg some hk)
    obtain ⟨w, -, hbind⟩ := Option.bind_eq_some_iff.mp h
    obtain ⟨⟨handle, q'⟩, htake, he⟩ := Option.map_eq_some_iff.mp hbind
    obtain ⟨rfl, rfl⟩ := Prod.mk.inj he
    refine ⟨⟨if_neg hj, ?_, rfl, by simp [Event.stops, hj]⟩, ?_⟩
    · cases (w.finishAndLeave o site handle q'.host).ending with
      | none => rfl
      | some ending => exact if_neg hj
    · exact (frame_take? htake (by simpa using hj)).trans
        ((frame_host _ _).trans (frame_setWork _ _ hj))

end Frames

end Program

end TraceIdentity
