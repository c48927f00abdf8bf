import TraceIdentity.Proofs.Program.Account
/-!
# The number of scopes that run some work

Work counts the scopes that run it. The count is that of the scopes still held
and of those whose release stopped the code that made it; it tells, as long as
the work has not ended, whether the work is suspended.
-/
namespace TraceIdentity.Program

variable {p q : Program} {k : Nat} {e : Event} {t : List Event} {w : Work} {h : Host}

/-- How often work `k` was resumed. -/
def resumptions (k : Nat) (t : List Event) : Nat :=
  t.countP (·.resumes k)

/-- How many scopes of work `k` were left by a release that stopped the code. -/
def strays (k : Nat) (t : List Event) : Nat :=
  t.countP (·.stops k)

theorem resumptions_of_resumes (h : e.resumes k = true) :
    resumptions k (t ++ [e]) = resumptions k t + 1 := by
  rw [resumptions, List.countP_append, List.countP_singleton, if_pos h]
  rfl

theorem resumptions_of_not_resumes (h : e.resumes k = false) :
    resumptions k (t ++ [e]) = resumptions k t := by
  rw [resumptions, List.countP_append, List.countP_singleton, if_neg (by rw [h]; decide)]
  rfl

theorem strays_of_stops (h : e.stops k = true) : strays k (t ++ [e]) = strays k t + 1 := by
  rw [strays, List.countP_append, List.countP_singleton, if_pos h]
  rfl

theorem strays_of_not_stops (h : e.stops k = false) : strays k (t ++ [e]) = strays k t := by
  rw [strays, List.countP_append, List.countP_singleton, if_neg (by rw [h]; decide)]
  rfl

/-- The books of a unit of work of which `n` scopes are held. -/
structure Booked (k : Nat) (t : List Event) (w : Work) (n : Nat) : Prop where
  active : w.active = n + strays k t
  suspended : w.isFinished = false → (w.phase = .suspended ↔ w.active = 0)
  started : w.phase = .started → resumptions k t = 0 ∧ w.active = 1
  resumed : w.phase = .resumed → 0 < resumptions k t ∧ 0 < w.active

theorem booked_born (ht : ∀ e ∈ t, e.Spares k) (c : SpanContext) (store : Store) :
    Booked k t { context := c, store, active := 1 } 1 := by
  have hresumptions : resumptions k t = 0 := by
    rw [resumptions, List.countP_eq_zero]
    intro e he
    rw [(ht e he).resumes]
    decide
  have hstrays : strays k t = 0 := by
    rw [strays, List.countP_eq_zero]
    intro e he
    rw [(ht e he).stops]
    decide
  constructor
  · rw [hstrays]
  · intro _
    simp
  · intro _
    exact ⟨hresumptions, rfl⟩
  · intro hphase
    cases hphase

theorem booked_of_finished {n : Nat} (hactive : w.active = n + strays k t)
    (hfin : w.isFinished = true) : Booked k t w n := by
  have hterminal : w.phase.isTerminal = true := hfin
  constructor
  · exact hactive
  · intro hrunning
    exact absurd (hfin.symm.trans hrunning) (by decide)
  · intro hphase
    rw [hphase] at hterminal
    cases hterminal
  · intro hphase
    rw [hphase] at hterminal
    cases hterminal

theorem Booked.ends {w' : Work} {n : Nat} (hb : Booked k t w n) (he : Ends k e w w') :
    Booked k t w' n := by
  cases he with
  | spared hattempt hheard => exact hb
  | won o hrunning hattempt hheard => exact booked_of_finished hb.active (Work.isTerminal_phase o)
  | lost o hfinished hattempt hheard => exact hb

theorem Booked.stays {n : Nat} (hb : Booked k t w n) (hresumes : e.resumes k = false)
    (hstops : e.stops k = false) : Booked k (t ++ [e]) w n := by
  constructor
  · rw [strays_of_not_stops hstops]
    exact hb.active
  · exact hb.suspended
  · rw [resumptions_of_not_resumes hresumes]
    exact hb.started
  · rw [resumptions_of_not_resumes hresumes]
    exact hb.resumed

theorem Booked.enters {n : Nat} (hb : Booked k t w n) (hresumes : e.resumes k = true)
    (hstops : e.stops k = false) :
    Booked k (t ++ [e]) { w with phase := .resumed, active := w.active + 1 } (n + 1) := by
  constructor
  · have hactive := hb.active
    rw [strays_of_not_stops hstops]
    simp only [hactive]
    omega
  · intro _
    simp
  · intro hphase
    cases hphase
  · intro _
    rw [resumptions_of_resumes hresumes]
    exact ⟨Nat.succ_pos _, Nat.succ_pos _⟩

theorem Booked.deactivate {n : Nat} (hb : Booked k t w (n + 1)) : Booked k t w.deactivate n := by
  have hactive := hb.active
  have hless : w.deactivate.active = n + strays k t := by
    rw [Work.active_deactivate, hactive]
    omega
  cases hfin : w.isFinished with
  | true =>
    refine booked_of_finished hless ?_
    rw [Work.isFinished, Work.phase_deactivate_of_finished hfin]
    exact hfin
  | false =>
    by_cases hlast : w.active ≤ 1
    · have hphase := Work.phase_deactivate_of_last hfin hlast
      constructor
      · exact hless
      · intro _
        refine ⟨fun _ => ?_, fun _ => hphase⟩
        rw [Work.active_deactivate]
        omega
      · intro hstarted
        rw [hphase] at hstarted
        cases hstarted
      · intro hresumed
        rw [hphase] at hresumed
        cases hresumed
    · have hmore : 1 < w.active := Nat.lt_of_not_le hlast
      have hphase := Work.phase_deactivate_of_more hmore
      constructor
      · exact hless
      · intro _
        rw [hphase, hb.suspended hfin, Work.active_deactivate]
        omega
      · intro hstarted
        rw [hphase] at hstarted
        have hone := (hb.started hstarted).2
        omega
      · intro hresumed
        rw [hphase] at hresumed
        refine ⟨(hb.resumed hresumed).1, ?_⟩
        rw [Work.active_deactivate]
        omega

theorem Booked.stops {n : Nat} (hb : Booked k t w (n + 1)) (hresumes : e.resumes k = false)
    (hstops : e.stops k = true) : Booked k (t ++ [e]) w n := by
  constructor
  · have hactive := hb.active
    rw [strays_of_stops hstops]
    omega
  · exact hb.suspended
  · rw [resumptions_of_not_resumes hresumes]
    exact hb.started
  · rw [resumptions_of_not_resumes hresumes]
    exact hb.resumed

theorem Booked.moves {w' : Work} {n n' : Nat} (hb : Booked k t w n) (hm : Moves k e w n w' n') :
    Booked k (t ++ [e]) w' n' := by
  cases hm with
  | stays n hresumes hstops => exact hb.stays hresumes hstops
  | enters n hrunning hresumes hstops => exact hb.enters hresumes hstops
  | leaves n hresumes hstops => exact hb.deactivate.stays hresumes hstops
  | stops n hresumes hstops => exact hb.stops hresumes hstops

theorem Run.booked (hrun : Run { host := h } t p) (hw : p.works[k]? = some w) :
    Booked k t w (p.scopes k) :=
  hrun.account (P := Booked k) (fun _ c store ht => booked_born ht c store)
    (fun _ _ _ _ _ _ _ hb he hm => (hb.ends he).moves hm) hw

/-- A scope that goes is taken off the count exactly, unless its release was stopped. -/
theorem Moves.exact {w' : Work} {n n' : Nat} (hm : Moves k e w n w' n') (hless : n' < n)
    (hn : n ≤ w.active) : w'.active + (if e.stops k then 0 else 1) = w.active := by
  cases hm with
  | stays n hresumes hstops => exact absurd hless (Nat.lt_irrefl n)
  | enters n hrunning hresumes hstops => omega
  | leaves n hresumes hstops =>
    rw [hstops, Work.active_deactivate]
    simp only [Bool.false_eq_true, if_false]
    omega
  | stops n hresumes hstops =>
    rw [hstops]
    rfl

/-- The number of scopes that work `k` counts is right, and tells whether it is suspended. -/
structure InOrder (k : Nat) (t : List Event) (p : Program) (w : Work) : Prop where
  active : w.active = p.scopes k + strays k t
  counted : ∀ s ∈ p.held, s.holder = .work k → 0 < w.active
  exact : ∀ a e q, p.step a = some (e, q) → q.scopes k < p.scopes k →
    ∃ w', q.works[k]? = some w' ∧ w'.active + (if e.stops k then 0 else 1) = w.active
  suspended : w.isFinished = false → (w.phase = .suspended ↔ w.active = 0)
  started : w.phase = .started → resumptions k t = 0 ∧ w.active = 1
  resumed : w.phase = .resumed → 0 < resumptions k t ∧ 0 < w.active

theorem work_counts_its_scopes (hrun : Run { host := h } t p) (hw : p.works[k]? = some w) :
    InOrder k t p w := by
  have hb := hrun.booked hw
  constructor
  · exact hb.active
  · intro s hs hholder
    have hscopes : 0 < p.scopes k := List.countP_pos_iff.mpr ⟨s, hs, decide_eq_true hholder⟩
    have hactive := hb.active
    omega
  · intro a e q hstep hless
    obtain ⟨ended, w', hends, hmoves, hw'⟩ := step_turns hstep hw
    have hactive := hb.active
    have hended := (hb.ends hends).active
    refine ⟨w', hw', ?_⟩
    have hexact := hmoves.exact hless (by omega)
    omega
  · exact hb.suspended
  · exact hb.started
  · exact hb.resumed

/-- One of two scopes is left on a thread that it was not entered on, and stays counted. -/
theorem work_counts_its_scopes_of_stray :
    ∃ t p w, Run { host := {} } t p ∧ p.works[0]? = some w ∧ w.phase = .resumed ∧
      p.scopes 0 = 0 ∧ strays 0 t = 1 ∧ InOrder 0 t p w := by
  have hstart : Run { host := {} } _ _ := .snoc .refl
    (rfl : step _ (.start .thread ⟨"main", []⟩ { trace := .ofNat 16 1, span := .ofNat 8 1 }) = _)
  have hresumed := hstart.snoc (rfl : step _ (.resume 0 ⟨"worker", []⟩) = _)
  have hstray := hresumed.snoc (rfl : step _ (.leave 0 2 ⟨"main", []⟩) = _)
  have hleft := hstray.snoc (rfl : step _ (.leave 0 1 ⟨"main", []⟩) = _)
  exact ⟨_, _, _, hleft, rfl, rfl, rfl, by decide, work_counts_its_scopes hleft rfl⟩

end TraceIdentity.Program
