import TraceIdentity.Proofs.Program.Account
/-!
# Work ends once

However terminal events, resumptions and releases are mixed, the first terminal
event wins: its listener is called with the context of the work and this
outcome, and nothing changes the phase afterwards.
-/
namespace TraceIdentity.Program

variable {p q : Program} {k : Nat} {e : Event} {t : List Event} {w : Work} {h : Host}

/-- What happened so far agrees with a unit of work on whether and how it ended. -/
structure Settled (k : Nat) (t : List Event) (w : Work) : Prop where
  running : w.isFinished = false → attempts k t = [] ∧ heard k t = []
  finished : w.isFinished = true → ∃ o, (attempts k t).head? = some o ∧
    heard k t = [⟨w.context, o⟩] ∧ o.phase = w.phase

theorem settled_born (ht : ∀ e ∈ t, e.Spares k) (c : SpanContext) (store : Store) :
    Settled k t { context := c, store, active := 1 } := by
  have hattempts : attempts k t = [] := List.filterMap_eq_nil_iff.mpr fun e he => (ht e he).attempt
  have hheard : heard k t = [] := List.filterMap_eq_nil_iff.mpr fun e he => (ht e he).heard
  exact ⟨fun _ => ⟨hattempts, hheard⟩, fun hfin => by cases hfin⟩

theorem Settled.ends {w' : Work} (hs : Settled k t w) (he : Ends k e w w') :
    Settled k (t ++ [e]) w' := by
  cases he with
  | spared hattempt hheard =>
    have hattempts : attempts k (t ++ [e]) = attempts k t := by simp [attempts, hattempt]
    have hheards : heard k (t ++ [e]) = heard k t := by simp [heard, hheard]
    constructor
    · rw [hattempts, hheards]
      exact hs.running
    · rw [hattempts, hheards]
      exact hs.finished
  | won o hrunning hattempt hheard =>
    obtain ⟨hattempts, hheards⟩ := hs.running hrunning
    constructor
    · intro hfin
      have hterminal : o.phase.isTerminal = true := Work.isTerminal_phase o
      exact absurd (hterminal.symm.trans hfin) (by decide)
    · intro _
      refine ⟨o, ?_, ?_, rfl⟩
      · rw [attempts_append, hattempts]
        simp [attempts, hattempt]
      · rw [heard_append, hheards]
        simp [heard, hheard]
  | lost o hfinished hattempt hheard =>
    obtain ⟨first, hfirst, hheards, hphase⟩ := hs.finished hfinished
    constructor
    · intro hfin
      exact absurd (hfinished.symm.trans hfin) (by decide)
    · intro _
      refine ⟨first, ?_, ?_, hphase⟩
      · rw [attempts_append, List.head?_append, hfirst]
        rfl
      · rw [heard_append, hheards]
        simp [heard, hheard]

theorem Moves.phase {w' : Work} {n n' : Nat} (hm : Moves k e w n w' n')
    (hfin : w.isFinished = true) : w'.phase = w.phase := by
  cases hm with
  | stays n hresumes hstops => rfl
  | enters n hrunning hresumes hstops => exact absurd (hfin.symm.trans hrunning) (by decide)
  | leaves n hresumes hstops => exact Work.phase_deactivate_of_finished hfin
  | stops n hresumes hstops => rfl

theorem Moves.running {w' : Work} {n n' : Nat} (hm : Moves k e w n w' n')
    (hrunning : w.isFinished = false) : w'.isFinished = false := by
  cases hm with
  | stays n hresumes hstops => exact hrunning
  | enters n hrunning hresumes hstops => rfl
  | leaves n hresumes hstops =>
    rw [Work.isFinished]
    by_cases hlast : w.active ≤ 1
    · rw [Work.phase_deactivate_of_last hrunning hlast]
      rfl
    · rw [Work.phase_deactivate_of_more (Nat.lt_of_not_le hlast)]
      exact hrunning
  | stops n hresumes hstops => exact hrunning

theorem Settled.moves {w' : Work} {n n' : Nat} (hs : Settled k t w) (hm : Moves k e w n w' n') :
    Settled k t w' := by
  cases hfin : w.isFinished with
  | true =>
    have hphase := hm.phase hfin
    have hfin' : w'.isFinished = true := by
      rw [Work.isFinished, hphase]
      exact hfin
    constructor
    · intro hrunning
      exact absurd (hfin'.symm.trans hrunning) (by decide)
    · intro _
      rw [hm.context, hphase]
      exact hs.finished hfin
  | false =>
    have hrunning := hm.running hfin
    constructor
    · intro _
      exact hs.running hfin
    · intro hfin'
      exact absurd (hfin'.symm.trans hrunning) (by decide)

theorem Run.settled (hrun : Run { host := h } t p) (hw : p.works[k]? = some w) : Settled k t w :=
  hrun.account (P := fun t w _ => Settled k t w) (fun _ c store ht => settled_born ht c store)
    (fun _ _ _ _ _ _ _ hs he hm => (hs.ends he).moves hm) hw

end TraceIdentity.Program
