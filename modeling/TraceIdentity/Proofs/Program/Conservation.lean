import TraceIdentity.Proofs.Program.Ledger
/-!
# Scopes are conserved

However threads, tasks, stores and owners are mixed, a handle that is held is open
on its own slot and on no other. Only a release that is tried on a foreign slot
leaves a scope behind; without one, a host is at rest again when no handle is held.
-/
namespace TraceIdentity.Program

variable {p q : Program} {e : Event} {t : List Event} {a : Action}
  {base : Place → Option SpanContext} {issued : Nat}

/-- What is open on the slots of a host after a run, and what the next release does. -/
structure Conserved (base : Place → Option SpanContext) (t : List Event) (p : Program) : Prop where
  distinct : ∀ place, (p.host.slots place).ids.Nodup
  apart : ∀ id place place', id ∈ (p.host.slots place).ids → id ∈ (p.host.slots place').ids →
    place = place'
  /-- Every handle made so far is either held or was given up, once. -/
  linear : ((entries p t).map (·.1)).Nodup ∧
    ((entries p t).map (·.1)).Perm (p.heldIds ++ (givenUp p t).map (·.1))
  live : ∀ s ∈ p.held, (s.handle.id, s.place) ∈ entries p t ∧
    ∀ place, s.handle.id ∈ (p.host.slots place).ids ↔ place = s.place
  /-- A scope that nobody holds was entered here, and its release was tried elsewhere. -/
  stray : ∀ place, ∀ id ∈ (p.host.slots place).ids, id ∉ p.heldIds →
    (id, place) ∈ entries p t ∧ ∃ elsewhere, elsewhere ≠ place ∧ (id, elsewhere) ∈ givenUp p t
  releasable : ∀ s ∈ p.held, ∀ a, s.ReleasedBy a → ∃ e q, p.step a = some (e, q)
  /-- Every step that gives a handle up, by whatever owner, finds its scope in its own place only. -/
  released : ∀ a e q id, p.step a = some (e, q) → a.given? = some id →
    ∃ s ∈ p.held, ∃ place, s.handle.id = id ∧ p.place? a = some place ∧
      q.held = p.held.erase s ∧
        (e.answer.fault? = some .notOpenHere ↔ place ≠ s.place) ∧
          (place ≠ s.place → q.host = p.host)
  /-- Opening the scope of a request is entering its context. -/
  requests : ∀ (σ : Type) (c : Component σ) headers store site s,
    let opened := c.openRequest headers store site s p.host
    p.step (.enter store site opened.1.context) =
      some (⟨.enter store site opened.1.context, .entered opened.2.1, none⟩,
        { p with host := opened.2.2.2 }.hold opened.2.1 .code (store.place site))
  /-- In whatever order the scopes were closed, no slot has one left. -/
  restored : p.held = [] →
    (∀ id place elsewhere, (id, place) ∈ entries p t → (id, elsewhere) ∈ givenUp p t →
      elsewhere = place) → ∀ place, p.host.slots place = { current := base place }

theorem Ledger.apart (h : Ledger base t p) {id : Nat} {place place' : Place}
    (hid : id ∈ (p.host.slots place).ids) (hid' : id ∈ (p.host.slots place').ids) :
    place = place' := by
  have hentry := (h.opened place id).mp hid
  have hentry' := (h.opened place' id).mp hid'
  exact h.place_unique hentry.1 hentry'.1

theorem Ledger.exists_givenUp (h : Ledger base t p) {id : Nat} {place : Place}
    (hentry : (id, place) ∈ entries p t) (hheld : id ∉ p.heldIds) :
    ∃ elsewhere, (id, elsewhere) ∈ givenUp p t := by
  have hmade : id ∈ (entries p t).map (·.1) := List.mem_map_of_mem hentry
  have hmem : id ∈ p.heldIds ++ (givenUp p t).map (·.1) := h.balance.mem_iff.mp hmade
  have hgiven : id ∈ (givenUp p t).map (·.1) := (List.mem_append.mp hmem).resolve_left hheld
  obtain ⟨⟨_, elsewhere⟩, helsewhere, rfl⟩ := List.mem_map.mp hgiven
  exact ⟨elsewhere, helsewhere⟩

theorem Ledger.stray (h : Ledger base t p) {id : Nat} {place : Place}
    (hid : id ∈ (p.host.slots place).ids) (hheld : id ∉ p.heldIds) :
    (id, place) ∈ entries p t ∧ ∃ elsewhere, elsewhere ≠ place ∧ (id, elsewhere) ∈ givenUp p t := by
  have hopen := (h.opened place id).mp hid
  obtain ⟨elsewhere, hgiven⟩ := h.exists_givenUp hopen.1 hheld
  have hne : elsewhere ≠ place := by
    intro heq
    rw [heq] at hgiven
    exact hopen.2 hgiven
  exact ⟨hopen.1, elsewhere, hne, hgiven⟩

/-- The holder of a handle can release it in each of its ways, from anywhere. -/
theorem Ledger.releasable (h : Ledger base t p) {s : Held} (hs : s ∈ p.held)
    (ha : s.ReleasedBy a) : ∃ e q, p.step a = some (e, q) := by
  obtain ⟨handle, r, htake⟩ := take?_of_mem hs
  have hstarted : ∀ k, s.holder = .work k → ∃ w, p.works[k]? = some w := by
    intro k hk
    exact ⟨_, List.getElem?_eq_getElem (h.works s hs k hk)⟩
  cases ha with
  | tryRelease store site hholder =>
    rw [hholder] at htake
    exact ⟨_, _, by rw [step, htake]; rfl⟩
  | release store site hholder =>
    rw [hholder] at htake
    exact ⟨_, _, by rw [step, htake]; rfl⟩
  | dropGuard store site hholder =>
    rw [hholder] at htake
    exact ⟨_, _, by rw [step, htake]; rfl⟩
  | leave k site hholder =>
    obtain ⟨w, hw⟩ := hstarted k hholder
    rw [hholder] at htake
    exact ⟨_, _, step_leave hw htake site⟩
  | finishAndLeave k o site hholder =>
    obtain ⟨w, hw⟩ := hstarted k hholder
    rw [hholder] at htake
    exact ⟨_, _, by rw [step, hw, Option.bind_some, htake]; rfl⟩

theorem Ledger.tryRelease_eq_notOpenHere_iff (h : Ledger base t p) {s : Held} (hs : s ∈ p.held)
    (store : Store) (site : Site) :
    (p.host.tryRelease store site s.handle).1 = .error .notOpenHere ↔
      store.place site ≠ s.place := by
  have hclose := (p.host.slots (store.place site)).close_eq_notOpenHere_iff s.handle.id
  have hplace := h.mem_ids_iff hs (store.place site)
  exact hclose.trans (not_congr hplace)

theorem Ledger.tryRelease_elsewhere (h : Ledger base t p) {s : Held} (hs : s ∈ p.held)
    {store : Store} {site : Site} (hne : store.place site ≠ s.place) :
    (p.host.tryRelease store site s.handle).2 = p.host := by
  have hid : s.handle.id ∉ (p.host.slots (store.place site)).ids := by
    intro hid
    exact hne ((h.mem_ids_iff hs _).mp hid)
  rw [p.host.tryRelease_of_not_mem store site hid]

theorem Ledger.released (h : Ledger base t p) {id : Nat} (hstep : p.step a = some (e, q))
    (hgiven : a.given? = some id) :
    ∃ s ∈ p.held, ∃ place, s.handle.id = id ∧ p.place? a = some place ∧
      q.held = p.held.erase s ∧ (e.answer.fault? = some .notOpenHere ↔ place ≠ s.place) ∧
        (place ≠ s.place → q.host = p.host) := by
  have haction : e.action = a := action_of_step hstep
  cases step_conduct hstep with
  | rests hmade hnone hhost hheld =>
    rw [haction, hgiven] at hnone
    cases hnone
  | enters store site c holder hmade hnone hplace hhost hheld hworks =>
    rw [haction, hgiven] at hnone
    cases hnone
  | releases s store site hs hmade hsome hplace hhost hheld hfault =>
    rw [haction] at hsome hplace
    have hid : s.handle.id = id := Option.some.inj (hsome.symm.trans hgiven)
    have hreported := (hfault .notOpenHere).trans (h.tryRelease_eq_notOpenHere_iff hs store site)
    refine ⟨s, hs, store.place site, hid, hplace, hheld, hreported, ?_⟩
    intro hne
    rw [hhost, h.tryRelease_elsewhere hs hne]

theorem Ledger.restored (h : Ledger base t p) (hheld : p.held = [])
    (hown : ∀ id place elsewhere, (id, place) ∈ entries p t → (id, elsewhere) ∈ givenUp p t →
      elsewhere = place) (place : Place) : p.host.slots place = { current := base place } := by
  have hnone : p.heldIds = [] := by rw [heldIds, hheld, List.map_nil]
  have hids : (p.host.slots place).ids = [] := by
    apply List.eq_nil_iff_forall_not_mem.mpr
    intro id hid
    have hfree : id ∉ p.heldIds := by
      rw [hnone]
      exact List.not_mem_nil
    obtain ⟨hentry, elsewhere, hne, hgiven⟩ := h.stray hid hfree
    exact hne (hown id place elsewhere hentry hgiven)
  rw [← h.base place]
  exact Slot.eq_of_ids_nil hids

theorem scopes_conserved (hrun : Run { host := .resting base issued } t p) :
    Conserved base t p := by
  have h := hrun.ledger
  constructor
  · exact h.nodup
  · intro id place place' hid hid'
    exact h.apart hid hid'
  · exact ⟨h.distinct, h.balance⟩
  · intro s hs
    exact ⟨h.held s hs, h.mem_ids_iff hs⟩
  · intro place id hid hheld
    exact h.stray hid hheld
  · intro s hs a ha
    exact h.releasable hs ha
  · intro a e q id hstep hgiven
    exact h.released hstep hgiven
  · intro σ c headers store site s
    rfl
  · exact h.restored

/-- Two scopes are closed out of order on their thread; that of a task is left by its guard, which
is dropped outside the task. -/
theorem scopes_conserved_of_stray :
    ∃ t p, Run { host := .resting (fun _ => none) 0 } t p ∧ p.held = [] ∧
      p.host.slots (.thread "main") = {} ∧ (p.host.slots (.task "job")).ids = [3] ∧
        givenUp p t = [(1, .thread "main"), (2, .thread "main"), (3, .thread "main")] ∧
          Conserved (fun _ => none) t p := by
  let c : SpanContext := { trace := .ofNat 16 1, span := .ofNat 8 1 }
  have hentered : Run { host := .resting (fun _ => none) 0 } _ _ := .snoc .refl
    (rfl : step _ (.enter .thread ⟨"main", []⟩ c) = _)
  have hstarted := hentered.snoc (rfl : step _ (.start .task ⟨"main", []⟩ c) = _)
  have hguarded := hstarted.snoc (rfl : step _ (.guard .task ⟨"worker", ["job"]⟩ c) = _)
  have hstopped := hguarded.snoc (rfl : step _ (.release 1 .task ⟨"main", []⟩) = _)
  have hleft := hstopped.snoc (rfl : step _ (.leave 0 2 ⟨"main", []⟩) = _)
  have hstray := hleft.snoc (rfl : step _ (.dropGuard 3 .task ⟨"main", []⟩) = _)
  exact ⟨_, _, hstray, rfl, rfl, rfl, rfl, scopes_conserved hstray⟩

end TraceIdentity.Program
