import TraceIdentity.Component.Hosting
import TraceIdentity.Proofs.Program.Handles
/-!
# The ledger of scopes

Every handle that a program makes is entered in a ledger with the place of its
scope, and struck off when it is given up. What is open on a slot is what was
entered there and was not given up there: nothing is lost, and a scope is left
open without a handle only by a release that was tried in another place.
-/
namespace TraceIdentity.Program

variable {p q : Program} {e : Event} {t : List Event} {a : Action}
  {base : Place → Option SpanContext} {issued : Nat}

/-- The handles made so far, by id, each with the place where it was entered. -/
def entries (p : Program) (t : List Event) : List (Nat × Place) :=
  t.filterMap fun e => e.answer.made?.bind fun handle =>
    (p.place? e.action).map fun place => (handle.id, place)

/-- The handles given up so far, by id, each with the place where its release was tried. -/
def givenUp (p : Program) (t : List Event) : List (Nat × Place) :=
  t.filterMap fun e => e.action.given?.bind fun id =>
    (p.place? e.action).map fun place => (id, place)

/-- The ids of the handles that are held. -/
def heldIds (p : Program) : List Nat :=
  p.held.map (·.handle.id)

/-- The ledger of a run that started on a host at rest. -/
structure Ledger (base : Place → Option SpanContext) (t : List Event) (p : Program) : Prop where
  base : ∀ place, (p.host.slots place).base = base place
  issued : ∀ entry ∈ entries p t, entry.1 < p.host.nextScope
  distinct : ((entries p t).map (·.1)).Nodup
  balance : ((entries p t).map (·.1)).Perm (p.heldIds ++ (givenUp p t).map (·.1))
  held : ∀ s ∈ p.held, (s.handle.id, s.place) ∈ entries p t
  nodup : ∀ place, (p.host.slots place).ids.Nodup
  opened : ∀ place id, id ∈ (p.host.slots place).ids ↔
    (id, place) ∈ entries p t ∧ (id, place) ∉ givenUp p t
  works : ∀ s ∈ p.held, ∀ k, s.holder = .work k → k < p.works.length
  placed : ∀ e ∈ t, e.answer.made? ≠ none ∨ e.action.given? ≠ none → p.place? e.action ≠ none

section Append

theorem entries_append (p : Program) (t t' : List Event) :
    entries p (t ++ t') = entries p t ++ entries p t' := List.filterMap_append

theorem givenUp_append (p : Program) (t t' : List Event) :
    givenUp p (t ++ t') = givenUp p t ++ givenUp p t' := List.filterMap_append

theorem entries_of_none (h : e.answer.made? = none) : entries q [e] = [] := by
  simp [entries, h]

theorem entries_of_some {handle : Handle} {place : Place} (h : e.answer.made? = some handle)
    (hplace : q.place? e.action = some place) : entries q [e] = [(handle.id, place)] := by
  simp [entries, h, hplace]

theorem givenUp_of_none (h : e.action.given? = none) : givenUp q [e] = [] := by
  simp [givenUp, h]

theorem givenUp_of_some {id : Nat} {place : Place} (h : e.action.given? = some id)
    (hplace : q.place? e.action = some place) : givenUp q [e] = [(id, place)] := by
  simp [givenUp, h, hplace]

theorem Ledger.place?_eq (h : Ledger base t p) (hstep : p.step a = some (e, q)) {e' : Event}
    (he' : e' ∈ t) (hacts : e'.answer.made? ≠ none ∨ e'.action.given? ≠ none) :
    q.place? e'.action = p.place? e'.action := by
  have hplaced := h.placed e' he' hacts
  obtain ⟨place, hplace⟩ := Option.ne_none_iff_exists'.mp hplaced
  rw [hplace]
  exact place?_of_step hstep hplace

theorem Ledger.entries_step (h : Ledger base t p) (hstep : p.step a = some (e, q)) :
    entries q (t ++ [e]) = entries p t ++ entries q [e] := by
  rw [entries_append]
  congr 1
  apply List.filterMap_congr
  intro e' he'
  cases hmade : e'.answer.made? with
  | none => rfl
  | some handle =>
    have hplace := h.place?_eq hstep he' (.inl (by simp [hmade]))
    simp [hplace]

theorem Ledger.givenUp_step (h : Ledger base t p) (hstep : p.step a = some (e, q)) :
    givenUp q (t ++ [e]) = givenUp p t ++ givenUp q [e] := by
  rw [givenUp_append]
  congr 1
  apply List.filterMap_congr
  intro e' he'
  cases hgiven : e'.action.given? with
  | none => rfl
  | some id =>
    have hplace := h.place?_eq hstep he' (.inr (by simp [hgiven]))
    simp [hplace]

theorem Ledger.placed_step (h : Ledger base t p) (hstep : p.step a = some (e, q))
    (hnew : e.answer.made? ≠ none ∨ e.action.given? ≠ none → p.place? e.action ≠ none) :
    ∀ e' ∈ t ++ [e], e'.answer.made? ≠ none ∨ e'.action.given? ≠ none →
      q.place? e'.action ≠ none := by
  intro e' he' hacts
  rcases List.mem_append.mp he' with he' | he'
  · rw [h.place?_eq hstep he' hacts]
    exact h.placed e' he' hacts
  · obtain rfl := List.mem_singleton.mp he'
    obtain ⟨place, hplace⟩ := Option.ne_none_iff_exists'.mp (hnew hacts)
    simp [place?_of_step hstep hplace]

theorem Ledger.works_step (h : Ledger base t p) (hstep : p.step a = some (e, q)) {s : Held}
    (hs : s ∈ p.held) {k : Nat} (hk : s.holder = .work k) : k < q.works.length := by
  have hworks := h.works s hs k hk
  have hlength := length_works_step hstep
  omega

end Append

section Facts

theorem Ledger.not_givenUp (h : Ledger base t p) {s : Held} (hs : s ∈ p.held) (place : Place) :
    (s.handle.id, place) ∉ givenUp p t := by
  intro hgiven
  have hall := h.balance.nodup_iff.mp h.distinct
  have happart := (List.nodup_append.mp hall).2.2
  exact happart _ (List.mem_map_of_mem hs) _ (List.mem_map_of_mem hgiven) rfl

theorem Ledger.place_unique (h : Ledger base t p) {id : Nat} {place place' : Place}
    (he : (id, place) ∈ entries p t) (he' : (id, place') ∈ entries p t) : place = place' := by
  have heq := List.inj_on_of_nodup_map h.distinct he he' rfl
  exact congrArg Prod.snd heq

theorem Ledger.mem_ids_iff (h : Ledger base t p) {s : Held} (hs : s ∈ p.held) (place : Place) :
    s.handle.id ∈ (p.host.slots place).ids ↔ place = s.place := by
  rw [h.opened]
  constructor
  · intro hopen
    exact h.place_unique hopen.1 (h.held s hs)
  · rintro rfl
    exact ⟨h.held s hs, h.not_givenUp hs s.place⟩

/-- An id that was not issued yet is neither in the ledger nor open. -/
theorem Ledger.fresh (h : Ledger base t p) (place : Place) :
    (p.host.nextScope, place) ∉ entries p t ∧ (p.host.nextScope, place) ∉ givenUp p t := by
  constructor
  · intro he
    exact Nat.lt_irrefl _ (h.issued _ he)
  · intro hr
    have hmem := List.mem_append_right p.heldIds (List.mem_map_of_mem (f := Prod.fst) hr)
    have hentry := h.balance.mem_iff.mpr hmem
    obtain ⟨entry, hentry, hid⟩ := List.mem_map.mp hentry
    have hlt := h.issued entry hentry
    rw [hid] at hlt
    exact Nat.lt_irrefl _ hlt

end Facts

section Preservation

theorem ledger_resting (base : Place → Option SpanContext) (issued : Nat) :
    Ledger base [] { host := .resting base issued } := by
  constructor <;> simp [entries, givenUp, heldIds, Host.resting, Slot.ids, Slot.base]

theorem Ledger.rest_step (h : Ledger base t p) (hstep : p.step a = some (e, q))
    (hmade : e.answer.made? = none) (hgiven : e.action.given? = none) (hhost : q.host = p.host)
    (hheld : q.held = p.held) : Ledger base (t ++ [e]) q := by
  have hentries : entries q (t ++ [e]) = entries p t := by
    rw [h.entries_step hstep, entries_of_none hmade, List.append_nil]
  have hgivenUp : givenUp q (t ++ [e]) = givenUp p t := by
    rw [h.givenUp_step hstep, givenUp_of_none hgiven, List.append_nil]
  have hids : q.heldIds = p.heldIds := by rw [heldIds, heldIds, hheld]
  constructor
  · rw [hhost]
    exact h.base
  · rw [hentries, hhost]
    exact h.issued
  · rw [hentries]
    exact h.distinct
  · rw [hentries, hgivenUp, hids]
    exact h.balance
  · rw [hentries, hheld]
    exact h.held
  · rw [hhost]
    exact h.nodup
  · rw [hentries, hgivenUp, hhost]
    exact h.opened
  · intro s hs k hk
    rw [hheld] at hs
    exact h.works_step hstep hs hk
  · apply h.placed_step hstep
    intro hacts
    simp [hmade, hgiven] at hacts

theorem Ledger.enter_step (h : Ledger base t p) (hstep : p.step a = some (e, q)) {store : Store}
    {site : Site} {c : SpanContext} {holder : Holder}
    (hmade : e.answer.made? = some (p.host.enter store site c).1)
    (hgiven : e.action.given? = none) (hplace : p.place? e.action = some (store.place site))
    (hhost : q.host = (p.host.enter store site c).2)
    (hheld : q.held = ⟨(p.host.enter store site c).1, holder, store.place site⟩ :: p.held)
    (hworks : ∀ k, holder = .work k → k < q.works.length) : Ledger base (t ++ [e]) q := by
  have hentries : entries q (t ++ [e]) =
      entries p t ++ [(p.host.nextScope, store.place site)] := by
    rw [h.entries_step hstep, entries_of_some hmade (place?_of_step hstep hplace)]
    rfl
  have hgivenUp : givenUp q (t ++ [e]) = givenUp p t := by
    rw [h.givenUp_step hstep, givenUp_of_none hgiven, List.append_nil]
  have hids : q.heldIds = p.host.nextScope :: p.heldIds := by
    rw [heldIds, hheld]
    rfl
  have hnext : q.host.nextScope = p.host.nextScope + 1 := by rw [hhost]; rfl
  have hslots := fun place => congrArg (Host.slots · place) hhost
  simp only [Host.slots_enter] at hslots
  constructor
  · intro place
    rw [hslots, ← h.base]
    split
    · exact Slot.base_enter _ _ _
    · rfl
  · intro entry hentry
    rw [hentries] at hentry
    rcases List.mem_append.mp hentry with hentry | hentry
    · have hlt := h.issued entry hentry
      omega
    · rw [List.mem_singleton.mp hentry]
      omega
  · rw [hentries, List.map_append, List.map_singleton]
    have hnew : p.host.nextScope ∉ (entries p t).map (·.1) := by
      intro hm
      obtain ⟨⟨id, place⟩, hentry, rfl⟩ := List.mem_map.mp hm
      exact (h.fresh place).1 hentry
    have hcons := List.nodup_cons.mpr ⟨hnew, h.distinct⟩
    exact (List.perm_append_singleton _ _).nodup_iff.mpr hcons
  · rw [hentries, hgivenUp, hids, List.map_append, List.map_singleton]
    exact (List.perm_append_singleton _ _).trans (h.balance.cons _)
  · intro s hs
    rw [hheld] at hs
    rw [hentries]
    rcases List.mem_cons.mp hs with rfl | hs
    · exact List.mem_append_right _ (List.mem_singleton_self _)
    · exact List.mem_append_left _ (h.held s hs)
  · intro place
    rw [hslots]
    split
    · have hnew : p.host.nextScope ∉ (p.host.slots place).ids := by
        rw [h.opened]
        exact fun hopen => (h.fresh place).1 hopen.1
      rw [Slot.ids_enter]
      exact List.nodup_cons.mpr ⟨hnew, h.nodup place⟩
    · exact h.nodup place
  · intro place id
    have hnew := (h.fresh (store.place site)).2
    have hold := h.opened place id
    rw [hentries, hgivenUp, hslots, List.mem_append, List.mem_singleton, Prod.mk.injEq]
    split
    · next hp =>
      rw [Slot.ids_enter, List.mem_cons, hold]
      by_cases hid : id = p.host.nextScope
      · rw [hid]
        simp [hnew, hp]
      · simp [hid]
    · next hp => simp [hold, hp]
  · intro s hs k hk
    rw [hheld] at hs
    rcases List.mem_cons.mp hs with rfl | hs
    · exact hworks k hk
    · exact h.works_step hstep hs hk
  · apply h.placed_step hstep
    intro _
    simp [hplace]

theorem Ledger.release_step (h : Ledger base t p) (hstep : p.step a = some (e, q)) {s : Held}
    {store : Store} {site : Site} (hs : s ∈ p.held) (hmade : e.answer.made? = none)
    (hgiven : e.action.given? = some s.handle.id)
    (hplace : p.place? e.action = some (store.place site))
    (hhost : q.host = (p.host.tryRelease store site s.handle).2)
    (hheld : q.held = p.held.erase s) : Ledger base (t ++ [e]) q := by
  have hentries : entries q (t ++ [e]) = entries p t := by
    rw [h.entries_step hstep, entries_of_none hmade, List.append_nil]
  have hgivenUp : givenUp q (t ++ [e]) =
      givenUp p t ++ [(s.handle.id, store.place site)] := by
    rw [h.givenUp_step hstep, givenUp_of_some hgiven (place?_of_step hstep hplace)]
  have hids : p.heldIds.Perm (s.handle.id :: q.heldIds) := by
    rw [heldIds, heldIds, hheld]
    exact (List.perm_cons_erase hs).map (·.handle.id)
  have hsub : ∀ s' ∈ q.held, s' ∈ p.held := by
    intro s' hs'
    rw [hheld] at hs'
    exact List.mem_of_mem_erase hs'
  have hnext : q.host.nextScope = p.host.nextScope := by rw [hhost]; rfl
  have hslots := fun place => congrArg (Host.slots · place) hhost
  simp only [Host.slots_tryRelease] at hslots
  constructor
  · intro place
    rw [hslots, ← h.base]
    split
    · exact Slot.base_close _ _
    · rfl
  · rw [hentries, hnext]
    exact h.issued
  · rw [hentries]
    exact h.distinct
  · rw [hentries, hgivenUp, List.map_append, List.map_singleton]
    have hold := h.balance.trans (hids.append_right _)
    have hmove : (s.handle.id :: (q.heldIds ++ (givenUp p t).map (·.1))).Perm
        ((q.heldIds ++ (givenUp p t).map (·.1)) ++ [s.handle.id]) :=
      (List.perm_append_singleton _ _).symm
    rw [← List.append_assoc]
    exact hold.trans hmove
  · intro s' hs'
    rw [hentries]
    exact h.held s' (hsub s' hs')
  · intro place
    rw [hslots]
    split
    · rw [Slot.ids_close]
      exact (h.nodup place).erase _
    · exact h.nodup place
  · intro place id
    have hold := h.opened place id
    rw [hentries, hgivenUp, hslots, List.mem_append, List.mem_singleton, Prod.mk.injEq]
    split
    · next hp =>
      rw [Slot.ids_close, (h.nodup place).mem_erase_iff, hold]
      by_cases hid : id = s.handle.id
      · simp [hid, hp]
      · simp [hid]
    · next hp => simp [hold, hp]
  · intro s' hs' k hk
    exact h.works_step hstep (hsub s' hs') hk
  · apply h.placed_step hstep
    intro _
    simp [hplace]

theorem Run.ledger (hrun : Run { host := .resting base issued } t p) : Ledger base t p := by
  induction hrun with
  | refl => exact ledger_resting base issued
  | snoc hrun hstep ih =>
    cases step_conduct hstep with
    | rests hmade hgiven hhost hheld => exact ih.rest_step hstep hmade hgiven hhost hheld
    | enters store site c holder hmade hgiven hplace hhost hheld hworks =>
      exact ih.enter_step hstep hmade hgiven hplace hhost hheld hworks
    | releases s store site hs hmade hgiven hplace hhost hheld hfault =>
      exact ih.release_step hstep hs hmade hgiven hplace hhost hheld

end Preservation

end TraceIdentity.Program
