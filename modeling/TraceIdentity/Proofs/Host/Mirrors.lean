import TraceIdentity.Proofs.Host.Renaming
import TraceIdentity.Proofs.Host.Uses
/-!
# One place of many

A session that runs the uses of all places is compared with one that runs those of
a single place. The two number their scopes differently, so the slots of the place
agree only up to a renaming of ids, which grows with every scope entered there.
-/
namespace TraceIdentity

namespace Use

/-- The places where the handles of the names were entered, after a use. -/
def owners (owner : Nat → Option Place) (u : Use) : Nat → Option Place :=
  match u.op with
  | .enter name _ => Function.update owner name (some u.place)
  | _ => owner

/-- The same use, where a handle that another place entered is one that nobody entered. -/
def settled (owner : Nat → Option Place) (u : Use) : Use :=
  match u.op with
  | .release name => if owner name = some u.place then u else { u with op := .releaseUnknown }
  | _ => u

@[simp] theorem place_settled (owner : Nat → Option Place) (u : Use) :
    (u.settled owner).place = u.place := by
  obtain ⟨store, site, op⟩ := u
  cases op with
  | release name =>
    simp only [settled]
    split <;> rfl
  | _ => rfl

section

variable {owner : Nat → Option Place} {store : Store} {site : Site} {name : Nat}

theorem settled_of_own (h : owner name = some (store.place site)) :
    settled owner ⟨store, site, .release name⟩ = ⟨store, site, .release name⟩ :=
  if_pos h

theorem settled_of_other (h : owner name ≠ some (store.place site)) :
    settled owner ⟨store, site, .release name⟩ = ⟨store, site, .releaseUnknown⟩ :=
  if_neg h

end

/-- The uses of one place alone. -/
def alone (place : Place) (owner : Nat → Option Place) : List Use → List Use
  | [] => []
  | u :: us =>
    if u.place = place then u.settled owner :: alone place (u.owners owner) us
    else alone place (u.owners owner) us

end Use

/-- A session that runs everything, seen from one place, and one that runs this place alone: the
ids in `mine` were issued here, and `ρ` gives their counterparts. -/
structure Session.Mirrors (place : Place) (owner : Nat → Option Place) (mine : List Nat)
    (ρ : Nat → Nat) (m m' : Session) : Prop where
  slot : m'.host.slots place = (m.host.slots place).rename ρ
  opened : ∀ id ∈ (m.host.slots place).ids, id ∈ mine
  own : ∀ name, owner name = some place →
    (m.handles name).id ∈ mine ∧ (m'.handles name).id = ρ (m.handles name).id
  others : ∀ name, owner name ≠ some place → (m.handles name).id ∉ mine
  known : ∀ name, (m.handles name).id < m.host.nextScope
  renames : Renames ρ mine m.host.nextScope m'.host.nextScope
  next : 0 < m'.host.nextScope

namespace Session

variable {place : Place} {owner : Nat → Option Place} {mine : List Nat} {ρ : Nat → Nat}
  {m m' : Session} {store : Store} {site : Site} {name : Nat} {c : SpanContext} {u : Use}

theorem mirrors_resting (base : Place → Option SpanContext) (issued : Nat) (place : Place) :
    Mirrors place (fun _ => none) [] id (resting base issued) (resting base issued) := by
  have hnone : ∀ next next', Renames id [] next next' := by
    intro next next'
    constructor <;> simp
  constructor
  · rfl
  · simp [resting, Host.resting, Slot.ids]
  · simp
  · simp
  · simp [resting, Host.resting, Handle.unknown]
  · exact hnone _ _
  · exact Nat.succ_pos issued

theorem Mirrors.known_enter (h : Mirrors place owner mine ρ m m') (name' : Nat) :
    ((m.enter store site name c).2.handles name').id <
      (m.enter store site name c).2.host.nextScope := by
  by_cases hname : name' = name
  · rw [hname, id_enter_self, nextScope_enter]
    omega
  · have hknown := h.known name'
    rw [m.handles_enter_of_ne hname, nextScope_enter]
    omega

section Elsewhere

theorem Mirrors.release_elsewhere (h : Mirrors place owner mine ρ m m') (handle : Handle)
    (hplace : store.place site ≠ place) :
    Mirrors place owner mine ρ (m.tryRelease store site handle).2 m' := by
  have hslot := m.slots_tryRelease store site handle place
  rw [if_neg (Ne.symm hplace)] at hslot
  constructor
  · rw [hslot]
    exact h.slot
  · rw [hslot]
    exact h.opened
  · exact h.own
  · exact h.others
  · exact h.known
  · exact h.renames
  · exact h.next

/-- A scope entered elsewhere takes an id, and its handle a name, but neither is used here. -/
theorem Mirrors.enter_elsewhere (h : Mirrors place owner mine ρ m m')
    (hplace : store.place site ≠ place) :
    Mirrors place (Function.update owner name (some (store.place site))) mine ρ
      (m.enter store site name c).2 m' := by
  have hslot := m.slots_enter store site name c place
  rw [if_neg (Ne.symm hplace)] at hslot
  constructor
  · rw [hslot]
    exact h.slot
  · rw [hslot]
    exact h.opened
  · intro name' hown
    by_cases hname : name' = name
    · rw [hname, Function.update_self] at hown
      exact absurd (Option.some.inj hown) hplace
    · rw [Function.update_of_ne hname] at hown
      rw [m.handles_enter_of_ne hname]
      exact h.own name' hown
  · intro name' hother
    by_cases hname : name' = name
    · rw [hname, id_enter_self]
      exact h.renames.fresh
    · rw [Function.update_of_ne hname] at hother
      rw [m.handles_enter_of_ne hname]
      exact h.others name' hother
  · exact h.known_enter
  · exact h.renames.skip
  · exact h.next

theorem Mirrors.act_elsewhere (h : Mirrors place owner mine ρ m m') (hplace : u.place ≠ place) :
    Mirrors place (u.owners owner) mine ρ (m.act u).2 m' := by
  obtain ⟨store, site, op⟩ := u
  cases op with
  | enter name c => exact h.enter_elsewhere hplace
  | current => exact h
  | release name => exact h.release_elsewhere (m.handles name) hplace
  | releaseUnknown => exact h.release_elsewhere .unknown hplace

end Elsewhere

section Here

/-- A handle of this place is released as its counterpart, every other one as an unknown one. -/
theorem Mirrors.close (h : Mirrors place owner mine ρ m m') {id id' : Nat}
    (hid : id ∈ mine ∧ id' = ρ id ∨ id ∉ mine ∧ id' = 0) :
    (m'.host.slots place).close id' =
      (((m.host.slots place).close id).1, ((m.host.slots place).close id).2.rename ρ) := by
  rw [h.slot]
  rcases hid with ⟨hmine, rfl⟩ | ⟨hmine, rfl⟩
  · apply Slot.close_rename
    intro id' hid' heq
    exact h.renames.inj id hmine id' (h.opened id' hid') heq
  · have hopen : id ∉ (m.host.slots place).ids := by
      intro hid
      exact hmine (h.opened id hid)
    have hzero : 0 ∉ ((m.host.slots place).rename ρ).ids := by
      rw [Slot.ids_rename]
      intro hmem
      obtain ⟨id', hid', heq⟩ := List.mem_map.mp hmem
      have htarget := (h.renames.target id' (h.opened id' hid')).1
      omega
    rw [Slot.close_of_not_mem_ids hopen, Slot.close_of_not_mem_ids hzero]

theorem Mirrors.release_here (h : Mirrors place owner mine ρ m m') (handle handle' : Handle)
    (hid : handle.id ∈ mine ∧ handle'.id = ρ handle.id ∨ handle.id ∉ mine ∧ handle'.id = 0)
    (hplace : store.place site = place) :
    (m'.tryRelease store site handle').1 = (m.tryRelease store site handle).1 ∧
      Mirrors place owner mine ρ (m.tryRelease store site handle).2
        (m'.tryRelease store site handle').2 := by
  have hclose := h.close hid
  have hslot := m.slots_tryRelease store site handle place
  have hslot' := m'.slots_tryRelease store site handle' place
  rw [if_pos hplace.symm] at hslot hslot'
  constructor
  · simp only [tryRelease, Host.tryRelease, Host.slot, hplace, hclose]
  · constructor
    · rw [hslot', hslot, hclose]
    · rw [hslot, Slot.ids_close]
      intro id hopen
      exact h.opened id (List.mem_of_mem_erase hopen)
    · exact h.own
    · exact h.others
    · exact h.known
    · exact h.renames
    · exact h.next

theorem Mirrors.enter_here (h : Mirrors place owner mine ρ m m')
    (hplace : store.place site = place) {ρ' : Nat → Nat}
    (hold : ∀ id ∈ mine, ρ' id = ρ id) (hnew : ρ' m.host.nextScope = m'.host.nextScope)
    (hrenames : Renames ρ' (m.host.nextScope :: mine) (m.host.nextScope + 1)
      (m'.host.nextScope + 1)) :
    Mirrors place (Function.update owner name (some (store.place site)))
      (m.host.nextScope :: mine) ρ'
      (m.enter store site name c).2 (m'.enter store site name c).2 := by
  have hslot := m.slots_enter store site name c place
  have hslot' := m'.slots_enter store site name c place
  rw [if_pos hplace.symm] at hslot hslot'
  constructor
  · have hrename : (m.host.slots place).rename ρ' = (m.host.slots place).rename ρ := by
      apply Slot.rename_congr
      intro id hid
      exact hold id (h.opened id hid)
    rw [hslot', hslot, Slot.rename_enter, hrename, hnew, h.slot]
  · rw [hslot, Slot.ids_enter]
    intro id hid
    rcases List.mem_cons.mp hid with rfl | hid
    · exact List.mem_cons_self
    · exact List.mem_cons_of_mem _ (h.opened id hid)
  · intro name' hown
    by_cases hname : name' = name
    · rw [hname, id_enter_self, id_enter_self]
      exact ⟨List.mem_cons_self, hnew.symm⟩
    · rw [Function.update_of_ne hname] at hown
      have hpair := h.own name' hown
      rw [m.handles_enter_of_ne hname, m'.handles_enter_of_ne hname, hold _ hpair.1]
      exact ⟨List.mem_cons_of_mem _ hpair.1, hpair.2⟩
  · intro name' hother
    by_cases hname : name' = name
    · rw [hname, Function.update_self] at hother
      exact absurd (congrArg some hplace) hother
    · rw [Function.update_of_ne hname] at hother
      have hknown := h.known name'
      rw [m.handles_enter_of_ne hname]
      intro hmem
      rcases List.mem_cons.mp hmem with heq | hmem
      · omega
      · exact h.others name' hother hmem
  · exact h.known_enter
  · exact hrenames
  · exact Nat.succ_pos _

/-- A use of this place replies the same in both sessions, and they agree again. -/
theorem Mirrors.act_here (h : Mirrors place owner mine ρ m m') (hplace : u.place = place) :
    (m'.act (u.settled owner)).1 = (m.act u).1 ∧
      ∃ mine' ρ', Mirrors place (u.owners owner) mine' ρ' (m.act u).2
        (m'.act (u.settled owner)).2 := by
  obtain ⟨store, site, op⟩ := u
  have hsame : store.place site = place := hplace
  cases op with
  | enter name c =>
    have hknown := h.known name
    obtain ⟨ρ', hold, hnew, hrenames⟩ := h.renames.exists_cons (by omega) h.next
    refine ⟨?_, _, ρ', h.enter_here hplace hold hnew hrenames⟩
    have hcurrent := congrArg Slot.current h.slot
    simp only [Use.settled, act, enter, Host.enter, Host.slot, hsame, hcurrent,
      Slot.current_rename]
  | current =>
    refine ⟨?_, mine, ρ, h⟩
    have hcurrent := congrArg Slot.current h.slot
    simp only [Use.settled, act, Host.current, Host.slot, hsame, hcurrent, Slot.current_rename]
  | release name =>
    by_cases hown : owner name = some (store.place site)
    · have hpair := h.own name (hown.trans (congrArg some hsame))
      have hrelease := h.release_here _ _ (.inl hpair) hplace
      rw [Use.settled_of_own hown]
      exact ⟨hrelease.1, mine, ρ, hrelease.2⟩
    · have hother := h.others name (hsame ▸ hown)
      have hrelease := h.release_here _ .unknown (.inr ⟨hother, rfl⟩) hplace
      rw [Use.settled_of_other hown]
      exact ⟨hrelease.1, mine, ρ, hrelease.2⟩
  | releaseUnknown =>
    have hunknown : Handle.unknown.id ∉ mine := by
      intro hid
      have hsource := (h.renames.source _ hid).1
      exact Nat.lt_irrefl _ hsource
    have hrelease := h.release_here _ .unknown (.inr ⟨hunknown, rfl⟩) hplace
    exact ⟨hrelease.1, mine, ρ, hrelease.2⟩

end Here

end Session

end TraceIdentity
