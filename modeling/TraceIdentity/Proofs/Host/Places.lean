import Mathlib.Data.List.Nodup
import TraceIdentity.Host
import TraceIdentity.Proofs.Host.View
/-!
# Scopes by place

A scope is known by its id. Closing takes one id off a slot, and reports that the
scope is not open here exactly when the slot does not have the id; a host then
stays as it was.
-/
namespace TraceIdentity

namespace Slot

/-- The ids of the open scopes, newest first. -/
def ids (s : Slot) : List Nat :=
  s.scopes.map (·.id)

theorem ids_eq (s : Slot) : s.ids = s.opened.map (·.1) :=
  (map_fst_contents s.current s.scopes).symm

@[simp] theorem ids_enter (s : Slot) (id : Nat) (c : SpanContext) :
    (s.enter id c).ids = id :: s.ids := rfl

private theorem map_fst_eraseP {α : Type} (id : Nat) (es : List (Nat × α)) :
    (es.eraseP (·.1 = id)).map (·.1) = (es.map (·.1)).erase id := by
  induction es with
  | nil => rfl
  | cons e es ih =>
    by_cases hid : e.1 = id
    · simp [hid]
    · have hbeq : (e.1 == id) = false := by simpa using hid
      rw [List.eraseP_cons_of_neg (by simpa using hid), List.map_cons, List.map_cons,
        List.erase_cons, hbeq, ih]
      rfl

@[simp] theorem ids_close (s : Slot) (id : Nat) : (s.close id).2.ids = s.ids.erase id := by
  rw [ids_eq, ids_eq, opened_close, map_fst_eraseP]

private theorem verdict_eq_notOpenHere_iff {id : Nat} {ids : List Nat} :
    verdict id ids = .error .notOpenHere ↔ id ∉ ids := by
  constructor
  · intro h hid
    obtain ⟨newer, older, hids, hnewer⟩ := List.eq_append_cons_of_mem hid
    by_cases hne : newer = []
    · have hok : verdict id ids = .ok () := by
        rw [verdict_eq_ok_iff, hids, hne]
        rfl
      rw [hok] at h
      cases h
    · rw [hids, verdict_append hne hnewer] at h
      cases h
  · exact verdict_of_not_mem

theorem close_eq_notOpenHere_iff (s : Slot) (id : Nat) :
    (s.close id).1 = .error .notOpenHere ↔ id ∉ s.ids := by
  rw [close_fst, ids_eq]
  exact verdict_eq_notOpenHere_iff

theorem close_of_not_mem_ids {s : Slot} {id : Nat} (h : id ∉ s.ids) :
    s.close id = (.error .notOpenHere, s) := by
  rw [ids_eq] at h
  exact close_of_not_mem h

theorem close_enter (s : Slot) (id : Nat) (c : SpanContext) :
    (s.enter id c).close id = (.ok (), s) :=
  if_pos rfl

theorem eq_of_ids_nil {s : Slot} (h : s.ids = []) : s = { current := s.base } := by
  refine ext_opened ?_ rfl
  rw [ids_eq, List.map_eq_nil_iff] at h
  exact h

end Slot

namespace Store

/-- Outside every task the two stores are one. -/
theorem place_of_no_tasks {site : Site} (h : site.tasks = []) (store : Store) :
    store.place site = .thread site.thread := by
  cases store with
  | thread => rfl
  | task => simp [place, h]

/-- The slot of a task is found inside the task only, on whichever thread. -/
theorem place_eq_task_iff {store : Store} {site : Site} {name : String} :
    store.place site = .task name ↔ store = .task ∧ site.tasks.getLast? = some name := by
  cases store with
  | thread => simp [place]
  | task =>
    cases hlast : site.tasks.getLast? with
    | none => simp [place, hlast]
    | some name' => simp [place, hlast]

end Store

namespace Host

/-- A host on which no scope is open, after so many were entered; every slot has its base value. -/
def resting (base : Place → Option SpanContext) (issued : Nat) : Host :=
  { slots := fun place => { current := base place }, nextScope := issued + 1 }

@[simp] theorem setSlot_self (h : Host) (place : Place) : h.setSlot place (h.slots place) = h := by
  obtain ⟨slots, nextScope⟩ := h
  have hslots : (fun p => if p = place then slots place else slots p) = slots := by
    funext p
    split
    · next hp => rw [hp]
    · rfl
  exact congrArg (Host.mk · nextScope) hslots

variable (h : Host) (store : Store) (site : Site)

theorem slots_enter (c : SpanContext) (place : Place) :
    (h.enter store site c).2.slots place =
      if place = store.place site then (h.slots place).enter h.nextScope c else h.slots place := by
  by_cases hp : place = store.place site
  · subst hp
    simp [enter, slot]
  · simp [enter, hp]

theorem slots_tryRelease (handle : Handle) (place : Place) :
    (h.tryRelease store site handle).2.slots place =
      if place = store.place site then ((h.slots place).close handle.id).2 else h.slots place := by
  by_cases hp : place = store.place site
  · subst hp
    simp [tryRelease, slot]
  · simp [tryRelease, hp]

/-- A scope that is released where it was entered leaves every slot as it was. -/
theorem tryRelease_enter (c : SpanContext) :
    let released := (h.enter store site c).2.tryRelease store site (h.enter store site c).1
    released.1 = .ok () ∧ released.2.slots = h.slots := by
  constructor
  · show (((h.enter store site c).2.slots (store.place site)).close h.nextScope).1 = .ok ()
    rw [slots_enter, if_pos rfl, Slot.close_enter]
  · funext place
    rw [slots_tryRelease, slots_enter]
    by_cases hplace : place = store.place site
    · rw [if_pos hplace, if_pos hplace]
      exact congrArg Prod.snd ((h.slots place).close_enter h.nextScope c)
    · rw [if_neg hplace, if_neg hplace]

theorem tryRelease_of_not_mem {handle : Handle}
    (hid : handle.id ∉ (h.slots (store.place site)).ids) :
    h.tryRelease store site handle = (.error .notOpenHere, h) := by
  have hclose := Slot.close_of_not_mem_ids hid
  simp only [tryRelease, slot, hclose, setSlot_self]

end Host

end TraceIdentity
