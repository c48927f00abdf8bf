import Mathlib.Logic.Function.Basic
import TraceIdentity.Proofs.Host.Places
/-!
# Renaming scopes

The ids of scopes carry no meaning of their own. A slot whose open scopes have
other ids, different ones still different, gives the same answers to the same
enters and releases. A renaming grows with every pair of ids that is issued.
-/
namespace TraceIdentity

/-- The ids issued by one counter have counterparts that were issued by another; ids start at one. -/
structure Renames (ρ : Nat → Nat) (ids : List Nat) (next next' : Nat) : Prop where
  source : ∀ id ∈ ids, 0 < id ∧ id < next
  target : ∀ id ∈ ids, 0 < ρ id ∧ ρ id < next'
  inj : ∀ id ∈ ids, ∀ id' ∈ ids, ρ id' = ρ id → id' = id

namespace Renames

variable {ρ ρ' : Nat → Nat} {ids : List Nat} {next next' : Nat}

theorem fresh (h : Renames ρ ids next next') : next ∉ ids := by
  intro hid
  have hlt := (h.source next hid).2
  omega

/-- An id that is issued for something else has no counterpart. -/
theorem skip (h : Renames ρ ids next next') : Renames ρ ids (next + 1) next' := by
  constructor
  · intro id hid
    have hsource := h.source id hid
    omega
  · exact h.target
  · exact h.inj

theorem exists_cons (h : Renames ρ ids next next') (hpos : 0 < next) (hpos' : 0 < next') :
    ∃ ρ', (∀ id ∈ ids, ρ' id = ρ id) ∧ ρ' next = next' ∧
      Renames ρ' (next :: ids) (next + 1) (next' + 1) := by
  have hold : ∀ id ∈ ids, Function.update ρ next next' id = ρ id := by
    intro id hid
    apply Function.update_of_ne
    rintro rfl
    exact h.fresh hid
  have hnew : Function.update ρ next next' next = next' := Function.update_self _ _ _
  refine ⟨Function.update ρ next next', hold, hnew, ?_⟩
  constructor
  · intro id hid
    rcases List.mem_cons.mp hid with rfl | hid
    · omega
    · have hsource := h.source id hid
      omega
  · intro id hid
    rcases List.mem_cons.mp hid with rfl | hid
    · omega
    · have htarget := h.target id hid
      have hkept := hold id hid
      omega
  · intro id hid id' hid' heq
    rcases List.mem_cons.mp hid with rfl | hid
    · rcases List.mem_cons.mp hid' with rfl | hid'
      · rfl
      · have htarget := h.target id' hid'
        have hkept := hold id' hid'
        omega
    · have htarget := h.target id hid
      have hkept := hold id hid
      rcases List.mem_cons.mp hid' with rfl | hid'
      · omega
      · rw [hkept, hold id' hid'] at heq
        exact h.inj id hid id' hid' heq

end Renames

/-- The scope with another id. -/
def OpenScope.rename (ρ : Nat → Nat) (scope : OpenScope) : OpenScope :=
  { scope with id := ρ scope.id }

namespace Slot

variable {ρ ρ' : Nat → Nat} {s : Slot} {id : Nat}

/-- The slot with other ids for its open scopes. -/
def rename (ρ : Nat → Nat) (s : Slot) : Slot :=
  { s with scopes := s.scopes.map (·.rename ρ) }

@[simp] theorem current_rename (ρ : Nat → Nat) (s : Slot) : (s.rename ρ).current = s.current := rfl

@[simp] theorem depth_rename (ρ : Nat → Nat) (s : Slot) : (s.rename ρ).depth = s.depth :=
  List.length_map _

@[simp] theorem ids_rename (ρ : Nat → Nat) (s : Slot) : (s.rename ρ).ids = s.ids.map ρ := by
  simp [ids, rename, OpenScope.rename, Function.comp_def]

theorem rename_enter (ρ : Nat → Nat) (s : Slot) (id : Nat) (c : SpanContext) :
    (s.enter id c).rename ρ = (s.rename ρ).enter (ρ id) c := rfl

theorem rename_congr (h : ∀ id ∈ s.ids, ρ id = ρ' id) : s.rename ρ = s.rename ρ' := by
  have hscopes : s.scopes.map (·.rename ρ) = s.scopes.map (·.rename ρ') := by
    apply List.map_congr_left
    intro scope hscope
    have hid := h scope.id (List.mem_map_of_mem hscope)
    rw [OpenScope.rename, OpenScope.rename, hid]
  rw [rename, rename, hscopes]

private theorem unlink_rename (newer : OpenScope) (older : List OpenScope)
    (hinj : ∀ scope ∈ older, ρ scope.id = ρ id → scope.id = id) :
    unlink (ρ id) (newer.rename ρ) (older.map (·.rename ρ)) =
      (unlink id newer older).map fun p => (p.1.map (·.rename ρ), p.2) := by
  induction older generalizing newer with
  | nil => rfl
  | cons scope older ih =>
    have htail := ih scope fun scope' hscope' => hinj scope' (List.mem_cons_of_mem _ hscope')
    rw [List.map_cons, unlink, unlink]
    by_cases hid : scope.id = id
    · have hrenamed : (scope.rename ρ).id = ρ id := congrArg ρ hid
      rw [if_pos hid, if_pos hrenamed]
      rfl
    · have hrenamed : (scope.rename ρ).id ≠ ρ id := by
        intro heq
        exact hid (hinj scope List.mem_cons_self heq)
      rw [if_neg hid, if_neg hrenamed, htail, Option.map_map, Option.map_map]
      rfl

/-- A release reports the same and leaves the same, if no other scope got its new id. -/
theorem close_rename (hinj : ∀ id' ∈ s.ids, ρ id' = ρ id → id' = id) :
    (s.rename ρ).close (ρ id) = ((s.close id).1, (s.close id).2.rename ρ) := by
  obtain ⟨current, scopes⟩ := s
  have hscopes : ∀ scope ∈ scopes, ρ scope.id = ρ id → scope.id = id := by
    intro scope hscope
    exact hinj scope.id (List.mem_map_of_mem hscope)
  cases scopes with
  | nil => rfl
  | cons newest older =>
    have holder := unlink_rename newest older fun scope hscope =>
      hscopes scope (List.mem_cons_of_mem _ hscope)
    rw [rename, List.map_cons, close, close]
    by_cases hid : newest.id = id
    · have hrenamed : (newest.rename ρ).id = ρ id := congrArg ρ hid
      simp only [if_pos hid, if_pos hrenamed]
      rfl
    · have hrenamed : (newest.rename ρ).id ≠ ρ id := by
        intro heq
        exact hid (hscopes newest List.mem_cons_self heq)
      simp only [if_neg hid, if_neg hrenamed, holder]
      cases unlink id newest older with
      | none => rfl
      | some p => rfl

end Slot

end TraceIdentity
