import TraceIdentity.SpanContext
/-!
# Slots

A slot holds the current context of one thread or task and the scopes that are
still open on it. Closing the newest scope restores what was current before it.
Closing an older one is a fault, but the next newer scope then inherits its
restore value, so that the slot gets back to its base value in any order.
-/
namespace TraceIdentity

/-- A scope that is open, and what becomes current when it is closed. -/
structure OpenScope where
  id : Nat
  restore : Option SpanContext
  deriving DecidableEq, Repr

/-- The current context and the open scopes, newest first. -/
structure Slot where
  current : Option SpanContext := none
  scopes : List OpenScope := []
  deriving DecidableEq, Repr, Inhabited

/-- Proof that a scope was entered, and what was current before. -/
structure Handle where
  id : Nat
  previous : Option SpanContext
  deriving DecidableEq, Repr

namespace Slot

def depth (s : Slot) : Nat :=
  s.scopes.length

/-- What is current once every scope is closed. -/
def base (s : Slot) : Option SpanContext :=
  match s.scopes.getLast? with
  | some oldest => oldest.restore
  | none => s.current

def enter (s : Slot) (id : Nat) (c : SpanContext) : Slot :=
  { current := some c, scopes := ⟨id, s.current⟩ :: s.scopes }

/-- Take a scope out from below `newer`, which inherits its restore value, and count the newer. -/
def unlink (id : Nat) (newer : OpenScope) : List OpenScope → Option (List OpenScope × Nat)
  | [] => none
  | scope :: older =>
    if scope.id = id then some ({ newer with restore := scope.restore } :: older, 1)
    else (unlink id scope older).map fun p => (newer :: p.1, p.2 + 1)

/-- Close a scope; a scope that is not open here changes nothing. -/
def close (s : Slot) (id : Nat) : Except Fault Unit × Slot :=
  match s.scopes with
  | [] => (.error .notOpenHere, s)
  | newest :: older =>
    if newest.id = id then (.ok (), { current := newest.restore, scopes := older })
    else
      match unlink id newest older with
      | some (scopes, newer) => (.error (.outOfOrder newer), { s with scopes })
      | none => (.error .notOpenHere, s)

/-- The open scopes with the contexts entered for them, newest first. -/
def contents (current : Option SpanContext) : List OpenScope → List (Nat × Option SpanContext)
  | [] => []
  | scope :: older => (scope.id, current) :: contents scope.restore older

/-- The scopes that are open and the contexts they were entered with, newest first. -/
def opened (s : Slot) : List (Nat × Option SpanContext) :=
  contents s.current s.scopes

@[simp] theorem opened_enter (s : Slot) (id : Nat) (c : SpanContext) :
    (s.enter id c).opened = (id, some c) :: s.opened := rfl

@[simp] theorem base_enter (s : Slot) (id : Nat) (c : SpanContext) :
    (s.enter id c).base = s.base := by
  simp only [base, enter, List.getLast?_cons]
  cases s.scopes.getLast? <;> rfl

private theorem contents_unlink (id : Nat) (current : Option SpanContext) (newer : OpenScope)
    (older scopes : List OpenScope) (n : Nat) (hne : newer.id ≠ id)
    (h : unlink id newer older = some (scopes, n)) :
    contents current scopes = (contents current (newer :: older)).eraseP (·.1 = id) := by
  induction older generalizing current newer scopes n with
  | nil => simp [unlink] at h
  | cons scope older ih =>
    simp only [unlink] at h
    split at h
    · next hs =>
      obtain ⟨rfl, -⟩ := Prod.mk.inj (Option.some.inj h)
      simp [contents, hne, hs]
    · next hs =>
      obtain ⟨⟨rest, m⟩, hr, hp⟩ := Option.map_eq_some_iff.mp h
      obtain ⟨rfl, -⟩ := Prod.mk.inj hp
      have := ih newer.restore scope rest m hs hr
      rw [contents, this]
      simp [contents, hne]

private theorem unlink_eq_none (id : Nat) (newer : OpenScope) (older : List OpenScope)
    (h : unlink id newer older = none) : ∀ scope ∈ older, scope.id ≠ id := by
  induction older generalizing newer with
  | nil => simp
  | cons scope older ih =>
    simp only [unlink] at h
    split at h
    · exact absurd h (by simp)
    · next hs =>
      have := ih scope (Option.map_eq_none_iff.mp h)
      simpa [hs] using this

private theorem mem_contents (current : Option SpanContext) (scopes : List OpenScope)
    (e : Nat × Option SpanContext) (h : e ∈ contents current scopes) :
    ∃ scope ∈ scopes, scope.id = e.1 := by
  induction scopes generalizing current with
  | nil => simp [contents] at h
  | cons scope older ih =>
    rcases List.mem_cons.mp h with rfl | h
    · exact ⟨scope, by simp, rfl⟩
    · obtain ⟨t, ht, he⟩ := ih scope.restore h
      exact ⟨t, List.mem_cons_of_mem _ ht, he⟩

/-- Closing takes a scope out of the view and leaves every other scope its context. -/
theorem opened_close (s : Slot) (id : Nat) :
    (s.close id).2.opened = s.opened.eraseP (·.1 = id) := by
  obtain ⟨current, scopes⟩ := s
  cases scopes with
  | nil => rfl
  | cons newest older =>
    simp only [close]
    split
    · next h => simp [opened, contents, h]
    · next h =>
      split
      · next scopes newer hu => exact contents_unlink id current newest older scopes newer h hu
      · next hu =>
        rw [List.eraseP_of_forall_not]
        intro e he
        obtain ⟨scope, hs, hid⟩ := mem_contents current (newest :: older) e he
        rcases List.mem_cons.mp hs with rfl | hs
        · simpa [← hid] using h
        · simpa [← hid] using unlink_eq_none id newest older hu scope hs

private theorem getLast_unlink (id : Nat) (newer : OpenScope) (older scopes : List OpenScope)
    (n : Nat) (h : unlink id newer older = some (scopes, n)) :
    scopes.getLast?.map (·.restore) = (newer :: older).getLast?.map (·.restore) := by
  induction older generalizing newer scopes n with
  | nil => simp [unlink] at h
  | cons scope older ih =>
    simp only [unlink] at h
    split at h
    · obtain ⟨rfl, -⟩ := Prod.mk.inj (Option.some.inj h)
      simp only [List.getLast?_cons]
      cases older.getLast? <;> rfl
    · obtain ⟨⟨rest, m⟩, hr, hp⟩ := Option.map_eq_some_iff.mp h
      obtain ⟨rfl, -⟩ := Prod.mk.inj hp
      have := ih scope rest m hr
      simp only [List.getLast?_cons] at this ⊢
      cases hl : rest.getLast? with
      | none => simp [hl] at this
      | some t => simpa [hl] using this

private theorem base_eq (s : Slot) :
    s.base = (s.scopes.getLast?.map (·.restore)).getD s.current := by
  unfold base
  cases s.scopes.getLast? <;> rfl

@[simp] theorem base_close (s : Slot) (id : Nat) : (s.close id).2.base = s.base := by
  obtain ⟨current, scopes⟩ := s
  cases scopes with
  | nil => rfl
  | cons newest older =>
    simp only [close]
    split
    · simp only [base, List.getLast?_cons]
      cases older.getLast? <;> rfl
    · split
      · next scopes newer hu =>
        simp only [base_eq, getLast_unlink id newest older scopes newer hu]
      · rfl

end Slot

end TraceIdentity
