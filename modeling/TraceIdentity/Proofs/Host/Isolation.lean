import TraceIdentity.Proofs.Host.Mirrors
/-!
# Places do not interfere

What a slot shows to the code that resolves to it is what it would show if nothing
ran anywhere else. The slot of a task shows the same whichever threads poll the
task, and outside every task the two stores are the same.
-/
namespace TraceIdentity

namespace Session

variable {place : Place} {owner : Nat → Option Place} {mine : List Nat} {ρ : Nat → Nat}
  {m m' : Session} {u : Use}

theorem Mirrors.sight_eq {u' : Use} (h : Mirrors place owner mine ρ (m.act u).2 (m'.act u').2)
    (hreply : (m'.act u').1 = (m.act u).1) (hplace : u.place = place) (hplace' : u'.place = place) :
    m'.sight u' = m.sight u := by
  have hsame : u.store.place u.site = place := hplace
  have hsame' : u'.store.place u'.site = place := hplace'
  simp only [sight, Host.current, Host.depth, Host.slot, hsame, hsame', h.slot, hreply,
    Slot.current_rename, Slot.depth_rename]

theorem Mirrors.observeAt_eq (h : Mirrors place owner mine ρ m m') (us : List Use) :
    m.observeAt place us = m'.observe (Use.alone place owner us) := by
  induction us generalizing m m' owner mine ρ with
  | nil => rfl
  | cons u us ih =>
    by_cases hplace : u.place = place
    · obtain ⟨hreply, mine', ρ', hnext⟩ := h.act_here hplace
      have hsettled : (u.settled owner).place = place := (u.place_settled owner).trans hplace
      have hsight := hnext.sight_eq hreply hplace hsettled
      rw [observeAt_cons_of_eq m us hplace, Use.alone, if_pos hplace, observe, hsettled, hsight,
        ih hnext]
    · have hnext := h.act_elsewhere hplace
      rw [observeAt_cons_of_ne m us hplace, Use.alone, if_neg hplace, ih hnext]

end Session

namespace Use

/-- Uses that do the same, both at this place or both elsewhere. -/
def Moved (place : Place) (u v : Use) : Prop :=
  u.op = v.op ∧ (u.place = place ↔ v.place = place)

variable {place : Place} {owner owner' : Nat → Option Place} {u v : Use}

theorem Moved.owners (h : u.Moved place v)
    (howner : ∀ name, owner name = some place ↔ owner' name = some place) (name : Nat) :
    u.owners owner name = some place ↔ v.owners owner' name = some place := by
  obtain ⟨store, site, op⟩ := u
  obtain ⟨store', site', op'⟩ := v
  obtain ⟨hop, hplace⟩ := h
  obtain rfl : op = op' := hop
  cases op with
  | enter name' c =>
    by_cases hname : name = name'
    · simpa [Use.owners, hname] using hplace
    · simpa [Use.owners, hname] using howner name
  | _ => exact howner name

theorem Moved.settled (h : u.Moved place v) (hplace : u.place = place)
    (howner : ∀ name, owner name = some place ↔ owner' name = some place) :
    (u.settled owner).Alike (v.settled owner') := by
  have hplace' := h.2.mp hplace
  obtain ⟨store, site, op⟩ := u
  obtain ⟨store', site', op'⟩ := v
  obtain rfl : op = op' := h.1
  constructor
  · rw [place_settled, place_settled, hplace, hplace']
  · cases op with
    | release name =>
      have hsame : store.place site = place := hplace
      have hsame' : store'.place site' = place := hplace'
      by_cases hown : owner name = some place
      · have hown' : owner' name = some place := (howner name).mp hown
        rw [settled_of_own (hown.trans (congrArg some hsame.symm)),
          settled_of_own (hown'.trans (congrArg some hsame'.symm))]
      · have hown' : owner' name ≠ some place := mt (howner name).mpr hown
        rw [settled_of_other (hsame ▸ hown), settled_of_other (hsame' ▸ hown')]
    | _ => rfl

theorem forall₂_alone {us vs : List Use} (h : List.Forall₂ (Moved place) us vs)
    (howner : ∀ name, owner name = some place ↔ owner' name = some place) :
    List.Forall₂ Alike (alone place owner us) (alone place owner' vs) := by
  induction h generalizing owner owner' with
  | nil => exact .nil
  | @cons u v us vs huv htail ih =>
    have hrest := ih (huv.owners howner)
    by_cases hplace : u.place = place
    · rw [alone, alone, if_pos hplace, if_pos (huv.2.mp hplace)]
      exact .cons (huv.settled hplace howner) hrest
    · rw [alone, alone, if_neg hplace, if_neg (mt huv.2.mpr hplace)]
      exact hrest

/-- The same use, through either store where no task runs. -/
def Swapped (u v : Use) : Prop :=
  u.site = v.site ∧ u.op = v.op ∧ (u.store = v.store ∨ u.site.tasks = [])

/-- The same use, on any thread. -/
def Polled (u v : Use) : Prop :=
  u.store = v.store ∧ u.site.tasks = v.site.tasks ∧ u.op = v.op

theorem Swapped.alike (h : u.Swapped v) : u.Alike v := by
  obtain ⟨hsite, hop, hstore⟩ := h
  refine ⟨?_, hop⟩
  rw [place, place, ← hsite]
  rcases hstore with hstore | htasks
  · rw [hstore]
  · rw [Store.place_of_no_tasks htasks, Store.place_of_no_tasks htasks]

theorem Polled.moved (h : u.Polled v) (name : String) : u.Moved (.task name) v := by
  obtain ⟨hstore, htasks, hop⟩ := h
  refine ⟨hop, ?_⟩
  rw [place, place, Store.place_eq_task_iff, Store.place_eq_task_iff, hstore, htasks]

end Use

namespace Session

theorem observeAt_eq_alone (base : Place → Option SpanContext) (issued : Nat) (place : Place)
    (us : List Use) :
    (resting base issued).observeAt place us =
      (resting base issued).observe (Use.alone place (fun _ => none) us) :=
  (mirrors_resting base issued place).observeAt_eq us

/-- Alone, a thread that releases the handle of another thread releases an unknown one. -/
example (c : SpanContext) :
    Use.alone (.thread "a") (fun _ => none)
        [⟨.thread, ⟨"a", []⟩, .enter 0 c⟩, ⟨.thread, ⟨"b", []⟩, .enter 1 c⟩,
          ⟨.task, ⟨"a", []⟩, .release 1⟩, ⟨.task, ⟨"a", []⟩, .release 0⟩] =
      [⟨.thread, ⟨"a", []⟩, .enter 0 c⟩, ⟨.task, ⟨"a", []⟩, .releaseUnknown⟩,
        ⟨.task, ⟨"a", []⟩, .release 0⟩] := by
  rfl

/-- A place shows the same, wherever the uses of the other places are moved to. -/
theorem observeAt_of_moved (base : Place → Option SpanContext) (issued : Nat) {place : Place}
    {us vs : List Use} (h : List.Forall₂ (Use.Moved place) us vs) :
    (resting base issued).observeAt place us = (resting base issued).observeAt place vs := by
  have halone : List.Forall₂ Use.Alike (Use.alone place (fun _ => none) us)
      (Use.alone place (fun _ => none) vs) := Use.forall₂_alone h fun _ => Iff.rfl
  rw [observeAt_eq_alone, observeAt_eq_alone, observe_congr _ halone]

theorem release_of_enter (m : Session) {site : Site} (htasks : site.tasks = [])
    (store store' : Store) (name : Nat) (c : SpanContext) :
    let entered := (m.act ⟨store, site, .enter name c⟩).2
    let released := entered.act ⟨store', site, .release name⟩
    released.1 = .tried (.ok ()) ∧ released.2.host.slots = m.host.slots := by
  intro entered released
  have hswapped : Use.Swapped ⟨store', site, .release name⟩ ⟨store, site, .release name⟩ :=
    ⟨rfl, rfl, .inr htasks⟩
  have hreleased : released = entered.tryRelease store site (entered.handles name) :=
    entered.act_congr hswapped.alike
  have hhandle : entered.handles name = (m.host.enter store site c).1 := m.handles_enter_self
  have hhost := m.host.tryRelease_enter store site c
  rw [hreleased, hhandle]
  exact ⟨congrArg Use.Reply.tried hhost.1, hhost.2⟩

/-- What a sequence of uses shows does not depend on what runs elsewhere, on the threads that poll
a task, or outside every task on the store. -/
structure Isolated (base : Place → Option SpanContext) (issued : Nat) (us : List Use) : Prop where
  alone : ∀ place, (resting base issued).observeAt place us =
    (resting base issued).observe (Use.alone place (fun _ => none) us)
  polled : ∀ name vs, List.Forall₂ Use.Polled us vs →
    (resting base issued).observeAt (.task name) us =
      (resting base issued).observeAt (.task name) vs
  swapped : ∀ vs, List.Forall₂ Use.Swapped us vs →
    (resting base issued).observe us = (resting base issued).observe vs
  /-- A handle entered through one store is released through the other. -/
  released : ∀ (m : Session) store store' site name c, site.tasks = [] →
    let entered := (m.act ⟨store, site, .enter name c⟩).2
    let released := entered.act ⟨store', site, .release name⟩
    released.1 = .tried (.ok ()) ∧ released.2.host.slots = m.host.slots

theorem places_isolated (base : Place → Option SpanContext) (issued : Nat) (us : List Use) :
    Isolated base issued us := by
  constructor
  · intro place
    exact observeAt_eq_alone base issued place us
  · intro name vs hpolled
    apply observeAt_of_moved
    exact hpolled.imp fun u v huv => huv.moved name
  · intro vs hswapped
    apply observe_congr
    exact hswapped.imp fun u v huv => huv.alike
  · intro m store store' site name c htasks
    exact m.release_of_enter htasks store store' name c

end Session

end TraceIdentity
