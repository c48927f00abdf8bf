import Mathlib.Data.List.Induction
import Mathlib.Data.List.Nodup
import TraceIdentity.Proofs.Host.View
/-!
# Runs on one slot

Scopes are entered on a slot and released in any order, also ones that were never
entered on it or are released already. The slot always shows the scopes entered
and not yet released, in the order of entering, and nothing of the order in
which the others were released.
-/
namespace TraceIdentity.Slot

/-- One use of a slot. -/
inductive Op where
  | enter (id : Nat) (c : SpanContext)
  | release (id : Nat)
  deriving DecidableEq

def apply (s : Slot) : Op → Slot
  | .enter id c => s.enter id c
  | .release id => (s.close id).2

def run (s : Slot) (ops : List Op) : Slot :=
  ops.foldl apply s

/-- The ids of all scopes that are entered. -/
def entered : List Op → List Nat
  | [] => []
  | .enter id _ :: ops => id :: entered ops
  | .release _ :: ops => entered ops

/-- The scopes entered and not released later, in the order of entering. -/
def stillOpen : List Op → List (Nat × SpanContext)
  | [] => []
  | .enter id c :: ops =>
    if .release id ∈ ops then stillOpen ops else (id, c) :: stillOpen ops
  | .release _ :: ops => stillOpen ops

/-- What a slot shows of open scopes, listed in the order of entering. -/
def shown (scopes : List (Nat × SpanContext)) : List (Nat × Option SpanContext) :=
  scopes.reverse.map fun e => (e.1, some e.2)

theorem stillOpen_enter (ops : List Op) (id : Nat) (c : SpanContext) :
    stillOpen (ops ++ [.enter id c]) = stillOpen ops ++ [(id, c)] := by
  induction ops with
  | nil => simp [stillOpen]
  | cons op ops ih =>
    cases op with
    | enter id' c' =>
      by_cases h : Op.release id' ∈ ops <;> simp [stillOpen, h, ih]
    | release id' => simpa [stillOpen] using ih

theorem stillOpen_release (ops : List Op) (id : Nat) :
    stillOpen (ops ++ [.release id]) = (stillOpen ops).filter (·.1 ≠ id) := by
  induction ops with
  | nil => simp [stillOpen]
  | cons op ops ih =>
    cases op with
    | enter id' c' =>
      by_cases h : Op.release id' ∈ ops
      · simp [stillOpen, h, ih]
      · by_cases hid : id' = id
        · subst hid
          simp [stillOpen, h, ih]
        · simp [stillOpen, h, ih, hid]
    | release id' => simpa [stillOpen] using ih

theorem entered_append (ops ops' : List Op) :
    entered (ops ++ ops') = entered ops ++ entered ops' := by
  induction ops with
  | nil => rfl
  | cons op ops ih => cases op <;> simp [entered, ih]

theorem stillOpen_sublist (ops : List Op) : ((stillOpen ops).map (·.1)).Sublist (entered ops) := by
  induction ops with
  | nil => exact List.Sublist.slnil
  | cons op ops ih =>
    cases op with
    | enter id c =>
      by_cases h : Op.release id ∈ ops
      · simpa [stillOpen, entered, h] using ih.cons id
      · simpa [stillOpen, entered, h] using ih
    | release id => exact ih

private theorem eraseP_eq_filter {α : Type} {id : Nat} {es : List (Nat × α)}
    (hn : (es.map (·.1)).Nodup) : es.eraseP (·.1 = id) = es.filter (·.1 ≠ id) := by
  induction es with
  | nil => rfl
  | cons e es ih =>
    rw [List.map_cons, List.nodup_cons] at hn
    by_cases hid : e.1 = id
    · have hrest : es.filter (·.1 ≠ id) = es := by
        rw [List.filter_eq_self]
        intro d hd
        have hne : d.1 ≠ id := fun h => hn.1 (List.mem_map.mpr ⟨d, hd, h.trans hid.symm⟩)
        simpa using hne
      rw [List.eraseP_cons_of_pos (by simpa using hid), List.filter_cons_of_neg (by simpa using hid),
        hrest]
    · rw [List.eraseP_cons_of_neg (by simpa using hid), List.filter_cons_of_pos (by simpa using hid),
        ih hn.2]

theorem opened_close_of_nodup {s : Slot} (hn : (s.opened.map (·.1)).Nodup) (id : Nat) :
    (s.close id).2.opened = s.opened.filter (·.1 ≠ id) := by
  rw [opened_close]
  exact eraseP_eq_filter hn

theorem map_fst_shown (scopes : List (Nat × SpanContext)) :
    (shown scopes).map (·.1) = (scopes.map (·.1)).reverse := by
  simp [shown, Function.comp_def]

theorem shown_filter (scopes : List (Nat × SpanContext)) (id : Nat) :
    (shown scopes).filter (·.1 ≠ id) = shown (scopes.filter (·.1 ≠ id)) := by
  simp [shown, List.filter_map, Function.comp_def]

/-- A run shows the scopes that are still open, and its base value stays. -/
theorem opened_run (base : Option SpanContext) (ops : List Op) (hn : (entered ops).Nodup) :
    (run { current := base } ops).opened = shown (stillOpen ops) ∧
      (run { current := base } ops).base = base := by
  induction ops using List.reverseRecOn with
  | nil => exact ⟨rfl, rfl⟩
  | append_singleton ops op ih =>
    rw [entered_append] at hn
    have hops := (List.nodup_append.mp hn).1
    obtain ⟨hopened, hbase⟩ := ih hops
    have hrun : run { current := base } (ops ++ [op]) = (run { current := base } ops).apply op := by
      simp [run]
    rw [hrun]
    cases op with
    | enter id c =>
      refine ⟨?_, (base_enter _ id c).trans hbase⟩
      rw [apply, opened_enter, hopened, stillOpen_enter]
      simp [shown]
    | release id =>
      refine ⟨?_, (base_close _ id).trans hbase⟩
      have hnodup : ((run { current := base } ops).opened.map (·.1)).Nodup := by
        rw [hopened, map_fst_shown]
        exact (List.nodup_reverse).mpr ((stillOpen_sublist ops).nodup hops)
      rw [apply, opened_close_of_nodup hnodup, hopened, stillOpen_release, shown_filter]

/-- After releases, in whatever order, the scopes that were not released are open. -/
theorem opened_run_release {s : Slot} (hn : (s.opened.map (·.1)).Nodup) (ids : List Nat) :
    (run s (ids.map .release)).opened = s.opened.filter (·.1 ∉ ids) ∧
      (run s (ids.map .release)).base = s.base := by
  induction ids generalizing s with
  | nil => exact ⟨(List.filter_eq_self.mpr fun e _ => by simp).symm, rfl⟩
  | cons id ids ih =>
    have hclose := opened_close_of_nodup hn id
    have hn' : ((s.close id).2.opened.map (·.1)).Nodup := by
      rw [hclose]
      exact (List.filter_sublist.map _).nodup hn
    obtain ⟨hopened, hbase⟩ := ih hn'
    have hrun : run s ((id :: ids).map .release) = run (s.close id).2 (ids.map .release) := rfl
    rw [hrun]
    refine ⟨?_, hbase.trans (base_close s id)⟩
    rw [hopened, hclose, List.filter_filter]
    apply List.filter_congr
    intro e _
    simp [Bool.and_comm]

/-- A slot that shows exactly these scopes, listed in the order of entering. -/
structure Shows (base : Option SpanContext) (scopes : List (Nat × SpanContext)) (s : Slot) :
    Prop where
  opened : s.opened = shown scopes
  depth : s.depth = scopes.length
  current : s.current =
    match scopes.getLast? with
    | some newest => some newest.2
    | none => base
  release_newest : ∀ id, (s.close id).1 = .ok () ↔ scopes.getLast?.map (·.1) = some id
  release_older : ∀ older id c newer, scopes = older ++ (id, c) :: newer → newer ≠ [] →
    (s.close id).1 = .error (.outOfOrder newer.length) ∧
      (Fault.outOfOrder newer.length).kind = .scopeMismatch ∧ (s.close id).2.current = s.current
  release_removes : ∀ id, (s.close id).2.opened = shown (scopes.filter (·.1 ≠ id))
  release_unknown : ∀ id, id ∉ scopes.map (·.1) →
    s.close id = (.error .notOpenHere, s) ∧ Fault.notOpenHere.kind = .scopeMismatch
  any_order : ∀ ids ids' : List Nat, (∀ id, id ∈ ids ↔ id ∈ ids') →
    run s (ids.map .release) = run s (ids'.map .release)
  back_at_base : scopes = [] → s = { current := base }

private theorem current_of_opened {s : Slot} {scopes : List (Nat × SpanContext)}
    (ho : s.opened = shown scopes) :
    s.current =
      match scopes.getLast? with
      | some newest => some newest.2
      | none => s.base := by
  rw [current_eq, ho, shown]
  cases hl : scopes.getLast? with
  | none =>
    rw [List.getLast?_eq_none_iff.mp hl]
    rfl
  | some newest =>
    obtain ⟨older, rfl⟩ := List.getLast?_eq_some_iff.mp hl
    simp

private theorem ne_of_newer {older newer : List (Nat × SpanContext)} {id : Nat} {c : SpanContext}
    (hn : ((older ++ (id, c) :: newer).map (·.1)).Nodup) : ∀ e ∈ newer, e.1 ≠ id := by
  rw [List.map_append, List.map_cons] at hn
  have hid := (List.nodup_cons.mp (List.nodup_append.mp hn).2.1).1
  intro e he heq
  exact hid (List.mem_map.mpr ⟨e, he, heq⟩)

private theorem current_close_of_older {s : Slot} {older newer : List (Nat × SpanContext)}
    {id : Nat} {c : SpanContext} (ho : s.opened = shown (older ++ (id, c) :: newer))
    (hclose : (s.close id).2.opened = shown ((older ++ (id, c) :: newer).filter (·.1 ≠ id)))
    (hnewer : ∀ e ∈ newer, e.1 ≠ id) (hne : newer ≠ []) :
    (s.close id).2.current = s.current := by
  have hkept : (older ++ (id, c) :: newer).filter (·.1 ≠ id) =
      older.filter (·.1 ≠ id) ++ newer := by
    have hall : newer.filter (·.1 ≠ id) = newer := by
      rw [List.filter_eq_self]
      intro e he
      simpa using hnewer e he
    rw [List.filter_append, List.filter_cons_of_neg (by simp), hall]
  rw [hkept] at hclose
  obtain ⟨newest, hlast⟩ : ∃ newest, newer.getLast? = some newest :=
    Option.ne_none_iff_exists'.mp fun h => hne (List.getLast?_eq_none_iff.mp h)
  rw [current_of_opened ho, current_of_opened hclose]
  simp [List.getLast?_append, List.getLast?_cons, hlast]

theorem shows_of_opened {s : Slot} {scopes : List (Nat × SpanContext)}
    (ho : s.opened = shown scopes) (hn : (scopes.map (·.1)).Nodup) : Shows s.base scopes s := by
  have hids : s.opened.map (·.1) = (scopes.map (·.1)).reverse := by rw [ho, map_fst_shown]
  have hnodup : (s.opened.map (·.1)).Nodup := by
    rw [hids]
    exact List.nodup_reverse.mpr hn
  constructor
  · exact ho
  · rw [depth_eq, ho, shown, List.length_map, List.length_reverse]
  · exact current_of_opened ho
  · intro id
    rw [close_fst, verdict_eq_ok_iff, hids, List.head?_reverse, List.getLast?_map]
  · intro older id c newer hs hne
    subst hs
    have hnewer := ne_of_newer hn
    have hclose := opened_close_of_nodup hnodup id
    rw [ho, shown_filter] at hclose
    refine ⟨?_, rfl, current_close_of_older ho hclose hnewer hne⟩
    have hmem : id ∉ (newer.map (·.1)).reverse := by
      rw [List.mem_reverse, List.mem_map]
      rintro ⟨e, he, hid⟩
      exact hnewer e he hid
    have horder : ((older ++ (id, c) :: newer).map (·.1)).reverse =
        (newer.map (·.1)).reverse ++ id :: (older.map (·.1)).reverse := by simp
    rw [close_fst, hids, horder, verdict_append (by simpa using hne) hmem, List.length_reverse,
      List.length_map]
  · intro id
    rw [opened_close_of_nodup hnodup, ho, shown_filter]
  · intro id hid
    refine ⟨close_of_not_mem ?_, rfl⟩
    rw [hids, List.mem_reverse]
    exact hid
  · intro ids ids' hsame
    obtain ⟨hopened, hbase⟩ := opened_run_release hnodup ids
    obtain ⟨hopened', hbase'⟩ := opened_run_release hnodup ids'
    refine ext_opened ?_ (hbase.trans hbase'.symm)
    rw [hopened, hopened']
    apply List.filter_congr
    intro e _
    rw [decide_eq_decide, hsame]
  · intro hnil
    subst hnil
    exact ext_opened ho rfl

/-- After every run in which no id is entered twice, a slot shows the scopes still open. -/
theorem run_shows_stillOpen (base : Option SpanContext) (ops : List Op)
    (hn : (entered ops).Nodup) : Shows base (stillOpen ops) (run { current := base } ops) := by
  obtain ⟨hopened, hbase⟩ := opened_run base ops hn
  have hshows := shows_of_opened hopened ((stillOpen_sublist ops).nodup hn)
  rwa [hbase] at hshows

/-- The context of span `n` of a trace. -/
private def spanOf (n : Nat) : SpanContext :=
  { trace := .ofNat 16 1, span := .ofNat 8 n }

/-- A run with a release out of order, the same once more, and one of an unknown scope. -/
def mixedRun : List Op :=
  [.enter 1 (spanOf 1), .enter 2 (spanOf 2), .release 9, .enter 3 (spanOf 3), .release 2,
    .release 2]

theorem run_shows_stillOpen_of_mixedRun :
    (entered mixedRun).Nodup ∧
      Shows none [(1, spanOf 1), (3, spanOf 3)] (run { current := none } mixedRun) :=
  ⟨by decide, run_shows_stillOpen none mixedRun (by decide)⟩

end TraceIdentity.Slot
