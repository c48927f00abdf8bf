import TraceIdentity.Proofs.IdSource.NeverZero
import TraceIdentity.Proofs.Program.Ledger
import TraceIdentity.Proofs.Program.Nesting
import TraceIdentity.Proofs.Record.Rooted
/-!
# The scope of a request

A scope keeps the context that it was opened with. So wherever the scope of a request
is the innermost one, the context of the request is current, whatever a program did
since, and all records that are made there hang on the record of the request.
-/
namespace TraceIdentity.Program

variable {p q : Program} {e : Event} {t : List Event} {a : Action} {place : Place} {id : Nat}
  {ctx : SpanContext}

/-- Correlate a request and open a scope for its context, which its code has to release. -/
def openRequest {σ : Type} (p : Program) (c : Component σ) (headers : Headers) (store : Store)
    (site : Site) (s : σ) : Arrival × Handle × σ × Program :=
  let opened := c.openRequest headers store site s p.host
  (opened.1, opened.2.1, opened.2.2.1,
    { p with host := opened.2.2.2 }.hold opened.2.1 .code (store.place site))

/-- A scope that was issued before, and was opened in this place with this context if at all. -/
structure Keeps (place : Place) (id : Nat) (ctx : SpanContext) (p : Program) : Prop where
  issued : id < p.host.nextScope
  context : ∀ scope ∈ (p.host.slots place).opened, scope.1 = id → scope.2 = some ctx

theorem Keeps.step (h : Keeps place id ctx p) (hstep : p.step a = some (e, q)) :
    Keeps place id ctx q := by
  cases step_conduct hstep with
  | rests hmade hgiven hhost hheld =>
    constructor
    · rw [hhost]
      exact h.issued
    · rw [hhost]
      exact h.context
  | enters store site c holder hmade hgiven hplace hhost hheld hworks =>
    constructor
    · rw [hhost]
      exact Nat.lt_succ_of_lt h.issued
    · intro scope hscope hid
      rw [hhost, Host.slots_enter] at hscope
      split at hscope
      · rw [Slot.opened_enter] at hscope
        rcases List.mem_cons.mp hscope with rfl | hscope
        · exact absurd hid (Nat.ne_of_gt h.issued)
        · exact h.context scope hscope hid
      · exact h.context scope hscope hid
  | releases s store site hs hmade hgiven hplace hhost hheld hfault =>
    constructor
    · rw [hhost]
      exact h.issued
    · intro scope hscope hid
      rw [hhost, Host.slots_tryRelease] at hscope
      split at hscope
      · rw [Slot.opened_close] at hscope
        exact h.context scope (List.mem_of_mem_eraseP hscope) hid
      · exact h.context scope hscope hid

theorem Keeps.run (h : Keeps place id ctx p) (hrun : Run p t q) : Keeps place id ctx q := by
  induction hrun with
  | refl => exact h
  | snoc hrun hstep ih => exact ih.step hstep

theorem Keeps.current (h : Keeps place id ctx p) (hinner : (p.host.slots place).ids.head? = some id) :
    (p.host.slots place).current = some ctx := by
  rw [Slot.ids_eq, List.head?_map] at hinner
  obtain ⟨newest, hhead, hid⟩ := Option.map_eq_some_iff.mp hinner
  obtain ⟨older, hopened⟩ := List.head?_eq_some_iff.mp hhead
  rw [Slot.current_eq, hopened]
  exact h.context newest (hopened ▸ List.mem_cons_self) hid

section Request

variable {σ : Type} (c : Component σ) (headers : Headers) (store : Store) (site : Site) (s : σ)

theorem slots_openRequest :
    let opened := p.openRequest c headers store site s
    opened.2.2.2.host.slots (store.place site) =
      (p.host.slots (store.place site)).enter opened.2.1.id opened.1.context :=
  (p.host.slots_enter store site _ _).trans (if_pos rfl)

theorem keeps_openRequest {base : Place → Option SpanContext} (hledger : Ledger base t p) :
    let opened := p.openRequest c headers store site s
    Keeps (store.place site) opened.2.1.id opened.1.context opened.2.2.2 := by
  constructor
  · exact Nat.lt_succ_self _
  · intro scope hscope hid
    rw [slots_openRequest, Slot.opened_enter] at hscope
    rcases List.mem_cons.mp hscope with rfl | hold
    · rfl
    · have hmem : p.host.nextScope ∈ (p.host.slots (store.place site)).ids := by
        rw [Slot.ids_eq]
        exact List.mem_map.mpr ⟨scope, hold, hid⟩
      exact absurd ((hledger.opened _ _).mp hmem).1 (hledger.fresh _).1

/-- Where the scope of a request is the innermost one, its context is current for either store. -/
theorem current_of_innermost {base : Place → Option SpanContext} (hledger : Ledger base t p)
    {t' : List Event} (hafter : Run (p.openRequest c headers store site s).2.2.2 t' q)
    (hinner : (q.host.slots (store.place site)).ids.head? =
      some (p.openRequest c headers store site s).2.1.id)
    {store' : Store} {site' : Site} (hplace : store'.place site' = store.place site) :
    q.host.current store' site' = some (p.openRequest c headers store site s).1.context := by
  have hkeeps := (keeps_openRequest c headers store site s hledger).run hafter
  show (q.host.slots (store'.place site')).current = _
  rw [hplace]
  exact hkeeps.current hinner

theorem innermost_of_nests {t' : List Event}
    (hnests : Nests (store.place site) (p.openRequest c headers store site s).2.2.2 t' q) :
    (q.host.slots (store.place site)).ids.head? =
      some (p.openRequest c headers store site s).2.1.id := by
  rw [hnests.slots, slots_openRequest, Slot.ids_enter, List.head?_cons]

end Request

/-- What holds in the scope of a request, in every state that can follow its opening. -/
structure RootsRecords (place : Place) (a : Arrival) (handle : Handle) (opened : Program) :
    Prop where
  innermost : ∀ t q, Run opened t q → (q.host.slots place).ids.head? = some handle.id →
    ∀ store site, store.place site = place →
      q.host.current store site = some a.context ∧ a.Rooted (q.host.current store site)
  /-- Nested scopes give the place back to the request, and other places do not matter. -/
  nested : ∀ t q, Nests place opened t q → Run opened t q ∧
    (q.host.slots place).ids.head? = some handle.id ∧
      ∀ store site, store.place site = place → a.Rooted (q.host.current store site)

theorem request_roots_records {σ : Type} {c : Component σ} (hz : c.ids.NeverZero)
    {base : Place → Option SpanContext} {issued : Nat}
    (hrun : Run { host := .resting base issued } t p) (headers : Headers) (store : Store)
    (site : Site) (s : σ) :
    let opened := p.openRequest c headers store site s
    (∃ e, p.step (.enter store site opened.1.context) = some (e, opened.2.2.2)) ∧
      RootsRecords (store.place site) opened.1 opened.2.1 opened.2.2.2 := by
  intro opened
  have hrooted : opened.1.Rooted (some opened.1.context) := c.rooted_receive hz headers s
  refine ⟨⟨_, rfl⟩, ?_, ?_⟩
  · intro t' q hafter hinner store' site' hplace
    have hcurrent := current_of_innermost c headers store site s hrun.ledger hafter hinner hplace
    rw [hcurrent]
    exact ⟨rfl, hrooted⟩
  · intro t' q hnests
    have hinner := innermost_of_nests c headers store site s hnests
    refine ⟨hnests.run, hinner, ?_⟩
    intro store' site' hplace
    rw [current_of_innermost c headers store site s hrun.ledger hnests.run hinner hplace]
    exact hrooted

/-- In the scope of a request, opened inside another scope, work runs and is left again. -/
theorem request_roots_records_of_work :
    let c : Component UInt64 := { settings := {}, ids := .scrambled }
    let other : SpanContext := { trace := .ofNat 16 1, span := .ofNat 8 1 }
    let main : Site := ⟨"main", []⟩
    ∃ t p, Run { host := .resting (fun _ => none) 0 } t p ∧ c.ids.NeverZero ∧
      let opened := p.openRequest c .empty .thread main 1
      RootsRecords (.thread "main") opened.1 opened.2.1 opened.2.2.2 ∧
        ∃ t' q, Nests (.thread "main") opened.2.2.2 t' q ∧
          t'.map (·.action) = [.start .task main other, .enter .thread ⟨"worker", []⟩ other,
            .leave 0 3 main] ∧ opened.1.Rooted (q.host.current .task main) := by
  intro c other main
  let entered := (Host.resting (fun _ => none) 0).enter .thread main other
  let before : Program := { host := entered.2, held := [⟨entered.1, .code, .thread "main"⟩] }
  have hrun : Run { host := .resting (fun _ => none) 0 } _ before := .snoc .refl
    (rfl : step _ (.enter .thread main other) = _)
  obtain ⟨-, hroots⟩ :=
    request_roots_records (c := c) IdSource.neverZero_scrambled hrun .empty .thread main 1
  have hnests : Nests (.thread "main") (before.openRequest c .empty .thread main 1).2.2.2 _ _ :=
    .nested (.refl _) (rfl : step _ (.start .task main other) = _) rfl rfl
      (.apart (.refl _) (rfl : step _ (.enter .thread ⟨"worker", []⟩ other) = _)
        fun htouches => absurd htouches.2 (by decide))
      (rfl : step _ (.leave 0 3 main) = _) rfl rfl
  exact ⟨_, _, hrun, IdSource.neverZero_scrambled, hroots, _, _, hnests, rfl,
    (hroots.nested _ _ hnests).2.2 .task main rfl⟩

end TraceIdentity.Program
