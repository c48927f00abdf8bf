import TraceIdentity.Table
/-!
# Tables as look-ups

A table is determined by its look-ups, and filling or inserting a list is known
by what a look-up finds afterwards: the first value under a key when filling,
the last when inserting.
-/
namespace TraceIdentity.Table

variable {α : Type}

private theorem lookup_of_lt (k : String) (es : List (String × α)) (h : ∀ e ∈ es, k < e.1) :
    es.lookup k = none := by
  induction es with
  | nil => rfl
  | cons e es ih =>
    have hne : k ≠ e.1 := fun he => String.lt_irrefl k (he ▸ h e (by simp))
    rw [lookup_cons, if_neg hne]
    exact ih fun d hd => h d (List.mem_cons_of_mem _ hd)

private theorem head_not_lt (e d : String × α) (es ds : List (String × α))
    (hd : ∀ x ∈ ds, d.1 < x.1) (h : (e :: es).lookup e.1 = (d :: ds).lookup e.1) :
    ¬ e.1 < d.1 := by
  intro hlt
  have hn : (d :: ds).lookup e.1 = none := by
    apply lookup_of_lt
    intro x hx
    rcases List.mem_cons.mp hx with rfl | hx
    · exact hlt
    · exact String.lt_trans hlt (hd x hx)
  rw [hn, lookup_cons, if_pos rfl] at h
  exact absurd h (by simp)

private theorem eq_of_lookup (es ds : List (String × α))
    (hes : es.Pairwise (fun a b => a.1 < b.1)) (hds : ds.Pairwise (fun a b => a.1 < b.1))
    (h : ∀ k, es.lookup k = ds.lookup k) : es = ds := by
  induction es generalizing ds with
  | nil =>
    cases ds with
    | nil => rfl
    | cons d ds =>
      have := h d.1
      rw [lookup_cons, if_pos rfl] at this
      exact absurd this (by simp)
  | cons e es ih =>
    cases ds with
    | nil =>
      have := h e.1
      rw [lookup_cons, if_pos rfl] at this
      exact absurd this (by simp)
    | cons d ds =>
      obtain ⟨he, hes⟩ := List.pairwise_cons.mp hes
      obtain ⟨hd, hds⟩ := List.pairwise_cons.mp hds
      have hk : e.1 = d.1 := String.le_antisymm
        (String.not_lt.mp (head_not_lt d e ds es he (h d.1).symm))
        (String.not_lt.mp (head_not_lt e d es ds hd (h e.1)))
      have hv := h e.1
      rw [lookup_cons, lookup_cons, if_pos rfl, if_pos hk] at hv
      have htail : es = ds := by
        refine ih ds hes hds fun k => ?_
        by_cases hke : k = e.1
        · rw [hke, lookup_of_lt _ es he, lookup_of_lt _ ds (hk ▸ hd)]
        · have := h k
          rwa [lookup_cons, lookup_cons, if_neg hke, if_neg (hk ▸ hke)] at this
      rw [htail, Prod.ext hk (Option.some.inj hv)]

theorem ext_find? {t u : Table α} (h : ∀ k, t.find? k = u.find? k) : t = u := by
  obtain ⟨es, hes⟩ := t
  obtain ⟨ds, hds⟩ := u
  have : es = ds := eq_of_lookup es ds hes hds h
  subst this
  rfl

theorem find?_fillAll (t : Table α) (es : List (String × α)) (k : String) :
    (t.fillAll es).find? k = (t.find? k).or (es.lookup k) := by
  induction es generalizing t with
  | nil => simp [fillAll]
  | cons e es ih =>
    have hstep : t.fillAll (e :: es) = (t.fill e.1 e.2).fillAll es := rfl
    rw [hstep, ih, find?_fill, lookup_cons]
    by_cases hk : k = e.1
    · subst hk
      cases t.find? e.1 <;> simp
    · simp [hk]

/-- What is there stays, and what is missing is taken from the other table. -/
theorem find?_fillAll_entries (t u : Table α) (k : String) :
    (t.fillAll u.entries).find? k = (t.find? k).or (u.find? k) :=
  find?_fillAll t u.entries k

private theorem lookup_append (es ds : List (String × α)) (k : String) :
    (es ++ ds).lookup k = (es.lookup k).or (ds.lookup k) := by
  induction es with
  | nil => simp
  | cons e es ih =>
    rw [List.cons_append, lookup_cons, lookup_cons, ih]
    by_cases hk : k = e.1 <;> simp [hk]

private theorem lookup_reverse (k : String) (es : List (String × α))
    (h : es.Pairwise (fun a b => a.1 < b.1)) : es.reverse.lookup k = es.lookup k := by
  induction es with
  | nil => rfl
  | cons e es ih =>
    obtain ⟨he, hes⟩ := List.pairwise_cons.mp h
    rw [List.reverse_cons, lookup_append, ih hes, lookup_cons, lookup_cons]
    by_cases hk : k = e.1
    · rw [hk, lookup_of_lt e.1 es he]
      simp
    · simp [hk]

theorem find?_foldl_insert (t : Table α) (es : List (String × α)) (k : String) :
    (es.foldl (fun t e => t.insert e.1 e.2) t).find? k = (es.reverse.lookup k).or (t.find? k) := by
  induction es generalizing t with
  | nil => simp
  | cons e es ih =>
    rw [List.foldl_cons, ih, find?_insert, List.reverse_cons, lookup_append]
    by_cases hk : k = e.1
    · rw [if_pos hk, lookup_cons, if_pos hk]
      cases es.reverse.lookup k <;> simp
    · rw [if_neg hk, lookup_cons, if_neg hk]
      cases es.reverse.lookup k <;> simp

@[simp] theorem find?_ofList (es : List (String × α)) (k : String) :
    (ofList es).find? k = es.reverse.lookup k := by
  simp [ofList, find?_foldl_insert]

theorem lookup_eq_some_iff {es : List (String × α)} (h : (es.map Prod.fst).Nodup) {k : String}
    {v : α} : es.lookup k = some v ↔ (k, v) ∈ es := by
  induction es with
  | nil => simp
  | cons e es ih =>
    obtain ⟨hfresh, hes⟩ := List.nodup_cons.mp h
    rw [lookup_cons, List.mem_cons]
    by_cases hk : k = e.1
    · subst hk
      have hout : (e.1, v) ∉ es := fun hmem => hfresh (List.mem_map.mpr ⟨_, hmem, rfl⟩)
      simp [hout, Prod.ext_iff, eq_comm]
    · simp [hk, ih hes, Prod.ext_iff]

theorem find?_ofList_eq_some_iff {es : List (String × α)} (h : (es.map Prod.fst).Nodup)
    {k : String} {v : α} : (ofList es).find? k = some v ↔ (k, v) ∈ es := by
  have hreverse := ((List.reverse_perm es).map Prod.fst).nodup_iff.mpr h
  rw [find?_ofList, lookup_eq_some_iff hreverse, List.mem_reverse]

/-- Under distinct keys the order of the entries makes no difference. -/
theorem ofList_perm {es ds : List (String × α)} (hperm : es.Perm ds)
    (h : (es.map Prod.fst).Nodup) : ofList es = ofList ds := by
  have hds := (hperm.map Prod.fst).nodup_iff.mp h
  apply ext_find?
  intro k
  apply Option.ext
  intro v
  rw [find?_ofList_eq_some_iff h, find?_ofList_eq_some_iff hds, hperm.mem_iff]

@[simp] theorem ofList_entries (t : Table α) : ofList t.entries = t := by
  apply ext_find?
  intro k
  rw [find?_ofList]
  exact lookup_reverse k t.entries t.sorted

end TraceIdentity.Table
