/-!
# Tables keyed by text

A table holds each key once, in ascending order, so that two tables with the
same look-ups are equal. `insert` replaces a value and `fill` keeps the one that
is there.
-/
namespace TraceIdentity

/-- Values under distinct keys, in ascending order of the keys. -/
structure Table (α : Type) where
  entries : List (String × α)
  sorted : entries.Pairwise (fun a b => a.1 < b.1)
  deriving DecidableEq, Repr

namespace Table

variable {α : Type}

def empty : Table α :=
  ⟨[], .nil⟩

instance : Inhabited (Table α) :=
  ⟨empty⟩

/-- Put `v` under `k` into an ascending list. -/
def place (k : String) (v : α) : List (String × α) → List (String × α)
  | [] => [(k, v)]
  | e :: es =>
    if k < e.1 then (k, v) :: e :: es
    else if k = e.1 then (k, v) :: es
    else e :: place k v es

private theorem mem_place {k : String} {v : α} {es : List (String × α)} {e : String × α}
    (h : e ∈ place k v es) : e = (k, v) ∨ e ∈ es := by
  induction es with
  | nil => simp_all [place]
  | cons d es ih =>
    simp only [place] at h
    split at h
    · simpa using h
    · split at h
      · rcases List.mem_cons.mp h with h | h <;> simp [h]
      · rcases List.mem_cons.mp h with h | h
        · simp [h]
        · rcases ih h with h | h <;> simp [h]

private theorem place_sorted (k : String) (v : α) (es : List (String × α))
    (h : es.Pairwise (fun a b => a.1 < b.1)) :
    (place k v es).Pairwise (fun a b => a.1 < b.1) := by
  induction es with
  | nil => simp [place]
  | cons e es ih =>
    obtain ⟨he, hes⟩ := List.pairwise_cons.mp h
    simp only [place]
    split
    · next hk =>
      refine List.pairwise_cons.mpr ⟨fun d hd => ?_, h⟩
      rcases List.mem_cons.mp hd with rfl | hd
      · exact hk
      · exact String.lt_trans hk (he d hd)
    · split
      · next hk => exact List.pairwise_cons.mpr ⟨fun d hd => hk ▸ he d hd, hes⟩
      · next hlt hne =>
        refine List.pairwise_cons.mpr ⟨fun d hd => ?_, ih hes⟩
        rcases mem_place hd with rfl | hd
        · exact String.not_le.mp fun hle => hne (String.le_antisymm hle (String.not_lt.mp hlt))
        · exact he d hd

def find? (t : Table α) (k : String) : Option α :=
  t.entries.lookup k

def contains (t : Table α) (k : String) : Bool :=
  (t.find? k).isSome

/-- Put `v` under `k`, in place of what was there. -/
def insert (t : Table α) (k : String) (v : α) : Table α :=
  ⟨place k v t.entries, place_sorted k v t.entries t.sorted⟩

/-- Put `v` under `k` unless `k` has a value. -/
def fill (t : Table α) (k : String) (v : α) : Table α :=
  if t.contains k then t else t.insert k v

/-- Insert in order, so that the last of several values under one key stays. -/
def ofList (es : List (String × α)) : Table α :=
  es.foldl (fun t e => t.insert e.1 e.2) empty

/-- Fill in order, so that what is there and the first of several values stay. -/
def fillAll (t : Table α) (es : List (String × α)) : Table α :=
  es.foldl (fun t e => t.fill e.1 e.2) t

@[simp] theorem find?_empty (k : String) : (empty : Table α).find? k = none := rfl

theorem lookup_cons (j : String) (e : String × α) (es : List (String × α)) :
    (e :: es).lookup j = if j = e.1 then some e.2 else es.lookup j := by
  obtain ⟨k, v⟩ := e
  by_cases h : j = k
  · simp [h]
  · have hb : (j == k) = false := by simp [h]
    rw [if_neg h]
    exact List.lookup_cons.trans (by rw [hb])

private theorem lookup_place (k j : String) (v : α) (es : List (String × α)) :
    (place k v es).lookup j = if j = k then some v else es.lookup j := by
  induction es with
  | nil => simp [place, lookup_cons]
  | cons e es ih =>
    simp only [place]
    split
    · simp [lookup_cons]
    · split
      · next he => by_cases h : j = e.1 <;> simp [lookup_cons, he, h]
      · next hne =>
        rw [lookup_cons, lookup_cons, ih]
        by_cases h : j = e.1
        · simp [h, Ne.symm hne]
        · simp [h]

@[simp] theorem find?_insert (t : Table α) (k j : String) (v : α) :
    (t.insert k v).find? j = if j = k then some v else t.find? j :=
  lookup_place k j v t.entries

theorem find?_fill (t : Table α) (k j : String) (v : α) :
    (t.fill k v).find? j = if j = k then some ((t.find? k).getD v) else t.find? j := by
  unfold fill contains
  cases h : t.find? k with
  | none => simp
  | some w => by_cases hj : j = k <;> simp [hj, h]

end Table

end TraceIdentity
