import TraceIdentity.Proofs.Ids
import TraceIdentity.Proofs.Record.Stamp
/-!
# Records that are stamped again and again

A record may be handed from scope to scope and stamped in each. Stamps only fill gaps: the
first valid context decides the operation, each property has the value of the first context
that has one, and no stamp changes what an earlier one or the maker of the record wrote.
-/
namespace TraceIdentity

namespace Operation

variable {o : Operation}

theorem exists_id_of_idIsEmpty (h : o.idIsEmpty = false) : ∃ id, o.id = some id ∧ id ≠ "" := by
  cases hid : o.id with
  | none => simp [idIsEmpty, hid] at h
  | some id => exact ⟨id, rfl, by simpa [idIsEmpty, hid] using h⟩

theorem exists_id_stamp (o : Operation) (c : SpanContext) :
    ∃ id, (o.stamp c).id = some id ∧ id ≠ "" := by
  cases hempty : o.idIsEmpty with
  | false =>
    rw [stamp, hempty, if_neg Bool.false_ne_true]
    exact exists_id_of_idIsEmpty hempty
  | true =>
    rw [stamp, if_pos hempty]
    exact ⟨c.trace.toHex, rfl, c.trace.toHex_ne_empty⟩

theorem parentId_stamp {parent : String} (hparent : o.parentId = some parent) (hne : parent ≠ "")
    (c : SpanContext) : (o.stamp c).parentId = some parent := by
  have hfull : o.parentIsEmpty = false := by simp [parentIsEmpty, hparent, hne]
  rw [stamp, hfull, if_neg Bool.false_ne_true]
  split <;> exact hparent

end Operation

namespace Record

variable {β : Type} [HasKind β]

/-- Stamp a record once for each context, in order. -/
def stampAll (r : Record β) (currents : List (Option SpanContext)) : Record β :=
  currents.foldl stamp r

/-- All that `r` says stands in `s`. A log line or an error has the same properties, too. -/
structure KeptBy (r s : Record β) : Prop where
  body : s.body = r.body
  id : ∀ id, r.operation.id = some id → id ≠ "" → s.operation.id = some id
  parent_of_id : ∀ id, r.operation.id = some id → id ≠ "" →
    s.operation.parentId = r.operation.parentId
  parent : ∀ parent, r.operation.parentId = some parent → parent ≠ "" →
    s.operation.parentId = some parent
  property : ∀ key value, r.properties.find? key = some value → s.properties.find? key = some value
  no_properties : r.kind = .trace ∨ r.kind = .exception → s.properties = r.properties

/-- What becomes of a record that is stamped under each of these contexts. -/
structure Filled (r : Record β) (currents : List (Option SpanContext)) : Prop where
  kept : r.KeptBy (r.stampAll currents)
  first_valid : ∀ before c after, currents = before ++ some c :: after → c.isValid = true →
    (∀ d, some d ∈ before → d.isValid = false) →
      (r.stampAll currents).operation = (r.stampAll (before ++ [some c])).operation ∧
        (r.stampAll (before ++ [some c])).operation = (r.stamp (some c)).operation
  gained : r.kind.carriesTraceState = true → ∀ key,
    (r.stampAll currents).properties.find? key = (r.properties.find? key).or
      (currents.findSome? fun current =>
        (current.filter SpanContext.isValid).bind (·.state.find? key))
  idle : ∀ current : Option SpanContext, (∀ c, current = some c → c.trace.isZero = true) →
    (r.stampAll currents).stamp current = r.stampAll currents
  again : ∀ current ∈ currents, (r.stampAll currents).stamp current = r.stampAll currents

section Kept

variable {r s t : Record β}

theorem KeptBy.refl (r : Record β) : r.KeptBy r :=
  ⟨rfl, fun _ hid _ => hid, fun _ _ _ => rfl, fun _ hp _ => hp, fun _ _ hv => hv, fun _ => rfl⟩

theorem KeptBy.kind_eq (h : r.KeptBy s) : s.kind = r.kind :=
  congrArg HasKind.kind h.body

theorem KeptBy.trans (hrs : r.KeptBy s) (hst : s.KeptBy t) : r.KeptBy t where
  body := hst.body.trans hrs.body
  id id hid hne := hst.id id (hrs.id id hid hne) hne
  parent_of_id id hid hne :=
    (hst.parent_of_id id (hrs.id id hid hne) hne).trans (hrs.parent_of_id id hid hne)
  parent p hp hne := hst.parent p (hrs.parent p hp hne) hne
  property key value hv := hst.property key value (hrs.property key value hv)
  no_properties hkind :=
    (hst.no_properties (hrs.kind_eq ▸ hkind)).trans (hrs.no_properties hkind)

end Kept

section Step

variable (r : Record β)

theorem valid_or_none (current : Option SpanContext) :
    (∃ c, current = some c ∧ c.isValid = true) ∨ current.filter SpanContext.isValid = none := by
  cases current with
  | none => exact .inr rfl
  | some c =>
    cases hv : c.isValid with
    | true => exact .inl ⟨c, rfl, hv⟩
    | false => exact .inr (by rw [Option.filter_some, hv, if_neg Bool.false_ne_true])

theorem stamp_of_none {current : Option SpanContext}
    (hnone : current.filter SpanContext.isValid = none) : r.stamp current = r := by
  rw [stamp, hnone]

theorem keptBy_stamp (current : Option SpanContext) : r.KeptBy (r.stamp current) := by
  obtain ⟨c, rfl, hv⟩ | hnone := valid_or_none current
  case inr =>
    rw [r.stamp_of_none hnone]
    exact .refl r
  have hoperation := operation_stamp_of_isValid hv r
  constructor
  case body => exact r.body_stamp _
  case id =>
    intro id hid hne
    rw [hoperation, Operation.stamp_of_id hid hne, hid]
  case parent_of_id =>
    intro id hid hne
    rw [hoperation, Operation.stamp_of_id hid hne]
  case parent =>
    intro parent hparent hne
    rw [hoperation, Operation.parentId_stamp hparent hne]
  case property =>
    intro key value hvalue
    cases hk : r.kind.carriesTraceState with
    | false => rw [properties_stamp_of_not_carries hk, hvalue]
    | true => rw [find?_properties_stamp hv hk, hvalue, Option.some_or]
  case no_properties =>
    intro hkind
    apply properties_stamp_of_not_carries
    rcases hkind with hkind | hkind <;> rw [hkind] <;> rfl

end Step

section Complete

variable {r s : Record β} {c : SpanContext}

theorem complete_stamp (hv : c.isValid = true) (r : Record β) : (r.stamp (some c)).Complete c := by
  constructor
  · rw [operation_stamp_of_isValid hv]
    exact r.operation.exists_id_stamp c
  · intro hk key value hvalue
    rw [(r.keptBy_stamp _).kind_eq] at hk
    rw [find?_properties_stamp hv hk, hvalue]
    cases r.properties.find? key with
    | none => exact ⟨value, rfl⟩
    | some own => exact ⟨own, rfl⟩

theorem Complete.keptBy (h : r.Complete c) (hkept : r.KeptBy s) : s.Complete c := by
  constructor
  · obtain ⟨id, hid, hne⟩ := h.id
    exact ⟨id, hkept.id id hid hne, hne⟩
  · intro hk key value hvalue
    rw [hkept.kind_eq] at hk
    obtain ⟨own, hown⟩ := h.property hk key value hvalue
    exact ⟨own, hkept.property key own hown⟩

end Complete

section Run

variable (r : Record β) (currents : List (Option SpanContext))

theorem stampAll_cons (current : Option SpanContext) :
    r.stampAll (current :: currents) = (r.stamp current).stampAll currents := rfl

theorem stampAll_append (later : List (Option SpanContext)) :
    r.stampAll (currents ++ later) = (r.stampAll currents).stampAll later :=
  List.foldl_append

theorem keptBy_stampAll : r.KeptBy (r.stampAll currents) := by
  induction currents generalizing r with
  | nil => exact .refl r
  | cons current rest ih => exact (r.keptBy_stamp current).trans (ih (r.stamp current))

theorem stampAll_of_idle (hidle : ∀ c, some c ∈ currents → c.isValid = false) :
    r.stampAll currents = r := by
  induction currents with
  | nil => rfl
  | cons current rest ih =>
    have hrest : r.stampAll rest = r := ih fun c hc => hidle c (List.mem_cons_of_mem _ hc)
    rw [stampAll_cons]
    cases current with
    | none => exact hrest
    | some c => rw [stamp_of_not_isValid (hidle c List.mem_cons_self), hrest]

theorem operation_stampAll_of_id {id : String} (hid : r.operation.id = some id) (hne : id ≠ "") :
    (r.stampAll currents).operation = r.operation := by
  have hkept := r.keptBy_stampAll currents
  calc (r.stampAll currents).operation
      = ⟨(r.stampAll currents).operation.id, (r.stampAll currents).operation.parentId⟩ := rfl
    _ = ⟨r.operation.id, r.operation.parentId⟩ := by
        rw [hkept.id id hid hne, hkept.parent_of_id id hid hne, hid]

theorem find?_properties_stampAll (hk : r.kind.carriesTraceState = true) (key : String) :
    (r.stampAll currents).properties.find? key = (r.properties.find? key).or
      (currents.findSome? fun current =>
        (current.filter SpanContext.isValid).bind (·.state.find? key)) := by
  induction currents generalizing r with
  | nil => exact Option.or_none.symm
  | cons current rest ih =>
    have hk' : (r.stamp current).kind.carriesTraceState = true := by
      rw [(r.keptBy_stamp current).kind_eq, hk]
    rw [stampAll_cons, ih _ hk', List.findSome?_cons]
    obtain ⟨c, rfl, hv⟩ | hnone := valid_or_none current
    · rw [find?_properties_stamp hv hk, Option.or_assoc, Option.filter_some, if_pos hv,
        Option.bind_some]
      cases c.state.find? key <;> rfl
    · rw [r.stamp_of_none hnone, hnone, Option.bind_none]

/-- The record has nothing to gain from a context that it was stamped under. -/
theorem stamp_stampAll_of_mem {current : Option SpanContext} (hmem : current ∈ currents) :
    (r.stampAll currents).stamp current = r.stampAll currents := by
  obtain ⟨c, rfl, hv⟩ | hnone := valid_or_none current
  · obtain ⟨before, after, rfl⟩ := List.append_of_mem hmem
    rw [stampAll_append, stampAll_cons]
    have hcomplete := complete_stamp hv (r.stampAll before)
    exact (hcomplete.keptBy (keptBy_stampAll _ after)).stamp_eq
  · exact stamp_of_none _ hnone

/-- What a stamp at any time leaves, adds and does not repeat. -/
theorem filled (r : Record β) (currents : List (Option SpanContext)) : r.Filled currents := by
  constructor
  case kept => exact r.keptBy_stampAll currents
  case first_valid =>
    rintro before c after rfl hv hbefore
    have hfirst : r.stampAll (before ++ [some c]) = r.stamp (some c) := by
      rw [stampAll_append, r.stampAll_of_idle before hbefore]
      rfl
    obtain ⟨id, hid, hne⟩ := r.operation.exists_id_stamp c
    rw [← operation_stamp_of_isValid hv] at hid
    refine ⟨?_, congrArg operation hfirst⟩
    rw [List.append_cons, stampAll_append, hfirst]
    exact operation_stampAll_of_id _ after hid hne
  case gained => exact r.find?_properties_stampAll currents
  case idle =>
    intro current hzero
    apply stamp_of_none
    rw [Option.filter_eq_none_iff]
    intro c hc
    simp [SpanContext.isValid, hzero c hc]
  case again =>
    intro current hmem
    exact r.stamp_stampAll_of_mem currents hmem

end Run

section Wrapped

variable {γ : Type} [HasKind γ] (f : β → γ)

theorem stamp_map (hf : ∀ b, HasKind.kind (f b) = HasKind.kind b) (r : Record β)
    (current : Option SpanContext) : (r.map f).stamp current = (r.stamp current).map f := by
  have hkind : (r.map f).kind = r.kind := hf r.body
  unfold stamp
  split
  · rw [stampWith, hkind]
    rfl
  · rfl

theorem stampAll_map (hf : ∀ b, HasKind.kind (f b) = HasKind.kind b) (r : Record β)
    (currents : List (Option SpanContext)) :
    (r.map f).stampAll currents = (r.stampAll currents).map f := by
  induction currents generalizing r with
  | nil => rfl
  | cons current rest ih => rw [stampAll_cons, stamp_map f hf, ih, stampAll_cons]

end Wrapped

/-- Records of any kind are filled in by stamps, as themselves and as one of several kinds. -/
theorem stamps_fill_gaps (currents : List (Option SpanContext)) :
    (∀ (β : Type) [HasKind β] (r : Record β), r.Filled currents) ∧
      (∀ r : Record Request,
        (r.map Body.request).stampAll currents = (r.stampAll currents).map Body.request) ∧
      (∀ r : Record Dependency,
        (r.map Body.dependency).stampAll currents = (r.stampAll currents).map Body.dependency) ∧
      (∀ r : Record Trace,
        (r.map Body.trace).stampAll currents = (r.stampAll currents).map Body.trace) ∧
      ∀ r : Record Exception,
        (r.map Body.exception).stampAll currents = (r.stampAll currents).map Body.exception := by
  refine ⟨fun β _ r => r.filled currents, ?_, ?_, ?_, ?_⟩
  · exact fun r => stampAll_map Body.request (fun _ => rfl) r currents
  · exact fun r => stampAll_map Body.dependency (fun _ => rfl) r currents
  · exact fun r => stampAll_map Body.trace (fun _ => rfl) r currents
  · exact fun r => stampAll_map Body.exception (fun _ => rfl) r currents

end Record

end TraceIdentity
