import TraceIdentity.Proofs.Json
import TraceIdentity.Record.Format
/-!
# Reading written records

What is written for a record, an operation or an outcome is read as the same again. An object
is read as a record exactly if it states all that the record has, and to write that record is
to bring the object into a normal form: known fields only, in a fixed order, and none null.
-/
namespace TraceIdentity
open Json

namespace Operation

theorem ofJson?_iff {j : Json} {o : Operation} :
    ofJson? j = some o ↔ ∃ fields, j.fields? fieldNames = some fields ∧ States fields o.fields := by
  simp only [ofJson?, bind, pure, Option.bind_eq_some_iff, Option.some.injEq,
    optional_iff string?_inverts]
  constructor
  · rintro ⟨fields, hfields, id, hid, parentId, hparent, rfl⟩
    exact ⟨fields, hfields, states_cons.mpr ⟨hid, states_cons.mpr ⟨hparent, states_nil _⟩⟩⟩
  · rintro ⟨fields, hfields, hstates⟩
    obtain ⟨hid, hparent, -⟩ := (states_cons.trans (and_congr_right' states_cons)).mp hstates
    exact ⟨fields, hfields, _, hid, _, hparent, rfl⟩

theorem names_fields (o : Operation) : o.fields.map Prod.fst = fieldNames := rfl

theorem null_not_mem_fields (o : Operation) (name : String) : (name, some null) ∉ o.fields := by
  simp [fields, string?_inverts.map_ne_null]

theorem ofJson?_object_iff {fields : List (String × Json)} {o : Operation} :
    ofJson? (object fields) = some o ↔ States fields o.fields := by
  rw [ofJson?_iff]
  constructor
  · rintro ⟨_, hfields, hstates⟩
    obtain rfl := Option.some.inj hfields
    exact hstates
  · intro hstates
    exact ⟨fields, rfl, hstates⟩

theorem ofJson?_toJson (o : Operation) : ofJson? o.toJson = some o := by
  refine ofJson?_object_iff.mpr (states_present ?_ o.null_not_mem_fields)
  rw [names_fields]
  decide

theorem ofJson?_restates {fields fields' : List (String × Json)}
    (h : Restates fieldNames fieldNames fields fields') :
    ofJson? (object fields) = ofJson? (object fields') := by
  apply Option.ext
  intro o
  have hnames : ∀ v ∈ o.fields, v.1 ∈ fieldNames := fun v hv => List.mem_map_of_mem hv
  rw [ofJson?_object_iff, ofJson?_object_iff, h.states_iff hnames]

end Operation

namespace Work.Outcome

theorem ofJson?_toJson (o : Outcome) : ofJson? o.toJson = some o := by
  cases o with
  | completed status =>
    have hstatus : required word?
        [("outcome", string "completed"), ("status_code", word status)] "status_code" =
          some status := word?_word status
    show (required word? _ "status_code").bind (fun s => some (completed s)) = _
    rw [hstatus]
    rfl
  | timedOut => rfl
  | errored message => rfl

theorem ofJson?_perm {fields fields' : List (String × Json)} (h : fields.Perm fields') :
    ofJson? (object fields) = ofJson? (object fields') := by
  show ofFields? fields = ofFields? fields'
  simp only [ofFields?, required, field?_perm h]

end Work.Outcome

namespace Record

/-- The fields of a record of this kind that may be null or absent. -/
def Kind.optionalNames : Kind → List String
  | .request => ["source", "response_code", "success"]
  | .dependency => ["target", "dependency_type"]
  | .trace | .exception => []

/-- The fields of `r` that have a single value. -/
def plainFields (r : Record Body) : List (String × Option Json) :=
  ("type", some r.kind.toJson) :: r.body.fields

/-- An object that states what `r` has, and no more under the names that `r` knows. -/
structure StatedBy (r : Record Body) (fields : List (String × Json)) : Prop where
  plain : States fields r.plainFields
  operation : ∃ j inner, field? fields "operation" = some (some j) ∧
    j.fields? Operation.fieldNames = some inner ∧ States inner r.operation.fields
  properties : (field? fields "properties" = some none ∧ r.properties = .empty) ∨
    ∃ entries : List (String × String), field? fields "properties" =
      some (some (object (entries.map fun e => (e.1, string e.2)))) ∧
        r.properties = .ofList entries

/-- Ways to give a record of this kind again: its fields, those of its operation and the entries
of its properties in other words. -/
inductive Restates (k : Kind) : List (String × Json) → List (String × Json) → Prop where
  | fields {fields fields' : List (String × Json)} :
    Json.Restates ("type" :: k.fieldNames) k.optionalNames fields fields' →
    Restates k fields fields'
  | operation {inner inner' : List (String × Json)} (rest : List (String × Json)) :
    Json.Restates Operation.fieldNames Operation.fieldNames inner inner' →
    Restates k (("operation", object inner) :: rest) (("operation", object inner') :: rest)
  | properties {entries entries' : List (String × Json)} (rest : List (String × Json)) :
    entries.Perm entries' → (entries.map Prod.fst).Nodup →
    Restates k (("properties", object entries) :: rest) (("properties", object entries') :: rest)

theorem Kind.ofName?_eq_some_iff {s : String} {k : Kind} :
    Kind.ofName? s = some k ↔ s = k.name := by
  constructor
  · intro h
    have hname : k.name = s := by simpa using List.find?_some h
    exact hname.symm
  · rintro rfl
    exact Kind.ofName?_name k

theorem Body.ofFields?_iff {k : Kind} {fields : List (String × Json)} {b : Body} :
    Body.ofFields? k fields = some b ↔ HasKind.kind b = k ∧ States fields b.fields := by
  cases k <;>
    simp only [Body.ofFields?, bind, pure, Option.bind_eq_some_iff, Option.some.injEq,
      required_iff string?_inverts, optional_iff string?_inverts, optional_iff word?_inverts,
      optional_iff bool?_inverts]
  case request =>
    constructor
    · rintro ⟨id, hid, name, hname, source, hsource, code, hcode, success, hsuccess, rfl⟩
      exact ⟨rfl, by simp [Body.fields, states_cons, states_nil, *]⟩
    · rintro ⟨hkind, hstates⟩
      cases b with
      | request b =>
        simp only [Body.fields, states_cons] at hstates
        obtain ⟨hid, hname, hsource, hcode, hsuccess, -⟩ := hstates
        exact ⟨_, hid, _, hname, _, hsource, _, hcode, _, hsuccess, rfl⟩
      | _ => cases hkind
  case dependency =>
    constructor
    · rintro ⟨id, hid, name, hname, target, htarget, type, htype, rfl⟩
      exact ⟨rfl, by simp [Body.fields, states_cons, states_nil, *]⟩
    · rintro ⟨hkind, hstates⟩
      cases b with
      | dependency b =>
        simp only [Body.fields, states_cons] at hstates
        obtain ⟨hid, hname, htarget, htype, -⟩ := hstates
        exact ⟨_, hid, _, hname, _, htarget, _, htype, rfl⟩
      | _ => cases hkind
  case trace =>
    constructor
    · rintro ⟨message, hmessage, rfl⟩
      exact ⟨rfl, by simp [Body.fields, states_cons, states_nil, *]⟩
    · rintro ⟨hkind, hstates⟩
      cases b with
      | trace b => exact ⟨_, (states_cons.mp hstates).1, rfl⟩
      | _ => cases hkind
  case exception =>
    constructor
    · rintro ⟨typeName, htype, message, hmessage, rfl⟩
      exact ⟨rfl, by simp [Body.fields, states_cons, states_nil, *]⟩
    · rintro ⟨hkind, hstates⟩
      cases b with
      | exception b =>
        simp only [Body.fields, states_cons] at hstates
        obtain ⟨htype, hmessage, -⟩ := hstates
        exact ⟨_, htype, _, hmessage, rfl⟩
      | _ => cases hkind

theorem ofJson?_object_iff {fields : List (String × Json)} {r : Record Body} :
    ofJson? (object fields) = some r ↔ States fields r.plainFields ∧
      required Operation.ofJson? fields "operation" = some r.operation ∧
        withDefault table? .empty fields "properties" = some r.properties := by
  have hfields : fields? (object fields) = some fields := rfl
  simp only [ofJson?, hfields, bind, pure, Option.bind_eq_some_iff, Option.some.injEq,
    required_iff string?_inverts, Kind.ofName?_eq_some_iff, Body.ofFields?_iff, plainFields,
    states_cons]
  constructor
  · rintro ⟨_, rfl, _, htype, _, rfl, body, ⟨rfl, hbody⟩, operation, hoperation, properties,
      hproperties, rfl⟩
    exact ⟨⟨htype, hbody⟩, hoperation, hproperties⟩
  · rintro ⟨⟨htype, hbody⟩, hoperation, hproperties⟩
    exact ⟨_, rfl, _, htype, _, rfl, _, ⟨rfl, hbody⟩, _, hoperation, _, hproperties, rfl⟩

section Fields

variable (r : Record Body)

theorem names_fields : r.fields.map Prod.fst = "type" :: r.kind.fieldNames := by
  obtain ⟨body, operation, properties⟩ := r
  cases body <;> rfl

theorem nodup_names_fields : (r.fields.map Prod.fst).Nodup := by
  rw [names_fields]
  cases r.kind <;> decide

theorem fields_eq : r.fields = r.plainFields ++
    [("operation", some r.operation.toJson), ("properties", some (ofTable r.properties))] := rfl

theorem plainFields_subset : r.plainFields ⊆ r.fields :=
  List.subset_append_left _ _

theorem mem_names_of_plain {v : String × Option Json} (hv : v ∈ r.plainFields) :
    v.1 ∈ "type" :: r.kind.fieldNames := by
  rw [← names_fields]
  exact List.mem_map_of_mem (r.plainFields_subset hv)

/-- The operation and the properties are not plain, being objects themselves. -/
theorem plain_ne {v : String × Option Json} (hv : v ∈ r.plainFields) :
    v.1 ≠ "operation" ∧ v.1 ≠ "properties" := by
  have hnodup := r.nodup_names_fields
  rw [fields_eq, List.map_append, List.nodup_append] at hnodup
  have hne := hnodup.2.2 v.1 (List.mem_map_of_mem hv)
  exact ⟨hne _ (by simp), hne _ (by simp)⟩

theorem null_not_mem_fields (name : String) : (name, some null) ∉ r.fields := by
  obtain ⟨body, operation, properties⟩ := r
  cases body <;>
    simp [fields, Body.fields, Kind.toJson, Operation.toJson, ofTable, string?_inverts.map_ne_null,
      word?_inverts.map_ne_null, bool?_inverts.map_ne_null]

end Fields

theorem ofJson?_toJson (r : Record Body) : ofJson? r.toJson = some r := by
  have hoperation : field? (present r.fields) "operation" = some (some r.operation.toJson) :=
    field?_present r.nodup_names_fields (by simp [fields])
  have hproperties : field? (present r.fields) "properties" =
      some (some (ofTable r.properties)) :=
    field?_present r.nodup_names_fields (by simp [fields])
  refine ofJson?_object_iff.mpr ⟨?_, ?_, ?_⟩
  · intro v hv
    exact states_present r.nodup_names_fields r.null_not_mem_fields v (r.plainFields_subset hv)
  · rw [required, hoperation]
    exact r.operation.ofJson?_toJson
  · rw [withDefault, hproperties]
    exact table?_ofTable r.properties

section Stated

variable {r : Record Body} {fields fields' : List (String × Json)}

theorem required_operation_iff {o : Operation} :
    required Operation.ofJson? fields "operation" = some o ↔
      ∃ j inner, field? fields "operation" = some (some j) ∧
        j.fields? Operation.fieldNames = some inner ∧ States inner o.fields := by
  simp only [required, Option.bind_eq_some_iff, Operation.ofJson?_iff]
  constructor
  · rintro ⟨_, hfield, j, rfl, inner, hinner, hstates⟩
    exact ⟨j, inner, hfield, hinner, hstates⟩
  · rintro ⟨j, inner, hfield, hinner, hstates⟩
    exact ⟨_, hfield, j, rfl, inner, hinner, hstates⟩

theorem withDefault_properties_iff {t : Table String} :
    withDefault table? .empty fields "properties" = some t ↔
      (field? fields "properties" = some none ∧ t = .empty) ∨
        ∃ entries : List (String × String), field? fields "properties" =
          some (some (object (entries.map fun e => (e.1, string e.2)))) ∧ t = .ofList entries := by
  unfold withDefault
  cases field? fields "properties" with
  | none => simp
  | some given =>
    cases given with
    | none => simp [eq_comm]
    | some j => simp [table?_iff]

/-- An object is read as a record exactly if it states what the record has. -/
theorem statedBy_iff : ofJson? (object fields) = some r ↔ r.StatedBy fields := by
  rw [ofJson?_object_iff, required_operation_iff, withDefault_properties_iff]
  constructor
  · rintro ⟨hplain, hoperation, hproperties⟩
    exact ⟨hplain, hoperation, hproperties⟩
  · rintro ⟨hplain, hoperation, hproperties⟩
    exact ⟨hplain, hoperation, hproperties⟩

theorem ofJson?_eq_bind (j : Json) :
    ofJson? j = (fields? j).bind fun fields => ofJson? (object fields) := by
  cases hfields : fields? j with
  | none => rw [ofJson?, hfields]; rfl
  | some fields => rw [ofJson?, hfields]; rfl

theorem ofJson?_restates (h : Restates r.kind fields fields') :
    ofJson? (object fields) = some r ↔ ofJson? (object fields') = some r := by
  have hplain : ∀ v ∈ r.plainFields, v.1 ≠ "operation" ∧ v.1 ≠ "properties" :=
    fun _ hv => r.plain_ne hv
  rw [ofJson?_object_iff, ofJson?_object_iff]
  cases h with
  | fields h =>
    have hoperation : field? fields "operation" = field? fields' "operation" :=
      h.field?_eq (by cases r.kind <;> decide) (by cases r.kind <;> decide)
    have hproperties : field? fields "properties" = field? fields' "properties" :=
      h.field?_eq (by cases r.kind <;> decide) (by cases r.kind <;> decide)
    rw [h.states_iff fun v hv => r.mem_names_of_plain hv, required, hoperation, required,
      withDefault, hproperties, withDefault]
  | operation rest h =>
    rw [states_cons_field_iff fun v hv => (hplain v hv).1,
      states_cons_field_iff fun v hv => (hplain v hv).1,
      required_cons_congr (Operation.ofJson?_restates h), withDefault, withDefault,
      field?_cons_of_ne (by decide), field?_cons_of_ne (by decide)]
  | properties rest hperm hkeys =>
    have htable : table? (object _) = table? (object _) := Option.ext fun t =>
      ⟨table?_perm hperm hkeys, table?_perm hperm.symm ((hperm.map Prod.fst).nodup_iff.mp hkeys)⟩
    rw [states_cons_field_iff fun v hv => (hplain v hv).2,
      states_cons_field_iff fun v hv => (hplain v hv).2,
      withDefault_cons_congr htable, required, required,
      field?_cons_of_ne (by decide), field?_cons_of_ne (by decide)]

end Stated

/-- A normal form of an object that is read as `r`: what it states of a record, in a fixed order and
without nulls. -/
structure Normalised (r : Record Body) (fields : List (String × Json)) : Prop where
  again : ofJson? r.toJson = some r
  kept : r.StatedBy fields ∧ r.StatedBy (present r.fields)
  known : ((present r.fields).map Prod.fst).Sublist ("type" :: r.kind.fieldNames)
  no_null : ∀ f ∈ present r.fields, f.2 ≠ null
  restated : ∀ fields', Restates r.kind fields fields' ∨ Restates r.kind fields' fields →
    ofJson? (object fields') = some r

theorem normalised {r : Record Body} {fields : List (String × Json)}
    (h : ofJson? (object fields) = some r) : r.Normalised fields := by
  constructor
  case again => exact ofJson?_toJson r
  case kept => exact ⟨statedBy_iff.mp h, statedBy_iff.mp (ofJson?_toJson r)⟩
  case known =>
    rw [← names_fields]
    exact names_present_sublist r.fields
  case no_null =>
    rintro ⟨name, j⟩ hf rfl
    exact r.null_not_mem_fields name (mem_present.mp hf)
  case restated =>
    rintro fields' (hrestates | hrestates)
    · exact (ofJson?_restates hrestates).mp h
    · exact (ofJson?_restates hrestates).mpr h

end Record

/-- What is written is read back, is not written for anything else, and is read alike whatever the
order of its fields. -/
structure Json.Exchanges {α : Type} (write : α → Json) (read : Json → Option α) : Prop where
  read_write : ∀ a, read (write a) = some a
  injective : Function.Injective write
  reordered : ∀ fields fields', fields.Perm fields' →
    read (object fields) = read (object fields')

theorem Json.exchanges {α : Type} {write : α → Json} {read : Json → Option α}
    (hread : ∀ a, read (write a) = some a) (hperm : ∀ fields fields', fields.Perm fields' →
      read (object fields) = read (object fields')) : Exchanges write read := by
  refine ⟨hread, ?_, hperm⟩
  intro a b hsame
  have hback := hread a
  rw [hsame, hread b] at hback
  exact (Option.some.inj hback).symm

namespace Record

/-- Records, operations and outcomes survive being written. A record is read from the objects that
state it, and to write it again gives their normal form. -/
theorem format_exact :
    Exchanges toJson ofJson? ∧ Exchanges Operation.toJson Operation.ofJson? ∧
      Exchanges Work.Outcome.toJson Work.Outcome.ofJson? ∧
      (∀ j r, ofJson? j = some r ↔ ∃ fields, fields? j = some fields ∧ r.StatedBy fields) ∧
      ∀ fields r, ofJson? (object fields) = some r → r.Normalised fields := by
  refine ⟨exchanges ofJson?_toJson ?_, exchanges Operation.ofJson?_toJson ?_,
    exchanges Work.Outcome.ofJson?_toJson ?_, ?_, fun _ _ => normalised⟩
  · intro fields fields' hperm
    apply Option.ext
    intro r
    exact ofJson?_restates (.fields (.reordered hperm))
  · intro fields fields' hperm
    exact Operation.ofJson?_restates (.reordered hperm)
  · intro fields fields' hperm
    exact Work.Outcome.ofJson?_perm hperm
  · intro j r
    rw [ofJson?_eq_bind, Option.bind_eq_some_iff]
    simp only [statedBy_iff]

/-- Order, unknown fields and nulls make no difference. -/
example :
    ofJson? (object [("seen", bool true), ("message", string "m"),
      ("operation", object [("parent_id", null), ("id", string "t")]), ("type", string "trace")]) =
      some { body := .trace { message := "m" }, operation := { id := some "t" } } := by
  rfl

end Record

end TraceIdentity
