import TraceIdentity.Proofs.SpanContext.Traceparent
/-!
# The grammar of traceparents

A traceparent is four fields of lowercase digits between exactly three dashes. Any
other text is refused, with the fault of the first field that is wrong, and what is
read is written back as it stood, but for the version.
-/
namespace TraceIdentity.SpanContext
open Text

/-- The texts between three dashes. -/
structure Fields where
  version : List Char
  trace : List Char
  span : List Char
  flags : List Char

namespace Fields

/-- A header that three dashes, and no others, cut into these fields. -/
structure Of (f : Fields) (header : String) : Prop where
  joined : header.toList = f.version ++ '-' :: (f.trace ++ '-' :: (f.span ++ '-' :: f.flags))
  dashless : '-' ∉ f.version ∧ '-' ∉ f.trace ∧ '-' ∉ f.span ∧ '-' ∉ f.flags

/-- Two digits other than the reserved `ff`. -/
def VersionWell (f : Fields) : Prop :=
  Hex.Digits 2 f.version ∧ f.version ≠ ['f', 'f']

structure Well (f : Fields) : Prop where
  version : f.VersionWell
  trace : Hex.NonZero 32 f.trace
  span : Hex.NonZero 16 f.span
  flags : Hex.Digits 2 f.flags

end Fields

/-- A context that holds what the fields say and nothing else. It is written with the same fields,
but for the version. -/
structure Holds (c : SpanContext) (f : Fields) : Prop where
  trace : c.trace.digits = f.trace
  span : c.span.digits = f.span
  flags : c.flags.digits = f.flags
  rest : c.state = {} ∧ c.exportable = true
  written : { f with version := ['0', '0'] }.Of c.traceparent

/-- What the grammar makes of a header: the first check that fails decides the kind of fault. -/
inductive Reads (header : String) : Except Fault.Kind SpanContext → Prop where
  | format : header.toList.count '-' ≠ 3 → Reads header (.error .format)
  | version (f : Fields) : f.Of header → ¬ f.VersionWell → Reads header (.error .version)
  | traceId (f : Fields) : f.Of header → f.VersionWell → ¬ Hex.NonZero 32 f.trace →
    Reads header (.error .traceId)
  | spanId (f : Fields) : f.Of header → f.VersionWell → Hex.NonZero 32 f.trace →
    ¬ Hex.NonZero 16 f.span → Reads header (.error .spanId)
  | flags (f : Fields) : f.Of header → f.VersionWell → Hex.NonZero 32 f.trace →
    Hex.NonZero 16 f.span → ¬ Hex.Digits 2 f.flags → Reads header (.error .flags)
  | context (f : Fields) (c : SpanContext) : f.Of header → f.Well → c.Holds f →
    Reads header (.ok c)

section Framing

variable {f : Fields} {header : String}

theorem Fields.Of.splitOn_eq (h : f.Of header) :
    splitOn '-' header.toList = [f.version, f.trace, f.span, f.flags] := by
  obtain ⟨hversion, htrace, hspan, hflags⟩ := h.dashless
  rw [h.joined, splitOn_append_cons _ _ _ hversion, splitOn_append_cons _ _ _ htrace,
    splitOn_append_cons _ _ _ hspan, splitOn_of_not_mem _ _ hflags]

theorem exists_fields (h : header.toList.count '-' = 3) : ∃ f : Fields, f.Of header := by
  have hlength := length_splitOn '-' header.toList
  have hjoin := intercalate_splitOn '-' header.toList
  have hdash := not_mem_of_mem_splitOn '-' header.toList
  rw [h] at hlength
  match hs : splitOn '-' header.toList, hlength with
  | [version, trace, span, flags], _ =>
    rw [hs] at hjoin hdash
    refine ⟨⟨version, trace, span, flags⟩, ?_, ?_⟩
    · rw [← hjoin]
      simp [List.intercalate_cons_cons]
    · exact ⟨hdash _ (by simp), hdash _ (by simp), hdash _ (by simp), hdash _ (by simp)⟩

theorem Fields.Of.ofTraceparent_eq (h : f.Of header) :
    ofTraceparent header = ofFields f.version f.trace f.span f.flags := by
  rw [ofTraceparent, h.splitOn_eq]

theorem ofTraceparent_of_count (h : header.toList.count '-' ≠ 3) :
    ∃ found, ofTraceparent header = .error (.fieldCount found) := by
  have hlength := length_splitOn '-' header.toList
  unfold ofTraceparent
  split
  · next version trace span flags hs =>
    rw [hs] at hlength
    exact absurd (Nat.succ.inj hlength).symm h
  · exact ⟨_, rfl⟩

/-- The fields that are written for a context. -/
def fields (c : SpanContext) : Fields :=
  ⟨['0', '0'], c.trace.digits, c.span.digits, c.flags.digits⟩

theorem of_traceparent (c : SpanContext) : c.fields.Of c.traceparent := by
  have hdash : Hex.isLowerDigit '-' = false := by decide
  have hversion : '-' ∉ ['0', '0'] := by decide
  refine ⟨c.toList_traceparent, hversion, ?_, ?_, ?_⟩
  · exact c.trace.not_mem_digits hdash
  · exact c.span.not_mem_digits hdash
  · exact c.flags.not_mem_digits hdash

end Framing

section Checks

variable {f : Fields}

theorem isVersion_iff : isVersion f.version = true ↔ f.VersionWell := by
  simp [isVersion, Fields.VersionWell, Hex.isLower_iff]

theorem ofFields_of_version (h : ¬ f.VersionWell) :
    ofFields f.version f.trace f.span f.flags = .error .version := by
  rw [ofFields, if_neg (mt isVersion_iff.mp h)]

theorem ofFields_of_trace (hversion : f.VersionWell) (h : ¬ Hex.NonZero 32 f.trace) :
    ∃ e, ofFields f.version f.trace f.span f.flags = .error e ∧ e.kind = .traceId := by
  obtain ⟨e, he, hkind⟩ := TraceId.ofDigits_of_not_nonZero h
  refine ⟨e, ?_, hkind⟩
  rw [ofFields, if_pos (isVersion_iff.mpr hversion), he]
  rfl

theorem ofFields_of_span (hversion : f.VersionWell) (htrace : Hex.NonZero 32 f.trace)
    (h : ¬ Hex.NonZero 16 f.span) :
    ∃ e, ofFields f.version f.trace f.span f.flags = .error e ∧ e.kind = .spanId := by
  obtain ⟨t, ht, -⟩ := TraceId.ofDigits_of_nonZero htrace
  obtain ⟨e, he, hkind⟩ := SpanId.ofDigits_of_not_nonZero h
  refine ⟨e, ?_, hkind⟩
  rw [ofFields, if_pos (isVersion_iff.mpr hversion), ht, he]
  rfl

theorem ofFields_of_flags (hversion : f.VersionWell) (htrace : Hex.NonZero 32 f.trace)
    (hspan : Hex.NonZero 16 f.span) (h : ¬ Hex.Digits 2 f.flags) :
    ofFields f.version f.trace f.span f.flags = .error .flagsDigits := by
  obtain ⟨t, ht, -⟩ := TraceId.ofDigits_of_nonZero htrace
  obtain ⟨s, hs, -⟩ := SpanId.ofDigits_of_nonZero hspan
  rw [ofFields, if_pos (isVersion_iff.mpr hversion), ht, hs, TraceFlags.ofDigits_of_not_digits h]
  rfl

theorem ofFields_of_well (h : f.Well) :
    ∃ c, ofFields f.version f.trace f.span f.flags = .ok c ∧ c.Holds f := by
  obtain ⟨t, ht, htrace⟩ := TraceId.ofDigits_of_nonZero h.trace
  obtain ⟨s, hs, hspan⟩ := SpanId.ofDigits_of_nonZero h.span
  obtain ⟨b, hb, hflags⟩ := TraceFlags.ofDigits_of_digits h.flags
  refine ⟨{ trace := t, span := s, flags := b }, ?_, htrace, hspan, hflags, ⟨rfl, rfl⟩, ?_⟩
  · rw [ofFields, if_pos (isVersion_iff.mpr h.version), ht, hs, hb]
    rfl
  · rw [← htrace, ← hspan, ← hflags]
    exact of_traceparent { trace := t, span := s, flags := b }

theorem Holds.unique {c d : SpanContext} (hc : c.Holds f) (hd : d.Holds f) : c = d := by
  obtain ⟨trace, span, ⟨bits⟩, state, exportable⟩ := c
  obtain ⟨trace', span', ⟨bits'⟩, state', exportable'⟩ := d
  obtain rfl := Octets.digits_inj (hc.trace.trans hd.trace.symm)
  obtain rfl := Octets.digits_inj (hc.span.trans hd.span.symm)
  have hflags : TraceFlags.ofDigits f.flags = .ok ⟨bits⟩ := hc.flags ▸ TraceFlags.ofDigits_digits _
  have hflags' : TraceFlags.ofDigits f.flags = .ok ⟨bits'⟩ :=
    hd.flags ▸ TraceFlags.ofDigits_digits _
  obtain rfl := TraceFlags.mk.inj (Except.ok.inj (hflags.symm.trans hflags'))
  obtain ⟨rfl, rfl⟩ := hc.rest
  obtain ⟨rfl, rfl⟩ := hd.rest
  rfl

end Checks

section Exact

variable {header : String} {r : Except Fault.Kind SpanContext}

/-- A header is read as the grammar says. -/
theorem ofTraceparent_of_reads (h : Reads header r) :
    (ofTraceparent header).mapError Fault.kind = r := by
  cases h with
  | format hcount =>
    obtain ⟨found, hread⟩ := ofTraceparent_of_count hcount
    rw [hread]
    rfl
  | version f hof hversion =>
    rw [hof.ofTraceparent_eq, ofFields_of_version hversion]
    rfl
  | traceId f hof hversion htrace =>
    obtain ⟨e, hread, hkind⟩ := ofFields_of_trace hversion htrace
    rw [hof.ofTraceparent_eq, hread, ← hkind]
    rfl
  | spanId f hof hversion htrace hspan =>
    obtain ⟨e, hread, hkind⟩ := ofFields_of_span hversion htrace hspan
    rw [hof.ofTraceparent_eq, hread, ← hkind]
    rfl
  | flags f hof hversion htrace hspan hflags =>
    rw [hof.ofTraceparent_eq, ofFields_of_flags hversion htrace hspan hflags]
    rfl
  | context f c hof hwell hholds =>
    obtain ⟨d, hread, hd⟩ := ofFields_of_well hwell
    rw [hof.ofTraceparent_eq, hread, hd.unique hholds]
    rfl

/-- The grammar says something of every header. -/
theorem exists_reads (header : String) : ∃ r, Reads header r := by
  by_cases hcount : header.toList.count '-' = 3
  · obtain ⟨f, hof⟩ := exists_fields hcount
    by_cases hversion : f.VersionWell
    · by_cases htrace : Hex.NonZero 32 f.trace
      · by_cases hspan : Hex.NonZero 16 f.span
        · by_cases hflags : Hex.Digits 2 f.flags
          · have hwell : f.Well := ⟨hversion, htrace, hspan, hflags⟩
            obtain ⟨c, -, hholds⟩ := ofFields_of_well hwell
            exact ⟨_, .context f c hof hwell hholds⟩
          · exact ⟨_, .flags f hof hversion htrace hspan hflags⟩
        · exact ⟨_, .spanId f hof hversion htrace hspan⟩
      · exact ⟨_, .traceId f hof hversion htrace⟩
    · exact ⟨_, .version f hof hversion⟩
  · exact ⟨_, .format hcount⟩

theorem reads_iff : (ofTraceparent header).mapError Fault.kind = r ↔ Reads header r := by
  constructor
  · rintro rfl
    obtain ⟨r, hreads⟩ := exists_reads header
    rwa [ofTraceparent_of_reads hreads]
  · exact ofTraceparent_of_reads

theorem accepted_iff :
    (∃ c, ofTraceparent header = .ok c) ↔ ∃ f : Fields, f.Of header ∧ f.Well := by
  constructor
  · rintro ⟨c, hread⟩
    have hreads : Reads header (.ok c) := reads_iff.mp (by rw [hread]; rfl)
    cases hreads with
    | context f _ hof hwell _ => exact ⟨f, hof, hwell⟩
  · rintro ⟨f, hof, hwell⟩
    obtain ⟨c, hread, -⟩ := ofFields_of_well hwell
    exact ⟨c, hof.ofTraceparent_eq.trans hread⟩

end Exact

/-- What becomes of a context that is written and read. -/
structure Rereads (c : SpanContext) : Prop where
  same_iff : (∃ d, ofTraceparent c.traceparent = .ok d ∧ d.trace = c.trace ∧ d.span = c.span ∧
    d.flags = c.flags) ↔ c.trace.isZero = false ∧ c.span.isZero = false
  trace_zero : c.trace.isZero = true →
    (ofTraceparent c.traceparent).mapError Fault.kind = .error .traceId
  span_zero : c.trace.isZero = false → c.span.isZero = true →
    (ofTraceparent c.traceparent).mapError Fault.kind = .error .spanId

theorem rereads (c : SpanContext) : c.Rereads := by
  have hof := c.of_traceparent
  have hwritten : isVersion ['0', '0'] = true := by decide
  have hversion : c.fields.VersionWell := isVersion_iff.mp hwritten
  constructor
  · constructor
    · rintro ⟨d, hread, htrace, hspan, -⟩
      obtain ⟨ht, hs, -⟩ := isZero_of_ofTraceparent hread
      exact ⟨htrace ▸ ht, hspan ▸ hs⟩
    · rintro ⟨ht, hs⟩
      exact ⟨_, ofTraceparent_traceparent ht hs, rfl, rfl, rfl⟩
  · intro ht
    refine ofTraceparent_of_reads (.traceId _ hof hversion ?_)
    show ¬ Hex.NonZero 32 c.trace.digits
    rw [c.trace.nonZero_digits_iff, ht]
    exact Bool.noConfusion
  · intro ht hs
    refine ofTraceparent_of_reads (.spanId _ hof hversion ?_ ?_)
    · exact c.trace.nonZero_digits_iff.mpr ht
    · show ¬ Hex.NonZero 16 c.span.digits
      rw [c.span.nonZero_digits_iff, hs]
      exact Bool.noConfusion

/-- A header is accepted exactly if its fields are well, and then gives what they hold; else the
first wrong field decides the fault. A written context is read back unless an id is all zeros. -/
theorem ofTraceparent_exact :
    (∀ header, ((∃ c, ofTraceparent header = .ok c) ↔ ∃ f : Fields, f.Of header ∧ f.Well) ∧
      ∀ r, (ofTraceparent header).mapError Fault.kind = r ↔ Reads header r) ∧
      ∀ c : SpanContext, c.Rereads :=
  ⟨fun _ => ⟨accepted_iff, fun _ => reads_iff⟩, rereads⟩

end TraceIdentity.SpanContext
