import TraceIdentity.SpanContext
/-!
# The traceparent header

Four fields joined by dashes: version, trace id, span id and flags, all in
lowercase hexadecimal. Any version but `ff` is read and `00` is written. The
first field that fails decides the fault.
-/
namespace TraceIdentity.SpanContext
open Text

def isVersion (cs : List Char) : Bool :=
  Hex.isLower 2 cs && cs != ['f', 'f']

def ofFields (version trace span flags : List Char) : Except Fault SpanContext :=
  if isVersion version then do
    let trace ← TraceId.ofDigits trace
    let span ← SpanId.ofDigits span
    let flags ← TraceFlags.ofDigits flags
    return { trace, span, flags }
  else .error .version

def ofTraceparent (header : String) : Except Fault SpanContext :=
  match splitOn '-' header.toList with
  | [version, trace, span, flags] => ofFields version trace span flags
  | fields => .error (.fieldCount fields.length)

def traceparent (c : SpanContext) : String :=
  "00-" ++ c.trace.toHex ++ "-" ++ c.span.toHex ++ "-" ++ c.flags.toHex

/-- The hierarchical id of a traceparent header, empty if the header cannot be read. -/
def legacyIdOfTraceparent (header : String) : String :=
  match ofTraceparent header with
  | .ok c => c.legacyId
  | .error _ => ""

end TraceIdentity.SpanContext
