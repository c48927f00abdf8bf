import TraceIdentity.Fault
import TraceIdentity.Octets
/-!
# Trace ids, span ids and flags

A trace id has sixteen bytes and a span id eight; neither may be all zeros when
read from text. The lowest bit of the flags says that the trace is sampled.
-/
namespace TraceIdentity
open Text

abbrev TraceId := Octets 16
abbrev SpanId := Octets 8

namespace TraceId

def ofDigits (cs : List Char) : Except Fault TraceId :=
  if Hex.isLower 32 cs then
    match Octets.ofDigits 16 cs with
    | .error e => .error (.undecoded .traceId e)
    | .ok t => if t.isZero then .error .traceIdZero else .ok t
  else .error .traceIdDigits

/-- Read 32 lowercase digits that are not all zero. -/
def ofHex (s : String) : Except Fault TraceId :=
  ofDigits s.toList

def dump (t : TraceId) : String :=
  "TraceId(" ++ t.toHex ++ ")"

end TraceId

namespace SpanId

def ofDigits (cs : List Char) : Except Fault SpanId :=
  if Hex.isLower 16 cs then
    match Octets.ofDigits 8 cs with
    | .error e => .error (.undecoded .spanId e)
    | .ok s => if s.isZero then .error .spanIdZero else .ok s
  else .error .spanIdDigits

/-- Read 16 lowercase digits that are not all zero. -/
def ofHex (s : String) : Except Fault SpanId :=
  ofDigits s.toList

def dump (s : SpanId) : String :=
  "SpanId(" ++ s.toHex ++ ")"

end SpanId

/-- Text that looks like a trace id; all zeros are let through. -/
def looksLikeTraceId (s : String) : Bool :=
  Hex.isLower 32 s.toList

/-- Text that looks like a span id; all zeros are let through. -/
def looksLikeSpanId (s : String) : Bool :=
  Hex.isLower 16 s.toList

/-- Eight flag bits carried along with a trace. -/
structure TraceFlags where
  bits : UInt8 := 0
  deriving DecidableEq, Repr, Inhabited

namespace TraceFlags

def sampledBit : UInt8 := 1

def isSampled (f : TraceFlags) : Bool :=
  f.bits &&& sampledBit != 0

def withSampled (f : TraceFlags) (sampled : Bool) : TraceFlags :=
  if sampled then ⟨f.bits ||| sampledBit⟩ else ⟨f.bits &&& ~~~sampledBit⟩

def union (f g : TraceFlags) : TraceFlags :=
  ⟨f.bits ||| g.bits⟩

def digits (f : TraceFlags) : List Char :=
  Hex.encode [f.bits]

def toHex (f : TraceFlags) : String :=
  String.ofList f.digits

def ofDigits (cs : List Char) : Except Fault TraceFlags :=
  if Hex.isLower 2 cs then
    match Octets.ofDigits 1 cs with
    | .error _ => .error .flagsDigits
    | .ok o => .ok ⟨o.bytes.headD 0⟩
  else .error .flagsDigits

def ofHex (s : String) : Except Fault TraceFlags :=
  ofDigits s.toList

def dump (f : TraceFlags) : String :=
  "TraceFlags(" ++ toString f.bits ++ ")"

end TraceFlags

end TraceIdentity
