import TraceIdentity.Text.Hex
import TraceIdentity.Work.Phase
/-!
# Faults

Everything that can be wrong with a header, an identifier, a scope or the end of
work. Each cause has a kind, and a message that names what was found.
-/
namespace TraceIdentity

namespace Fault

inductive Kind where
  | format
  | version
  | traceId
  | spanId
  | flags
  | traceState
  | requestContext
  | appIdUnresolved
  | selfCall
  | scopeMismatch
  | alreadyEnded
  deriving DecidableEq, Repr

namespace Kind

def text : Kind → String
  | format => "invalid format"
  | version => "unsupported version"
  | traceId => "invalid trace id"
  | spanId => "invalid span id"
  | flags => "invalid trace flags"
  | traceState => "invalid tracestate"
  | requestContext => "invalid request context"
  | appIdUnresolved => "appId unresolved"
  | selfCall => "self call"
  | scopeMismatch => "scope mismatch"
  | alreadyEnded => "already completed"

/-- The message of a fault about which nothing but its kind is known. -/
def summary : Kind → String
  | format => "header has an unexpected structure"
  | version => "traceparent version is not supported"
  | traceId => "trace id must be 32 lowercase hex characters"
  | spanId => "span id must be 16 lowercase hex characters"
  | flags => "trace flags must be 2 lowercase hex characters"
  | traceState => "tracestate member must be key=value"
  | requestContext => "request context must be a single key=value pair"
  | appIdUnresolved => "appId is not resolved yet"
  | selfCall => "remote appId equals the current appId"
  | scopeMismatch => "scope released out of order"
  | alreadyEnded => "unit of work already completed"

/-- Faults of the program that uses the library, not of what it received. -/
def isProgramming : Kind → Bool
  | scopeMismatch | alreadyEnded => true
  | _ => false

def isRecoverable (k : Kind) : Bool :=
  !k.isProgramming

/-- Faults of a header or identifier that does not follow its grammar. -/
def isMalformed : Kind → Bool
  | format | version | traceId | spanId | flags | traceState | requestContext => true
  | _ => false

end Kind

end Fault

inductive Fault where
  | fieldCount (found : Nat)
  | traceparentAbsent
  | version
  | traceIdDigits
  | traceIdZero
  | spanIdDigits
  | spanIdZero
  | flagsDigits
  | hex (cause : Text.Hex.Error)
  | undecoded (kind : Fault.Kind) (cause : Text.Hex.Error)
  | pairCount (found : Nat)
  | unexpectedKey (key : String)
  | appIdEmpty
  | appIdUnresolved
  | selfCall
  | notOpenHere
  | outOfOrder (newer : Nat)
  | alreadyEnded (phase : Work.Phase)
  | reported (kind : Fault.Kind) (message : String) (source : Option String)
  deriving DecidableEq, Repr

namespace Fault

def kind : Fault → Kind
  | fieldCount _ | traceparentAbsent | hex _ => .format
  | version => .version
  | traceIdDigits | traceIdZero => .traceId
  | spanIdDigits | spanIdZero => .spanId
  | flagsDigits => .flags
  | pairCount _ | unexpectedKey _ | appIdEmpty => .requestContext
  | appIdUnresolved => .appIdUnresolved
  | selfCall => .selfCall
  | notOpenHere | outOfOrder _ => .scopeMismatch
  | alreadyEnded _ => .alreadyEnded
  | undecoded kind _ | reported kind _ _ => kind

def message : Fault → String
  | fieldCount found => "traceparent must have 4 fields, found " ++ toString found
  | traceparentAbsent => "traceparent header is absent"
  | version => Kind.version.summary
  | traceIdDigits => Kind.traceId.summary
  | traceIdZero => "trace id must not be all zeros"
  | spanIdDigits => Kind.spanId.summary
  | spanIdZero => "span id must not be all zeros"
  | flagsDigits => Kind.flags.summary
  | hex cause => "invalid hex: " ++ cause.text
  | undecoded kind _ => kind.summary
  | pairCount found => "expected a single key=value pair, found " ++ toString found ++ " fields"
  | unexpectedKey key => "unexpected key '" ++ key ++ "'"
  | appIdEmpty => "appId is empty"
  | appIdUnresolved => Kind.appIdUnresolved.summary
  | selfCall => Kind.selfCall.summary
  | notOpenHere => "scope was not entered on this unit of execution or was already released"
  | outOfOrder newer =>
    "scope released out of LIFO order with " ++ toString newer ++ " newer scope(s) still open"
  | alreadyEnded phase => "work already ended as " ++ phase.name
  | reported _ message _ => message

/-- The text of the fault underneath, if there is one. -/
def source : Fault → Option String
  | hex cause | undecoded _ cause => some cause.text
  | reported _ _ source => source
  | _ => none

/-- A fault of which only the kind is known. -/
def ofKind (k : Kind) : Fault :=
  reported k k.summary none

def display (f : Fault) : String :=
  f.kind.text ++ ": " ++ f.message

end Fault

end TraceIdentity
