import TraceIdentity.Ids
import TraceIdentity.Text.Split
/-!
# Hierarchical request ids

The older header `|root.suffix`. Its root is the text up to the first dot, after
one optional leading bar, and may or may not be a trace id.
-/
namespace TraceIdentity
open Text

structure RequestId where
  root : String
  raw : String
  deriving DecidableEq, Repr

namespace RequestId

/-- Drop one leading bar. -/
def body : List Char → List Char
  | '|' :: cs => cs
  | cs => cs

def rootDigits (cs : List Char) : List Char :=
  match cut '.' (body cs) with
  | some (root, _) => root
  | none => body cs

/-- Read a request id; the root is the whole text when nothing stands before the dot. -/
def parse (header : String) : RequestId :=
  match rootDigits header.toList with
  | [] => ⟨header, header⟩
  | root => ⟨String.ofList root, header⟩

def rootTrace (id : RequestId) : Except Fault TraceId :=
  TraceId.ofHex id.root

end RequestId

end TraceIdentity
