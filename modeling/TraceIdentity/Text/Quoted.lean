import TraceIdentity.Text.Invisible
import TraceIdentity.Text.Extender
import TraceIdentity.Text.Ignorable
/-!
# Quoted text

Characters and strings as they are shown inside messages: the quote in use and
the backslash are escaped, and what has no visible form is written by its code
point in hexadecimal.
-/
namespace TraceIdentity.Text

/-- A character with no form of its own between quotes; the space and the sound marks have one. -/
def isHidden (c : Char) : Bool :=
  (isInvisible c && c != ' ') || (isExtender c && !isSoundMark c) || isIgnorable c

/-- One character as it stands between two `quote` marks. -/
def escape (quote c : Char) : List Char :=
  if c = quote ∨ c = '\\' then ['\\', c]
  else if c = '\n' then ['\\', 'n']
  else if c = '\r' then ['\\', 'r']
  else if c = '\t' then ['\\', 't']
  else if c = '\x00' then ['\\', '0']
  else if isHidden c then ['\\', 'u', '\x7b'] ++ Nat.toDigits 16 c.toNat ++ ['\x7d']
  else [c]

def quoted (quote : Char) (cs : List Char) : List Char :=
  quote :: (cs.flatMap (escape quote) ++ [quote])

end TraceIdentity.Text
