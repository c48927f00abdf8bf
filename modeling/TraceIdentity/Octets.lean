import TraceIdentity.Text.Hex
/-!
# Octet strings of fixed length

Binary identifiers of `n` bytes, their hexadecimal text and the big-endian form
of a number. Two of them are equal exactly when their texts are.
-/
namespace TraceIdentity
open Text

/-- Exactly `n` bytes, first byte first. -/
structure Octets (n : Nat) where
  bytes : List UInt8
  length_eq : bytes.length = n
  deriving DecidableEq, Repr

namespace Octets

@[ext] theorem ext {n : Nat} {a b : Octets n} (h : a.bytes = b.bytes) : a = b := by
  cases a; cases b; cases h; rfl

/-- Every byte is zero. -/
def isZero {n : Nat} (o : Octets n) : Bool :=
  o.bytes.all (· == 0)

def digits {n : Nat} (o : Octets n) : List Char :=
  Hex.encode o.bytes

def toHex {n : Nat} (o : Octets n) : String :=
  String.ofList o.digits

def ofDigits (n : Nat) (cs : List Char) : Except Hex.Error (Octets n) :=
  match Hex.decode cs with
  | .error e => .error e
  | .ok bytes => if h : bytes.length = n then .ok ⟨bytes, h⟩ else .error .wrongLength

def ofBytes? (n : Nat) (bytes : List UInt8) : Option (Octets n) :=
  if h : bytes.length = n then some ⟨bytes, h⟩ else none

def zero (n : Nat) : Octets n :=
  ⟨List.replicate n 0, by simp⟩

instance (n : Nat) : Inhabited (Octets n) :=
  ⟨zero n⟩

/-- The last `n` bytes of `value`, most significant first. -/
def bigEndian : Nat → Nat → List UInt8
  | 0, _ => []
  | n + 1, value => bigEndian n (value / 256) ++ [UInt8.ofNat value]

@[simp] theorem length_bigEndian (n value : Nat) : (bigEndian n value).length = n := by
  induction n generalizing value with
  | zero => rfl
  | succ n ih => simp [bigEndian, ih]

def ofNat (n value : Nat) : Octets n :=
  ⟨bigEndian n value, length_bigEndian n value⟩

@[simp] theorem toList_toHex {n : Nat} (o : Octets n) : o.toHex.toList = o.digits := by
  simp [toHex]

@[simp] theorem length_digits {n : Nat} (o : Octets n) : o.digits.length = 2 * n := by
  simp [digits, o.length_eq]

theorem isLower_digits {n : Nat} (o : Octets n) : Hex.isLower (2 * n) o.digits := by
  simpa [digits, o.length_eq] using Hex.isLower_encode o.bytes

@[simp] theorem ofDigits_digits {n : Nat} (o : Octets n) : ofDigits n o.digits = .ok o := by
  simp [ofDigits, digits, Hex.decode_encode, o.length_eq]

theorem digits_inj {n : Nat} {a b : Octets n} (h : a.digits = b.digits) : a = b := by
  have := ofDigits_digits a
  rw [h, ofDigits_digits] at this
  exact (Except.ok.inj this).symm

end Octets

end TraceIdentity
