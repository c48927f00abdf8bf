import TraceIdentity.Text.Quoted
/-!
# Hexadecimal text

Each byte is written as two lowercase digits, high nibble first. Reading also
accepts uppercase digits and says where it failed; it undoes writing.
-/
namespace TraceIdentity.Text.Hex

/-- Why text is not the hexadecimal form of the bytes asked for. -/
inductive Error where
  | oddLength
  | wrongLength
  | badDigit (c : Char) (index : Nat)
  deriving DecidableEq, Repr

def Error.text : Error → String
  | .oddLength => "Odd number of digits"
  | .wrongLength => "Invalid string length"
  | .badDigit c index =>
    "Invalid character " ++ String.ofList (quoted '\'' [c]) ++ " at position " ++ toString index

def digit (n : Nat) : Char :=
  if n < 10 then Char.ofNat (48 + n) else Char.ofNat (87 + n)

/-- A decimal digit or one of the letters a to f in lowercase. -/
def isLowerDigit (c : Char) : Bool :=
  (decide ('0' ≤ c) && decide (c ≤ '9')) || (decide ('a' ≤ c) && decide (c ≤ 'f'))

def value? (c : Char) : Option Nat :=
  if isLowerDigit c then some (if c ≤ '9' then c.toNat - 48 else c.toNat - 87)
  else if 'A' ≤ c ∧ c ≤ 'F' then some (c.toNat - 55) else none

def isLower (len : Nat) (cs : List Char) : Bool :=
  cs.length == len && cs.all isLowerDigit

def encode : List UInt8 → List Char
  | [] => []
  | b :: bs => digit (b.toNat / 16) :: digit (b.toNat % 16) :: encode bs

def decodeFrom (index : Nat) : List Char → Except Error (List UInt8)
  | [] => .ok []
  | [_] => .error .oddLength
  | hi :: lo :: rest =>
    match value? hi, value? lo with
    | none, _ => .error (.badDigit hi index)
    | some _, none => .error (.badDigit lo (index + 1))
    | some h, some l => (decodeFrom (index + 2) rest).map (UInt8.ofNat (16 * h + l) :: ·)

/-- Read pairs of digits as bytes. -/
def decode (cs : List Char) : Except Error (List UInt8) :=
  decodeFrom 0 cs

@[simp] theorem length_encode (bs : List UInt8) : (encode bs).length = 2 * bs.length := by
  induction bs with
  | nil => rfl
  | cons b bs ih => simp [encode, ih]; omega

private theorem digit_lower : ∀ n < 16, isLowerDigit (digit n) = true := by
  decide

private theorem value_digit : ∀ n < 16, value? (digit n) = some n := by
  decide

theorem isLower_encode (bs : List UInt8) : isLower (2 * bs.length) (encode bs) := by
  have h : (encode bs).all isLowerDigit := by
    induction bs with
    | nil => rfl
    | cons b bs ih =>
      have hb := b.toNat_lt
      simp only [encode, List.all_cons, ih, Bool.and_true, Bool.and_eq_true]
      exact ⟨digit_lower _ (by omega), digit_lower _ (by omega)⟩
  simp [isLower, h]

theorem decodeFrom_encode (index : Nat) (bs : List UInt8) :
    decodeFrom index (encode bs) = .ok bs := by
  induction bs generalizing index with
  | nil => rfl
  | cons b bs ih =>
    have hb := b.toNat_lt
    rw [encode, decodeFrom, value_digit _ (by omega), value_digit _ (by omega)]
    have : 16 * (b.toNat / 16) + b.toNat % 16 = b.toNat := by omega
    simp [ih, this, Except.map]

theorem decode_encode (bs : List UInt8) : decode (encode bs) = .ok bs :=
  decodeFrom_encode 0 bs

end TraceIdentity.Text.Hex
