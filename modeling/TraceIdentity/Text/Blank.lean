import TraceIdentity.Text.Ranges
/-!
# Blank characters

The characters with the Unicode property White_Space, and text with the blanks
at both ends removed. Trimmed text is fixed by trimming, and trimming always
leaves trimmed text.
-/
namespace TraceIdentity.Text

/-- The ranges of code points with the property White_Space, in order. -/
def blankRanges : Ranges :=
  [(0x09, 0x0D), (0x20, 0x20), (0x85, 0x85), (0xA0, 0xA0), (0x1680, 0x1680),
    (0x2000, 0x200A), (0x2028, 0x2029), (0x202F, 0x202F), (0x205F, 0x205F), (0x3000, 0x3000)]

def isBlank (c : Char) : Bool :=
  blankRanges.holds c.toNat

def trimStart (cs : List Char) : List Char :=
  cs.dropWhile isBlank

def trimEnd (cs : List Char) : List Char :=
  (trimStart cs.reverse).reverse

def trim (cs : List Char) : List Char :=
  trimEnd (trimStart cs)

/-- Text that neither starts nor ends with a blank. -/
def Trimmed (cs : List Char) : Prop :=
  (∀ c ∈ cs.head?, isBlank c = false) ∧ ∀ c ∈ cs.getLast?, isBlank c = false

instance (cs : List Char) : Decidable (Trimmed cs) :=
  inferInstanceAs (Decidable (_ ∧ _))

private theorem trimStart_head (cs : List Char) :
    ∀ c ∈ (trimStart cs).head?, isBlank c = false := by
  induction cs with
  | nil => simp [trimStart]
  | cons d cs ih =>
    by_cases hd : isBlank d
    · simpa [trimStart, hd] using ih
    · simp [trimStart, hd]

private theorem trimStart_of_head (cs : List Char)
    (h : ∀ c ∈ cs.head?, isBlank c = false) : trimStart cs = cs := by
  cases cs with
  | nil => rfl
  | cons d cs => simp [trimStart, h d (by simp)]

theorem trim_of_trimmed (cs : List Char) (h : Trimmed cs) : trim cs = cs := by
  have hr : trimStart cs.reverse = cs.reverse :=
    trimStart_of_head _ (by simpa [List.head?_reverse] using h.2)
  rw [trim, trimStart_of_head _ h.1, trimEnd, hr, List.reverse_reverse]

private theorem trimStart_last (cs : List Char) :
    ∀ c ∈ (trimStart cs).getLast?, cs.getLast? = some c := by
  induction cs with
  | nil => simp [trimStart]
  | cons d cs ih =>
    by_cases hd : isBlank d
    · intro c hc
      have hc' := ih c (by simpa [trimStart, hd] using hc)
      simp [List.getLast?_cons, hc']
    · intro c hc
      simpa [trimStart, hd] using hc

theorem trimmed_trim (cs : List Char) : Trimmed (trim cs) := by
  constructor
  · intro c hc
    rw [trim, trimEnd, List.head?_reverse] at hc
    have := trimStart_last _ c hc
    rw [List.getLast?_reverse] at this
    exact trimStart_head cs c this
  · intro c hc
    rw [trim, trimEnd, List.getLast?_reverse] at hc
    exact trimStart_head _ c hc

end TraceIdentity.Text
