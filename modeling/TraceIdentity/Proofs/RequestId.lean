import TraceIdentity.Proofs.Ids
import TraceIdentity.RequestId
/-!
# The grammar of hierarchical request ids

The root of a request id is what stands before the first dot, after at most one bar, and the
whole header where nothing does. It is a trace id exactly if the header is the text of that id,
with or without a bar in front of it and with or without a dot and more text after it.
-/
namespace TraceIdentity
open Text

namespace RequestId

/-- What is left of a header when one bar is taken from its front, if there is one. -/
inductive Unbarred : List Char → List Char → Prop where
  | barred (cs : List Char) : Unbarred ('|' :: cs) cs
  | bare (cs : List Char) : cs.head? ≠ some '|' → Unbarred cs cs

/-- The longest part of a text that stands at its front and has no dot. -/
structure BeforeDot (cs front : List Char) : Prop where
  at_front : front <+: cs
  no_dot : '.' ∉ front
  longest : ∀ other, other <+: cs → '.' ∉ other → other.length ≤ front.length

/-- A header that is `root` but for a bar in front of it and a dot with more text after it, each of
which may be missing. -/
def Frames (header root : List Char) : Prop :=
  ∃ bar rest, header = bar ++ root ++ rest ∧ (bar = [] ∨ bar = ['|']) ∧
    (rest = [] ∨ ∃ more, rest = '.' :: more)

section Root

variable {header root : List Char}

theorem unbarred_body (cs : List Char) : Unbarred cs (body cs) := by
  unfold body
  split
  · exact .barred _
  · next hbar =>
    refine .bare cs ?_
    intro hhead
    obtain ⟨ds, rfl⟩ := List.head?_eq_some_iff.mp hhead
    exact hbar ds rfl

theorem body_of_bare (h : header.head? ≠ some '|') : body header = header := by
  unfold body
  split
  · exact absurd rfl h
  · rfl

theorem beforeDot_append {front : List Char} (h : '.' ∉ front) (more : List Char) :
    BeforeDot (front ++ '.' :: more) front := by
  refine ⟨List.prefix_append _ _, h, ?_⟩
  rintro other ⟨after, hafter⟩ hother
  rcases List.append_eq_append_iff.mp hafter with ⟨as, rfl, -⟩ | ⟨bs, rfl, hbs⟩
  · simp
  · cases bs with
    | nil => simp
    | cons b bs =>
      obtain ⟨rfl, -⟩ := List.cons.inj hbs
      simp at hother

theorem beforeDot_rootDigits (header : List Char) :
    BeforeDot (body header) (rootDigits header) := by
  unfold rootDigits
  cases hcut : cut '.' (body header) with
  | none =>
    have hdot := (cut_eq_none_iff _ _).mp hcut
    exact ⟨List.prefix_rfl, hdot, fun _ hother _ => hother.length_le⟩
  | some p =>
    obtain ⟨hbody, hdot⟩ := (cut_eq_some_iff _ _ _ _).mp hcut
    rw [hbody]
    exact beforeDot_append hdot p.2

theorem frames_rootDigits (header : List Char) : Frames header (rootDigits header) := by
  obtain ⟨bar, hbar, hheader⟩ :
      ∃ bar, (bar = [] ∨ bar = ['|']) ∧ header = bar ++ body header := by
    unfold body
    split
    · exact ⟨['|'], .inr rfl, rfl⟩
    · exact ⟨[], .inl rfl, rfl⟩
  obtain ⟨rest, hrest, hbody⟩ : ∃ rest, (rest = [] ∨ ∃ more, rest = '.' :: more) ∧
      body header = rootDigits header ++ rest := by
    unfold rootDigits
    cases hcut : cut '.' (body header) with
    | none => exact ⟨[], .inl rfl, (List.append_nil _).symm⟩
    | some p => exact ⟨'.' :: p.2, .inr ⟨p.2, rfl⟩, ((cut_eq_some_iff _ _ _ _).mp hcut).1⟩
  refine ⟨bar, rest, ?_, hbar, hrest⟩
  rw [List.append_assoc, ← hbody, ← hheader]

/-- A header frames one text only that has no dot and no bar in front. -/
theorem rootDigits_of_frames (h : Frames header root) (hdot : '.' ∉ root)
    (hbare : root.head? ≠ some '|') (hne : root ≠ []) : rootDigits header = root := by
  obtain ⟨bar, rest, rfl, hbar, hrest⟩ := h
  have hbody : body (bar ++ root ++ rest) = root ++ rest := by
    rcases hbar with rfl | rfl
    · obtain ⟨c, cs, rfl⟩ := List.exists_cons_of_ne_nil hne
      exact body_of_bare hbare
    · rfl
  unfold rootDigits
  rw [hbody]
  rcases hrest with rfl | ⟨more, rfl⟩
  · rw [List.append_nil, (cut_eq_none_iff _ _).mpr hdot]
  · rw [(cut_eq_some_iff _ _ _ _).mpr ⟨rfl, hdot⟩]

end Root

/-- What is read from a header: its text and its root. -/
structure ReadFrom (id : RequestId) (header : String) : Prop where
  raw : id.raw = header
  root : ∃ cs front, Unbarred header.toList cs ∧ BeforeDot cs front ∧
    id.root = if front = [] then header else String.ofList front
  root_empty_iff : id.root = "" ↔ header = ""

theorem root_parse (header : String) : (parse header).root =
    if rootDigits header.toList = [] then header
    else String.ofList (rootDigits header.toList) := by
  unfold parse
  split
  · next hroot => rw [if_pos hroot]
  · next hroot => rw [if_neg hroot]

theorem readFrom_parse (header : String) : (parse header).ReadFrom header := by
  have hroot := root_parse header
  refine ⟨?_, ⟨_, _, unbarred_body _, beforeDot_rootDigits _, hroot⟩, ?_⟩
  · unfold parse
    split <;> rfl
  · rw [hroot]
    constructor
    · intro hempty
      split at hempty
      · exact hempty
      · next hne => exact absurd (by simpa using hempty) hne
    · rintro rfl
      rfl

/-- Nothing stands before the dot. -/
example : (parse "|.1.2").root = "|.1.2" := by
  decide +kernel

section Trace

variable {header : String} {t : TraceId}

theorem rootDigits_of_frames_digits (h : Frames header.toList t.digits) :
    rootDigits header.toList = t.digits := by
  apply rootDigits_of_frames h
  · exact t.not_mem_digits (by decide)
  · intro hhead
    cases t.isLowerDigit_of_mem_digits (List.mem_of_head? hhead)
  · exact t.digits_ne_nil

theorem root_parse_of_frames (h : Frames header.toList t.digits) :
    (parse header).root = t.toHex := by
  rw [root_parse, rootDigits_of_frames_digits h, if_neg t.digits_ne_nil]
  rfl

theorem digits_ne_of_rootDigits (h : rootDigits header.toList = []) :
    t.digits ≠ header.toList := by
  intro hdigits
  have hframes : Frames header.toList t.digits :=
    ⟨[], [], by simp [hdigits], .inl rfl, .inl rfl⟩
  exact t.digits_ne_nil ((rootDigits_of_frames_digits hframes).symm.trans h)

theorem rootTrace_parse_of_frames (h : Frames header.toList t.digits) :
    (parse header).rootTrace = if t.isZero then .error .traceIdZero else .ok t := by
  rw [rootTrace, root_parse_of_frames h, TraceId.ofHex, Octets.toList_toHex,
    TraceId.ofDigits_digits]

theorem rootTrace_parse_iff :
    (parse header).rootTrace = .ok t ↔ t.isZero = false ∧ Frames header.toList t.digits := by
  constructor
  · intro h
    rw [rootTrace, TraceId.ofHex, TraceId.ofDigits_eq_ok_iff, root_parse] at h
    obtain ⟨hzero, hdigits⟩ := h
    refine ⟨hzero, ?_⟩
    split at hdigits
    · next hroot => exact absurd hdigits (digits_ne_of_rootDigits hroot)
    · rw [hdigits, String.toList_ofList]
      exact frames_rootDigits _
  · rintro ⟨hzero, hframes⟩
    rw [rootTrace_parse_of_frames hframes, hzero, if_neg Bool.false_ne_true]

end Trace

end RequestId

end TraceIdentity
