import TraceIdentity.Proofs.Component.Introduction
/-!
# Whom a value names

A value is read as an application id exactly if it is the single pair for that id. It names
that component to every other one that knows its own id. The source of a request and the
target of a call are found alike, the one as an option and the other as a text that may be
empty.
-/
namespace TraceIdentity

namespace AppId

/-- A value that is the single pair for an id. -/
structure PairFor (value id : String) : Prop where
  text : value = "appId=" ++ id
  ne_empty : id ≠ ""
  no_separator : '=' ∉ id.toList

/-- What a value means to a component that has the id `self`, if any: the first thing that is wrong
decides the kind of fault. -/
inductive Meaning (value : String) (self : Option String) : Except Fault.Kind String → Prop where
  | malformed : (∀ id, ¬ PairFor value id) → Meaning value self (.error .requestContext)
  | unresolved (id : String) : PairFor value id → self = none ∨ self = some "" →
    Meaning value self (.error .appIdUnresolved)
  | selfCall (id : String) : PairFor value id → self = some id →
    Meaning value self (.error .selfCall)
  | names (id own : String) : PairFor value id → self = some own → own ≠ "" → id ≠ own →
    Meaning value self (.ok id)

section Read

variable {value : String}

theorem read_iff_pairFor {id : String} : read value = .ok id ↔ PairFor value id := by
  rw [read_eq_ok_iff]
  constructor
  · rintro ⟨htext, hne, hsep⟩
    exact ⟨htext, hne, hsep⟩
  · rintro ⟨htext, hne, hsep⟩
    exact ⟨htext, hne, hsep⟩

theorem kind_of_read {f : Fault} (h : read value = .error f) : f.kind = .requestContext := by
  unfold read at h
  split at h
  · split at h
    · cases h
      rfl
    · split at h
      · cases h
        rfl
      · cases h
  · cases h
    rfl

theorem read_of_not_pairFor (h : ∀ id, ¬ PairFor value id) :
    ∃ f, read value = .error f ∧ f.kind = .requestContext := by
  cases hread : read value with
  | error f => exact ⟨f, rfl, kind_of_read hread⟩
  | ok id => exact absurd (read_iff_pairFor.mp hread) (h id)

theorem resolved_eq_none_iff {self : Option String} :
    resolved self = none ↔ self = none ∨ self = some "" := by
  cases self with
  | none => simp [resolved]
  | some id => simp [resolved, Option.filter_some]

end Read

section Meaning

variable {value : String} {self : Option String} {r : Except Fault.Kind String}

theorem other_of_meaning (h : Meaning value self r) :
    (other value self).mapError Fault.kind = r := by
  cases h with
  | malformed hnone =>
    obtain ⟨f, hread, hkind⟩ := read_of_not_pairFor hnone
    rw [other, hread, ← hkind]
    rfl
  | unresolved id hpair hself =>
    rw [other, read_iff_pairFor.mpr hpair, resolved_eq_none_iff.mpr hself]
    rfl
  | selfCall id hpair hself =>
    rw [other, read_iff_pairFor.mpr hpair, resolved_eq_some_iff.mpr ⟨hself, hpair.ne_empty⟩]
    exact congrArg (Except.mapError Fault.kind) (if_pos rfl)
  | names id own hpair hself hown hne =>
    rw [other, read_iff_pairFor.mpr hpair, resolved_eq_some_iff.mpr ⟨hself, hown⟩]
    exact congrArg (Except.mapError Fault.kind) (if_neg hne)

theorem exists_meaning (value : String) (self : Option String) : ∃ r, Meaning value self r := by
  by_cases hpair : ∃ id, PairFor value id
  · obtain ⟨id, hpair⟩ := hpair
    cases hself : resolved self with
    | none => exact ⟨_, .unresolved id hpair (resolved_eq_none_iff.mp hself)⟩
    | some own =>
      obtain ⟨hself, hown⟩ := resolved_eq_some_iff.mp hself
      by_cases hsame : id = own
      · exact ⟨_, .selfCall id hpair (hsame ▸ hself)⟩
      · exact ⟨_, .names id own hpair hself hown hsame⟩
  · exact ⟨_, .malformed fun id hid => hpair ⟨id, hid⟩⟩

theorem meaning_iff : (other value self).mapError Fault.kind = r ↔ Meaning value self r := by
  constructor
  · rintro rfl
    obtain ⟨r, hmeaning⟩ := exists_meaning value self
    rwa [other_of_meaning hmeaning]
  · exact other_of_meaning

end Meaning

/-- The two ways to ask a component with the id `own` whom a value names. -/
structure Named (value : String) (own : Option String) : Prop where
  meaning_iff : ∀ r, (other value own).mapError Fault.kind = r ↔ Meaning value own r
  target_iff : target value own ≠ "" ↔ ∃ id, other value own = .ok id
  names_one : ∀ id, other value own = .ok id →
    PairFor value id ∧ target value own = id ∧ own ≠ some id

theorem named (value : String) (self : Option String) : Named value self := by
  have hother : ∀ id, other value self = .ok id →
      PairFor value id ∧ target value self = id ∧ self ≠ some id := by
    intro id hid
    obtain ⟨hread, own, hown, hne⟩ := other_eq_ok_iff.mp hid
    refine ⟨read_iff_pairFor.mp hread, by rw [target, hid], ?_⟩
    rw [(resolved_eq_some_iff.mp hown).1]
    exact fun hsame => hne (Option.some.inj hsame).symm
  refine ⟨fun _ => AppId.meaning_iff, ?_, hother⟩
  constructor
  · intro hne
    cases hid : other value self with
    | error f => exact absurd (by rw [target, hid]) hne
    | ok id => exact ⟨id, rfl⟩
  · rintro ⟨id, hid⟩
    obtain ⟨hpair, htarget, -⟩ := hother id hid
    rw [htarget]
    exact hpair.ne_empty

/-- An id can be read where it was written unless it is empty or has a separator. -/
theorem read_write_iff {id : String} :
    read (write (some id)) = .ok id ↔ id ≠ "" ∧ '=' ∉ id.toList := by
  by_cases hne : id = ""
  · subst hne
    simp [write_of_unresolved, resolved, read_empty]
  · rw [write_of_resolved (resolved_eq_some_iff.mpr ⟨rfl, hne⟩), read_eq_ok_iff]
    exact and_iff_right rfl

end AppId

namespace Component

variable {σ τ : Type}

/-- A request comes from the component that `caller` takes for the target of a call, when it is
answered with the same value. -/
structure SourceLikeTarget (callee : Component σ) (caller : Component τ) (h : Headers) : Prop where
  absent : h.find? Headers.requestContext = none ∨ h.find? Headers.requestContext = some "" →
    callee.sourceOf h = none
  present : ∀ value, h.find? Headers.requestContext = some value → value ≠ "" →
    callee.sourceOf h = (some (caller.targetOf value)).filter (· ≠ "")

theorem sourceLikeTarget {callee : Component σ} {caller : Component τ}
    (hid : caller.appId = callee.appId) (h : Headers) : SourceLikeTarget callee caller h := by
  constructor
  · intro habsent
    rw [sourceOf, Headers.value?]
    rcases habsent with habsent | habsent <;> rw [habsent] <;> rfl
  · intro value hfind hne
    have hvalue : h.value? Headers.requestContext = some value := by
      rw [Headers.value?, hfind, Option.filter_some, if_pos (by simpa using hne)]
    rw [sourceOf, hvalue, targetOf, hid]
    show (AppId.other value callee.appId).toOption = _
    cases hother : AppId.other value callee.appId with
    | error f =>
      rw [AppId.target, hother]
      rfl
    | ok id =>
      obtain ⟨hpair, htarget, -⟩ := (AppId.named value callee.appId).names_one id hother
      rw [htarget, Option.filter_some, if_pos (by simpa using hpair.ne_empty)]
      rfl

/-- Values are read by the grammar of pairs, a fault says what is wrong first, and the same value
names the same component in a request and in a response. -/
theorem named_by_pair :
    (∀ value id, AppId.read value = .ok id ↔ AppId.PairFor value id) ∧
      (∀ value own, AppId.Named value own) ∧
      (∀ id, AppId.read (AppId.write (some id)) = .ok id ↔ id ≠ "" ∧ '=' ∉ id.toList) ∧
      ∀ (settings : Settings) (resolver : AppId.Resolver) (ids : IdSource σ) (ids' : IdSource τ)
        (h : Headers), SourceLikeTarget ⟨settings, ids, resolver⟩ ⟨settings, ids', resolver⟩ h := by
  refine ⟨fun _ _ => AppId.read_iff_pairFor, AppId.named, fun _ => AppId.read_write_iff, ?_⟩
  intro settings resolver ids ids' h
  have hid : (⟨settings, ids', resolver⟩ : Component τ).appId =
      (⟨settings, ids, resolver⟩ : Component σ).appId := rfl
  exact sourceLikeTarget hid h

end Component

end TraceIdentity
