import TraceIdentity.Proofs.Program.Handles
/-!
# Nested scopes

Scopes that are opened in a place after another one, and closed there in reverse order
before it, leave no trace: the slot of the place is as it was, whatever is done in other
places meanwhile.
-/
namespace TraceIdentity.Program

variable {p q q' : Program} {e : Event} {t t' : List Event} {a : Action} {place : Place}

/-- A step that opens a scope in a place, or tries to close one there. -/
def Touches (p : Program) (place : Place) (e : Event) : Prop :=
  (e.answer.made? ≠ none ∨ e.action.given? ≠ none) ∧ p.place? e.action = some place

/-- A run in which the scopes of one place are nested: each one that is opened there is closed there
after those that were opened later. -/
inductive Nests (place : Place) : Program → List Event → Program → Prop where
  | refl (p : Program) : Nests place p [] p
  | apart {p q q' : Program} {t : List Event} {a : Action} {e : Event} :
    Nests place p t q → q.step a = some (e, q') → ¬ q.Touches place e → Nests place p (t ++ [e]) q'
  | nested {p q q₁ q₂ q' : Program} {t t' : List Event} {a b : Action} {e e' : Event}
    {handle : Handle} : Nests place p t q → q.step a = some (e, q₁) → q.place? a = some place →
      e.answer.made? = some handle → Nests place q₁ t' q₂ → q₂.step b = some (e', q') →
        q₂.place? b = some place → b.given? = some handle.id →
          Nests place p (t ++ [e] ++ t' ++ [e']) q'

theorem Run.append (h : Run p t q) (h' : Run q t' q') : Run p (t ++ t') q' := by
  induction h' with
  | refl => rwa [List.append_nil]
  | snoc hrun hstep ih =>
    rw [← List.append_assoc]
    exact ih.snoc hstep

theorem Nests.run (h : Nests place p t q) : Run p t q := by
  induction h with
  | refl p => exact .refl
  | apart hnests hstep hquiet ih => exact ih.snoc hstep
  | nested hnests hopen hplace hmade hinner hclose hplace' hgiven ih ihinner =>
    exact ((ih.snoc hopen).append ihinner).snoc hclose

theorem slots_step_of_not_touches (hstep : p.step a = some (e, q)) (hquiet : ¬ p.Touches place e) :
    q.host.slots place = p.host.slots place := by
  cases step_conduct hstep with
  | rests hmade hgiven hhost hheld => rw [hhost]
  | enters store site c holder hmade hgiven hhere hhost hheld hworks =>
    have hne : place ≠ store.place site := by
      rintro rfl
      exact hquiet ⟨.inl (by simp [hmade]), hhere⟩
    rw [hhost, Host.slots_enter, if_neg hne]
  | releases s store site hs hmade hgiven hhere hhost hheld hfault =>
    have hne : place ≠ store.place site := by
      rintro rfl
      exact hquiet ⟨.inr (by simp [hgiven]), hhere⟩
    rw [hhost, Host.slots_tryRelease, if_neg hne]

theorem slots_step_of_made (hstep : p.step a = some (e, q)) (hplace : p.place? a = some place)
    {handle : Handle} (hanswer : e.answer.made? = some handle) :
    ∃ c, q.host.slots place = (p.host.slots place).enter handle.id c := by
  rw [← action_of_step hstep] at hplace
  cases step_conduct hstep with
  | rests hmade hgiven hhost hheld =>
    rw [hmade] at hanswer
    cases hanswer
  | enters store site c holder hmade hgiven hhere hhost hheld hworks =>
    obtain rfl : handle = (p.host.enter store site c).1 :=
      Option.some.inj (hanswer.symm.trans hmade)
    have hsame : place = store.place site := Option.some.inj (hplace.symm.trans hhere)
    refine ⟨c, ?_⟩
    rw [hhost, Host.slots_enter, if_pos hsame]
    rfl
  | releases s store site hs hmade hgiven hhere hhost hheld hfault =>
    rw [hmade] at hanswer
    cases hanswer

theorem slots_step_of_given (hstep : p.step a = some (e, q)) (hplace : p.place? a = some place)
    {id : Nat} (hid : a.given? = some id) :
    q.host.slots place = ((p.host.slots place).close id).2 := by
  rw [← action_of_step hstep] at hplace hid
  cases step_conduct hstep with
  | rests hmade hgiven hhost hheld =>
    rw [hgiven] at hid
    cases hid
  | enters store site c holder hmade hgiven hhere hhost hheld hworks =>
    rw [hgiven] at hid
    cases hid
  | releases s store site hs hmade hgiven hhere hhost hheld hfault =>
    obtain rfl : s.handle.id = id := Option.some.inj (hgiven.symm.trans hid)
    have hsame : place = store.place site := Option.some.inj (hplace.symm.trans hhere)
    rw [hhost, Host.slots_tryRelease, if_pos hsame]

/-- Nested scopes leave the slot of their place as it was. -/
theorem Nests.slots (h : Nests place p t q) : q.host.slots place = p.host.slots place := by
  induction h with
  | refl p => rfl
  | apart hnests hstep hquiet ih => rw [slots_step_of_not_touches hstep hquiet, ih]
  | nested hnests hopen hplace hmade hinner hclose hplace' hgiven ih ihinner =>
    obtain ⟨c, hslot⟩ := slots_step_of_made hopen hplace hmade
    rw [slots_step_of_given hclose hplace' hgiven, ihinner, hslot, Slot.close_enter, ih]

end TraceIdentity.Program
