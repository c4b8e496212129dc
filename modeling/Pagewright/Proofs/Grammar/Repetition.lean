/-
Repetitions, step by step. A step that reads an item passes a token, so the number of steps that a repetition is allowed
never runs out and makes no difference (`manyWithin_eq_many`). A repetition that has read some items goes on like one that
starts after them (`many_after`), and it fails exactly where one of its steps fails (`many_eq_error_iff`).
-/
import Pagewright.Proofs.Grammar.Rule

namespace Pagewright.Grammar

open Pagewright.Grammar.Parser

/-- a sequence fails where its first part fails, or after it where the second does -/
theorem bind_eq_error {α β : Type} (p : Parser α) (f : α → Parser β) (s s' : Session) (e : Fault) :
    (p >>= f) s = (.error e, s') ↔ p s = (.error e, s') ∨ ∃ a m, p s = (.ok a, m) ∧ f a m = (.error e, s') := by
  show andThen p f s = _ ↔ _
  unfold andThen
  cases hp : p s with
  | mk r m =>
    cases r with
    | error e' => simp
    | ok a =>
      constructor
      · intro h
        exact Or.inr ⟨a, m, rfl, h⟩
      · intro h
        rcases h with h | ⟨a', m', h, h'⟩
        · cases h
        · cases h
          exact h'

section

variable {α : Type} {step : Parser (Option α)} {R : Rule α} {stop : Kind → Prop}

/-! ## One step -/

theorem manyWithin_of_none {s m : Session} (h : step s = (.ok none, m)) (n : Nat) :
    manyWithin step (n + 1) s = (.ok [], m) := by
  show andThen step _ s = _
  rw [andThen, h]
  rfl

theorem manyWithin_of_error {s m : Session} {f : Fault} (h : step s = (.error f, m)) (n : Nat) :
    manyWithin step (n + 1) s = (.error f, m) := by
  show andThen step _ s = _
  rw [andThen, h]

/-- an item that is read stands before the others -/
theorem manyWithin_of_some {s m : Session} {a : α} (h : step s = (.ok (some a), m)) (n : Nat) :
    manyWithin step (n + 1) s = ((manyWithin step n m).1.map (a :: ·), (manyWithin step n m).2) := by
  show andThen step _ s = _
  rw [andThen, h]
  show andThen (manyWithin step n) (fun rest => done (a :: rest)) m = _
  unfold andThen
  cases hrest : manyWithin step n m with
  | mk r m' =>
    cases r with
    | ok as => rfl
    | error f => rfl

/-- a step that reads an item leaves fewer tokens -/
theorem length_lt_of_step (h : Accepts step R.optional (stopsAt stop)) (hR : ∀ sk a, ¬ R [] sk a) {s m : Session} {a : α}
    (hs : Ended s.ahead) (hstep : step s = (.ok (some a), m)) : Ended m.ahead ∧ m.ahead.length < s.ahead.length := by
  obtain ⟨ts, sk, hitem, hm, -⟩ := (h s m (some a) hs).1 hstep
  have hpos : 0 < ts.length := List.length_pos_iff.2 fun e => hR sk a (e ▸ hitem)
  refine ⟨hm.ended hs, ?_⟩
  rw [hm.ahead, List.length_append]
  omega

/-! ## All steps -/

/-- with more steps than tokens, it does not matter how many more -/
theorem manyWithin_eq (h : Accepts step R.optional (stopsAt stop)) (hR : ∀ sk a, ¬ R [] sk a) {n n' : Nat} {s : Session}
    (hs : Ended s.ahead) (hn : s.ahead.length < n) (hn' : s.ahead.length < n') :
    manyWithin step n s = manyWithin step n' s := by
  induction n generalizing s n' with
  | zero => omega
  | succ n ih =>
    obtain ⟨n', rfl⟩ : ∃ k, n' = k + 1 := ⟨n' - 1, by omega⟩
    cases hstep : step s with
    | mk r m =>
      cases r with
      | error f => rw [manyWithin_of_error hstep, manyWithin_of_error hstep]
      | ok x =>
        cases x with
        | none => rw [manyWithin_of_none hstep, manyWithin_of_none hstep]
        | some a =>
          obtain ⟨hm, hlt⟩ := length_lt_of_step h hR hs hstep
          rw [manyWithin_of_some hstep, manyWithin_of_some hstep, ih hm (by omega : m.ahead.length < n) (by omega : m.ahead.length < n')]

theorem manyWithin_eq_many (h : Accepts step R.optional (stopsAt stop)) (hR : ∀ sk a, ¬ R [] sk a) {n : Nat} {s : Session}
    (hs : Ended s.ahead) (hn : s.ahead.length < n) : manyWithin step n s = many step s :=
  manyWithin_eq h hR hs hn (Nat.lt_succ_self _)

theorem many_of_some (h : Accepts step R.optional (stopsAt stop)) (hR : ∀ sk a, ¬ R [] sk a) {s m : Session} {a : α}
    (hs : Ended s.ahead) (hstep : step s = (.ok (some a), m)) :
    many step s = ((many step m).1.map (a :: ·), (many step m).2) := by
  obtain ⟨hm, hlt⟩ := length_lt_of_step h hR hs hstep
  rw [← manyWithin_eq_many h hR hm hlt]
  exact manyWithin_of_some hstep _

/-- **Reading on.** After some items a repetition goes on like one that starts there. -/
theorem many_after (h : Accepts step R.optional (stopsAt stop)) (hR : ∀ sk a, ¬ R [] sk a) {ts sk : List Token}
    {as : List α} (hstar : Rule.Star R ts sk as) {s m : Session} (hs : Ended s.ahead) (hm : Moves s ts sk m) :
    many step s = ((many step m).1.map (as ++ ·), (many step m).2) := by
  induction hstar generalizing s with
  | nil =>
    rw [(moves_nil s m).1 hm]
    cases hmany : many step s with
    | mk r s' => cases r <;> rfl
  | @cons ts us sk sl a as hitem _ ih =>
    obtain ⟨m₁, hm₁, hm₂⟩ := (moves_append _ _ _ _ _ _).1 hm
    have hgo : stopsAt stop (some a) m₁.nextKind := fun e => nomatch e
    have hstep : step s = (.ok (some a), m₁) := (h s m₁ (some a) hs).2 ⟨ts, sk, hitem, hm₁, hgo⟩
    rw [many_of_some h hR hs hstep, ih (hm₁.ended hs) hm₂]
    cases hmany : many step m with
    | mk r s' => cases r <;> rfl

/-- **Failure of a repetition.** It fails exactly where, after some items, a step fails. -/
theorem many_eq_error_iff (h : Accepts step R.optional (stopsAt stop)) (hR : ∀ sk a, ¬ R [] sk a) {s s' : Session}
    (hs : Ended s.ahead) (f : Fault) :
    many step s = (.error f, s') ↔ ∃ ts sk as m, Rule.Star R ts sk as ∧ Moves s ts sk m ∧ step m = (.error f, s') := by
  constructor
  · intro hmany
    induction hn : s.ahead.length using Nat.strong_induction_on generalizing s with
    | h n ih =>
      subst hn
      cases hstep : step s with
      | mk r m =>
        cases r with
        | error f' =>
          have hsame : (Except.error f', m) = (Except.error f, s') := (manyWithin_of_error hstep _).symm.trans hmany
          cases hsame
          exact ⟨[], [], [], s, .nil, (moves_nil s s).2 rfl, hstep⟩
        | ok x =>
          cases x with
          | none =>
            have hsame : (Except.ok [], m) = (Except.error f, s') := (manyWithin_of_none hstep _).symm.trans hmany
            cases hsame
          | some a =>
            obtain ⟨hm, hlt⟩ := length_lt_of_step h hR hs hstep
            obtain ⟨ts, sk, hitem, hmoves, -⟩ := (h s m (some a) hs).1 hstep
            rw [many_of_some h hR hs hstep] at hmany
            have hrest : many step m = (.error f, s') := by
              cases hr : many step m with
              | mk r m' =>
                rw [hr] at hmany
                cases r with
                | ok as => cases hmany
                | error f' => exact hmany
            obtain ⟨us, sl, as, m', hstar, hm', hfail⟩ := ih m.ahead.length hlt hm hrest rfl
            exact ⟨ts ++ us, sk ++ sl, a :: as, m', .cons hitem hstar, (moves_append _ _ _ _ _ _).2 ⟨m, hmoves, hm'⟩, hfail⟩
  · intro hfail
    obtain ⟨ts, sk, as, m, hstar, hm, hstep⟩ := hfail
    have hstop : many step m = (.error f, s') := manyWithin_of_error hstep _
    rw [many_after h hR hstar hs hm, hstop]
    rfl

end

end Pagewright.Grammar
