/-
What is left of a text without the control sequences of a terminal. A control sequence lies within one line, so a text loses
them line by line (`visible_unlines`), and a text without an escape character is kept before any other (`visible_append`). A
text is left as it is exactly if it holds no control sequence (`visible_eq_self_iff`). `Channel.Unstyles` says of a channel that
it is given what is left, unless it is a terminal.
-/
import Mathlib.Data.List.TakeWhile
import Mathlib.Tactic
import Pagewright.Console.Host
import Pagewright.Console.Plain
import Pagewright.Proofs.Text.Lines
import Pagewright.Proofs.Token.Lexeme

namespace Pagewright.Console

open Text (Lines unlines)

/-! ## Sequences -/

theorem not_isParameter_of_isAlpha {c : Char} (h : c.isAlpha = true) : isParameter c = false := by
  rw [Bool.eq_false_iff]
  intro hc
  simp only [isParameter, Bool.or_eq_true, decide_eq_true_eq] at hc
  rcases hc with (rfl | rfl) | hdigit
  · exact absurd h (by decide)
  · exact absurd h (by decide)
  · have hstart : Name.isStart c = true := by simp [Name.isStart, h]
    simp [Lexer.isDigit_of_isStart hstart] at hdigit

/-- what stands after an escape character: a bracket, parameters, and a letter -/
theorem sequenceLength?_eq_some_iff {r : List Char} {n : Nat} : sequenceLength? r = some n ↔
    ∃ ps c t, r = '[' :: (ps ++ c :: t) ∧ (∀ p ∈ ps, isParameter p = true) ∧ c.isAlpha = true ∧ n = ps.length + 2 := by
  constructor
  · intro h
    unfold sequenceLength? at h
    split at h
    · rename_i r
      dsimp only at h
      split at h
      · rename_i c t hdrop
        split_ifs at h with hc
        have hsplit := List.take_append_drop (r.takeWhile isParameter).length r
        rw [← List.prefix_iff_eq_take.1 (List.takeWhile_prefix isParameter), hdrop] at hsplit
        exact ⟨r.takeWhile isParameter, c, t, congrArg _ hsplit.symm, fun p hp => List.mem_takeWhile_imp hp, hc,
          (Option.some.inj h).symm⟩
      · cases h
    · cases h
  · rintro ⟨ps, c, t, rfl, hps, hc, rfl⟩
    have hstop : ¬isParameter c = true := by simp [not_isParameter_of_isAlpha hc]
    have hparameters : (ps ++ c :: t).takeWhile isParameter = ps := by
      rw [List.takeWhile_append_of_pos hps, List.takeWhile_cons_of_neg hstop, List.append_nil]
    simp [sequenceLength?, hparameters, hc]

theorem le_length_of_sequenceLength? {r : List Char} {n : Nat} (h : sequenceLength? r = some n) : n ≤ r.length := by
  obtain ⟨ps, c, t, rfl, -, -, rfl⟩ := sequenceLength?_eq_some_iff.1 h
  simp only [List.length_cons, List.length_append]
  omega

/-- a line end stops what may become a control sequence -/
theorem sequenceLength?_append_line (r t : List Char) : sequenceLength? (r ++ '\n' :: t) = sequenceLength? r := by
  refine Option.ext fun n => ?_
  simp only [sequenceLength?_eq_some_iff]
  constructor
  · rintro ⟨ps, c, t', h, hps, hc, rfl⟩
    have hflat : '\n' ∉ '[' :: ps ++ [c] := by
      rw [List.mem_append, List.mem_cons, List.mem_singleton]
      rintro ((h | h) | rfl)
      · cases h
      · exact absurd (hps _ h) (by decide)
      · exact absurd hc (by decide)
    have hsplit : r ++ '\n' :: t = '[' :: ps ++ [c] ++ t' := by simpa using h
    rcases List.append_eq_append_iff.1 hsplit with ⟨a, ha, hat⟩ | ⟨a, ha, hat⟩
    · cases a with
      | nil => exact ⟨ps, c, [], by simpa using ha.symm, hps, hc, rfl⟩
      | cons d a =>
        obtain ⟨rfl, -⟩ := List.cons.inj hat
        exact absurd (ha ▸ by simp) hflat
    · exact ⟨ps, c, a, by simpa using ha, hps, hc, rfl⟩
  · rintro ⟨ps, c, t', rfl, hps, hc, rfl⟩
    exact ⟨ps, c, t' ++ '\n' :: t, by simp, hps, hc, rfl⟩

/-! ## Texts without them -/

theorem plain_cons_of_ne {c : Char} (hc : c ≠ '\x1b') (r : List Char) : plain (c :: r) = c :: plain r := by
  rw [plain, if_neg hc]

theorem plain_escape_none {r : List Char} (h : sequenceLength? r = none) : plain ('\x1b' :: r) = '\x1b' :: plain r := by
  rw [plain, if_pos rfl, h]

theorem plain_escape_some {r : List Char} {n : Nat} (h : sequenceLength? r = some n) :
    plain ('\x1b' :: r) = plain (r.drop n) := by
  rw [plain, if_pos rfl, h]

/-- text without an escape character is kept before any other -/
theorem plain_append {u : List Char} (hu : '\x1b' ∉ u) (t : List Char) : plain (u ++ t) = u ++ plain t := by
  induction u with
  | nil => rfl
  | cons c u ih =>
    rw [List.mem_cons, not_or] at hu
    rw [List.cons_append, plain_cons_of_ne (Ne.symm hu.1), ih hu.2, List.cons_append]

/-- a line loses its control sequences by itself -/
theorem plain_append_line (u t : List Char) : plain (u ++ '\n' :: t) = plain u ++ '\n' :: plain t := by
  induction hn : u.length using Nat.strong_induction_on generalizing u with
  | h n ih =>
    subst hn
    cases u with
    | nil =>
      rw [List.nil_append, plain_cons_of_ne (by decide), plain.eq_def []]
      rfl
    | cons c u =>
      rw [List.cons_append]
      by_cases hc : c = '\x1b'
      · subst hc
        cases hseq : sequenceLength? u with
        | none =>
          rw [plain_escape_none (by rw [sequenceLength?_append_line, hseq]), plain_escape_none hseq,
            ih u.length (by simp) u rfl, List.cons_append]
        | some n =>
          have hn := le_length_of_sequenceLength? hseq
          have hless : (u.drop n).length < ('\x1b' :: u).length := by
            rw [List.length_drop, List.length_cons]
            omega
          rw [plain_escape_some (by rw [sequenceLength?_append_line, hseq]), plain_escape_some hseq,
            List.drop_append_of_le_length hn, ih _ hless _ rfl]
      · rw [plain_cons_of_ne hc, plain_cons_of_ne hc, ih u.length (by simp) u rfl, List.cons_append]

theorem length_plain_le (s : List Char) : (plain s).length ≤ s.length := by
  fun_induction plain s with
  | case1 => exact Nat.le_refl _
  | case2 r n h ih =>
    rw [List.length_drop] at ih
    rw [List.length_cons]
    omega
  | case3 r h ih =>
    rw [List.length_cons, List.length_cons]
    omega
  | case4 c r hc ih =>
    rw [List.length_cons, List.length_cons]
    omega

/-- an escape character, a bracket, parameters and a letter stand somewhere in the text -/
def HasControlSequence (s : List Char) : Prop :=
  ∃ before ps c after, s = before ++ '\x1b' :: '[' :: (ps ++ c :: after) ∧ (∀ p ∈ ps, isParameter p = true) ∧
    c.isAlpha = true

theorem hasControlSequence_cons {c : Char} {r : List Char} :
    HasControlSequence (c :: r) ↔ (c = '\x1b' ∧ (sequenceLength? r).isSome = true) ∨ HasControlSequence r := by
  constructor
  · rintro ⟨before, ps, d, after, h, hps, hd⟩
    cases before with
    | nil =>
      obtain ⟨rfl, rfl⟩ := List.cons.inj h
      exact Or.inl ⟨rfl, Option.isSome_of_eq_some (sequenceLength?_eq_some_iff.2 ⟨ps, d, after, rfl, hps, hd, rfl⟩)⟩
    | cons x before => exact Or.inr ⟨before, ps, d, after, (List.cons.inj h).2, hps, hd⟩
  · rintro (⟨rfl, h⟩ | ⟨before, ps, d, after, rfl, hps, hd⟩)
    · obtain ⟨n, hn⟩ := Option.isSome_iff_exists.1 h
      obtain ⟨ps, d, after, rfl, hps, hd, -⟩ := sequenceLength?_eq_some_iff.1 hn
      exact ⟨[], ps, d, after, rfl, hps, hd⟩
    · exact ⟨c :: before, ps, d, after, rfl, hps, hd⟩

/-- a text is left as it is exactly if it holds no control sequence -/
theorem plain_eq_self_iff (s : List Char) : plain s = s ↔ ¬HasControlSequence s := by
  induction s with
  | nil =>
    refine iff_of_true (by rw [plain]) ?_
    rintro ⟨before, ps, c, after, h, -⟩
    simp at h
  | cons c r ih =>
    rw [hasControlSequence_cons, not_or]
    by_cases hc : c = '\x1b'
    · subst hc
      cases hseq : sequenceLength? r with
      | none => simp [plain_escape_none hseq, ih]
      | some n =>
        refine iff_of_false (fun h => ?_) (by simp)
        have hlength := congrArg List.length h
        have hle := length_plain_le (r.drop n)
        rw [plain_escape_some hseq, List.length_cons] at hlength
        rw [List.length_drop] at hle
        omega
    · simp [plain_cons_of_ne hc, hc, ih]

/-- what is left of a text for anything but a terminal is what stands outside its control sequences -/
def Channel.Unstyles (c : Channel) : Prop := ∀ s, c.unstyled s = visible s

/-! ## Lines -/

theorem visible_append {s : String} (hs : '\x1b' ∉ s.toList) (t : String) : visible (s ++ t) = s ++ visible t := by
  rw [visible, String.toList_append, plain_append hs, visible, String.ofList_append, String.ofList_toList]

theorem visible_stack (s t : String) : visible (s ++ "\n" ++ t) = visible s ++ "\n" ++ visible t := by
  have htext : (s ++ "\n" ++ t).toList = s.toList ++ '\n' :: t.toList := by simp
  rw [visible, htext, plain_append_line, ← String.toList_inj]
  simp [visible]

/-- two texts on lines of their own stay as they are exactly if both do -/
theorem visible_stack_eq_self_iff {s t : String} :
    visible (s ++ "\n" ++ t) = s ++ "\n" ++ t ↔ visible s = s ∧ visible t = t := by
  constructor
  · intro h
    have hs := length_plain_le s.toList
    have ht := length_plain_le t.toList
    have hlist : plain s.toList ++ '\n' :: plain t.toList = s.toList ++ '\n' :: t.toList := by
      simpa [visible, plain_append_line, ← String.toList_inj] using h
    have hlength := congrArg List.length hlist
    rw [List.length_append, List.length_append, List.length_cons, List.length_cons] at hlength
    obtain ⟨hleft, hright⟩ := List.append_inj hlist (by omega)
    rw [visible, visible, hleft, (List.cons.inj hright).2, String.ofList_toList, String.ofList_toList]
    exact ⟨rfl, rfl⟩
  · rintro ⟨hs, ht⟩
    rw [visible_stack, hs, ht]

/-- lines that are put together lose their control sequences one by one -/
theorem visible_unlines (ls : Lines) : visible (unlines ls) = unlines (ls.map visible) := by
  unfold unlines
  induction ls with
  | nil =>
    rw [List.map_nil, String.intercalate_nil, visible, String.toList_empty, plain]
  | cons l ls ih =>
    cases ls with
    | nil => rw [List.map_cons, List.map_nil, String.intercalate_singleton, String.intercalate_singleton]
    | cons m ms =>
      rw [String.intercalate_cons_cons, visible_stack, ih]
      exact String.intercalate_cons_cons.symm

theorem visible_unlines_eq_self_iff {ls : Lines} : visible (unlines ls) = unlines ls ↔ ∀ l ∈ ls, visible l = l := by
  unfold unlines
  induction ls with
  | nil => simpa [unlines] using visible_unlines []
  | cons l ls ih =>
    cases ls with
    | nil => rw [String.intercalate_singleton, List.forall_mem_singleton]
    | cons m ms => rw [String.intercalate_cons_cons, visible_stack_eq_self_iff, ih, List.forall_mem_cons (l := m :: ms)]

theorem visible_eq_self_iff {s : String} : visible s = s ↔ ¬HasControlSequence s.toList := by
  rw [← plain_eq_self_iff, visible, ← String.toList_inj, String.toList_ofList]

end Pagewright.Console
