/-
The place of a lexer. Whatever is asked of a lexer, it only ever passes some of the characters ahead, one by one
(`exists_advanceBy`). So the place never goes back and never leaves the text, and the line and column are those that the
text passed leads to (`place_follows_text`).
-/
import Pagewright.Proofs.Text.Lines
import Pagewright.Proofs.Token.Decomposition
import Pagewright.Token.Session

namespace Pagewright

/-! ## Cursors -/

namespace Cursor

theorem position_between (before rest : List Char) : (between before rest).position = before.length := List.length_reverse

/-- passing more characters than there are is passing all of them -/
theorem advanceBy_between_take (before rest : List Char) (n : Nat) :
    (between before rest).advanceBy n = between (before ++ rest.take n) (rest.drop n) := by
  induction n generalizing before rest with
  | zero => simp [advanceBy]
  | succ n ih =>
    cases rest with
    | nil =>
      have hend : (between before []).advance = between before [] := rfl
      rw [advanceBy, hend, ih]
      simp
    | cons c rest => simp [advanceBy, advance_between, ih]

/-- what was passed is the text between the two places -/
theorem take_drop_advanceBy (before rest : List Char) (n : Nat) :
    ((before ++ rest).take ((between before rest).advanceBy n).position).drop before.length = rest.take n := by
  have hposition : ((between before rest).advanceBy n).position = (before ++ rest.take n).length := by
    rw [advanceBy_between_take, position_between]
  have htext : before ++ rest = (before ++ rest.take n) ++ rest.drop n := by
    rw [List.append_assoc, List.take_append_drop]
  rw [hposition, htext, List.take_left, List.drop_left]

/-- the place lies in a text, on the line and in the column that the text before it leads to -/
structure IsIn (c : Cursor) (text : List Char) : Prop where
  within : c.position ≤ text.length
  line : c.line = 1 + (text.take c.position).count '\n'
  column : c.column = 1 + (Text.lastLine (text.take c.position)).length

theorem isIn_between (before rest : List Char) : (between before rest).IsIn (before ++ rest) := by
  have hposition := position_between before rest
  refine ⟨?_, ?_, ?_⟩
  · rw [hposition, List.length_append]
    exact Nat.le_add_right _ _
  · rw [hposition, List.take_left]
    rfl
  · rw [hposition, List.take_left, Nat.add_comm, Text.length_lastLine]
    rfl

end Cursor

namespace Lexer

/-! ## Operations -/

/-- reading all tokens, up to the end or an error, passes some of the characters ahead -/
theorem exists_advanceBy_scan (c : Cursor) : ∃ n, (scan c).cursor = c.advanceBy n := by
  fun_induction scan c with
  | case1 c d h => exact ⟨_, rfl⟩
  | case2 c d ch r h k v more hl ih =>
    obtain ⟨n, hn⟩ := ih
    refine ⟨gapLength false c.ahead + ((more + 1) + n), ?_⟩
    calc (scan (d.advanceBy (more + 1))).cursor
      _ = (d.advanceBy (more + 1)).advanceBy n := hn
      _ = d.advanceBy ((more + 1) + n) := (Cursor.advanceBy_add _ _ _).symm
      _ = c.advanceBy (gapLength false c.ahead + ((more + 1) + n)) := (Cursor.advanceBy_add _ _ _).symm
  | case3 c d ch r h f hl e d' hfault =>
    cases f with
    | unexpected =>
      obtain ⟨-, rfl⟩ := Prod.mk.inj hfault
      exact ⟨_, rfl⟩
    | unterminated =>
      obtain ⟨-, rfl⟩ := Prod.mk.inj hfault
      exact ⟨_, (Cursor.advanceBy_add c _ _).symm⟩

/-- without an error, reading all tokens comes to the end of the text -/
theorem ahead_scan {c : Cursor} (h : (scan c).error = none) : (scan c).cursor.ahead = [] := by
  fun_induction scan c with
  | case1 c d hend => exact hend
  | case2 c d ch r hahead k v more hl ih => exact ih h
  | case3 c d ch r hahead f hl e d' hfault => cases h

theorem exists_advanceBy_readText (c : Cursor) : ∃ n, (readText c).2 = c.advanceBy n := by
  have hone : ∀ n, c.advance.advanceBy n = c.advanceBy (n + 1) := fun _ => rfl
  unfold readText
  dsimp only
  split_ifs
  · exact ⟨_, hone _⟩
  · exact ⟨_, hone _⟩

namespace Session

/-- **One step.** An operation passes some of the characters ahead. -/
theorem exists_advanceBy (s : Session) (op : Operation) : ∃ n, (s.perform op).2.cursor = s.cursor.advanceBy n := by
  cases op with
  | advance => exact ⟨1, rfl⟩
  | skipGaps => exact ⟨_, rfl⟩
  | readText =>
    obtain ⟨n, hn⟩ := exists_advanceBy_readText s.cursor
    refine ⟨n, ?_⟩
    rw [← hn, perform]
    rcases Lexer.readText s.cursor with ⟨_ | t, c⟩ <;> rfl
  | readNumber => exact ⟨_, rfl⟩
  | readWord => exact ⟨_, rfl⟩
  | tokenize =>
    obtain ⟨n, hn⟩ := exists_advanceBy_scan s.cursor
    refine ⟨n, ?_⟩
    rw [← hn, perform]
    cases (scan s.cursor).error <;> rfl

theorem reached_concat (source : String) (ops : List Operation) (op : Operation) :
    reached source (ops ++ [op]) = ((reached source ops).perform op).2 := by
  simp [reached]

/-- **A run.** After any operations the source is parted into what is passed and what is ahead. -/
theorem exists_between (source : String) (ops : List Operation) :
    ∃ before rest, source.toList = before ++ rest ∧ (reached source ops).cursor = Cursor.between before rest := by
  -- from the last operation back, since one step is about the session that the others lead to
  induction ops using List.reverseRecOn with
  | nil => exact ⟨[], source.toList, rfl, rfl⟩
  | append_singleton ops op ih =>
    obtain ⟨before, rest, hsource, hcursor⟩ := ih
    obtain ⟨n, hn⟩ := exists_advanceBy (reached source ops) op
    refine ⟨before ++ rest.take n, rest.drop n, ?_, ?_⟩
    · rw [hsource, List.append_assoc, List.take_append_drop]
    · rw [reached_concat, hn, hcursor, Cursor.advanceBy_between_take]

theorem isIn_reached (source : String) (ops : List Operation) : (reached source ops).cursor.IsIn source.toList := by
  obtain ⟨before, rest, hsource, hcursor⟩ := exists_between source ops
  rw [hsource, hcursor]
  exact Cursor.isIn_between before rest

/-- the place after an operation is as far on as there are characters that it passes -/
theorem position_perform {source : String} {ops : List Operation} {op : Operation} {n : Nat}
    (h : ((reached source ops).perform op).2.cursor = (reached source ops).cursor.advanceBy n) :
    ((reached source ops).perform op).2.cursor.position = min ((reached source ops).cursor.position + n) source.length := by
  obtain ⟨before, rest, hsource, hcursor⟩ := exists_between source ops
  rw [h, hcursor, Cursor.advanceBy_between_take, Cursor.position_between, Cursor.position_between, ← String.length_toList,
    hsource, List.length_append, List.length_append, List.length_take]
  omega

/-- the characters that an operation passes stand between the old place and the new one -/
theorem slice_perform {source : String} {ops : List Operation} {op : Operation} {n : Nat}
    (h : ((reached source ops).perform op).2.cursor = (reached source ops).cursor.advanceBy n) :
    (source.toList.take ((reached source ops).perform op).2.cursor.position).drop (reached source ops).cursor.position =
      (reached source ops).cursor.ahead.take n := by
  obtain ⟨before, rest, hsource, hcursor⟩ := exists_between source ops
  rw [h, hcursor, hsource, Cursor.position_between]
  exact Cursor.take_drop_advanceBy before rest n

/-- with nothing ahead the place is the end of the source -/
theorem position_of_ahead {source : String} {ops : List Operation} (h : (reached source ops).cursor.ahead = []) :
    (reached source ops).cursor.position = source.length := by
  obtain ⟨before, rest, hsource, hcursor⟩ := exists_between source ops
  obtain rfl : rest = [] := by rw [← h, hcursor]; rfl
  rw [hcursor, Cursor.position_between, ← String.length_toList, hsource, List.append_nil]

/-- **The place of a lexer.** After any operations on a source the place lies in it, on the line and in the column that the
text before it leads to. The next operation does not go back: a number or a word is the text between the old place and the
new one, one character is passed unless the source is at its end, and tokens are read up to an error or the end. -/
theorem place_follows_text (source : String) (ops : List Operation) (op : Operation) :
    let s := reached source ops
    let slice := fun op => String.ofList
      ((source.toList.take (s.perform op).2.cursor.position).drop s.cursor.position)
    (s.cursor.IsIn source.toList ∧ (s.perform op).2.cursor.IsIn source.toList ∧
        s.cursor.position ≤ (s.perform op).2.cursor.position) ∧
      (s.perform .readNumber).1 = .text (slice .readNumber) ∧ (s.perform .readWord).1 = .text (slice .readWord) ∧
      (s.perform .advance).2.cursor.position = min (s.cursor.position + 1) source.length ∧
      ((∃ e, (s.perform .tokenize).1 = .error e) ∨ (s.perform .tokenize).2.cursor.position = source.length) := by
  intro s slice
  have hlength : source.toList.length = source.length := String.length_toList
  have hin : s.cursor.IsIn source.toList := isIn_reached source ops
  have hafter : ∀ op, (s.perform op).2.cursor.IsIn source.toList := by
    intro op
    rw [← reached_concat]
    exact isIn_reached source (ops ++ [op])
  refine ⟨⟨hin, hafter op, ?_⟩, ?_, ?_, @position_perform source ops .advance 1 rfl, ?_⟩
  · obtain ⟨n, hn⟩ := exists_advanceBy s op
    have hposition : (s.perform op).2.cursor.position = min (s.cursor.position + n) source.length := position_perform hn
    have hwithin := hin.within
    omega
  · exact congrArg (Answer.text ∘ String.ofList) (@slice_perform source ops .readNumber _ rfl).symm
  · have htake : (s.cursor.ahead.takeWhile Name.isPart) = s.cursor.ahead.take (s.cursor.ahead.takeWhile Name.isPart).length :=
      (List.prefix_iff_eq_take.1 (List.takeWhile_prefix _))
    exact congrArg (Answer.text ∘ String.ofList) (htake.trans (@slice_perform source ops .readWord _ rfl).symm)
  · cases herror : (scan s.cursor).error with
    | some e =>
      refine Or.inl ⟨e, ?_⟩
      simp only [perform, herror]
    | none =>
      have hcursor : (reached source (ops ++ [.tokenize])).cursor = (scan s.cursor).cursor := by
        rw [reached_concat]
        show (s.perform .tokenize).2.cursor = _
        simp only [perform, herror]
      refine Or.inr ?_
      rw [← reached_concat]
      exact position_of_ahead (hcursor ▸ ahead_scan herror)

end Session

end Lexer

end Pagewright
