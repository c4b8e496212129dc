/-
Sources one after the other. A line end between two sources keeps every lexeme of the first as it is, since no word, number
or comment reaches over it, and the second is read as if it stood alone, further down (`tokenize_append_line`): an error in
it is the same one at a lower line.

The second source is read from a cursor that differs in its line alone (`Below`), which each step of the lexer keeps.
-/
import Pagewright.Proofs.Token.Decomposition

namespace Pagewright

/-- the token, some lines further down -/
def Token.lowered (n : Nat) (t : Token) : Token := { t with line := t.line + n }

/-- the error, some lines further down -/
def LexError.lowered (n : Nat) (e : LexError) : LexError := { e with line := e.line + n }

namespace Lexer

/-! ## A cursor further down -/

/-- the second cursor sees the same text, some lines further down -/
structure Below (n : Nat) (c d : Cursor) : Prop where
  ahead : d.ahead = c.ahead
  line : d.line = c.line + n
  column : d.column = c.column

section

variable {n : Nat} {c d : Cursor}

theorem Below.advance (h : Below n c d) : Below n c.advance d.advance := by
  obtain ⟨hahead, hline, hcolumn⟩ := h
  cases hc : c.ahead with
  | nil => simpa [Cursor.advance, hc, hahead] using Below.mk hahead hline hcolumn
  | cons ch rest =>
    by_cases hch : ch = '\n'
    · simp only [Cursor.advance, hc, hahead, hch, if_true]
      exact ⟨rfl, by simp only [hline]; omega, rfl⟩
    · simp only [Cursor.advance, hc, hahead, hch, if_false]
      exact ⟨rfl, hline, by simp only [hcolumn]⟩

theorem Below.advanceBy (h : Below n c d) (k : Nat) : Below n (c.advanceBy k) (d.advanceBy k) := by
  induction k generalizing c d with
  | zero => exact h
  | succ k ih => exact ih h.advance

theorem Below.skipGaps (h : Below n c d) : Below n (skipGaps c) (skipGaps d) := by
  unfold Lexer.skipGaps
  rw [h.ahead]
  exact h.advanceBy _

theorem Below.faultAt (h : Below n c d) (ch : Char) (f : LexFault) :
    (faultAt d ch f).1 = (faultAt c ch f).1.lowered n := by
  cases f <;> simp [Lexer.faultAt, unterminatedAt, LexError.lowered, h.line, h.column]

end

/-! ## What a scan comes to -/

/-- the tokens, or the error that reading stopped at -/
def Scan.outcome (s : Scan) : Except LexError (List Token) :=
  match s.error with
  | some e => .error e
  | none => .ok s.tokens

theorem outcome_cons (t : Token) (s : Scan) : (s.cons t).outcome = s.outcome.map (t :: ·) := by
  obtain ⟨ts, c, e⟩ := s
  cases e <;> rfl

/-- tokens or an error, some lines further down -/
def lowered (n : Nat) (r : Except LexError (List Token)) : Except LexError (List Token) :=
  (r.map (List.map (Token.lowered n))).mapError (LexError.lowered n)

theorem lowered_map_cons (n : Nat) (t : Token) (r : Except LexError (List Token)) :
    lowered n (r.map (t :: ·)) = (lowered n r).map (t.lowered n :: ·) := by
  cases r <;> rfl

/-- from further down the same tokens are read, or the same error, further down -/
theorem outcome_below {n : Nat} {c d : Cursor} (h : Below n c d) : (scan d).outcome = lowered n (scan c).outcome := by
  induction hlen : c.ahead.length using Nat.strong_induction_on generalizing c d with
  | h len ih =>
    subst hlen
    have hskip := h.skipGaps
    cases hahead : (skipGaps c).ahead with
    | nil =>
      rw [scan_finish hahead, scan_finish (hskip.ahead.trans hahead), hskip.line, hskip.column]
      rfl
    | cons ch r =>
      have hahead' := hskip.ahead.trans hahead
      cases hlex : lexeme ch r with
      | fault f =>
        simp only [Scan.outcome, scan_fault hahead hlex, scan_fault hahead' hlex, hskip.faultAt]
        rfl
      | token k v more =>
        have hlt : ((skipGaps c).advanceBy (more + 1)).ahead.length < c.ahead.length := by
          have := length_skipGaps_le c
          rw [Cursor.ahead_advanceBy, List.length_drop]
          rw [hahead] at this ⊢
          simp only [List.length_cons] at this ⊢
          omega
        rw [scan_token hahead hlex, scan_token hahead' hlex, outcome_cons, outcome_cons, lowered_map_cons,
          ih _ hlt (hskip.advanceBy _) rfl, hskip.line, hskip.column]
        rfl

/-! ## Over a line end -/

/-- what separates tokens does so before a line end too -/
theorem Trivia.before_line {rest s : List Char} (h : Trivia rest s) (more : List Char) :
    Trivia (rest ++ '\n' :: more) s := by
  induction h with
  | nil => exact .nil
  | separator hc _ ih => exact .separator hc ih
  | @comment body s hbody hend _ ih =>
    refine .comment hbody (Or.inr ?_) ih
    rw [← List.append_assoc, List.head?_append]
    rcases hend with hend | hend
    · simp [hend]
    · rw [hend]
      rfl

/-- a longest piece of a class without line ends stays the longest before one -/
theorem Longest.before_line {P : List Char → Prop} {l rest : List Char} (h : Longest P l rest)
    (hP : ∀ w, P w → '\n' ∉ w) (more : List Char) : Longest P l (rest ++ '\n' :: more) := by
  intro w tail heq hw
  rcases List.append_eq_append_iff.1 heq with ⟨past, rfl, hpast⟩ | ⟨left, rfl, -⟩
  · cases past with
    | nil => exact h _ [] (by simp) hw
    | cons c past =>
      -- the piece would reach over the line end
      obtain ⟨rfl, -⟩ := List.cons.inj hpast
      exact absurd (by simp) (hP _ hw)
  · exact h w left rfl hw

theorem line_end_not_mem_name (w : List Char) (h : Name.isName w = true) : '\n' ∉ w := by
  intro hmem
  cases w with
  | nil => cases hmem
  | cons c r =>
    simp only [Name.isName, Bool.and_eq_true, List.all_eq_true] at h
    rcases List.mem_cons.1 hmem with rfl | hr
    · exact absurd h.1 (by decide)
    · exact absurd (h.2 _ hr) (by decide)

theorem line_end_not_mem_numeral (w : List Char) (h : Number.IsNumeral w) : '\n' ∉ w :=
  fun hmem => absurd (h.2.1 _ hmem) (by decide)

theorem IsLexeme.before_line {l rest v : List Char} {k : Kind} (h : IsLexeme l rest k v) (more : List Char) :
    IsLexeme l (rest ++ '\n' :: more) k v := by
  cases h with
  | mark h => exact .mark h
  | word hw hmax hk => exact .word hw (hmax.before_line line_end_not_mem_name more) hk
  | number hn hmax => exact .number hn (hmax.before_line line_end_not_mem_numeral more)
  | text hbody => exact .text hbody

theorem scan_of_skipGaps {c d : Cursor} (h : skipGaps c = skipGaps d) : scan c = scan d := by
  rw [scan, scan, h]

/-- what separates tokens may as well have been passed -/
theorem scan_trivia (before : List Char) {s rest : List Char} (h : Trivia rest s) :
    scan (Cursor.between before (s ++ rest)) = scan (Cursor.between (before ++ s) rest) := by
  apply scan_of_skipGaps
  show (Cursor.between before (s ++ rest)).advanceBy (gapLength false (s ++ rest)) =
    (Cursor.between (before ++ s) rest).advanceBy (gapLength false rest)
  rw [gapLength_trivia h, Cursor.advanceBy_add, Cursor.advanceBy_between]

/-- before a line end the tokens of a text are those it has alone, without the end of the source -/
theorem outcome_before_line {before text last : List Char} {pieces : List (List Char × List Char)} {ts : List Token}
    (h : Decomposes before text pieces last ts) (more : List Char) :
    (scan (Cursor.between before (text ++ '\n' :: more))).outcome =
      (scan (Cursor.between (before ++ text) ('\n' :: more))).outcome.map (ts.dropLast ++ ·) := by
  induction h with
  | @finish before s hs =>
    have hpass := scan_trivia before (hs.before_line more)
    rw [List.nil_append] at hpass
    rw [hpass]
    cases (scan (Cursor.between (before ++ s) ('\n' :: more))).outcome <;> rfl
  | @token before s l rest last v pieces k ts hs hl h ih =>
    have hs' := hs.before_line more
    have hl' := hl.before_line more
    rw [List.append_assoc] at hs'
    have hskip := skipGaps_between before (l ++ (rest ++ '\n' :: more)) (gapLength_before hs' hl')
    obtain ⟨c, w, rfl, hlex⟩ := lexeme_eq_token hl'
    have hnext := Cursor.advanceBy_between (before ++ s) (c :: w) (rest ++ '\n' :: more)
    rw [List.length_cons] at hnext
    have htext : s ++ (c :: w ++ rest) ++ '\n' :: more = s ++ (c :: w ++ (rest ++ '\n' :: more)) := by simp
    have hbefore : before ++ (s ++ (c :: w ++ rest)) = before ++ s ++ c :: w ++ rest := by simp
    have hts : ts ≠ [] := by cases h <;> simp
    rw [htext, hbefore, scan_token (by rw [hskip]; rfl) hlex, hskip, hnext, outcome_cons, ih, List.dropLast_cons_of_ne_nil hts]
    cases (scan (Cursor.between (before ++ s ++ c :: w ++ rest) ('\n' :: more))).outcome <;> rfl

end Lexer

/-- **Sources one after the other.** Below a source with tokens, a source is read as if it stood alone, further down. -/
theorem tokenize_append_line {source : String} {ts : List Token} (h : tokenize source = .ok ts) (source' : String) :
    tokenize (source ++ "\n" ++ source') =
      (Lexer.lowered (source.toList.count '\n' + 1) (tokenize source')).map (ts.dropLast ++ ·) := by
  obtain ⟨pieces, last, hd⟩ := exists_decomposes h
  have hbreak : Lexer.Trivia source'.toList ['\n'] := .separator (Or.inl (by decide)) .nil
  have hbelow : Lexer.Below (source.toList.count '\n' + 1) (Cursor.between [] source'.toList)
      (Cursor.between (source.toList ++ ['\n']) source'.toList) := by
    refine ⟨rfl, ?_, ?_⟩
    · simp [Cursor.between, Cursor.lineOf]
    · simp [Cursor.between, Cursor.columnOf]
  calc tokenize (source ++ "\n" ++ source')
      = (Lexer.scan (Cursor.between [] (source.toList ++ '\n' :: source'.toList))).outcome := by
        show (Lexer.scan (Cursor.between [] (source ++ "\n" ++ source').toList)).outcome = _
        simp
    _ = (Lexer.scan (Cursor.between source.toList ('\n' :: source'.toList))).outcome.map (ts.dropLast ++ ·) :=
        Lexer.outcome_before_line hd _
    _ = (Lexer.scan (Cursor.between (source.toList ++ ['\n']) source'.toList)).outcome.map (ts.dropLast ++ ·) := by
        rw [← Lexer.scan_trivia source.toList hbreak]
        rfl
    _ = (Lexer.lowered (source.toList.count '\n' + 1) (tokenize source')).map (ts.dropLast ++ ·) := by
        rw [Lexer.outcome_below hbelow]
        rfl

/-- two sources with tokens, the first one without its end -/
theorem tokenize_append_ok {source source' : String} {ts us : List Token} (h : tokenize source = .ok ts)
    (h' : tokenize source' = .ok us) :
    tokenize (source ++ "\n" ++ source') =
      .ok (ts.dropLast ++ us.map (Token.lowered (source.toList.count '\n' + 1))) := by
  rw [tokenize_append_line h, h']
  rfl

end Pagewright
