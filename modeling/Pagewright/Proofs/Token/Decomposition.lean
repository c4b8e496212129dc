/-
The lexer accepts exactly the lexical grammar and places every token. A source has tokens exactly when it falls into
lexemes with trivia between them, in which case it does so in one way; a token then carries the line and column that the
text before its lexeme leads to (`tokenize_eq_ok_iff`).

A cursor is known by the text before it and the text after it (`Cursor.between`): every step of the lexer moves a piece
of text from the one to the other, and the line and column follow.
-/
import Pagewright.Proofs.Token.Lexeme

namespace Pagewright

/-! ## Places -/

namespace Cursor

def between (before rest : List Char) : Cursor := ⟨before.reverse, rest, lineOf before, columnOf before⟩

theorem advance_between (before : List Char) (c : Char) (rest : List Char) :
    (between before (c :: rest)).advance = between (before ++ [c]) rest := by
  by_cases hc : c = '\n'
  · simp [between, advance, hc, lineOf, columnOf, Nat.add_assoc]
  · simp [between, advance, hc, lineOf, columnOf, List.count_cons_of_ne hc, Nat.add_comm]

/-- passing a piece of text moves it to the text before the cursor -/
theorem advanceBy_between (before s rest : List Char) :
    (between before (s ++ rest)).advanceBy s.length = between (before ++ s) rest := by
  induction s generalizing before with
  | nil => simp [advanceBy]
  | cons c s ih => rw [List.cons_append, List.length_cons, advanceBy, advance_between, ih, List.append_assoc]; rfl

theorem advanceBy_add (c : Cursor) (m n : Nat) : c.advanceBy (m + n) = (c.advanceBy m).advanceBy n := by
  induction m generalizing c with
  | zero => rw [Nat.zero_add]; rfl
  | succ m ih => rw [Nat.add_right_comm, advanceBy, ih, advanceBy]

end Cursor

namespace Lexer

/-! ## Decompositions -/

/-- a text after `before` falls into pieces, each some trivia and a lexeme, and trivia at its end; and these are its tokens,
with the end of the source last -/
inductive Decomposes : List Char → List Char → List (List Char × List Char) → List Char → List Token → Prop
  | finish {before s : List Char} (hs : Trivia [] s) :
      Decomposes before s [] s [⟨.finish, "", Cursor.lineOf (before ++ s), Cursor.columnOf (before ++ s)⟩]
  | token {before s l rest last v : List Char} {pieces : List (List Char × List Char)} {k : Kind} {ts : List Token}
      (hs : Trivia (l ++ rest) s) (hl : IsLexeme l rest k v) (h : Decomposes (before ++ s ++ l) rest pieces last ts) :
      Decomposes before (s ++ (l ++ rest)) ((s, l) :: pieces) last
        (⟨k, String.ofList v, Cursor.lineOf (before ++ s), Cursor.columnOf (before ++ s)⟩ :: ts)

/-- the pieces make up the text -/
theorem Decomposes.text_eq {before text last : List Char} {pieces : List (List Char × List Char)} {ts : List Token}
    (h : Decomposes before text pieces last ts) : text = (pieces.flatMap fun p => p.1 ++ p.2) ++ last := by
  induction h with
  | finish => rfl
  | token _ _ _ ih => simp [← ih]

/-- trivia before a lexeme is all the trivia there -/
theorem gapLength_before {s l rest v : List Char} {k : Kind} (hs : Trivia (l ++ rest) s) (hl : IsLexeme l rest k v) :
    gapLength false (s ++ (l ++ rest)) = s.length := by
  rw [gapLength_trivia hs, gapLength_lexeme hl, Nat.add_zero]

/-- trivia at the end of a text is all of it -/
theorem gapLength_last {s : List Char} (hs : Trivia [] s) : gapLength false s = s.length := by
  simpa [gapLength] using gapLength_trivia hs

theorem IsLexeme.length_pos {l rest v : List Char} {k : Kind} (h : IsLexeme l rest k v) : 0 < l.length := by
  obtain ⟨c, w, rfl, -⟩ := lexeme_eq_token h
  simp

/-- a text has one decomposition -/
theorem Decomposes.unique {before text last last' : List Char} {pieces pieces' : List (List Char × List Char)}
    {ts ts' : List Token} (h : Decomposes before text pieces last ts) (h' : Decomposes before text pieces' last' ts') :
    pieces = pieces' ∧ last = last' ∧ ts = ts' := by
  induction h generalizing pieces' last' ts' with
  | @finish before s hs =>
    generalize htext : s = text at h'
    cases h' with
    | finish => exact ⟨rfl, rfl, rfl⟩
    | @token _ s' l' rest' _ _ _ _ _ hs' hl' _ =>
      -- a lexeme would have to stand where the text is already at its end
      have hgap := gapLength_last hs
      rw [htext, gapLength_before hs' hl'] at hgap
      have := hl'.length_pos
      simp only [List.length_append] at hgap
      omega
  | @token before s l rest last v pieces k ts hs hl _ ih =>
    generalize htext : s ++ (l ++ rest) = text at h'
    have hgap := gapLength_before hs hl
    rw [htext] at hgap
    cases h' with
    | finish hs' =>
      have hlen := congrArg List.length htext
      rw [gapLength_last hs'] at hgap
      have := hl.length_pos
      simp only [List.length_append] at hlen
      omega
    | token hs' hl' h' =>
      rw [gapLength_before hs' hl'] at hgap
      obtain ⟨rfl, htail⟩ := List.append_inj htext hgap.symm
      obtain ⟨rfl, rfl, rfl, rfl⟩ := hl.unique hl' htail
      obtain ⟨rfl, rfl, rfl⟩ := ih h'
      exact ⟨rfl, rfl, rfl⟩

/-! ## Scanning -/

/-- trivia is skipped up to the first lexeme or the end -/
theorem skipGaps_between (before : List Char) {s : List Char} (rest : List Char)
    (h : gapLength false (s ++ rest) = s.length) :
    skipGaps (Cursor.between before (s ++ rest)) = Cursor.between (before ++ s) rest := by
  show (Cursor.between before (s ++ rest)).advanceBy (gapLength false (s ++ rest)) = _
  rw [h, Cursor.advanceBy_between]

theorem scan_finish {c : Cursor} (h : (skipGaps c).ahead = []) :
    scan c = ⟨[⟨.finish, "", (skipGaps c).line, (skipGaps c).column⟩], skipGaps c, none⟩ := by
  rw [scan]
  split
  · rfl
  · simp_all

theorem scan_token {c : Cursor} {ch : Char} {r : List Char} {k : Kind} {v : List Char} {n : Nat}
    (h : (skipGaps c).ahead = ch :: r) (hl : lexeme ch r = .token k v n) :
    scan c = (scan ((skipGaps c).advanceBy (n + 1))).cons ⟨k, String.ofList v, (skipGaps c).line, (skipGaps c).column⟩ := by
  rw [scan]
  split
  · simp_all
  · rename_i heq
    obtain ⟨rfl, rfl⟩ := List.cons.inj (h.symm.trans heq)
    rw [hl]

theorem scan_fault {c : Cursor} {ch : Char} {r : List Char} {f : LexFault} (h : (skipGaps c).ahead = ch :: r)
    (hl : lexeme ch r = .fault f) : (scan c).error = some (faultAt (skipGaps c) ch f).1 := by
  rw [scan]
  split
  · simp_all
  · rename_i heq
    obtain ⟨rfl, rfl⟩ := List.cons.inj (h.symm.trans heq)
    rw [hl]

/-- a text that decomposes is scanned into its tokens -/
theorem scan_of_decomposes {before text last : List Char} {pieces : List (List Char × List Char)} {ts : List Token}
    (h : Decomposes before text pieces last ts) :
    (scan (Cursor.between before text)).error = none ∧ (scan (Cursor.between before text)).tokens = ts := by
  induction h with
  | @finish before s hs =>
    have hskip : skipGaps (Cursor.between before s) = Cursor.between (before ++ s) [] := by
      simpa using skipGaps_between before [] (by simpa using gapLength_last hs)
    rw [scan_finish (by rw [hskip]; rfl), hskip]
    exact ⟨rfl, rfl⟩
  | @token before s l rest last v pieces k ts hs hl _ ih =>
    have hskip := skipGaps_between before (l ++ rest) (gapLength_before hs hl)
    obtain ⟨c, w, rfl, hlex⟩ := lexeme_eq_token hl
    rw [scan_token (by rw [hskip]; rfl) hlex, hskip]
    have hnext := Cursor.advanceBy_between (before ++ s) (c :: w) rest
    rw [List.length_cons] at hnext
    rw [hnext]
    exact ⟨ih.1, congrArg (List.cons _) ih.2⟩

/-- a text that is scanned without an error decomposes -/
theorem decomposes_of_scan (before text : List Char) (h : (scan (Cursor.between before text)).error = none) :
    ∃ pieces last, Decomposes before text pieces last (scan (Cursor.between before text)).tokens := by
  induction hn : text.length using Nat.strong_induction_on generalizing before text with
  | h n ih =>
    subst hn
    obtain ⟨s, rest, rfl, hlen, hs⟩ := trivia_gapLength text
    have hskip := skipGaps_between before rest hlen.symm
    cases rest with
    | nil =>
      rw [scan_finish (by rw [hskip]; rfl), hskip, List.append_nil]
      exact ⟨[], s, .finish hs⟩
    | cons c r =>
      have hahead : (skipGaps (Cursor.between before (s ++ c :: r))).ahead = c :: r := by rw [hskip]; rfl
      cases hlex : lexeme c r with
      | fault f =>
        rw [scan_fault hahead hlex] at h
        cases h
      | token k v n =>
        obtain ⟨w, rest, rfl, rfl, hl⟩ := isLexeme_of_token hlex
        have hnext := Cursor.advanceBy_between (before ++ s) (c :: w) rest
        rw [List.length_cons] at hnext
        rw [scan_token hahead hlex, hskip] at h ⊢
        rw [List.cons_append] at hnext
        rw [hnext] at h ⊢
        obtain ⟨pieces, last, hd⟩ := ih rest.length (by simp; omega) (before ++ s ++ c :: w) rest h rfl
        exact ⟨(s, c :: w) :: pieces, last, .token hs hl hd⟩

end Lexer

/-- a source with tokens decomposes into them -/
theorem exists_decomposes {source : String} {ts : List Token} (h : tokenize source = .ok ts) :
    ∃ pieces last, Lexer.Decomposes [] source.toList pieces last ts := by
  have hstart : Cursor.start source.toList = Cursor.between [] source.toList := rfl
  unfold tokenize at h
  rw [hstart] at h
  cases he : (Lexer.scan (Cursor.between [] source.toList)).error with
  | some e => simp [he] at h
  | none =>
    obtain ⟨pieces, last, hd⟩ := Lexer.decomposes_of_scan [] source.toList he
    simp only [he, Except.ok.injEq] at h
    exact ⟨pieces, last, h ▸ hd⟩

/-- a source that decomposes has the tokens that it decomposes into -/
theorem tokenize_of_decomposes {source : String} {pieces : List (List Char × List Char)} {last : List Char}
    {ts : List Token} (h : Lexer.Decomposes [] source.toList pieces last ts) : tokenize source = .ok ts := by
  have hstart : Cursor.start source.toList = Cursor.between [] source.toList := rfl
  obtain ⟨he, hts⟩ := Lexer.scan_of_decomposes h
  unfold tokenize
  rw [hstart]
  simp [he, hts]

/-- **The lexer accepts exactly the lexical grammar.** A source has tokens exactly when it falls into lexemes with trivia
between them that are written for these tokens, each token being placed where the text before its lexeme leads to; and no
source does so in two ways. -/
theorem tokenize_eq_ok_iff (source : String) :
    (∀ ts, tokenize source = .ok ts ↔ ∃ pieces last, source.toList = (pieces.flatMap fun p => p.1 ++ p.2) ++ last ∧
        Lexer.Decomposes [] source.toList pieces last ts) ∧
      ∀ pieces last ts pieces' last' ts', Lexer.Decomposes [] source.toList pieces last ts →
        Lexer.Decomposes [] source.toList pieces' last' ts' → pieces = pieces' ∧ last = last' ∧ ts = ts' := by
  refine ⟨fun ts => ⟨fun h => ?_, ?_⟩, fun _ _ _ _ _ _ h h' => h.unique h'⟩
  · obtain ⟨pieces, last, hd⟩ := exists_decomposes h
    exact ⟨pieces, last, hd.text_eq, hd⟩
  · rintro ⟨pieces, last, -, hd⟩
    exact tokenize_of_decomposes hd

/-- a comment, a number next to a word, and a text over two lines with a doubled backslash before a quote -/
theorem tokenize_eq_ok_iff_comment :
    ∃ pieces last, "//1\n2.5a\"\\\\\"\n\"".toList = (pieces.flatMap fun p => p.1 ++ p.2) ++ last ∧
      Lexer.Decomposes [] "//1\n2.5a\"\\\\\"\n\"".toList pieces last
        [⟨.number, "2.5", 2, 1⟩, ⟨.identifier, "a", 2, 4⟩, ⟨.text, "\\\"\n", 2, 5⟩, ⟨.finish, "", 3, 2⟩] :=
  ((tokenize_eq_ok_iff _).1 _).1 (by decide +kernel)

end Pagewright
