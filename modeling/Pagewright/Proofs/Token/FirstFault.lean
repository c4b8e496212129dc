/-
Where a source without tokens stops. The text before the place has tokens of its own, and the place is one that nothing can
start at: a character that begins no token, no comment and separates nothing, or a quote that opens a text literal with no
end (`tokenize_error_at_first_fault`).

What the lexer makes of a piece of text depends on the text after it through its first character alone (`FollowsAs`). The
text before the fault is therefore read in the same way when it stands alone and when anything else comes after the faulty
character (`Reaches`).
-/
import Pagewright.Proofs.Token.Concatenation

namespace Pagewright

namespace Lexer

/-! ## What follows a piece of text -/

/-- the second text follows a piece like the first one: it starts with the same character or there is none of it -/
def FollowsAs (rest rest' : List Char) : Prop := rest' = [] ∨ rest'.head? = rest.head?

theorem followsAs_nil (rest : List Char) : FollowsAs rest [] := Or.inl rfl

theorem followsAs_append (w : List Char) (c : Char) (rest rest' : List Char) :
    FollowsAs (w ++ c :: rest) (w ++ c :: rest') := Or.inr (by simp [List.head?_append])

/-- a piece of text stays before what followed it -/
theorem FollowsAs.append {rest rest' : List Char} (h : FollowsAs rest rest') (w : List Char) :
    w ++ rest' = [] ∨ (w ++ rest').head? = (w ++ rest).head? := by
  cases w with
  | nil => exact h
  | cons c w => exact Or.inr rfl

theorem Trivia.follows {rest rest' s : List Char} (h : Trivia rest s) (hrest : FollowsAs rest rest') : Trivia rest' s := by
  induction h with
  | nil => exact .nil
  | separator hc _ ih => exact .separator hc ih
  | @comment body s hbody hend _ ih =>
    refine .comment hbody ?_ ih
    rcases hrest.append s with hnil | hhead
    · exact Or.inl hnil
    · rcases hend with hnil | hend
      · -- nothing stood after the comment, so nothing stands there now
        rw [hnil] at hhead
        exact Or.inl (List.head?_eq_none_iff.1 hhead)
      · exact Or.inr (hhead.trans hend)

/-- the longest piece of a class stays so, when what follows could add its first character alone -/
theorem Longest.follows {P : List Char → Prop} {l rest rest' : List Char} (h : Longest P l rest)
    (hP : ∀ c w, P (l ++ c :: w) → P (l ++ [c])) (hrest : FollowsAs rest rest') : Longest P l rest' := by
  intro more tail heq hmore
  cases more with
  | nil => rfl
  | cons c w =>
    subst heq
    obtain ⟨rest, rfl⟩ : ∃ r, rest = c :: r := by
      rcases hrest with hnil | hhead
      · cases hnil
      · exact List.head?_eq_some_iff.1 hhead.symm
    exact absurd (h [c] rest rfl (hP c w hmore)) (List.cons_ne_nil c [])

theorem IsLexeme.follows {l rest rest' v : List Char} {k : Kind} (h : IsLexeme l rest k v)
    (hrest : FollowsAs rest rest') : IsLexeme l rest' k v := by
  cases h with
  | mark h => exact .mark h
  | word hw hmax hk =>
    refine .word hw (hmax.follows (fun c w hc => ?_) hrest) hk
    rw [isName_append hw] at hc ⊢
    intro x hx
    exact hc x (List.mem_cons.2 (Or.inl (List.mem_singleton.1 hx)))
  | number hn hmax =>
    refine .number hn (hmax.follows (fun c w hc => ?_) hrest)
    obtain ⟨d, r, rfl, hd⟩ := hn.exists_cons
    rw [List.cons_append, isNumeral_cons hd] at hc ⊢
    obtain ⟨hdigits, hpoints⟩ := hc
    refine ⟨fun x hx => hdigits x (by simp_all; tauto), ?_⟩
    simp only [List.count_append, List.count_cons, List.count_nil] at hpoints ⊢
    omega
  | text hbody => exact .text hbody

/-! ## Up to the fault -/

/-- the lexer gets through a piece of text before a character: the piece has tokens when it stands alone, and whatever
follows the character, the outcome is decided from there on -/
structure Reaches (before pre : List Char) (c : Char) : Prop where
  alone : ∃ pieces last ts, Decomposes before pre pieces last ts
  onward : ∀ rest, (scan (Cursor.between before (pre ++ c :: rest))).error =
    (scan (Cursor.between (before ++ pre) (c :: rest))).error

theorem reaches_trivia (before : List Char) {s rest : List Char} {c : Char} (hs : Trivia (c :: rest) s) :
    Reaches before s c where
  alone := ⟨[], s, _, .finish (hs.follows (followsAs_nil _))⟩
  onward rest' := by
    have hs' : Trivia (c :: rest') s := hs.follows (followsAs_append [] c rest rest')
    rw [scan_trivia before hs']

/-- a token more is read first -/
theorem Reaches.token {before s l pre rest v : List Char} {c : Char} {k : Kind} (hs : Trivia (l ++ (pre ++ c :: rest)) s)
    (hl : IsLexeme l (pre ++ c :: rest) k v) (h : Reaches (before ++ s ++ l) pre c) : Reaches before (s ++ (l ++ pre)) c where
  alone := by
    obtain ⟨pieces, last, ts, hd⟩ := h.alone
    obtain ⟨x, w, rfl, -⟩ := lexeme_eq_token hl
    have hl' : IsLexeme (x :: w) pre k v := by
      refine hl.follows ?_
      cases pre with
      | nil => exact followsAs_nil _
      | cons => exact Or.inr rfl
    exact ⟨_, _, _, .token (hs.follows (Or.inr rfl)) hl' hd⟩
  onward rest' := by
    have hl' := hl.follows (followsAs_append pre c rest rest')
    have hs' : Trivia (l ++ (pre ++ c :: rest')) s := by
      refine hs.follows ?_
      rw [← List.append_assoc, ← List.append_assoc]
      exact followsAs_append (l ++ pre) c rest rest'
    have hskip := skipGaps_between before _ (gapLength_before hs' hl')
    have hnext := Cursor.advanceBy_between (before ++ s) l (pre ++ c :: rest')
    obtain ⟨x, w, rfl, hlex⟩ := lexeme_eq_token hl'
    rw [List.length_cons] at hnext
    have htext : s ++ (x :: w ++ pre) ++ c :: rest' = s ++ (x :: w ++ (pre ++ c :: rest')) := by simp
    have hbefore : before ++ (s ++ (x :: w ++ pre)) = before ++ s ++ x :: w ++ pre := by simp
    rw [htext, hbefore, scan_token (by rw [hskip]; rfl) hlex, hskip, hnext]
    exact h.onward rest'

/-- a scan that ends in an error reaches the character of a fault -/
theorem exists_reaches {before text : List Char} {e : LexError} (h : (scan (Cursor.between before text)).error = some e) :
    ∃ pre c rest f, text = pre ++ c :: rest ∧ Reaches before pre c ∧ gapLength false (c :: rest) = 0 ∧
      lexeme c rest = .fault f ∧ e = (faultAt (Cursor.between (before ++ pre) (c :: rest)) c f).1 := by
  induction hn : text.length using Nat.strong_induction_on generalizing before text with
  | h n ih =>
    subst hn
    obtain ⟨s, rest, rfl, hlen, hs⟩ := trivia_gapLength text
    have hskip := skipGaps_between before rest hlen.symm
    cases rest with
    | nil =>
      rw [scan_finish (by rw [hskip]; rfl)] at h
      cases h
    | cons c r =>
      have hahead : (skipGaps (Cursor.between before (s ++ c :: r))).ahead = c :: r := by rw [hskip]; rfl
      cases hlex : lexeme c r with
      | fault f =>
        rw [scan_fault hahead hlex, hskip] at h
        have hgap := gapLength_trivia hs
        refine ⟨s, c, r, f, rfl, reaches_trivia before hs, by omega, hlex, (Option.some.inj h).symm⟩
      | token k v n =>
        obtain ⟨w, rest, rfl, rfl, hl⟩ := isLexeme_of_token hlex
        have hnext := Cursor.advanceBy_between (before ++ s) (c :: w) rest
        rw [List.length_cons, List.cons_append] at hnext
        rw [scan_token hahead hlex, hskip, hnext] at h
        obtain ⟨pre, c', rest, f, rfl, hreach, hgap, hfault, rfl⟩ := ih rest.length (by simp; omega) h rfl
        refine ⟨s ++ (c :: w ++ pre), c', rest, f, by simp, hreach.token hs hl, hgap, hfault, ?_⟩
        simp only [List.append_assoc, List.cons_append]

/-! ## The fault -/

/-- a character that begins no token, separates nothing, and does not begin a comment before this text -/
structure Illegal (c : Char) (rest : List Char) : Prop where
  token : ∀ w r k v, ¬ IsLexeme (c :: w) r k v
  separator : ¬ (Text.isBlank c = true ∨ c = byteOrderMark)
  comment : c = '/' → rest.head? ≠ some '/'

/-- a fault right after a text is the error there -/
theorem scan_fault_between (before : List Char) {c : Char} {rest : List Char} {f : LexFault}
    (hgap : gapLength false (c :: rest) = 0) (hlex : lexeme c rest = .fault f) :
    (scan (Cursor.between before (c :: rest))).error = some (faultAt (Cursor.between before (c :: rest)) c f).1 := by
  have hskip : skipGaps (Cursor.between before (c :: rest)) = Cursor.between before (c :: rest) := by
    simpa using skipGaps_between before (s := []) (c :: rest) hgap
  rw [scan_fault (by rw [hskip]; rfl) hlex, hskip]

theorem gapLength_eq_zero_iff {c : Char} {rest : List Char} :
    gapLength false (c :: rest) = 0 ↔ isSeparator c = false ∧ (c = '/' → rest.head? ≠ some '/') := by
  unfold gapLength
  split_ifs with hc hslash <;> simp_all

/-- whether a character is unexpected does not depend on what follows -/
theorem lexeme_unexpected {c : Char} {r : List Char} (h : lexeme c r = .fault .unexpected) (r' : List Char) :
    lexeme c r' = .fault .unexpected := by
  unfold lexeme at h ⊢
  split at h
  · cases h
  · dsimp only at h ⊢
    split_ifs at h with hquote hclosed hdigit hstart
    · cases h
    · simp only [hquote, hdigit, hstart, if_false, Bool.false_eq_true]

/-- nothing starts at an unexpected character -/
theorem illegal_of_unexpected {c : Char} {rest : List Char} (hlex : lexeme c rest = .fault .unexpected)
    (hgap : gapLength false (c :: rest) = 0) : Illegal c rest := by
  obtain ⟨hseparator, hcomment⟩ := gapLength_eq_zero_iff.1 hgap
  refine ⟨fun w r k v hl => ?_, ?_, hcomment⟩
  · obtain ⟨c', w', hcons, htoken⟩ := lexeme_eq_token hl
    obtain ⟨rfl, rfl⟩ := List.cons.inj hcons
    rw [lexeme_unexpected hlex] at htoken
    cases htoken
  · rw [← isSeparator_iff, hseparator]
    decide

theorem open_of_unterminated {c : Char} {r : List Char} (h : lexeme c r = .fault .unterminated) :
    c = '"' ∧ (literal r).closed = false := by
  unfold lexeme at h
  split at h
  · cases h
  · dsimp only at h
    split_ifs at h with hquote hclosed
    · exact ⟨hquote, Bool.eq_false_iff.2 hclosed⟩
    · cases h

/-- every quote after one that is never closed stands right after a backslash -/
theorem quotes_escaped_of_open {r : List Char} (h : (literal r).closed = false) (before after : List Char)
    (heq : r = before ++ '"' :: after) : before.getLast? = some '\\' := by
  fun_induction literal r generalizing before with
  | case1 => simp at heq
  | case2 => cases h
  | case3 r l ih =>
    cases before with
    | nil => simp at heq
    | cons x before =>
      cases before with
      | nil =>
        obtain ⟨rfl, -⟩ := List.cons.inj heq
        rfl
      | cons y before =>
        have hlast := ih h before (List.cons.inj (List.cons.inj heq).2).2
        exact getLast?_cons_eq_some.2 (Or.inr (getLast?_cons_eq_some.2 (Or.inr hlast)))
  | case4 c r hquote hne l ih =>
    cases before with
    | nil => exact absurd (List.cons.inj heq).1 hquote
    | cons x before => exact getLast?_cons_eq_some.2 (Or.inr (ih h before (List.cons.inj heq).2))

end Lexer

/-- what a scan of a source from its start comes to -/
theorem tokenize_eq_error {text : List Char} {e : LexError} :
    tokenize (String.ofList text) = .error e ↔ (Lexer.scan (Cursor.between [] text)).error = some e := by
  have hstart : Cursor.start (String.ofList text).toList = Cursor.between [] text := by rw [String.toList_ofList]; rfl
  unfold tokenize
  rw [hstart]
  dsimp only
  split <;> simp_all

/-- **Lexical errors stand at the first place that cannot be passed.** The error of a source has the character, the line and
the column of one place in it, and the source up to there has tokens. Either the character there is one that nothing starts
with, and every source with the same text up to it and the same character has the same error, unless a comment starts there;
or it is the opening quote of a text literal, and each later quote stands right after a backslash. -/
theorem tokenize_error_at_first_fault {source : String} {e : LexError} (h : tokenize source = .error e) :
    ∃ pre c rest, source.toList = pre ++ c :: rest ∧ e.char = String.singleton c ∧ e.line = Cursor.lineOf pre ∧
      e.column = Cursor.columnOf pre ∧ (∃ ts, tokenize (String.ofList pre) = .ok ts) ∧
      ((e.fault = .unexpected ∧ Lexer.Illegal c rest ∧ ∀ rest', (c = '/' → rest'.head? ≠ some '/') →
          tokenize (String.ofList (pre ++ c :: rest')) = .error e) ∨
        (e.fault = .unterminated ∧ c = '"' ∧ ∀ before after, rest = before ++ '"' :: after → before.getLast? = some '\\')) := by
  rw [← String.ofList_toList (s := source)] at h
  obtain ⟨pre, c, rest, f, htext, hreach, hgap, hlex, he⟩ := Lexer.exists_reaches (tokenize_eq_error.1 h)
  obtain ⟨pieces, last, ts, hd⟩ := hreach.alone
  have hpre : tokenize (String.ofList pre) = .ok ts := by
    apply tokenize_of_decomposes
    rw [String.toList_ofList]
    exact hd
  refine ⟨pre, c, rest, htext, ?_⟩
  cases f with
  | unexpected =>
    subst he
    refine ⟨rfl, rfl, rfl, ⟨ts, hpre⟩, Or.inl ⟨rfl, Lexer.illegal_of_unexpected hlex hgap, fun rest' hslash => ?_⟩⟩
    -- the same fault is found before any other text
    have hgap' : Lexer.gapLength false (c :: rest') = 0 :=
      Lexer.gapLength_eq_zero_iff.2 ⟨(Lexer.gapLength_eq_zero_iff.1 hgap).1, hslash⟩
    rw [tokenize_eq_error, hreach.onward rest', Lexer.scan_fault_between _ hgap' (Lexer.lexeme_unexpected hlex rest')]
    rfl
  | unterminated =>
    subst he
    obtain ⟨rfl, hopen⟩ := Lexer.open_of_unterminated hlex
    exact ⟨rfl, rfl, rfl, ⟨ts, hpre⟩, Or.inr ⟨rfl, rfl, Lexer.quotes_escaped_of_open hopen⟩⟩

/-- a slash after a number on the second line, with one character after it -/
theorem tokenize_error_at_first_fault_slash :
    tokenize "//\n1.5/b" = .error ⟨.unexpected, "/", 2, 4⟩ ∧ ∃ pre c rest, "//\n1.5/b".toList = pre ++ c :: rest ∧
      "/" = String.singleton c ∧ (2 : Int) = Cursor.lineOf pre ∧ (4 : Int) = Cursor.columnOf pre ∧
      (∃ ts, tokenize (String.ofList pre) = .ok ts) ∧
      ((LexFault.unexpected = .unexpected ∧ Lexer.Illegal c rest ∧ ∀ rest', (c = '/' → rest'.head? ≠ some '/') →
          tokenize (String.ofList (pre ++ c :: rest')) = .error ⟨.unexpected, "/", 2, 4⟩) ∨
        (LexFault.unexpected = .unterminated ∧ c = '"' ∧
          ∀ before after, rest = before ++ '"' :: after → before.getLast? = some '\\')) :=
  have h : tokenize "//\n1.5/b" = .error ⟨.unexpected, "/", 2, 4⟩ := by decide +kernel
  ⟨h, tokenize_error_at_first_fault h⟩

end Pagewright
