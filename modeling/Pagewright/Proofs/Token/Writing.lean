/-
Writing tokens. Every token that a lexer can make is written as a lexeme of its own, a text literal with a backslash before
each quote; with blanks around the lexemes a source has just these tokens (`decomposes_written`). What cannot be written is
known too: the value of a text token never ends with a backslash, and a name token is never one of the six words that only
start declarations (`IsLexeme.expressed`).
-/
import Pagewright.Proofs.Token.Decomposition

namespace Pagewright

/-- the words that start a declaration, a field of a model included; they are no names -/
def Name.reserved : List String := ["model", "field", "form", "view", "list", "page"]

/-- a name that is none of the reserved words -/
def Name.IsFree (s : String) : Prop := Name.isName s.toList = true ∧ s ∉ Name.reserved

instance (s : String) : Decidable (Name.IsFree s) := inferInstanceAs (Decidable (_ ∧ _))

/-- the value of a token is one that the language can express: a name is a free one, and a text does not end with a
backslash -/
def Token.Expressed (t : Token) : Prop :=
  (t.kind.isName = true → Name.IsFree t.value) ∧ (t.kind = .text → t.value.toList.getLast? ≠ some '\\')

namespace Lexer

/-! ## Text literals -/

/-- a text with a backslash before each quote -/
def escape : List Char → List Char
  | [] => []
  | c :: r => if c = '"' then '\\' :: '"' :: escape r else c :: escape r

theorem head?_escape (s : List Char) : (escape s).head? ≠ some '"' := by
  cases s with
  | nil => simp [escape]
  | cons c r =>
    by_cases hc : c = '"'
    · simp [escape, hc]
    · simp [escape, hc]

theorem escape_eq_nil {s : List Char} : escape s = [] ↔ s = [] := by
  cases s with
  | nil => simp [escape]
  | cons c r =>
    by_cases hc : c = '"'
    · simp [escape, hc]
    · simp [escape, hc]

/-- an escaped text stands for the text -/
theorem unescape_escape (s : List Char) : unescape (escape s) = s := by
  induction s with
  | nil => rfl
  | cons c r ih =>
    by_cases hc : c = '"'
    · simp [escape, hc, unescape, ih]
    · rw [escape, if_neg hc, unescape_cons fun _ => head?_escape r, ih]

/-- an escaped text can stand between quotes unless the text ends with a backslash -/
theorem isBody_escape_of_last {s : List Char} (h : s.getLast? ≠ some '\\') : IsBody (escape s) := by
  induction s with
  | nil => exact isBody_nil
  | cons c r ih =>
    have hrest : r.getLast? ≠ some '\\' := by
      intro hr
      exact h (getLast?_cons_eq_some.2 (Or.inr hr))
    by_cases hc : c = '"'
    · rw [escape, if_pos hc]
      exact (isBody_escape _).2 (ih hrest)
    · rw [escape, if_neg hc]
      refine (isBody_cons hc ?_).2 (ih hrest)
      intro hslash
      refine ⟨?_, head?_escape r⟩
      intro hnil
      exact h (getLast?_cons_eq_some.2 (Or.inl ⟨escape_eq_nil.1 hnil, hslash⟩))

theorem unescape_eq_nil {body : List Char} : unescape body = [] ↔ body = [] := by
  fun_cases unescape body with
  | case1 => simp
  | case2 r => simp
  | case3 c r _ => simp

/-- a backslash before a closing quote would escape it, so no text ends with one -/
theorem getLast?_unescape {body : List Char} (h : body.getLast? ≠ some '\\') : (unescape body).getLast? ≠ some '\\' := by
  fun_induction unescape body with
  | case1 => exact h
  | case2 r ih =>
    intro hlast
    rcases getLast?_cons_eq_some.1 hlast with ⟨-, hquote⟩ | hr
    · cases hquote
    · exact ih (fun hl => h (by simp [getLast?_cons_eq_some, hl])) hr
  | case3 c r _ ih =>
    intro hlast
    rcases getLast?_cons_eq_some.1 hlast with ⟨hnil, hc⟩ | hr
    · exact h (getLast?_cons_eq_some.2 (Or.inl ⟨unescape_eq_nil.1 hnil, hc⟩))
    · exact ih (fun hl => h (getLast?_cons_eq_some.2 (Or.inr hl))) hr

/-! ## What tokens express -/

/-- the token that something is written for is one that the language can express -/
theorem IsLexeme.expressed {l rest v : List Char} {k : Kind} (h : IsLexeme l rest k v) (line column : Nat) :
    Token.Expressed ⟨k, String.ofList v, line, column⟩ := by
  have hmarks : ∀ p ∈ Kind.marks, p.2.isName = false ∧ p.2 ≠ .text := by decide
  have hreserved : ∀ s ∈ Name.reserved, (Kind.ofWord s).isName = false := by decide
  have hwords : ∀ p ∈ Kind.keywords, p.2 ≠ .text := by decide
  cases h with
  | mark h =>
    obtain ⟨hname, htext⟩ := hmarks _ h
    exact ⟨fun hk => by simp [hname] at hk, fun hk => absurd hk htext⟩
  | word hw _ hk =>
    refine ⟨?_, ?_⟩
    · intro hname
      refine ⟨by simpa using hw, ?_⟩
      intro hmem
      have hnone := hreserved _ hmem
      rw [← isWordKind_iff.1 hk] at hnone
      simp [hnone] at hname
    · intro htext
      rcases hk with hk | ⟨hk, -⟩
      · exact absurd htext (hwords _ hk)
      · simp [hk] at htext
  | number => exact ⟨fun hk => by simp [Kind.isName] at hk, fun hk => by simp at hk⟩
  | text hbody =>
    refine ⟨fun hk => by simp [Kind.isName] at hk, ?_⟩
    intro _
    simpa using getLast?_unescape hbody.2

theorem Decomposes.expressed {before text last : List Char} {pieces : List (List Char × List Char)} {ts : List Token}
    (h : Decomposes before text pieces last ts) : ∀ t ∈ ts, t.Expressed := by
  induction h with
  | finish => simp [Token.Expressed, Kind.isName]
  | token _ hl _ ih => exact List.forall_mem_cons.2 ⟨hl.expressed _ _, ih⟩

/-! ## Lexemes before a blank -/

theorem longest_before_blank {P : List Char → Prop} {l : List Char} (hblank : ∀ more, ¬ P (l ++ ' ' :: more))
    (rest : List Char) : Longest P l (' ' :: rest) := by
  intro more tail hrest hmore
  cases more with
  | nil => rfl
  | cons c more =>
    obtain ⟨rfl, -⟩ := List.cons.inj hrest
    exact absurd hmore (hblank more)

theorem isLexeme_word {w : List Char} (hw : Name.isName w = true) (rest : List Char) :
    IsLexeme w (' ' :: rest) (Kind.ofWord (String.ofList w)) w := by
  refine .word hw (longest_before_blank ?_ rest) (isWordKind_iff.2 rfl)
  intro more hmore
  exact absurd ((isName_append hw).1 hmore ' ' List.mem_cons_self) (by decide)

theorem isLexeme_number {n : List Char} (hn : Number.IsNumeral n) (rest : List Char) :
    IsLexeme n (' ' :: rest) .number n := by
  refine .number hn (longest_before_blank ?_ rest)
  intro more hmore
  rcases hmore.2.1 ' ' (by simp) with hdigit | hpoint
  · exact absurd hdigit (by decide)
  · exact absurd hpoint (by decide)

end Lexer

/-! ## Tokens -/

def Token.lexeme (t : Token) : List Char :=
  if t.kind = .text then '"' :: (Lexer.escape t.value.toList ++ ['"']) else t.value.toList

/-- a token is the one that is read where its lexeme stands before a blank -/
def Token.IsWritten (t : Token) : Prop := ∀ rest, Lexer.IsLexeme t.lexeme (' ' :: rest) t.kind t.value.toList

/-- the lexemes of some tokens, with blanks around them -/
def written : List Token → List Char
  | [] => [' ']
  | t :: ts => ' ' :: (t.lexeme ++ written ts)

theorem isWritten_mark {c : Char} {k : Kind} (h : (c, k) ∈ Kind.marks) : Token.IsWritten ⟨k, c.toString, 0, 0⟩ := by
  have htext : ∀ p ∈ Kind.marks, p.2 ≠ .text := by decide
  intro rest
  simp only [Token.lexeme, htext _ h, if_false, Char.toString_eq_singleton, String.toList_singleton]
  exact .mark h

/-- a word is a keyword of the table or an identifier -/
theorem Kind.ofWord_cases (s : String) : (s, Kind.ofWord s) ∈ Kind.keywords ∨ Kind.ofWord s = .identifier := by
  unfold Kind.ofWord
  cases hk : Kind.keywords.lookup s with
  | none => exact Or.inr rfl
  | some k => exact Or.inl ((Lexer.lookup_eq_some_iff (by decide) s k).1 hk)

theorem Kind.isName_ofWord {s : String} (hs : s ∉ Name.reserved) : (Kind.ofWord s).isName = true := by
  have hkeywords : ∀ p ∈ Kind.keywords, p.1 ∈ Name.reserved ∨ p.2.isName = true := by decide
  rcases Kind.ofWord_cases s with hk | hk
  · exact (hkeywords _ hk).resolve_left hs
  · rw [hk]
    rfl

theorem isWritten_word {s : String} (hs : Name.isName s.toList = true) : Token.IsWritten ⟨Kind.ofWord s, s, 0, 0⟩ := by
  have hkeywords : ∀ p ∈ Kind.keywords, p.2 ≠ .text := by decide
  have htext : Kind.ofWord s ≠ .text := by
    rcases Kind.ofWord_cases s with hk | hk
    · exact hkeywords _ hk
    · simp [hk]
  intro rest
  have hword := Lexer.isLexeme_word hs rest
  rw [String.ofList_toList] at hword
  simpa only [Token.lexeme, htext, if_false] using hword

theorem isWritten_number {ds : List Char} (hds : Number.IsNumeral ds) :
    Token.IsWritten ⟨.number, String.ofList ds, 0, 0⟩ := by
  intro rest
  simpa [Token.lexeme] using Lexer.isLexeme_number hds rest

theorem isWritten_text {s : String} (hs : s.toList.getLast? ≠ some '\\') : Token.IsWritten ⟨.text, s, 0, 0⟩ := by
  intro rest
  have htext : Lexer.IsLexeme _ (' ' :: rest) _ _ := .text (Lexer.isBody_escape_of_last hs)
  rw [Lexer.unescape_escape] at htext
  simpa [Token.lexeme] using htext

theorem written_eq_cons (ts : List Token) : ∃ rest, written ts = ' ' :: rest := by
  cases ts with
  | nil => exact ⟨[], rfl⟩
  | cons t ts => exact ⟨t.lexeme ++ written ts, rfl⟩

/-- written tokens are read as themselves, wherever they come to stand -/
theorem decomposes_written {ts : List Token} (h : ∀ t ∈ ts, t.IsWritten) (before : List Char) :
    ∃ pieces us e, Lexer.Decomposes before (written ts) pieces [' '] (us ++ [e]) ∧ e.kind = .finish ∧ e.value = "" ∧
      us.map (fun t => (t.kind, t.value)) = ts.map fun t => (t.kind, t.value) := by
  have hblank : Text.isBlank ' ' = true := by decide
  induction ts generalizing before with
  | nil => exact ⟨[], [], _, .finish (.separator (Or.inl hblank) .nil), rfl, rfl, rfl⟩
  | cons t ts ih =>
    rw [List.forall_mem_cons] at h
    obtain ⟨pieces, us, e, hus, hend, hempty, hwords⟩ := ih h.2 (before ++ [' '] ++ t.lexeme)
    obtain ⟨rest, hrest⟩ := written_eq_cons ts
    have hlexeme := h.1 rest
    rw [← hrest] at hlexeme
    refine ⟨_, _ :: us, e, .token (.separator (Or.inl hblank) .nil) hlexeme hus, hend, hempty, ?_⟩
    rw [List.map_cons, List.map_cons, hwords, String.ofList_toList]

end Pagewright
