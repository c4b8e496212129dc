/-
The lexical grammar: what separates tokens (`Trivia`) and what a token is written as (`IsLexeme`), each as a relation
between a piece of text and the text after it. Words and numbers are the longest of their class at their place.

The lengths that the lexer computes are the ones of the grammar: `gapLength_trivia` and `trivia_gapLength` for what
separates tokens, `lexeme_eq_token` and `isLexeme_of_token` for tokens. What can be read at a place is therefore unique.
-/
import Mathlib.Tactic
import Pagewright.Proofs.Number.Numeral
import Pagewright.Token.Lexer

namespace Pagewright

/-- the text of a token is one that its kind allows: a name where names may stand, and a numeral for a number -/
def Token.Shaped (t : Token) : Prop :=
  (t.kind.isName = true → Name.isName t.value.toList = true) ∧ (t.kind = .number → Number.IsNumeral t.value.toList)

namespace Lexer

/-! ## The grammar -/

/-- what separates tokens, before the text `rest`: blanks, byte-order marks, and comments that run up to the next line end
or the end of the text -/
inductive Trivia (rest : List Char) : List Char → Prop
  | nil : Trivia rest []
  | separator {c : Char} {s : List Char} (hc : Text.isBlank c = true ∨ c = byteOrderMark) (h : Trivia rest s) :
      Trivia rest (c :: s)
  | comment {body s : List Char} (hbody : '\n' ∉ body) (hend : s ++ rest = [] ∨ (s ++ rest).head? = some '\n')
      (h : Trivia rest s) : Trivia rest ('/' :: '/' :: (body ++ s))

/-- no longer piece of the text is in the class -/
def Longest (P : List Char → Prop) (l rest : List Char) : Prop :=
  ∀ more tail, rest = more ++ tail → P (l ++ more) → more = []

/-- what stands between the quotes of a text literal: the quotes in it are those after a backslash, and no backslash stands
before the closing quote -/
def IsBody (body : List Char) : Prop :=
  (∀ pre post, body = pre ++ '"' :: post → pre.getLast? = some '\\') ∧ body.getLast? ≠ some '\\'

/-- a backslash with a quote stands for the quote, and anything else for itself -/
def unescape : List Char → List Char
  | [] => []
  | '\\' :: '"' :: r => '"' :: unescape r
  | c :: r => c :: unescape r

/-- the kind of a word: the keyword that it is in the table, else an identifier -/
def IsWordKind (w : List Char) (k : Kind) : Prop :=
  (String.ofList w, k) ∈ Kind.keywords ∨ (k = .identifier ∧ ∀ k', (String.ofList w, k') ∉ Kind.keywords)

/-- the first text is written for a token of a kind and a value, before the second -/
inductive IsLexeme : List Char → List Char → Kind → List Char → Prop
  | mark {c : Char} {rest : List Char} {k : Kind} (h : (c, k) ∈ Kind.marks) : IsLexeme [c] rest k [c]
  | word {w rest : List Char} {k : Kind} (hw : Name.isName w = true) (hmax : Longest (Name.isName · = true) w rest)
      (hk : IsWordKind w k) : IsLexeme w rest k w
  | number {n rest : List Char} (hn : Number.IsNumeral n) (hmax : Longest Number.IsNumeral n rest) :
      IsLexeme n rest .number n
  | text {body rest : List Char} (hbody : IsBody body) : IsLexeme ('"' :: (body ++ ['"'])) rest .text (unescape body)

/-! ## What separates tokens -/

theorem isSeparator_iff {c : Char} : isSeparator c = true ↔ Text.isBlank c = true ∨ c = byteOrderMark := by
  simp [isSeparator]

/-- an open comment is passed up to the line end, and the line end is passed as a blank -/
theorem gapLength_comment {body s : List Char} (hbody : '\n' ∉ body) (hend : s = [] ∨ s.head? = some '\n') :
    gapLength true (body ++ s) = body.length + gapLength false s := by
  induction body with
  | nil =>
    cases s with
    | nil => rfl
    | cons c r =>
      have hc : c = '\n' := by simpa using hend
      simp [gapLength, hc, show isSeparator '\n' = true by decide]
  | cons c body ih =>
    simp only [List.mem_cons, not_or] at hbody
    have hc : decide (c ≠ '\n') = true := by simpa using Ne.symm hbody.1
    simp only [List.cons_append, gapLength, if_true, hc, ih hbody.2, List.length_cons]
    omega

theorem gapLength_slash_slash (r : List Char) : gapLength false ('/' :: '/' :: r) = 2 + gapLength true r := by
  simp [gapLength, show isSeparator '/' = false by decide]
  omega

/-- all that separates tokens is passed -/
theorem gapLength_trivia {s rest : List Char} (h : Trivia rest s) :
    gapLength false (s ++ rest) = s.length + gapLength false rest := by
  induction h with
  | nil => simp
  | separator hc _ ih =>
    simp only [List.cons_append, gapLength, Bool.false_eq_true, if_false, isSeparator_iff.2 hc, if_true, ih,
      List.length_cons]
    omega
  | comment hbody hend _ ih =>
    simp only [List.cons_append, List.append_assoc, gapLength_slash_slash, gapLength_comment hbody hend, ih,
      List.length_cons, List.length_append]
    omega

/-- a text is a line and what follows from its line end on -/
theorem exists_line_end (text : List Char) :
    ∃ line rest, text = line ++ rest ∧ '\n' ∉ line ∧ (rest = [] ∨ rest.head? = some '\n') := by
  induction text with
  | nil => exact ⟨[], [], rfl, by simp, Or.inl rfl⟩
  | cons c r ih =>
    by_cases hc : c = '\n'
    · exact ⟨[], c :: r, rfl, by simp, Or.inr (by simp [hc])⟩
    · obtain ⟨line, rest, rfl, hline, hrest⟩ := ih
      exact ⟨c :: line, rest, rfl, by simp [hline, Ne.symm hc], hrest⟩

/-- nothing else is passed -/
theorem trivia_gapLength (text : List Char) :
    ∃ s rest, text = s ++ rest ∧ s.length = gapLength false text ∧ Trivia rest s := by
  induction hn : text.length using Nat.strong_induction_on generalizing text with
  | h n ih =>
    subst hn
    match text with
    | [] => exact ⟨[], [], rfl, rfl, .nil⟩
    | c :: r =>
      by_cases hc : isSeparator c = true
      · obtain ⟨s, rest, rfl, hlen, hs⟩ := ih r.length (by simp) r rfl
        refine ⟨c :: s, rest, rfl, ?_, .separator (isSeparator_iff.1 hc) hs⟩
        simp only [gapLength, hc, if_true, List.length_cons, hlen, Bool.false_eq_true, if_false]
        omega
      · by_cases hslash : c = '/' ∧ r.head? = some '/'
        · obtain ⟨rfl, hr⟩ := hslash
          obtain ⟨r, rfl⟩ := List.head?_eq_some_iff.1 hr
          obtain ⟨body, after, rfl, hbody, hend⟩ := exists_line_end r
          obtain ⟨s, rest, rfl, hlen, ht⟩ := ih after.length (by simp; omega) after rfl
          refine ⟨'/' :: '/' :: (body ++ s), rest, by simp, ?_, .comment hbody hend ht⟩
          rw [gapLength_slash_slash, gapLength_comment hbody hend, ← hlen]
          simp only [List.length_cons, List.length_append]
          omega
        · refine ⟨[], c :: r, rfl, ?_, .nil⟩
          simp [gapLength, hc, hslash]

/-! ## Longest pieces -/

/-- there is one longest piece of a class at a place -/
theorem Longest.unique {P : List Char → Prop} {l rest l' rest' : List Char} (hl : P l) (hl' : P l') (h : Longest P l rest)
    (h' : Longest P l' rest') (heq : l ++ rest = l' ++ rest') : l = l' := by
  rcases List.append_eq_append_iff.1 heq with ⟨more, rfl, hrest⟩ | ⟨more, rfl, hrest⟩
  · simp [h more rest' hrest hl']
  · simp [h' more rest hrest hl]

/-! ## Words -/

theorem isName_append {w more : List Char} (hw : Name.isName w = true) :
    Name.isName (w ++ more) = true ↔ ∀ c ∈ more, Name.isPart c = true := by
  cases w with
  | nil => simp [Name.isName] at hw
  | cons c r =>
    simp only [Name.isName, Bool.and_eq_true] at hw
    simp only [List.cons_append, Name.isName, List.all_append, hw.1, hw.2, Bool.true_and, List.all_eq_true]

/-- a start and the name characters after it are the longest name there -/
theorem longest_word {c : Char} (hc : Name.isStart c = true) (r : List Char) :
    Name.isName (c :: r.takeWhile Name.isPart) = true ∧
      Longest (Name.isName · = true) (c :: r.takeWhile Name.isPart) (r.dropWhile Name.isPart) := by
  have hname : Name.isName (c :: r.takeWhile Name.isPart) = true := by simp [Name.isName, hc, List.all_takeWhile]
  refine ⟨hname, fun more tail hrest hmore => ?_⟩
  cases more with
  | nil => rfl
  | cons x xs =>
    have hx : Name.isPart x = true := (isName_append hname).1 hmore x (by simp)
    have hstop := List.head?_dropWhile_not Name.isPart r
    rw [hrest] at hstop
    simp [hx] at hstop

/-! ## Numbers -/

/-- what may follow the first digit of a number, after a point or not -/
def IsNumeralTail (point : Bool) (w : List Char) : Prop :=
  (∀ c ∈ w, c.isDigit = true ∨ c = '.') ∧ w.count '.' + point.toNat ≤ 1

theorem ne_point_of_isDigit {c : Char} (hc : c.isDigit = true) : c ≠ '.' := by
  rintro rfl
  exact absurd hc (by decide)

theorem isNumeral_cons {c : Char} (hc : c.isDigit = true) (w : List Char) :
    Number.IsNumeral (c :: w) ↔ IsNumeralTail false w := by
  simp [Number.IsNumeral, IsNumeralTail, hc, List.count_cons_of_ne (ne_point_of_isDigit hc)]

theorem isNumeralTail_digit {c : Char} (hc : c.isDigit = true) (point : Bool) (w : List Char) :
    IsNumeralTail point (c :: w) ↔ IsNumeralTail point w := by
  simp [IsNumeralTail, hc, List.count_cons_of_ne (ne_point_of_isDigit hc)]

theorem isNumeralTail_point (point : Bool) (w : List Char) :
    IsNumeralTail point ('.' :: w) ↔ point = false ∧ IsNumeralTail true w := by
  cases point with
  | false => simp [IsNumeralTail]
  | true => simp [IsNumeralTail]

/-- the digits and the point that are passed are the longest there -/
theorem longest_numeralTail (point : Bool) (r : List Char) :
    ∃ w rest, r = w ++ rest ∧ w.length = numberLength point r ∧ IsNumeralTail point w ∧
      Longest (IsNumeralTail point) w rest := by
  fun_induction numberLength point r with
  | case1 point =>
    refine ⟨[], [], rfl, rfl, ⟨by simp, by cases point <;> simp⟩, fun more tail hrest _ => ?_⟩
    exact (List.append_eq_nil_iff.1 hrest.symm).1
  | case2 point c r hc ih =>
    obtain ⟨w, rest, rfl, hlen, hw, hmax⟩ := ih
    refine ⟨c :: w, rest, rfl, by simp [hlen]; omega, (isNumeralTail_digit hc point w).2 hw, fun more tail hrest hmore => ?_⟩
    exact hmax more tail hrest ((isNumeralTail_digit hc point _).1 hmore)
  | case3 point c r hc hpoint ih =>
    simp only [Bool.and_eq_true, decide_eq_true_eq, Bool.not_eq_true'] at hpoint
    obtain ⟨rfl, rfl⟩ := hpoint
    obtain ⟨w, rest, rfl, hlen, hw, hmax⟩ := ih
    refine ⟨'.' :: w, rest, rfl, by simp [hlen]; omega, (isNumeralTail_point _ w).2 ⟨rfl, hw⟩, fun more tail hrest hmore => ?_⟩
    exact hmax more tail hrest ((isNumeralTail_point _ _).1 hmore).2
  | case4 point c r hc hpoint =>
    refine ⟨[], c :: r, rfl, rfl, ⟨by simp, by cases point <;> simp⟩, fun more tail hrest hmore => ?_⟩
    cases more with
    | nil => rfl
    | cons x xs =>
      obtain ⟨rfl, -⟩ := List.cons.inj hrest
      rcases hmore.1 c (by simp) with hd | rfl
      · exact absurd hd hc
      · simp [((isNumeralTail_point point _).1 hmore).1] at hpoint

/-- a digit and what may follow it are the longest number there -/
theorem longest_number {c : Char} (hc : c.isDigit = true) (r : List Char) :
    ∃ w rest, r = w ++ rest ∧ w.length = numberLength false r ∧ Number.IsNumeral (c :: w) ∧
      Longest Number.IsNumeral (c :: w) rest := by
  obtain ⟨w, rest, hr, hlen, hw, hmax⟩ := longest_numeralTail false r
  refine ⟨w, rest, hr, hlen, (isNumeral_cons hc w).2 hw, fun more tail hrest hmore => ?_⟩
  exact hmax more tail hrest ((isNumeral_cons hc (w ++ more)).1 hmore)

/-! ## Text literals -/

theorem isBody_nil : IsBody [] := ⟨by simp, by simp⟩

theorem not_isBody_quote (r : List Char) : ¬ IsBody ('"' :: r) := fun h => by
  simpa using h.1 [] r rfl

/-- the last of a longer text -/
theorem getLast?_cons_eq_some {c x : Char} {r : List Char} :
    (c :: r).getLast? = some x ↔ (r = [] ∧ c = x) ∨ r.getLast? = some x := by
  cases r with
  | nil => simp
  | cons d r => simp [List.getLast?_cons_cons]

theorem isBody_escape (r : List Char) : IsBody ('\\' :: '"' :: r) ↔ IsBody r := by
  constructor
  · rintro ⟨hquote, hlast⟩
    refine ⟨fun pre post hr => ?_, fun hl => hlast ?_⟩
    · have h := hquote ('\\' :: '"' :: pre) post (by simp [hr])
      simpa [getLast?_cons_eq_some] using h
    · simp [getLast?_cons_eq_some, hl]
  · rintro ⟨hquote, hlast⟩
    refine ⟨fun pre post hr => ?_, ?_⟩
    · match pre with
      | [] => simp at hr
      | [x] =>
        obtain ⟨rfl, -⟩ := List.cons.inj hr
        rfl
      | x :: y :: pre =>
        have h := hquote pre post (List.cons.inj (List.cons.inj hr).2).2
        simp [getLast?_cons_eq_some, h]
    · simpa [getLast?_cons_eq_some] using hlast

/-- a character that neither is a quote nor escapes one, nor stands as a backslash at the end -/
theorem isBody_cons {c : Char} {r : List Char} (hc : c ≠ '"') (hesc : c = '\\' → r ≠ [] ∧ r.head? ≠ some '"') :
    IsBody (c :: r) ↔ IsBody r := by
  constructor
  · rintro ⟨hquote, hlast⟩
    refine ⟨fun pre post hr => ?_, fun hl => hlast (getLast?_cons_eq_some.2 (Or.inr hl))⟩
    rcases getLast?_cons_eq_some.1 (hquote (c :: pre) post (by simp [hr])) with ⟨rfl, hb⟩ | h
    · exact absurd (by simp [hr]) (hesc hb).2
    · exact h
  · rintro ⟨hquote, hlast⟩
    refine ⟨fun pre post hr => ?_, fun hl => ?_⟩
    · cases pre with
      | nil => exact absurd (List.cons.inj hr).1 hc
      | cons x pre => exact getLast?_cons_eq_some.2 (Or.inr (hquote pre post (List.cons.inj hr).2))
    · rcases getLast?_cons_eq_some.1 hl with ⟨hr, hb⟩ | h
      · exact (hesc hb).1 hr
      · exact hlast h

theorem literal_cons {c : Char} {r : List Char} (hc : c ≠ '"') (hesc : c = '\\' → r.head? ≠ some '"') :
    literal (c :: r) = ⟨c :: (literal r).value, (literal r).length + 1, (literal r).closed⟩ := by
  rw [literal]
  · exact hc
  · rintro r' rfl rfl
    exact hesc rfl rfl

theorem unescape_cons {c : Char} {r : List Char} (hesc : c = '\\' → r.head? ≠ some '"') :
    unescape (c :: r) = c :: unescape r := by
  rw [unescape]
  rintro r' rfl rfl
  exact hesc rfl rfl

/-- a text literal is read up to its closing quote -/
theorem literal_body {body : List Char} (h : IsBody body) (rest : List Char) :
    literal (body ++ '"' :: rest) = ⟨unescape body, body.length, true⟩ := by
  fun_induction unescape body with
  | case1 => simp [literal]
  | case2 r ih => simp [literal, ih ((isBody_escape r).1 h)]
  | case3 c r hne ih =>
    have hc : c ≠ '"' := by
      rintro rfl
      exact not_isBody_quote r h
    have hesc : c = '\\' → r ≠ [] ∧ r.head? ≠ some '"' := by
      rintro rfl
      refine ⟨?_, fun hr => ?_⟩
      · rintro rfl
        exact h.2 rfl
      · obtain ⟨r', rfl⟩ := List.head?_eq_some_iff.1 hr
        exact hne r' rfl rfl
    have hesc' : c = '\\' → (r ++ '"' :: rest).head? ≠ some '"' := fun e => by
      rw [List.head?_append_of_ne_nil _ (hesc e).1]
      exact (hesc e).2
    rw [List.cons_append, literal_cons hc hesc', ih ((isBody_cons hc hesc).1 h), List.length_cons]

theorem body_of_literal {r : List Char} (h : (literal r).closed = true) :
    ∃ body rest, r = body ++ '"' :: rest ∧ IsBody body ∧ body.length = (literal r).length ∧
      unescape body = (literal r).value := by
  fun_induction literal r with
  | case1 => simp at h
  | case2 r => exact ⟨[], r, rfl, isBody_nil, rfl, rfl⟩
  | case3 r l ih => 
    obtain ⟨body, rest, rfl, hbody, hlen, hval⟩ := ih h
    exact ⟨'\\' :: '"' :: body, rest, rfl, (isBody_escape body).2 hbody, by simp [l, hlen], by simp [l, unescape, hval]⟩
  | case4 c r hq hne l ih =>
    obtain ⟨body, rest, rfl, hbody, hlen, hval⟩ := ih h
    -- a backslash before the rest of the literal does not stand before a quote, inside it or after it
    have hesc : c = '\\' → body ≠ [] ∧ body.head? ≠ some '"' := by
      rintro rfl
      refine ⟨?_, fun hr => ?_⟩
      · rintro rfl
        exact hne rest rfl rfl
      · obtain ⟨r', rfl⟩ := List.head?_eq_some_iff.1 hr
        exact not_isBody_quote r' hbody
    refine ⟨c :: body, rest, rfl, (isBody_cons hq hesc).2 hbody, by simp [l, hlen], ?_⟩
    rw [unescape_cons fun e => (hesc e).2, hval]

/-! ## Tokens -/

/-- a table without a key twice gives the value beside a key -/
theorem lookup_eq_some_iff {α β : Type} [DecidableEq α] {table : List (α × β)} (h : (table.map Prod.fst).Nodup) (a : α)
    (b : β) : table.lookup a = some b ↔ (a, b) ∈ table := by
  induction table with
  | nil => simp
  | cons p table ih =>
    obtain ⟨a', b'⟩ := p
    simp only [List.map_cons, List.nodup_cons] at h
    by_cases ha : a = a'
    · subst ha
      have hb : (a, b) ∉ table := fun hm => h.1 (List.mem_map_of_mem hm)
      simp [hb, eq_comm]
    · have ha' : (a == a') = false := by simpa using ha
      simp [List.lookup_cons, ha', ih h.2, ha]

theorem lookup_marks {c : Char} {k : Kind} : Kind.marks.lookup c = some k ↔ (c, k) ∈ Kind.marks :=
  lookup_eq_some_iff (by decide) c k

/-- marks start nothing else -/
theorem marks_apart : ∀ p ∈ Kind.marks, p.1 ≠ '"' ∧ p.1.isDigit = false ∧ Name.isStart p.1 = false ∧
    isSeparator p.1 = false ∧ p.1 ≠ '/' := by
  decide

theorem lookup_marks_none {c : Char} (h : c = '"' ∨ c.isDigit = true ∨ Name.isStart c = true) :
    Kind.marks.lookup c = none := by
  cases hk : Kind.marks.lookup c with
  | none => rfl
  | some k =>
    obtain ⟨h1, h2, h3, -⟩ := marks_apart _ (lookup_marks.1 hk)
    simp_all

theorem isWordKind_iff {w : List Char} {k : Kind} : IsWordKind w k ↔ k = Kind.ofWord (String.ofList w) := by
  have hlookup (k' : Kind) : Kind.keywords.lookup (String.ofList w) = some k' ↔ (String.ofList w, k') ∈ Kind.keywords :=
    lookup_eq_some_iff (by decide) _ k'
  unfold IsWordKind Kind.ofWord
  simp only [← hlookup]
  cases Kind.keywords.lookup (String.ofList w) with
  | none => simp
  | some k' => simp [eq_comm]

theorem start_range {c : Char} (h : Name.isStart c = true) : 0x41 ≤ c.toNat ∧ c.toNat ≤ 0x7A := by
  have hA : 'A'.val.toNat = 0x41 := rfl
  have hZ : 'Z'.val.toNat = 0x5A := rfl
  have ha : 'a'.val.toNat = 0x61 := rfl
  have hz : 'z'.val.toNat = 0x7A := rfl
  have hc : c.toNat = c.val.toNat := rfl
  have hupper : c.isUpper = decide (c.val ≥ 'A'.val ∧ c.val ≤ 'Z'.val) := rfl
  have hlower : c.isLower = (decide (c.val ≥ 'a'.val) && decide (c.val ≤ 'z'.val)) := rfl
  have halpha : c.isAlpha = (c.isUpper || c.isLower) := rfl
  simp only [Name.isStart, halpha, hupper, hlower, Bool.or_eq_true, Bool.and_eq_true, decide_eq_true_eq, ge_iff_le,
    UInt32.le_iff_toNat_le] at h
  rcases h with h | rfl
  · omega
  · decide

theorem isDigit_of_isStart {c : Char} (h : Name.isStart c = true) : c.isDigit = false := by
  rw [Bool.eq_false_iff]
  intro hd
  have hs := start_range h
  have hn := Number.numeral_range (Or.inl hd)
  omega

/-- printable ASCII characters separate nothing -/
theorem not_isSeparator {c : Char} (h : 0x21 ≤ c.toNat) (h' : c.toNat ≤ 0x7E) : isSeparator c = false := by
  have hmark : c ≠ byteOrderMark := by
    rintro rfl
    exact absurd h' (by decide)
  simp only [isSeparator, hmark, decide_false, Bool.or_false, Text.isBlank, Bool.or_eq_false_iff,
    Bool.and_eq_false_iff, decide_eq_false_iff_not, beq_eq_false_iff_ne]
  omega

/-- no token starts like what separates tokens -/
theorem gapLength_lexeme {l rest : List Char} {k : Kind} {v : List Char} (h : IsLexeme l rest k v) :
    gapLength false (l ++ rest) = 0 := by
  have hstop : ∀ c r, isSeparator c = false → c ≠ '/' → gapLength false (c :: r) = 0 := fun c r hc hslash => by
    simp [gapLength, hc, hslash]
  cases h with
  | mark h =>
    obtain ⟨-, -, -, hc, hslash⟩ := marks_apart _ h
    exact hstop _ _ hc hslash
  | word hw =>
    cases l with
    | nil => simp [Name.isName] at hw
    | cons c r =>
      simp only [Name.isName, Bool.and_eq_true] at hw
      have hrange := start_range hw.1
      refine hstop c _ (not_isSeparator (by omega) (by omega)) ?_
      rintro rfl
      revert hrange
      decide
  | number hn =>
    obtain ⟨c, r, rfl, hc⟩ := hn.exists_cons
    have hrange := Number.numeral_range (Or.inl hc)
    refine hstop c _ (not_isSeparator (by omega) (by omega)) ?_
    rintro rfl
    exact absurd hc (by decide)
  | text hbody => exact hstop '"' _ (by decide) (by decide)

/-- what is written for a token is read as that token -/
theorem lexeme_eq_token {l rest : List Char} {k : Kind} {v : List Char} (h : IsLexeme l rest k v) :
    ∃ c w, l = c :: w ∧ lexeme c (w ++ rest) = .token k v w.length := by
  cases h with
  | mark h => exact ⟨_, [], rfl, by simp [lexeme, lookup_marks.2 h]⟩
  | word hw hmax hk =>
    cases l with
    | nil => simp [Name.isName] at hw
    | cons c w =>
      have hc : Name.isStart c = true := by
        simp only [Name.isName, Bool.and_eq_true] at hw
        exact hw.1
      have hquote : c ≠ '"' := by
        rintro rfl
        exact absurd hc (by decide)
      obtain ⟨hname, hlong⟩ := longest_word hc (w ++ rest)
      have hsplit : c :: w ++ rest = c :: (w ++ rest).takeWhile Name.isPart ++ (w ++ rest).dropWhile Name.isPart := by
        simp [List.takeWhile_append_dropWhile]
      have hw' : (w ++ rest).takeWhile Name.isPart = w := (List.cons.inj (hmax.unique hw hname hlong hsplit)).2.symm
      refine ⟨c, w, rfl, ?_⟩
      simp [lexeme, lookup_marks_none (Or.inr (Or.inr hc)), hquote, isDigit_of_isStart hc, hc, hw', isWordKind_iff.1 hk]
  | number hn hmax =>
    obtain ⟨c, w, rfl, hc⟩ := hn.exists_cons
    have hquote : c ≠ '"' := by
      rintro rfl
      exact absurd hc (by decide)
    obtain ⟨w', rest', heq, hlen, hn', hlong⟩ := longest_number hc (w ++ rest)
    have hw : w = w' := (List.cons.inj (hmax.unique hn hn' hlong (by simp [heq]))).2
    subst hw
    refine ⟨c, w, rfl, ?_⟩
    simp [lexeme, lookup_marks_none (Or.inr (Or.inl hc)), hquote, hc, ← hlen]
  | @text body _ hbody =>
    refine ⟨'"', body ++ ['"'], rfl, ?_⟩
    simp [lexeme, lookup_marks_none (Or.inl rfl), literal_body hbody]

/-- what is read as a token is written for it -/
theorem isLexeme_of_token {c : Char} {r : List Char} {k : Kind} {v : List Char} {n : Nat} (h : lexeme c r = .token k v n) :
    ∃ w rest, r = w ++ rest ∧ w.length = n ∧ IsLexeme (c :: w) rest k v := by
  unfold lexeme at h
  split at h
  case h_1 k' hk =>
    cases h
    exact ⟨[], r, rfl, rfl, .mark (lookup_marks.1 hk)⟩
  case h_2 =>
    dsimp only at h
    split_ifs at h with hquote hclosed hdigit hstart
    · cases h
      obtain ⟨body, rest, rfl, hbody, hlen, hval⟩ := body_of_literal hclosed
      refine ⟨body ++ ['"'], rest, by simp, by simp [hlen], ?_⟩
      rw [hquote, ← hval]
      exact .text hbody
    · cases h
      obtain ⟨w, rest, rfl, hlen, hn, hmax⟩ := longest_number hdigit r
      refine ⟨w, rest, rfl, hlen, ?_⟩
      rw [← hlen, List.take_left]
      exact .number hn hmax
    · cases h
      obtain ⟨hname, hmax⟩ := longest_word hstart r
      exact ⟨_, _, List.takeWhile_append_dropWhile.symm, rfl, .word hname hmax (isWordKind_iff.2 rfl)⟩

/-- what is written for the first token of a text, its kind and its value are unique -/
theorem IsLexeme.unique {l rest l' rest' : List Char} {k k' : Kind} {v v' : List Char} (h : IsLexeme l rest k v)
    (h' : IsLexeme l' rest' k' v') (heq : l ++ rest = l' ++ rest') : l = l' ∧ rest = rest' ∧ k = k' ∧ v = v' := by
  obtain ⟨c, w, rfl, hc⟩ := lexeme_eq_token h
  obtain ⟨c', w', rfl, hc'⟩ := lexeme_eq_token h'
  obtain ⟨rfl, htail⟩ : c = c' ∧ w ++ rest = w' ++ rest' := List.cons.inj heq
  rw [← htail, hc] at hc'
  obtain ⟨rfl, rfl, hlen⟩ := Lexeme.token.inj hc'
  obtain ⟨rfl, rfl⟩ := List.append_inj htail hlen
  exact ⟨rfl, rfl, rfl, rfl⟩

/-- the token that something is written for has the shape of its kind, and is not the end of the source -/
theorem IsLexeme.shaped {l rest v : List Char} {k : Kind} (h : IsLexeme l rest k v) :
    k ≠ .finish ∧ ∀ line column, Token.Shaped ⟨k, String.ofList v, line, column⟩ := by
  have hmarks : ∀ p ∈ Kind.marks, p.2 ≠ .finish ∧ p.2.isName = false ∧ p.2 ≠ .number := by decide
  have hkeywords : ∀ p ∈ Kind.keywords, p.2 ≠ .finish ∧ p.2 ≠ .number := by decide
  cases h with
  | mark h =>
    obtain ⟨hk, hname, hnumber⟩ := hmarks _ h
    exact ⟨hk, by simp_all [Token.Shaped]⟩
  | word hw _ hk =>
    have hkind : k ≠ .finish ∧ k ≠ .number := by
      rcases hk with hk | ⟨rfl, -⟩
      · exact hkeywords _ hk
      · decide
    exact ⟨hkind.1, by simp [Token.Shaped, hw, hkind.2]⟩
  | number hn => exact ⟨by decide, by simp [Token.Shaped, Kind.isName, hn]⟩
  | text => exact ⟨by decide, by simp [Token.Shaped, Kind.isName]⟩

end Lexer

end Pagewright
