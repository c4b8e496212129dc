/-
The excerpt below an error points at it. The lexer counts lines and columns, the excerpt is cut out of the source by the
line, and its lines are numbered anew from two above it; the three agree (`withExcerpt_eq`). An error stands at a place of
the source, at the character it names or the first one of the token it describes (`Failure.exists_place`).

A terminal shows this excerpt. On any other channel its lines lose their control sequences, and the caret is not moved to make
up for them. `excerpt_points_at_error` says so for every error of reading, and when nothing is lost; `excerpt_misses_error`
is an error at which the caret stands beyond the end of its line.
-/
import Pagewright.Console.Command
import Pagewright.Console.Piped
import Pagewright.Proofs.Compile.Outcome
import Pagewright.Proofs.Console.ControlSequence
import Pagewright.Proofs.Grammar.CorrectPrefix
import Pagewright.Proofs.Token.FirstFault

namespace Pagewright

open Text (Lines splitLines unlines)

/-! ## What an excerpt shows -/

/-- the number of a line at the right end of at least four columns, and a bar -/
def lineNumber (k : Nat) : String := String.ofList ((Nat.toDigits 10 k).leftpad 4 ' ') ++ " | "

/-- a line behind its number, and the caret below the line of the place -/
def shownLine (line column : Nat) (s : String) (k : Nat) : Lines :=
  (lineNumber k ++ s) :: if k = line then [Text.repeated ' ' ((lineNumber k).length + column - 1) ++ "^"] else []

/-- a line with its number is at most two away from a line -/
def isNear (line : Nat) (p : String × Nat) : Bool := line ≤ p.2 + 2 && p.2 ≤ line + 2

/-- the lines at most two away from a line, with their numbers, which count from one -/
def linesNear (ls : Lines) (line : Nat) : List (String × Nat) := (ls.zipIdx 1).filter (isNear line)

/-- the lines around a place, with their numbers and the caret -/
def excerptLines (ls : Lines) (line column : Nat) : Lines :=
  (linesNear ls line).flatMap fun p => shownLine line column p.1 p.2

theorem gutter_eq (k : Nat) : Location.gutter k = lineNumber k := by
  have htext : Json.intText k = String.ofList (Nat.toDigits 10 k) := by
    rw [Json.intText, if_neg (by omega), Int.natAbs_natCast, Nat.toString_eq_ofList_toDigits]
  rw [Location.gutter, htext, Text.alignRight, Text.repeated, String.length_ofList, ← String.ofList_append]
  rfl

/-- lines numbered from a number on -/
theorem numbered_eq (line column : Nat) (file : Option String) (n : Nat) (ls : Lines) :
    Location.numbered ⟨line, column, file⟩ n ls = (ls.zipIdx n).flatMap fun p => shownLine line column p.1 p.2 := by
  have hcaret : Location.caretLine ⟨line, column, file⟩ =
      Text.repeated ' ' ((lineNumber line).length + column - 1) ++ "^" := by
    have hoffset : ((lineNumber line).length + (column : Int) - 1).toNat = (lineNumber line).length + column - 1 := by omega
    rw [Location.caretLine, gutter_eq, hoffset]
  induction ls generalizing n with
  | nil => rfl
  | cons s ls ih =>
    have hnext := ih (n + 1)
    rw [Nat.cast_add, Nat.cast_one] at hnext
    rw [Location.numbered, gutter_eq, hcaret, hnext, List.zipIdx_cons, List.flatMap_cons, shownLine]
    by_cases hn : n = line
    · subst hn
      rw [if_pos rfl, if_pos rfl]
      rfl
    · rw [if_neg (mt Int.ofNat_inj.1 hn), if_neg hn]
      rfl

/-- the lines near a line are cut out by position, and numbered from two above it -/
theorem filter_zipIdx (line m : Nat) (ls : Lines) : (ls.zipIdx (m + 1)).filter (isNear line) =
    ((ls.take (line + 2 - m)).drop (line - 3 - m)).zipIdx (max (line - 3) m + 1) := by
  induction ls generalizing m with
  | nil => simp
  | cons s ls ih =>
    have hnear : isNear line (s, m + 1) = true ↔ line - 3 ≤ m ∧ m < line + 2 := by
      simp only [isNear, Bool.and_eq_true, decide_eq_true_eq]
      omega
    rw [List.zipIdx_cons]
    by_cases hpassed : line + 2 ≤ m
    · rw [List.filter_cons_of_neg (by rw [hnear]; omega), ih, show line + 2 - (m + 1) = 0 by omega,
        show line + 2 - m = 0 by omega, List.take_zero, List.take_zero, List.drop_nil, List.drop_nil]
      rfl
    · by_cases hreached : line - 3 ≤ m
      · rw [List.filter_cons_of_pos (by rw [hnear]; omega), ih, show line + 2 - m = line + 2 - (m + 1) + 1 by omega,
          List.take_succ_cons, show line - 3 - m = 0 by omega, show line - 3 - (m + 1) = 0 by omega, List.drop_zero,
          List.drop_zero, List.zipIdx_cons, max_eq_right hreached, max_eq_right (by omega)]
      · rw [List.filter_cons_of_neg (by rw [hnear]; omega), ih, show line + 2 - m = line + 2 - (m + 1) + 1 by omega,
          List.take_succ_cons, show line - 3 - m = line - 3 - (m + 1) + 1 by omega, List.drop_succ_cons,
          max_eq_left (by omega), max_eq_left (by omega)]

/-- the lines at most two away from a line, by their positions -/
def window (ls : Lines) (line : Nat) : Lines := (ls.take (line + 2)).drop (line - 3)

theorem linesNear_eq (ls : Lines) (line : Nat) : linesNear ls line = (window ls line).zipIdx (line - 3 + 1) := by
  have hfilter := filter_zipIdx line 0 ls
  rwa [Nat.sub_zero, Nat.sub_zero, max_eq_left (Nat.zero_le _)] at hfilter

theorem excerptAround_eq (source : String) (line : Nat) :
    excerptAround source line excerptRadius = unlines (window (splitLines source) line) := by
  have hfirst : (max 1 ((line : Int) - excerptRadius) - 1).toNat = line - 3 := by
    unfold excerptRadius
    omega
  have hlast : takeUpTo (splitLines source) (min ((splitLines source).length : Int) (line + excerptRadius)) =
      (splitLines source).take (line + 2) := by
    unfold takeUpTo excerptRadius
    rw [if_neg (by omega), List.take_eq_take_iff]
    omega
  rw [excerptAround, window]
  simp only [hfirst, hlast]

theorem length_window (ls : Lines) (line : Nat) : (window ls line).length = min (line + 2) ls.length - (line - 3) := by
  rw [window, List.length_drop, List.length_take]

theorem unlines_cons (s : String) {ls : Lines} (h : ls ≠ []) : unlines (s :: ls) = s ++ "\n" ++ unlines ls := by
  obtain ⟨l, ls, rfl⟩ := List.exists_cons_of_ne_nil h
  exact String.intercalate_cons_cons

section

variable {source : String} {line : Nat} (hfirst : 1 ≤ line) (hlast : line ≤ (splitLines source).length)

include hfirst hlast

theorem window_ne_nil : window (splitLines source) line ≠ [] := by
  rw [← List.length_pos_iff, length_window]
  omega

theorem splitLines_excerptAround :
    splitLines (excerptAround source line excerptRadius) = window (splitLines source) line := by
  have hmem : ∀ s ∈ window (splitLines source) line, s ∈ splitLines source := fun s hs =>
    List.mem_of_mem_take (List.mem_of_mem_drop hs)
  rw [excerptAround_eq, Text.splitLines_unlines_of_mem (window_ne_nil hfirst hlast) hmem]

/-- only the source without a character has an excerpt without one: a source of two lines has two to show -/
theorem excerptAround_ne_empty (hsource : source ≠ "") : excerptAround source line excerptRadius ≠ "" := by
  intro hempty
  have hblank : splitLines "" = [""] := by decide
  have hone : window (splitLines source) line = [""] := by
    rw [← splitLines_excerptAround hfirst hlast, hempty, hblank]
  have hlength := length_window (splitLines source) line
  rw [hone, List.length_singleton] at hlength
  have hall : window (splitLines source) line = splitLines source := by
    rw [window, List.take_of_length_le (by omega), show line - 3 = 0 by omega, List.drop_zero]
  apply hsource
  calc source = unlines (splitLines source) := (Text.unlines_splitLines source).symm
    _ = unlines [""] := by rw [← hall, hone]
    _ = "" := by decide

/-- **The excerpt of a place.** The location, then the lines around it under their own numbers, and the caret. -/
theorem withExcerpt_eq (column : Nat) (file : Option String) (hsource : source ≠ "") :
    Location.withExcerpt ⟨line, column, file⟩ (excerptAround source line excerptRadius) =
      unlines (Location.text ⟨line, column, file⟩ :: excerptLines (splitLines source) line column) := by
  have hstart : Location.firstShown ⟨line, column, file⟩ = ((line - 3 + 1 : Nat) : Int) := by
    simp only [Location.firstShown]
    omega
  have hlines : excerptLines (splitLines source) line column ≠ [] := by
    obtain ⟨s, ls, hs⟩ := List.exists_cons_of_ne_nil (window_ne_nil hfirst hlast)
    rw [excerptLines, linesNear_eq, hs, List.zipIdx_cons, List.flatMap_cons, shownLine]
    exact List.cons_ne_nil _ _
  have hshown := excerptAround_ne_empty hfirst hlast hsource
  rw [Location.withExcerpt, if_neg (by simpa using hshown), splitLines_excerptAround hfirst hlast, hstart, numbered_eq,
    ← linesNear_eq, unlines_cons _ hlines, excerptLines]

end

/-! ## Where an error is -/

/-- the character that a token starts with in its source: a quote for a text, else the first one of its value -/
def Token.StartsWith (t : Token) (c : Char) : Prop :=
  if t.kind = .text then c = '"' else t.value.toList.head? = some c

/-- the place of an error of the lexer or of the grammar -/
def Failure.location? (file : Option String) : Failure → Option Location
  | .lex e => some (e.location file)
  | .grammar (.mismatch e) => some (e.location file)
  | _ => none

/-- what an error of a source is about starts with this character: the character that the lexer stopped at, or the first one
of the token that does not fit. The end of the source starts with none. -/
inductive Failure.Offends (source : String) : Failure → Option Char → Prop
  | character {e : LexError} {c : Char} (h : tokenize source = .error e) (hc : e.char = String.singleton c) :
      Offends source (.lex e) (some c)
  | token {e : ParseError} {ts : List Token} {t : Token} {c : Char} (h : tokenize source = .ok ts) (ht : t ∈ ts)
      (he : e.Describes t) (hkind : t.kind ≠ .finish) (hc : t.StartsWith c) :
      Offends source (.grammar (.mismatch e)) (some c)
  | finish {e : ParseError} {ts : List Token} {t : Token} (h : tokenize source = .ok ts) (ht : t ∈ ts) (he : e.Describes t)
      (hkind : t.kind = .finish) : Offends source (.grammar (.mismatch e)) none

namespace Lexer

theorem marks_kind : ∀ p ∈ Kind.marks, p.2 ≠ .text ∧ p.2 ≠ .finish := by decide

theorem keywords_kind : ∀ p ∈ Kind.keywords, p.2 ≠ .text ∧ p.2 ≠ .finish := by decide

/-- a lexeme starts as its token does, and not with a line end -/
theorem IsLexeme.exists_start {l rest v : List Char} {k : Kind} (h : IsLexeme l rest k v) (line column : Nat) :
    ∃ c w, l = c :: w ∧ c ≠ '\n' ∧ k ≠ .finish ∧ Token.StartsWith ⟨k, String.ofList v, line, column⟩ c := by
  obtain ⟨c, w, rfl, -⟩ := lexeme_eq_token h
  have hgap := gapLength_eq_zero_iff.1 (gapLength_lexeme h)
  have hline : c ≠ '\n' := by
    rintro rfl
    exact absurd hgap.1 (by decide)
  refine ⟨c, w, rfl, hline, ?_⟩
  unfold Token.StartsWith
  cases h with
  | mark hk =>
    obtain ⟨htext, hfinish⟩ := marks_kind _ hk
    exact ⟨hfinish, by rw [if_neg htext, String.toList_ofList]; rfl⟩
  | word hw hmax hk =>
    have hkind : k ≠ .text ∧ k ≠ .finish := by
      rcases hk with hk | ⟨rfl, -⟩
      · exact keywords_kind _ hk
      · decide
    exact ⟨hkind.2, by rw [if_neg hkind.1, String.toList_ofList]; rfl⟩
  | number hn hmax => exact ⟨by decide, by rw [if_neg Kind.noConfusion, String.toList_ofList]; rfl⟩
  | text hbody => exact ⟨by decide, by rw [if_pos rfl]⟩

/-- a token of a text stands where the text before its lexeme leads to; the last one stands at the end -/
theorem Decomposes.exists_place {before text last : List Char} {pieces : List (List Char × List Char)} {ts : List Token}
    (h : Decomposes before text pieces last ts) {t : Token} (ht : t ∈ ts) :
    ∃ pre rest, text = pre ++ rest ∧ t.line = Cursor.lineOf (before ++ pre) ∧ t.column = Cursor.columnOf (before ++ pre) ∧
      ((t.kind = .finish ∧ rest = []) ∨ ∃ c r, rest = c :: r ∧ c ≠ '\n' ∧ t.kind ≠ .finish ∧ t.StartsWith c) := by
  induction h with
  | @finish before s hs =>
    obtain rfl := List.mem_singleton.1 ht
    exact ⟨s, [], (List.append_nil s).symm, rfl, rfl, Or.inl ⟨rfl, rfl⟩⟩
  | @token before s l rest last v pieces k ts hs hl hd ih =>
    rcases List.mem_cons.1 ht with rfl | ht
    · obtain ⟨c, w, rfl, hline, hkind, hstart⟩ :=
        hl.exists_start (Cursor.lineOf (before ++ s)) (Cursor.columnOf (before ++ s))
      exact ⟨s, c :: w ++ rest, rfl, rfl, rfl, Or.inr ⟨c, w ++ rest, rfl, hline, hkind, hstart⟩⟩
    · obtain ⟨pre, after, rfl, hline, hcolumn, hstart⟩ := ih ht
      refine ⟨s ++ l ++ pre, after, by simp, ?_, ?_, hstart⟩
      · rw [hline]
        simp
      · rw [hcolumn]
        simp

end Lexer

/-- the error of the lexer stands before the character that it names -/
theorem LexError.exists_place {source : String} {e : LexError} (h : tokenize source = .error e) :
    ∃ pre c rest, source.toList = pre ++ c :: rest ∧ e.line = Cursor.lineOf pre ∧ e.column = Cursor.columnOf pre ∧
      e.char = String.singleton c ∧ c ≠ '\n' := by
  rw [← String.ofList_toList (s := source)] at h
  obtain ⟨pre, c, rest, f, htext, -, hgap, hlex, rfl⟩ := Lexer.exists_reaches (tokenize_eq_error.1 h)
  have hline : c ≠ '\n' := by
    rintro rfl
    exact absurd (Lexer.gapLength_eq_zero_iff.1 hgap).1 (by decide)
  refine ⟨pre, c, rest, htext, ?_⟩
  cases f with
  | unexpected => exact ⟨rfl, rfl, rfl, hline⟩
  | unterminated =>
    obtain ⟨rfl, -⟩ := Lexer.open_of_unterminated hlex
    exact ⟨rfl, rfl, rfl, hline⟩

/-- the error of the grammar is about one of the tokens -/
theorem ParseError.exists_token {o : Options} {source : String} {ts : List Token} {e : ParseError}
    (hts : tokenize source = .ok ts) (h : (Grammar.app o (Grammar.Session.start ts)).1 = .error (.mismatch e)) :
    ∃ t ∈ ts, e.Describes t := by
  have hds := Grammar.prompt_many (Grammar.prompt_declaration o) (Grammar.declarationRule_nil o)
  obtain ⟨m, hm⟩ := (Grammar.app_eq_mismatch o _ e).1 h
  obtain ⟨before, t, r, hahead, he, -⟩ := hds.refuses (s := Grammar.Session.start ts)
    (Grammar.ended_shaped_of_tokenize hts) hm
  obtain rfl : ts = before ++ t :: r := hahead
  exact ⟨t, by simp, he⟩

/-- an error of reading stands at a place of its source: before what the error is about, or at the end -/
theorem Failure.exists_place {o : Options} {file : Option String} {source : String} {f : Failure} {l : Location}
    (h : (readApp o file source).1 = .error f) (hl : f.location? file = some l) :
    ∃ pre rest, source.toList = pre ++ rest ∧ l = ⟨Cursor.lineOf pre, Cursor.columnOf pre, file⟩ ∧
      f.Offends source rest.head? ∧ '\n' ∉ rest.head? := by
  cases htok : tokenize source with
  | error e =>
    rw [readApp_of_lexError o file htok] at h
    cases h
    obtain rfl := Option.some.inj hl
    obtain ⟨pre, c, rest, htext, hline, hcolumn, hchar, hc⟩ := LexError.exists_place htok
    refine ⟨pre, c :: rest, htext, ?_, .character htok hchar, by simpa using hc⟩
    rw [LexError.location, hline, hcolumn]
  | ok ts =>
    rw [readApp_of_tokens o file htok] at h
    obtain ⟨e, happ, rfl⟩ : ∃ e, (Grammar.app o (Grammar.Session.start ts)).1 = .error (.mismatch e) ∧
        f = .grammar (.mismatch e) := by
      cases happ : (Grammar.app o (Grammar.Session.start ts)).1 with
      | ok a =>
        rw [happ] at h
        cases h
      | error g =>
        rw [happ] at h
        cases h
        cases g with
        | mismatch e => exact ⟨e, rfl, rfl⟩
        | _ => cases hl
    obtain rfl := Option.some.inj hl
    obtain ⟨t, ht, he⟩ := ParseError.exists_token htok happ
    obtain ⟨pieces, last, hd⟩ := exists_decomposes htok
    obtain ⟨pre, rest, htext, hline, hcolumn, hstart⟩ := hd.exists_place ht
    have hplace : e.location file = ⟨Cursor.lineOf pre, Cursor.columnOf pre, file⟩ := by
      rw [ParseError.location, he.1, he.2.1, hline, hcolumn]
      rfl
    refine ⟨pre, rest, htext, hplace, ?_⟩
    rcases hstart with ⟨hkind, rfl⟩ | ⟨c, r, rfl, hc, hkind, hstart⟩
    · exact ⟨.finish htok ht he hkind, by simp⟩
    · exact ⟨.token htok ht he hkind hstart, by simpa using hc⟩

/-- a source without a character has no error -/
theorem Failure.source_ne_empty {o : Options} {file : Option String} {source : String} {f : Failure}
    (h : (readApp o file source).1 = .error f) : source ≠ "" := by
  rintro rfl
  have hts : tokenize "" = .ok [⟨.finish, "", 1, 1⟩] := by decide +kernel
  rw [readApp_of_tokens o file hts] at h
  cases h

/-! ## What is printed -/

namespace Console

open Files (Path)

theorem not_mem_lineNumber (k : Nat) : '\x1b' ∉ (lineNumber k).toList := by
  have hbar : " | ".toList = [' ', '|', ' '] := by decide
  rw [lineNumber, String.toList_append, String.toList_ofList, List.leftpad, hbar]
  simp only [List.mem_append, List.mem_replicate, not_or, not_and]
  refine ⟨⟨fun _ => by decide, fun h => ?_⟩, by decide⟩
  exact absurd (Nat.isDigit_of_mem_toDigits (by decide) (by decide) h) (by decide)

theorem visible_numbered (k : Nat) (s : String) : visible (lineNumber k ++ s) = lineNumber k ++ visible s :=
  visible_append (not_mem_lineNumber k) s

/-- the caret line holds no control sequence -/
theorem visible_caret (n : Nat) : visible (Text.repeated ' ' n ++ "^") = Text.repeated ' ' n ++ "^" := by
  have hflat : '\x1b' ∉ (Text.repeated ' ' n ++ "^").toList := by
    rw [Text.repeated, String.toList_append, String.toList_ofList, List.mem_append, List.mem_replicate]
    rintro (⟨-, h⟩ | h)
    · exact absurd h (by decide)
    · exact absurd h (by decide)
  rw [visible, plain_of_not_mem _ hflat, String.ofList_toList]

/-- a line loses its control sequences behind its number -/
theorem map_visible_shownLine (line column : Nat) (s : String) (k : Nat) :
    (shownLine line column s k).map visible = shownLine line column (visible s) k := by
  rw [shownLine, List.map_cons, visible_numbered, shownLine]
  split_ifs
  · rw [List.map_singleton, visible_caret]
  · rfl

theorem linesNear_map (g : String → String) (ls : Lines) (line : Nat) :
    linesNear (ls.map g) line = (linesNear ls line).map fun p => (g p.1, p.2) := by
  rw [linesNear, linesNear, List.zipIdx_map, List.filter_map]
  rfl

theorem map_visible_excerptLines (ls : Lines) (line column : Nat) :
    (excerptLines ls line column).map visible = excerptLines (ls.map visible) line column := by
  rw [excerptLines, List.map_flatMap, excerptLines, linesNear_map, List.flatMap_map]
  exact List.flatMap_congr fun p _ => map_visible_shownLine line column p.1 p.2

/-- the lines of an excerpt stay as they are exactly if the lines of the source do -/
theorem visible_excerptLines_iff (ls : Lines) (line column : Nat) :
    (∀ x ∈ excerptLines ls line column, visible x = x) ↔ ∀ p ∈ linesNear ls line, visible p.1 = p.1 := by
  have hshown : ∀ p : String × Nat, (∀ x ∈ shownLine line column p.1 p.2, visible x = x) ↔ visible p.1 = p.1 := by
    intro p
    rw [shownLine, List.forall_mem_cons, visible_numbered, String.append_right_inj]
    refine and_iff_left ?_
    split_ifs
    · rw [List.forall_mem_singleton]
      exact visible_caret _
    · exact List.forall_mem_nil _
  simp only [excerptLines, List.mem_flatMap, forall_exists_index, and_imp, ← hshown]
  exact ⟨fun h p hp x hx => h x p hp hx, fun h x p hp hx => h p hp x hx⟩

/-- showing errors with an excerpt adds the excerpt and nothing else -/
theorem stderr_failureOutcome {f : Failure} {file : Path} {l : Location} (hl : f.location? (some file.text) = some l)
    {w : Manner} (hw : w.verbose = true) (label source : String) : (failureOutcome w label file source f).stderr =
      (failureOutcome { w with verbose := false } label file source f).stderr ++ excerpt w.host.err l source := by
  cases f with
  | lex e =>
    obtain rfl := Option.some.inj hl
    simp [failureOutcome, Outcome.reported, hw]
  | grammar g =>
    cases g with
    | mismatch e =>
      obtain rfl := Option.some.inj hl
      simp [failureOutcome, Outcome.reported, hw]
    | _ => cases hl
  | generation e => cases hl

/-- **The excerpt points at the error, but for control sequences.** An error of the lexer or the grammar has the number of a
line of its source and a column on it or right behind it, and the character there is the one that the error is about or the
first one of the token that it is about; there is none exactly at the end of the source. What a terminal shows for it is the
location and the lines at most two away from the error under their own numbers, and directly below the line of the error a
caret, as far behind the number as the column says. On another channel all lines lose their control sequences, and the caret
stays where it was; nothing is lost exactly if neither the location nor a line that is shown holds a control sequence. -/
theorem excerpt_points_at_error {o : Options} {file : Path} {source : String} {f : Failure} {l : Location}
    (h : (readApp o (some file.text) source).1 = .error f) (hl : f.location? (some file.text) = some l) :
    ∃ (line column : Nat) (s : String) (c : Option Char), l = ⟨line, column, some file.text⟩ ∧ 1 ≤ line ∧
      (splitLines source)[line - 1]? = some s ∧ 1 ≤ column ∧ column ≤ s.length + 1 ∧ f.Offends source c ∧
      s.toList[column - 1]? = c ∧
      (∀ (w : Manner) (label : String), w.verbose = true → w.host.err.isTerminal = true →
        (failureOutcome w label file source f).stderr =
          (failureOutcome { w with verbose := false } label file source f).stderr ++
            (unlines (l.text :: excerptLines (splitLines source) line column) ++ "\n")) ∧
      (∀ (w : Manner) (label : String), w.verbose = true → w.host.err.isTerminal = false → w.host.err.Unstyles →
        (failureOutcome w label file source f).stderr =
          (failureOutcome { w with verbose := false } label file source f).stderr ++
            (unlines (visible l.text :: excerptLines ((splitLines source).map visible) line column) ++ "\n")) ∧
      (unlines (visible l.text :: excerptLines ((splitLines source).map visible) line column) =
          unlines (l.text :: excerptLines (splitLines source) line column) ↔
        ¬HasControlSequence l.text.toList ∧ ∀ p ∈ linesNear (splitLines source) line, ¬HasControlSequence p.1.toList) := by
  obtain ⟨pre, rest, htext, rfl, hoffends, hend⟩ := Failure.exists_place h hl
  obtain ⟨s, hs, hcolumn, hdrop⟩ := Text.exists_line_at htext
  have hfirst : 1 ≤ Cursor.lineOf pre := Nat.le_add_right 1 _
  have hlast : Cursor.lineOf pre ≤ (splitLines source).length := by
    have hlt := (List.getElem?_eq_some_iff.1 hs).1
    omega
  have hchar : s.toList[Cursor.columnOf pre - 1]? = rest.head? := by
    rw [← List.head?_drop, hdrop]
    cases rest with
    | nil => rfl
    | cons c r =>
      have hc : c ≠ '\n' := fun he => hend (congrArg some he)
      rw [List.takeWhile_cons_of_pos (by simpa using hc)]
      rfl
  have hvisible := visible_unlines (Location.text ⟨Cursor.lineOf pre, Cursor.columnOf pre, some file.text⟩ ::
    excerptLines (splitLines source) (Cursor.lineOf pre) (Cursor.columnOf pre))
  rw [List.map_cons, map_visible_excerptLines] at hvisible
  refine ⟨Cursor.lineOf pre, Cursor.columnOf pre, s, rest.head?, rfl, hfirst, hs, Nat.le_add_right 1 _, hcolumn, hoffends,
    hchar, fun w label hw hterminal => ?_, fun w label hw hterminal hunstyles => ?_, ?_⟩
  · rw [stderr_failureOutcome hl hw, excerpt, withExcerpt_eq hfirst hlast _ _ (Failure.source_ne_empty h), Channel.line,
      Channel.shown, if_pos hterminal]
  · rw [stderr_failureOutcome hl hw, excerpt, withExcerpt_eq hfirst hlast _ _ (Failure.source_ne_empty h), Channel.line,
      Channel.shown, if_neg (by simp [hterminal]), hunstyles, hvisible]
  · rw [← hvisible, visible_unlines_eq_self_iff, List.forall_mem_cons, visible_excerptLines_iff]
    simp only [visible_eq_self_iff]

/-- the path of a source beside the program -/
def samplePath : Path := ⟨"", ["a.sweb"]⟩

/-- a field without a colon, on the third of five lines -/
def missingColon : String := "model A \x7b\n\n  field x text;\n\x7d\n"

def missingColonError : ParseError := ⟨"':'", "'text'", "'text'", 3, 11⟩

theorem excerpt_points_at_missing_colon :
    (readApp .standard (some samplePath.text) missingColon).1 = .error (.grammar (.mismatch missingColonError)) ∧
      ∀ (w : Manner) (label : String), w.verbose = true → w.host.err.isTerminal = true ∨ w.host.err = .piped (fun _ => none) →
        (failureOutcome w label samplePath missingColon (.grammar (.mismatch missingColonError))).stderr =
          (failureOutcome { w with verbose := false } label samplePath missingColon
              (.grammar (.mismatch missingColonError))).stderr ++
            ("a.sweb:3:11\n   1 | model A \x7b\n   2 | \n   3 |   field x text;\n" ++
              "                 ^\n   4 | \x7d\n   5 | \n") := by
  have h : (readApp .standard (some samplePath.text) missingColon).1 = .error (.grammar (.mismatch missingColonError)) := by
    decide +kernel
  obtain ⟨line, column, s, c, hplace, -, -, -, -, -, -, hterminal, hother, -⟩ := excerpt_points_at_error h rfl
  obtain ⟨hline, hcolumn, -⟩ := Location.mk.inj hplace
  obtain rfl : line = 3 := Int.ofNat_inj.1 hline.symm
  obtain rfl : column = 11 := Int.ofNat_inj.1 hcolumn.symm
  refine ⟨h, fun w label hw hchannel => ?_⟩
  rcases hchannel with hchannel | hchannel
  · refine (hterminal w label hw hchannel).trans (congrArg _ ?_)
    decide +kernel
  · have hpiped : w.host.err.isTerminal = false ∧ w.host.err.Unstyles := by
      rw [hchannel]
      exact ⟨rfl, fun _ => rfl⟩
    refine (hother w label hw hpiped.1 hpiped.2).trans (congrArg _ ?_)
    decide +kernel

/-- a text with a control sequence, and behind it a character that starts nothing -/
def boldText : String := "\"\x1b[1m\" @"

def boldTextError : LexError := ⟨.unexpected, "@", 1, 8⟩

/-- on a channel that is no terminal the caret stands four columns behind the character, beyond the end of the line -/
theorem excerpt_misses_error :
    (readApp .standard (some samplePath.text) boldText).1 = .error (.lex boldTextError) ∧
      excerpt (.piped fun _ => none) (boldTextError.location (some samplePath.text)) boldText =
        "a.sweb:1:8\n   1 | \"\" @\n              ^\n" ∧
      excerpt (.piped fun _ => none) (boldTextError.location (some samplePath.text)) boldText ≠
        unlines ((boldTextError.location (some samplePath.text)).text :: excerptLines (splitLines boldText) 1 8) ++ "\n" ∧
      ∀ (w : Manner) (label : String), w.verbose = true →
        (failureOutcome w label samplePath boldText (.lex boldTextError)).stderr =
          w.host.err.line (label ++ ": " ++ boldTextError.report (some samplePath.text)) ++
            excerpt w.host.err (boldTextError.location (some samplePath.text)) boldText := by
  refine ⟨by decide +kernel, by decide +kernel, by decide +kernel, fun w label hw => ?_⟩
  simp [failureOutcome, Outcome.reported, hw]

end Console

end Pagewright
