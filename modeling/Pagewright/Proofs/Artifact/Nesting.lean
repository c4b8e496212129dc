/-
Braces in a script. A line stands outside when every brace that code before it opens is closed again (`outerLines`); braces
in literals do not count.

Each line that a generator writes is level, or it opens a body that a later line closes. So lines that are written together
are outlined by those of them that stand in no body (`Outlined`), however deep they stand as a whole.
-/
import Pagewright.Proofs.Artifact.Margin

namespace Pagewright.Script

open Text

/-! ## Lines outside braces -/

/-- how many braces are open after a line, if `d` are open before it -/
def openAfter (d : Nat) (l : String) : Nat := d + (code l).count '\x7b' - (code l).count '\x7d'

/-- the lines that stand outside all braces, if `d` are open before the first line -/
def outerLines : Nat → Lines → Lines
  | _, [] => []
  | d, l :: ls => (if d = 0 then [l] else []) ++ outerLines (openAfter d l) ls

theorem outerLines_append (d : Nat) (ls ms : Lines) :
    outerLines d (ls ++ ms) = outerLines d ls ++ outerLines (ls.foldl openAfter d) ms := by
  induction ls generalizing d with
  | nil => rfl
  | cons l ls ih => rw [List.cons_append, outerLines, outerLines, ih, List.append_assoc, List.foldl_cons]

/-! ## Level texts -/

/-- where a character of a line stands, and how many braces are open there -/
structure Nest where
  mode : Mode
  depth : Nat
  deriving DecidableEq, Repr

namespace Nest

/-- where the next character stands; line ends are refused, and closing braces where none is open -/
def next : Nest → Char → Option Nest
  | ⟨.code, d⟩, c =>
    if c = '\n' then none
    else if c = '\x7b' then some ⟨.code, d + 1⟩
    else if c = '\x7d' then d.casesOn none fun e => some ⟨.code, e⟩
    else some ⟨Mode.code.next c, d⟩
  | ⟨m, d⟩, c => if c = '\n' then none else some ⟨m.next c, d⟩

/-- a name after a backslash is read as its first character -/
def afterName (q : Nest) : Nest := if q.mode = .escape then ⟨.literal, q.depth⟩ else q

/-- what one character can do: open a brace, close one, or leave their number as it is -/
inductive Step : Nest → Char → Nest → Prop
  | opens {d : Nat} : Step ⟨.code, d⟩ '\x7b' ⟨.code, d + 1⟩
  | closes {d : Nat} : Step ⟨.code, d + 1⟩ '\x7d' ⟨.code, d⟩
  | stays {m : Mode} {d : Nat} {c : Char} (hline : c ≠ '\n') (hbrace : m = .code → c ≠ '\x7b' ∧ c ≠ '\x7d') :
    Step ⟨m, d⟩ c ⟨m.next c, d⟩

theorem next_eq_some_iff {q q' : Nest} {c : Char} : q.next c = some q' ↔ Step q c q' := by
  constructor
  · intro h
    obtain ⟨m, d⟩ := q
    cases m with
    | code =>
      simp only [next] at h
      split_ifs at h with hline hopen hclose
      · subst hopen
        cases h
        exact .opens
      · subst hclose
        cases d with
        | zero => cases h
        | succ d =>
          cases h
          exact .closes
      · cases h
        exact .stays hline fun _ => ⟨hopen, hclose⟩
    | literal =>
      simp only [next] at h
      split_ifs at h with hline
      cases h
      exact .stays hline fun h => by cases h
    | escape =>
      simp only [next] at h
      split_ifs at h with hline
      cases h
      exact .stays hline fun h => by cases h
  · rintro (_ | _ | ⟨hline, hbrace⟩)
    · rfl
    · rfl
    · rename_i m d
      cases m with
      | code => simp [next, hline, hbrace rfl]
      | literal => simp [next, hline]
      | escape => simp [next, hline]

/-- a character that is read keeps the account of braces -/
theorem Step.counts {q q' : Nest} {c : Char} (h : Step q c q') :
    c ≠ '\n' ∧ q.mode.next c = q'.mode ∧
      q.depth + (codeFrom q.mode [c]).count '\x7b' = q'.depth + (codeFrom q.mode [c]).count '\x7d' := by
  cases h with
  | opens => exact ⟨by decide, rfl, rfl⟩
  | closes => exact ⟨by decide, rfl, rfl⟩
  | @stays m d c hline hbrace =>
    refine ⟨hline, rfl, ?_⟩
    have hnone : ∀ b ∈ ['\x7b', '\x7d'], (codeFrom m [c]).count b = 0 := by
      intro b hb
      rw [List.count_eq_zero]
      intro hmem
      cases m with
      | code => simp_all [codeFrom, Mode.keeps]
      | literal =>
        simp only [codeFrom, Mode.keeps] at hmem
        split_ifs at hmem <;> simp_all
      | escape => simp [codeFrom, Mode.keeps] at hmem
    rw [hnone _ (.head _), hnone _ (.tail _ (.head _))]

/-- braces that are open around a text do not matter for it -/
theorem Step.deeper {q q' : Nest} {c : Char} (h : Step q c q') (d : Nat) :
    Step ⟨q.mode, q.depth + d⟩ c ⟨q'.mode, q'.depth + d⟩ := by
  cases h with
  | @opens e =>
    have hdepth : e + 1 + d = e + d + 1 := by omega
    simpa only [hdepth] using .opens
  | @closes e =>
    have hdepth : e + 1 + d = e + d + 1 := by omega
    simpa only [hdepth] using .closes
  | stays hline hbrace => exact .stays hline hbrace

theorem reading_counts {q q' : Nest} {s : List Char} (h : reading next q s = some q') :
    '\n' ∉ s ∧ q.mode.after s = q'.mode ∧
      q.depth + (codeFrom q.mode s).count '\x7b' = q'.depth + (codeFrom q.mode s).count '\x7d' := by
  induction s generalizing q with
  | nil =>
    cases h
    exact ⟨List.not_mem_nil, rfl, rfl⟩
  | cons c s ih =>
    rw [reading_cons, Option.bind_eq_some_iff] at h
    obtain ⟨p, hp, hs⟩ := h
    obtain ⟨hc, hmode, hone⟩ := (next_eq_some_iff.1 hp).counts
    obtain ⟨hline, hafter, hrest⟩ := ih hs
    have hcode : codeFrom q.mode (c :: s) = codeFrom q.mode [c] ++ codeFrom p.mode s := by
      rw [← hmode]
      exact codeFrom_append q.mode [c] s
    refine ⟨by simp [Ne.symm hc, hline], ?_, ?_⟩
    · rw [← hafter, ← hmode]
      rfl
    · rw [hcode, List.count_append, List.count_append]
      omega

/-- a text is read in the same way however many braces are open around it -/
theorem reading_deeper {q q' : Nest} {s : List Char} (h : reading next q s = some q') (d : Nat) :
    reading next ⟨q.mode, q.depth + d⟩ s = some ⟨q'.mode, q'.depth + d⟩ := by
  refine reading_of_follows next (f := fun q : Nest => (⟨q.mode, q.depth + d⟩ : Nest)) ?_ h
  intro q c q' hnext
  exact next_eq_some_iff.2 ((next_eq_some_iff.1 hnext).deeper d)

/-- a text that holds no line end, and no brace in its code -/
theorem reading_braceless {q : Nest} {s : List Char} (hflat : isFlat s = true)
    (hbraces : ∀ c ∈ codeFrom q.mode s, c ≠ '\x7b' ∧ c ≠ '\x7d') :
    reading next q s = some ⟨q.mode.after s, q.depth⟩ := by
  induction s generalizing q with
  | nil => rfl
  | cons c s ih =>
    simp only [isFlat, List.all_cons, Bool.and_eq_true, decide_eq_true_eq] at hflat
    have hcode : codeFrom q.mode (c :: s) = codeFrom q.mode [c] ++ codeFrom (q.mode.next c) s := codeFrom_append q.mode [c] s
    rw [hcode, List.forall_mem_append] at hbraces
    have hkept : q.mode = .code → c ≠ '\x7b' ∧ c ≠ '\x7d' := by
      intro hm
      refine hbraces.1 c ?_
      rw [hm]
      exact List.mem_singleton_self c
    rw [reading_cons, next_eq_some_iff.2 (.stays hflat.1 hkept)]
    exact ih hflat.2 hbraces.2

theorem next_of_isPart {c : Char} (h : Name.isPart c = true) (q : Nest) : q.next c = some q.afterName := by
  have hne : ∀ d, Name.isPart d = false → c ≠ d := by
    rintro d hd rfl
    rw [hd] at h
    cases h
  have hline := hne '\n' (by decide)
  have hquote := hne '"' (by decide)
  have hescape := hne '\\' (by decide)
  have hopen := hne '\x7b' (by decide)
  have hclose := hne '\x7d' (by decide)
  obtain ⟨m, d⟩ := q
  cases m <;> simp [next, afterName, Mode.next, hline, hquote, hescape, hopen, hclose]

/-- a name leaves the reader outside literals, or inside the one it was in -/
theorem reading_name {n : String} (h : Name.isName n.toList = true) (q : Nest) :
    reading next q n.toList = some q.afterName := by
  cases hn : n.toList with
  | nil =>
    rw [hn] at h
    cases h
  | cons c r =>
    rw [hn] at h
    have hparts := List.forall_mem_cons.1 fun d hd => Name.isPart_of_isName h (c := d) hd
    rw [reading_cons, next_of_isPart hparts.1]
    refine reading_of_forall next fun d hd => ?_
    rw [next_of_isPart (hparts.2 d hd)]
    obtain ⟨m, d⟩ := q
    cases m <;> rfl

end Nest

/-- a text on one line that closes the braces it opens, and ends outside literals -/
def Level (s : String) : Prop := Loops Nest.next ⟨.code, 0⟩ s

theorem Level.append {s t : String} (hs : Level s) (ht : Level t) : Level (s ++ t) := Loops.append hs ht

theorem level_ofList {l : List Char} (h : reading Nest.next ⟨.code, 0⟩ l = some ⟨.code, 0⟩) : Level (String.ofList l) := by
  unfold Level Loops
  rw [String.toList_ofList]
  exact h

theorem level_word {w : String} (h : ∀ c ∈ w.toList, Name.isPart c = true) : Level w :=
  reading_of_forall Nest.next fun c hc => Nest.next_of_isPart (h c hc) _

theorem level_name {n : String} (h : Name.isName n.toList = true) : Level n := level_word fun _ => Name.isPart_of_isName h

theorem level_empty : Level "" := rfl

theorem level_braceless {s : String} (hflat : isFlat s.toList = true) (hends : EndsInCode s)
    (hbraces : ∀ c ∈ code s, c ≠ '\x7b' ∧ c ≠ '\x7d') : Level s := by
  have hread := Nest.reading_braceless (q := ⟨.code, 0⟩) hflat hbraces
  have hmode : Mode.code.after s.toList = .code := hends
  rwa [hmode] at hread

theorem level_scriptText (s : String) : Level (scriptText s) := by
  refine level_braceless (isFlat_scriptText s) (sound_scriptText s).endsInCode fun c hc => ?_
  rw [code_scriptText] at hc
  obtain rfl : c = '"' := by simpa using hc
  decide

theorem level_scriptLiteral (d : Option Literal) : Level (scriptLiteral (.ofOption (d.map Literal.toValue))) := by
  by_cases h : ∃ s, d = some (.text s)
  · obtain ⟨s, rfl⟩ := h
    exact level_scriptText s
  · have hwordy : ∀ c ∈ (scriptLiteral (.ofOption (d.map Literal.toValue))).toList, isWordy c = true := fun c hc =>
      isWordy_scriptLiteral (fun s hs => h ⟨s, hs⟩) hc
    refine level_braceless (isFlat_scriptLiteral d) (sound_scriptLiteral d).endsInCode ?_
    rw [code_eq_self fun hquote => absurd (hwordy _ hquote) (by decide)]
    refine fun c hc => ⟨?_, ?_⟩
    · rintro rfl
      exact absurd (hwordy _ hc) (by decide)
    · rintro rfl
      exact absurd (hwordy _ hc) (by decide)

section

variable {s : String} (h : Level s)

include h

theorem Level.reading_deeper (d : Nat) : reading Nest.next ⟨.code, d⟩ s.toList = some ⟨.code, d⟩ := by
  have hdeeper := Nest.reading_deeper h d
  rwa [Nat.zero_add] at hdeeper

theorem Level.inBraces : Level (inBraces s) := by
  have hopen : reading Nest.next ⟨.code, 0⟩ (openBrace ++ " ").toList = some ⟨.code, 1⟩ := by decide
  have hclose : reading Nest.next ⟨.code, 1⟩ (" " ++ closeBrace).toList = some ⟨.code, 0⟩ := by decide
  have htext : Text.inBraces s = openBrace ++ " " ++ s ++ (" " ++ closeBrace) := String.append_assoc
  unfold Level Loops
  rw [htext, String.toList_append, String.toList_append, reading_append, reading_append, hopen, Option.bind_some,
    h.reading_deeper 1]
  exact hclose

theorem Level.flat : '\n' ∉ s.toList := (Nest.reading_counts h).1

end

/-! ## Outlined lines -/

/-- the braces that a line leaves open are counted as its characters are read -/
theorem openAfter_of_reading {d e : Nat} {l : String} (h : reading Nest.next ⟨.code, d⟩ l.toList = some ⟨.code, e⟩) :
    openAfter d l = e := by
  obtain ⟨-, -, hcount⟩ := Nest.reading_counts h
  simp only at hcount
  unfold openAfter code
  omega

theorem openAfter_indentLine (d : Nat) (l : String) : openAfter d (indentLine l) = openAfter d l := by
  unfold indentLine
  split
  · rfl
  · have hcolumns : code ("  " ++ l) = ' ' :: ' ' :: code l := by
      have hends : EndsInCode "  " := by
        unfold EndsInCode
        decide
      have hcode : code "  " = [' ', ' '] := by decide
      rw [code_append hends, hcode]
      rfl
    simp [openAfter, hcolumns]

theorem foldl_openAfter_indent (ls : Lines) (d : Nat) : (indent ls).foldl openAfter d = ls.foldl openAfter d := by
  unfold indent
  rw [List.foldl_map]
  simp only [openAfter_indentLine]

theorem outerLines_indent (ls : Lines) (d : Nat) : outerLines d (indent ls) = indent (outerLines d ls) := by
  induction ls generalizing d with
  | nil => rfl
  | cons l ls ih =>
    have hhead : indent (if d = 0 then [l] else []) = if d = 0 then [indentLine l] else [] := by
      split <;> rfl
    show (if d = 0 then [indentLine l] else []) ++ outerLines (openAfter d (indentLine l)) (indent ls) = _
    rw [openAfter_indentLine, ih, outerLines, ← hhead]
    exact List.map_append.symm

/-- lines that close what they open, and those of them that stand in no body of the others -/
structure Outlined (ls outer : Lines) : Prop where
  flat : ∀ l ∈ ls, '\n' ∉ l.toList
  closes : ∀ d, ls.foldl openAfter d = d
  outer : ∀ d, outerLines d ls = if d = 0 then outer else []

namespace Outlined

theorem nil : Outlined [] [] where
  flat := List.forall_mem_nil _
  closes _ := rfl
  outer d := by split <;> rfl

theorem line {l : String} (h : Level l) : Outlined [l] [l] where
  flat := List.forall_mem_singleton.2 h.flat
  closes d := openAfter_of_reading (h.reading_deeper d)
  outer _ := List.append_nil _

theorem append {ls ms outer outer' : Lines} (h : Outlined ls outer) (h' : Outlined ms outer') :
    Outlined (ls ++ ms) (outer ++ outer') where
  flat := List.forall_mem_append.2 ⟨h.flat, h'.flat⟩
  closes d := by rw [List.foldl_append, h.closes, h'.closes]
  outer d := by
    rw [outerLines_append, h.closes, h.outer, h'.outer]
    split <;> rfl

theorem indent {ls outer : Lines} (h : Outlined ls outer) : Outlined (indent ls) (indent outer) where
  flat := by
    refine List.forall_mem_map.2 fun l hl => ?_
    unfold indentLine
    split
    · exact h.flat l hl
    · simpa using h.flat l hl
  closes d := by rw [foldl_openAfter_indent, h.closes]
  outer d := by
    rw [outerLines_indent, h.outer]
    split <;> rfl

/-- of a block, the line with its head stands outside -/
theorem block {head tail : String} {body inner : Lines} (hhead : Level head) (hbody : Outlined body inner)
    (htail : Level tail) : Outlined (block head body tail) [head ++ " " ++ openBrace] := by
  have hopens : ∀ d, reading Nest.next ⟨.code, d⟩ (head ++ " " ++ openBrace).toList = some ⟨.code, d + 1⟩ := by
    intro d
    rw [String.append_assoc, String.toList_append, reading_append, hhead.reading_deeper]
    rfl
  have hcloses : ∀ d, reading Nest.next ⟨.code, d + 1⟩ (closeBrace ++ tail).toList = some ⟨.code, d⟩ := by
    intro d
    rw [String.toList_append, reading_append]
    exact htail.reading_deeper d
  have hinner := hbody.indent
  constructor
  · refine List.forall_mem_append.2 ⟨List.forall_mem_append.2 ⟨?_, hinner.flat⟩, ?_⟩
    · exact List.forall_mem_singleton.2 (Nest.reading_counts (hopens 0)).1
    · exact List.forall_mem_singleton.2 (Nest.reading_counts (hcloses 0)).1
  · intro d
    simp only [Text.block, List.foldl_append, List.foldl_cons, List.foldl_nil, openAfter_of_reading (hopens d),
      hinner.closes, openAfter_of_reading (hcloses d)]
  · intro d
    simp [Text.block, outerLines_append, outerLines, openAfter_of_reading (hopens d), hinner.outer, hinner.closes]

end Outlined

/-- lines that close what they open -/
def Closed (ls : Lines) : Prop := ∃ outer, Outlined ls outer

namespace Closed

theorem append {ls ms : Lines} : Closed ls → Closed ms → Closed (ls ++ ms)
  | ⟨_, h⟩, ⟨_, h'⟩ => ⟨_, h.append h'⟩

theorem indent {ls : Lines} : Closed ls → Closed (indent ls)
  | ⟨_, h⟩ => ⟨_, h.indent⟩

theorem block {head tail : String} {body : Lines} (hhead : Level head) : Closed body → Level tail → Closed (block head body tail)
  | ⟨_, hbody⟩, htail => ⟨_, .block hhead hbody htail⟩

theorem lines {ls : Lines} (h : Every Level ls) : Closed ls := by
  induction ls with
  | nil => exact ⟨_, .nil⟩
  | cons l ls ih =>
    obtain ⟨hl, hls⟩ := every_cons.1 h
    exact append ⟨_, .line hl⟩ (ih hls)

theorem orBlank {ls : Lines} (h : Closed ls) : Closed (orBlank ls) := by
  unfold Text.orBlank
  split
  · exact lines (every_cons.2 ⟨level_empty, every_nil⟩)
  · exact h

theorem flatten {gs : List Lines} (h : ∀ g ∈ gs, Closed g) : Closed gs.flatten := by
  induction gs with
  | nil => exact lines every_nil
  | cons g gs ih =>
    obtain ⟨hg, hgs⟩ := List.forall_mem_cons.1 h
    exact append hg (ih hgs)

end Closed

end Pagewright.Script
