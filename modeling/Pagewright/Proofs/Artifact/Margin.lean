/-
Which functions a script has, read off its lines. Everything that a generator writes into a function is indented, so a
function is what stands from a line at the margin that begins one to the first closing brace at the margin (`functionsIn`).
The lines of a section hold the functions of that section and nothing reaches over its end (`Holds`), so the functions of a
script are those of its sections, one section after the other.

A name may end in a line end, and then what the generator wrote as one line is two lines of the script. No such line begins a
function or closes one, because what follows a name on a line never starts like that (`Neat`).
-/
import Pagewright.Proofs.Artifact.Calls
import Pagewright.Proofs.Text.Lines

namespace Pagewright.Script

open Text

/-! ## Functions at the margin -/

def isHead (l : String) : Bool := "function ".toList.isPrefixOf l.toList

/-- lines up to the first closing brace at the margin -/
def throughBrace : Lines → Lines
  | [] => []
  | l :: ls => if l = closeBrace then [l] else l :: throughBrace ls

/-- the functions that begin at the margin, each up to the closing brace at the margin -/
def functionsIn : Lines → List Lines
  | [] => []
  | l :: ls => if isHead l then (l :: throughBrace ls) :: functionsIn ls else functionsIn ls

theorem throughBrace_append {xs : Lines} (h : ∀ x ∈ xs, x ≠ closeBrace) (ys : Lines) :
    throughBrace (xs ++ closeBrace :: ys) = xs ++ [closeBrace] := by
  induction xs with
  | nil => simp [throughBrace]
  | cons x xs ih =>
    rw [List.forall_mem_cons] at h
    rw [List.cons_append, throughBrace, if_neg h.1, ih h.2, List.cons_append]

theorem functionsIn_append {xs : Lines} (h : ∀ x ∈ xs, isHead x = false) (ys : Lines) :
    functionsIn (xs ++ ys) = functionsIn ys := by
  induction xs with
  | nil => rfl
  | cons x xs ih =>
    rw [List.forall_mem_cons] at h
    rw [List.cons_append, functionsIn, h.1]
    exact ih h.2

/-! ## Lines that hold their shape -/

/-- a text neither begins a function nor closes one -/
def isSoft : List Char → Bool
  | [] => true
  | c :: _ => c ≠ 'f' && c ≠ '\x7d'

/-- what follows a line end inside a text neither begins a function nor closes one -/
def isNeat : List Char → Bool
  | [] => true
  | c :: s => (c ≠ '\n' || isSoft s) && isNeat s

/-- a text that a generator may write as one line -/
def Neat (s : String) : Prop := isNeat s.toList = true

theorem isNeat_cons {c : Char} (hc : c ≠ '\n') (s : List Char) : isNeat (c :: s) = isNeat s := by
  simp [isNeat, hc]

def isFlat (s : List Char) : Bool := s.all (· ≠ '\n')

theorem isNeat_flat {s : List Char} (h : isFlat s = true) (t : List Char) : isNeat (s ++ t) = isNeat t := by
  induction s with
  | nil => rfl
  | cons c s ih =>
    simp only [isFlat, List.all_cons, Bool.and_eq_true, decide_eq_true_eq] at h
    rw [List.cons_append, isNeat_cons h.1]
    exact ih h.2

theorem isFlat_of_isName {s : List Char} (h : Name.isName s = true) : isFlat s = true := by
  refine List.all_eq_true.2 fun c hc => ?_
  have hpart := Name.isPart_of_isName h hc
  have hend : Name.isPart '\n' = false := by decide
  rw [decide_eq_true_eq]
  rintro rfl
  rw [hend] at hpart
  cases hpart

/-- after a name comes what neither begins a function nor closes one -/
theorem isNeat_name {n : String} (hn : Name.isAccepted n.toList = true) {t : List Char} (ht : isSoft t = true) :
    isNeat (n.toList ++ t) = isNeat t := by
  simp only [Name.isAccepted, Bool.or_eq_true, Bool.and_eq_true, beq_iff_eq] at hn
  rcases hn with hname | ⟨hlast, hname⟩
  · exact isNeat_flat (isFlat_of_isName hname) t
  · rw [← List.dropLast_append_getLast? _ hlast, List.append_assoc, isNeat_flat (isFlat_of_isName hname)]
    simp [isNeat, ht]

theorem isNeat_name_end {n : String} (hn : Name.isAccepted n.toList = true) : isNeat n.toList = true := by
  have hend := isNeat_name hn (t := []) rfl
  rw [List.append_nil] at hend
  exact hend

/-- after a name comes a text of at least one character -/
theorem isNeat_name_then {n : String} (hn : Name.isAccepted n.toList = true) {s : List Char}
    (hs : (!s.isEmpty && isSoft s) = true) (t : List Char) : isNeat (n.toList ++ (s ++ t)) = isNeat (s ++ t) := by
  cases s with
  | nil => cases hs
  | cons c s => exact isNeat_name hn hs

theorem indentable_neat : Indentable Neat where
  empty := rfl
  columns {s} := by
    have hflat : isFlat "  ".toList = true := by decide
    rw [Neat, String.toList_append, isNeat_flat hflat, Neat]

/-! ## From what is written to the lines of the script -/

/-- no line of a neat text but the first begins a function or closes one, and the first does not if the text does not -/
theorem isSoft_of_mem_splitOn {s : List Char} (h : isNeat s = true) :
    (∀ x ∈ (s.splitOn '\n').tail, isSoft x = true) ∧ (isSoft s = true → ∀ x ∈ s.splitOn '\n', isSoft x = true) := by
  induction s with
  | nil => simp [isSoft]
  | cons c s ih =>
    simp only [isNeat, Bool.and_eq_true, Bool.or_eq_true, decide_eq_true_eq] at h
    obtain ⟨htail, hall⟩ := ih h.2
    rw [List.splitOn_cons_eq_if_modifyHead]
    by_cases hc : c = '\n'
    · have hsoft := hall (h.1.resolve_left (not_not.2 hc))
      rw [if_pos (beq_iff_eq.2 hc)]
      exact ⟨hsoft, fun _ => List.forall_mem_cons.2 ⟨rfl, hsoft⟩⟩
    · rw [if_neg (mt beq_iff_eq.1 hc)]
      cases hlines : s.splitOn '\n' with
      | nil => exact absurd hlines (List.splitOn_ne_nil _ _)
      | cons x xs =>
        rw [hlines] at htail
        exact ⟨htail, fun hsoft => List.forall_mem_cons.2 ⟨hsoft, htail⟩⟩

theorem not_isHead_of_isSoft {x : String} (h : isSoft x.toList = true) : isHead x = false := by
  have hword : "function ".toList = 'f' :: "unction ".toList := by decide
  unfold isHead
  rw [hword]
  cases hx : x.toList with
  | nil => rfl
  | cons c r =>
    have hc : c ≠ 'f' ∧ c ≠ '\x7d' := by simpa [hx, isSoft] using h
    simp [List.isPrefixOf, Ne.symm hc.1]

/-- what a text begins with decides whether it begins or closes a function -/
theorem isSoft_append {s : String} (hs : (!s.toList.isEmpty && isSoft s.toList) = true) (t : String) :
    isSoft (s ++ t).toList = true := by
  rw [String.toList_append]
  cases hchars : s.toList with
  | nil => simp [hchars] at hs
  | cons c r => simpa [hchars, isSoft] using hs

theorem ne_closeBrace_of_isSoft {x : String} (h : isSoft x.toList = true) : x ≠ closeBrace := by
  rintro rfl
  revert h
  decide

/-- the lines that come of texts written one under the other -/
def pieces (ls : Lines) : Lines := ls.flatMap splitLines

theorem pieces_append (ls ms : Lines) : pieces (ls ++ ms) = pieces ls ++ pieces ms := List.flatMap_append

theorem pieces_cons (l : String) (ls : Lines) : pieces (l :: ls) = splitLines l ++ pieces ls := List.flatMap_cons

theorem unlines_pieces (ls : Lines) : unlines (pieces ls) = unlines ls := by
  cases ls with
  | nil => rfl
  | cons l ls => rw [pieces, ← splitLines_unlines (List.cons_ne_nil _ _), unlines_splitLines]

theorem soft_splitLines {l : String} (h : Neat l) (hsoft : isSoft l.toList = true) :
    ∀ x ∈ splitLines l, isSoft x.toList = true := by
  intro x hx
  obtain ⟨y, hy, rfl⟩ := List.mem_map.1 hx
  rw [String.toList_ofList]
  exact (isSoft_of_mem_splitOn h).2 hsoft y hy

/-- an indented line neither begins a function nor closes one -/
theorem soft_indentLine {l : String} (h : Neat l) : ∀ x ∈ splitLines (indentLine l), isSoft x.toList = true := by
  unfold indentLine
  split
  · rename_i hempty
    have hl : l = "" := String.isEmpty_iff.1 hempty
    subst hl
    exact soft_splitLines h rfl
  · exact soft_splitLines (indentable_neat.columns.2 h) (isSoft_append (by decide) l)

theorem soft_indent {ls : Lines} (h : Every Neat ls) : ∀ x ∈ pieces (indent ls), isSoft x.toList = true := by
  intro x hx
  obtain ⟨m, hm, hx⟩ := List.mem_flatMap.1 hx
  obtain ⟨l, hl, rfl⟩ := List.mem_map.1 hm
  exact soft_indentLine (h l hl) x hx

/-- text without line ends is the beginning of the first line -/
theorem splitOn_flat {s : List Char} (h : isFlat s = true) (t : List Char) :
    (s ++ t).splitOn '\n' = (t.splitOn '\n').modifyHead (s ++ ·) := by
  induction s with
  | nil =>
    rw [List.nil_append]
    cases t.splitOn '\n' <;> rfl
  | cons c s ih =>
    simp only [isFlat, List.all_cons, Bool.and_eq_true, decide_eq_true_eq] at h
    rw [List.cons_append, List.splitOn_cons_eq_if_modifyHead, if_neg (mt beq_iff_eq.1 h.1), ih h.2]
    cases t.splitOn '\n' <;> rfl

/-- the head of a function comes as a line that begins one, and perhaps more that begin and close nothing -/
theorem exists_splitLines_head {l : String} (h : Neat l) (hhead : isHead l = true) :
    ∃ x xs, splitLines l = x :: xs ∧ isHead x = true ∧ ∀ y ∈ xs, isSoft y.toList = true := by
  obtain ⟨t, ht⟩ := List.isPrefixOf_iff_prefix.1 hhead
  have hflat : isFlat "function ".toList = true := by decide
  obtain ⟨htail, -⟩ := isSoft_of_mem_splitOn h
  rw [← ht, splitOn_flat hflat] at htail
  cases hlines : t.splitOn '\n' with
  | nil => exact absurd hlines (List.splitOn_ne_nil _ _)
  | cons x xs =>
    rw [hlines] at htail
    refine ⟨String.ofList ("function ".toList ++ x), xs.map String.ofList, ?_, ?_, ?_⟩
    · rw [splitLines, ← ht, splitOn_flat hflat, hlines]
      rfl
    · have htext : (String.ofList ("function ".toList ++ x)).toList = "function ".toList ++ x := String.toList_ofList
      rw [isHead, htext, List.isPrefixOf_iff_prefix]
      exact List.prefix_append _ _
    · intro y hy
      obtain ⟨z, hz, rfl⟩ := List.mem_map.1 hy
      rw [String.toList_ofList]
      exact htail z hz

/-! ## Functions of lines -/

/-- lines hold these functions at the margin, whatever comes after them -/
def Holds (ls : Lines) (fs : List Lines) : Prop :=
  ∀ rest, functionsIn (pieces ls ++ rest) = fs.map pieces ++ functionsIn rest

theorem Holds.append {ls ms : Lines} {fs gs : List Lines} (h : Holds ls fs) (h' : Holds ms gs) :
    Holds (ls ++ ms) (fs ++ gs) := by
  intro rest
  rw [pieces_append, List.append_assoc, h, h', List.map_append, List.append_assoc]

theorem holds_nil : Holds [] [] := fun _ => rfl

/-- texts of which no line begins a function -/
theorem holds_of_forall {ls : Lines} (h : ∀ x ∈ pieces ls, isHead x = false) : Holds ls [] :=
  fun rest => functionsIn_append h rest

theorem holds_function {name parameters : String} {body : Lines} (h : Every Neat (function name parameters body)) :
    Holds (function name parameters body) [function name parameters body] := by
  obtain ⟨hhead, hbody, -⟩ := indentable_neat.every_block.1 h
  have hbegins : isHead ("function " ++ name ++ "(" ++ parameters ++ ")" ++ " " ++ openBrace) = true := by
    rw [isHead, List.isPrefixOf_iff_prefix]
    simp only [String.toList_append, List.append_assoc]
    exact List.prefix_append _ _
  obtain ⟨x, xs, hlines, hx, hxs⟩ := exists_splitLines_head hhead hbegins
  -- the lines between the first and the brace that closes the function
  have hsoft : ∀ y ∈ xs ++ pieces (indent body), isSoft y.toList = true :=
    List.forall_mem_append.2 ⟨hxs, soft_indent hbody⟩
  have hbrace : splitLines closeBrace = [closeBrace] := by decide
  have hpieces : pieces (function name parameters body) = x :: (xs ++ pieces (indent body)) ++ [closeBrace] := by
    simp only [function, block, pieces_append, pieces_cons, hlines, String.append_empty, hbrace]
    simp [pieces]
  intro rest
  have hclosed := throughBrace_append (fun y hy => ne_closeBrace_of_isSoft (hsoft y hy)) rest
  have hnone : ∀ y ∈ xs ++ pieces (indent body) ++ [closeBrace], isHead y = false := by
    refine List.forall_mem_append.2 ⟨fun y hy => not_isHead_of_isSoft (hsoft y hy), ?_⟩
    exact List.forall_mem_singleton.2 (by decide)
  have hafter := functionsIn_append hnone rest
  rw [List.append_assoc, List.singleton_append] at hafter
  rw [List.map_singleton, hpieces]
  simp only [List.cons_append, List.append_assoc, List.nil_append, functionsIn, hx, if_true] at hclosed hafter ⊢
  rw [hclosed, hafter]

/-- a block whose head begins no function holds none -/
theorem holds_block {head tail : String} {body : Lines} (h : Every Neat (block head body tail))
    (hsoft : isSoft (head ++ " " ++ openBrace).toList = true) (htail : isFlat tail.toList = true) :
    Holds (block head body tail) [] := by
  obtain ⟨hhead, hbody, -⟩ := indentable_neat.every_block.1 h
  have hclose : splitLines (closeBrace ++ tail) = [closeBrace ++ tail] := by
    have hflat : '\n' ∉ (closeBrace ++ tail).toList := by
      intro hmem
      rw [String.toList_append] at hmem
      rcases List.mem_append.1 hmem with hmem | hmem
      · exact absurd hmem (by decide)
      · simpa using List.all_eq_true.1 htail _ hmem
    rw [splitLines, List.splitOn_eq_singleton hflat, List.map_singleton, String.ofList_toList]
  have hbrace : isHead (closeBrace ++ tail) = false := by
    rw [isHead, String.toList_append]
    rfl
  refine holds_of_forall ?_
  simp only [block, pieces_append, pieces_cons, hclose, List.forall_mem_append]
  refine ⟨⟨⟨?_, by simp [pieces]⟩, ?_⟩, ?_⟩
  · intro x hx
    exact not_isHead_of_isSoft (soft_splitLines hhead hsoft x hx)
  · intro x hx
    exact not_isHead_of_isSoft (soft_indent hbody x hx)
  · simpa [pieces] using hbrace

/-- a line that begins no function -/
theorem holds_line {l : String} (h : Neat l) (hsoft : isSoft l.toList = true) : Holds [l] [] := by
  refine holds_of_forall fun x hx => ?_
  rw [pieces_cons, pieces, List.flatMap_nil, List.append_nil] at hx
  exact not_isHead_of_isSoft (soft_splitLines h hsoft x hx)

/-- a function under a comment -/
theorem holds_commented {l name parameters : String} {body : Lines} (h : Every Neat ([l] ++ function name parameters body))
    (hsoft : isSoft l.toList = true) : Holds ([l] ++ function name parameters body) [function name parameters body] := by
  obtain ⟨hline, hfunction⟩ := every_append.1 h
  exact (holds_line (every_cons.1 hline).1 hsoft).append (holds_function hfunction)

/-- groups of lines hold what each of them holds -/
theorem holds_paragraphs {gs : List Lines} {fss : List (List Lines)} (h : List.Forall₂ Holds gs fss) :
    Holds (paragraphs gs) fss.flatten := by
  unfold paragraphs
  induction h with
  | nil => exact holds_nil
  | @cons g fs gs fss hg hgs ih =>
    cases hgs with
    | nil => simpa using hg
    | cons hk hks =>
      rw [List.intercalate_cons_cons, List.flatten_cons]
      have hblank : Holds [""] [] := holds_line rfl rfl
      simpa using (hg.append hblank).append ih

/-! ## Neat lines -/

@[simp] theorem neat_block {head tail : String} {body : Lines} :
    Every Neat (block head body tail) ↔ Neat (head ++ " " ++ openBrace) ∧ Every Neat body ∧ Neat (closeBrace ++ tail) :=
  indentable_neat.every_block

@[simp] theorem neat_indent {ls : Lines} : Every Neat (indent ls) ↔ Every Neat ls := indentable_neat.every_indent

@[simp] theorem neat_orBlank {ls : Lines} : Every Neat (orBlank ls) ↔ Every Neat ls := indentable_neat.every_orBlank

@[simp] theorem neat_paragraphs {gs : List Lines} : Every Neat (paragraphs gs) ↔ ∀ g ∈ gs, Every Neat g :=
  indentable_neat.every_paragraphs

theorem neat_formLines {b : Binding} (hname : Name.isAccepted b.name.toList = true)
    (hmodel : Name.isAccepted b.model.toList = true) : Every Neat (formLines b) := by
  unfold formLines readElement switchCase function elementById
  simp only [neat_paragraphs, neat_block, neat_indent, every_append, every_cons, every_nil, List.forall_mem_cons,
    List.not_mem_nil, false_imp_iff, implies_true, and_true]
  simp only [Neat, String.toList_append, List.append_assoc]
  repeat rw [String.toList_ofList]
  simp (disch := decide) only [isNeat_flat, isNeat_name_then hname, isNeat_name hmodel, isNeat_name hname,
    isNeat_name_end hname]
  and_intros <;> trivial

section

variable {f : Field} (hname : Name.isAccepted f.name.toList = true)

include hname

theorem isNeat_shownValue (s : List Char) : isNeat ((shownValue f).toList ++ s) = isNeat s := by
  unfold shownValue
  split
  · simp only [String.toList_append, List.append_assoc]
    repeat rw [String.toList_ofList]
    simp (disch := decide) only [isNeat_flat, isNeat_name_then hname]
  · simp only [String.toList_append, List.append_assoc]
    repeat rw [String.toList_ofList]
    simp (disch := decide) only [isNeat_flat, isNeat_name_then hname]

theorem neat_cell : Neat (cell f) := by
  unfold cell
  simp only [Neat, String.toList_append, List.append_assoc]
  repeat rw [String.toList_ofList]
  simp (disch := decide) only [isNeat_flat, isNeat_shownValue hname]
  rfl

theorem neat_question : Every Neat (question f) := by
  have hanswer : isFlat (answerValue f).toList = true := by
    unfold answerValue
    split <;> decide
  unfold question
  simp only [neat_block, every_append, every_cons, every_nil, and_true]
  simp only [Neat, String.toList_append, List.append_assoc]
  repeat rw [String.toList_ofList]
  simp (disch := decide) only [isNeat_flat, isNeat_flat hanswer, isNeat_name_then hname, isNeat_name hname]
  and_intros <;> trivial

end

theorem neat_listLines {b : Binding} (hname : Name.isAccepted b.name.toList = true)
    (hmodel : Name.isAccepted b.model.toList = true) {fields : List Field}
    (hfields : ∀ f ∈ fields, Name.isAccepted f.name.toList = true) : Every Neat (listLines b fields) := by
  have hcells : Every Neat (fields.map cell) := every_map.2 fun f hf => neat_cell (hfields f hf)
  have hquestions : Every Neat (fields.flatMap question) := every_flatMap.2 fun f hf => neat_question (hfields f hf)
  unfold listLines returnUnless rowButton function elementById
  simp only [neat_paragraphs, neat_block, neat_orBlank, every_append, every_cons, every_nil, hcells, hquestions,
    List.forall_mem_cons, List.not_mem_nil, false_imp_iff, implies_true, and_true]
  simp only [Neat, String.toList_append, List.append_assoc]
  repeat rw [String.toList_ofList]
  simp (disch := decide) only [isNeat_flat, isNeat_name_then hname, isNeat_name_then hmodel, isNeat_name hmodel,
    isNeat_name hname, isNeat_name_end hname]
  and_intros <;> trivial

theorem isFlat_append {s t : List Char} : isFlat (s ++ t) = true ↔ isFlat s = true ∧ isFlat t = true := by
  simp [isFlat]

theorem isFlat_toDigits (n : Nat) : isFlat (Nat.toDigits 16 n) = true := by
  have hdigit : ∀ k, isFlat [Nat.digitChar k] = true := by
    intro k
    simp [isFlat, Nat.digitChar_ne '\n' (by decide)]
  induction n using Nat.strong_induction_on with
  | _ n ih =>
    rw [Nat.toDigits_eq_if (by decide)]
    split_ifs with h
    · exact hdigit n
    · exact isFlat_append.2 ⟨ih (n / 16) (by omega), hdigit _⟩

theorem isFlat_unitEscape (n : Nat) : isFlat (Json.unitEscape n) = true := by
  have hzeros : ∀ k, isFlat (List.replicate k '0') = true := by
    intro k
    simp [isFlat]
  exact isFlat_append.2 ⟨rfl, isFlat_append.2 ⟨hzeros _, isFlat_toDigits n⟩⟩

/-- a character of a literal is written without line ends -/
theorem isFlat_encodeChar (c : Char) : isFlat (Json.encodeChar c) = true := by
  rcases Json.encodeChar_eq c with ⟨h, -, -, hprintable⟩ | ⟨d, h, -, -, hread⟩ | h
  · rw [h]
    have hc : c ≠ '\n' := by
      rintro rfl
      exact absurd hprintable (by decide)
    simp [isFlat, hc]
  · rw [h]
    have hd : d ≠ '\n' := by
      rintro rfl
      cases hread
    simp [isFlat, hd]
  · rw [h, Json.codePointEscape]
    split_ifs
    · exact isFlat_unitEscape _
    · exact isFlat_append.2 ⟨isFlat_unitEscape _, isFlat_unitEscape _⟩

/-- a text literal stands on one line -/
theorem isFlat_scriptText (s : String) : isFlat (scriptText s).toList = true := by
  have hbody : ∀ (l : List Char) (afterAngle : Bool), isFlat (literalBody afterAngle l) = true := by
    intro l
    induction l with
    | nil => exact fun _ => rfl
    | cons c l ih =>
      intro afterAngle
      refine isFlat_append.2 ⟨?_, ih _⟩
      unfold literalUnit
      split_ifs
      · rfl
      · exact isFlat_encodeChar c
  rw [toList_scriptText, ← List.singleton_append, isFlat_append, isFlat_append]
  exact ⟨rfl, hbody _ _, rfl⟩

theorem isFlat_scriptLiteral (d : Option Literal) :
    isFlat (scriptLiteral (.ofOption (d.map Literal.toValue))).toList = true := by
  by_cases h : ∃ s, d = some (.text s)
  · obtain ⟨s, rfl⟩ := h
    exact isFlat_scriptText s
  · refine List.all_eq_true.2 fun c hc => ?_
    have hwordy := isWordy_scriptLiteral (fun s hs => h ⟨s, hs⟩) hc
    rw [decide_eq_true_eq]
    rintro rfl
    cases hwordy

theorem neat_cardLine {f : Field} (hname : Name.isAccepted f.name.toList = true) : Neat (cardLine f) := by
  unfold cardLine
  simp only [Neat, String.toList_append, List.append_assoc]
  repeat rw [String.toList_ofList]
  simp (disch := decide) only [isNeat_flat, isNeat_flat (isFlat_scriptText _), isNeat_shownValue hname]
  rfl

theorem neat_viewLines {b : Binding} (hname : Name.isAccepted b.name.toList = true)
    (hmodel : Name.isAccepted b.model.toList = true) {fields : List Field}
    (hfields : ∀ f ∈ fields, Name.isAccepted f.name.toList = true) : Every Neat (viewLines b fields) := by
  have hcards : Every Neat (fields.map cardLine) := every_map.2 fun f hf => neat_cardLine (hfields f hf)
  unfold viewLines addLine returnUnless function elementById
  simp only [neat_block, neat_orBlank, every_append, every_cons, every_nil, hcards, and_true]
  simp only [Neat, String.toList_append, List.append_assoc]
  repeat rw [String.toList_ofList]
  simp (disch := decide) only [isNeat_flat, isNeat_name_then hname, isNeat_name_then hmodel, isNeat_name_end hname]
  and_intros <;> trivial

theorem neat_fieldEntry {f : Field} (hname : Name.isAccepted f.name.toList = true) :
    Neat (fieldEntry f) ∧ Neat (fieldEntry f ++ ",") := by
  have hrequired : isFlat (scriptLiteral (.bool f.required)).toList = true := isFlat_scriptLiteral (some (.bool f.required))
  have hdefault := isFlat_scriptLiteral f.default
  unfold fieldEntry inBraces
  simp only [Neat, String.toList_append, List.append_assoc]
  repeat rw [String.toList_ofList]
  simp (disch := decide) only [isNeat_flat, isNeat_name_then hname, isNeat_flat (isFlat_scriptText _),
    isNeat_flat hrequired, isNeat_flat hdefault]
  and_intros <;> trivial

theorem neat_modelLines {m : Model} (hnames : ∀ n ∈ m.names, Name.isAccepted n.toList = true) :
    Every Neat (modelLines m) := by
  have hname : Name.isAccepted m.name.toList = true := hnames _ (List.mem_cons_self ..)
  have hentries : Every Neat (commaSeparated (m.fields.map fieldEntry)) := by
    refine every_commaSeparated (List.forall_mem_map.2 fun f hf => neat_fieldEntry ?_)
    exact hnames _ (List.mem_cons_of_mem _ (List.mem_flatMap.2 ⟨f, hf, List.mem_cons_self ..⟩))
  unfold modelLines modelConstant findIndex inBraces function
  simp only [neat_paragraphs, neat_block, neat_orBlank, every_append, every_cons, every_nil, hentries, List.forall_mem_cons,
    List.not_mem_nil, false_imp_iff, implies_true, and_true, true_and]
  simp only [Neat, String.toList_append, List.append_assoc]
  repeat rw [String.toList_ofList]
  simp (disch := decide) only [isNeat_flat, isNeat_flat (isFlat_scriptText _), isNeat_name_then hname, isNeat_name_end hname]
  and_intros <;> trivial

theorem neat_refreshCall {c : Component} (hname : Name.isAccepted c.binding.name.toList = true) :
    Neat (refreshCall c ++ ";") := by
  unfold refreshCall
  split
  · simp only [Neat, String.toList_append, List.append_assoc]
    repeat rw [String.toList_ofList]
    simp (disch := decide) only [isNeat_flat, isNeat_name_then hname]
    rfl
  · simp only [Neat, String.toList_append, List.append_assoc]
    repeat rw [String.toList_ofList]
    simp (disch := decide) only [isNeat_flat, isNeat_name_then hname]
    rfl

theorem neat_placeComponent {name : String} (hname : Name.isAccepted name.toList = true) (c : Option Component)
    (fragment : String) : Every Neat (placeComponent name c fragment) := by
  have hplace : Neat (elementById (name ++ "-container") ++ ".innerHTML = " ++ scriptText fragment ++ ";") := by
    unfold elementById
    simp only [Neat, String.toList_append, List.append_assoc]
    repeat rw [String.toList_ofList]
    simp (disch := decide) only [isNeat_flat, isNeat_name_then hname, isNeat_flat (isFlat_scriptText _)]
    rfl
  refine every_append.2 ⟨every_cons.2 ⟨hplace, every_nil⟩, ?_⟩
  have hrefresh : Neat ("setTimeout(() => refreshList_" ++ name ++ "(), 0);") ∧
      Neat ("setTimeout(() => refreshView_" ++ name ++ "(), 0);") := by
    simp only [Neat, String.toList_append, List.append_assoc]
    repeat rw [String.toList_ofList]
    simp (disch := decide) only [isNeat_flat, isNeat_name hname]
    and_intros <;> rfl
  split
  · exact every_cons.2 ⟨hrefresh.1, every_nil⟩
  · exact every_cons.2 ⟨hrefresh.2, every_nil⟩
  · exact every_nil

theorem neat_pageLines {p : Page} (hname : Name.isAccepted p.name.toList = true) (o : Options) {steps : Lines}
    (hsteps : Every Neat steps) : Every Neat (pageLines o p steps) := by
  unfold pageLines function
  simp only [neat_block, every_append, every_cons, every_nil, hsteps, and_true]
  simp only [Neat, String.toList_append, List.append_assoc]
  repeat rw [String.toList_ofList]
  simp (disch := decide) only [isNeat_flat, isNeat_name_then hname, isNeat_flat (isFlat_scriptText _), isNeat_name_end hname]
  and_intros <;> trivial

end Pagewright.Script
