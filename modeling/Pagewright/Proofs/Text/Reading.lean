/-
Reading a text character by character with finitely many states, where a reader may refuse a character. A text loops at a
state when the reader takes it from that state back to it; such texts can be put together in any way.

A property is `Stackable` when lines that have it make a text that has it, whatever the indents. The layout of a script
(`block`, `paragraphs`, `orBlank`) is then transparent for it, and what is left to show is about single lines.
-/
import Mathlib.Tactic
import Pagewright.Artifact.Script.Model

namespace Pagewright.Text

variable {σ : Type} (step : σ → Char → Option σ)

/-- the state after a text, unless a character of it is refused -/
def reading (q : σ) (s : List Char) : Option σ := s.foldlM step q

@[simp] theorem reading_nil (q : σ) : reading step q [] = some q := rfl

@[simp] theorem reading_cons (q : σ) (c : Char) (s : List Char) :
    reading step q (c :: s) = (step q c).bind fun q' => reading step q' s := by
  simp [reading, List.foldlM_cons, bind]

theorem reading_append (q : σ) (s t : List Char) :
    reading step q (s ++ t) = (reading step q s).bind fun q' => reading step q' t := by
  simp [reading, List.foldlM_append, bind]

/-- a text of characters that leave a state as it is -/
theorem reading_of_forall {q : σ} {s : List Char} (h : ∀ c ∈ s, step q c = some q) : reading step q s = some q := by
  induction s with
  | nil => rfl
  | cons c s ih =>
    rw [reading_cons, h c (List.mem_cons_self ..)]
    exact ih fun d hd => h d (List.mem_cons_of_mem _ hd)

/-- every part of what is read is read, from the state that the text before it leads to -/
theorem reading_infix {q q' : σ} {u s v : List Char} (h : reading step q (u ++ s ++ v) = some q') :
    ∃ p p', reading step q u = some p ∧ reading step p s = some p' := by
  rw [reading_append, reading_append] at h
  cases hu : reading step q u with
  | none => simp [hu] at h
  | some p =>
    cases hs : reading step p s with
    | none => simp [hu, hs] at h
    | some p' => exact ⟨p, p', rfl, hs⟩

/-- what one reader takes, another takes whose states follow those of the first -/
theorem reading_of_follows {τ : Type} {step' : τ → Char → Option τ} {f : σ → τ}
    (hf : ∀ q c q', step q c = some q' → step' (f q) c = some (f q')) {q q' : σ} {s : List Char}
    (h : reading step q s = some q') : reading step' (f q) s = some (f q') := by
  induction s generalizing q with
  | nil =>
    cases h
    rfl
  | cons c s ih =>
    rw [reading_cons] at h
    cases hq : step q c with
    | none => simp [hq] at h
    | some p =>
      rw [hq] at h
      rw [reading_cons, hf q c p hq]
      exact ih h

/-! ## Texts that loop -/

/-- the reader comes back to the state it was in -/
def Loops (q : σ) (s : String) : Prop := reading step q s.toList = some q

variable {step} {q : σ}

theorem Loops.append {s t : String} (hs : Loops step q s) (ht : Loops step q t) : Loops step q (s ++ t) := by
  unfold Loops at *
  rw [String.toList_append, reading_append, hs]
  exact ht

/-! ## Texts that can be stacked -/

/-- a property of texts that lines may have one by one: a text of such lines has it, however far they are indented -/
structure Stackable (P : String → Prop) : Prop where
  empty : P ""
  stack {s t : String} (hs : P s) (ht : P t) : P (s ++ "\n" ++ t)
  columns {s : String} : P ("  " ++ s) ↔ P s

/-- texts that loop can be stacked, if blanks and line ends leave the state as it is -/
theorem stackable_loops (hspace : step q ' ' = some q) (hnewline : step q '\n' = some q) : Stackable (Loops step q) where
  empty := rfl
  stack := by
    intro s t hs ht
    have hline : Loops step q "\n" := by
      unfold Loops
      rw [show "\n".toList = ['\n'] from by decide, reading_cons, hnewline]
      rfl
    exact (hs.append hline).append ht
  columns := by
    intro s
    unfold Loops
    rw [String.toList_append, reading_append, show "  ".toList = [' ', ' '] from by decide]
    simp [hspace]

def Every (P : String → Prop) (ls : Lines) : Prop := ∀ l ∈ ls, P l

variable {P : String → Prop} {ls ms : Lines}

@[simp] theorem every_nil : Every P [] := List.forall_mem_nil _

@[simp] theorem every_cons {l : String} : Every P (l :: ls) ↔ P l ∧ Every P ls := List.forall_mem_cons

@[simp] theorem every_append : Every P (ls ++ ms) ↔ Every P ls ∧ Every P ms := List.forall_mem_append

theorem every_map {α : Type} {f : α → String} {l : List α} : Every P (l.map f) ↔ ∀ a ∈ l, P (f a) := List.forall_mem_map

theorem every_flatten {gs : List Lines} : Every P gs.flatten ↔ ∀ g ∈ gs, Every P g := List.forall_mem_flatten

theorem every_flatMap {α : Type} {f : α → Lines} {l : List α} : Every P (l.flatMap f) ↔ ∀ a ∈ l, Every P (f a) := by
  rw [List.flatMap_def, every_flatten]
  exact List.forall_mem_map

/-- lines that have a property with and without a comma after them -/
theorem every_commaSeparated (h : ∀ l ∈ ls, P l ∧ P (l ++ ",")) : Every P (commaSeparated ls) := by
  induction ls with
  | nil => exact every_nil
  | cons l ls ih =>
    obtain ⟨hl, hls⟩ := List.forall_mem_cons.1 h
    cases ls with
    | nil => exact every_cons.2 ⟨hl.1, every_nil⟩
    | cons m ms => exact every_cons.2 ⟨hl.2, ih hls⟩

/-- a property of lines that indents do not change, and that a blank line has -/
structure Indentable (P : String → Prop) : Prop where
  empty : P ""
  columns {s : String} : P ("  " ++ s) ↔ P s

namespace Indentable

variable (hP : Indentable P)

include hP

theorem every_indent : Every P (indent ls) ↔ Every P ls := by
  have hline : ∀ l, P (indentLine l) ↔ P l := by
    intro l
    unfold indentLine
    split
    · rfl
    · exact hP.columns
  unfold indent
  rw [every_map]
  exact forall₂_congr fun l _ => hline l

theorem every_block {head tail : String} {body : Lines} :
    Every P (block head body tail) ↔ P (head ++ " " ++ openBrace) ∧ Every P body ∧ P (closeBrace ++ tail) := by
  simp [block, hP.every_indent]

theorem every_orBlank : Every P (orBlank ls) ↔ Every P ls := by
  unfold orBlank
  cases ls with
  | nil => simp [hP.empty]
  | cons l ls => simp

/-- groups with blank lines between them -/
theorem every_paragraphs {gs : List Lines} : Every P (Script.paragraphs gs) ↔ ∀ g ∈ gs, Every P g := by
  unfold Script.paragraphs
  induction gs with
  | nil => simp
  | cons g gs ih =>
    cases gs with
    | nil => simp
    | cons g' gs =>
      rw [List.intercalate_cons_cons, every_append, every_append, ih, List.forall_mem_cons]
      simp [hP.empty]

end Indentable

namespace Stackable

variable (hP : Stackable P)

include hP

theorem indentable : Indentable P := ⟨hP.empty, hP.columns⟩

theorem every_indent : Every P (indent ls) ↔ Every P ls := hP.indentable.every_indent

theorem every_block {head tail : String} {body : Lines} :
    Every P (block head body tail) ↔ P (head ++ " " ++ openBrace) ∧ Every P body ∧ P (closeBrace ++ tail) :=
  hP.indentable.every_block

theorem every_orBlank : Every P (orBlank ls) ↔ Every P ls := hP.indentable.every_orBlank

theorem every_paragraphs {gs : List Lines} : Every P (Script.paragraphs gs) ↔ ∀ g ∈ gs, Every P g :=
  hP.indentable.every_paragraphs

/-- lines that have a property make a text that has it -/
theorem unlines (h : Every P ls) : P (unlines ls) := by
  unfold Text.unlines
  induction ls with
  | nil => exact hP.empty
  | cons l ls ih =>
    obtain ⟨hl, hls⟩ := every_cons.1 h
    cases ls with
    | nil => simpa using hl
    | cons m ms =>
      rw [String.intercalate_cons_cons]
      exact hP.stack hl (ih hls)

/-- sections that have a property make a text that has it -/
theorem sections {ss : List String} (h : Every P ss) : P ("\n\n".intercalate ss ++ "\n") := by
  have hjoined : P ("\n\n".intercalate ss) := by
    induction ss with
    | nil => exact hP.empty
    | cons s ss ih =>
      obtain ⟨hs, hss⟩ := every_cons.1 h
      cases ss with
      | nil => simpa using hs
      | cons t ts =>
        have hblank := hP.stack (hP.stack hs hP.empty) (ih hss)
        rw [String.intercalate_cons_cons]
        simpa [String.append_assoc] using hblank
  simpa using hP.stack hjoined hP.empty

end Stackable

end Pagewright.Text
