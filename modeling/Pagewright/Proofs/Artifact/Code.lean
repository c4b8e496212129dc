/-
Code and text in a script. The double-quoted literals of a script are found by reading it from left to right; `code` is the
script with the contents of its literals erased.

A text is sound when a reader that starts outside literals ends outside them, and meets neither an angle bracket outside a
literal nor a closing tag inside one (`Spot.next`). Names are sound, and so are literals, whatever text they hold. Sound
texts can be put together in any way, and a sound text cannot close the element it stands in (`Sound.not_closing`).
-/
import Pagewright.Artifact.Script
import Pagewright.Proofs.App.Names
import Pagewright.Proofs.Artifact.Literal
import Pagewright.Proofs.Text.Reading

namespace Pagewright.Script

open Text

/-! ## Code outside literals -/

/-- where a character of a script stands: outside literals, inside one, or after a backslash inside one -/
inductive Mode where
  | code | literal | escape
  deriving DecidableEq, Repr

namespace Mode

/-- where the next character stands -/
def next : Mode → Char → Mode
  | .code, c => if c = '"' then .literal else .code
  | .literal, c => if c = '"' then .code else if c = '\\' then .escape else .literal
  | .escape, _ => .literal

/-- where the character after a text stands -/
def after (m : Mode) (s : List Char) : Mode := s.foldl next m

/-- is a character left when the contents of literals are erased -/
def keeps : Mode → Char → Bool
  | .code, _ => true
  | .literal, c => c = '"'
  | .escape, _ => false

end Mode

/-- a text with the contents of literals erased, where the first character stands as told -/
def codeFrom (m : Mode) : List Char → List Char
  | [] => []
  | c :: r => if m.keeps c then c :: codeFrom (m.next c) r else codeFrom (m.next c) r

/-- a script with the contents of its literals erased; their quotes stay -/
def code (s : String) : List Char := codeFrom .code s.toList

/-- a script that does not end inside a literal -/
def EndsInCode (s : String) : Prop := Mode.code.after s.toList = .code

theorem codeFrom_append (m : Mode) (s t : List Char) : codeFrom m (s ++ t) = codeFrom m s ++ codeFrom (m.after s) t := by
  induction s generalizing m with
  | nil => rfl
  | cons c s ih =>
    simp only [List.cons_append, codeFrom, ih]
    split
    · rfl
    · rfl

theorem code_append {s t : String} (hs : EndsInCode s) : code (s ++ t) = code s ++ code t := by
  unfold code
  rw [String.toList_append, codeFrom_append, hs]

/-- text without quotes is code -/
theorem code_eq_self {s : String} (h : '"' ∉ s.toList) : code s = s.toList := by
  unfold code
  generalize s.toList = l at h
  induction l with
  | nil => rfl
  | cons c l ih =>
    obtain ⟨hc, hl⟩ := not_or.1 (mt List.mem_cons.2 h)
    have hnext : Mode.code.next c = .code := if_neg (Ne.symm hc)
    rw [codeFrom, hnext, ih hl]
    rfl

/-- what can stand between the quotes of a literal: nothing of it is code, and the quote after it ends the literal -/
def IsContent (x : List Char) : Prop := codeFrom .literal x = [] ∧ Mode.literal.after x = .literal

/-! ## Sound text -/

/-- where a character of a sound script stands; inside a literal it matters whether it follows an angle bracket -/
inductive Spot where
  | code
  | literal (afterAngle : Bool)
  | escape
  deriving DecidableEq, Repr

namespace Spot

/-- where the next character stands; an angle bracket outside a literal and a closing tag inside one are refused -/
def next : Spot → Char → Option Spot
  | .code, c => if c = '"' then some (.literal false) else if c = '<' then none else some .code
  | .literal afterAngle, c =>
    if c = '"' then some .code
    else if c = '\\' then some .escape
    else if afterAngle && c = '/' then none
    else some (.literal (c = '<'))
  | .escape, c => some (.literal (c = '<'))

/-- whether a character stands in a literal -/
def mode : Spot → Mode
  | .code => .code
  | .literal _ => .literal
  | .escape => .escape

def afterName : Spot → Spot
  | .code => .code
  | .literal _ => .literal false
  | .escape => .literal false

theorem mode_next {q q' : Spot} {c : Char} (h : q.next c = some q') : q.mode.next c = q'.mode := by
  cases q with
  | code =>
    simp only [next] at h
    split_ifs at h with hquote hangle
    all_goals
      cases h
      simp [mode, Mode.next, hquote]
  | literal b =>
    simp only [next] at h
    split_ifs at h with hquote hescape hslash
    all_goals
      cases h
      simp [mode, Mode.next, *]
  | escape =>
    cases h
    rfl

theorem mode_reading {q q' : Spot} {s : List Char} (h : reading next q s = some q') : q.mode.after s = q'.mode := by
  induction s generalizing q with
  | nil =>
    cases h
    rfl
  | cons c s ih =>
    rw [reading_cons] at h
    cases hq : q.next c with
    | none => simp [hq] at h
    | some p =>
      rw [hq] at h
      show (q.mode.next c).after s = _
      rw [mode_next hq]
      exact ih h

/-- nowhere can an angle bracket and a slash be read one after the other -/
theorem reading_closing (q : Spot) : reading next q ['<', '/'] = none := by
  cases q with
  | code => decide
  | literal b => cases b <;> decide
  | escape => decide

end Spot

/-- a text that can stand in a script, outside literals: it ends outside literals and has no closing tag -/
def Sound (s : String) : Prop := Loops Spot.next .code s

/-- sound lines make a sound text -/
theorem stackable_sound : Stackable Sound := stackable_loops rfl rfl

theorem Sound.append {s t : String} (hs : Sound s) (ht : Sound t) : Sound (s ++ t) := Loops.append hs ht

theorem Sound.endsInCode {s : String} (h : Sound s) : EndsInCode s := Spot.mode_reading h

/-- a sound text closes no element -/
theorem Sound.not_closing {s : String} (h : Sound s) : ¬ ['<', '/'] <:+: s.toList := by
  rintro ⟨u, v, huv⟩
  unfold Sound Loops at h
  rw [← huv] at h
  obtain ⟨p, p', -, hp⟩ := reading_infix Spot.next h
  rw [Spot.reading_closing] at hp
  cases hp

theorem sound_of_forall {s : String} (h : ∀ c ∈ s.toList, c ≠ '"' ∧ c ≠ '<') : Sound s := by
  refine reading_of_forall Spot.next fun c hc => ?_
  obtain ⟨hquote, hangle⟩ := h c hc
  simp [Spot.next, hquote, hangle]

/-! ## Names and literals -/

theorem next_of_isChar {c : Char} (h : Name.isChar c = true) (q : Spot) : q.next c = some q.afterName := by
  have hne : ∀ d ∈ "\"'\\<>/(){}[],.;:=&".toList, c ≠ d := by
    rintro d hd rfl
    rw [Name.not_isChar_of_mem hd] at h
    cases h
  have hquote := hne '"' (by decide)
  have hescape := hne '\\' (by decide)
  have hangle := hne '<' (by decide)
  have hslash := hne '/' (by decide)
  cases q <;> simp [Spot.next, Spot.afterName, hquote, hescape, hangle, hslash]

/-- a name leaves the reader outside literals, or inside the one it was in -/
theorem reading_name {n : String} (h : Name.isAccepted n.toList = true) (q : Spot) :
    reading Spot.next q n.toList = some q.afterName := by
  have hchars : ∀ c ∈ n.toList, Name.isChar c = true := fun c hc => Name.isChar_of_isAccepted h hc
  have hne := Name.ne_nil_of_isAccepted h
  cases hn : n.toList with
  | nil => exact absurd hn hne
  | cons c r =>
    rw [hn] at hchars
    rw [reading_cons, next_of_isChar (hchars c (List.mem_cons_self ..))]
    refine reading_of_forall Spot.next fun d hd => ?_
    rw [next_of_isChar (hchars d (List.mem_cons_of_mem _ hd))]
    cases q <;> rfl

theorem sound_name {n : String} (h : Name.isAccepted n.toList = true) : Sound n := reading_name h .code

/-- escapes leave the reader in a literal, and nothing of them is code -/
theorem reading_escapes {u : List Char} (h : Json.Escapes u) :
    reading Spot.next (.literal false) u = some (.literal false) ∧ codeFrom .literal u = [] := by
  induction h with
  | nil => exact ⟨rfl, rfl⟩
  | pair hd _ ih =>
    obtain ⟨ihread, ihcode⟩ := ih
    constructor
    · simpa [Spot.next, hd] using ihread
    · simpa [codeFrom, Mode.keeps, Mode.next] using ihcode
  | digit k _ ih =>
    obtain ⟨ihread, ihcode⟩ := ih
    have hquote : k.digitChar ≠ '"' := Nat.digitChar_ne _ (by decide)
    have hescape : k.digitChar ≠ '\\' := Nat.digitChar_ne _ (by decide)
    have hangle : k.digitChar ≠ '<' := Nat.digitChar_ne _ (by decide)
    constructor
    · simpa [Spot.next, hquote, hescape, hangle] using ihread
    · simpa [codeFrom, Mode.keeps, Mode.next, hquote, hescape] using ihcode

/-- a unit of a text literal leaves the reader in the literal, and nothing of it is code -/
theorem reading_literalUnit (afterAngle : Bool) (c : Char) :
    reading Spot.next (.literal afterAngle) (literalUnit afterAngle c) = some (.literal (c = '<')) ∧
      codeFrom .literal (literalUnit afterAngle c) = [] := by
  unfold literalUnit
  split_ifs with hslash
  · simp only [Bool.and_eq_true, decide_eq_true_eq] at hslash
    obtain ⟨-, rfl⟩ := hslash
    exact ⟨rfl, rfl⟩
  · rcases Json.encodeChar_cases c with ⟨henc, hquote, hescape⟩ | ⟨hescapes, r, hr⟩
    · rw [henc]
      simp_all [Spot.next, codeFrom, Mode.keeps]
    · have hangle : c ≠ '<' := by
        rintro rfl
        cases hr
      -- the backslash in front makes the state before it irrelevant
      have hread := (reading_escapes hescapes).1
      rw [hr] at hread
      rw [hr]
      refine ⟨?_, hr ▸ (reading_escapes hescapes).2⟩
      rw [decide_eq_false hangle]
      exact hread

/-- the contents of a text literal are not code, and do not end it -/
theorem reading_literalBody (s : List Char) (afterAngle : Bool) :
    (∃ b, reading Spot.next (.literal afterAngle) (literalBody afterAngle s) = some (.literal b)) ∧
      codeFrom .literal (literalBody afterAngle s) = [] := by
  induction s generalizing afterAngle with
  | nil => exact ⟨⟨afterAngle, rfl⟩, rfl⟩
  | cons c s ih =>
    obtain ⟨⟨b, ihread⟩, ihcode⟩ := ih (c = '<')
    obtain ⟨hread, hcode⟩ := reading_literalUnit afterAngle c
    have hmode : Mode.literal.after (literalUnit afterAngle c) = .literal := Spot.mode_reading hread
    constructor
    · refine ⟨b, ?_⟩
      rw [literalBody, reading_append, hread]
      exact ihread
    · rw [literalBody, codeFrom_append, hcode, hmode, ihcode]
      rfl

theorem isContent_literalBody (s : List Char) : IsContent (literalBody false s) := by
  obtain ⟨⟨b, hread⟩, hcode⟩ := reading_literalBody s false
  exact ⟨hcode, Spot.mode_reading hread⟩

/-- a text literal can stand in a script -/
theorem sound_scriptText (s : String) : Sound (scriptText s) := by
  obtain ⟨⟨b, hread⟩, -⟩ := reading_literalBody s.toList false
  unfold Sound Loops
  rw [toList_scriptText, reading_cons]
  show reading Spot.next (.literal false) _ = _
  rw [reading_append, hread]
  rfl

/-- of a text literal only its quotes are code -/
theorem code_scriptText (s : String) : code (scriptText s) = ['"', '"'] := by
  obtain ⟨hcode, hmode⟩ := isContent_literalBody s.toList
  unfold code
  rw [toList_scriptText]
  show '"' :: codeFrom .literal _ = _
  rw [codeFrom_append, hcode, hmode]
  rfl

end Pagewright.Script
