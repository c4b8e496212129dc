/-
The text of script literals. A text becomes a quote, one unit for each of its characters, and a quote
(`toList_scriptText`); a unit is the character itself or starts with a backslash, and the slash of a closing tag is such a
unit too. So is a half, in a text that holds any (`guardClosing_encodeText`). The literal is read back as the text
(`readText_scriptText`), so no two texts share a literal. A number or a word is written without any mark of the script
(`isWordy_scriptLiteral`).
-/
import Mathlib.Tactic
import Pagewright.App
import Pagewright.Artifact.ScriptLiteral
import Pagewright.Proofs.Json.Text

namespace Pagewright

/-! ## Digits and words -/

/-- letters, digits and the marks inside a number -/
def isWordy (c : Char) : Bool := c.isAlphanum || c = '-' || c = '+' || c = '.'

theorem isWordy_of_all {l : List Char} (h : l.all isWordy = true) : ∀ c ∈ l, isWordy c = true := List.all_eq_true.1 h

theorem isWordy_of_isDigit {c : Char} (h : c.isDigit = true) : isWordy c = true := by
  simp [isWordy, Char.isAlphanum, h]

theorem isWordy_of_mem_decimal {n : Nat} {c : Char} (h : c ∈ Nat.toDigits 10 n) : isWordy c = true :=
  isWordy_of_isDigit (Nat.isDigit_of_mem_toDigits (by decide) (by decide) h)

namespace Number

theorem isWordy_dropTrailingZeros {ds : List Char} (h : ∀ c ∈ ds, isWordy c = true) {c : Char}
    (hc : c ∈ dropTrailingZeros ds) : isWordy c = true := by
  refine h c ?_
  unfold dropTrailingZeros at hc
  exact List.mem_reverse.1 ((List.dropWhile_sublist _).mem (List.mem_reverse.1 hc))

theorem isWordy_positional {ds : List Char} (h : ∀ c ∈ ds, isWordy c = true) {point : Int} {c : Char}
    (hc : c ∈ positional ds point) : isWordy c = true := by
  unfold positional at hc
  split_ifs at hc with hneg hlong
  · simp only [List.mem_append, List.mem_cons, List.not_mem_nil, or_false, List.mem_replicate] at hc
    rcases hc with ((rfl | rfl) | ⟨-, rfl⟩) | hc
    · decide
    · decide
    · decide
    · exact h c hc
  · simp only [List.mem_append, List.mem_cons, List.not_mem_nil, or_false, List.mem_replicate] at hc
    rcases hc with (hc | ⟨-, rfl⟩) | rfl | rfl
    · exact h c hc
    · decide
    · decide
    · decide
  · simp only [List.mem_append, List.mem_cons, List.not_mem_nil, or_false] at hc
    rcases hc with (hc | rfl) | hc
    · exact h c (List.mem_of_mem_take hc)
    · decide
    · exact h c (List.mem_of_mem_drop hc)

theorem isWordy_scientific {ds : List Char} (h : ∀ c ∈ ds, isWordy c = true) {exponent : Int} {c : Char}
    (hc : c ∈ scientific ds exponent) : isWordy c = true := by
  simp only [scientific, List.mem_append, List.mem_cons, List.not_mem_nil, or_false, List.mem_replicate] at hc
  rcases hc with (((hc | hc) | rfl | rfl) | ⟨-, rfl⟩) | hc
  · exact h c (List.mem_of_mem_take hc)
  · split_ifs at hc with hshort
    · cases hc
    · rcases List.mem_append.1 hc with hc | hc
      · rw [List.mem_singleton.1 hc]
        decide
      · exact h c (List.mem_of_mem_drop hc)
  · decide
  · split_ifs <;> decide
  · decide
  · exact isWordy_of_mem_decimal hc

theorem isWordy_magnitudeText {m : Nat} {e : Int} {c : Char} (hc : c ∈ (magnitudeText m e).toList) : isWordy c = true := by
  unfold magnitudeText at hc
  split_ifs at hc with hzero
  · exact isWordy_of_all (by decide) c hc
  · have hdigits : ∀ d ∈ dropTrailingZeros (Nat.toDigits 10 (shortest m e).1), isWordy d = true :=
      fun d hd => isWordy_dropTrailingZeros (fun _ h => isWordy_of_mem_decimal h) hd
    rw [String.toList_ofList] at hc
    split_ifs at hc
    · exact isWordy_positional hdigits hc
    · exact isWordy_scientific hdigits hc

/-- a number is written with characters of words, if the words for what is not finite are -/
theorem isWordy_text {w : Words} (hnan : ∀ c ∈ w.nan.toList, isWordy c = true)
    (hinfinity : ∀ c ∈ w.infinity.toList, isWordy c = true) {x : Binary64} {c : Char} (hc : c ∈ (x.text w).toList) :
    isWordy c = true := by
  have hsign : ∀ s : Bool, ∀ d ∈ (if s then "-" else "").toList, isWordy d = true := by
    intro s
    cases s with
    | false => exact isWordy_of_all (by decide)
    | true => exact isWordy_of_all (by decide)
  cases x with
  | nan => exact hnan c hc
  | infinite s =>
    simp only [Binary64.text, String.toList_append, List.mem_append] at hc
    rcases hc with hc | hc
    · exact hsign s c hc
    · exact hinfinity c hc
  | finite s m e =>
    simp only [Binary64.text, String.toList_append, List.mem_append] at hc
    rcases hc with hc | hc
    · exact hsign s c hc
    · exact isWordy_magnitudeText hc

end Number

theorem Json.isWordy_intText {n : Int} {c : Char} (hc : c ∈ (Json.intText n).toList) : isWordy c = true := by
  have hnat : ∀ d ∈ (toString n.natAbs).toList, isWordy d = true := by
    intro d hd
    rw [Nat.toString_eq_ofList_toDigits, String.toList_ofList] at hd
    exact isWordy_of_mem_decimal hd
  unfold Json.intText at hc
  split_ifs at hc with hneg
  · rw [String.toList_append, List.mem_append] at hc
    rcases hc with hc | hc
    · exact isWordy_of_all (by decide) c hc
    · exact hnat c hc
  · exact hnat c hc

/-! ## Units of a text -/

namespace Json

/-- text made of escapes: a backslash and a character after it, and hexadecimal digits -/
inductive Escapes : List Char → Prop
  | nil : Escapes []
  | pair {d : Char} (hd : d ≠ '<') {r : List Char} (h : Escapes r) : Escapes ('\\' :: d :: r)
  | digit (k : Nat) {r : List Char} (h : Escapes r) : Escapes (k.digitChar :: r)

theorem Escapes.append {u v : List Char} (hu : Escapes u) (hv : Escapes v) : Escapes (u ++ v) := by
  induction hu with
  | nil => exact hv
  | pair hd _ ih => exact .pair hd ih
  | digit k _ ih => exact .digit k ih

theorem escapes_toDigits (n : Nat) : Escapes (Nat.toDigits 16 n) := by
  induction n using Nat.strong_induction_on with
  | _ n ih =>
    rw [Nat.toDigits_eq_if (by decide)]
    split_ifs with h
    · exact .digit n .nil
    · exact (ih (n / 16) (by omega)).append (.digit _ .nil)

theorem escapes_unitEscape (n : Nat) : Escapes (unitEscape n) := by
  have hzeros : ∀ k, Escapes (List.replicate k '0') := by
    intro k
    induction k with
    | zero => exact .nil
    | succ k ih => exact .digit 0 ih
  exact .pair (by decide) ((hzeros _).append (escapes_toDigits n))

theorem escapes_codePointEscape (n : Nat) : Escapes (codePointEscape n) := by
  unfold codePointEscape
  split_ifs
  · exact escapes_unitEscape _
  · exact (escapes_unitEscape _).append (escapes_unitEscape _)

theorem Escapes.not_angle {u : List Char} (h : Escapes u) : '<' ∉ u := by
  induction h with
  | nil => exact List.not_mem_nil
  | pair hd _ ih => simp [hd.symm, ih]
  | digit k _ ih => simp [(Nat.digitChar_ne '<' (by decide)).symm, ih]

/-- a character is written as it is, or as escapes that start with a backslash -/
theorem encodeChar_cases (c : Char) :
    (encodeChar c = [c] ∧ c ≠ '"' ∧ c ≠ '\\') ∨ (Escapes (encodeChar c) ∧ ∃ r, encodeChar c = '\\' :: r) := by
  rcases encodeChar_eq c with ⟨h, hquote, hescape, -⟩ | ⟨d, h, -, hangle, -⟩ | h
  · exact Or.inl ⟨h, hquote, hescape⟩
  · rw [h]
    exact Or.inr ⟨.pair hangle .nil, _, rfl⟩
  · rw [h]
    refine Or.inr ⟨escapes_codePointEscape _, ?_⟩
    unfold codePointEscape
    split
    · exact ⟨_, rfl⟩
    · exact ⟨_, rfl⟩

end Json

open Json
open Text (Half Point Wide joinPairs)

/-- a character of a text literal; the slash of a closing tag gets a backslash -/
def literalUnit (afterAngle : Bool) (c : Char) : List Char := if afterAngle && c = '/' then ['\\', '/'] else encodeChar c

/-- the characters of a text literal, one after the other -/
def literalBody (afterAngle : Bool) : List Char → List Char
  | [] => []
  | c :: r => literalUnit afterAngle c ++ literalBody (c = '<') r

def literalPoint (afterAngle : Bool) : Point → List Char
  | .char c => literalUnit afterAngle c
  | .half h => unitEscape h.code

/-- the points of a text literal, one after the other -/
def literalPoints (afterAngle : Bool) : List Point → List Char
  | [] => []
  | p :: ps => literalPoint afterAngle p ++ literalPoints (p = .char '<') ps

theorem literalPoints_map_char (afterAngle : Bool) (s : List Char) :
    literalPoints afterAngle (s.map .char) = literalBody afterAngle s := by
  induction s generalizing afterAngle with
  | nil => rfl
  | cons c s ih => simp [literalPoints, literalBody, literalPoint, ih]

theorem guardClosing_cons_of_ne {c : Char} (hc : c ≠ '<') (t : List Char) : guardClosing (c :: t) = c :: guardClosing t := by
  rw [guardClosing]
  rintro r rfl
  exact absurd rfl hc

theorem guardClosing_append {u : List Char} (hu : '<' ∉ u) (t : List Char) : guardClosing (u ++ t) = u ++ guardClosing t := by
  induction u with
  | nil => rfl
  | cons c u ih =>
    obtain ⟨hc, hu⟩ := not_or.1 (mt List.mem_cons.2 hu)
    rw [List.cons_append, guardClosing_cons_of_ne (Ne.symm hc), ih hu, List.cons_append]

theorem guardClosing_eq_self {u : List Char} (hu : '<' ∉ u) : guardClosing u = u := by
  simpa [guardClosing] using guardClosing_append hu []

/-- an angle bracket before something that does not start with a slash -/
theorem guardClosing_angle {c : Char} (hc : c ≠ '/') (t : List Char) :
    guardClosing ('<' :: c :: t) = '<' :: guardClosing (c :: t) := by
  rw [guardClosing]
  intro r _ h
  exact absurd (List.cons.inj h).1 hc

/-- a point is written as a plain character, or as escapes that start with a backslash -/
theorem encodePoint_cases (p : Point) :
    (∃ c, p = .char c ∧ encodePoint p = [c]) ∨ (Escapes (encodePoint p) ∧ ∃ r, encodePoint p = '\\' :: r) := by
  cases p with
  | char c => exact (encodeChar_cases c).imp_left fun h => ⟨c, rfl, h.1⟩
  | half h => exact Or.inr ⟨escapes_unitEscape h.code, _, rfl⟩

/-- guarding the rest of a text literal, after any character and after an angle bracket -/
theorem guardClosing_body (ps : List Point) :
    guardClosing (ps.flatMap encodePoint ++ ['"']) = literalPoints false ps ++ ['"'] ∧
      guardClosing ('<' :: (ps.flatMap encodePoint ++ ['"'])) = '<' :: (literalPoints true ps ++ ['"']) := by
  induction ps with
  | nil => exact ⟨by decide, by decide⟩
  | cons p ps ih =>
    obtain ⟨ihplain, ihangle⟩ := ih
    have hrest : guardClosing (encodePoint p ++ (ps.flatMap encodePoint ++ ['"'])) =
        encodePoint p ++ (literalPoints (p = .char '<') ps ++ ['"']) := by
      by_cases hp : p = .char '<'
      · subst hp
        have hencode : encodePoint (.char '<') = ['<'] := by decide
        simpa [hencode] using ihangle
      · have hnot : '<' ∉ encodePoint p := by
          rcases encodePoint_cases p with ⟨c, rfl, h⟩ | ⟨h, -⟩
          · simpa [h, eq_comm] using hp
          · exact h.not_angle
        simpa [hp] using (guardClosing_append hnot _).trans (congrArg _ ihplain)
    have hunit : ∀ afterAngle, ¬(afterAngle = true ∧ p = .char '/') → literalPoint afterAngle p = encodePoint p := by
      intro afterAngle h
      cases p with
      | char c => exact if_neg (by simpa using h)
      | half _ => rfl
    constructor
    · simpa [literalPoints, hunit false] using hrest
    · by_cases hslash : p = .char '/'
      · subst hslash
        have hencode : encodePoint (.char '/') = ['/'] := by decide
        simpa [hencode, literalPoints, literalPoint, literalUnit, guardClosing] using ihplain
      · have hhead : ∃ d r, encodePoint p = d :: r ∧ d ≠ '/' := by
          rcases encodePoint_cases p with ⟨c, rfl, h⟩ | ⟨-, r, h⟩
          · exact ⟨c, [], h, by simpa using hslash⟩
          · exact ⟨'\\', r, h, by decide⟩
        obtain ⟨d, r, hd, hne⟩ := hhead
        have hguard := guardClosing_angle hne (r ++ (ps.flatMap encodePoint ++ ['"']))
        rw [← List.cons_append, ← hd, hrest] at hguard
        simpa [literalPoints, hunit true (by simp [hslash])] using hguard

/-- a text, guarded: its units between quotes -/
theorem guardClosing_encodeText (w : Wide) :
    guardClosing (encodeText w).toList = '"' :: (literalPoints false w.points ++ ['"']) := by
  rw [toList_encodeText, guardClosing_cons_of_ne (by decide), (guardClosing_body w.points).1]

/-- a text as a script literal: its units between quotes -/
theorem toList_scriptText (s : String) : (scriptText s).toList = '"' :: (literalBody false s.toList ++ ['"']) := by
  show (String.ofList (guardClosing (encodeText s).toList)).toList = _
  rw [String.toList_ofList, guardClosing_encodeText, Wide.points_ofString, literalPoints_map_char]

/-! ## Reading a text back -/

theorem spells_literalUnit (afterAngle : Bool) (c : Char) (v : List Char) :
    Spells (literalUnit afterAngle c) (.char c) v := by
  unfold literalUnit
  split_ifs with h
  · simp only [Bool.and_eq_true, decide_eq_true_eq] at h
    rw [h.2]
    exact spells_short (by decide) (by decide)
  · exact spells_encodeChar c v

theorem unpaired_literalUnit (afterAngle : Bool) (c : Char) (t : List Char) : Unpaired (literalUnit afterAngle c ++ t) := by
  unfold literalUnit
  split_ifs
  · exact Or.inl rfl
  · exact unpaired_encodeChar c t

theorem units_literalPoints (afterAngle : Bool) (ps : List Point) : Units (literalPoints afterAngle ps) ps := by
  induction ps generalizing afterAngle with
  | nil => exact .nil
  | cons p ps ih =>
    cases p with
    | char c => exact .char (spells_literalUnit afterAngle c) (unpaired_literalUnit afterAngle c) (ih _)
    | half h => exact .half h (ih _)

/-- a guarded text is read back with its pairs joined -/
theorem readText_guardClosing (w : Wide) (position : Nat) (rest : List Char) (more : List (Half × List Char)) :
    readText ⟨position, guardClosing (encodeText w).toList ++ rest, more⟩ =
      .ok (w.joined, ⟨position + (guardClosing (encodeText w).toList).length, rest, more⟩) := by
  rw [guardClosing_encodeText]
  refine readText_spelled ?_ position rest more
  rw [Wide.joined, Wide.points_ofPoints]
  exact (units_literalPoints false w.points).spelled

/-- a text literal is read back as its text -/
theorem readText_scriptText (s : String) (position : Nat) (rest : List Char) (more : List (Half × List Char)) :
    readText ⟨position, (scriptText s).toList ++ rest, more⟩ =
      .ok (↑s, ⟨position + (scriptText s).toList.length, rest, more⟩) := by
  have hread := readText_guardClosing s position rest more
  rw [Wide.joined_ofString] at hread
  have htext : (scriptText s).toList = guardClosing (encodeText s).toList := String.toList_ofList
  rw [htext, hread]

/-! ## Defaults -/

theorem guardClosing_of_isWordy {u : List Char} (h : ∀ c ∈ u, isWordy c = true) : guardClosing u = u :=
  guardClosing_eq_self fun hu => absurd (h _ hu) (by decide)

/-- a default that is no text is written without any mark of the script -/
theorem isWordy_scriptLiteral {d : Option Literal} (h : ∀ s, d ≠ some (.text s)) {c : Char}
    (hc : c ∈ (scriptLiteral (.ofOption (d.map Literal.toValue))).toList) : isWordy c = true := by
  cases d with
  | none => exact isWordy_of_all (by decide) c hc
  | some l =>
    cases l with
    | bool b =>
      cases b with
      | false => exact isWordy_of_all (by decide) c hc
      | true => exact isWordy_of_all (by decide) c hc
    | int n =>
      have hn : ∀ d ∈ (intText n).toList, isWordy d = true := fun _ => isWordy_intText
      have htext : (scriptLiteral (.int n)).toList = (intText n).toList := by
        show (String.ofList (guardClosing (intText n).toList)).toList = _
        rw [String.toList_ofList, guardClosing_of_isWordy hn]
      exact hn c (htext ▸ hc)
    | float x =>
      have hx : ∀ d ∈ (x.text Number.scriptWords).toList, isWordy d = true :=
        fun _ => Number.isWordy_text (isWordy_of_all (by decide)) (isWordy_of_all (by decide))
      have htext : (scriptLiteral (.float x)).toList = (x.text Number.scriptWords).toList := by
        show (String.ofList (guardClosing (x.text Number.scriptWords).toList)).toList = _
        rw [String.toList_ofList, guardClosing_of_isWordy hx]
      exact hx c (htext ▸ hc)
    | text s => exact absurd rfl (h s)

end Pagewright
