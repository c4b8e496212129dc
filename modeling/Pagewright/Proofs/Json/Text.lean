/-
Texts are read back as they were written. What stands for one point of a text (`Spells`) is read as that point: a character
as it is, as a backslash and a letter, or as one or two units in hexadecimal, and a half as one unit. A high half that is
written right before a low one is read as one character with it, whatever else follows is read as it is. So what stands for
a text, point by point (`Spelled`), is read between quotes as that text (`readText_spelled`), and points are written so that
they are read with their pairs joined (`Units.spelled`).
-/
import Mathlib.Tactic
import Pagewright.Json.Reader
import Pagewright.Json.Writer
import Pagewright.Proofs.Text.Wide

namespace Pagewright.Json

open Text (Half Point Wide joinPairs)

/-! ## Units -/

/-- four hexadecimal digits, the highest first -/
theorem hexadecimal_four {n : Nat} (h : n < 0x10000) : Text.hexadecimal 4 n =
    [(n / 4096).digitChar, (n / 256 % 16).digitChar, (n / 16 % 16).digitChar, (n % 16).digitChar] := by
  have hstep : ∀ m, Nat.toDigits 16 m =
      if m < 16 then [m.digitChar] else Nat.toDigits 16 (m / 16) ++ [(m % 16).digitChar] := fun m =>
    Nat.toDigits_eq_if (by decide)
  have hlast : ∀ m < 16, Nat.toDigits 16 m = [m.digitChar] := fun m hm => by rw [hstep, if_pos hm]
  have hmore : ∀ m, 16 ≤ m → Nat.toDigits 16 m = Nat.toDigits 16 (m / 16) ++ [(m % 16).digitChar] := fun m hm => by
    rw [hstep, if_neg (Nat.not_lt.2 hm)]
  unfold Text.hexadecimal
  rcases Nat.lt_or_ge n 16 with h₁ | h₁
  · rw [hlast n h₁, show n / 4096 = 0 by omega, show n / 256 % 16 = 0 by omega, show n / 16 % 16 = 0 by omega,
      show n % 16 = n by omega]
    rfl
  · rw [hmore n h₁]
    rcases Nat.lt_or_ge n 256 with h₂ | h₂
    · rw [hlast (n / 16) (by omega), show n / 4096 = 0 by omega, show n / 256 % 16 = 0 by omega,
        show n / 16 % 16 = n / 16 by omega]
      rfl
    · rw [hmore (n / 16) (by omega), Nat.div_div_eq_div_mul]
      rcases Nat.lt_or_ge n 4096 with h₃ | h₃
      · rw [hlast (n / (16 * 16)) (by omega), show n / 4096 = 0 by omega, show n / 256 % 16 = n / (16 * 16) by omega]
        rfl
      · rw [hmore (n / (16 * 16)) (by omega), Nat.div_div_eq_div_mul, hlast (n / (16 * 16 * 16)) (by omega)]
        rfl

theorem hexValue?_digitChar : ∀ k < 16, hexValue? k.digitChar = some k := by decide

/-- a unit is read back -/
theorem hexUnit?_hexadecimal {n : Nat} (h : n < 0x10000) : hexUnit? (Text.hexadecimal 4 n) = some n := by
  rw [hexadecimal_four h]
  simp only [hexUnit?, hexValue?_digitChar _ (show n / 4096 < 16 by omega), hexValue?_digitChar _ (Nat.mod_lt _ (by decide))]
  rw [Option.some.injEq]
  omega

theorem length_hexadecimal {n : Nat} (h : n < 0x10000) : (Text.hexadecimal 4 n).length = 4 := by
  rw [hexadecimal_four h]
  rfl

section

variable {n : Nat} (h : n < 0x10000) (t : List Char)
include h

theorem take_hexadecimal : (Text.hexadecimal 4 n ++ t).take 4 = Text.hexadecimal 4 n := List.take_left' (length_hexadecimal h)

theorem drop_hexadecimal (k : Nat) : (Text.hexadecimal 4 n ++ t).drop (4 + k) = t.drop k := by
  rw [← List.drop_drop, List.drop_left' (length_hexadecimal h)]

/-- a unit is not cut short if anything follows it -/
theorem not_length_hexadecimal_lt {t : List Char} (ht : t ≠ []) : ¬(Text.hexadecimal 4 n ++ t).length < 5 := by
  have htail : 0 < t.length := List.length_pos_iff.2 ht
  rw [List.length_append, length_hexadecimal h]
  omega

end

/-! ## Escapes -/

theorem lt_unit (h : Half) : h.code < 0x10000 := Nat.lt_of_le_of_lt h.upper (by decide)

theorem ofCode?_code (h : Half) : Half.ofCode? h.code = some h := dif_pos ⟨h.lower, h.upper⟩

theorem lowHalf?_code (h : Half) : lowHalf? h.code = if h.isHigh then none else some h := by
  rw [lowHalf?, ofCode?_code, Option.filter_some]
  cases h.isHigh <;> rfl

/-- a unit that is no half stands for its code point -/
theorem readEscape_unit {n : Nat} (h : n < 0x10000) (hhalf : Half.ofCode? n = none) (position : Nat) {t : List Char}
    (ht : t ≠ []) (more : List (Half × List Char)) :
    readEscape ⟨position, unitEscape n ++ t, more⟩ = .ok (.char (Char.ofNat n), 6) := by
  show readEscape ⟨position, '\\' :: 'u' :: (Text.hexadecimal 4 n ++ t), more⟩ = _
  simp only [readEscape, List.drop_succ_cons, List.drop_zero, not_length_hexadecimal_lt h ht, take_hexadecimal h,
    hexUnit?_hexadecimal h, hhalf, if_false]

/-- what follows a high half makes no pair of it -/
def Unpaired (t : List Char) : Prop :=
  ['\\', 'u'].isPrefixOf t = false ∨ ∃ n s, n < 0x10000 ∧ lowHalf? n = none ∧ t = unitEscape n ++ s

/-- a half stands for itself, unless it is a high one and a low one follows -/
theorem readEscape_half (h : Half) (position : Nat) {t : List Char} (ht : t ≠ []) (hnext : h.isHigh = true → Unpaired t)
    (more : List (Half × List Char)) : readEscape ⟨position, unitEscape h.code ++ t, more⟩ = .ok (.half h, 6) := by
  have hcode := lt_unit h
  have hdrop : (Text.hexadecimal 4 h.code ++ t).drop 4 = t := drop_hexadecimal hcode t 0
  have hdrop' : (Text.hexadecimal 4 h.code ++ t).drop 6 = t.drop 2 := drop_hexadecimal hcode t 2
  show readEscape ⟨position, '\\' :: 'u' :: (Text.hexadecimal 4 h.code ++ t), more⟩ = _
  simp only [readEscape, List.drop_succ_cons, List.drop_zero, not_length_hexadecimal_lt hcode ht, take_hexadecimal hcode,
    hdrop, hdrop', hexUnit?_hexadecimal hcode, ofCode?_code, if_false]
  split
  · rename_i hpair
    simp only [Bool.and_eq_true] at hpair
    rcases hnext hpair.1.1 with hother | ⟨n, s, hn, hlow, rfl⟩
    · rw [hother] at hpair
      cases hpair.2
    · have htake : ((unitEscape n ++ s).drop 2).take 4 = Text.hexadecimal 4 n := take_hexadecimal hn s
      rw [htake, hexUnit?_hexadecimal hn]
      simp only [hlow]
  · rfl

/-- a high half and a low one stand for one character -/
theorem readEscape_pair {h l : Half} (hhigh : h.isHigh = true) (hlow : l.isHigh = false) (position : Nat) {t : List Char}
    (ht : t ≠ []) (more : List (Half × List Char)) :
    readEscape ⟨position, unitEscape h.code ++ unitEscape l.code ++ t, more⟩ = .ok (.char (h.join l), 12) := by
  have hcode := lt_unit h
  have hcode' := lt_unit l
  have hsecond : unitEscape l.code ++ t = '\\' :: 'u' :: (Text.hexadecimal 4 l.code ++ t) := rfl
  have hne : unitEscape l.code ++ t ≠ [] := hsecond ▸ List.cons_ne_nil _ _
  have hdrop : (Text.hexadecimal 4 h.code ++ (unitEscape l.code ++ t)).drop 4 = unitEscape l.code ++ t :=
    drop_hexadecimal hcode _ 0
  have hdrop' : (Text.hexadecimal 4 h.code ++ (unitEscape l.code ++ t)).drop 6 = Text.hexadecimal 4 l.code ++ t :=
    drop_hexadecimal hcode _ 2
  have hseven : 7 ≤ (unitEscape l.code ++ t).length := by
    have hlong := not_length_hexadecimal_lt hcode' ht
    rw [hsecond, List.length_cons, List.length_cons]
    omega
  have hfirst : ['\\', 'u'].isPrefixOf (unitEscape l.code ++ t) = true := by
    rw [hsecond]
    rfl
  rw [List.append_assoc]
  show readEscape ⟨position, '\\' :: 'u' :: (Text.hexadecimal 4 h.code ++ (unitEscape l.code ++ t)), more⟩ = _
  simp only [readEscape, List.drop_succ_cons, List.drop_zero, not_length_hexadecimal_lt hcode hne, take_hexadecimal hcode,
    take_hexadecimal hcode', hdrop, hdrop', hexUnit?_hexadecimal hcode, hexUnit?_hexadecimal hcode', ofCode?_code,
    lowHalf?_code, hhigh, hlow, hseven, hfirst, Bool.true_and, Bool.false_eq_true, decide_true, if_true, if_false]

/-! ## Points -/

/-- characters that are read as one point of a text which goes on with `v` -/
structure Spells (u : List Char) (p : Point) (v : List Char) : Prop where
  ne_nil : u ≠ []
  reads : ∀ (opening fuel position : Nat) (rest : List Char) (more : List (Half × List Char)) (read : List Point),
    readTextFrom opening (fuel + 1) ⟨position, u ++ (v ++ '"' :: rest), more⟩ read =
      readTextFrom opening fuel ⟨position + u.length, v ++ '"' :: rest, more⟩ (p :: read)

section

variable {v : List Char}

theorem spells_self {c : Char} (hquote : c ≠ '"') (hescape : c ≠ '\\') (h : ¬c.toNat < 0x20) : Spells [c] (.char c) v := by
  refine ⟨List.cons_ne_nil c [], fun opening fuel position rest more read => ?_⟩
  rw [readTextFrom.eq_def]
  simp only [List.cons_append, List.nil_append]
  rw [if_neg h]
  rfl

theorem spells_escape {r : List Char} {p : Point}
    (h : ∀ position rest more, readEscape ⟨position, '\\' :: r ++ (v ++ '"' :: rest), more⟩ = .ok (p, r.length + 1)) :
    Spells ('\\' :: r) p v := by
  refine ⟨List.cons_ne_nil _ r, fun opening fuel position rest more read => ?_⟩
  have hne : (r ++ (v ++ '"' :: rest)).isEmpty = false := by simp
  rw [readTextFrom.eq_def]
  simp only [List.cons_append, hne, Bool.false_and, Bool.false_eq_true, if_false]
  rw [show ('\\' :: (r ++ (v ++ '"' :: rest))) = '\\' :: r ++ (v ++ '"' :: rest) from rfl, h position rest more]
  simp [Place.skip]

theorem spells_short {c d : Char} (hd : d ≠ 'u') (h : shortEscape? d = some c) : Spells ['\\', d] (.char c) v := by
  refine spells_escape fun position rest more => ?_
  simp only [readEscape, List.cons_append, List.nil_append, List.drop_succ_cons, List.drop_zero, h]
  rfl

theorem toNat_valid (c : Char) : c.toNat < 0xD800 ∨ 0xDFFF < c.toNat ∧ c.toNat < 0x110000 := c.valid

/-- no character is a half -/
theorem ofCode?_toNat (c : Char) : Half.ofCode? c.toNat = none := by
  have hvalid := toNat_valid c
  exact dif_neg (by omega)

theorem spells_unit {c : Char} (h : c.toNat < 0x10000) : Spells (unitEscape c.toNat) (.char c) v := by
  have hlength := length_hexadecimal h
  refine spells_escape (r := 'u' :: Text.hexadecimal 4 c.toNat) fun position rest more => ?_
  have hread := readEscape_unit h (ofCode?_toNat c) position (t := v ++ '"' :: rest) (by simp) more
  rw [Char.ofNat_toNat] at hread
  rw [List.length_cons, hlength]
  exact hread

theorem spells_pair {h l : Half} (hhigh : h.isHigh = true) (hlow : l.isHigh = false) :
    Spells (unitEscape h.code ++ unitEscape l.code) (.char (h.join l)) v := by
  have hlength := length_hexadecimal (lt_unit h)
  have hlength' := length_hexadecimal (lt_unit l)
  refine spells_escape (r := 'u' :: Text.hexadecimal 4 h.code ++ unitEscape l.code) fun position rest more => ?_
  have hread := readEscape_pair hhigh hlow position (t := v ++ '"' :: rest) (by simp) more
  rw [List.length_append, List.length_cons, hlength, unitEscape, List.length_append, hlength']
  exact hread

theorem spells_half {h : Half} (hnext : h.isHigh = true → ∀ rest, Unpaired (v ++ '"' :: rest)) :
    Spells (unitEscape h.code) (.half h) v := by
  have hlength := length_hexadecimal (lt_unit h)
  refine spells_escape (r := 'u' :: Text.hexadecimal 4 h.code) fun position rest more => ?_
  have hread := readEscape_half h position (t := v ++ '"' :: rest) (by simp) (fun hhigh => hnext hhigh rest) more
  rw [List.length_cons, hlength]
  exact hread

/-- a character beyond `U+FFFF` is a pair of halves -/
theorem exists_halves {c : Char} (h : ¬c.toNat < 0x10000) : ∃ high low : Half, high.isHigh = true ∧ low.isHigh = false ∧
    high.join low = c ∧ codePointEscape c.toNat = unitEscape high.code ++ unitEscape low.code := by
  have hvalid := toNat_valid c
  refine ⟨⟨0xD800 + (c.toNat - 0x10000) / 0x400, by omega, by omega⟩,
    ⟨0xDC00 + (c.toNat - 0x10000) % 0x400, by omega, by omega⟩, ?_, ?_, ?_, if_neg h⟩
  · simp only [Half.isHigh, decide_eq_true_eq]
    omega
  · simp only [Half.isHigh, decide_eq_false_iff_not]
    omega
  · rw [Half.join, show 0x10000 + (0xD800 + (c.toNat - 0x10000) / 0x400 - 0xD800) * 0x400 +
      (0xDC00 + (c.toNat - 0x10000) % 0x400 - 0xDC00) = c.toNat by omega, Char.ofNat_toNat]

theorem spells_codePoint (c : Char) : Spells (codePointEscape c.toNat) (.char c) v := by
  by_cases h : c.toNat < 0x10000
  · rw [codePointEscape, if_pos h]
    exact spells_unit h
  · obtain ⟨high, low, hhigh, hlow, rfl, hescape⟩ := exists_halves h
    rw [hescape]
    exact spells_pair hhigh hlow

end

/-- the three ways to write a character: as it is, as a backslash and a letter, or by its code point -/
theorem encodeChar_eq (c : Char) :
    (encodeChar c = [c] ∧ c ≠ '"' ∧ c ≠ '\\' ∧ 0x20 ≤ c.toNat) ∨
      (∃ d, encodeChar c = ['\\', d] ∧ d ≠ 'u' ∧ d ≠ '<' ∧ shortEscape? d = some c) ∨
      encodeChar c = codePointEscape c.toNat := by
  by_cases hquote : c = '"'
  · subst hquote
    exact Or.inr (Or.inl ⟨'"', rfl, by decide, by decide, rfl⟩)
  by_cases hescape : c = '\\'
  · subst hescape
    exact Or.inr (Or.inl ⟨'\\', rfl, by decide, by decide, rfl⟩)
  by_cases hnewline : c = '\n'
  · subst hnewline
    exact Or.inr (Or.inl ⟨'n', rfl, by decide, by decide, rfl⟩)
  by_cases hreturn : c = '\r'
  · subst hreturn
    exact Or.inr (Or.inl ⟨'r', rfl, by decide, by decide, rfl⟩)
  by_cases htab : c = '\t'
  · subst htab
    exact Or.inr (Or.inl ⟨'t', rfl, by decide, by decide, rfl⟩)
  by_cases hback : c.toNat = 8
  · obtain rfl : c = Char.ofNat 8 := by rw [← hback, Char.ofNat_toNat]
    exact Or.inr (Or.inl ⟨'b', rfl, by decide, by decide, rfl⟩)
  by_cases hfeed : c.toNat = 12
  · obtain rfl : c = Char.ofNat 12 := by rw [← hfeed, Char.ofNat_toNat]
    exact Or.inr (Or.inl ⟨'f', rfl, by decide, by decide, rfl⟩)
  have hrest : encodeChar c = if 0x20 ≤ c.toNat && c.toNat ≤ 0x7E then [c] else codePointEscape c.toNat := by
    rw [encodeChar, if_neg hquote, if_neg hescape, if_neg hnewline, if_neg hreturn, if_neg htab, if_neg hback, if_neg hfeed]
  rw [hrest]
  by_cases hprintable : (0x20 ≤ c.toNat && c.toNat ≤ 0x7E) = true
  · rw [if_pos hprintable]
    simp only [Bool.and_eq_true, decide_eq_true_eq] at hprintable
    exact Or.inl ⟨rfl, hquote, hescape, hprintable.1⟩
  · rw [if_neg hprintable]
    exact Or.inr (Or.inr rfl)

/-- a character is read back -/
theorem spells_encodeChar (c : Char) (v : List Char) : Spells (encodeChar c) (.char c) v := by
  rcases encodeChar_eq c with ⟨h, hquote, hescape, hprintable⟩ | ⟨d, h, hu, -, hread⟩ | h
  · rw [h]
    exact spells_self hquote hescape (Nat.not_lt.2 hprintable)
  · rw [h]
    exact spells_short hu hread
  · rw [h]
    exact spells_codePoint c

/-- a character makes no pair of the half before it -/
theorem unpaired_encodeChar (c : Char) (t : List Char) : Unpaired (encodeChar c ++ t) := by
  rcases encodeChar_eq c with ⟨h, -, hescape, -⟩ | ⟨d, h, hu, -, -⟩ | h
  · left
    simp [h, List.isPrefixOf, Ne.symm hescape]
  · left
    simp [h, List.isPrefixOf, Ne.symm hu]
  · right
    rw [h]
    by_cases hunit : c.toNat < 0x10000
    · refine ⟨c.toNat, t, hunit, by rw [lowHalf?, ofCode?_toNat]; rfl, ?_⟩
      rw [codePointEscape, if_pos hunit]
    · obtain ⟨high, low, hhigh, -, -, hescape⟩ := exists_halves hunit
      refine ⟨high.code, unitEscape low.code ++ t, lt_unit high, by rw [lowHalf?_code, if_pos hhigh], ?_⟩
      rw [hescape, List.append_assoc]

/-! ## Texts -/

/-- characters that stand for a text, point by point -/
inductive Spelled : List Char → List Point → Prop
  | nil : Spelled [] []
  | cons {u v : List Char} {p : Point} {ps : List Point} (h : Spells u p v) (hs : Spelled v ps) : Spelled (u ++ v) (p :: ps)

theorem Spelled.length_le {u : List Char} {ps : List Point} (h : Spelled u ps) : ps.length ≤ u.length := by
  induction h with
  | nil => exact Nat.le_refl _
  | @cons u v p ps h _ ih =>
    have hpos : 0 < u.length := List.length_pos_iff.2 h.ne_nil
    rw [List.length_append, List.length_cons]
    omega

/-- the points of a text are read one by one, up to the closing quote -/
theorem readTextFrom_spelled {u : List Char} {ps : List Point} (h : Spelled u ps) (opening position : Nat) (rest : List Char)
    (more : List (Half × List Char)) (read : List Point) {fuel : Nat} (hfuel : ps.length < fuel) :
    readTextFrom opening fuel ⟨position, u ++ '"' :: rest, more⟩ read =
      .ok (.ofReversed (ps.reverse ++ read) [] [], ⟨position + u.length + 1, rest, more⟩) := by
  induction h generalizing fuel position read with
  | nil =>
    cases fuel with
    | zero => cases hfuel
    | succ fuel => simp [readTextFrom, Place.skip]
  | @cons u v p ps h _ ih =>
    cases fuel with
    | zero => cases hfuel
    | succ fuel =>
      rw [List.append_assoc, h.reads, ih _ _ (Nat.lt_of_succ_lt_succ hfuel)]
      simp [Nat.add_assoc]

/-- points between quotes are read as the text that they make up -/
theorem readText_spelled {u : List Char} {s : Wide} (h : Spelled u s.points) (position : Nat) (rest : List Char)
    (more : List (Half × List Char)) :
    readText ⟨position, '"' :: (u ++ ['"']) ++ rest, more⟩ =
      .ok (s, ⟨position + ('"' :: (u ++ ['"'])).length, rest, more⟩) := by
  have hlength := h.length_le
  have hfuel : s.points.length < Place.left ⟨position, '"' :: (u ++ ['"']) ++ rest, more⟩ + 1 := by
    simp only [Place.left, List.length_append, List.length_cons]
    omega
  have hbody := readTextFrom_spelled h position (position + 1) rest more [] hfuel
  have hpoints : Wide.ofReversed s.points.reverse [] [] = s := s.ofPoints_points
  rw [List.append_nil, hpoints] at hbody
  unfold readText
  simpa [Place.skip, Nat.add_assoc, Nat.add_comm 1] using hbody

/-- characters that are made of one unit for each point of a text; what stands for a character makes no pair of the half
before it -/
inductive Units : List Char → List Point → Prop
  | nil : Units [] []
  | char {u v : List Char} {c : Char} {ps : List Point} (hspells : ∀ w, Spells u (.char c) w)
      (hfirst : ∀ t, Unpaired (u ++ t)) (h : Units v ps) : Units (u ++ v) (.char c :: ps)
  | half (h : Half) {v : List Char} {ps : List Point} (hv : Units v ps) : Units (unitEscape h.code ++ v) (.half h :: ps)

/-- units are read with the pairs of their points joined -/
theorem Units.spelled {u : List Char} {ps : List Point} (h : Units u ps) : Spelled u (joinPairs ps) := by
  fun_induction joinPairs ps generalizing u with
  | case1 =>
    cases h
    exact .nil
  | case2 high low ps hpair ih =>
    simp only [Bool.and_eq_true, Bool.not_eq_true'] at hpair
    obtain _ | _ | ⟨_, _ | _ | ⟨_, hv⟩⟩ := h
    rw [← List.append_assoc]
    exact .cons (spells_pair hpair.1 hpair.2) (ih hv)
  | case3 high low ps hpair ih =>
    obtain _ | _ | ⟨_, hv⟩ := h
    refine .cons (spells_half fun hhigh rest => Or.inr ?_) (ih hv)
    obtain _ | _ | @⟨_, v, _, _⟩ := hv
    have hlow : low.isHigh = true := by simpa [hhigh] using hpair
    exact ⟨low.code, v ++ '"' :: rest, lt_unit low, by rw [lowHalf?_code, if_pos hlow], List.append_assoc _ _ _⟩
  | case4 p ps hfirst ih =>
    cases h with
    | char hspells _ hv => exact .cons (hspells _) (ih hv)
    | half high hv =>
      refine .cons (spells_half fun _ rest => ?_) (ih hv)
      cases hv with
      | nil => exact Or.inl rfl
      | char _ hnext _ =>
        rw [List.append_assoc]
        exact hnext _
      | half low hv => exact absurd rfl (hfirst high low _ rfl)

theorem units_encoded (ps : List Point) : Units (ps.flatMap encodePoint) ps := by
  induction ps with
  | nil => exact .nil
  | cons p ps ih =>
    rw [List.flatMap_cons]
    cases p with
    | char c => exact .char (spells_encodeChar c) (unpaired_encodeChar c) ih
    | half h => exact .half h ih

theorem toList_encodeText (s : Wide) : (encodeText s).toList = '"' :: (s.points.flatMap encodePoint ++ ['"']) := by
  rw [encodeText, String.toList_ofList, List.append_assoc, List.singleton_append]

end Pagewright.Json
