/-
Plain numerals: ASCII digits with at most one point, a digit first. Nothing of what a reader of numerals allows besides
(blanks, signs, underscores, exponents, digits of other scripts) occurs in them, so that a numeral without a point is read
as the number that its digits write, unless they are too many, and one with a point as the nearest binary number.
-/
import Mathlib.Data.List.TakeWhile
import Mathlib.Tactic
import Pagewright.Number.Numeral

namespace Pagewright.Number

/-- digits with at most one point, a digit first -/
def IsNumeral (cs : List Char) : Prop :=
  cs.head?.any Char.isDigit = true ∧ (∀ c ∈ cs, c.isDigit = true ∨ c = '.') ∧ cs.count '.' ≤ 1

-- by the characters of the text: a search for an instance may go through all characters instead
instance (cs : List Char) : Decidable (IsNumeral cs) :=
  decidable_of_iff
    (cs.head?.any Char.isDigit = true ∧ cs.all (fun c => c.isDigit || c = '.') = true ∧ cs.count '.' ≤ 1)
    (by simp [IsNumeral])

/-- the characters of a numeral stand between the point and the nine -/
theorem numeral_range {c : Char} (h : c.isDigit = true ∨ c = '.') : 0x2E ≤ c.toNat ∧ c.toNat ≤ 0x39 := by
  rcases h with h | rfl
  · simp only [Char.isDigit, Bool.and_eq_true, decide_eq_true_eq, ge_iff_le, UInt32.le_iff_toNat_le] at h
    have h0 : '0'.val.toNat = 0x30 := rfl
    have h9 : '9'.val.toNat = 0x39 := rfl
    have hc : c.toNat = c.val.toNat := rfl
    omega
  · decide

theorem dropWhile_eq_self {p : Char → Bool} {cs : List Char} (h : ∀ c ∈ cs, p c = false) : cs.dropWhile p = cs := by
  cases cs with
  | nil => rfl
  | cons c r => exact List.dropWhile_cons_of_neg (by simp [h c List.mem_cons_self])

theorem stripBy_eq_self {p : Char → Bool} {cs : List Char} (h : ∀ c ∈ cs, p c = false) : Text.stripBy p cs = cs := by
  have hr : ∀ c ∈ cs.reverse, p c = false := fun c hc => h c (List.mem_reverse.1 hc)
  rw [Text.stripBy, dropWhile_eq_self h, dropWhile_eq_self hr, List.reverse_reverse]

/-- characters of ASCII that are no blanks are left as they are -/
theorem plainNumeral_of_range {cs : List Char} (h : ∀ c ∈ cs, 0x20 < c.toNat ∧ c.toNat < 0x7F) : Text.plainNumeral cs = cs := by
  have hmap : cs.map Text.numeralChar = cs := by
    refine (List.map_congr_left fun c hc => ?_).trans (List.map_id cs)
    exact Text.numeralChar_of_ascii c (h c hc).2
  rw [Text.plainNumeral, hmap]
  refine stripBy_eq_self fun c hc => ?_
  have hrange := h c hc
  have hspace : c ≠ ' ' := by
    rintro rfl
    revert hrange
    decide
  simp only [Text.isNumeralBlank, hspace, decide_false, Bool.false_or, Bool.and_eq_false_iff, decide_eq_false_iff_not]
  omega

theorem plainNumeral_eq_self {cs : List Char} (h : ∀ c ∈ cs, c.isDigit = true ∨ c = '.') : Text.plainNumeral cs = cs := by
  refine plainNumeral_of_range fun c hc => ?_
  have hrange := numeral_range (h c hc)
  omega

theorem splitSign_digit {c : Char} (hc : c.isDigit = true) (r : List Char) : splitSign (c :: r) = (false, c :: r) := by
  unfold splitSign
  split
  · rename_i heq
    obtain ⟨rfl, -⟩ := List.cons.inj heq
    exact absurd hc (by decide)
  · rename_i heq
    obtain ⟨rfl, -⟩ := List.cons.inj heq
    exact absurd hc (by decide)
  · rfl

theorem dropUnderscores_digits {ds : List Char} (hne : ds ≠ []) (h : ∀ c ∈ ds, c.isDigit = true) :
    dropUnderscores ds = some ds := by
  fun_induction dropUnderscores ds with
  | case1 => exact absurd rfl hne
  | case2 c hc => rfl
  | case3 c hc => exact absurd (h c List.mem_cons_self) hc
  | case4 c r hc ih => exact absurd (h '_' (by simp)) (by decide)
  | case5 c r hc => exact absurd (h c List.mem_cons_self) hc
  | case6 c r hr _ hc ih => 
    rw [ih hr fun d hd => h d (List.mem_cons_of_mem c hd)]
    rfl
  | case7 c r _ _ hc => exact absurd (h c List.mem_cons_self) hc

theorem IsNumeral.exists_cons {cs : List Char} (h : IsNumeral cs) : ∃ c r, cs = c :: r ∧ c.isDigit = true := by
  cases cs with
  | nil => simp [IsNumeral] at h
  | cons c r => exact ⟨c, r, rfl, by simpa using h.1⟩

theorem IsNumeral.splitSign_plain {cs : List Char} (h : IsNumeral cs) :
    splitSign (Text.plainNumeral cs) = (false, cs) := by
  obtain ⟨c, r, rfl, hc⟩ := h.exists_cons
  rw [plainNumeral_eq_self h.2.1, splitSign_digit hc]

/-- a numeral without a point has digits only -/
theorem IsNumeral.digits {cs : List Char} (h : IsNumeral cs) (hpoint : '.' ∉ cs) : ∀ c ∈ cs, c.isDigit = true := by
  intro c hc
  rcases h.2.1 c hc with hd | rfl
  · exact hd
  · exact absurd hc hpoint

/-- a numeral without a point is read as the number its digits write, if they are not too many -/
theorem IsNumeral.readInt? {cs : List Char} (h : IsNumeral cs) (hpoint : '.' ∉ cs) :
    Number.readInt? cs = if digitLimit < cs.length then none else some (digitsValue cs : Int) := by
  have hne : cs ≠ [] := by
    obtain ⟨c, r, rfl, -⟩ := h.exists_cons
    simp
  simp [Number.readInt?, h.splitSign_plain, dropUnderscores_digits hne (h.digits hpoint), signed]

/-- a minus before a numeral makes it negative -/
theorem IsNumeral.readInt?_minus {cs : List Char} (h : IsNumeral cs) (hpoint : '.' ∉ cs) :
    Number.readInt? ('-' :: cs) = if digitLimit < cs.length then none else some (-(digitsValue cs : Int)) := by
  have hne : cs ≠ [] := by
    obtain ⟨c, r, rfl, -⟩ := h.exists_cons
    simp
  have hplain : Text.plainNumeral ('-' :: cs) = '-' :: cs := by
    refine plainNumeral_of_range (List.forall_mem_cons.2 ⟨by decide, fun c hc => ?_⟩)
    have hrange := numeral_range (h.2.1 c hc)
    omega
  simp [Number.readInt?, hplain, splitSign, dropUnderscores_digits hne (h.digits hpoint), signed]

/-- the two sides of the point are digits, and there is at least one before it -/
theorem IsNumeral.sides {w f : List Char} (h : IsNumeral (w ++ '.' :: f)) :
    w ≠ [] ∧ (∀ c ∈ w, c.isDigit = true) ∧ ∀ c ∈ f, c.isDigit = true := by
  have hcount : w.count '.' + f.count '.' = 0 := by
    have := h.2.2
    simp only [List.count_append, List.count_cons_self] at this
    omega
  have hside : ∀ c, c ∈ w ∨ c ∈ f → c.isDigit = true := by
    intro c hc
    rcases h.2.1 c (by simp only [List.mem_append, List.mem_cons]; tauto) with hd | rfl
    · exact hd
    · rcases hc with hc | hc
      · have := List.count_pos_iff.2 hc
        omega
      · have := List.count_pos_iff.2 hc
        omega
  refine ⟨?_, fun c hc => hside c (Or.inl hc), fun c hc => hside c (Or.inr hc)⟩
  rintro rfl
  exact absurd h.1 (by simp)

theorem optionalDigits_digits {ds : List Char} (h : ∀ c ∈ ds, c.isDigit = true) : optionalDigits ds = some ds := by
  unfold optionalDigits
  split_ifs with he
  · rw [List.isEmpty_iff.1 he]
  · exact dropUnderscores_digits (fun e => he (by simp [e])) h

theorem splitAtFirst_none {p : Char → Bool} {cs : List Char} (h : ∀ c ∈ cs, p c = false) :
    splitAtFirst p cs = (cs, none) := by
  have hd : cs.dropWhile (fun c => !p c) = [] := List.dropWhile_eq_nil_iff.2 fun c hc => by simp [h c hc]
  simp [splitAtFirst, hd]

theorem splitAtFirst_some {p : Char → Bool} {w f : List Char} {c : Char} (hw : ∀ d ∈ w, p d = false) (hc : p c = true) :
    splitAtFirst p (w ++ c :: f) = (w, some f) := by
  have hall : ∀ d ∈ w, (fun d => !p d) d = true := fun d hd => by simp [hw d hd]
  have hd : (w ++ c :: f).dropWhile (fun d => !p d) = c :: f := by
    rw [List.dropWhile_append_of_pos hall, List.dropWhile_cons_of_neg (by simp [hc])]
  have ht : (w ++ c :: f).takeWhile (fun d => !p d) = w := by
    rw [List.takeWhile_append_of_pos hall, List.takeWhile_cons_of_neg (by simp [hc]), List.append_nil]
  simp [splitAtFirst, hd, ht]

/-- a numeral with a point is read as the nearest number to what it writes -/
theorem IsNumeral.readDecimal? {w f : List Char} (h : IsNumeral (w ++ '.' :: f)) :
    Number.readDecimal? (w ++ '.' :: f) = some (Binary64.ofDecimal false (digitsValue (w ++ f)) (-(f.length : Int))) := by
  obtain ⟨hne, hw, hf⟩ := h.sides
  have hexp : splitAtFirst (fun c => c = 'e' || c = 'E') (w ++ '.' :: f) = (w ++ '.' :: f, none) := by
    refine splitAtFirst_none fun c hc => ?_
    have hrange := numeral_range (h.2.1 c hc)
    have h1 : c ≠ 'e' := by rintro rfl; revert hrange; decide
    have h2 : c ≠ 'E' := by rintro rfl; revert hrange; decide
    simp [h1, h2]
  have hpoint : splitAtFirst (· = '.') (w ++ '.' :: f) = (w, some f) := by
    refine splitAtFirst_some (fun d hd => ?_) (by simp)
    have : d ≠ '.' := by rintro rfl; exact absurd (hw _ hd) (by decide)
    simp [this]
  simp [Number.readDecimal?, h.splitSign_plain, hexp, hpoint, optionalDigits_digits hw, optionalDigits_digits hf,
    readExponent?, hne]

theorem toLower_digit {c : Char} (hc : c.isDigit = true) : c.toLower = c := by
  have hrange := numeral_range (Or.inl hc)
  unfold Char.toLower
  rw [dif_neg]
  rintro ⟨h, -⟩
  have hA : 'A'.val.toNat = 0x41 := rfl
  have hval : c.toNat = c.val.toNat := rfl
  rw [ge_iff_le, UInt32.le_iff_toNat_le] at h
  omega

theorem IsNumeral.readNumber? {w f : List Char} (h : IsNumeral (w ++ '.' :: f)) :
    Number.readNumber? (w ++ '.' :: f) = some (Binary64.ofDecimal false (digitsValue (w ++ f)) (-(f.length : Int))) := by
  obtain ⟨c, r, hcr, hc⟩ := h.exists_cons
  -- no word for an infinite or undefined number starts with a digit
  have hword : ∀ d ds, d.isDigit = false → String.ofList ((c :: r).map Char.toLower) ≠ String.ofList (d :: ds) := by
    intro d ds hd heq
    rw [List.map_cons, toLower_digit hc, String.ofList_inj] at heq
    rw [← (List.cons.inj heq).1, hc] at hd
    cases hd
  unfold Number.readNumber?
  rw [h.splitSign_plain, h.readDecimal?]
  simp only [hcr]
  rw [if_neg, if_neg]
  · simpa using hword 'n' "an".toList (by decide)
  · simp only [Bool.or_eq_true, decide_eq_true_eq, not_or]
    exact ⟨hword 'i' "nf".toList (by decide), hword 'i' "nfinity".toList (by decide)⟩

/-! ## Written numbers -/

/-- the digits of a number are a numeral -/
theorem isNumeral_toDigits (n : Nat) : IsNumeral (Nat.toDigits 10 n) := by
  have hdigits : ∀ c ∈ Nat.toDigits 10 n, c.isDigit = true := fun c hc =>
    Nat.isDigit_of_mem_toDigits (by decide) (by decide) hc
  have hpoint : '.' ∉ Nat.toDigits 10 n := by
    intro hmem
    exact absurd (hdigits _ hmem) (by decide)
  obtain ⟨c, r, hcons⟩ := List.exists_cons_of_length_pos (Nat.length_toDigits_pos (b := 10) (n := n))
  refine ⟨?_, fun c hc => Or.inl (hdigits c hc), ?_⟩
  · rw [hcons]
    exact hdigits c (by simp [hcons])
  · rw [List.count_eq_zero_of_not_mem hpoint]
    exact Nat.zero_le 1

theorem digitsValue_toDigits (n : Nat) : digitsValue (Nat.toDigits 10 n) = n :=
  Nat.ofDigitChars_toDigits (by decide) (by decide)

/-- a number has no more digits than any digits that write it -/
theorem length_toDigits_digitsValue {ds : List Char} (hne : ds ≠ []) (h : ∀ c ∈ ds, c.isDigit = true) :
    (Nat.toDigits 10 (digitsValue ds)).length ≤ ds.length := by
  have hbound : ∀ (ds : List Char) (n : Nat), (∀ c ∈ ds, c.isDigit = true) →
      ds.foldl (fun n c => 10 * n + digitValue c) n < (n + 1) * 10 ^ ds.length := by
    intro ds
    induction ds with
    | nil => simp
    | cons c ds ih =>
      intro n h
      rw [List.forall_mem_cons] at h
      have hdigit : digitValue c ≤ 9 := by
        have hrange := numeral_range (Or.inl h.1)
        have hzero : '0'.toNat = 0x30 := rfl
        rw [digitValue]
        omega
      calc (c :: ds).foldl (fun n c => 10 * n + digitValue c) n
          < (10 * n + digitValue c + 1) * 10 ^ ds.length := ih _ h.2
        _ ≤ ((n + 1) * 10) * 10 ^ ds.length := Nat.mul_le_mul_right _ (by omega)
        _ = (n + 1) * 10 ^ (c :: ds).length := by rw [List.length_cons, pow_succ']; ring
  rw [Nat.length_toDigits_le_iff (by decide) (List.length_pos_iff.2 hne)]
  simpa [digitsValue] using hbound ds 0 h

end Pagewright.Number
