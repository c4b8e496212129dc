/-
Documents of one value that cannot be read although they are TOML, of any size: digits of which there are too many
(`parse_digits`), and arrays within arrays for which there is no room (`parse_nested`). Both values are read first to last, so
what fails in them fails in the document (`parse_assigned`).
-/
import Mathlib.Tactic
import Pagewright.Proofs.Toml.Integer

namespace Pagewright.Toml

open Json (Value Members)

variable {room : Room} {v : List Char}

/-- a document that gives one key a value -/
def assigned (v : List Char) : String := String.ofList ('a' :: ' ' :: '=' :: ' ' :: v)

theorem joinLineEnds_of_not_mem {s : List Char} (h : '\r' ∉ s) : joinLineEnds s = s := by
  induction s with
  | nil => rfl
  | cons c s ih =>
    obtain ⟨hc, hs⟩ := not_or.1 (mt List.mem_cons.2 h)
    rw [joinLineEnds, ih hs]
    rintro r rfl
    exact absurd rfl hc

/-- what fails in the value fails in the document -/
theorem parse_assigned {f : Fault} (hlines : '\r' ∉ v) (hgap : skipGap v = v)
    (h : value room [] (2 * v.length + 9) v = .error f) : parse room (assigned v) = .error f := by
  have hjoin : joinLineEnds (assigned v).toList = 'a' :: ' ' :: '=' :: ' ' :: v := by
    rw [assigned, String.toList_ofList]
    exact joinLineEnds_of_not_mem (by simpa using hlines)
  have hvalue : skipGap (' ' :: v) = v := by
    rw [skipGap, List.dropWhile_cons_of_pos (by decide)]
    exact hgap
  have hkey : key (v.length + 4 + 1) ('a' :: ' ' :: '=' :: ' ' :: v) = .ok (["a"], '=' :: ' ' :: v) := rfl
  have hpair : pair room [] (2 * v.length + 10) ('a' :: ' ' :: '=' :: ' ' :: v) = .error f := by
    unfold pair
    rw [show ('a' :: ' ' :: '=' :: ' ' :: v).length + 1 = v.length + 4 + 1 from rfl, hkey]
    show (value room [] (2 * v.length + 9) (skipGap (' ' :: v)) >>= fun x => _) = _
    rw [hvalue, h]
    rfl
  have hstatement (d : Draft) : statement room d 'a' ('a' :: ' ' :: '=' :: ' ' :: v) = .error f := by
    unfold statement
    rw [if_pos (by decide), show 2 * ('a' :: ' ' :: '=' :: ' ' :: v).length + 2 = 2 * v.length + 10 by simp; omega, hpair]
    rfl
  rw [parse, hjoin, List.length_cons]
  show (statement room ⟨[], [], [], []⟩ 'a' ('a' :: ' ' :: '=' :: ' ' :: v) >>= fun x => _) = _
  rw [hstatement]
  rfl

/-! ## Digits -/

section

variable {c : Char} {ds : List Char} (hds : ∀ d ∈ c :: ds, d.isDigit = true)

include hds

theorem digitsLength_eq : digitsLength Char.isDigit (c :: ds) = (c :: ds).length := by
  induction ds generalizing c with
  | nil => simpa [digitsLength] using hds
  | cons d ds ih =>
    obtain ⟨hc, hds⟩ := List.forall_mem_cons.1 hds
    have hd : d ≠ '_' := by
      rintro rfl
      exact absurd (hds _ List.mem_cons_self) (by decide)
    rw [digitsLength.eq_def]
    simp only [hc, hd, ih hds, Bool.not_true, Bool.false_eq_true, if_false, List.length_cons, Nat.add_comm 1]

/-- what has to stand behind digits does not -/
theorem expectChar?_drop {mark : Char} (hmark : mark.isDigit = false) (n : Nat) :
    expectChar? mark ((c :: ds).drop n) = none := by
  unfold expectChar?
  split
  · next d r hr =>
    have hd := hds d (List.mem_of_mem_drop (hr ▸ List.mem_cons_self))
    refine if_neg ?_
    rintro rfl
    rw [hmark] at hd
    cases hd
  · rfl

theorem moment?_digits : moment? (c :: ds) = none := by
  have hfixed : ∀ width n r, fixedDigits? width (c :: ds) = some (n, r) → r = (c :: ds).drop width := by
    intro width n r h
    unfold fixedDigits? at h
    dsimp only at h
    split_ifs at h
    exact ((Prod.mk.inj (Option.some.inj h)).2).symm
  have hdate : date? (c :: ds) = none := by
    unfold date?
    cases hyear : fixedDigits? 4 (c :: ds) with
    | none => rfl
    | some year =>
      obtain ⟨n, r⟩ := year
      obtain rfl := hfixed _ _ _ hyear
      show (expectChar? '-' _).bind _ = none
      rw [expectChar?_drop hds (by decide)]
      rfl
  have htime : afterTime? (c :: ds) = none := by
    unfold afterTime?
    cases hhour : upTo? 23 (c :: ds) with
    | none => rfl
    | some hour =>
      obtain ⟨n, r⟩ := hour
      obtain ⟨⟨m, u⟩, hfound, hup⟩ := Option.bind_eq_some_iff.1 hhour
      obtain rfl := hfixed _ _ _ hfound
      dsimp only at hup
      split_ifs at hup
      obtain ⟨-, rfl⟩ := Prod.mk.inj (Option.some.inj hup)
      show (expectChar? ':' _).bind _ = none
      rw [expectChar?_drop hds (by decide)]
      rfl
  rw [moment?, hdate, htime]
  rfl

theorem scalar_digits (hzero : c ≠ '0') (hlong : Number.digitLimit < (c :: ds).length) :
    scalar (c :: ds) = .error .hugeInteger := by
  have hc := hds c List.mem_cons_self
  have hsign : signLength (c :: ds) = 0 := by
    refine if_neg ?_
    rintro hsign
    simp only [Bool.or_eq_true, decide_eq_true_eq] at hsign
    rcases hsign with rfl | rfl
    · exact absurd hc (by decide)
    · exact absurd hc (by decide)
  have hwhole : wholeLength (c :: ds) = (c :: ds).length := by
    unfold wholeLength
    split
    · next heq => exact absurd (List.cons.inj heq).1 hzero
    · exact digitsLength_eq hds
  have hread : Number.readInt? (c :: ds) = none := by
    have hplain := Number.plainNumeral_eq_self fun d hd => Or.inl (hds d hd)
    simp only [Number.readInt?, hplain, Number.splitSign_digit hc,
      Number.dropUnderscores_digits (List.cons_ne_nil c ds) hds, if_pos hlong]
  have hdecimal : decimal? (c :: ds) = some (.error .hugeInteger) := by
    simp [decimal?, hsign, hwhole, fractionLength, exponentLength, hread]
  have hbased : basedInt? (c :: ds) = none := by
    unfold basedInt?
    split
    · next heq => exact absurd (List.cons.inj heq).1 hzero
    · rfl
  simp only [scalar, moment?_digits hds, hbased, hdecimal]

/-- digits of which there are too many are no value; a zero before them would stand alone -/
theorem parse_digits (room : Room) (hzero : c ≠ '0') (hlong : Number.digitLimit < (c :: ds).length) :
    parse room (assigned (c :: ds)) = .error .hugeInteger := by
  have hne : ∀ {d : Char}, d.isDigit = false → d ∉ c :: ds := by
    intro d hd hmem
    rw [hds d hmem] at hd
    cases hd
  have hc : ∀ {d : Char}, d.isDigit = false → c ≠ d := fun hd he => hne hd (he ▸ List.mem_cons_self)
  refine parse_assigned (hne (by decide)) ?_ ?_
  · refine List.dropWhile_cons_of_neg ?_
    simp [isGap, hc]
  · have hword : ∀ {w : Char} {ws : List Char}, w.isDigit = false → (w :: ws).isPrefixOf (c :: ds) = false := by
      intro w ws hw
      simp [List.isPrefixOf, (hc hw).symm]
    have htrue : "true".toList = 't' :: ['r', 'u', 'e'] := by decide
    have hfalse : "false".toList = 'f' :: ['a', 'l', 's', 'e'] := by decide
    rw [value, htrue, hfalse, if_neg (hc (by decide)), if_neg (hc (by decide)), if_neg (by simp [hword]),
      if_neg (by simp [hword]), if_neg (hc (by decide)), if_neg (hc (by decide))]
    exact scalar_digits hds hzero hlong

end

/-! ## Arrays -/

/-- arrays within arrays, the innermost of which is empty -/
def nested (n : Nat) : List Char := List.replicate n '[' ++ List.replicate n ']'

/-- a character that is no blank is where reading goes on -/
theorem skipLines_cons {c : Char} (hgap : (isGap c || c = '\n') = false) (hcomment : c ≠ '#') (fuel : Nat) (r : List Char) :
    skipLines (fuel + 1) (c :: r) = .ok (c :: r) := by
  have hskip : skipComment (c :: r) = .ok (c :: r) := by
    unfold skipComment
    split
    · next heq => exact absurd (List.cons.inj heq).1 hcomment
    · rfl
  rw [skipLines, List.dropWhile_cons_of_neg (by simpa using hgap), hskip]
  exact if_pos rfl

/-- an opening bracket that no closing one follows -/
theorem value_open {opened : List Bracket} {c : Char} (hgap : (isGap c || c = '\n') = false) (hcomment : c ≠ '#')
    (hclose : c ≠ ']') (fuel : Nat) (r : List Char) :
    value room opened (fuel + 1) ('[' :: c :: r) =
      if room (.array :: opened) (c :: r) then items room (.array :: opened) fuel (c :: r) [] else .error .tooDeep := by
  rw [value, if_neg (by decide), if_neg (by decide), if_neg (by simp [List.isPrefixOf]),
    if_neg (by simp [List.isPrefixOf]), if_pos rfl, skipLines_cons hgap hcomment]
  refine if_congr Iff.rfl ?_ rfl
  simp only [bind, Except.bind]
  split
  · next heq => exact absurd (List.cons.inj heq).1 hclose
  · rfl

/-- arrays are opened one within the other until there is no room -/
theorem value_nested {n k m fuel : Nat} (hn : k + (m + 1) = n) (hfuel : 2 * m < fuel)
    (hroom : room (List.replicate n .array) (List.replicate n ']') = false) :
    value room (List.replicate k .array) fuel (List.replicate (m + 1) '[' ++ List.replicate n ']') = .error .tooDeep := by
  induction m generalizing k fuel with
  | zero =>
    obtain ⟨fuel, rfl⟩ : ∃ f, fuel = f + 1 := ⟨fuel - 1, by omega⟩
    obtain rfl : n = k + 1 := by omega
    rw [List.replicate_one, List.singleton_append, value]
    simp [← List.replicate_succ, hroom]
  | succ m ih =>
    obtain ⟨fuel, rfl⟩ : ∃ f, fuel = f + 2 := ⟨fuel - 2, by omega⟩
    have hinner : value room (.array :: List.replicate k .array) fuel
        ('[' :: (List.replicate m '[' ++ List.replicate n ']')) = .error .tooDeep :=
      @ih (k + 1) fuel (by omega) (by omega)
    have hopen := @value_open room (List.replicate k .array) '[' (by decide) (by decide) (by decide) (fuel + 1)
      (List.replicate m '[' ++ List.replicate n ']')
    rw [items, hinner] at hopen
    exact hopen.trans (ite_self _)

theorem parse_nested {n : Nat} (hn : 0 < n) (hroom : room (List.replicate n .array) (List.replicate n ']') = false) :
    parse room (assigned (nested n)) = .error .tooDeep := by
  obtain ⟨m, rfl⟩ : ∃ m, n = m + 1 := ⟨n - 1, by omega⟩
  refine parse_assigned ?_ rfl ?_
  · simp [nested]
  · refine value_nested (k := 0) (Nat.zero_add _) ?_ hroom
    simp only [nested, List.length_append, List.length_replicate]
    omega

end Pagewright.Toml
