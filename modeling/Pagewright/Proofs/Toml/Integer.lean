/-
Documents that have no fault to tell. A reader of documents goes through its text from the front: what it leaves is an end
of what it was given (`Within`). It fails over an integer only where one is written with too many digits, so a document
fails in this way only if such a run of digits stands in it (`overlong_of_parse`). It fails for want of room only behind
brackets that stand in the document (`cramped_of_parse`).
-/
import Pagewright.Proofs.Number.Numeral
import Pagewright.Toml.Reader

namespace Pagewright.Toml

open Json (Value Members)

/-- digits, perhaps with underscores between them, of which there are too many for an integer -/
structure IsOverlong (ds : List Char) : Prop where
  digits : ∀ c ∈ ds, c.isDigit = true ∨ c = '_'
  long : Number.digitLimit < (ds.filter Char.isDigit).length

/-- too many digits for an integer stand somewhere in a text -/
def HasOverlong (s : List Char) : Prop := ∃ ds, IsOverlong ds ∧ ds <:+: s

theorem HasOverlong.of_suffix {s t : List Char} (h : HasOverlong t) (hts : t <:+ s) : HasOverlong s := by
  obtain ⟨ds, hds, hinfix⟩ := h
  exact ⟨ds, hds, hinfix.trans hts.isInfix⟩

def Bracket.char : Bracket → Char
  | .array => '['
  | .table => '\x7b'

/-- at some place of a text there is no room inside brackets that were opened before it, besides those that were open -/
def Cramped (room : Room) (opened : List Bracket) (s : List Char) : Prop :=
  ∃ inner before rest, s = before ++ rest ∧ (inner.reverse.map Bracket.char).Sublist before ∧
    room (inner ++ opened) rest = false

variable {room : Room} {opened : List Bracket}

theorem Cramped.of_suffix {s t : List Char} (h : Cramped room opened t) (hts : t <:+ s) : Cramped room opened s := by
  obtain ⟨inner, before, rest, rfl, hinner, hroom⟩ := h
  obtain ⟨start, rfl⟩ := hts
  exact ⟨inner, start ++ before, rest, (List.append_assoc _ _ _).symm, hinner.trans (List.sublist_append_right _ _), hroom⟩

/-- what is cramped behind one more bracket is so before it -/
theorem Cramped.of_cons {b : Bracket} {r : List Char} (h : Cramped room (b :: opened) r) :
    Cramped room opened (b.char :: r) := by
  obtain ⟨inner, before, rest, rfl, hinner, hroom⟩ := h
  refine ⟨inner ++ [b], b.char :: before, rest, rfl, ?_, by simpa using hroom⟩
  simpa using hinner

/-! ## Readers -/

section

variable {α β : Type} {s t : List Char} {rest : α → List Char} {rest' : β → List Char}

/-- a reader of a text within brackets: it leaves an end of the text, fails over an integer only if one in the text is too
long, and for want of room only if the text is cramped -/
structure Within (room : Room) (opened : List Bracket) (s : List Char) (rest : α → List Char) (r : Except Fault α) :
    Prop where
  leaves : ∀ a, r = .ok a → rest a <:+ s
  overlong : r = .error .hugeInteger → HasOverlong s
  cramped : r = .error .tooDeep → Cramped room opened s

theorem within_ok {a : α} (h : rest a <:+ s) : Within room opened s rest (.ok a) where
  leaves b hb := by
    cases hb
    exact h
  overlong h := by cases h
  cramped h := by cases h

theorem within_refuse : Within room opened s rest refuse where
  leaves a ha := by cases ha
  overlong h := by cases h
  cramped h := by cases h

theorem within_hugeInteger (h : HasOverlong s) : Within room opened s rest (.error .hugeInteger) where
  leaves a ha := by cases ha
  overlong _ := h
  cramped h := by cases h

theorem within_tooDeep (h : Cramped room opened s) : Within room opened s rest (.error .tooDeep) where
  leaves a ha := by cases ha
  overlong h := by cases h
  cramped _ := h

theorem Within.of_suffix {r : Except Fault α} (h : Within room opened t rest r) (hts : t <:+ s) :
    Within room opened s rest r where
  leaves a ha := (h.leaves a ha).trans hts
  overlong hf := (h.overlong hf).of_suffix hts
  cramped hf := (h.cramped hf).of_suffix hts

/-- a reader of what a bracket holds -/
theorem Within.of_cons {b : Bracket} {r : Except Fault α} (h : Within room (b :: opened) s rest r) :
    Within room opened (b.char :: s) rest r where
  leaves a ha := (h.leaves a ha).trans (List.suffix_cons _ _)
  overlong hf := (h.overlong hf).of_suffix (List.suffix_cons _ _)
  cramped hf := (h.cramped hf).of_cons

/-- a fault is a fault of all that is read after it -/
theorem within_error {r : Except Fault α} {f : Fault} (h : Within room opened s rest r) (hr : r = .error f) :
    Within room opened s rest' (.error f) := by
  subst hr
  cases f with
  | invalid => exact within_refuse
  | hugeInteger => exact within_hugeInteger (h.overlong rfl)
  | tooDeep => exact within_tooDeep (h.cramped rfl)

/-- one reader after the other -/
theorem Within.bind {x : Except Fault α} {f : α → Except Fault β} (hx : Within room opened s rest x)
    (hf : ∀ a, Within room opened (rest a) rest' (f a)) : Within room opened s rest' (x >>= f) := by
  cases x with
  | error e => exact within_error hx rfl
  | ok a => exact (hf a).of_suffix (hx.leaves a rfl)

theorem Within.map {x : Except Fault α} {g : α → β} (hx : Within room opened s rest x) (hg : ∀ a, rest' (g a) = rest a) :
    Within room opened s rest' (x.map g) := by
  cases x with
  | error e => exact within_error hx rfl
  | ok a => exact within_ok (hg a ▸ hx.leaves a rfl)

theorem within_orRefuse (x : Option α) : Within room opened s (fun _ => s) (orRefuse x) := by
  cases x with
  | none => exact within_refuse
  | some a => exact within_ok List.suffix_rfl

end

/-! ## Blanks, texts and keys -/

theorem skipGap_suffix (s : List Char) : skipGap s <:+ s := List.dropWhile_suffix _

theorem within_skipComment (s : List Char) : Within room opened s id (skipComment s) := by
  unfold skipComment
  split
  · split_ifs
    · exact within_refuse
    · exact within_ok ((List.dropWhile_suffix _).trans (List.suffix_cons _ _))
  · exact within_ok List.suffix_rfl

theorem within_skipLines (fuel : Nat) (s : List Char) : Within room opened s id (skipLines fuel s) := by
  induction fuel generalizing s with
  | zero => exact within_ok List.suffix_rfl
  | succ fuel ih =>
    refine ((within_skipComment _).of_suffix (List.dropWhile_suffix _)).bind fun r => ?_
    split_ifs
    · exact within_ok List.suffix_rfl
    · exact ih r

theorem within_codePoint (width : Nat) (s : List Char) : Within room opened s Prod.snd (codePoint width s) := by
  unfold codePoint
  dsimp only
  split_ifs
  · cases (s.take width).mapM Json.hexValue? with
    | none => exact within_refuse
    | some vs =>
      dsimp only
      split_ifs
      · exact within_ok (List.drop_suffix _ _)
      · exact within_refuse
  · exact within_refuse

theorem within_lineContinuation (s : List Char) : Within room opened s id (lineContinuation s) := by
  unfold lineContinuation
  have hgap := skipGap_suffix s
  split
  · exact within_ok List.nil_suffix
  · next r hr =>
    rw [hr] at hgap
    exact within_ok ((List.dropWhile_suffix _).trans ((List.suffix_cons _ _).trans hgap))
  · exact within_refuse

theorem within_escape (multiline : Bool) (s : List Char) : Within room opened s Prod.snd (escape multiline s) := by
  cases s with
  | nil => exact within_refuse
  | cons c r =>
    have hr : r <:+ c :: r := List.suffix_cons c r
    unfold escape
    dsimp only
    split_ifs
    · exact (within_lineContinuation _).bind fun t => within_ok List.suffix_rfl
    · exact ((within_codePoint 4 r).of_suffix hr).bind fun x => within_ok List.suffix_rfl
    · exact ((within_codePoint 8 r).of_suffix hr).bind fun x => within_ok List.suffix_rfl
    · cases shortEscape? c with
      | none => exact within_refuse
      | some ch => exact within_ok hr

theorem within_basicText (multiline : Bool) (fuel : Nat) (s read : List Char) :
    Within room opened s Prod.snd (basicText multiline fuel s read) := by
  induction fuel generalizing s read with
  | zero => exact within_refuse
  | succ fuel ih =>
    unfold basicText
    split
    · exact within_refuse
    · next r =>
      have hr : r <:+ '"' :: r := List.suffix_cons _ r
      split_ifs
      · exact within_ok hr
      · exact within_ok (List.drop_suffix _ _)
      · exact (ih r _).of_suffix hr
    · next r =>
      have hr : r <:+ '\\' :: r := List.suffix_cons _ r
      exact ((within_escape multiline r).of_suffix hr).bind fun x => ih _ _
    · next c r _ _ =>
      have hr : r <:+ c :: r := List.suffix_cons _ r
      split_ifs
      all_goals first | exact within_refuse | exact (ih r _).of_suffix hr

theorem within_lineText (s : List Char) : Within room opened s Prod.snd (lineText s) :=
  (within_basicText _ _ _ _).bind fun _ => within_ok List.suffix_rfl

theorem within_literalText (s : List Char) : Within room opened s Prod.snd (literalText s) := by
  unfold literalText
  dsimp only
  split_ifs
  · exact within_refuse
  · exact within_ok (List.drop_suffix _ _)

theorem suffix_of_splitAtText {part s body r : List Char} (h : splitAtText part s = some (body, r)) : r <:+ s := by
  induction s generalizing body with
  | nil =>
    unfold splitAtText at h
    split_ifs at h
    cases h
    exact List.suffix_rfl
  | cons c s ih =>
    unfold splitAtText at h
    split_ifs at h
    · cases h
      exact List.drop_suffix _ _
    · obtain ⟨p, hp, heq⟩ := Option.map_eq_some_iff.1 h
      cases heq
      exact (ih hp).trans (List.suffix_cons c s)

theorem within_longText (quote : Char) (s : List Char) : Within room opened s Prod.snd (longText quote s) := by
  unfold longText
  extract_lets t
  have hstart : t <:+ s := by
    unfold t
    split
    · exact List.suffix_cons _ _
    · exact List.suffix_rfl
  clear_value t
  refine Within.of_suffix (@Within.bind _ _ _ _ _ Prod.snd _ _ _ ?_ fun x => within_ok (List.drop_suffix _ _)) hstart
  split_ifs
  · exact within_basicText _ _ _ _
  · cases hsplit : splitAtText (List.replicate 3 quote) t with
    | none => exact within_refuse
    | some p =>
      obtain ⟨body, r⟩ := p
      dsimp only
      split_ifs
      · exact within_refuse
      · exact within_ok (suffix_of_splitAtText hsplit)

theorem within_keyPart (s : List Char) : Within room opened s Prod.snd (keyPart s) := by
  cases s with
  | nil => exact within_refuse
  | cons c r =>
    have hr : r <:+ c :: r := List.suffix_cons c r
    unfold keyPart
    dsimp only
    split_ifs
    · exact within_ok (List.dropWhile_suffix _)
    · exact (within_literalText r).of_suffix hr
    · exact (within_lineText r).of_suffix hr
    · exact within_refuse

theorem within_key (fuel : Nat) (s : List Char) : Within room opened s Prod.snd (key fuel s) := by
  induction fuel generalizing s with
  | zero => exact within_refuse
  | succ fuel ih =>
    refine (within_keyPart s).bind fun x => ?_
    obtain ⟨part, r⟩ := x
    have hgap := skipGap_suffix r
    dsimp only
    split
    · next t ht =>
      rw [ht] at hgap
      have hend : skipGap t <:+ r := (skipGap_suffix t).trans ((List.suffix_cons _ _).trans hgap)
      exact ((ih _).of_suffix hend).bind fun x => within_ok List.suffix_rfl
    · exact within_ok hgap

/-! ## Numbers -/

/-- digits, with at most one underscore between neighbours -/
inductive IsRun : List Char → Prop
  | one {c : Char} (hc : c.isDigit = true) : IsRun [c]
  | cons {c : Char} {ds : List Char} (hc : c.isDigit = true) (h : IsRun ds) : IsRun (c :: ds)
  | joined {c : Char} {ds : List Char} (hc : c.isDigit = true) (h : IsRun ds) : IsRun (c :: '_' :: ds)

namespace IsRun

variable {ds : List Char}

theorem exists_cons (h : IsRun ds) : ∃ c r, ds = c :: r ∧ c.isDigit = true := by
  cases h with
  | one hc => exact ⟨_, _, rfl, hc⟩
  | cons hc _ => exact ⟨_, _, rfl, hc⟩
  | joined hc _ => exact ⟨_, _, rfl, hc⟩

theorem digits (h : IsRun ds) : ∀ c ∈ ds, c.isDigit = true ∨ c = '_' := by
  induction h with
  | one hc => exact List.forall_mem_singleton.2 (Or.inl hc)
  | cons hc _ ih => exact List.forall_mem_cons.2 ⟨Or.inl hc, ih⟩
  | joined hc _ ih => exact List.forall_mem_cons.2 ⟨Or.inl hc, List.forall_mem_cons.2 ⟨Or.inr rfl, ih⟩⟩

theorem dropUnderscores_eq (h : IsRun ds) : Number.dropUnderscores ds = some (ds.filter Char.isDigit) := by
  induction h with
  | one hc => simp [Number.dropUnderscores, hc]
  | @cons c ds hc h ih =>
    obtain ⟨d, r, rfl, hd⟩ := h.exists_cons
    have hd : d ≠ '_' := by
      rintro rfl
      cases hd
    rw [List.filter_cons_of_pos hc]
    simp [Number.dropUnderscores, hc, hd, ih]
  | joined hc _ ih =>
    rw [List.filter_cons_of_pos hc, List.filter_cons_of_neg (by decide)]
    simp [Number.dropUnderscores, hc, ih]

/-- a run is refused as an integer, with or without a sign, only if it has too many digits -/
theorem overlong_of_readInt? (h : IsRun ds) {sign : List Char} (hsign : sign = [] ∨ sign = ['+'] ∨ sign = ['-'])
    (hnone : Number.readInt? (sign ++ ds) = none) : IsOverlong ds := by
  have hrange : ∀ c ∈ sign ++ ds, 0x20 < c.toNat ∧ c.toNat < 0x7F := by
    refine List.forall_mem_append.2 ⟨?_, fun c hc => ?_⟩
    · rcases hsign with rfl | rfl | rfl
      · exact List.forall_mem_nil _
      · exact List.forall_mem_singleton.2 (by decide)
      · exact List.forall_mem_singleton.2 (by decide)
    · rcases h.digits c hc with hd | rfl
      · have := Number.numeral_range (Or.inl hd)
        omega
      · decide
  have hsplit : (Number.splitSign (sign ++ ds)).2 = ds := by
    rcases hsign with rfl | rfl | rfl
    · obtain ⟨c, r, rfl, hc⟩ := h.exists_cons
      rw [List.nil_append, Number.splitSign_digit hc]
    · rfl
    · rfl
  refine ⟨h.digits, ?_⟩
  by_contra hlong
  simp [Number.readInt?, Number.plainNumeral_of_range hrange, hsplit, h.dropUnderscores_eq, hlong] at hnone

end IsRun

theorem digitsLength_ne_zero {c : Char} (hc : c.isDigit = true) (r : List Char) :
    digitsLength Char.isDigit (c :: r) ≠ 0 := by
  cases r with
  | nil => simp [digitsLength, hc]
  | cons d r =>
    by_cases hd : d = '_'
    · cases r with
      | nil => simp [digitsLength, hc, hd]
      | cons e r =>
        by_cases he : e.isDigit = true
        · simp [digitsLength, hc, hd, he]
        · simp [digitsLength, hc, hd, he]
    · simp [digitsLength, hc, hd]

/-- what counts as the digits of a number is a run of digits -/
theorem isRun_digitsLength {s : List Char} (h : digitsLength Char.isDigit s ≠ 0) :
    IsRun (s.take (digitsLength Char.isDigit s)) := by
  fun_induction digitsLength Char.isDigit s with
  | case1 => exact absurd rfl h
  | case2 c hc => exact .one hc
  | case3 c hc => exact absurd rfl h
  | case4 c d r hc => exact absurd rfl h
  | case5 c hc e r he ih =>
    -- an underscore counts only with a digit behind it, which starts a run again
    rw [Nat.add_comm 2]
    exact .joined (by simpa using hc) (ih (digitsLength_ne_zero he r))
  | case6 c hc e r he => exact .one (by simpa using hc)
  | case7 c hc => exact .one (by simpa using hc)
  | case8 c d r hc hd ih =>
    rw [Nat.add_comm 1]
    by_cases hnext : digitsLength Char.isDigit (d :: r) = 0
    · rw [hnext]
      exact .one (by simpa using hc)
    · exact .cons (by simpa using hc) (ih hnext)

theorem signLength_cases (s : List Char) :
    s.take (signLength s) = [] ∨ s.take (signLength s) = ['+'] ∨ s.take (signLength s) = ['-'] := by
  cases s with
  | nil => exact Or.inl rfl
  | cons c r =>
    by_cases hplus : c = '+'
    · exact Or.inr (Or.inl (by simp [signLength, hplus]))
    · by_cases hminus : c = '-'
      · exact Or.inr (Or.inr (by simp [signLength, hminus]))
      · exact Or.inl (by simp [signLength, hplus, hminus])

theorem isRun_wholeLength {s : List Char} (h : wholeLength s ≠ 0) : IsRun (s.take (wholeLength s)) := by
  by_cases hzero : ∃ r, s = '0' :: r
  · obtain ⟨r, rfl⟩ := hzero
    exact .one rfl
  · have hwhole : wholeLength s = digitsLength Char.isDigit s := by
      unfold wholeLength
      split
      · exact absurd ⟨_, rfl⟩ hzero
      · rfl
    rw [hwhole] at h ⊢
    exact isRun_digitsLength h

theorem within_decimal? {s : List Char} {r : Except Fault (Value × List Char)} (h : decimal? s = some r) :
    Within room opened s Prod.snd r := by
  unfold decimal? at h
  extract_lets sign whole n fraction exponent length numeral at h
  split_ifs at h with hwhole hinteger
  -- only what has neither a fraction nor an exponent is an integer, and has a limit
  · obtain rfl := Option.some.inj h
    cases hread : Number.readInt? numeral with
    | some i => exact within_ok (List.drop_suffix _ _)
    | none =>
      have hnumeral : numeral = s.take sign ++ (s.drop sign).take whole := by
        have hlength : length = sign + whole := by omega
        show s.take length = _
        rw [hlength, List.take_add]
      rw [hnumeral] at hread
      have hlong := (isRun_wholeLength hwhole).overlong_of_readInt? (signLength_cases s) hread
      exact within_hugeInteger ⟨_, hlong, (List.take_prefix _ _).isInfix.trans (List.drop_suffix _ _).isInfix⟩
  · obtain rfl := Option.some.inj h
    cases Number.readDecimal? numeral with
    | some x => exact within_ok (List.drop_suffix _ _)
    | none => exact within_refuse

theorem suffix_of_basedInt? {s : List Char} {r : Value × List Char} (h : basedInt? s = some r) : r.2 <:+ s := by
  unfold basedInt? at h
  split at h
  · next letter t =>
    cases hbase : baseOf? letter with
    | none => simp [hbase] at h
    | some base =>
      simp only [hbase] at h
      split_ifs at h
      cases h
      calc t.drop (digitsLength (isDigitOf base) t)
        _ <:+ t := List.drop_suffix _ _
        _ <:+ letter :: t := List.suffix_cons _ _
        _ <:+ '0' :: letter :: t := List.suffix_cons _ _
  · cases h

theorem suffix_of_wordNumber? {s : List Char} {r : Value × List Char} (h : wordNumber? s = some r) : r.2 <:+ s := by
  obtain ⟨w, -, rfl⟩ := Option.map_eq_some_iff.1 h
  exact List.drop_suffix _ _

/-! ## Dates and times -/

theorem suffix_of_fixedDigits? {width n : Nat} {s r : List Char} (h : fixedDigits? width s = some (n, r)) : r <:+ s := by
  unfold fixedDigits? at h
  dsimp only at h
  split_ifs at h
  cases h
  exact List.drop_suffix _ _

theorem suffix_of_expectChar? {c : Char} {s r : List Char} (h : expectChar? c s = some r) : r <:+ s := by
  cases s with
  | nil => cases h
  | cons d s =>
    unfold expectChar? at h
    dsimp only at h
    split_ifs at h
    cases h
    exact List.suffix_cons d _

theorem suffix_of_upTo? {last n : Nat} {s r : List Char} (h : upTo? last s = some (n, r)) : r <:+ s := by
  obtain ⟨x, hx, h⟩ := Option.bind_eq_some_iff.1 h
  dsimp only at h
  split_ifs at h
  cases h
  exact suffix_of_fixedDigits? hx

theorem afterFraction_suffix (s : List Char) : afterFraction s <:+ s := by
  unfold afterFraction
  split
  · split_ifs
    · exact List.suffix_rfl
    · exact (List.dropWhile_suffix _).trans (List.suffix_cons _ _)
  · exact List.suffix_rfl

theorem suffix_of_afterTime? {s r : List Char} (h : afterTime? s = some r) : r <:+ s := by
  obtain ⟨hour, hhour, h⟩ := Option.bind_eq_some_iff.1 h
  obtain ⟨t₁, h₁, h⟩ := Option.bind_eq_some_iff.1 h
  obtain ⟨minute, hminute, h⟩ := Option.bind_eq_some_iff.1 h
  obtain ⟨t₂, h₂, h⟩ := Option.bind_eq_some_iff.1 h
  obtain ⟨second, hsecond, h⟩ := Option.bind_eq_some_iff.1 h
  obtain rfl := Option.some.inj h
  calc afterFraction second.2
    _ <:+ second.2 := afterFraction_suffix _
    _ <:+ t₂ := suffix_of_upTo? hsecond
    _ <:+ minute.2 := suffix_of_expectChar? h₂
    _ <:+ t₁ := suffix_of_upTo? hminute
    _ <:+ hour.2 := suffix_of_expectChar? h₁
    _ <:+ s := suffix_of_upTo? hhour

theorem getD_suffix {x : Option (List Char)} {s : List Char} (h : ∀ r, x = some r → r <:+ s) : x.getD s <:+ s := by
  cases x with
  | none => exact List.suffix_rfl
  | some r => exact h r rfl

theorem afterOffset_suffix (s : List Char) : afterOffset s <:+ s := by
  cases s with
  | nil => exact List.suffix_rfl
  | cons c r =>
    unfold afterOffset
    dsimp only
    split_ifs
    · exact List.suffix_cons c r
    · refine getD_suffix fun u hu => ?_
      obtain ⟨hour, hhour, hu⟩ := Option.bind_eq_some_iff.1 hu
      obtain ⟨t, ht, hu⟩ := Option.bind_eq_some_iff.1 hu
      obtain ⟨minute, hminute, hu⟩ := Option.bind_eq_some_iff.1 hu
      obtain rfl := Option.some.inj hu
      calc minute.2
        _ <:+ t := suffix_of_upTo? hminute
        _ <:+ hour.2 := suffix_of_expectChar? ht
        _ <:+ r := suffix_of_upTo? hhour
        _ <:+ c :: r := List.suffix_cons c r
    · exact List.suffix_rfl

theorem afterDate_suffix (s : List Char) : afterDate s <:+ s := by
  cases s with
  | nil => exact List.suffix_rfl
  | cons c r =>
    unfold afterDate
    dsimp only
    split_ifs
    · cases ht : afterTime? r with
      | none => exact List.suffix_rfl
      | some t => exact (afterOffset_suffix t).trans ((suffix_of_afterTime? ht).trans (List.suffix_cons c r))
    · exact List.suffix_rfl

theorem suffix_of_date? {s r : List Char} {day : Nat × Nat × Nat} (h : date? s = some (day, r)) : r <:+ s := by
  obtain ⟨year, hyear, h⟩ := Option.bind_eq_some_iff.1 h
  obtain ⟨t₁, h₁, h⟩ := Option.bind_eq_some_iff.1 h
  obtain ⟨month, hmonth, h⟩ := Option.bind_eq_some_iff.1 h
  obtain ⟨t₂, h₂, h⟩ := Option.bind_eq_some_iff.1 h
  obtain ⟨day', hday, h⟩ := Option.bind_eq_some_iff.1 h
  dsimp only at h
  split_ifs at h
  cases h
  calc day'.2
    _ <:+ t₂ := suffix_of_upTo? hday
    _ <:+ month.2 := suffix_of_expectChar? h₂
    _ <:+ t₁ := suffix_of_upTo? hmonth
    _ <:+ year.2 := suffix_of_expectChar? h₁
    _ <:+ s := suffix_of_fixedDigits? hyear

theorem within_moment? {s : List Char} {r : Except Fault (Value × List Char)} (h : moment? s = some r) :
    Within room opened s Prod.snd r := by
  unfold moment? at h
  cases hdate : date? s with
  | none =>
    simp only [hdate] at h
    obtain ⟨t, ht, rfl⟩ := Option.map_eq_some_iff.1 h
    exact within_ok (suffix_of_afterTime? ht)
  | some d =>
    obtain ⟨⟨year, month, day⟩, t⟩ := d
    simp only [hdate] at h
    obtain rfl := Option.some.inj h
    split_ifs
    · exact within_refuse
    · exact within_ok ((afterDate_suffix t).trans (suffix_of_date? hdate))

theorem within_scalar (s : List Char) : Within room opened s Prod.snd (scalar s) := by
  unfold scalar
  cases hmoment : moment? s with
  | some r => exact within_moment? hmoment
  | none =>
    cases hbased : basedInt? s with
    | some r => exact within_ok (suffix_of_basedInt? hbased)
    | none =>
      cases hdecimal : decimal? s with
      | some r => exact within_decimal? hdecimal
      | none =>
        cases hword : wordNumber? s with
        | some r => exact within_ok (suffix_of_wordNumber? hword)
        | none => exact within_refuse

/-! ## Values -/

/-- the readers of values, with fuel for some steps, are readers of their texts -/
structure ReadersWithin (room : Room) (fuel : Nat) : Prop where
  value : ∀ opened s, Within room opened s Prod.snd (value room opened fuel s)
  items : ∀ opened s read, Within room opened s Prod.snd (items room opened fuel s read)
  members : ∀ opened s read marks, Within room opened s Prod.snd (members room opened fuel s read marks)
  pair : ∀ opened s, Within room opened s Prod.snd (pair room opened fuel s)

/-- behind a bracket there is room to read on, or the text is cramped at once -/
theorem cramped_cons {b : Bracket} {r : List Char} (h : ¬room (b :: opened) r = true) :
    Cramped room opened (b.char :: r) :=
  ⟨[b], [b.char], r, rfl, List.Sublist.refl _, by simpa using h⟩

namespace ReadersWithin

variable {fuel : Nat} (h : ReadersWithin room fuel)

include h

theorem value_succ (opened : List Bracket) (s : List Char) :
    Within room opened s Prod.snd (Toml.value room opened (fuel + 1) s) := by
  cases s with
  | nil => exact within_refuse
  | cons c r =>
    have hr : r <:+ c :: r := List.suffix_cons c r
    have hdrop : ∀ n, (c :: r).drop n <:+ c :: r := fun n => List.drop_suffix _ _
    unfold Toml.value
    dsimp only
    split_ifs with _ _ _ _ _ _ hc hroom hc hroom
    · exact ((within_longText _ _).of_suffix (hdrop 3)).map fun _ => rfl
    · exact ((within_lineText r).of_suffix hr).map fun _ => rfl
    · exact ((within_longText _ _).of_suffix (hdrop 3)).map fun _ => rfl
    · exact ((within_literalText r).of_suffix hr).map fun _ => rfl
    · exact within_ok (hdrop 4)
    · exact within_ok (hdrop 5)
    · subst hc
      refine Within.of_cons (b := .array) ((within_skipLines _ r).bind fun t => ?_)
      split
      · exact within_ok (List.suffix_cons _ _)
      · exact h.items _ _ _
    · subst hc
      exact within_tooDeep (cramped_cons (b := .array) hroom)
    · subst hc
      have hgap := skipGap_suffix r
      refine Within.of_cons (b := .table) ?_
      split
      · next u hu =>
        rw [hu] at hgap
        exact within_ok ((List.suffix_cons _ _).trans hgap)
      · exact (h.members _ _ _ _).of_suffix hgap
    · subst hc
      exact within_tooDeep (cramped_cons (b := .table) hroom)
    · exact within_scalar _

theorem items_succ (opened : List Bracket) (s : List Char) (read : List Value) :
    Within room opened s Prod.snd (Toml.items room opened (fuel + 1) s read) := by
  unfold Toml.items
  refine (h.value opened s).bind fun x => ?_
  refine (within_skipLines _ x.2).bind fun t => ?_
  split
  · exact within_ok (List.suffix_cons _ _)
  · refine ((within_skipLines _ _).of_suffix (List.suffix_cons _ _)).bind fun w => ?_
    split
    · exact within_ok (List.suffix_cons _ _)
    · exact h.items _ _ _
  · exact within_refuse

theorem members_succ (opened : List Bracket) (s : List Char) (read : Members) (marks : Marks) :
    Within room opened s Prod.snd (Toml.members room opened (fuel + 1) s read marks) := by
  unfold Toml.members
  refine (h.pair opened s).bind fun x => ?_
  obtain ⟨⟨path, v⟩, r⟩ := x
  have hgap := skipGap_suffix r
  dsimp only
  by_cases hclosed : marks.isClosed path = true
  · rw [if_pos hclosed]
    exact within_refuse
  · rw [if_neg hclosed]
    refine (within_orRefuse _).bind fun read => ?_
    split
    · next u hu =>
      rw [hu] at hgap
      exact within_ok ((List.suffix_cons _ _).trans hgap)
    · next u hu =>
      rw [hu] at hgap
      exact (h.members _ _ _ _).of_suffix ((skipGap_suffix u).trans ((List.suffix_cons _ _).trans hgap))
    · exact within_refuse

theorem pair_succ (opened : List Bracket) (s : List Char) :
    Within room opened s Prod.snd (Toml.pair room opened (fuel + 1) s) := by
  unfold Toml.pair
  refine (within_key _ s).bind fun x => ?_
  obtain ⟨path, r⟩ := x
  dsimp only
  split
  · next t =>
    have ht : skipGap t <:+ '=' :: t := (skipGap_suffix t).trans (List.suffix_cons _ _)
    exact ((h.value _ _).of_suffix ht).bind fun _ => within_ok List.suffix_rfl
  · exact within_refuse

end ReadersWithin

theorem readersWithin (room : Room) (fuel : Nat) : ReadersWithin room fuel := by
  -- the readers call each other, always with less fuel, so one induction has to be about all of them
  induction fuel with
  | zero =>
    exact ⟨fun _ _ => within_refuse, fun _ _ _ => within_refuse, fun _ _ _ _ => within_refuse, fun _ _ => within_refuse⟩
  | succ fuel ih => exact ⟨ih.value_succ, ih.items_succ, ih.members_succ, ih.pair_succ⟩

/-! ## Documents -/

section

variable (d : Draft) (path : KeyPath) (s : List Char)

theorem within_addPair (v : Value) : Within room opened s (fun _ => s) (addPair d path v) := by
  unfold addPair
  dsimp only
  split_ifs
  · exact within_refuse
  · exact within_refuse
  · exact (within_orRefuse _).bind fun _ => within_ok List.suffix_rfl
  · exact (within_orRefuse _).bind fun _ => within_ok List.suffix_rfl

theorem within_openTable : Within room opened s (fun _ => s) (openTable d path) := by
  unfold openTable
  split_ifs
  · exact within_refuse
  · exact (within_orRefuse _).bind fun _ => within_ok List.suffix_rfl

theorem within_openItem : Within room opened s (fun _ => s) (openItem d path) := by
  unfold openItem
  split_ifs
  · exact within_refuse
  · cases path.getLast? with
    | none => exact within_refuse
    | some k => exact (within_orRefuse _).bind fun _ => within_ok List.suffix_rfl

theorem within_expectText (part : String) : Within room opened s id (expectText part s) := by
  unfold expectText
  split_ifs
  · exact within_ok (List.drop_suffix _ _)
  · exact within_refuse

theorem within_statement (c : Char) : Within room [] s Prod.snd (statement room d c s) := by
  have hhead : ∀ n, skipGap (s.drop n) <:+ s := fun n => (skipGap_suffix _).trans (List.drop_suffix _ _)
  unfold statement
  split_ifs
  · refine ((readersWithin room _).pair [] s).bind fun x => ?_
    exact (within_addPair d _ _ _).bind fun _ => within_ok (skipGap_suffix _)
  · refine ((within_key _ _).of_suffix (hhead 2)).bind fun x => ?_
    refine (within_openItem _ _ _).bind fun _ => ?_
    exact (within_expectText _ _).bind fun t => within_ok (skipGap_suffix t)
  · refine ((within_key _ _).of_suffix (hhead 1)).bind fun x => ?_
    refine (within_openTable _ _ _).bind fun _ => ?_
    exact (within_expectText _ _).bind fun t => within_ok (skipGap_suffix t)
  · exact within_ok List.suffix_rfl
  · exact within_refuse

end

theorem within_statements (fuel : Nat) (d : Draft) (s : List Char) :
    Within room [] s (fun _ => []) (statements room fuel d s) := by
  induction fuel generalizing d s with
  | zero => exact within_refuse
  | succ fuel ih =>
    have hgap := skipGap_suffix s
    unfold statements
    split
    · exact within_ok List.nil_suffix
    · next r hr =>
      rw [hr] at hgap
      exact (ih d r).of_suffix ((List.suffix_cons _ _).trans hgap)
    · next c r _ hr =>
      rw [hr] at hgap
      refine ((within_statement d (c :: r) c).of_suffix hgap).bind fun x => ?_
      refine (within_skipComment x.2).bind fun u => ?_
      split
      · exact within_ok List.nil_suffix
      · exact (ih _ _).of_suffix (List.suffix_cons _ _)
      · exact within_refuse

theorem prefix_of_joinLineEnds {ds s : List Char} (hds : '\n' ∉ ds) (h : ds <+: joinLineEnds s) : ds <+: s := by
  fun_induction joinLineEnds s generalizing ds with
  | case1 => exact h
  | case2 r ih =>
    -- the line end that two characters were joined to cannot be the first of `ds`
    rcases List.prefix_cons_iff.1 h with rfl | ⟨t, rfl, -⟩
    · exact List.nil_prefix
    · exact absurd List.mem_cons_self hds
  | case3 c r _ ih =>
    rcases List.prefix_cons_iff.1 h with rfl | ⟨t, rfl, ht⟩
    · exact List.nil_prefix
    · exact (List.prefix_cons_inj c).2 (ih (fun hmem => hds (List.mem_cons_of_mem c hmem)) ht)

/-- what stands together without a line end does so before line ends are joined -/
theorem infix_of_joinLineEnds {ds s : List Char} (hds : '\n' ∉ ds) (h : ds <:+: joinLineEnds s) : ds <:+: s := by
  induction s using joinLineEnds.induct with
  | case1 => exact h
  | case2 r ih =>
    rcases List.infix_cons_iff.1 h with hprefix | hinfix
    · exact (prefix_of_joinLineEnds (s := '\r' :: '\n' :: r) hds hprefix).isInfix
    · exact List.infix_cons (List.infix_cons (ih hinfix))
  | case3 c r hcr ih =>
    have hjoin : joinLineEnds (c :: r) = c :: joinLineEnds r := by
      rw [joinLineEnds]
      exact hcr
    rw [hjoin] at h
    rcases List.infix_cons_iff.1 h with hprefix | hinfix
    · rw [← hjoin] at hprefix
      exact (prefix_of_joinLineEnds hds hprefix).isInfix
    · exact List.infix_cons (ih hinfix)

/-- **Long integers.** A document fails over an integer only if more digits than an integer may have stand in it together. -/
theorem overlong_of_parse {s : String} (h : parse room s = .error .hugeInteger) : HasOverlong s.toList := by
  obtain ⟨ds, hds, hinfix⟩ := (within_statements _ _ _).overlong h
  refine ⟨ds, hds, infix_of_joinLineEnds (fun hmem => ?_) hinfix⟩
  rcases hds.digits _ hmem with hdigit | hunderscore
  · cases hdigit
  · cases hunderscore

/-- **Want of room.** A document fails for want of room only inside brackets that stand in it. -/
theorem cramped_of_parse {s : String} (h : parse room s = .error .tooDeep) : Cramped room [] (joinLineEnds s.toList) :=
  (within_statements _ _ _).cramped h

end Pagewright.Toml
