/-
Values are read back as they were written. A way to write values (`Writing`) is known by its parts: words for null and the
truth values, integers in decimal, texts that are read back wherever they stand, and lists and objects between brackets with
a comma and a blank between neighbours. Whatever is written so is read as the value it was written for, with the pairs of
halves in its texts joined (`Writing.reads`), if the value holds no number but integers that are not too long
(`Value.IsPlain`). The value itself comes back exactly when no high half in it stands right before a low one
(`joined_eq_self_iff`). On one line a value is read back (`parse_compact`) and holds printable characters only
(`Value.IsPlain.printable`).

The proof goes along the value. What is said of each part is that it is read whatever follows it, as long as that cannot be
taken for more of a number (`Delimited`), and with fuel for each of its characters.
-/
import Mathlib.Tactic
import Pagewright.Proofs.Json.Text
import Pagewright.Proofs.Number.Numeral

namespace Pagewright.Json

open Text (Half Point Wide)

/-- a value without numbers but integers of at most 4300 digits, and with each key of an object once -/
inductive Value.IsPlain : Value → Prop
  | null : IsPlain .null
  | bool (b : Bool) : IsPlain (.bool b)
  | int {n : Int} (h : (Nat.toDigits 10 n.natAbs).length ≤ 4300) : IsPlain (.int n)
  | text (w : Wide) : IsPlain (.text w)
  | array {vs : List Value} (h : ∀ v ∈ vs, IsPlain v) : IsPlain (.array vs)
  | object {ms : Members} (hkeys : (ms.map Prod.fst).Nodup) (h : ∀ m ∈ ms, IsPlain m.2) : IsPlain (.object ms)

/-! ## Pairs of halves -/

mutual

/-- a value in whose texts and keys the halves of a pair, where they are neighbours, have become its character. Of keys that
become the same, the last value counts. -/
def Value.joined : Value → Value
  | .text w => .text w.joined
  | .array vs => .array (joinedItems vs)
  | .object ms => .object (joinedMembers [] ms)
  | v => v

def joinedItems : List Value → List Value
  | [] => []
  | v :: vs => v.joined :: joinedItems vs

/-- members that are put to others, one after the other -/
def joinedMembers (before : Members) : Members → Members
  | [] => before
  | (k, v) :: ms => joinedMembers (before.put k.joined v.joined) ms

end

/-- the halves of a pair are neighbours somewhere in a value -/
inductive Value.HasPair : Value → Prop
  | text {w : Wide} (h : Text.HasPair w.points) : HasPair (.text w)
  | item {vs : List Value} {v : Value} (hv : v ∈ vs) (h : HasPair v) : HasPair (.array vs)
  | key {ms : Members} {m : Wide × Value} (hm : m ∈ ms) (h : Text.HasPair m.1.points) : HasPair (.object ms)
  | member {ms : Members} {m : Wide × Value} (hm : m ∈ ms) (h : HasPair m.2) : HasPair (.object ms)

theorem joinedItems_eq_map (vs : List Value) : joinedItems vs = vs.map Value.joined := by
  induction vs with
  | nil => rfl
  | cons v vs ih => rw [joinedItems, ih, List.map_cons]

/-- a fresh key goes to the end -/
theorem Members.put_eq_append {ms : Members} {key : Wide} (h : key ∉ ms.map Prod.fst) (v : Value) :
    ms.put key v = ms ++ [(key, v)] := by
  induction ms with
  | nil => rfl
  | cons m ms ih =>
    rw [List.map_cons, List.mem_cons, not_or] at h
    rw [Members.put, if_neg (Ne.symm h.1), ih h.2, List.cons_append]

/-- texts with a comma and a blank between neighbours -/
def commaJoined (us : List (List Char)) : List Char := List.intercalate [',', ' '] us

theorem commaJoined_singleton (u : List Char) : commaJoined [u] = u := by
  simp [commaJoined]

theorem commaJoined_cons (u : List Char) {us : List (List Char)} (h : us ≠ []) :
    commaJoined (u :: us) = u ++ ',' :: ' ' :: commaJoined us := by
  obtain ⟨u', us, rfl⟩ := List.exists_cons_of_ne_nil h
  simp [commaJoined, List.intercalate]

/-- joined texts start as the first of them does -/
theorem commaJoined_starts {c : Char} {r u : List Char} (hu : u = c :: r) (us : List (List Char)) :
    ∃ t, commaJoined (u :: us) = c :: t := by
  subst hu
  cases us with
  | nil => exact ⟨r, commaJoined_singleton _⟩
  | cons u' us => exact ⟨_, commaJoined_cons (c :: r) (List.cons_ne_nil u' us)⟩

/-- a key and its value, as they stand in an object -/
def memberText (w : Value → List Char) (m : Wide × Value) : List Char := w (.text m.1) ++ ':' :: ' ' :: w m.2

/-- a way to write values -/
structure Writing (w : Value → List Char) : Prop where
  null : w .null = "null".toList
  truth : ∀ b : Bool, w (.bool b) = (if b then "true" else "false").toList
  int : ∀ n, w (.int n) = (intText n).toList
  quoted : ∀ s, ∃ r, w (.text s) = '"' :: r
  text : ∀ s position rest more, readText ⟨position, w (.text s) ++ rest, more⟩ =
    .ok (s.joined, ⟨position + (w (.text s)).length, rest, more⟩)
  array : ∀ vs, w (.array vs) = '[' :: commaJoined (vs.map w) ++ [']']
  object : ∀ ms, w (.object ms) = '\x7b' :: commaJoined (ms.map (memberText w)) ++ ['\x7d']

/-! ## Places -/

namespace Place

/-- there are no blanks to pass -/
theorem skipSpaces_of_head {p : Place} {c : Char} {r : List Char} (h : p.rest = c :: r) (hc : isSpace c = false) :
    p.skipSpaces = p := by
  obtain ⟨position, rest, more⟩ := p
  cases h
  simp [skipSpaces, skip, hc]

theorem rest_skip {p : Place} {u r : List Char} (h : p.rest = u ++ r) : (p.skip u.length).rest = r := by
  simp [skip, h]

/-- from one place another one is reached that has so many characters ahead, and the same halves behind them -/
structure Reaches (p q : Place) (rest : List Char) : Prop where
  rest : q.rest = rest
  more : q.more = p.more

theorem reaches_skip {p : Place} {u r : List Char} (h : p.rest = u ++ r) : p.Reaches (p.skip u.length) r :=
  ⟨rest_skip h, rfl⟩

/-- the mark at the place that was reached is passed -/
theorem Reaches.skip {p q : Place} {c : Char} {r : List Char} (h : p.Reaches q (c :: r)) : p.Reaches (q.skip 1) r :=
  ⟨rest_skip (u := [c]) h.rest, h.more⟩

/-- a mark and one blank are passed -/
theorem rest_skip_blank {p : Place} {d c : Char} {r u : List Char} (h : p.rest = d :: ' ' :: u) (hu : u = c :: r)
    (hc : isSpace c = false) : (p.skip 1).skipSpaces.rest = u := by
  have hblank : isSpace ' ' = true := rfl
  simp [skipSpaces, skip, h, hu, hc, hblank]

end Place

/-- what may follow a value: nothing, a comma or a closing bracket -/
def Delimited (rest : List Char) : Prop := ∀ c ∈ rest.head?, c = ',' ∨ c = ']' ∨ c = '\x7d'

theorem delimited_nil : Delimited [] := by simp [Delimited]

theorem delimited_cons {c : Char} (h : c = ',' ∨ c = ']' ∨ c = '\x7d') (r : List Char) : Delimited (c :: r) := by
  simpa [Delimited] using h

/-- characters that are read as a value, whatever follows: they start with no blank and no closing bracket, and fuel for
each of them is enough -/
structure ReadsAs (u : List Char) (v : Value) : Prop where
  starts : ∃ c r, u = c :: r ∧ Place.isSpace c = false ∧ c ≠ ']'
  reads : ∀ (opened fuel : Nat) (p : Place) (rest : List Char), u.length < fuel → Delimited rest → p.rest = u ++ rest →
    ∃ q, readValue .endless opened fuel p = .ok (v, q) ∧ p.Reaches q rest

/-! ## Words and numbers -/

/-- what starts like no text, object or list is read as a word or a number -/
theorem readValue_plain {p : Place} {c : Char} {r : List Char} (hp : p.rest = c :: r) (hquote : c ≠ '"')
    (hbrace : c ≠ '\x7b') (hbracket : c ≠ '[') (opened fuel : Nat) :
    readValue .endless opened (fuel + 1) p = readPlain p := by
  have hhead : ∀ {d : Char} {t : List Char}, p.rest = d :: t → c = d := fun h => (List.cons.inj (hp.symm.trans h)).1
  rw [readValue]
  split
  · rename_i h
    exact absurd (hhead h) hquote
  · rename_i h
    exact absurd (hhead h) hbrace
  · rename_i h
    exact absurd (hhead h) hbracket
  · rfl

theorem readsAs_of_plain {u : List Char} {v : Value} {c : Char} {r : List Char} (hu : u = c :: r)
    (hspace : Place.isSpace c = false) (hquote : c ≠ '"') (hbrace : c ≠ '\x7b') (hbracket : c ≠ '[') (hclose : c ≠ ']')
    (h : ∀ (p : Place) (rest : List Char), Delimited rest → p.rest = u ++ rest →
      ∃ q, readPlain p = .ok (v, q) ∧ p.Reaches q rest) : ReadsAs u v := by
  refine ⟨⟨c, r, hu, hspace, hclose⟩, fun opened fuel p rest hfuel hrest hp => ?_⟩
  cases fuel with
  | zero => cases hfuel
  | succ fuel =>
    have hcons : p.rest = c :: (r ++ rest) := by rw [hp, hu, List.cons_append]
    rw [readValue_plain hcons hquote hbrace hbracket]
    exact h p rest hrest hp

/-- a word is read as what it stands for -/
theorem readPlain_word {p : Place} {s : String} {v : Value}
    (h : words.find? (fun x => p.startsWith x.1) = some (s, v)) {rest : List Char} (hp : p.rest = s.toList ++ rest) :
    ∃ q, readPlain p = .ok (v, q) ∧ p.Reaches q rest :=
  ⟨p.skip s.length, by rw [readPlain, h], Place.reaches_skip hp⟩

theorem readsAs_null : ReadsAs "null".toList .null := by
  refine readsAs_of_plain (c := 'n') (r := "ull".toList) rfl rfl (by decide) (by decide) (by decide) (by decide) ?_
  intro p rest _ hp
  refine readPlain_word (s := "null") ?_ hp
  simp [words, Place.startsWith, hp]

theorem readsAs_bool (b : Bool) : ReadsAs (if b then "true" else "false").toList (.bool b) := by
  cases b with
  | true =>
    refine readsAs_of_plain (c := 't') (r := "rue".toList) rfl rfl (by decide) (by decide) (by decide) (by decide) ?_
    intro p rest _ hp
    refine readPlain_word (s := "true") ?_ hp
    simp [words, Place.startsWith, hp]
  | false =>
    refine readsAs_of_plain (c := 'f') (r := "alse".toList) rfl rfl (by decide) (by decide) (by decide) (by decide) ?_
    intro p rest _ hp
    refine readPlain_word (s := "false") ?_ hp
    simp [words, Place.startsWith, hp]

/-- the digits of a number start with a zero only if there are no others -/
theorem eq_nil_of_toDigits_zero {n : Nat} {r : List Char} (h : Nat.toDigits 10 n = '0' :: r) : r = [] := by
  by_contra hr
  have hdigits : ∀ c ∈ '0' :: r, c.isDigit = true := by
    rw [← h]
    exact fun c hc => Nat.isDigit_of_mem_toDigits (by decide) (by decide) hc
  -- without the zero the digits write the same number
  have hvalue : Number.digitsValue r = n := by
    rw [← Number.digitsValue_toDigits n, h]
    rfl
  have hlength := Number.length_toDigits_digitsValue hr fun c hc => hdigits c (List.mem_cons_of_mem _ hc)
  rw [hvalue, h, List.length_cons] at hlength
  omega

theorem not_isDigit_of_delimited {rest : List Char} (h : Delimited rest) : rest.takeWhile Char.isDigit = [] := by
  cases rest with
  | nil => rfl
  | cons c r =>
    refine List.takeWhile_cons_of_neg ?_
    rcases h c rfl with rfl | rfl | rfl
    all_goals decide

/-- the whole part of an integer is all of it -/
theorem wholeLength_digits {sign ds rest : List Char} (hsign : sign = [] ∨ sign = ['-']) (hne : ds ≠ [])
    (hdigits : ∀ c ∈ ds, c.isDigit = true) (hzero : ∀ r, ds = '0' :: r → r = []) (hrest : Delimited rest) :
    wholeLength (sign ++ ds ++ rest) = sign.length + ds.length := by
  obtain ⟨c, r, rfl⟩ := List.exists_cons_of_ne_nil hne
  obtain ⟨hc, hr⟩ := List.forall_mem_cons.1 hdigits
  have hminus : c ≠ '-' := by
    rintro rfl
    exact absurd hc (by decide)
  have hall : (r ++ rest).takeWhile Char.isDigit = r := by
    rw [List.takeWhile_append_of_pos hr, not_isDigit_of_delimited hrest, List.append_nil]
  by_cases hc0 : c = '0'
  · subst hc0
    rw [hzero r rfl]
    rcases hsign with rfl | rfl
    · simp [wholeLength]
    · simp [wholeLength]
  · rcases hsign with rfl | rfl
    · simp [wholeLength, hminus, hc, hall, Nat.add_comm]
    · simp [wholeLength, hc, hall]
      omega

theorem no_decimals {rest : List Char} (h : Delimited rest) : fractionLength rest = 0 ∧ exponentLength rest = 0 := by
  cases rest with
  | nil => exact ⟨rfl, rfl⟩
  | cons c r =>
    rcases h c rfl with rfl | rfl | rfl
    all_goals exact ⟨rfl, rfl⟩

theorem toList_intText (n : Int) : (intText n).toList = (if n < 0 then ['-'] else []) ++ Nat.toDigits 10 n.natAbs := by
  unfold intText
  rw [Nat.toString_eq_ofList_toDigits]
  split_ifs
  · rw [String.toList_append, String.toList_ofList, String.toList_ofList]
  · rw [String.toList_ofList, List.nil_append]

/-- an integer of not too many digits is read back from its sign and digits -/
theorem readInt?_intText {n : Int} (h : (Nat.toDigits 10 n.natAbs).length ≤ 4300) :
    Number.readInt? (intText n).toList = some n := by
  have hnumeral := Number.isNumeral_toDigits n.natAbs
  have hpoint : '.' ∉ Nat.toDigits 10 n.natAbs := fun hmem =>
    absurd (Nat.isDigit_of_mem_toDigits (by decide) (by decide) hmem) (by decide)
  have hshort : ¬Number.digitLimit < (Nat.toDigits 10 n.natAbs).length := Nat.not_lt.2 h
  rw [toList_intText]
  split_ifs with hneg
  · rw [List.singleton_append, hnumeral.readInt?_minus hpoint, if_neg hshort, Number.digitsValue_toDigits]
    congr 1
    omega
  · rw [List.nil_append, hnumeral.readInt? hpoint, if_neg hshort, Number.digitsValue_toDigits]
    congr 1
    omega

/-- no word starts like a number -/
theorem words_find?_number {p : Place} {sign : List Char} {c : Char} {r : List Char} (hsign : sign = [] ∨ sign = ['-'])
    (hc : c.isDigit = true) (hp : p.rest = sign ++ c :: r) : words.find? (fun x => p.startsWith x.1) = none := by
  have hne : ∀ d : Char, d.isDigit = false → d ≠ c := by
    rintro d hd rfl
    simp [hc] at hd
  rcases hsign with rfl | rfl
  · simp [words, Place.startsWith, hp, hne 'n' (by decide), hne 't' (by decide), hne 'f' (by decide), hne 'N' (by decide),
      hne 'I' (by decide), hne '-' (by decide)]
  · simp [words, Place.startsWith, hp, hne 'I' (by decide)]

theorem readsAs_int {n : Int} (h : (Nat.toDigits 10 n.natAbs).length ≤ 4300) : ReadsAs (intText n).toList (.int n) := by
  have hdigits : ∀ c ∈ Nat.toDigits 10 n.natAbs, c.isDigit = true := fun c hc =>
    Nat.isDigit_of_mem_toDigits (by decide) (by decide) hc
  obtain ⟨c, r, hcons⟩ := List.exists_cons_of_length_pos (Nat.length_toDigits_pos (b := 10) (n := n.natAbs))
  have hc : c.isDigit = true := hdigits c (by simp [hcons])
  generalize hsign : (if n < 0 then ['-'] else [] : List Char) = sign
  have hsigns : sign = [] ∨ sign = ['-'] := by
    rw [← hsign]
    split_ifs <;> simp
  have htext : (intText n).toList = sign ++ c :: r := by rw [toList_intText, hsign, hcons]
  have hread : ∀ (p : Place) (rest : List Char), Delimited rest → p.rest = (intText n).toList ++ rest →
      ∃ q, readPlain p = .ok (.int n, q) ∧ p.Reaches q rest := by
    intro p rest hrest hp
    have hwhole : wholeLength p.rest = (intText n).toList.length := by
      rw [hp, htext, wholeLength_digits hsigns (List.cons_ne_nil c r) (hcons ▸ hdigits) (fun _ he =>
        eq_nil_of_toDigits_zero (hcons.trans he)) hrest, List.length_append]
    have hpos : (intText n).toList.length ≠ 0 := by simp [htext]
    obtain ⟨hfraction, hexponent⟩ := no_decimals hrest
    refine ⟨p.skip (intText n).toList.length, ?_, Place.reaches_skip hp⟩
    rw [readPlain, words_find?_number hsigns hc (by rw [hp, htext, List.append_assoc]; rfl), readNumber, hwhole]
    simp [hpos, hp, hfraction, hexponent, readInt?_intText h]
  have hstart : ∀ d : Char, d.isDigit = false → c ≠ d := by
    rintro d hd rfl
    simp [hc] at hd
  rcases hsigns with rfl | rfl
  · have hspace : Place.isSpace c = false := by
      simp [Place.isSpace, hstart ' ' (by decide), hstart '\t' (by decide), hstart '\n' (by decide), hstart '\r' (by decide)]
    exact readsAs_of_plain htext hspace (hstart _ (by decide)) (hstart _ (by decide)) (hstart _ (by decide))
      (hstart _ (by decide)) hread
  · exact readsAs_of_plain (c := '-') (r := c :: r) htext (by decide) (by decide) (by decide) (by decide) (by decide) hread

/-! ## Texts, lists and objects -/

namespace Writing

variable {w : Value → List Char}

theorem readsAs_text (hw : Writing w) (s : Wide) : ReadsAs (w (.text s)) (.text s.joined) := by
  obtain ⟨r, hr⟩ := hw.quoted s
  refine ⟨⟨'"', r, hr, by decide, by decide⟩, fun opened fuel p rest hfuel _ hp => ?_⟩
  obtain ⟨position, ahead, more⟩ := p
  obtain rfl : ahead = w (.text s) ++ rest := hp
  cases fuel with
  | zero => cases hfuel
  | succ fuel =>
    have hread := hw.text s position rest more
    refine ⟨⟨position + (w (.text s)).length, rest, more⟩, ?_, rfl, rfl⟩
    rw [readValue]
    simp only [hr, List.cons_append] at hread ⊢
    rw [hread]

/-- the items of a list are read up to its bracket -/
theorem readItems_listed {vs : List Value} (hvs : ∀ v ∈ vs, ReadsAs (w v) v.joined) (hne : vs ≠ []) (read : List Value)
    {opened fuel : Nat} {p : Place} {rest : List Char} (hfuel : (commaJoined (vs.map w)).length + 1 < fuel)
    (hp : p.rest = commaJoined (vs.map w) ++ ']' :: rest) :
    ∃ q, readItems .endless opened fuel p read = .ok (.array (read.reverse ++ vs.map Value.joined), q) ∧
      p.Reaches q rest := by
  induction vs generalizing fuel p read with
  | nil => exact absurd rfl hne
  | cons v vs ih =>
    obtain ⟨hv, hvs⟩ := List.forall_mem_cons.1 hvs
    cases fuel with
    | zero => cases hfuel
    | succ fuel =>
      cases vs with
      | nil =>
        rw [List.map_cons, List.map_nil, commaJoined_singleton] at hfuel hp
        obtain ⟨q, hq, hreached⟩ := hv.reads opened fuel p (']' :: rest) (by omega) (delimited_cons (by simp) _) hp
        refine ⟨q.skip 1, ?_, hreached.skip⟩
        rw [readItems, hq]
        simp [Place.skipSpaces_of_head hreached.rest (by decide), hreached.rest]
      | cons v' vs =>
        rw [List.map_cons, commaJoined_cons _ (by simp)] at hfuel hp
        simp only [List.length_append, List.length_cons, List.append_assoc, List.cons_append] at hfuel hp
        obtain ⟨q, hq, hreached⟩ := hv.reads opened fuel p _ (by omega) (delimited_cons (by simp) _) hp
        obtain ⟨c, r, hstart, hc, -⟩ := (hvs v' List.mem_cons_self).starts
        obtain ⟨t, ht⟩ := commaJoined_starts hstart (vs.map w)
        have hnext := Place.rest_skip_blank hreached.rest (congrArg (· ++ ']' :: rest) ht) hc
        have hless : (commaJoined ((v' :: vs).map w)).length + 1 < fuel := by omega
        obtain ⟨q', hq', hend⟩ := ih hvs (List.cons_ne_nil v' vs) (v.joined :: read) hless hnext
        refine ⟨q', ?_, hend.rest, hend.more.trans hreached.more⟩
        rw [readItems, hq]
        simp only [Place.skipSpaces_of_head hreached.rest (by decide), hreached.rest]
        simpa using hq'

/-- one member of an object is read, and either the object ends behind it or the next one starts behind a comma -/
theorem readMembers_member (hw : Writing w) {key : Wide} {v x : Value} (hv : ReadsAs (w v) x) (read : Members)
    {opened fuel : Nat} {p : Place} {d : Char} {rest : List Char} (hfuel : (w v).length < fuel) (hd : d = ',' ∨ d = '\x7d')
    (hp : p.rest = memberText w (key, v) ++ d :: rest) :
    ∃ q : Place, p.Reaches q (d :: rest) ∧
      (d = '\x7d' →
        readMembers .endless opened (fuel + 1) p read = .ok (.object (read.put key.joined x), q.skip 1)) ∧
      (d = ',' → readMembers .endless opened (fuel + 1) p read =
        readMembers .endless opened fuel (q.skip 1).skipSpaces (read.put key.joined x)) := by
  obtain ⟨r, hr⟩ := hw.quoted key
  obtain ⟨c, t, hstart, hc, -⟩ := hv.starts
  -- the place of the colon, then that of the value, then that behind the value
  obtain ⟨colon, hkey, hcolon⟩ : ∃ q : Place, readText p = .ok (key.joined, q) ∧
      p.Reaches q (':' :: ' ' :: (w v ++ d :: rest)) := by
    obtain ⟨position, ahead, more⟩ := p
    obtain rfl : ahead = w (.text key) ++ ':' :: ' ' :: (w v ++ d :: rest) := by simpa [memberText] using hp
    exact ⟨_, hw.text key position _ more, rfl, rfl⟩
  have hvalue : (colon.skip 1).skipSpaces.rest = w v ++ d :: rest :=
    Place.rest_skip_blank hcolon.rest (congrArg (· ++ d :: rest) hstart) hc
  obtain ⟨q, hq, hreached⟩ := hv.reads opened fuel _ _ hfuel (delimited_cons (by tauto) rest) hvalue
  have hquote : p.rest = '"' :: (r ++ ':' :: ' ' :: (w v ++ d :: rest)) := by simpa [memberText, hr] using hp
  have hcolon' : colon.skipSpaces = colon := Place.skipSpaces_of_head hcolon.rest (by decide)
  have hq' : q.skipSpaces = q := Place.skipSpaces_of_head hreached.rest (by rcases hd with rfl | rfl <;> rfl)
  refine ⟨q, ⟨hreached.rest, hreached.more.trans hcolon.more⟩, ?_, ?_⟩
  · rintro rfl
    rw [readMembers]
    simp only [hquote, hkey, hcolon', hcolon.rest, hq, hq', hreached.rest]
  · rintro rfl
    rw [readMembers]
    simp only [hquote, hkey, hcolon', hcolon.rest, hq, hq', hreached.rest]

/-- the members of an object are read up to its brace -/
theorem readMembers_listed (hw : Writing w) {ms : Members} (hms : ∀ m ∈ ms, ReadsAs (w m.2) m.2.joined) (hne : ms ≠ [])
    (read : Members) {opened fuel : Nat} {p : Place} {rest : List Char}
    (hfuel : (commaJoined (ms.map (memberText w))).length + 1 < fuel)
    (hp : p.rest = commaJoined (ms.map (memberText w)) ++ '\x7d' :: rest) :
    ∃ q, readMembers .endless opened fuel p read = .ok (.object (joinedMembers read ms), q) ∧ p.Reaches q rest := by
  induction ms generalizing fuel p read with
  | nil => exact absurd rfl hne
  | cons m ms ih =>
    obtain ⟨key, v⟩ := m
    obtain ⟨hv, hms⟩ := List.forall_mem_cons.1 hms
    have hlength : (w v).length < (memberText w (key, v)).length := by
      simp only [memberText, List.length_append, List.length_cons]
      omega
    cases fuel with
    | zero => cases hfuel
    | succ fuel =>
      cases ms with
      | nil =>
        rw [List.map_cons, List.map_nil, commaJoined_singleton] at hfuel hp
        have hless : (w v).length < fuel := by omega
        obtain ⟨q, hreached, hlast, -⟩ := readMembers_member hw hv read hless (.inr rfl) hp
        exact ⟨q.skip 1, hlast rfl, hreached.skip⟩
      | cons m' ms =>
        rw [List.map_cons, commaJoined_cons _ (by simp)] at hfuel hp
        simp only [List.length_append, List.length_cons, List.append_assoc, List.cons_append] at hfuel hp
        have hless : (w v).length < fuel := by omega
        obtain ⟨q, hreached, -, hmore⟩ := readMembers_member hw hv read hless (.inl rfl) hp
        obtain ⟨r, hr⟩ := hw.quoted m'.1
        obtain ⟨t, ht⟩ := commaJoined_starts (u := memberText w m') (by rw [memberText, hr]; rfl) (ms.map (memberText w))
        have hnext := Place.rest_skip_blank hreached.rest (congrArg (· ++ '\x7d' :: rest) ht) (by decide)
        have hleft : (commaJoined ((m' :: ms).map (memberText w))).length + 1 < fuel := by omega
        obtain ⟨q', hq', hend⟩ := ih hms (List.cons_ne_nil m' ms) _ hleft hnext
        exact ⟨q', (hmore rfl).trans hq', hend.rest, hend.more.trans hreached.more⟩

theorem readsAs_array (hw : Writing w) {vs : List Value} (hvs : ∀ v ∈ vs, ReadsAs (w v) v.joined) :
    ReadsAs (w (.array vs)) (Value.array vs).joined := by
  rw [hw.array, Value.joined, joinedItems_eq_map]
  refine ⟨⟨'[', _, rfl, by decide, by decide⟩, fun opened fuel p rest hfuel _ hp => ?_⟩
  simp only [List.length_cons, List.length_append, List.length_nil] at hfuel
  replace hp : p.rest = '[' :: (commaJoined (vs.map w) ++ ']' :: rest) := by simpa using hp
  have hinside : p.Reaches (p.skip 1) (commaJoined (vs.map w) ++ ']' :: rest) := Place.reaches_skip (u := ['[']) hp
  cases fuel with
  | zero => cases hfuel
  | succ fuel =>
    rw [readValue]
    simp only [hp, Room.endless, if_true]
    cases vs with
    | nil =>
      have hspaces : (p.skip 1).skipSpaces = p.skip 1 := Place.skipSpaces_of_head hinside.rest (by decide)
      refine ⟨(p.skip 1).skip 1, ?_, Place.Reaches.skip (c := ']') hinside⟩
      simp only [hspaces, hinside.rest, List.map_nil, commaJoined, List.intercalate, List.intersperse, List.flatten_nil,
        List.nil_append]
    | cons v vs =>
      obtain ⟨c, r, hstart, hc, hclose⟩ := (hvs v List.mem_cons_self).starts
      obtain ⟨t, ht⟩ := commaJoined_starts hstart (vs.map w)
      have hhead : (p.skip 1).rest = c :: (t ++ ']' :: rest) := hinside.rest.trans (congrArg (· ++ ']' :: rest) ht)
      rw [Place.skipSpaces_of_head hhead hc]
      split
      · rename_i h
        exact absurd (List.cons.inj (hhead.symm.trans h)).1 hclose
      · have hless : (commaJoined ((v :: vs).map w)).length + 1 < fuel := by omega
        obtain ⟨q, hq, hend⟩ := readItems_listed hvs (List.cons_ne_nil v vs) [] hless hinside.rest
        exact ⟨q, hq, hend.rest, hend.more⟩

theorem readsAs_object (hw : Writing w) {ms : Members} (hms : ∀ m ∈ ms, ReadsAs (w m.2) m.2.joined) :
    ReadsAs (w (.object ms)) (Value.object ms).joined := by
  rw [hw.object, Value.joined]
  refine ⟨⟨'\x7b', _, rfl, by decide, by decide⟩, fun opened fuel p rest hfuel _ hp => ?_⟩
  simp only [List.length_cons, List.length_append, List.length_nil] at hfuel
  replace hp : p.rest = '\x7b' :: (commaJoined (ms.map (memberText w)) ++ '\x7d' :: rest) := by simpa using hp
  have hinside : p.Reaches (p.skip 1) (commaJoined (ms.map (memberText w)) ++ '\x7d' :: rest) :=
    Place.reaches_skip (u := ['\x7b']) hp
  cases fuel with
  | zero => cases hfuel
  | succ fuel =>
    rw [readValue]
    simp only [hp, Room.endless, if_true]
    cases ms with
    | nil =>
      have hspaces : (p.skip 1).skipSpaces = p.skip 1 := Place.skipSpaces_of_head hinside.rest (by decide)
      refine ⟨(p.skip 1).skip 1, ?_, Place.Reaches.skip (c := '\x7d') hinside⟩
      simp only [hspaces, hinside.rest, List.map_nil, commaJoined, List.intercalate, List.intersperse, List.flatten_nil,
        List.nil_append, joinedMembers]
    | cons m ms =>
      obtain ⟨r, hr⟩ := hw.quoted m.1
      obtain ⟨t, ht⟩ := commaJoined_starts (u := memberText w m) (by rw [memberText, hr]; rfl) (ms.map (memberText w))
      have hhead : (p.skip 1).rest = '"' :: (t ++ '\x7d' :: rest) :=
        hinside.rest.trans (congrArg (· ++ '\x7d' :: rest) ht)
      rw [Place.skipSpaces_of_head hhead (by decide)]
      split
      · rename_i h
        exact absurd (List.cons.inj (hhead.symm.trans h)).1 (by decide)
      · have hless : (commaJoined ((m :: ms).map (memberText w))).length + 1 < fuel := by omega
        obtain ⟨q, hq, hend⟩ := readMembers_listed hw hms (List.cons_ne_nil m ms) [] hless hinside.rest
        exact ⟨q, hq, hend.rest, hend.more⟩

/-- **What is written is read back**, with the pairs of halves in it joined. -/
theorem reads (hw : Writing w) {v : Value} (hv : v.IsPlain) : ReadsAs (w v) v.joined := by
  induction hv with
  | null => exact hw.null ▸ readsAs_null
  | bool b => exact hw.truth b ▸ readsAs_bool b
  | int h => exact hw.int _ ▸ readsAs_int h
  | text s => exact hw.readsAs_text s
  | array _ ih => exact hw.readsAs_array ih
  | object _ _ ih => exact hw.readsAs_object ih

/-- a text that holds nothing but a written value is read as it -/
theorem parse_eq (hw : Writing w) {v : Value} (hv : v.IsPlain) {s : String} (hs : s.toList = w v) :
    parse s = .ok v.joined := by
  obtain ⟨c, r, hstart, hc, -⟩ := (hw.reads hv).starts
  have hplace : (Place.start s).rest = w v ++ [] := by rw [List.append_nil]; exact hs
  have hspaces : (Place.start s).skipSpaces = Place.start s :=
    Place.skipSpaces_of_head (hs.trans hstart) hc
  have hfuel : (w v).length < 2 * Wide.length s + 2 := by
    have hlength : Wide.length s = (w v).length := by simp [Wide.length, Wide.ofString, ← hs, String.length_toList]
    omega
  obtain ⟨q, hq, hend⟩ := (hw.reads hv).reads 0 _ _ [] hfuel delimited_nil hplace
  have hmore : q.more = [] := hend.more
  have hisEnd : q.skipSpaces.isEnd = true := by simp [Place.isEnd, Place.skipSpaces, Place.skip, hend.rest, hmore]
  simp only [parse, parseWithin, hspaces, hq, hisEnd, if_true]

end Writing

/-! ## Values on one line -/

theorem compactItems_eq_map (vs : List Value) : compactItems vs = vs.map Value.compact := by
  induction vs with
  | nil => rfl
  | cons v vs ih => rw [compactItems, ih, List.map_cons]

theorem compactMembers_eq_map (ms : Members) :
    compactMembers ms = ms.map fun m => encodeText m.1 ++ ": " ++ m.2.compact := by
  induction ms with
  | nil => rfl
  | cons m ms ih => rw [compactMembers, ih, List.map_cons]

theorem toList_enclosed (opening closing : String) (items : List String) :
    (enclosed opening closing items).toList = opening.toList ++ commaJoined (items.map String.toList) ++ closing.toList := by
  rw [enclosed, String.toList_append, String.toList_append, String.toList_intercalate]
  rfl

theorem toList_compact_array (vs : List Value) :
    (Value.array vs).compact.toList = '[' :: commaJoined (vs.map fun v => v.compact.toList) ++ [']'] := by
  rw [Value.compact, toList_enclosed, compactItems_eq_map, List.map_map]
  rfl

theorem toList_compact_object (ms : Members) :
    (Value.object ms).compact.toList =
      '\x7b' :: commaJoined (ms.map (memberText fun v => v.compact.toList)) ++ ['\x7d'] := by
  have hmember : String.toList ∘ (fun m : Wide × Value => encodeText m.1 ++ ": " ++ m.2.compact) =
      memberText fun v => v.compact.toList := by
    funext m
    simp [memberText, Value.compact]
  rw [Value.compact, toList_enclosed, compactMembers_eq_map, List.map_map, hmember]
  rfl

theorem writing_compact : Writing fun v => v.compact.toList where
  null := by rw [Value.compact]
  truth b := by cases b <;> rw [Value.compact] <;> rfl
  int n := by rw [Value.compact]
  quoted s := ⟨_, by rw [Value.compact, toList_encodeText]⟩
  text s position rest more := by
    simp only [Value.compact, toList_encodeText]
    refine readText_spelled ?_ position rest more
    rw [Wide.joined, Wide.points_ofPoints]
    exact (units_encoded s.points).spelled
  array := toList_compact_array
  object := toList_compact_object

/-- a plain value is read back from its line -/
theorem parse_compact {v : Value} (hv : v.IsPlain) : parse v.compact = .ok v.joined := writing_compact.parse_eq hv rfl

/-- a blank or a character that is seen, in ASCII -/
abbrev IsPrintable (c : Char) : Prop := 0x20 ≤ c.toNat ∧ c.toNat ≤ 0x7E

theorem printable_of_all {l : List Char} (h : (l.all fun c => decide (IsPrintable c)) = true) : ∀ c ∈ l, IsPrintable c :=
  fun c hc => of_decide_eq_true (List.all_eq_true.1 h c hc)

theorem printable_digitChar : ∀ k < 16, IsPrintable k.digitChar := by decide

theorem printable_unitEscape {n : Nat} (h : n < 0x10000) : ∀ c ∈ unitEscape n, IsPrintable c := by
  have hdigit : ∀ m, IsPrintable (m % 16).digitChar := fun m => printable_digitChar _ (Nat.mod_lt _ (by decide))
  have htop := printable_digitChar (n / 4096) (by omega)
  rw [unitEscape, hexadecimal_four h]
  simp only [List.cons_append, List.nil_append, List.forall_mem_cons]
  exact ⟨by decide, by decide, htop, hdigit _, hdigit _, hdigit _, List.forall_mem_nil _⟩

theorem printable_codePointEscape (c : Char) : ∀ d ∈ codePointEscape c.toNat, IsPrintable d := by
  have hvalid := toNat_valid c
  unfold codePointEscape
  split_ifs with h
  · exact printable_unitEscape h
  · exact List.forall_mem_append.2 ⟨printable_unitEscape (by omega), printable_unitEscape (by omega)⟩

theorem printable_encodeChar (c : Char) : ∀ d ∈ encodeChar c, IsPrintable d := by
  have hshort : ∀ d, IsPrintable d → ∀ e ∈ ['\\', d], IsPrintable e := fun d hd =>
    List.forall_mem_cons.2 ⟨by decide, List.forall_mem_singleton.2 hd⟩
  unfold encodeChar
  split_ifs with h₁ h₂ h₃ h₄ h₅ h₆ h₇ hself
  · exact hshort _ (by decide)
  · exact hshort _ (by decide)
  · exact hshort _ (by decide)
  · exact hshort _ (by decide)
  · exact hshort _ (by decide)
  · exact hshort _ (by decide)
  · exact hshort _ (by decide)
  · exact List.forall_mem_singleton.2 (by simpa using hself)
  · exact printable_codePointEscape c

theorem printable_encodePoint (p : Point) : ∀ d ∈ encodePoint p, IsPrintable d := by
  cases p with
  | char c => exact printable_encodeChar c
  | half h => exact printable_unitEscape (lt_unit h)

theorem printable_encodeText (s : Wide) : ∀ c ∈ (encodeText s).toList, IsPrintable c := by
  rw [encodeText, String.toList_ofList, List.forall_mem_append, List.forall_mem_append]
  refine ⟨⟨printable_of_all (by decide), fun c hc => ?_⟩, printable_of_all (by decide)⟩
  obtain ⟨p, -, hp⟩ := List.mem_flatMap.1 hc
  exact printable_encodePoint p c hp

theorem printable_intText (n : Int) : ∀ c ∈ (intText n).toList, IsPrintable c := by
  rw [toList_intText, List.forall_mem_append]
  refine ⟨?_, fun c hc => ?_⟩
  · split_ifs
    · exact printable_of_all (by decide)
    · exact printable_of_all (by decide)
  · have hdigit := Char.isDigit_iff_toNat.1 (Nat.isDigit_of_mem_toDigits (by decide) (by decide) hc)
    exact ⟨Nat.le_trans (by decide) hdigit.1, Nat.le_trans hdigit.2 (by decide)⟩

theorem printable_commaJoined {us : List (List Char)} (h : ∀ u ∈ us, ∀ c ∈ u, IsPrintable c) :
    ∀ c ∈ commaJoined us, IsPrintable c := by
  induction us with
  | nil => exact printable_of_all (by decide)
  | cons u us ih =>
    obtain ⟨hu, hus⟩ := List.forall_mem_cons.1 h
    cases us with
    | nil => rwa [commaJoined_singleton]
    | cons u' us =>
      rw [commaJoined_cons u (List.cons_ne_nil u' us)]
      simp only [List.forall_mem_append, List.forall_mem_cons]
      exact ⟨hu, by decide, by decide, ih hus⟩

/-- a plain value on one line is printable -/
theorem Value.IsPlain.printable {v : Value} (hv : v.IsPlain) : ∀ c ∈ v.compact.toList, IsPrintable c := by
  have henclosed : ∀ {us : List (List Char)} {a b : Char}, IsPrintable a → IsPrintable b →
      (∀ u ∈ us, ∀ c ∈ u, IsPrintable c) → ∀ c ∈ a :: commaJoined us ++ [b], IsPrintable c := by
    intro us a b ha hb hus
    rw [List.forall_mem_append, List.forall_mem_cons, List.forall_mem_singleton]
    exact ⟨⟨ha, printable_commaJoined hus⟩, hb⟩
  induction hv with
  | null => exact printable_of_all (by decide)
  | bool b => cases b <;> exact printable_of_all (by decide)
  | int => exact printable_intText _
  | text s => exact printable_encodeText s
  | array _ ih =>
    rw [toList_compact_array]
    exact henclosed (by decide) (by decide) (List.forall_mem_map.2 ih)
  | object _ _ ih =>
    rw [toList_compact_object]
    refine henclosed (by decide) (by decide) (List.forall_mem_map.2 fun m hm => ?_)
    rw [memberText, List.forall_mem_append, List.forall_mem_cons, List.forall_mem_cons]
    exact ⟨printable_encodeText m.1, by decide, by decide, ih m hm⟩

end Pagewright.Json
