/-
Which generated functions a script uses. A function is used where its name stands as a whole word outside literals, before
an opening parenthesis (`Calls`) or in the place of an argument or a value (`HandsOver`). Markup reaches a page as a literal
that is assigned to `innerHTML` (`Injects`).

`Tracker` reads a script from left to right and notes every use of a generated function and every literal that is injected;
it misses none (`Tracker.mem_uses_of_calls`, `Tracker.mem_uses_of_handsOver`, `Tracker.exists_injected_of_injects`). What it
notes in a text of lines is what it notes in the lines, so a script `Finds` only what its lines do.
-/
import Pagewright.Proofs.Artifact.Sound

namespace Pagewright.Script

open Text

/-! ## Uses of functions -/

/-- the functions of a model, by what their names start with -/
def modelFamilies : List String := ["getAll_", "get_", "create_", "update_", "delete_", "refreshLists_"]

def formFamilies : List String := ["handleSubmit_", "resetForm_"]

def listFamilies : List String := ["refreshList_", "editItem_", "deleteItem_"]

def viewFamilies : List String := ["refreshView_"]

def pageFamilies : List String := ["renderPage_"]

/-- what the names of generated functions start with -/
def families : List String := modelFamilies ++ formFamilies ++ listFamilies ++ viewFamilies ++ pageFamilies

/-- blanks between words and marks -/
def isBlank (c : Char) : Bool := c = ' ' || c = '\n'

/-- a whole word before an opening parenthesis -/
def Calls (t w : List Char) : Prop :=
  ∃ u s v, t = u ++ (w ++ (s ++ '(' :: v)) ∧ (∀ c ∈ u.getLast?, Name.isPart c = false) ∧ ∀ c ∈ s, isBlank c = true

/-- a whole word where an argument or a value stands -/
def HandsOver (t w : List Char) : Prop :=
  ∃ u x s s' y v, t = u ++ x :: (s ++ (w ++ (s' ++ y :: v))) ∧ x ∈ ['(', ',', '='] ∧ y ∈ [')', ',', ';'] ∧
    (∀ c ∈ s, isBlank c = true) ∧ ∀ c ∈ s', isBlank c = true

theorem HandsOver.of_infix {t t' w : List Char} (h : HandsOver t w) (ht : t <:+: t') : HandsOver t' w := by
  obtain ⟨before, after, rfl⟩ := ht
  obtain ⟨u, x, s, s', y, v, rfl, hrest⟩ := h
  exact ⟨before ++ u, x, s, s', y, v ++ after, by simp, hrest⟩

/-- the text that a literal with the given contents stands for -/
def StandsFor (x : List Char) (s : String) : Prop := ∃ p, Json.readText ⟨0, '"' :: (x ++ ['"']), []⟩ = .ok (↑s, p)

/-- markup that a script assigns to the inside of an element, by a literal that stands for it -/
def Injects (s html : String) : Prop :=
  ∃ u x v, s.toList = u ++ (".innerHTML = ".toList ++ '"' :: (x ++ '"' :: v)) ∧ Mode.code.after u = .code ∧ IsContent x ∧
    StandsFor x html

/-- the literal of a text stands for that text only -/
theorem eq_of_standsFor {s t : String} (h : StandsFor (literalBody false s.toList) t) : t = s := by
  obtain ⟨p, hp⟩ := h
  have hread := readText_scriptText s 0 [] []
  rw [List.append_nil, toList_scriptText, hp] at hread
  exact Text.Wide.ofString_injective (Prod.mk.inj (Except.ok.inj hread)).1

/-! ## Reading code -/

/-- the families, letter by letter -/
def familyPrefixes : List (List Char) :=
  [['g', 'e', 't', 'A', 'l', 'l', '_'], ['g', 'e', 't', '_'], ['c', 'r', 'e', 'a', 't', 'e', '_'],
    ['u', 'p', 'd', 'a', 't', 'e', '_'], ['d', 'e', 'l', 'e', 't', 'e', '_'],
    ['r', 'e', 'f', 'r', 'e', 's', 'h', 'L', 'i', 's', 't', 's', '_'],
    ['h', 'a', 'n', 'd', 'l', 'e', 'S', 'u', 'b', 'm', 'i', 't', '_'],
    ['r', 'e', 's', 'e', 't', 'F', 'o', 'r', 'm', '_'], ['r', 'e', 'f', 'r', 'e', 's', 'h', 'L', 'i', 's', 't', '_'],
    ['e', 'd', 'i', 't', 'I', 't', 'e', 'm', '_'], ['d', 'e', 'l', 'e', 't', 'e', 'I', 't', 'e', 'm', '_'],
    ['r', 'e', 'f', 'r', 'e', 's', 'h', 'V', 'i', 'e', 'w', '_'],
    ['r', 'e', 'n', 'd', 'e', 'r', 'P', 'a', 'g', 'e', '_']]

theorem map_toList_families : families.map String.toList = familyPrefixes := by decide

/-- does a word name a generated function -/
def isFamily (w : List Char) : Bool := familyPrefixes.any fun p => p.isPrefixOf w

theorem isFamily_append {p : String} (hp : p ∈ families) (n : List Char) : isFamily (p.toList ++ n) = true := by
  have hmem : p.toList ∈ familyPrefixes := map_toList_families ▸ List.mem_map_of_mem hp
  exact List.any_eq_true.2 ⟨p.toList, hmem, List.isPrefixOf_iff_prefix.2 (List.prefix_append _ _)⟩

theorem isPart_of_mem_families {p : String} (hp : p ∈ families) : ∀ c ∈ p.toList, Name.isPart c = true := by
  have hall : familyPrefixes.all (fun q => q.all Name.isPart) = true := by decide
  have hmem : p.toList ∈ familyPrefixes := map_toList_families ▸ List.mem_map_of_mem hp
  exact List.all_eq_true.1 (List.all_eq_true.1 hall _ hmem)

/-- a family followed by a name is a word -/
theorem isPart_of_mem_family {p n : String} (hp : p ∈ families) (hn : Name.isName n.toList = true) :
    ∀ c ∈ p.toList ++ n.toList, Name.isPart c = true :=
  List.forall_mem_append.2 ⟨isPart_of_mem_families hp, fun _ => Name.isPart_of_isName hn⟩

theorem ne_nil_of_isFamily {w : List Char} (h : isFamily w = true) : w ≠ [] := by
  rintro rfl
  revert h
  decide

/-- the name of a generated function, if a word is one -/
def familyWord : Option (List Char) → List (List Char)
  | none => []
  | some w => if isFamily w then [w] else []

/-- what is known at a place in code: whether a word goes on there, whether the mark before the last word hands it over, the
last word if no mark came after it, and the uses so far, the last one first -/
structure Cursor where
  inside : Bool
  fed : Bool
  word : Option (List Char)
  uses : List (List Char)

namespace Cursor

/-- the uses that a mark completes -/
def hits (q : Cursor) (c : Char) : List (List Char) :=
  if c = '(' then familyWord q.word
  else if c = ')' || c = ',' || c = ';' then (if q.fed then familyWord q.word else [])
  else []

/-- what is known after one more character -/
def next (q : Cursor) (c : Char) : Cursor :=
  if Name.isPart c then
    match q.inside with
    | true => ⟨true, q.fed, q.word.map (· ++ [c]), q.uses⟩
    | false => ⟨true, q.word.isNone && q.fed, some [c], q.uses⟩
  else if isBlank c then ⟨false, q.fed, q.word, q.uses⟩
  else ⟨false, c = '(' || c = ',' || c = '=', none, q.hits c ++ q.uses⟩

/-- what is known after a text -/
def run (q : Cursor) (t : List Char) : Cursor := t.foldl next q

theorem run_append (q : Cursor) (s t : List Char) : q.run (s ++ t) = (q.run s).run t := List.foldl_append ..

theorem run_cons (q : Cursor) (c : Char) (t : List Char) : q.run (c :: t) = (q.next c).run t := rfl

/-- what was used stays noted -/
theorem uses_next (q : Cursor) (c : Char) : q.uses ⊆ (q.next c).uses := by
  unfold next
  split
  · split <;> exact List.Subset.refl _
  · split
    · exact List.Subset.refl _
    · exact List.subset_append_right _ _

theorem uses_run (q : Cursor) (t : List Char) : q.uses ⊆ (q.run t).uses := by
  induction t generalizing q with
  | nil => exact List.Subset.refl _
  | cons c t ih => exact fun w hw => ih _ (q.uses_next c hw)

theorem next_blank (q : Cursor) {c : Char} (h : isBlank c = true) : q.next c = ⟨false, q.fed, q.word, q.uses⟩ := by
  have hpart : Name.isPart c = false := by
    simp only [isBlank, Bool.or_eq_true, decide_eq_true_eq] at h
    rcases h with rfl | rfl <;> decide
  simp [next, hpart, h]

/-- blanks keep the last word and what stands before it -/
theorem run_blanks (q : Cursor) {s : List Char} (h : ∀ c ∈ s, isBlank c = true) :
    (q.run s).fed = q.fed ∧ (q.run s).word = q.word ∧ (q.inside = false → (q.run s).inside = false) := by
  induction s generalizing q with
  | nil => exact ⟨rfl, rfl, id⟩
  | cons c s ih =>
    obtain ⟨hfed, hword, hinside⟩ := ih (q.next c) fun d hd => h d (List.mem_cons_of_mem _ hd)
    rw [next_blank q (h c (List.mem_cons_self ..))] at hfed hword hinside
    rw [run_cons, next_blank q (h c (List.mem_cons_self ..))]
    exact ⟨hfed, hword, fun _ => hinside rfl⟩

theorem run_parts (q : Cursor) {u : List Char} (hq : q.inside = true) (hword : q.word = some u) {w : List Char}
    (h : ∀ c ∈ w, Name.isPart c = true) : q.run w = ⟨true, q.fed, some (u ++ w), q.uses⟩ := by
  induction w generalizing q u with
  | nil =>
    obtain ⟨inside, fed, word, uses⟩ := q
    simp only at hq hword
    simp [run, hq, hword]
  | cons c w ih =>
    have hnext : q.next c = ⟨true, q.fed, some (u ++ [c]), q.uses⟩ := by
      simp [next, h c (List.mem_cons_self ..), hq, hword]
    rw [run_cons, hnext, ih _ rfl rfl fun d hd => h d (List.mem_cons_of_mem _ hd)]
    simp

/-- a word that starts where none goes on -/
theorem run_word (q : Cursor) (hq : q.inside = false) {w : List Char} (hne : w ≠ []) (h : ∀ c ∈ w, Name.isPart c = true) :
    q.run w = ⟨true, q.word.isNone && q.fed, some w, q.uses⟩ := by
  cases w with
  | nil => exact absurd rfl hne
  | cons c w =>
    have hnext : q.next c = ⟨true, q.word.isNone && q.fed, some [c], q.uses⟩ := by
      simp [next, h c (List.mem_cons_self ..), hq]
    rw [run_cons, hnext, run_parts _ rfl rfl fun d hd => h d (List.mem_cons_of_mem _ hd)]
    rfl

/-- no word goes on after a text that does not end in one -/
theorem inside_run (q : Cursor) (hq : q.inside = false) {u : List Char} (h : ∀ c ∈ u.getLast?, Name.isPart c = false) :
    (q.run u).inside = false := by
  cases hu : u.getLast? with
  | none =>
    rw [List.getLast?_eq_none_iff.1 hu]
    exact hq
  | some c =>
    have hc : Name.isPart c = false := h c hu
    obtain ⟨v, rfl⟩ := List.getLast?_eq_some_iff.1 hu
    rw [run_append, run_cons]
    show (Cursor.next _ c).inside = false
    simp only [next, hc, Bool.false_eq_true, if_false]
    split <;> rfl

section

variable (q : Cursor) {t w : List Char} (hfamily : isFamily w = true) (hw : ∀ c ∈ w, Name.isPart c = true)

include hfamily hw

/-- a call is noted -/
theorem mem_uses_of_calls (hq : q.inside = false) (h : Calls t w) : w ∈ (q.run t).uses := by
  obtain ⟨u, s, v, rfl, hu, hs⟩ := h
  have hinside := q.inside_run hq hu
  have hword := (q.run u).run_word hinside (ne_nil_of_isFamily hfamily) hw
  obtain ⟨-, hkept, -⟩ := ((q.run u).run w).run_blanks hs
  rw [run_append, run_append, run_append, run_cons]
  refine uses_run _ _ ?_
  have hlast : (((q.run u).run w).run s).word = some w := by rw [hkept, hword]
  show w ∈ (Cursor.next _ '(').uses
  simp [next, hits, hlast, familyWord, hfamily, show Name.isPart '(' = false from by decide,
    show isBlank '(' = false from by decide]

/-- a function that is handed over is noted -/
theorem mem_uses_of_handsOver (h : HandsOver t w) : w ∈ (q.run t).uses := by
  obtain ⟨u, x, s, s', y, v, rfl, hx, hy, hs, hs'⟩ := h
  have hopen : ∃ l, (q.run u).next x = ⟨false, true, none, l⟩ := by
    simp only [List.mem_cons, List.not_mem_nil, or_false] at hx
    rcases hx with rfl | rfl | rfl <;> exact ⟨_, rfl⟩
  obtain ⟨l, hopen⟩ := hopen
  obtain ⟨hfed, hnone, hinside⟩ := (Cursor.mk false true none l).run_blanks hs
  have hword := ((Cursor.mk false true none l).run s).run_word (hinside rfl) (ne_nil_of_isFamily hfamily) hw
  obtain ⟨hfed', hword', -⟩ := (((Cursor.mk false true none l).run s).run w).run_blanks hs'
  rw [hword] at hfed' hword'
  simp only [hfed, hnone, Option.isNone_none, Bool.and_true] at hfed' hword'
  rw [run_append, run_cons, hopen, run_append, run_append, run_append, run_cons, hword]
  refine uses_run _ _ ?_
  simp only [hfed, hnone, Option.isNone_none, Bool.and_true]
  simp only [List.mem_cons, List.not_mem_nil, or_false] at hy
  rcases hy with rfl | rfl | rfl
  · simp [next, hits, hword', hfed', familyWord, hfamily, show Name.isPart ')' = false from by decide,
      show isBlank ')' = false from by decide]
  · simp [next, hits, hword', hfed', familyWord, hfamily, show Name.isPart ',' = false from by decide,
      show isBlank ',' = false from by decide]
  · simp [next, hits, hword', hfed', familyWord, hfamily, show Name.isPart ';' = false from by decide,
      show isBlank ';' = false from by decide]

end

end Cursor

/-! ## Reading scripts -/

/-- the property of an element that holds the markup in it -/
def innerHtml : List Char := ['i', 'n', 'n', 'e', 'r', 'H', 'T', 'M', 'L']

/-- what is known at a place in a script: the place in its code, whether it is in a literal, whether that literal or the
next one is injected, the contents of the literal so far, and the contents of injected literals, the last one first -/
structure Tracker where
  cursor : Cursor
  mode : Mode
  target : Bool
  content : List Char
  injected : List (List Char)

namespace Tracker

/-- what is known after one more character; no character is refused -/
def next : Tracker → Char → Option Tracker
  | ⟨cursor, .code, target, content, injected⟩, c =>
    match cursor.next c with
    | ⟨inside, fed, word, uses⟩ =>
      if c = '"' then some ⟨⟨inside, fed, word, uses⟩, .literal, target, [], injected⟩
      else some ⟨⟨inside, fed, word, uses⟩, .code,
        if isBlank c then target else c = '=' && cursor.word = some innerHtml, content, injected⟩
  | ⟨cursor, .literal, target, content, injected⟩, c =>
    if c = '"' then
      match cursor.next c with
      | ⟨inside, fed, word, uses⟩ =>
        some ⟨⟨inside, fed, word, uses⟩, .code, false, [], if target then content :: injected else injected⟩
    else if c = '\\' then some ⟨cursor, .escape, target, content ++ [c], injected⟩
    else some ⟨cursor, .literal, target, content ++ [c], injected⟩
  | ⟨cursor, .escape, target, content, injected⟩, c => some ⟨cursor, .literal, target, content ++ [c], injected⟩

/-- one character: the place in the code moves on when the character is code, and injected literals stay noted -/
theorem next_eq (q : Tracker) (c : Char) :
    ∃ q', q.next c = some q' ∧ q'.mode = q.mode.next c ∧ q.injected ⊆ q'.injected ∧
      q'.cursor = if q.mode.keeps c then q.cursor.next c else q.cursor := by
  obtain ⟨cursor, mode, target, content, injected⟩ := q
  cases mode with
  | code =>
    simp only [next, Mode.keeps, Mode.next, if_true]
    by_cases hquote : c = '"'
    · simp [hquote]
    · simp [hquote]
  | literal =>
    simp only [next, Mode.keeps, Mode.next]
    by_cases hquote : c = '"'
    · cases target <;> simp [hquote]
    · by_cases hescape : c = '\\'
      · simp [hescape]
      · simp [hquote, hescape]
  | escape => simp [next, Mode.keeps, Mode.next]

/-- a whole text -/
theorem reading_eq (q : Tracker) (s : List Char) :
    ∃ q', reading next q s = some q' ∧ q'.mode = q.mode.after s ∧ q.injected ⊆ q'.injected ∧
      q'.cursor = q.cursor.run (codeFrom q.mode s) := by
  induction s generalizing q with
  | nil => exact ⟨q, rfl, rfl, List.Subset.refl _, rfl⟩
  | cons c s ih =>
    obtain ⟨p, hp, hmode, hinjected, hcursor⟩ := q.next_eq c
    obtain ⟨q', hq', hmode', hinjected', hcursor'⟩ := ih p
    refine ⟨q', ?_, ?_, fun x hx => hinjected' (hinjected hx), ?_⟩
    · rw [reading_cons, hp]
      exact hq'
    · rw [hmode', hmode]
      rfl
    · rw [hcursor', hmode, hcursor, codeFrom]
      split
      · rfl
      · rfl

def afterName : Tracker → List Char → Tracker
  | ⟨cursor, .code, _, content, injected⟩, n =>
    match cursor with
    | ⟨true, fed, word, uses⟩ => ⟨⟨true, fed, word.map (· ++ n), uses⟩, .code, false, content, injected⟩
    | ⟨false, fed, word, uses⟩ => ⟨⟨true, word.isNone && fed, some n, uses⟩, .code, false, content, injected⟩
  | ⟨cursor, .literal, target, content, injected⟩, n => ⟨cursor, .literal, target, content ++ n, injected⟩
  | ⟨cursor, .escape, target, content, injected⟩, n => ⟨cursor, .literal, target, content ++ n, injected⟩

theorem afterName_append (q : Tracker) (m n : List Char) : q.afterName (m ++ n) = (q.afterName m).afterName n := by
  obtain ⟨⟨inside, fed, word, uses⟩, mode, target, content, injected⟩ := q
  cases mode with
  | code => cases inside <;> simp [afterName, Function.comp_def]
  | literal => simp [afterName]
  | escape => simp [afterName]

theorem ne_of_isPart {c : Char} (h : Name.isPart c = true) : c ≠ '"' ∧ c ≠ '\\' ∧ c ≠ '=' ∧ isBlank c = false := by
  refine ⟨?_, ?_, ?_, ?_⟩
  · rintro rfl
    cases h
  · rintro rfl
    cases h
  · rintro rfl
    cases h
  · by_contra hblank
    simp only [isBlank, Bool.not_eq_false, Bool.or_eq_true, decide_eq_true_eq] at hblank
    rcases hblank with rfl | rfl <;> cases h

theorem next_of_isPart {c : Char} (h : Name.isPart c = true) (q : Tracker) : q.next c = some (q.afterName [c]) := by
  obtain ⟨hquote, hescape, hequals, hblank⟩ := ne_of_isPart h
  obtain ⟨⟨inside, fed, word, uses⟩, mode, target, content, injected⟩ := q
  cases mode with
  | code => cases inside <;> simp [next, afterName, Cursor.next, h, hquote, hequals, hblank]
  | literal => simp [next, afterName, hquote, hescape]
  | escape => rfl

/-- characters of a word stand in code as part of one, and in a literal as part of its contents -/
theorem reading_parts {l : List Char} (hne : l ≠ []) (hparts : ∀ c ∈ l, Name.isPart c = true) (q : Tracker) :
    reading next q l = some (q.afterName l) := by
  cases l with
  | nil => exact absurd rfl hne
  | cons c r =>
    rw [reading_cons, next_of_isPart (hparts c (List.mem_cons_self ..))]
    -- the word that was started at `c` goes on
    have hrest : ∀ (u r : List Char), (∀ d ∈ r, Name.isPart d = true) →
        reading next (q.afterName u) r = some (q.afterName (u ++ r)) := by
      intro u r hr
      induction r generalizing u with
      | nil => simp
      | cons d r ih =>
        rw [reading_cons, next_of_isPart (hr d (List.mem_cons_self ..)), ← afterName_append]
        simpa using ih (u ++ [d]) fun e he => hr e (List.mem_cons_of_mem _ he)
    exact hrest [c] r fun d hd => hparts d (List.mem_cons_of_mem _ hd)

theorem reading_name {n : String} (h : Name.isName n.toList = true) (q : Tracker) :
    reading next q n.toList = some (q.afterName n.toList) :=
  reading_parts (Name.ne_nil_of_isName h) (fun _ => Name.isPart_of_isName h) q

/-- a generated function before an opening parenthesis is a use of it -/
theorem reading_call {w : List Char} (hfamily : isFamily w = true) (hparts : ∀ c ∈ w, Name.isPart c = true) (fed : Bool)
    (word : Option (List Char)) (uses : List (List Char)) (target : Bool) (content : List Char)
    (injected : List (List Char)) : reading next ⟨⟨false, fed, word, uses⟩, .code, target, content, injected⟩ (w ++ ['(']) =
      some ⟨⟨false, true, none, w :: uses⟩, .code, false, content, injected⟩ := by
  rw [reading_append, reading_parts (ne_nil_of_isFamily hfamily) hparts]
  simp [afterName, next, Cursor.next, Cursor.hits, familyWord, hfamily, show Name.isPart '(' = false from by decide,
    show isBlank '(' = false from by decide]

def afterText (q : Tracker) (s : String) : Tracker :=
  match q.mode with
  | .code =>
    ⟨(q.cursor.next '"').next '"', .code, false, [],
      if q.target then literalBody false s.toList :: q.injected else q.injected⟩
  | _ => (reading next q (scriptText s).toList).getD q

/-- contents of a literal are read as such, whether or not they start after a backslash -/
theorem reading_content {x : List Char} {mode : Mode} (hmode : mode ≠ .code) (h : codeFrom mode x = []) (cursor : Cursor)
    (target : Bool) (content : List Char) (injected : List (List Char)) :
    reading next ⟨cursor, mode, target, content, injected⟩ x =
      some ⟨cursor, mode.after x, target, content ++ x, injected⟩ := by
  induction x generalizing mode content with
  | nil => simp [Mode.after]
  | cons c x ih =>
    have hkeeps : mode.keeps c = false := by
      cases hkeeps : mode.keeps c with
      | false => rfl
      | true => simp [codeFrom, hkeeps] at h
    have hx : codeFrom (mode.next c) x = [] := by simpa [codeFrom, hkeeps] using h
    have hnext : next ⟨cursor, mode, target, content, injected⟩ c =
        some ⟨cursor, mode.next c, target, content ++ [c], injected⟩ ∧ mode.next c ≠ .code := by
      cases mode with
      | code => exact absurd rfl hmode
      | literal =>
        have hquote : c ≠ '"' := by simpa [Mode.keeps] using hkeeps
        by_cases hescape : c = '\\'
        · simp [next, Mode.next, hescape]
        · simp [next, Mode.next, hquote, hescape]
      | escape => exact ⟨rfl, by simp [Mode.next]⟩
    have hrest := ih hnext.2 hx (content ++ [c])
    rw [reading_cons, hnext.1, Option.bind_some, hrest]
    simp [Mode.after]

/-- a literal is read as its quotes; its contents are noted if it is injected -/
theorem reading_literal {x : List Char} (h : IsContent x) (cursor : Cursor) (target : Bool) (content : List Char)
    (injected : List (List Char)) :
    reading next ⟨cursor, .code, target, content, injected⟩ ('"' :: (x ++ ['"'])) =
      some ⟨(cursor.next '"').next '"', .code, false, [], if target then x :: injected else injected⟩ := by
  have hbody := reading_content (by decide : Mode.literal ≠ .code) h.1 (cursor.next '"') target [] injected
  rw [reading_cons]
  show reading next ⟨cursor.next '"', .literal, target, [], injected⟩ _ = _
  rw [reading_append, hbody, h.2]
  rfl

theorem reading_scriptText (s : String) (q : Tracker) : reading next q (scriptText s).toList = some (q.afterText s) := by
  obtain ⟨cursor, mode, target, content, injected⟩ := q
  cases mode with
  | code =>
    rw [toList_scriptText, reading_literal (isContent_literalBody _)]
    rfl
  | literal =>
    obtain ⟨q', hq', -⟩ := reading_eq ⟨cursor, .literal, target, content, injected⟩ (scriptText s).toList
    simp only [afterText, hq', Option.getD_some]
  | escape =>
    obtain ⟨q', hq', -⟩ := reading_eq ⟨cursor, .escape, target, content, injected⟩ (scriptText s).toList
    simp only [afterText, hq', Option.getD_some]

/-! ## Completeness -/

def start : Tracker := ⟨⟨false, false, none, []⟩, .code, false, [], []⟩

theorem mem_uses_of_calls {s : String} {q : Tracker} (h : reading next start s.toList = some q) {w : List Char}
    (hfamily : isFamily w = true) (hw : ∀ c ∈ w, Name.isPart c = true) (hcall : Calls (code s) w) : w ∈ q.cursor.uses := by
  obtain ⟨q', hq', -, -, hcursor⟩ := start.reading_eq s.toList
  cases h.symm.trans hq'
  rw [hcursor]
  exact Cursor.mem_uses_of_calls _ hfamily hw rfl hcall

theorem mem_uses_of_handsOver {s : String} {q : Tracker} (h : reading next start s.toList = some q) {w : List Char}
    (hfamily : isFamily w = true) (hw : ∀ c ∈ w, Name.isPart c = true) (hhands : HandsOver (code s) w) :
    w ∈ q.cursor.uses := by
  obtain ⟨q', hq', -, -, hcursor⟩ := start.reading_eq s.toList
  cases h.symm.trans hq'
  rw [hcursor]
  exact Cursor.mem_uses_of_handsOver _ hfamily hw hhands

/-- markup that is injected is noted by the contents of its literal -/
theorem exists_injected_of_injects {s html : String} {q : Tracker} (h : reading next start s.toList = some q)
    (hinjects : Injects s html) : ∃ x ∈ q.injected, StandsFor x html := by
  obtain ⟨u, x, v, hs, hu, hx, hhtml⟩ := hinjects
  refine ⟨x, ?_, hhtml⟩
  obtain ⟨p, hp, hmode, -, -⟩ := start.reading_eq u
  obtain ⟨⟨inside, fed, word, uses⟩, mode, target, content, injected⟩ := p
  have hcode : mode = .code := hmode.trans hu
  subst hcode
  -- the assignment makes the literal that follows an injected one, wherever it stands
  have htarget : ∃ cursor content', reading next ⟨⟨inside, fed, word, uses⟩, .code, target, content, injected⟩
      ".innerHTML = ".toList = some ⟨cursor, .code, true, content', injected⟩ := by
    rw [String.toList_ofList]
    exact ⟨_, _, rfl⟩
  obtain ⟨cursor, content', htarget⟩ := htarget
  have hliteral := reading_literal hx cursor true content' injected
  obtain ⟨q', hq', -, hinjected, -⟩ := reading_eq
    ⟨(cursor.next '"').next '"', .code, false, [], if true then x :: injected else injected⟩ v
  have hread : reading next start s.toList = some q' := by
    have htext : '"' :: (x ++ '"' :: v) = '"' :: (x ++ ['"']) ++ v := by simp
    rw [hs, reading_append, hp, Option.bind_some, reading_append, htarget, Option.bind_some, htext, reading_append, hliteral]
    exact hq'
  cases h.symm.trans hread
  exact hinjected (List.mem_cons_self ..)

end Tracker

/-! ## What lines use and inject -/

/-- a place in a script where a line may start -/
def Tracker.AtRest (q : Tracker) : Prop := q.mode = .code ∧ q.cursor.inside = false

/-- the uses in a text have one property, and the contents of its injected literals another -/
def Finds (D J : List Char → Prop) (s : String) : Prop :=
  ∀ q : Tracker, q.AtRest → ∃ q' : Tracker, reading Tracker.next q (s.toList ++ ['\n']) = some q' ∧ q'.AtRest ∧
    (∀ w ∈ q'.cursor.uses, w ∈ q.cursor.uses ∨ D w) ∧ ∀ x ∈ q'.injected, x ∈ q.injected ∨ J x

variable {D J : List Char → Prop}

theorem stackable_finds : Stackable (Finds D J) where
  empty := by
    intro q hq
    obtain ⟨⟨inside, fed, word, uses⟩, mode, target, content, injected⟩ := q
    obtain ⟨rfl, rfl⟩ := hq
    exact ⟨_, rfl, ⟨rfl, rfl⟩, fun _ => Or.inl, fun _ => Or.inl⟩
  stack := by
    intro s t hs ht q hq
    obtain ⟨q₁, hq₁, hrest₁, huses₁, hinjected₁⟩ := hs q hq
    obtain ⟨q₂, hq₂, hrest₂, huses₂, hinjected₂⟩ := ht q₁ hrest₁
    refine ⟨q₂, ?_, hrest₂, fun w hw => ?_, fun x hx => ?_⟩
    · have htext : (s ++ "\n" ++ t).toList ++ ['\n'] = (s.toList ++ ['\n']) ++ (t.toList ++ ['\n']) := by
        simp
      rw [htext, reading_append, hq₁]
      exact hq₂
    · rcases huses₂ w hw with hw | hw
      · exact huses₁ w hw
      · exact Or.inr hw
    · rcases hinjected₂ x hx with hx | hx
      · exact hinjected₁ x hx
      · exact Or.inr hx
  columns := by
    intro s
    have hcolumns : ∀ q : Tracker, q.AtRest →
        reading Tracker.next q (("  " ++ s).toList ++ ['\n']) = reading Tracker.next q (s.toList ++ ['\n']) := by
      intro q hq
      obtain ⟨⟨inside, fed, word, uses⟩, mode, target, content, injected⟩ := q
      obtain ⟨rfl, rfl⟩ := hq
      rw [String.toList_append, List.append_assoc, reading_append, show "  ".toList = [' ', ' '] from by decide]
      rfl
    unfold Finds
    exact forall₂_congr fun q hq => by rw [hcolumns q hq]

namespace Finds

variable {s : String} (h : Finds D J s)

include h

/-- what is noted when a text is read alone -/
theorem reading_start : ∃ q, reading Tracker.next Tracker.start s.toList = some q ∧ (∀ w ∈ q.cursor.uses, D w) ∧
    ∀ x ∈ q.injected, J x := by
  obtain ⟨q', hq', -, huses', hinjected'⟩ := h Tracker.start ⟨rfl, rfl⟩
  obtain ⟨q, hq, -, -, -⟩ := Tracker.start.reading_eq s.toList
  obtain ⟨p, hp, -, hinjected, hcursor⟩ := q.reading_eq ['\n']
  rw [reading_append, hq, Option.bind_some, hp] at hq'
  cases hq'
  refine ⟨q, hq, fun w hw => ?_, fun x hx => ?_⟩
  · have hw' : w ∈ q'.cursor.uses := hcursor ▸ Cursor.uses_run q.cursor _ hw
    exact (huses' w hw').resolve_left List.not_mem_nil
  · exact (hinjected' x (hinjected hx)).resolve_left List.not_mem_nil

/-- a function that is called has the property -/
theorem of_calls {w : List Char} (hfamily : isFamily w = true) (hw : ∀ c ∈ w, Name.isPart c = true)
    (hcall : Calls (code s) w) : D w := by
  obtain ⟨q, hq, huses, -⟩ := h.reading_start
  exact huses w (Tracker.mem_uses_of_calls hq hfamily hw hcall)

/-- a function that is handed over has the property -/
theorem of_handsOver {w : List Char} (hfamily : isFamily w = true) (hw : ∀ c ∈ w, Name.isPart c = true)
    (hhands : HandsOver (code s) w) : D w := by
  obtain ⟨q, hq, huses, -⟩ := h.reading_start
  exact huses w (Tracker.mem_uses_of_handsOver hq hfamily hw hhands)

/-- markup that is injected has a literal with the property -/
theorem of_injects {html : String} (hinjects : Injects s html) : ∃ x, J x ∧ StandsFor x html := by
  obtain ⟨q, hq, -, hinjected⟩ := h.reading_start
  obtain ⟨x, hx, hhtml⟩ := Tracker.exists_injected_of_injects hq hinjects
  exact ⟨x, hinjected x hx, hhtml⟩

end Finds

/-- a line, wherever it stands, adds `us` to the uses and `xs` to the injected literals -/
def Notes (s : String) (us xs : List (List Char)) : Prop :=
  ∀ (fed : Bool) (word : Option (List Char)) (uses : List (List Char)) (target : Bool) (content : List Char)
    (injected : List (List Char)), ∃ fed' word' target' content',
      reading Tracker.next ⟨⟨false, fed, word, uses⟩, .code, target, content, injected⟩ (s.toList ++ ['\n']) =
        some ⟨⟨false, fed', word', us ++ uses⟩, .code, target', content', xs ++ injected⟩

theorem Notes.finds {s : String} {us xs : List (List Char)} (h : Notes s us xs) (hD : ∀ w ∈ us, D w)
    (hJ : ∀ x ∈ xs, J x) : Finds D J s := by
  intro q hq
  obtain ⟨⟨inside, fed, word, uses⟩, mode, target, content, injected⟩ := q
  obtain ⟨rfl, rfl⟩ := hq
  obtain ⟨fed', word', target', content', hread⟩ := h fed word uses target content injected
  refine ⟨_, hread, ⟨rfl, rfl⟩, fun w hw => ?_, fun x hx => ?_⟩
  · exact (List.mem_append.1 hw).symm.imp_right (hD w)
  · exact (List.mem_append.1 hx).symm.imp_right (hJ x)

/-- a line that uses and injects nothing -/
theorem finds_of_quiet {s : String} (h : Notes s [] []) : Finds D J s :=
  h.finds (List.forall_mem_nil _) (List.forall_mem_nil _)

end Pagewright.Script
