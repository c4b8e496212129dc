/-
Code in markup. The attributes `onsubmit` and `onclick` hold code, which runs when a form is submitted or a button is
pressed; a function is invoked by markup when it is called there (`Invokes`).

`Collector` reads markup from left to right and collects the values of these attributes; it misses none
(`Collector.mem_found_of_hasHandler`). Only the attributes of forms add to what it collects, so what a fragment runs is told
by its forms (`compositional_runs`).
-/
import Pagewright.Proofs.Artifact.Pieces
import Pagewright.Proofs.Artifact.Uses

namespace Pagewright

open Text Html

/-! ## Attributes with code -/

/-- the attributes whose values are code -/
def handlerAttributes : List String := ["onsubmit", "onclick"]

/-- a value of such an attribute. Every quote of markup opens or closes a value, so an even number of them stands before an
attribute. -/
def HasHandler (html : String) (x : List Char) : Prop :=
  ∃ n ∈ handlerAttributes, ∃ u v, html.toList = u ++ ((" " ++ n ++ "=\"").toList ++ (x ++ '"' :: v)) ∧
    Even (u.count '"') ∧ '"' ∉ x

/-- a function that is called in the value of such an attribute -/
def Invokes (html : String) (w : List Char) : Prop := ∃ x, HasHandler html x ∧ Script.Calls x w

/-- where a character of markup stands: between values, after the characters given, the last one first, or in a value that
is code or not, after the characters given -/
inductive Slot where
  | between (before : List Char)
  | value (handler : Bool) (read : List Char)

/-- whether a quote opens a value that is code, told by the characters before it, the last one first -/
def opensHandler (before : List Char) : Bool :=
  [['=', 't', 'i', 'm', 'b', 'u', 's', 'n', 'o', ' '], ['=', 'k', 'c', 'i', 'l', 'c', 'n', 'o', ' ']].any fun p =>
    p.isPrefixOf before

/-- what is known at a place in markup: the slot, and the values that are code so far, the last one first -/
structure Collector where
  slot : Slot
  found : List (List Char)

namespace Collector

/-- what is known after one more character; no character is refused -/
def next : Collector → Char → Option Collector
  | ⟨.between before, found⟩, c =>
    if c = '"' then some ⟨.value (opensHandler before) [], found⟩ else some ⟨.between (c :: before), found⟩
  | ⟨.value handler read, found⟩, c =>
    if c = '"' then some ⟨.between [], if handler then read :: found else found⟩
    else some ⟨.value handler (read ++ [c]), found⟩

theorem reading_between {l : List Char} (h : '"' ∉ l) (before : List Char) (found : List (List Char)) :
    reading next ⟨.between before, found⟩ l = some ⟨.between (l.reverse ++ before), found⟩ := by
  induction l generalizing before with
  | nil => rfl
  | cons c l ih =>
    obtain ⟨hc, hl⟩ := not_or.1 (mt List.mem_cons.2 h)
    have hnext : next ⟨.between before, found⟩ c = some ⟨.between (c :: before), found⟩ := if_neg (Ne.symm hc)
    rw [reading_cons, hnext, Option.bind_some, ih hl]
    simp

theorem reading_value {l : List Char} (h : '"' ∉ l) (handler : Bool) (read : List Char) (found : List (List Char)) :
    reading next ⟨.value handler read, found⟩ l = some ⟨.value handler (read ++ l), found⟩ := by
  induction l generalizing read with
  | nil => simp
  | cons c l ih =>
    obtain ⟨hc, hl⟩ := not_or.1 (mt List.mem_cons.2 h)
    have hnext : next ⟨.value handler read, found⟩ c = some ⟨.value handler (read ++ [c]), found⟩ := if_neg (Ne.symm hc)
    rw [reading_cons, hnext, Option.bind_some, ih hl]
    simp

/-- a whole attribute: its value is collected if its name tells that it is code -/
theorem reading_attribute {n x : List Char} (hn : '"' ∉ n) (hx : '"' ∉ x) (before : List Char) (found : List (List Char)) :
    reading next ⟨.between before, found⟩ (' ' :: n ++ ['=', '"'] ++ (x ++ ['"'])) =
      some ⟨.between [], if opensHandler ('=' :: (n.reverse ++ ' ' :: before)) then x :: found else found⟩ := by
  have hkey : '"' ∉ ' ' :: n ++ ['='] := by simp [hn]
  have htext : ' ' :: n ++ ['=', '"'] ++ (x ++ ['"']) = (' ' :: n ++ ['=']) ++ ('"' :: (x ++ ['"'])) := by simp
  have hbefore : (' ' :: n ++ ['=']).reverse ++ before = '=' :: (n.reverse ++ ' ' :: before) := by simp
  rw [htext, reading_append, reading_between hkey, Option.bind_some, hbefore, reading_cons]
  show reading next ⟨.value (opensHandler _) [], found⟩ _ = _
  rw [reading_append, reading_value hx]
  rfl

/-- whether a quote closes a value -/
def inValue (q : Collector) : Bool :=
  match q.slot with
  | .between _ => false
  | .value _ _ => true

/-- quotes open and close values in turn, and what was collected stays -/
theorem reading_total (q : Collector) (s : List Char) : ∃ q', reading next q s = some q' ∧ q.found ⊆ q'.found ∧
    (q'.inValue = q.inValue ↔ Even (s.count '"')) := by
  induction s generalizing q with
  | nil => exact ⟨q, rfl, List.Subset.refl _, by simp⟩
  | cons c s ih =>
    have hnext : ∃ p, next q c = some p ∧ q.found ⊆ p.found ∧ (p.inValue = q.inValue ↔ c ≠ '"') := by
      obtain ⟨slot, found⟩ := q
      by_cases hc : c = '"'
      · cases slot with
        | between before => exact ⟨_, if_pos hc, List.Subset.refl _, by simp [inValue, hc]⟩
        | value handler read =>
          refine ⟨_, if_pos hc, ?_, by simp [inValue, hc]⟩
          cases handler with
          | false => exact List.Subset.refl _
          | true => exact List.subset_cons_self _ _
      · cases slot with
        | between before => exact ⟨_, if_neg hc, List.Subset.refl _, by simp [inValue, hc]⟩
        | value handler read => exact ⟨_, if_neg hc, List.Subset.refl _, by simp [inValue, hc]⟩
    obtain ⟨p, hp, hfound, hvalue⟩ := hnext
    obtain ⟨q', hq', hfound', hvalue'⟩ := ih p
    refine ⟨q', ?_, fun x hx => hfound' (hfound hx), ?_⟩
    · rw [reading_cons, hp]
      exact hq'
    · by_cases hc : c = '"'
      · subst hc
        rw [List.count_cons_self, Nat.even_add_one, ← hvalue']
        have hne : p.inValue ≠ q.inValue := fun h => hvalue.1 h rfl
        cases hv : q'.inValue <;> cases hv' : p.inValue <;> cases hv'' : q.inValue <;> simp_all
      · rw [List.count_cons_of_ne hc, ← hvalue', hvalue.2 hc]

/-- a value that is code is collected -/
theorem mem_found_of_hasHandler {html : String} {q : Collector}
    (h : reading next ⟨.between [], []⟩ html.toList = some q) {x : List Char} (hx : HasHandler html x) : x ∈ q.found := by
  obtain ⟨n, hn, u, v, htext, heven, hx⟩ := hx
  obtain ⟨⟨slot, found⟩, hu, -, hvalue⟩ := reading_total ⟨.between [], []⟩ u
  have hout := hvalue.2 heven
  cases slot with
  | value handler read => cases hout
  | between before =>
    have hkey : '"' ∉ n.toList ∧ opensHandler ('=' :: (n.toList.reverse ++ ' ' :: before)) = true := by
      simp only [handlerAttributes, List.mem_cons, List.not_mem_nil, or_false] at hn
      rcases hn with rfl | rfl
      · rw [String.toList_ofList]
        exact ⟨by decide, rfl⟩
      · rw [String.toList_ofList]
        exact ⟨by decide, rfl⟩
    have hattribute := reading_attribute hkey.1 hx before found
    rw [hkey.2] at hattribute
    obtain ⟨q', hq', hfound, -⟩ := reading_total ⟨.between [], x :: found⟩ v
    have hsplit : (" " ++ n ++ "=\"").toList ++ (x ++ '"' :: v) = (' ' :: n.toList ++ ['=', '"'] ++ (x ++ ['"'])) ++ v := by
      simp
    have hread : reading next ⟨.between [], []⟩ html.toList = some q' := by
      rw [htext, reading_append, hu, Option.bind_some, hsplit, reading_append, hattribute]
      exact hq'
    cases h.symm.trans hread
    exact hfound (List.mem_cons_self ..)

end Collector

/-! ## What fragments run -/

/-- a text between values, whose values that are code have a property -/
def Runs (V : List Char → Prop) (s : String) : Prop :=
  ∀ before found, ∃ before' found', reading Collector.next ⟨.between before, found⟩ s.toList =
    some ⟨.between before', found'⟩ ∧ ∀ x ∈ found', x ∈ found ∨ V x

variable {V : List Char → Prop}

theorem runs_of_no_quote {s : String} (h : '"' ∉ s.toList) : Runs V s := fun before found =>
  ⟨_, found, Collector.reading_between h before found, fun _ => Or.inl⟩

theorem Runs.append {s t : String} (hs : Runs V s) (ht : Runs V t) : Runs V (s ++ t) := by
  intro before found
  obtain ⟨before₁, found₁, hread₁, hfound₁⟩ := hs before found
  obtain ⟨before₂, found₂, hread₂, hfound₂⟩ := ht before₁ found₁
  refine ⟨before₂, found₂, ?_, fun x hx => ?_⟩
  · rw [String.toList_append, reading_append, hread₁]
    exact hread₂
  · rcases hfound₂ x hx with hx | hx
    · exact hfound₁ x hx
    · exact Or.inr hx

/-- an attribute, if its name tells that its value is no code, or its value has the property -/
theorem runs_attr {n v : String} (hn : '"' ∉ n.toList) (hv : '"' ∉ v.toList)
    (h : (∀ before, opensHandler ('=' :: (n.toList.reverse ++ ' ' :: before)) = false) ∨ V v.toList) :
    Runs V (attr n v).text := by
  intro before found
  have htext : (attr n v).text.toList = ' ' :: n.toList ++ ['=', '"'] ++ (v.toList ++ ['"']) := by
    simp [attr, Attribute.text]
  refine ⟨_, _, htext ▸ Collector.reading_attribute hn hv before found, fun x hx => ?_⟩
  rcases h with h | h
  · rw [h before] at hx
    exact Or.inl hx
  · split_ifs at hx
    · rcases List.mem_cons.1 hx with rfl | hx
      · exact Or.inr h
      · exact Or.inl hx
    · exact Or.inl hx

theorem compositional_runs : Compositional (Runs V) where
  text h := runs_of_no_quote fun hc => (h _ hc).2 rfl
  append := Runs.append
  tag := by
    intro t h
    have hall : ∀ t ∈ elements, '"' ∉ t.toList := by decide
    constructor
    · exact Runs.append (runs_of_no_quote (by decide)) (runs_of_no_quote (hall t h))
    · exact Runs.append (runs_of_no_quote (by decide)) (runs_of_no_quote (hall t h))
  valued := by
    intro n v hn hv
    have hquote : ∀ n ∈ plainAttributes, '"' ∉ n.toList := by decide
    refine runs_attr (hquote n hn) (fun hc => (hv _ hc).2 rfl) (Or.inl fun before => ?_)
    simp only [plainAttributes, List.mem_cons, List.not_mem_nil, or_false] at hn
    rcases hn with rfl | rfl | rfl | rfl | rfl | rfl | rfl | rfl | rfl | rfl
    all_goals
      rw [String.toList_ofList]
      rfl

end Pagewright
