/-
The places where a mark stands in a text, each with what is before it and what is after it (`occurrences`). A text is
clear of a mark when the mark does not start in it, whatever comes next. Between texts that are clear of it a mark stands
where it was put and nowhere else (`map_occurrences`), so what was written around the marks can be read back.
-/
import Mathlib.Tactic

namespace Pagewright.Text

/-! ## Places of a mark -/

/-- the places of a mark in a text, from left to right: what is before it and what is after it -/
def occurrences (mark : List Char) : List Char → List (List Char × List Char)
  | [] => if mark.isEmpty then [([], [])] else []
  | c :: r =>
    let later := (occurrences mark r).map fun x => (c :: x.1, x.2)
    if mark.isPrefixOf (c :: r) then ([], (c :: r).drop mark.length) :: later else later

variable {mark : List Char}

/-! ## Texts without a mark -/

/-- the mark does not start in a text, whatever comes after the text -/
def isClear (mark : List Char) : List Char → Bool
  | [] => true
  | c :: r => !(c :: r).isPrefixOf mark && !mark.isPrefixOf (c :: r) && isClear mark r

@[simp] theorem isClear_nil : isClear mark [] = true := rfl

theorem isClear_cons {c : Char} {r : List Char} :
    isClear mark (c :: r) = true ↔ ¬ c :: r <+: mark ∧ ¬ mark <+: c :: r ∧ isClear mark r = true := by
  simp [isClear, ← List.isPrefixOf_iff_prefix, and_assoc]

theorem isClear_append {x y : List Char} (hx : isClear mark x = true) (hy : isClear mark y = true) :
    isClear mark (x ++ y) = true := by
  induction x with
  | nil => exact hy
  | cons c x ih =>
    obtain ⟨hshort, hlong, hrest⟩ := isClear_cons.1 hx
    rw [List.cons_append]
    refine isClear_cons.2 ⟨fun h => ?_, fun h => ?_, ih hrest⟩
    · exact hshort ((List.prefix_append (c :: x) y).trans h)
    · -- the mark and the first part start in the same place, so one of them starts with the other
      rcases List.prefix_or_prefix_of_prefix h (List.prefix_append (c :: x) y) with h | h
      · exact hlong h
      · exact hshort h

/-- a text without the first character of the mark -/
theorem isClear_of_not_mem {m : Char} (hmark : mark.head? = some m) {x : List Char} (hx : m ∉ x) : isClear mark x = true := by
  obtain ⟨ms, rfl⟩ := List.head?_eq_some_iff.1 hmark
  induction x with
  | nil => rfl
  | cons c x ih =>
    obtain ⟨hc, hx⟩ := not_or.1 (mt List.mem_cons.2 hx)
    refine isClear_cons.2 ⟨fun h => ?_, fun h => ?_, ih hx⟩
    · exact hc (List.cons_prefix_cons.1 h).1.symm
    · exact hc (List.cons_prefix_cons.1 h).1

theorem isClear_ofList {l : List Char} (h : isClear mark l = true) :
    isClear (String.ofList mark).toList (String.ofList l).toList = true := by
  rwa [String.toList_ofList, String.toList_ofList]

theorem isClear_tail_ofList (h : isClear mark mark.tail = true) :
    isClear (String.ofList mark).toList (String.ofList mark).toList.tail = true := by
  rwa [String.toList_ofList]

/-! ## Marks between texts -/

theorem occurrences_append {x : List Char} (hx : isClear mark x = true) (t : List Char) :
    occurrences mark (x ++ t) = (occurrences mark t).map fun y => (x ++ y.1, y.2) := by
  induction x with
  | nil => simp
  | cons c x ih =>
    obtain ⟨hshort, hlong, hrest⟩ := isClear_cons.1 hx
    have hnot : mark.isPrefixOf (c :: (x ++ t)) = false := by
      rw [Bool.eq_false_iff]
      intro h
      rcases List.prefix_or_prefix_of_prefix (List.isPrefixOf_iff_prefix.1 h) (List.prefix_append (c :: x) t) with h | h
      · exact hlong h
      · exact hshort h
    simp [occurrences, hnot, ih hrest]

theorem occurrences_of_isClear (hmark : mark ≠ []) {x : List Char} (hx : isClear mark x = true) : occurrences mark x = [] := by
  rw [← List.append_nil x, occurrences_append hx, occurrences]
  simp [hmark]

variable (hmark : mark ≠ []) (hself : isClear mark mark.tail = true)

include hmark hself

/-- the first place of a mark after a text that is clear of it, and the places after that -/
theorem occurrences_put {x : List Char} (hx : isClear mark x = true) (t : List Char) :
    occurrences mark (x ++ (mark ++ t)) = (x, t) :: (occurrences mark t).map fun y => (x ++ mark ++ y.1, y.2) := by
  obtain ⟨m, ms, rfl⟩ := List.exists_cons_of_ne_nil hmark
  have hhere : (m :: ms).isPrefixOf (m :: (ms ++ t)) = true := List.isPrefixOf_iff_prefix.2 (List.prefix_append (m :: ms) t)
  have hfirst : occurrences (m :: ms) (m :: ms ++ t) =
      ([], t) :: (occurrences (m :: ms) t).map fun y => (m :: ms ++ y.1, y.2) := by
    have hrest : isClear (m :: ms) ms = true := hself
    rw [List.cons_append, occurrences, occurrences_append hrest]
    simp [hhere]
  rw [occurrences_append hx, hfirst]
  simp

/-- the last place of a mark before a text that is clear of it, whatever is before the mark -/
theorem getLast?_occurrences (x : List Char) {t : List Char} (ht : isClear mark t = true) :
    (occurrences mark (x ++ (mark ++ t))).getLast? = some (x, t) := by
  induction x with
  | nil =>
    have hfirst := occurrences_put hmark hself isClear_nil t
    rw [hfirst, occurrences_of_isClear hmark ht]
    rfl
  | cons c x ih =>
    have hlater : ((occurrences mark (x ++ (mark ++ t))).map fun y => (c :: y.1, y.2)).getLast? = some (c :: x, t) := by
      rw [List.getLast?_map, ih]
      rfl
    rw [List.cons_append, occurrences]
    split
    · rw [List.getLast?_cons, hlater]
      rfl
    · exact hlater

end Pagewright.Text
