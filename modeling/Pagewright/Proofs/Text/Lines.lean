/-
Lines and places. A text is put together from its lines and nothing else has these lines (`splitLines_unlines`,
`unlines_splitLines`). A place between two characters lies on the line that the text before it leads to, as far in it as
there are characters since the last line end (`exists_line_at`).
-/
import Mathlib.Tactic
import Pagewright.Text.Lines
import Pagewright.Token.Cursor

namespace Pagewright.Text

/-! ## Lines of a text -/

theorem splitLines_stack (s t : String) : splitLines (s ++ "\n" ++ t) = splitLines s ++ splitLines t := by
  have htext : (s ++ "\n" ++ t).toList = s.toList ++ '\n' :: t.toList := by simp
  rw [splitLines, htext, List.splitOn_append_cons_self, List.map_append, splitLines, splitLines]

/-- the lines of a text that was put together from texts -/
theorem splitLines_unlines {ls : Lines} (h : ls ≠ []) : splitLines (unlines ls) = ls.flatMap splitLines := by
  unfold unlines
  induction ls with
  | nil => exact absurd rfl h
  | cons l ls ih =>
    cases ls with
    | nil => simp
    | cons m ms =>
      rw [String.intercalate_cons_cons, splitLines_stack, ih (List.cons_ne_nil _ _)]
      rfl

/-- a text is put together from its lines -/
theorem unlines_splitLines (s : String) : unlines (splitLines s) = s := by
  rw [← String.toList_inj, unlines, String.toList_intercalate, splitLines, List.map_map]
  have hid : String.toList ∘ String.ofList = id := by
    funext l
    exact String.toList_ofList
  have hline : "\n".toList = ['\n'] := by decide
  rw [hid, List.map_id, hline]
  exact List.intercalate_splitOn '\n'

/-- the lines of a text that starts with no line end: the first one is longer by its first character -/
theorem splitOn_cons_of_ne {c : Char} (hc : c ≠ '\n') (t : List Char) :
    ∃ l ls, t.splitOn '\n' = l :: ls ∧ (c :: t).splitOn '\n' = (c :: l) :: ls := by
  obtain ⟨l, ls, hls⟩ := List.exists_cons_of_ne_nil (List.splitOn_ne_nil '\n' t)
  refine ⟨l, ls, hls, ?_⟩
  rw [List.splitOn_cons_eq_if_modifyHead, if_neg (mt beq_iff_eq.1 hc), hls, List.modifyHead_cons]

theorem splitOn_cons_self (t : List Char) : ('\n' :: t).splitOn '\n' = [] :: t.splitOn '\n' := by
  rw [List.splitOn_cons_eq_if_modifyHead, if_pos (beq_self_eq_true '\n')]

theorem length_splitOn (t : List Char) : (t.splitOn '\n').length = t.count '\n' + 1 := by
  induction t with
  | nil => rfl
  | cons c t ih =>
    by_cases hc : c = '\n'
    · subst hc
      rw [splitOn_cons_self, List.length_cons, ih, List.count_cons_self]
    · obtain ⟨l, ls, hls, hcons⟩ := splitOn_cons_of_ne hc t
      rw [hcons, List.count_cons_of_ne hc, ← ih, hls, List.length_cons, List.length_cons]

/-- the first line -/
theorem head?_splitOn (t : List Char) : (t.splitOn '\n').head? = some (t.takeWhile (· ≠ '\n')) := by
  induction t with
  | nil => rfl
  | cons c t ih =>
    by_cases hc : c = '\n'
    · subst hc
      rw [splitOn_cons_self]
      rfl
    · obtain ⟨l, ls, hls, hcons⟩ := splitOn_cons_of_ne hc t
      rw [hls, List.head?_cons, Option.some.injEq] at ih
      rw [hcons, List.head?_cons, ih, List.takeWhile_cons_of_pos (by simpa using hc)]

/-- no line holds a line end -/
theorem not_mem_of_mem_splitOn {t l : List Char} (h : l ∈ t.splitOn '\n') : '\n' ∉ l := by
  induction t generalizing l with
  | nil =>
    obtain rfl := List.mem_singleton.1 h
    exact List.not_mem_nil
  | cons c t ih =>
    by_cases hc : c = '\n'
    · subst hc
      rw [splitOn_cons_self, List.mem_cons] at h
      rcases h with rfl | h
      · exact List.not_mem_nil
      · exact ih h
    · obtain ⟨l', ls, hls, hcons⟩ := splitOn_cons_of_ne hc t
      rw [hcons, List.mem_cons] at h
      rcases h with rfl | h
      · simpa [Ne.symm hc] using ih (hls ▸ List.mem_cons_self)
      · exact ih (hls ▸ List.mem_cons_of_mem l' h)

/-- lines of a text that are put together are read again -/
theorem splitLines_unlines_of_mem {source : String} {ls : Lines} (hne : ls ≠ []) (h : ∀ s ∈ ls, s ∈ splitLines source) :
    splitLines (unlines ls) = ls := by
  have hone : ∀ s ∈ ls, splitLines s = [s] := by
    intro s hs
    obtain ⟨l, hl, rfl⟩ := List.mem_map.1 (h s hs)
    rw [splitLines, String.toList_ofList, List.splitOn_eq_singleton (not_mem_of_mem_splitOn hl), List.map_singleton]
  rw [splitLines_unlines hne, List.flatMap_congr hone, List.flatMap_singleton']

/-! ## Places -/

def lastLine (t : List Char) : List Char := (t.reverse.takeWhile (· ≠ '\n')).reverse

theorem length_lastLine (t : List Char) : (lastLine t).length + 1 = Cursor.columnOf t := by
  rw [lastLine, List.length_reverse, Cursor.columnOf, Nat.add_comm]

/-- the last line of a text that ends in a flat one -/
theorem takeWhile_reverse_append {u : List Char} (h : '\n' ∉ u) (r : List Char) :
    (u.reverse ++ r).takeWhile (· ≠ '\n') = u.reverse ++ r.takeWhile (· ≠ '\n') := by
  refine List.takeWhile_append_of_pos fun c hc => ?_
  simpa using fun he : c = '\n' => h (he ▸ List.mem_reverse.1 hc)

theorem lastLine_of_not_mem {t : List Char} (h : '\n' ∉ t) : lastLine t = t := by
  have hall := takeWhile_reverse_append h []
  rw [List.append_nil, List.takeWhile_nil, List.append_nil] at hall
  rw [lastLine, hall, List.reverse_reverse]

theorem lastLine_append (t : List Char) {u : List Char} (h : '\n' ∉ u) : lastLine (t ++ '\n' :: u) = u := by
  rw [lastLine, List.reverse_append, List.reverse_cons, List.append_assoc, takeWhile_reverse_append h]
  simp

/-- a text is flat, or its last line comes after a line end -/
theorem eq_append_lastLine (t : List Char) : '\n' ∉ t ∨ ∃ r u, t = r ++ '\n' :: u ∧ '\n' ∉ u := by
  by_cases h : '\n' ∈ t
  · obtain ⟨u, r, hr, hu⟩ := List.eq_append_cons_of_mem (List.mem_reverse.2 h)
    refine Or.inr ⟨r.reverse, u.reverse, ?_, mt List.mem_reverse.1 hu⟩
    rw [← List.reverse_inj, hr]
    simp
  · exact Or.inl h

/-- the line at the end of the first of two texts: its last line, and what the second one adds to it -/
theorem getElem?_splitOn (pre rest : List Char) :
    ((pre ++ rest).splitOn '\n')[pre.count '\n']? = some (lastLine pre ++ rest.takeWhile (· ≠ '\n')) := by
  have hflat : ∀ u : List Char, '\n' ∉ u →
      ((u ++ rest).splitOn '\n')[0]? = some (u ++ rest.takeWhile (· ≠ '\n')) := by
    intro u hu
    rw [← List.head?_eq_getElem?, head?_splitOn, List.takeWhile_append_of_pos]
    intro c hc
    simpa using fun he : c = '\n' => hu (he ▸ hc)
  rcases eq_append_lastLine pre with h | ⟨r, u, rfl, hu⟩
  · rw [List.count_eq_zero_of_not_mem h, hflat pre h, lastLine_of_not_mem h]
  · rw [List.append_assoc, List.cons_append, List.splitOn_append_cons_self, List.count_append, List.count_cons_self,
      List.count_eq_zero_of_not_mem hu, lastLine_append r hu, List.getElem?_append_right (by rw [length_splitOn]),
      length_splitOn, Nat.zero_add, Nat.sub_self, hflat u hu]

/-- **A place lies on its line.** -/
theorem exists_line_at {source : String} {pre rest : List Char} (h : source.toList = pre ++ rest) :
    ∃ s : String, (splitLines source)[Cursor.lineOf pre - 1]? = some s ∧ Cursor.columnOf pre ≤ s.length + 1 ∧
      s.toList.drop (Cursor.columnOf pre - 1) = rest.takeWhile (· ≠ '\n') := by
  have hcolumn := length_lastLine pre
  refine ⟨String.ofList (lastLine pre ++ rest.takeWhile (· ≠ '\n')), ?_, ?_, ?_⟩
  · rw [splitLines, h, List.getElem?_map, Cursor.lineOf, Nat.add_sub_cancel_left, getElem?_splitOn, Option.map_some]
  · rw [String.length_ofList, List.length_append]
    omega
  · rw [String.toList_ofList, ← hcolumn, Nat.add_sub_cancel, List.drop_left]

end Pagewright.Text
