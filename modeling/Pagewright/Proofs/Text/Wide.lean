/-
Wide texts and their points. A text is known by its points (`points_injective`, `ofPoints_points`). Joining pairs leaves
points as they are exactly when no high half stands right before a low one (`joinPairs_eq_self_iff`), and there are no halves
in a plain text to be joined (`joined_ofString`).
-/
import Mathlib.Tactic
import Pagewright.Text.Wide

namespace Pagewright.Text

/-- the halves of a pair are neighbours somewhere -/
def HasPair (ps : List Point) : Prop :=
  ∃ before high low after, ps = before ++ .half high :: .half low :: after ∧ high.isHigh = true ∧ low.isHigh = false

/-- a pair is at the front or further on -/
theorem hasPair_cons (p : Point) (ps : List Point) : HasPair (p :: ps) ↔
    (∃ high low, p = .half high ∧ ps.head? = some (.half low) ∧ high.isHigh = true ∧ low.isHigh = false) ∨ HasPair ps := by
  constructor
  · rintro ⟨before, high, low, after, hps, hpair⟩
    cases before with
    | nil =>
      obtain ⟨hp, rfl⟩ := List.cons.inj hps
      exact Or.inl ⟨high, low, hp, rfl, hpair⟩
    | cons q before => exact Or.inr ⟨before, high, low, after, (List.cons.inj hps).2, hpair⟩
  · rintro (⟨high, low, rfl, hhead, hpair⟩ | ⟨before, high, low, after, rfl, hpair⟩)
    · obtain ⟨rest, rfl⟩ := List.head?_eq_some_iff.1 hhead
      exact ⟨[], high, low, rest, rfl, hpair⟩
    · exact ⟨p :: before, high, low, after, rfl, hpair⟩

theorem length_joinPairs_le (ps : List Point) : (joinPairs ps).length ≤ ps.length := by
  fun_induction joinPairs ps with
  | case1 => exact Nat.le_refl _
  | case2 high low ps hpair ih =>
    simp only [List.length_cons]
    omega
  | case3 high low ps hpair ih =>
    simp only [List.length_cons] at ih ⊢
    omega
  | case4 p ps _ ih => exact Nat.succ_le_succ ih

/-- **Joining pairs** changes nothing exactly when there is no pair. -/
theorem joinPairs_eq_self_iff (ps : List Point) : joinPairs ps = ps ↔ ¬HasPair ps := by
  fun_induction joinPairs ps with
  | case1 => simp [HasPair]
  | case2 high low ps hpair ih =>
    simp only [Bool.and_eq_true, Bool.not_eq_true'] at hpair
    have hlonger : (Point.char (high.join low) :: joinPairs ps).length < (Point.half high :: .half low :: ps).length := by
      have hle := length_joinPairs_le ps
      simp only [List.length_cons]
      omega
    have hne : Point.char (high.join low) :: joinPairs ps ≠ .half high :: .half low :: ps := fun h =>
      absurd (congrArg List.length h) (Nat.ne_of_lt hlonger)
    exact iff_of_false hne (not_not.2 ⟨[], high, low, ps, rfl, hpair⟩)
  | case3 high low ps hpair ih =>
    rw [List.cons.injEq, and_iff_right rfl, ih, not_iff_not, hasPair_cons _ (.half low :: ps)]
    refine ⟨Or.inr, ?_⟩
    rintro (⟨h, l, hh, hl, hleft⟩ | h)
    · cases hh
      cases hl
      simp [hleft] at hpair
    · exact h
  | case4 p ps hfirst ih =>
    rw [List.cons.injEq, and_iff_right rfl, ih, not_iff_not, hasPair_cons _ ps]
    refine ⟨Or.inr, ?_⟩
    rintro (⟨high, low, rfl, hlow, -⟩ | h)
    · obtain ⟨rest, rfl⟩ := List.head?_eq_some_iff.1 hlow
      exact absurd rfl (hfirst high low rest rfl)
    · exact h

/-- what a half is followed by after joining, if that is a half, is what followed it -/
theorem head?_joinPairs {ps : List Point} {low : Half} (h : (joinPairs ps).head? = some (.half low)) :
    ps.head? = some (.half low) := by
  fun_induction joinPairs ps with
  | case1 => cases h
  | case2 => cases h
  | case3 => exact h
  | case4 => exact h

/-- no pair is left after joining -/
theorem not_hasPair_joinPairs (ps : List Point) : ¬HasPair (joinPairs ps) := by
  fun_induction joinPairs ps with
  | case1 => simp [HasPair]
  | case2 high low ps hpair ih =>
    rw [hasPair_cons]
    rintro (⟨high, low, hhigh, -⟩ | h)
    · cases hhigh
    · exact ih h
  | case3 high low ps hpair ih =>
    rw [hasPair_cons]
    rintro (⟨h, l, hh, hl, hleft⟩ | h)
    · cases hh
      cases head?_joinPairs hl
      simp [hleft] at hpair
    · exact ih h
  | case4 p ps hfirst ih =>
    rw [hasPair_cons]
    rintro (⟨high, low, rfl, hlow, -⟩ | h)
    · obtain ⟨rest, rfl⟩ := List.head?_eq_some_iff.1 (head?_joinPairs hlow)
      exact absurd rfl (hfirst high low rest rfl)
    · exact ih h

theorem joinPairs_map_char (cs : List Char) : joinPairs (cs.map .char) = cs.map .char := by
  induction cs with
  | nil => rfl
  | cons c cs ih => rw [List.map_cons, joinPairs, ih]; simp

namespace Wide

theorem points_ofString (s : String) : points s = s.toList.map .char := by
  simp [points, pointsOfMore, ofString]

theorem points_ofReversed (ps : List Point) (run : List Char) (more : List (Half × String)) :
    (ofReversed ps run more).points = ps.reverse ++ (run.map .char ++ pointsOfMore more) := by
  fun_induction ofReversed ps run more with
  | case1 run more => simp [points]
  | case2 c ps run more ih => simp [ih]
  | case3 h ps run more ih => simp [ih, pointsOfMore]

@[simp] theorem points_ofPoints (ps : List Point) : (ofPoints ps).points = ps := by
  simp [ofPoints, points_ofReversed, pointsOfMore]

/-- what follows a run of characters does not go on with one -/
theorem head?_pointsOfMore (more : List (Half × String)) (c : Char) : (pointsOfMore more).head? ≠ some (.char c) := by
  cases more <;> simp [pointsOfMore]

/-- a run of characters ends where the points go on with a half -/
theorem run_inj {cs ds : List Char} {ps qs : List Point} (hps : ∀ c, ps.head? ≠ some (.char c))
    (hqs : ∀ c, qs.head? ≠ some (.char c)) (h : cs.map .char ++ ps = ds.map .char ++ qs) : cs = ds ∧ ps = qs := by
  induction cs generalizing ds with
  | nil =>
    cases ds with
    | nil => exact ⟨rfl, h⟩
    | cons d ds => exact absurd (congrArg List.head? h) (hps d)
  | cons c cs ih =>
    cases ds with
    | nil => exact absurd (congrArg List.head? h).symm (hqs c)
    | cons d ds =>
      simp only [List.map_cons, List.cons_append, List.cons.injEq, Point.char.injEq] at h
      obtain ⟨rfl, hrest⟩ := ih h.2
      exact ⟨by rw [h.1], hrest⟩

theorem pointsOfMore_injective : Function.Injective pointsOfMore := by
  intro more more' h
  induction more generalizing more' with
  | nil =>
    cases more' with
    | nil => rfl
    | cons m more' => simp [pointsOfMore] at h
  | cons m more ih =>
    cases more' with
    | nil => simp [pointsOfMore] at h
    | cons m' more' =>
      simp only [pointsOfMore, List.flatMap_cons, List.cons_append, List.cons.injEq, Point.half.injEq] at h
      obtain ⟨hrun, hmore⟩ := run_inj (head?_pointsOfMore more) (head?_pointsOfMore more') h.2
      rw [ih hmore, Prod.ext h.1 (String.toList_inj.1 hrun)]

/-- **A text is known by its points.** -/
theorem points_injective : Function.Injective points := by
  rintro ⟨start, more⟩ ⟨start', more'⟩ h
  obtain ⟨hstart, hmore⟩ := run_inj (head?_pointsOfMore more) (head?_pointsOfMore more') h
  obtain rfl : start = start' := String.toList_inj.1 hstart
  rw [pointsOfMore_injective hmore]

@[simp] theorem ofPoints_points (w : Wide) : ofPoints w.points = w := points_injective (points_ofPoints _)

theorem joined_eq_self_iff (w : Wide) : w.joined = w ↔ ¬HasPair w.points := by
  rw [← joinPairs_eq_self_iff, ← points_injective.eq_iff, joined, points_ofPoints]

@[simp] theorem joined_ofString (s : String) : joined s = s := by
  apply points_injective
  rw [joined, points_ofPoints, points_ofString, joinPairs_map_char]

theorem not_hasPair_joined (w : Wide) : ¬HasPair w.joined.points := by
  rw [joined, points_ofPoints]
  exact not_hasPair_joinPairs _

/-- without halves there is no pair of them -/
theorem not_hasPair_of_hasHalf {w : Wide} (h : w.hasHalf = false) : ¬HasPair w.points := by
  rintro ⟨before, high, low, after, hps, -⟩
  obtain ⟨start, more⟩ := w
  obtain rfl : more = [] := by simpa [hasHalf] using h
  have hmem : Point.half high ∈ points ⟨start, []⟩ := by simp [hps]
  simp [points, pointsOfMore] at hmem

theorem toString?_eq_some {w : Wide} {s : String} : w.toString? = some s ↔ w = s := by
  obtain ⟨start, more⟩ := w
  cases more <;> simp [toString?, ofString]

theorem ofString_injective : Function.Injective ofString := fun _ _ h => congrArg start h

end Wide

end Pagewright.Text
