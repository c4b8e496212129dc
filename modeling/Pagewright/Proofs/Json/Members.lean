/-
Members of an object laid over others. A key has what it has in the upper members, and else what it has in the lower ones
(`get?_overlay`); no key comes twice, and no value changes, so plain members give plain members (`isPlain_overlay`).
-/
import Pagewright.Proofs.Json.Written

namespace Pagewright.Json.Members

open Text (Wide)

/-- what a key has in the upper members counts, and else what it has in the lower ones -/
theorem get?_overlay {ms others : Members} (h : (others.map Prod.fst).Nodup) (k : Wide) :
    (ms.overlay others).get? k = (others.get? k).or (ms.get? k) := by
  induction others generalizing ms with
  | nil => rfl
  | cons m others ih =>
    obtain ⟨key, v⟩ := m
    obtain ⟨hkey, hrest⟩ := List.nodup_cons.1 h
    show (Members.overlay (ms.put key v) others).get? k = _
    rw [ih hrest, Members.get?_put]
    by_cases hk : k = key
    · subst hk
      have habsent : Members.get? others k = none := by
        rw [Members.get?, List.lookup_eq_none_iff]
        intro x hx
        rw [bne_iff_ne]
        intro hk
        exact hkey (List.mem_map.2 ⟨x, hx, hk.symm⟩)
      have hhead : Members.get? ((k, v) :: others) k = some v := List.lookup_cons_self
      rw [habsent, hhead, if_pos rfl]
      rfl
    · simp [hk, Members.get?, List.lookup_cons, beq_eq_false_iff_ne.2 hk]

/-! ## Plain members -/

/-- a key that is there stays in its place, and any other comes last -/
theorem keys_put (ms : Members) (key : Wide) (v : Value) :
    (ms.put key v).map Prod.fst = if key ∈ ms.map Prod.fst then ms.map Prod.fst else ms.map Prod.fst ++ [key] := by
  induction ms with
  | nil => rfl
  | cons m ms ih =>
    by_cases hm : m.1 = key
    · rw [Members.put, if_pos hm, List.map_cons, List.map_cons, hm, if_pos List.mem_cons_self]
    · rw [Members.put, if_neg hm, List.map_cons, ih, List.map_cons]
      by_cases hkey : key ∈ ms.map Prod.fst
      · rw [if_pos hkey, if_pos (List.mem_cons_of_mem _ hkey)]
      · have hnot : key ∉ m.1 :: ms.map Prod.fst := fun h => (List.mem_cons.1 h).elim (Ne.symm hm) hkey
        rw [if_neg hkey, if_neg hnot, List.cons_append]

theorem mem_put {ms : Members} {key : Wide} {v : Value} {m : Wide × Value} (h : m ∈ ms.put key v) :
    m = (key, v) ∨ m ∈ ms := by
  induction ms with
  | nil => exact Or.inl (List.mem_singleton.1 h)
  | cons n ms ih =>
    rw [Members.put] at h
    split_ifs at h with hn
    · rcases List.mem_cons.1 h with rfl | h
      · exact Or.inl rfl
      · exact Or.inr (List.mem_cons_of_mem n h)
    · rcases List.mem_cons.1 h with rfl | h
      · exact Or.inr List.mem_cons_self
      · exact (ih h).imp_right (List.mem_cons_of_mem n)

theorem isPlain_put {ms : Members} (h : (Value.object ms).IsPlain) (key : Wide) {v : Value} (hv : v.IsPlain) :
    (Value.object (ms.put key v)).IsPlain := by
  cases h with
  | object hkeys hms =>
    refine .object ?_ fun m hm => ?_
    · rw [keys_put]
      split_ifs with hkey
      · exact hkeys
      · rw [List.nodup_append]
        refine ⟨hkeys, List.nodup_singleton key, fun a ha b hb => ?_⟩
        rw [List.mem_singleton.1 hb]
        rintro rfl
        exact hkey ha
    · rcases mem_put hm with rfl | hm
      · exact hv
      · exact hms m hm

theorem isPlain_overlay {ms others : Members} (h : (Value.object ms).IsPlain) (h' : (Value.object others).IsPlain) :
    (Value.object (ms.overlay others)).IsPlain := by
  cases h' with
  | object _ hothers =>
    induction others generalizing ms with
    | nil => exact h
    | cons m others ih =>
      obtain ⟨hm, hothers⟩ := List.forall_mem_cons.1 hothers
      exact ih (isPlain_put h m.1 hm) (List.nodup_cons.1 ‹_›).2 hothers

theorem put_ne_nil (ms : Members) (key : Wide) (v : Value) : ms.put key v ≠ [] := by
  cases ms with
  | nil => exact List.cons_ne_nil _ _
  | cons m ms =>
    rw [Members.put]
    split_ifs
    · exact List.cons_ne_nil _ _
    · exact List.cons_ne_nil _ _

/-- there are no members only if there are none on either side -/
theorem overlay_eq_nil_iff {ms others : Members} : ms.overlay others = [] ↔ ms = [] ∧ others = [] := by
  induction others generalizing ms with
  | nil => simp [Members.overlay]
  | cons m others ih =>
    have hfirst : ms.overlay (m :: others) = (ms.put m.1 m.2).overlay others := rfl
    simp [hfirst, ih, put_ne_nil]

end Pagewright.Json.Members
