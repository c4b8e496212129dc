/-
Values that come back as they are. Joining the pairs of a value leaves it as it is exactly when it has none
(`joined_eq_self_iff`). Keys that are distinct may become one when their pairs are joined; where no key has a pair, the members
of an object are joined one by one (`joinedMembers_eq_map`).
-/
import Pagewright.Proofs.Json.Members

namespace Pagewright.Json

open Text (Wide)

/-- members whose keys have no pairs are put at the end one by one -/
theorem joinedMembers_eq_append {before ms : Members} (hkeys : ((before ++ ms).map Prod.fst).Nodup)
    (h : ∀ m ∈ ms, m.1.joined = m.1) :
    joinedMembers before ms = before ++ ms.map fun m => (m.1, m.2.joined) := by
  induction ms generalizing before with
  | nil => rw [joinedMembers, List.map_nil, List.append_nil]
  | cons m ms ih =>
    obtain ⟨key, v⟩ := m
    obtain ⟨hkey, hms⟩ := List.forall_mem_cons.1 h
    have hfresh : key ∉ before.map Prod.fst := by
      intro hmem
      rw [List.map_append, List.nodup_append] at hkeys
      exact hkeys.2.2 key hmem key (by simp) rfl
    have hnext : ((before ++ [(key, v.joined)] ++ ms).map Prod.fst).Nodup := by simpa using hkeys
    rw [joinedMembers, show key.joined = key from hkey, Members.put_eq_append hfresh, ih hnext hms, List.map_cons,
      List.append_assoc]
    rfl

theorem joinedMembers_eq_map {ms : Members} (hkeys : (ms.map Prod.fst).Nodup) (h : ∀ m ∈ ms, m.1.joined = m.1) :
    joinedMembers [] ms = ms.map fun m => (m.1, m.2.joined) :=
  joinedMembers_eq_append hkeys h

/-- the keys of joined members are joined -/
theorem mem_joinedMembers {before ms : Members} {m : Wide × Value} (h : m ∈ joinedMembers before ms) :
    m ∈ before ∨ ∃ k : Wide, m.1 = k.joined := by
  induction ms generalizing before with
  | nil => exact Or.inl h
  | cons n ms ih =>
    rw [joinedMembers] at h
    rcases ih h with hput | hjoined
    · rcases Members.mem_put hput with rfl | hbefore
      · exact Or.inr ⟨n.1, rfl⟩
      · exact Or.inl hbefore
    · exact Or.inr hjoined

/-- there are no members only if there were none -/
theorem joinedMembers_eq_nil_iff {before ms : Members} : joinedMembers before ms = [] ↔ before = [] ∧ ms = [] := by
  induction ms generalizing before with
  | nil => simp [joinedMembers]
  | cons m ms ih => simp [joinedMembers, ih, Members.put_ne_nil]

theorem map_eq_self_iff {α : Type} {f : α → α} {l : List α} : l.map f = l ↔ ∀ a ∈ l, f a = a := by
  have hsame : l.map f = l.map id ↔ ∀ a ∈ l, f a = a := List.map_inj_left
  rwa [List.map_id] at hsame

/-- **A value comes back as it is** exactly when no high half in it stands right before a low one. -/
theorem joined_eq_self_iff {v : Value} (hv : v.IsPlain) : v.joined = v ↔ ¬v.HasPair := by
  induction hv with
  | null | bool | int =>
    refine iff_of_true (by simp [Value.joined]) ?_
    rintro ⟨⟩
  | text w =>
    rw [Value.joined, Value.text.injEq, Wide.joined_eq_self_iff, not_iff_not]
    refine ⟨.text, ?_⟩
    rintro ⟨h⟩
    exact h
  | @array vs _ ih =>
    rw [Value.joined, Value.array.injEq, joinedItems_eq_map, map_eq_self_iff]
    constructor
    · intro h hpair
      cases hpair with
      | item hv hpair => exact (ih _ hv).1 (h _ hv) hpair
    · intro h v hv
      exact (ih v hv).2 fun hpair => h (.item hv hpair)
  | @object ms hkeys _ ih =>
    rw [Value.joined, Value.object.injEq]
    constructor
    · intro h
      have hunpaired : ∀ m ∈ ms, ¬Text.HasPair m.1.points := by
        intro m hm
        rw [← h] at hm
        obtain hm | ⟨k, hk⟩ := mem_joinedMembers hm
        · cases hm
        · rw [hk]
          exact k.not_hasPair_joined
      have hself : ∀ m ∈ ms, m.1.joined = m.1 := fun m hm => (Wide.joined_eq_self_iff _).2 (hunpaired m hm)
      rw [joinedMembers_eq_map hkeys hself, map_eq_self_iff] at h
      intro hpair
      cases hpair with
      | key hm hpair => exact hunpaired _ hm hpair
      | member hm hpair => exact (ih _ hm).1 (congrArg Prod.snd (h _ hm)) hpair
    · intro h
      have hself : ∀ m ∈ ms, m.1.joined = m.1 := fun m hm => (Wide.joined_eq_self_iff _).2 fun hpair => h (.key hm hpair)
      rw [joinedMembers_eq_map hkeys hself, map_eq_self_iff]
      intro m hm
      rw [(ih m hm).2 fun hpair => h (.member hm hpair)]

theorem writableItems_eq_all (vs : List Value) : writableItems vs = vs.all Value.isWritable := by
  induction vs with
  | nil => rfl
  | cons v vs ih => rw [writableItems, ih, List.all_cons]

theorem writableMembers_eq_all (ms : Members) : writableMembers ms = ms.all fun m => m.2.isWritable := by
  induction ms with
  | nil => rfl
  | cons m ms ih => rw [writableMembers, ih, List.all_cons]

/-- what is read back can be written -/
theorem Value.IsPlain.isWritable {v : Value} (hv : v.IsPlain) : v.isWritable = true := by
  induction hv with
  | int h =>
    rw [Value.isWritable]
    exact decide_eq_true h
  | array _ ih => rwa [Value.isWritable, writableItems_eq_all, List.all_eq_true]
  | object _ _ ih => rwa [Value.isWritable, writableMembers_eq_all, List.all_eq_true]
  | null | bool | text => simp [Value.isWritable]

/-! ## Values without halves -/

theorem itemsHaveHalf_eq_any (vs : List Value) : itemsHaveHalf vs = vs.any Value.hasHalf := by
  induction vs with
  | nil => rfl
  | cons v vs ih => rw [itemsHaveHalf, ih, List.any_cons]

theorem membersHaveHalf_eq_any (ms : Members) : membersHaveHalf ms = ms.any fun m => m.1.hasHalf || m.2.hasHalf := by
  induction ms with
  | nil => rfl
  | cons m ms ih => rw [membersHaveHalf, ih, List.any_cons]

theorem Value.HasPair.hasHalf {v : Value} (h : v.HasPair) : v.hasHalf = true := by
  have hwide : ∀ {w : Wide}, Text.HasPair w.points → w.hasHalf = true := by
    intro w h
    by_contra hnone
    exact Wide.not_hasPair_of_hasHalf (Bool.eq_false_iff.2 hnone) h
  induction h with
  | text h => exact hwide h
  | item hv _ ih =>
    rw [Value.hasHalf, itemsHaveHalf_eq_any]
    exact List.any_eq_true.2 ⟨_, hv, ih⟩
  | key hm h =>
    rw [Value.hasHalf, membersHaveHalf_eq_any]
    exact List.any_eq_true.2 ⟨_, hm, by rw [hwide h, Bool.true_or]⟩
  | member hm _ ih =>
    rw [Value.hasHalf, membersHaveHalf_eq_any]
    exact List.any_eq_true.2 ⟨_, hm, by rw [ih, Bool.or_true]⟩

/-- a value without halves comes back as it is -/
theorem joined_of_hasHalf {v : Value} (hv : v.IsPlain) (h : v.hasHalf = false) : v.joined = v := by
  refine (joined_eq_self_iff hv).2 fun hpair => ?_
  rw [hpair.hasHalf] at h
  cases h

end Pagewright.Json
