/-
Records under numbers. A shelf holds records of one kind in the order they were made; records are made, changed and removed,
and a number is given once. A store keeps two shelves, of applications and of entries, and this is the theory of both.

A record is followed from its making on (`RecordKind.since`): what names its number changes it or takes it away, and nothing
else touches it. What a shelf holds after any acts is what became of the records made (`mem_records_run`), and the numbers
on it are those given and not removed since (`mem_numbers_run`), in rising order (`ordered_run`).
-/
import Mathlib.Tactic
import Pagewright.Calendar

namespace Pagewright.Store

/-- what happens to records: one is made of a draft, the one with a number is changed or removed, or nothing happens -/
inductive Act (δ π : Type) where
  | make (d : δ)
  | change (id : Int) (p : π)
  | remove (id : Int)
  | pass

def made {δ π : Type} (acts : List (Instant × Act δ π)) : Nat :=
  acts.countP fun x => match x.2 with
    | .make _ => true
    | _ => false

/-- a record was made of a draft at a time, and it got the number of the records made so far and one more -/
def Given {δ π : Type} (acts : List (Instant × Act δ π)) (n : Nat) (t : Instant) (d : δ)
    (later : List (Instant × Act δ π)) : Prop :=
  ∃ earlier, acts = earlier ++ (t, .make d) :: later ∧ n = made earlier + 1

/-- a number was given, and what has it was not removed since -/
def Live {δ π : Type} (acts : List (Instant × Act δ π)) (n : Nat) : Prop :=
  ∃ t d later, Given acts n t d later ∧ ∀ u, (u, Act.remove n) ∉ later

/-- a kind of records: the number of a record, how one is made under a number and how it is changed -/
structure RecordKind (α δ π : Type) where
  id : α → Nat
  make : Nat → Instant → δ → α
  patched : α → π → α
  id_make : ∀ n t d, id (make n t d) = n
  id_patched : ∀ a p, id (patched a p) = id a

/-- records in the order they were made, and the number of the next one -/
structure Shelf (α : Type) where
  records : List α
  next : Nat

variable {α δ π : Type} (K : RecordKind α δ π)

/-! ## One record -/

namespace RecordKind

/-- what becomes of a record in one act; nothing when it is removed -/
def fate (a : α) : Act δ π → Option α
  | .change n p => some (if (K.id a : Int) = n then K.patched a p else a)
  | .remove n => if (K.id a : Int) = n then none else some a
  | .make _ => some a
  | .pass => some a

/-- what has become of a record in some acts -/
def since (a : α) (acts : List (Instant × Act δ π)) : Option α := acts.foldlM (fun b x => K.fate b x.2) a

theorem since_cons (a : α) (x : Instant × Act δ π) (acts : List (Instant × Act δ π)) :
    K.since a (x :: acts) = (K.fate a x.2).bind fun b => K.since b acts := by
  simp [since, List.foldlM_cons, bind]

/-- a record that an act leaves there is as it was, or was changed -/
theorem fate_cases {a b : α} {act : Act δ π} (h : K.fate a act = some b) :
    b = a ∨ ∃ n p, act = .change n p ∧ b = K.patched a p := by
  cases act with
  | make d =>
    cases h
    exact Or.inl rfl
  | change n p =>
    cases h
    split_ifs
    · exact Or.inr ⟨n, p, rfl, rfl⟩
    · exact Or.inl rfl
  | remove n =>
    rw [fate, Option.ite_none_left_eq_some] at h
    cases h.2
    exact Or.inl rfl
  | pass =>
    cases h
    exact Or.inl rfl

/-- what changes leave alone, an act leaves alone -/
theorem fate_kept {κ : Type} {f : α → κ} (hf : ∀ a p, f (K.patched a p) = f a) {a b : α} {act : Act δ π}
    (h : K.fate a act = some b) : f b = f a := by
  rcases K.fate_cases h with rfl | ⟨n, p, -, rfl⟩
  · rfl
  · exact hf a p

/-- what changes leave alone stays as it was made -/
theorem since_kept {κ : Type} {f : α → κ} (hf : ∀ a p, f (K.patched a p) = f a) {a b : α}
    {acts : List (Instant × Act δ π)} (h : K.since a acts = some b) : f b = f a := by
  induction acts generalizing a with
  | nil =>
    cases h
    rfl
  | cons x acts ih =>
    rw [since_cons, Option.bind_eq_some_iff] at h
    obtain ⟨c, hc, hb⟩ := h
    exact (ih hb).trans (K.fate_kept hf hc)

theorem since_id {a b : α} {acts : List (Instant × Act δ π)} (h : K.since a acts = some b) : K.id b = K.id a :=
  K.since_kept K.id_patched h

/-- a record is there as long as it is not removed -/
theorem exists_since_iff (a : α) (acts : List (Instant × Act δ π)) :
    (∃ b, K.since a acts = some b) ↔ ∀ t, (t, Act.remove (K.id a)) ∉ acts := by
  induction acts generalizing a with
  | nil => simp [since]
  | cons x acts ih =>
    obtain ⟨t, act⟩ := x
    cases hfate : K.fate a act with
    | none =>
      have hact : act = .remove (K.id a) := by
        cases act with
        | remove n =>
          have hn : (K.id a : Int) = n := by simpa [fate] using hfate
          rw [hn]
        | _ => simp [fate] at hfate
      rw [since_cons, hfate, hact]
      constructor
      · intro h
        simp at h
      · intro h
        exact absurd List.mem_cons_self (h t)
    | some b =>
      have hb : K.id b = K.id a := K.fate_kept K.id_patched hfate
      have hact : act ≠ .remove (K.id a) := by
        intro h
        simp [h, fate] at hfate
      simp [since_cons, hfate, ih b, hb, Ne.symm hact]

end RecordKind

/-! ## One act -/

namespace Shelf

/-- the shelf that nothing was put on -/
def empty : Shelf α := ⟨[], 1⟩

def step (s : Shelf α) (now : Instant) : Act δ π → Shelf α
  | .make d => ⟨s.records ++ [K.make s.next now d], s.next + 1⟩
  | .change n p => { s with records := s.records.map fun a => if (K.id a : Int) = n then K.patched a p else a }
  | .remove n => { s with records := s.records.filter fun a => (K.id a : Int) ≠ n }
  | .pass => s

def run (s : Shelf α) (acts : List (Instant × Act δ π)) : Shelf α := acts.foldl (fun t x => t.step K x.1 x.2) s

/-- after an act there is what became of the records, and the one that was made -/
theorem mem_records_step (s : Shelf α) (now : Instant) (act : Act δ π) (b : α) :
    b ∈ (s.step K now act).records ↔
      (∃ a ∈ s.records, K.fate a act = some b) ∨ ∃ d, act = .make d ∧ b = K.make s.next now d := by
  cases act with
  | make d => simp [step, RecordKind.fate]
  | change n p => simp [step, RecordKind.fate]
  | remove n =>
    simp only [step, RecordKind.fate, List.mem_filter, decide_eq_true_eq, Option.ite_none_left_eq_some, Option.some.injEq,
      reduceCtorEq, false_and, exists_false, or_false]
    constructor
    · intro h
      exact ⟨b, h.1, h.2, rfl⟩
    · intro h
      obtain ⟨a, ha, hn, rfl⟩ := h
      exact ⟨ha, hn⟩
  | pass => simp [step, RecordKind.fate]

theorem next_step (s : Shelf α) (now : Instant) (act : Act δ π) :
    (s.step K now act).next = s.next + made [(now, act)] := by
  cases act <;> rfl

/-- numbers rise along the shelf, and the next one is above them all -/
structure Ordered (s : Shelf α) : Prop where
  rising : (s.records.map K.id).Pairwise (· < ·)
  below : ∀ a ∈ s.records, K.id a < s.next

theorem ordered_step {s : Shelf α} (h : Ordered K s) (now : Instant) (act : Act δ π) : Ordered K (s.step K now act) := by
  cases act with
  | make d =>
    refine ⟨?_, ?_⟩
    · simp only [step, List.map_append, List.map_singleton, List.pairwise_append, K.id_make]
      refine ⟨h.rising, List.pairwise_singleton _ _, ?_⟩
      intro n hn m hm
      obtain ⟨a, ha, rfl⟩ := List.mem_map.1 hn
      rw [List.mem_singleton.1 hm]
      exact h.below a ha
    · intro a ha
      rcases List.mem_append.1 ha with ha | ha
      · exact Nat.lt_succ_of_lt (h.below a ha)
      · rw [List.mem_singleton.1 ha, K.id_make]
        exact Nat.lt_succ_self _
  | change n p =>
    have hid : ∀ a, K.id (if (K.id a : Int) = n then K.patched a p else a) = K.id a := by
      intro a
      split_ifs
      · exact K.id_patched a p
      · rfl
    refine ⟨?_, ?_⟩
    · simpa [step, List.map_map, Function.comp_def, hid] using h.rising
    · intro a ha
      obtain ⟨b, hb, rfl⟩ := List.mem_map.1 ha
      rw [hid]
      exact h.below b hb
  | remove n =>
    refine ⟨?_, ?_⟩
    · exact h.rising.sublist ((List.filter_sublist).map K.id)
    · intro a ha
      exact h.below a (List.mem_filter.1 ha).1
  | pass => exact h

/-! ## Any acts -/

theorem run_cons (s : Shelf α) (x : Instant × Act δ π) (acts : List (Instant × Act δ π)) :
    s.run K (x :: acts) = (s.step K x.1 x.2).run K acts := rfl

theorem ordered_run {s : Shelf α} (h : Ordered K s) (acts : List (Instant × Act δ π)) : Ordered K (s.run K acts) := by
  induction acts generalizing s with
  | nil => exact h
  | cons x acts ih => exact ih (ordered_step K h x.1 x.2)

theorem next_run (s : Shelf α) (acts : List (Instant × Act δ π)) : (s.run K acts).next = s.next + made acts := by
  induction acts generalizing s with
  | nil => rfl
  | cons x acts ih =>
    have hmade : made (x :: acts) = made [x] + made acts := by
      simp only [made, ← List.countP_append, List.singleton_append]
    rw [run_cons, ih, next_step, hmade, Nat.add_assoc]

/-- after some acts there is what became of the records that were there, and of those that were made -/
theorem mem_records_run_from (s : Shelf α) (acts : List (Instant × Act δ π)) (b : α) :
    b ∈ (s.run K acts).records ↔ (∃ a ∈ s.records, K.since a acts = some b) ∨
      ∃ earlier t d later, acts = earlier ++ (t, .make d) :: later ∧
        K.since (K.make (s.next + made earlier) t d) later = some b := by
  induction acts generalizing s with
  | nil => simp [run, RecordKind.since]
  | cons x acts ih =>
    obtain ⟨now, act⟩ := x
    rw [run_cons, ih]
    constructor
    · intro h
      rcases h with ⟨a, ha, hb⟩ | ⟨earlier, t, d, later, rfl, hb⟩
      · rcases (mem_records_step K s now act a).1 ha with ⟨c, hc, hfate⟩ | ⟨d, rfl, rfl⟩
        · refine Or.inl ⟨c, hc, ?_⟩
          rw [RecordKind.since_cons, hfate]
          exact hb
        · exact Or.inr ⟨[], now, d, acts, rfl, hb⟩
      · refine Or.inr ⟨(now, act) :: earlier, t, d, later, rfl, ?_⟩
        rw [next_step, Nat.add_assoc] at hb
        simpa only [made, ← List.countP_append, List.singleton_append] using hb
    · intro h
      rcases h with ⟨a, ha, hb⟩ | ⟨earlier, t, d, later, heq, hb⟩
      · rw [RecordKind.since_cons, Option.bind_eq_some_iff] at hb
        obtain ⟨c, hc, hb⟩ := hb
        exact Or.inl ⟨c, (mem_records_step K s now act c).2 (Or.inl ⟨a, ha, hc⟩), hb⟩
      · cases earlier with
        | nil =>
          obtain ⟨hx, rfl⟩ := List.cons.inj heq
          obtain ⟨rfl, rfl⟩ := Prod.mk.inj hx
          exact Or.inl ⟨_, (mem_records_step K s now (.make d) _).2 (Or.inr ⟨d, rfl, rfl⟩), hb⟩
        | cons y earlier =>
          obtain ⟨rfl, rfl⟩ := List.cons.inj heq
          refine Or.inr ⟨earlier, t, d, later, rfl, ?_⟩
          rw [next_step, Nat.add_assoc]
          simpa only [made, ← List.countP_append, List.singleton_append] using hb

theorem ordered_empty : Ordered K (empty : Shelf α) := ⟨List.Pairwise.nil, by simp [empty]⟩

/-- a shelf holds what became of the records that were made, the first under number one -/
theorem mem_records_run (acts : List (Instant × Act δ π)) (b : α) :
    b ∈ ((empty : Shelf α).run K acts).records ↔
      ∃ n t d later, Given acts n t d later ∧ K.since (K.make n t d) later = some b := by
  rw [mem_records_run_from]
  constructor
  · intro h
    rcases h with ⟨a, ha, -⟩ | ⟨earlier, t, d, later, hacts, hb⟩
    · cases ha
    · rw [show (empty : Shelf α).next + made earlier = made earlier + 1 from Nat.add_comm _ _] at hb
      exact ⟨_, t, d, later, ⟨earlier, hacts, rfl⟩, hb⟩
  · intro h
    obtain ⟨n, t, d, later, ⟨earlier, hacts, rfl⟩, hb⟩ := h
    rw [Nat.add_comm] at hb
    exact Or.inr ⟨earlier, t, d, later, hacts, hb⟩

/-- the numbers on a shelf are those that were given and not removed since -/
theorem mem_numbers_run (acts : List (Instant × Act δ π)) (n : Nat) :
    n ∈ ((empty : Shelf α).run K acts).records.map K.id ↔ Live acts n := by
  rw [List.mem_map]
  constructor
  · intro h
    obtain ⟨b, hb, rfl⟩ := h
    obtain ⟨n, t, d, later, hgiven, hlast⟩ := (mem_records_run K acts b).1 hb
    have hid : K.id b = n := (K.since_id hlast).trans (K.id_make n t d)
    have hkept := (K.exists_since_iff _ _).1 ⟨b, hlast⟩
    rw [K.id_make] at hkept
    rw [hid]
    exact ⟨t, d, later, hgiven, hkept⟩
  · intro h
    obtain ⟨t, d, later, hgiven, hkept⟩ := h
    have hid : K.id (K.make n t d) = n := K.id_make n t d
    obtain ⟨b, hlast⟩ := (K.exists_since_iff (K.make n t d) later).2 (by rwa [hid])
    exact ⟨b, (mem_records_run K acts b).2 ⟨n, t, d, later, hgiven, hlast⟩, (K.since_id hlast).trans hid⟩

/-- a change or a removal of a number that no record has does nothing -/
theorem step_absent {s : Shelf α} {n : Int} (h : ∀ a ∈ s.records, (K.id a : Int) ≠ n) (now : Instant) (p : π) :
    s.step K now (.change n p) = s ∧ s.step K now (.remove n) = s := by
  have hmap : (s.records.map fun a => if (K.id a : Int) = n then K.patched a p else a) = s.records := by
    rw [List.map_congr_left fun a ha => if_neg (h a ha), List.map_id']
  have hfilter : (s.records.filter fun a => (K.id a : Int) ≠ n) = s.records := by
    rw [List.filter_eq_self]
    intro a ha
    simpa using h a ha
  exact ⟨by simp only [step, hmap], by simp only [step, hfilter]⟩

/-! ## Looking records up -/

variable {K} {s : Shelf α}

/-- the first record with a property is the one of the smallest number -/
theorem Ordered.find?_eq_some_iff (h : Ordered K s) (p : α → Bool) (a : α) :
    s.records.find? p = some a ↔ a ∈ s.records ∧ p a = true ∧ ∀ b ∈ s.records, p b = true → K.id a ≤ K.id b := by
  have hrising := h.rising
  generalize s.records = l at hrising ⊢
  induction l with
  | nil => simp
  | cons c l ih =>
    rw [List.map_cons, List.pairwise_cons] at hrising
    obtain ⟨hfirst, hrising⟩ := hrising
    have hlater : ∀ b ∈ l, K.id c < K.id b := fun b hb => hfirst _ (List.mem_map_of_mem hb)
    cases hc : p c with
    | true =>
      rw [List.find?_cons_of_pos hc, Option.some.injEq]
      constructor
      · intro hca
        subst hca
        refine ⟨List.mem_cons_self, hc, ?_⟩
        intro b hb _
        rcases List.mem_cons.1 hb with rfl | hb
        · exact le_rfl
        · exact (hlater b hb).le
      · intro ha
        obtain ⟨ha, -, hleast⟩ := ha
        rcases List.mem_cons.1 ha with rfl | ha
        · rfl
        · exact absurd (hleast c List.mem_cons_self hc) (Nat.not_le.2 (hlater a ha))
    | false =>
      have hrest : l.find? p = some a ↔ a ∈ l ∧ p a = true ∧ ∀ b ∈ l, p b = true → K.id a ≤ K.id b := ih hrising
      rw [List.find?_cons_of_neg (by simp [hc]), hrest, List.forall_mem_cons]
      constructor
      · intro ha
        exact ⟨List.mem_cons_of_mem _ ha.1, ha.2.1, by simp [hc], ha.2.2⟩
      · intro ha
        obtain ⟨ha, hp, -, hleast⟩ := ha
        rcases List.mem_cons.1 ha with rfl | ha
        · simp [hc] at hp
        · exact ⟨ha, hp, hleast⟩

/-- a number leads to the record that has it -/
theorem Ordered.find?_number (h : Ordered K s) (n : Int) (a : α) :
    s.records.find? (fun b => (K.id b : Int) = n) = some a ↔ a ∈ s.records ∧ (K.id a : Int) = n := by
  rw [h.find?_eq_some_iff]
  constructor
  · intro ha
    exact ⟨ha.1, by simpa using ha.2.1⟩
  · intro ha
    refine ⟨ha.1, by simpa using ha.2, ?_⟩
    intro b _ hb
    have hb' : (K.id b : Int) = n := by simpa using hb
    have hab := ha.2
    omega

end Shelf

end Pagewright.Store
