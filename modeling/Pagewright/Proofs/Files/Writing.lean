/-
What writing does to a tree. A file is only written where there is no directory, so every directory stays one, and a path
that leads somewhere still leads there (`resolve_put`). What was written is then read (`read_write_self`), and the other
files of the directory are as they were (`read_write_sibling`).
-/
import Mathlib.Tactic
import Pagewright.Files.Tree

namespace Pagewright.Files.Tree

variable {t : Tree} {names : Names} {content : ByteArray}

/-! ## Nodes -/

theorem lookup_filter_ne {l : List (Names × Node)} {m : Names} (h : m ≠ names) :
    (l.filter fun x => x.1 ≠ names).lookup m = l.lookup m := by
  induction l with
  | nil => rfl
  | cons x l ih =>
    obtain ⟨k, n⟩ := x
    by_cases hk : k = names
    · have hm : (m == k) = false := by simpa [hk] using h
      rw [List.filter_cons_of_neg (by simpa using hk), List.lookup_cons, hm, ih]
    · rw [List.filter_cons_of_pos (by simpa using hk), List.lookup_cons, List.lookup_cons, ih]

/-- a node that was put somewhere is there, and nowhere else is anything changed -/
theorem node?_put (h : t.node? names ≠ some .directory) (n : Node) (m : Names) :
    (t.put names n).node? m = if m = names then some n else t.node? m := by
  -- the top is a directory, so nothing is put there
  have hbelow : ¬ (names = [] || names = ["/"]) = true := by
    intro htop
    exact h (if_pos htop)
  by_cases hm : m = names
  · have hnone : (t.nodes.filter fun x => x.1 ≠ names).lookup names = none := by
      rw [List.lookup_eq_none_iff]
      intro x hx
      have hother : x.1 ≠ names := by simpa using (List.mem_filter.1 hx).2
      simpa using hother.symm
    rw [if_pos hm, hm, node?, if_neg hbelow, put, List.lookup_append, hnone]
    simp
  · have hlast : [(names, n)].lookup m = none := by
      rw [List.lookup_eq_none_iff]
      simpa using hm
    rw [if_neg hm, node?, node?, put, List.lookup_append, lookup_filter_ne hm, hlast, Option.or_none]

/-! ## Paths -/

theorem walk_cons_eq_ok {here names : Names} {p : String} {ps : List String} :
    t.walk here (p :: ps) = .ok names ↔ t.node? here = some .directory ∧ p.utf8ByteSize ≤ Path.nameLimit ∧
      t.walk (if p = ".." then here.dropLast else here ++ [p]) ps = .ok names := by
  rw [walk]
  split
  · next hdirectory =>
    by_cases hlong : Path.nameLimit < p.utf8ByteSize
    · rw [if_pos hlong]
      constructor
      · intro h
        cases h
      · intro h
        exact absurd h.2.1 (Nat.not_le_of_lt hlong)
    · rw [if_neg hlong]
      exact ⟨fun h => ⟨hdirectory, Nat.le_of_not_lt hlong, h⟩, fun h => h.2.2⟩
  · next hfile =>
    simp [hfile]
  · next hnone =>
    simp [hnone]

/-- a path that leads somewhere still leads there when a file is put where no directory is -/
theorem walk_put (h : t.node? names ≠ some .directory) {here m : Names} {ps : List String} (hwalk : t.walk here ps = .ok m) :
    (t.put names (.file content)).walk here ps = .ok m := by
  induction ps generalizing here with
  | nil => exact hwalk
  | cons p ps ih =>
    obtain ⟨hdirectory, hshort, hrest⟩ := walk_cons_eq_ok.1 hwalk
    have hother : here ≠ names := by
      rintro rfl
      exact h hdirectory
    refine walk_cons_eq_ok.2 ⟨?_, hshort, ih hrest⟩
    rw [node?_put h, if_neg hother, hdirectory]

theorem resolve_eq_ok {p : Path} {m : Names} : t.resolve p = .ok m ↔
    p.hasNul = false ∧ p.isTooLong = false ∧ t.walk (if p.root.isEmpty then [] else ["/"]) p.parts = .ok m := by
  unfold resolve
  cases p.hasNul
  · cases p.isTooLong
    · simp
    · simp
  · simp

theorem resolve_put (h : t.node? names ≠ some .directory) {p : Path} {m : Names} (hresolve : t.resolve p = .ok m) :
    (t.put names (.file content)).resolve p = .ok m := by
  obtain ⟨hnul, hshort, hwalk⟩ := resolve_eq_ok.1 hresolve
  exact resolve_eq_ok.2 ⟨hnul, hshort, walk_put h hwalk⟩

/-- a file of a directory is where its name is below the directory -/
theorem walk_concat {here m : Names} {ps : List String} {n : String} (hn : n ≠ "..") (h : t.walk here (ps ++ [n]) = .ok m) :
    ∃ dir, t.walk here ps = .ok dir ∧ m = dir ++ [n] := by
  induction ps generalizing here with
  | nil =>
    obtain ⟨-, -, hlast⟩ := walk_cons_eq_ok.1 h
    rw [if_neg hn] at hlast
    cases hlast
    exact ⟨here, rfl, rfl⟩
  | cons p ps ih =>
    obtain ⟨hdirectory, hshort, hrest⟩ := walk_cons_eq_ok.1 h
    obtain ⟨dir, hdir, hm⟩ := ih hrest
    exact ⟨dir, walk_cons_eq_ok.2 ⟨hdirectory, hshort, hdir⟩, hm⟩

/-- different names in one directory lead to different places -/
theorem ne_of_resolve_child {out : Path} {n k : String} (hne : n ≠ k) (hn : n ≠ "..") (hk : k ≠ "..") {m m' : Names}
    (h : t.resolve (out.child n) = .ok m) (h' : t.resolve (out.child k) = .ok m') : m' ≠ m := by
  obtain ⟨-, -, hwalk⟩ := resolve_eq_ok.1 h
  obtain ⟨-, -, hwalk'⟩ := resolve_eq_ok.1 h'
  obtain ⟨dir, hdir, rfl⟩ := walk_concat hn hwalk
  obtain ⟨dir', hdir', rfl⟩ := walk_concat hk hwalk'
  intro heq
  exact hne (by simpa using (List.append_inj' heq rfl).2.symm)

/-! ## Reading and writing -/

theorem read_eq_ok {p : Path} : t.read p = .ok content ↔
    ∃ names, t.resolve p = .ok names ∧ t.node? names = some (.file content) := by
  unfold read
  cases hresolve : t.resolve p with
  | error c => simp
  | ok names =>
    cases hnode : t.node? names with
    | none => simp [hnode]
    | some n =>
      cases n with
      | directory => simp [hnode]
      | file c => simp [hnode]

/-- what is written is put where there is no directory -/
theorem write_eq_ok {t' : Tree} {p : Path} {s : String} (h : t.write p s = .ok t') :
    ∃ names, t.resolve p = .ok names ∧ t.node? names ≠ some .directory ∧ t' = t.put names (.file s.toUTF8) := by
  unfold write revise at h
  cases hresolve : t.resolve p with
  | error c => simp [hresolve] at h
  | ok names =>
    refine ⟨names, rfl, ?_⟩
    cases hnode : t.node? names with
    | none =>
      cases hparent : t.parentCause? names with
      | some c => simp [hresolve, hnode, hparent] at h
      | none =>
        simp only [hresolve, hnode, hparent, Except.ok.injEq] at h
        exact ⟨by simp, h.symm⟩
    | some n =>
      cases n with
      | directory => simp [hresolve, hnode] at h
      | file c =>
        simp only [hresolve, hnode, Except.ok.injEq] at h
        exact ⟨by simp, h.symm⟩

/-- what was written is read -/
theorem read_write_self {t' : Tree} {p : Path} {s : String} (h : t.write p s = .ok t') : t'.read p = .ok s.toUTF8 := by
  obtain ⟨names, hresolve, hnode, rfl⟩ := write_eq_ok h
  refine read_eq_ok.2 ⟨names, resolve_put hnode hresolve, ?_⟩
  rw [node?_put hnode, if_pos rfl]

/-- the other files of a directory stay as they are when one is written -/
theorem read_write_sibling {t' : Tree} {out : Path} {n k s : String} (h : t.write (out.child n) s = .ok t') (hne : n ≠ k)
    (hn : n ≠ "..") (hk : k ≠ "..") (hread : t.read (out.child k) = .ok content) : t'.read (out.child k) = .ok content := by
  obtain ⟨names, hresolve, hnode, rfl⟩ := write_eq_ok h
  obtain ⟨m, hm, hcontent⟩ := read_eq_ok.1 hread
  refine read_eq_ok.2 ⟨m, resolve_put hnode hm, ?_⟩
  rw [node?_put hnode, if_neg (ne_of_resolve_child hne hn hk hresolve hm), hcontent]

end Pagewright.Files.Tree
