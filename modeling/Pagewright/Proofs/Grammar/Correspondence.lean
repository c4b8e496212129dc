/-
Reading goes by the kinds and the values of tokens and by nothing else. Two runs over tokens that correspond one by one
give the same result, or stop at corresponding tokens with the same fault, wherever the tokens stand (`parallel_app`).

A `Correspondence` is a pairing of tokens together with the head start that the second run may have: tokens it has passed
and notes it has taken before the first one begins. `Parallel C V p q` says that `p` and `q`, run on corresponding
sessions, reach corresponding sessions with values related by `V`, or with corresponding faults. It is carried from the
parts of a parser to the whole, and a repetition takes as many steps in one run as in the other.
-/
import Mathlib.Tactic
import Pagewright.Grammar.Declaration

namespace Pagewright.Grammar

open Pagewright.Grammar.Parser

/-! ## Corresponding runs -/

/-- a pairing of tokens that differ at most in their places, and the head start of the second run: how many tokens it has
passed and what it has noted -/
structure Correspondence where
  Pair : Token → Token → Prop
  kind_eq : ∀ {t u : Token}, Pair t u → u.kind = t.kind
  value_eq : ∀ {t u : Token}, Pair t u → u.value = t.value
  passed : Nat
  noted : List Note

namespace Correspondence

variable (C : Correspondence)

/-- notes about paired tokens, or about the same application -/
inductive Notes : Note → Note → Prop
  | skipped {t u : Token} (h : C.Pair t u) : Notes (.skipped t) (.skipped u)
  | parsed (a : App) : Notes (.parsed a) (.parsed a)

/-- the same expectation of paired tokens, or the same fault of another class -/
inductive Faults : Fault → Fault → Prop
  | unexpected {t u : Token} (h : C.Pair t u) (x : String) :
      Faults (.mismatch (mismatchAt t x)) (.mismatch (mismatchAt u x))
  | unknownType {t u : Token} (h : C.Pair t u) : Faults (.mismatch (typeMismatch t)) (.mismatch (typeMismatch u))
  | other {f : Fault} (hf : ∀ e, f ≠ .mismatch e) : Faults f f

/-- sessions that have come equally far, the second one with its head start -/
structure Sessions (s s' : Session) : Prop where
  ahead : List.Forall₂ C.Pair s.ahead s'.ahead
  last : Option.Rel C.Pair s.last s'.last
  position : s'.position = C.passed + s.position
  notes : ∃ ns, s'.notes = C.noted ++ ns ∧ List.Forall₂ C.Notes s.notes ns

/-- values related by `V`, or corresponding faults, in corresponding sessions -/
inductive Outcomes {α β : Type} (V : α → β → Prop) : Except Fault α × Session → Except Fault β × Session → Prop
  | ok {a : α} {b : β} {s s' : Session} (hv : V a b) (hs : C.Sessions s s') : Outcomes V (.ok a, s) (.ok b, s')
  | error {f f' : Fault} {s s' : Session} (hf : C.Faults f f') (hs : C.Sessions s s') :
      Outcomes V (.error f, s) (.error f', s')

/-- the two parsers lead from corresponding sessions to corresponding outcomes -/
def Parallel {α β : Type} (V : α → β → Prop) (p : Parser α) (q : Parser β) : Prop :=
  ∀ s s', C.Sessions s s' → C.Outcomes V (p s) (q s')

variable {C}

/-! ## Sessions -/

theorem Sessions.current? {s s' : Session} (h : C.Sessions s s') : Option.Rel C.Pair s.current? s'.current? := by
  obtain ⟨ahead, last, position, notes⟩ := s
  obtain ⟨ahead', last', position', notes'⟩ := s'
  have hahead : List.Forall₂ C.Pair ahead ahead' := h.ahead
  cases hahead with
  | nil => exact h.last
  | cons ht _ => exact .some ht

theorem Sessions.pass {s s' : Session} (h : C.Sessions s s') : C.Sessions s.pass s'.pass := by
  refine ⟨?_, h.last, ?_, h.notes⟩
  · exact List.forall₂_drop 1 h.ahead
  · show s'.position + 1 = C.passed + (s.position + 1)
    rw [h.position, Nat.add_assoc]

theorem Sessions.note {s s' : Session} (h : C.Sessions s s') {n n' : Note} (hn : C.Notes n n') :
    C.Sessions (s.note n) (s'.note n') := by
  obtain ⟨ns, hns, hpairs⟩ := h.notes
  refine ⟨h.ahead, h.last, h.position, ns ++ [n'], ?_, ?_⟩
  · show s'.notes ++ [n'] = C.noted ++ (ns ++ [n'])
    rw [hns, List.append_assoc]
  · exact List.rel_append hpairs (.cons hn .nil)

/-! ## Putting parsers together -/

section

variable {α β γ δ : Type} {V : α → β → Prop} {W : γ → δ → Prop}

theorem parallel_pure {a : α} {b : β} (h : V a b) : C.Parallel V (pure a) (pure b) := by
  intro s s' hs
  exact .ok h hs

theorem parallel_fail {f f' : Fault} (h : C.Faults f f') : C.Parallel V (fail f) (fail f') := by
  intro s s' hs
  exact .error h hs

theorem parallel_bind {p : Parser α} {q : Parser β} {f : α → Parser γ} {g : β → Parser δ} (hp : C.Parallel V p q)
    (hf : ∀ a b, V a b → C.Parallel W (f a) (g b)) : C.Parallel W (p >>= f) (q >>= g) := by
  intro s s' hs
  show C.Outcomes W (andThen p f s) (andThen q g s')
  have h := hp s s' hs
  revert h
  unfold andThen
  generalize p s = x
  generalize q s' = y
  intro h
  cases h with
  | ok hv hm => exact hf _ _ hv _ _ hm
  | error he hm => exact .error he hm

/-- a sequence whose first parsers give the same value -/
theorem parallel_then {p q : Parser α} {f : α → Parser γ} {g : α → Parser δ} (hp : C.Parallel Eq p q)
    (hf : ∀ a, C.Parallel W (f a) (g a)) : C.Parallel W (p >>= f) (q >>= g) := by
  refine parallel_bind hp ?_
  intro a b hab
  subst hab
  exact hf a

end

/-! ## Tokens -/

theorem parallel_current : C.Parallel C.Pair current current := by
  intro s s' hs
  have h := hs.current?
  revert h
  unfold current
  generalize s.current? = x
  generalize s'.current? = y
  intro h
  cases h with
  | some ht => exact .ok ht hs
  | none => exact .error (.other (by simp)) hs

theorem parallel_advance : C.Parallel C.Pair advance advance := by
  intro s s' hs
  have h := hs.current?
  revert h
  unfold advance
  generalize s.current? = x
  generalize s'.current? = y
  intro h
  cases h with
  | none => exact .error (.other (by simp)) hs
  | some ht =>
    refine .ok ht ?_
    rw [C.kind_eq ht]
    split_ifs
    · exact hs
    · exact hs.pass

theorem parallel_note {n n' : Note} (hn : C.Notes n n') : C.Parallel Eq (Parser.note n) (Parser.note n') := by
  intro s s' hs
  exact .ok rfl (hs.note hn)

/-- what goes by the kind and the value of the token at hand -/
theorem parallel_by {α : Type} {f : Token → Parser α} (hf : ∀ t u, C.Pair t u → f u = f t)
    (h : ∀ t, C.Parallel Eq (f t) (f t)) : C.Parallel Eq (current >>= f) (current >>= f) := by
  refine parallel_bind parallel_current ?_
  intro t u htu
  rw [hf t u htu]
  exact h t

theorem parallel_mismatch {α : Type} (V : α → α → Prop) (x : String) : C.Parallel V (mismatch x) (mismatch x) := by
  refine parallel_bind parallel_current ?_
  intro t u htu
  exact parallel_fail (.unexpected htu x)

theorem parallel_sees (ks : List Kind) : C.Parallel Eq (sees ks) (sees ks) := by
  refine parallel_by ?_ ?_
  · intro t u htu
    rw [C.kind_eq htu]
  · intro t
    exact parallel_pure rfl

theorem parallel_expect (k : Kind) : C.Parallel C.Pair (expect k) (expect k) := by
  refine parallel_bind parallel_current ?_
  intro t u htu
  rw [C.kind_eq htu]
  split_ifs
  · exact parallel_advance
  · exact parallel_mismatch _ _

theorem parallel_nameToken : C.Parallel C.Pair nameToken nameToken := by
  refine parallel_bind parallel_current ?_
  intro t u htu
  rw [C.kind_eq htu]
  split_ifs
  · exact parallel_advance
  · exact parallel_mismatch _ _

theorem parallel_passOver (o : Options) (x : String) : C.Parallel Eq (passOver o x) (passOver o x) := by
  unfold passOver
  split_ifs
  · refine parallel_bind parallel_advance ?_
    intro t u htu
    exact parallel_note (.skipped htu)
  · exact parallel_mismatch _ _

theorem parallel_checked {α : Type} (is : List Check.Issue) (a : α) : C.Parallel Eq (checked is a) (checked is a) := by
  unfold checked
  split_ifs
  · exact parallel_pure rfl
  · exact parallel_fail (.other (by simp))

/-! ## Repetition -/

theorem parallel_manyWithin {α : Type} {step : Parser (Option α)} (h : C.Parallel Eq step step) (n : Nat) :
    C.Parallel Eq (manyWithin step n) (manyWithin step n) := by
  induction n with
  | zero => exact parallel_fail (.other (by simp))
  | succ n ih =>
    refine parallel_then h ?_
    intro x
    cases x with
    | none => exact parallel_pure rfl
    | some a =>
      refine parallel_then ih ?_
      intro rest
      exact parallel_pure rfl

theorem parallel_many {α : Type} {step : Parser (Option α)} (h : C.Parallel Eq step step) :
    C.Parallel Eq (many step) (many step) := by
  intro s s' hs
  unfold many
  rw [← hs.ahead.length_eq]
  exact parallel_manyWithin h _ s s' hs

/-! ## The grammar -/

theorem parallel_literal : C.Parallel Eq literal literal := by
  refine parallel_by ?_ ?_
  · intro t u htu
    simp only [C.kind_eq htu, C.value_eq htu]
  · intro t
    split
    · exact parallel_bind parallel_advance fun _ _ _ => parallel_pure rfl
    · refine parallel_bind parallel_advance ?_
      intro _ _ _
      split
      · exact parallel_pure rfl
      · exact parallel_fail (.other (by simp))
    · split
      · exact parallel_bind parallel_advance fun _ _ _ => parallel_pure rfl
      · exact parallel_mismatch _ _
    · exact parallel_mismatch _ _

theorem parallel_modifier (o : Options) : C.Parallel Eq (modifier o) (modifier o) := by
  refine parallel_by ?_ ?_
  · intro t u htu
    simp only [C.kind_eq htu, C.value_eq htu]
  · intro t
    split_ifs
    · exact parallel_bind parallel_advance fun _ _ _ => parallel_pure rfl
    · refine parallel_bind parallel_advance fun _ _ _ => parallel_bind (parallel_expect _) fun _ _ _ => ?_
      exact parallel_then parallel_literal fun _ => parallel_pure rfl
    · exact parallel_then (parallel_passOver o _) fun _ => parallel_pure rfl
    · exact parallel_pure rfl

theorem parallel_field (o : Options) : C.Parallel Eq (field o) (field o) := by
  refine parallel_bind (parallel_expect _) fun _ _ _ => parallel_bind parallel_nameToken fun name name' hname => ?_
  refine parallel_bind (parallel_expect _) fun _ _ _ => parallel_bind parallel_nameToken fun type type' htype => ?_
  simp only [C.value_eq hname, C.value_eq htype]
  split_ifs
  · exact parallel_fail (.unknownType htype)
  · refine parallel_then (parallel_many (parallel_modifier o)) fun ms => ?_
    exact parallel_bind (parallel_expect _) fun _ _ _ => parallel_checked _ _

theorem parallel_modelPart (o : Options) : C.Parallel Eq (modelPart o) (modelPart o) := by
  refine parallel_by ?_ ?_
  · intro t u htu
    simp only [C.kind_eq htu]
  · intro t
    split
    · exact parallel_pure rfl
    · exact parallel_mismatch _ _
    · exact parallel_then (parallel_field o) fun _ => parallel_pure rfl
    · exact parallel_then (parallel_passOver o _) fun _ => parallel_pure rfl

theorem parallel_model (o : Options) : C.Parallel Eq (model o) (model o) := by
  refine parallel_bind (parallel_expect _) fun _ _ _ => parallel_bind parallel_nameToken fun name name' hname => ?_
  refine parallel_bind (parallel_expect _) fun _ _ _ => parallel_then (parallel_many (parallel_modelPart o)) fun parts => ?_
  refine parallel_bind (parallel_expect _) fun _ _ _ => ?_
  simp only [C.value_eq hname]
  exact parallel_checked _ _

theorem parallel_nextName : C.Parallel Eq nextName nextName := by
  refine parallel_then (parallel_sees _) fun more => ?_
  split_ifs
  · refine parallel_bind parallel_advance fun _ _ _ => parallel_bind parallel_nameToken fun t u htu => ?_
    exact parallel_pure (congrArg some (C.value_eq htu).symm)
  · exact parallel_pure rfl

theorem parallel_nameList : C.Parallel Eq nameList nameList := by
  refine parallel_by ?_ ?_
  · intro t u htu
    simp only [C.kind_eq htu]
  · intro t
    split_ifs
    · refine parallel_bind parallel_nameToken fun first first' hfirst => ?_
      refine parallel_then (parallel_many parallel_nextName) fun rest => ?_
      exact parallel_pure (congrArg (· :: rest) (C.value_eq hfirst).symm)
    · exact parallel_pure rfl

theorem parallel_binding : C.Parallel Eq binding binding := by
  refine parallel_bind parallel_advance fun t u htu => ?_
  rw [C.kind_eq htu]
  split
  · exact parallel_fail (.other (by simp))
  · refine parallel_bind parallel_nameToken fun name name' hname => parallel_bind (parallel_expect _) fun _ _ _ => ?_
    refine parallel_bind parallel_nameToken fun model model' hmodel => parallel_bind (parallel_expect _) fun _ _ _ => ?_
    refine parallel_bind (parallel_expect _) fun _ _ _ => parallel_then parallel_nameList fun fields => ?_
    refine parallel_bind (parallel_expect _) fun _ _ _ => ?_
    simp only [C.value_eq hname, C.value_eq hmodel]
    exact parallel_checked _ _

theorem parallel_page : C.Parallel Eq page page := by
  refine parallel_bind (parallel_expect _) fun _ _ _ => parallel_bind parallel_nameToken fun name name' hname => ?_
  refine parallel_bind (parallel_expect _) fun _ _ _ => parallel_bind (parallel_expect _) fun title title' htitle => ?_
  refine parallel_bind (parallel_expect _) fun _ _ _ => parallel_bind (parallel_expect _) fun _ _ _ => ?_
  refine parallel_then parallel_nameList fun components => parallel_bind (parallel_expect _) fun _ _ _ => ?_
  simp only [C.value_eq hname, C.value_eq htitle]
  exact parallel_checked _ _

theorem parallel_declaration (o : Options) : C.Parallel Eq (declaration o) (declaration o) := by
  refine parallel_by ?_ ?_
  · intro t u htu
    simp only [C.kind_eq htu]
  · intro t
    split
    · exact parallel_pure rfl
    · exact parallel_then (parallel_model o) fun _ => parallel_pure rfl
    · exact parallel_then parallel_binding fun _ => parallel_pure rfl
    · exact parallel_then parallel_binding fun _ => parallel_pure rfl
    · exact parallel_then parallel_binding fun _ => parallel_pure rfl
    · exact parallel_then parallel_page fun _ => parallel_pure rfl
    · exact parallel_then (parallel_passOver o _) fun _ => parallel_pure rfl

/-- **Corresponding runs.** Reading an application from corresponding tokens gives the same application or corresponding
faults, and corresponding notes on the way. -/
theorem parallel_app (o : Options) : C.Parallel Eq (app o) (app o) := by
  refine parallel_then (parallel_many (parallel_declaration o)) fun ds => ?_
  exact parallel_then (parallel_note (.parsed _)) fun _ => parallel_pure rfl

end Correspondence

end Pagewright.Grammar
