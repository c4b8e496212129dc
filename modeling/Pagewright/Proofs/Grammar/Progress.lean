/-
Progress of the parsers. A parser that is started before an end of the source passes tokens of which none is that end, so
it cannot run past it, and every item of a repetition takes a token (`Forward`). A repetition is therefore over after
finitely many steps: it is the unbounded loop (`Repeats`) that `many` computes (`loops`). This holds from any token
list with an end at its end, also when other ends come before it and after any operations, failed ones included
(`parser_stays_before_end`).

Nothing is assumed of the tokens but that their end is somewhere ahead; so nothing here rests on what the rules accept.
-/
import Pagewright.Grammar.Operation
import Pagewright.Proofs.Grammar.Repetition

namespace Pagewright.Grammar

open Pagewright.Grammar.Parser

/-! ## Passing tokens -/

def EndAhead (s : Session) : Prop := ∃ t ∈ s.ahead, t.kind = .finish

/-- the session goes from `s` past the tokens `ts`, none of which is an end, to `s'` -/
structure Onward (s : Session) (ts : List Token) (s' : Session) : Prop where
  ahead : s.ahead = ts ++ s'.ahead
  position : s'.position = s.position + ts.length
  inside : ∀ t ∈ ts, t.kind ≠ .finish

theorem Onward.refl (s : Session) : Onward s [] s := ⟨rfl, rfl, List.forall_mem_nil _⟩

theorem Onward.trans {s m s' : Session} {ts us : List Token} (h : Onward s ts m) (h' : Onward m us s') :
    Onward s (ts ++ us) s' := by
  refine ⟨?_, ?_, List.forall_mem_append.2 ⟨h.inside, h'.inside⟩⟩
  · rw [h.ahead, h'.ahead, List.append_assoc]
  · rw [h'.position, h.position, List.length_append, Nat.add_assoc]

/-- an end that is ahead stays ahead -/
theorem Onward.endAhead {s s' : Session} {ts : List Token} (h : Onward s ts s') (hs : EndAhead s) : EndAhead s' := by
  obtain ⟨t, ht, hk⟩ := hs
  rw [h.ahead, List.mem_append] at ht
  rcases ht with ht | ht
  · exact absurd hk (h.inside t ht)
  · exact ⟨t, ht, hk⟩

theorem Onward.length {s s' : Session} {ts : List Token} (h : Onward s ts s') :
    s.ahead.length = ts.length + s'.ahead.length := by
  rw [h.ahead, List.length_append]

theorem onward_pass {s : Session} {t : Token} {r : List Token} (hs : s.ahead = t :: r) (ht : t.kind ≠ .finish) :
    Onward s [t] s.pass := by
  refine ⟨?_, rfl, List.forall_mem_singleton.2 ht⟩
  rw [hs, Session.pass, hs]
  rfl

theorem EndAhead.exists_cons {s : Session} (h : EndAhead s) : ∃ t r, s.ahead = t :: r := by
  obtain ⟨t, ht, -⟩ := h
  exact List.exists_cons_of_ne_nil (List.ne_nil_of_mem ht)

/-! ## Going forward -/

section

variable {α β : Type}

/-- the parser passes tokens, comes to an outcome, and has passed at least one token when it gives something `moving` -/
def ForwardFrom (s : Session) (p : Parser α) (moving : α → Prop) : Prop :=
  ∃ ts, Onward s ts (p s).2 ∧ (p s).1 ≠ .error .endless ∧ ∀ a, (p s).1 = .ok a → moving a → ts ≠ []

/-- the parser goes forward from wherever an end is ahead -/
def Forward (p : Parser α) (moving : α → Prop) : Prop := ∀ s, EndAhead s → ForwardFrom s p moving

/-- the parser goes forward when a certain token is at hand -/
def ForwardAt (t : Token) (p : Parser α) (moving : α → Prop) : Prop :=
  ∀ s r, s.ahead = t :: r → EndAhead s → ForwardFrom s p moving

variable {p : Parser α} {f : α → Parser β} {P P' : α → Prop} {Q : α → β → Prop} {R : β → Prop} {t : Token}

theorem Forward.at (h : Forward p P) (t : Token) : ForwardAt t p P := fun s _ _ hs => h s hs

theorem ForwardFrom.mono {s : Session} (h : ForwardFrom s p P) (hP : ∀ a, P' a → P a) : ForwardFrom s p P' := by
  obtain ⟨ts, hpass, hend, hmove⟩ := h
  exact ⟨ts, hpass, hend, fun a ha ha' => hmove a ha (hP a ha')⟩

theorem Forward.mono (h : Forward p P) (hP : ∀ a, P' a → P a) : Forward p P' := fun s hs => (h s hs).mono hP

/-- what is known of a session that a parser leads to -/
theorem ForwardFrom.exists_onward {s m : Session} {r : Except Fault α} (h : ForwardFrom s p P) (hp : p s = (r, m)) :
    ∃ ts, Onward s ts m ∧ r ≠ .error .endless ∧ ∀ a, r = .ok a → P a → ts ≠ [] := by
  rw [ForwardFrom, hp] at h
  exact h

theorem forwardFrom_of_ok {s s' : Session} {a : α} {ts : List Token} (h : p s = (.ok a, s')) (hpass : Onward s ts s')
    (hmove : P a → ts ≠ []) : ForwardFrom s p P := by
  rw [ForwardFrom, h]
  refine ⟨ts, hpass, ?_, ?_⟩
  · intro he
    cases he
  · intro b hb hPb
    cases hb
    exact hmove hPb

theorem forwardFrom_of_error {s s' : Session} {e : Fault} {ts : List Token} (h : p s = (.error e, s'))
    (hpass : Onward s ts s') (he : e ≠ .endless) : ForwardFrom s p P := by
  rw [ForwardFrom, h]
  refine ⟨ts, hpass, fun h' => he (Except.error.inj h'), ?_⟩
  intro b hb
  cases hb

theorem forward_pure {a : α} (ha : ¬ P a) : Forward (pure a : Parser α) P :=
  fun s _ => forwardFrom_of_ok rfl (Onward.refl s) fun h => absurd h ha

theorem forward_none : Forward (pure none : Parser (Option α)) (·.isSome = true) := forward_pure Bool.false_ne_true

theorem forward_fail {e : Fault} (he : e ≠ .endless) (P : α → Prop) : Forward (fail e : Parser α) P :=
  fun s _ => forwardFrom_of_error rfl (Onward.refl s) he

/-- a sequence goes forward, and passes a token where one of its parts does -/
theorem ForwardFrom.bind {s : Session} (hs : EndAhead s) (hp : ForwardFrom s p P) (hf : ∀ a, Forward (f a) (Q a))
    (hR : ∀ a b, R b → P a ∨ Q a b) : ForwardFrom s (p >>= f) R := by
  cases hps : p s with
  | mk r m =>
    obtain ⟨ts, hpass, hend, hmove⟩ := hp.exists_onward hps
    cases r with
    | error e =>
      have hbind : (p >>= f) s = (.error e, m) := (bind_eq_error p f s m e).2 (Or.inl hps)
      exact forwardFrom_of_error hbind hpass fun he => hend (congrArg Except.error he)
    | ok a =>
      have hbind : (p >>= f) s = f a m := by
        show andThen p f s = f a m
        rw [andThen, hps]
      obtain ⟨us, hpass', hend', hmove'⟩ := hf a m (hpass.endAhead hs)
      rw [ForwardFrom, hbind]
      refine ⟨ts ++ us, hpass.trans hpass', hend', fun b hb hRb hnil => ?_⟩
      obtain ⟨hts, hus⟩ := List.append_eq_nil_iff.1 hnil
      rcases hR a b hRb with ha | hb'
      · exact hmove a rfl ha hts
      · exact hmove' b hb hb' hus

theorem forward_bind (hp : Forward p P) (hf : ∀ a, Forward (f a) (Q a)) (hR : ∀ a b, R b → P a ∨ Q a b) :
    Forward (p >>= f) R :=
  fun s hs => (hp s hs).bind hs hf hR

/-- a sequence whose first part passes a token -/
theorem forward_first (hp : Forward p fun _ => True) (hf : ∀ a, Forward (f a) fun _ => False) :
    Forward (p >>= f) fun _ => True :=
  forward_bind hp hf fun _ _ _ => Or.inl trivial

/-- a sequence of which no token is asked -/
theorem forward_then (hp : Forward p P) (hf : ∀ a, Forward (f a) fun _ => False) : Forward (p >>= f) fun _ => False :=
  forward_bind hp hf fun _ _ h => h.elim

theorem forwardAt_then (hp : ForwardAt t p P) (hf : ∀ a, Forward (f a) fun _ => False) :
    ForwardAt t (p >>= f) fun _ => False :=
  fun s r hr hs => (hp s r hr hs).bind hs hf fun _ _ h => h.elim

theorem forwardAt_first (hp : ForwardAt t p fun _ => True) (hf : ∀ a, Forward (f a) fun _ => False) :
    ForwardAt t (p >>= f) R :=
  fun s r hr hs => (hp s r hr hs).bind hs hf fun _ _ _ => Or.inl trivial

/-! ## Single tokens -/

/-- a parser that goes by the token at hand -/
theorem forward_current {f : Token → Parser β} (h : ∀ t, ForwardAt t (f t) R) : Forward (current >>= f) R := by
  intro s hs
  obtain ⟨t, r, hr⟩ := hs.exists_cons
  obtain ⟨ts, hpass, hend, hmove⟩ := h t s r hr hs
  rw [ForwardFrom, current_bind hr]
  exact ⟨ts, hpass, hend, hmove⟩

theorem forward_sees {ks : List Kind} {f : Bool → Parser β} (h : ∀ t, ForwardAt t (f (ks.contains t.kind)) R) :
    Forward (sees ks >>= f) R := by
  intro s hs
  obtain ⟨t, r, hr⟩ := hs.exists_cons
  have hsees : sees ks s = (.ok (ks.contains t.kind), s) := current_bind hr _
  have hbind : (sees ks >>= f) s = f (ks.contains t.kind) s := by
    show andThen (sees ks) f s = _
    rw [andThen, hsees]
  rw [ForwardFrom, hbind]
  exact h t s r hr hs

theorem forward_mismatch (x : String) (P : α → Prop) : Forward (mismatch x : Parser α) P :=
  forward_current fun t => (forward_fail (Fault.noConfusion) P).at t

/-- the end of the source is not passed, and every other token is -/
theorem forwardAt_advance (t : Token) : ForwardAt t advance fun u => u.kind ≠ .finish := by
  intro s r hr _
  by_cases ht : t.kind = .finish
  · have hstay : advance s = (.ok t, s) := by simp [advance, Session.current?_of_cons hr, ht]
    exact forwardFrom_of_ok hstay (Onward.refl s) fun hne => absurd ht hne
  · exact forwardFrom_of_ok (advance_eq hr ht) (onward_pass hr ht) fun _ => List.cons_ne_nil t []

theorem forward_advance : Forward advance fun u => u.kind ≠ .finish := by
  intro s hs
  obtain ⟨t, r, hr⟩ := hs.exists_cons
  exact forwardAt_advance t s r hr hs

/-- at a token that is no end, passing one is passing that one -/
theorem forwardAt_advance_of_ne (ht : t.kind ≠ .finish) : ForwardAt t advance fun _ => True := by
  intro s r hr _
  exact forwardFrom_of_ok (advance_eq hr ht) (onward_pass hr ht) fun _ => List.cons_ne_nil t []

/-- whatever kind is expected, the end of the source included -/
theorem forward_expect_any (k : Kind) : Forward (expect k) fun _ => False := by
  refine forward_current fun t => ?_
  split_ifs
  · exact fun s r hr hs => (forwardAt_advance t s r hr hs).mono fun _ h => h.elim
  · exact (forward_mismatch _ _).at t

/-- one token of a class, or an error -/
theorem forward_class {C : Token → Prop} [DecidablePred C] (hC : ∀ t, C t → t.kind ≠ .finish) (x : String) :
    Forward (current >>= fun t => if C t then advance else mismatch x) fun _ => True := by
  refine forward_current fun t => ?_
  split_ifs with ht
  · exact forwardAt_advance_of_ne (hC t ht)
  · exact (forward_mismatch x _).at t

theorem forward_expect {k : Kind} (hk : k ≠ .finish) : Forward (expect k) fun _ => True :=
  forward_class (C := fun t => t.kind = k) (fun _ ht => ht ▸ hk) _

theorem forward_nameToken : Forward nameToken fun _ => True :=
  forward_class (C := fun t => t.kind.isName = true) (fun _ ht => isName_ne_finish ht) _

theorem forward_note (n : Note) : Forward (note n) fun _ => False := by
  intro s _
  have hstay : Onward s [] (note n s).2 := ⟨rfl, rfl, List.forall_mem_nil _⟩
  exact forwardFrom_of_ok rfl hstay False.elim

theorem forward_passOver (o : Options) (x : String) : Forward (passOver o x) fun _ => False := by
  unfold passOver
  split_ifs
  · exact forward_then forward_advance fun t => forward_note _
  · exact forward_mismatch x _

theorem forwardAt_passOver (ht : t.kind ≠ .finish) (o : Options) (x : String) :
    ForwardAt t (passOver o x) fun _ => True := by
  unfold passOver
  split_ifs
  · exact forwardAt_first (forwardAt_advance_of_ne ht) fun t => forward_note _
  · exact (forward_mismatch x _).at t

theorem forward_checked (issues : List Check.Issue) (a : α) : Forward (checked issues a) fun _ => False := by
  unfold checked
  split_ifs
  · exact forward_pure id
  · exact forward_fail Fault.noConfusion _

/-! ## Repetitions -/

/-- a step is repeated, without a bound, until it gives nothing or fails; what comes of it, and where -/
inductive Repeats (step : Parser (Option α)) : Session → Except Fault (List α) → Session → Prop
  | stop {s m : Session} (h : step s = (.ok none, m)) : Repeats step s (.ok []) m
  | fault {s m : Session} {f : Fault} (h : step s = (.error f, m)) : Repeats step s (.error f) m
  | more {s m s' : Session} {a : α} {r : Except Fault (List α)} (h : step s = (.ok (some a), m)) (hr : Repeats step m r s') :
      Repeats step s (r.map (a :: ·)) s'

variable {step : Parser (Option α)}

/-- with more steps allowed than there are tokens, the bound is not met -/
theorem repeats_manyWithin (h : Forward step (·.isSome = true)) {n : Nat} {s : Session} (hs : EndAhead s)
    (hn : s.ahead.length < n) : Repeats step s (manyWithin step n s).1 (manyWithin step n s).2 := by
  induction n generalizing s with
  | zero => exact absurd hn (Nat.not_lt_zero _)
  | succ n ih =>
    cases hstep : step s with
    | mk x m =>
      obtain ⟨ts, hpass, -, hmove⟩ := (h s hs).exists_onward hstep
      cases x with
      | error f =>
        rw [manyWithin_of_error hstep]
        exact .fault hstep
      | ok x =>
        cases x with
        | none =>
          rw [manyWithin_of_none hstep]
          exact .stop hstep
        | some a =>
          -- the step has passed a token, so one step less is still more than there are tokens
          have hpos : 0 < ts.length := List.length_pos_iff.2 (hmove (some a) rfl rfl)
          have hlength := hpass.length
          rw [manyWithin_of_some hstep]
          exact .more hstep (ih (hpass.endAhead hs) (by omega))

/-- the loop of a step comes to its end, and to what the repetition gives -/
def Loops (step : Parser (Option α)) (s : Session) : Prop := Repeats step s (many step s).1 (many step s).2

/-- **The unbounded loop.** A repetition is what comes of its step, repeated until it gives nothing or fails. -/
theorem loops (h : Forward step (·.isSome = true)) {s : Session} (hs : EndAhead s) : Loops step s :=
  repeats_manyWithin h hs (Nat.lt_succ_self _)

/-- a loop passes the tokens that its steps pass -/
theorem Repeats.exists_onward {moving : Option α → Prop} (h : Forward step moving) {s s' : Session}
    {r : Except Fault (List α)} (hr : Repeats step s r s') (hs : EndAhead s) :
    ∃ ts, Onward s ts s' ∧ r ≠ .error .endless := by
  induction hr with
  | @stop s m hstep =>
    obtain ⟨ts, hpass, -⟩ := (h s hs).exists_onward hstep
    refine ⟨ts, hpass, fun he => ?_⟩
    cases he
  | @fault s m f hstep =>
    obtain ⟨ts, hpass, hend, -⟩ := (h s hs).exists_onward hstep
    refine ⟨ts, hpass, fun he => hend ?_⟩
    rw [Except.error.inj he]
  | @more s m s' a r hstep _ ih =>
    obtain ⟨ts, hpass, -⟩ := (h s hs).exists_onward hstep
    obtain ⟨us, hpass', hend⟩ := ih (hpass.endAhead hs)
    refine ⟨ts ++ us, hpass.trans hpass', fun he => ?_⟩
    cases r with
    | error f => exact hend he
    | ok as => cases he

/-- a loop that ends well ends where its step gives nothing -/
theorem Repeats.exists_stop {moving : Option α → Prop} (h : Forward step moving) {s s' : Session}
    {r : Except Fault (List α)} (hr : Repeats step s r s') (hs : EndAhead s) {as : List α} (hok : r = .ok as) :
    ∃ m, EndAhead m ∧ step m = (.ok none, s') := by
  induction hr generalizing as with
  | @stop s m hstep => exact ⟨s, hs, hstep⟩
  | fault => cases hok
  | @more s m s' a r hstep _ ih =>
    obtain ⟨ts, hpass, -⟩ := (h s hs).exists_onward hstep
    cases r with
    | error f => cases hok
    | ok bs => exact ih (hpass.endAhead hs) rfl

theorem forward_many (h : Forward step (·.isSome = true)) : Forward (many step) fun _ => False := by
  intro s hs
  obtain ⟨ts, hpass, hend⟩ := Repeats.exists_onward h (loops h hs) hs
  exact ⟨ts, hpass, hend, fun _ _ h => h.elim⟩

end

/-! ## Rules -/

theorem forward_literal : Forward literal fun _ => True := by
  refine forward_current fun t => ?_
  split
  · rename_i hk
    exact forwardAt_first (forwardAt_advance_of_ne (by simp [hk])) fun _ => forward_pure id
  · rename_i hk
    refine forwardAt_first (forwardAt_advance_of_ne (by simp [hk])) fun _ => ?_
    split
    · exact forward_pure id
    · exact forward_fail Fault.noConfusion _
  · rename_i hk
    split
    · exact forwardAt_first (forwardAt_advance_of_ne (by simp [hk])) fun _ => forward_pure id
    · exact (forward_mismatch _ _).at t
  · exact (forward_mismatch _ _).at t

variable (o : Options)

theorem forward_modifier : Forward (modifier o) (·.isSome = true) := by
  refine forward_current fun t => ?_
  split_ifs with hk
  · have ht : t.kind ≠ .finish := by simp [hk]
    exact forwardAt_first (forwardAt_advance_of_ne ht) fun _ => forward_pure id
  · have ht : t.kind ≠ .finish := by simp [hk]
    refine forwardAt_first (forwardAt_advance_of_ne ht) fun _ => ?_
    refine forward_then (forward_expect (by decide)) fun _ => ?_
    exact forward_then forward_literal fun _ => forward_pure id
  · have ht : t.kind ≠ .finish := by simp [hk]
    exact forwardAt_first (forwardAt_passOver ht o _) fun _ => forward_pure id
  · exact forward_none.at t

theorem forward_field : Forward (field o) fun _ => True := by
  refine forward_first (forward_expect (by decide)) fun _ => ?_
  refine forward_then forward_nameToken fun name => ?_
  refine forward_then (forward_expect (by decide)) fun _ => ?_
  refine forward_then forward_nameToken fun type => ?_
  split_ifs
  · exact forward_fail Fault.noConfusion _
  · refine forward_then (forward_many (forward_modifier o)) fun ms => ?_
    exact forward_then (forward_expect (by decide)) fun _ => forward_checked _ _

theorem forward_modelPart : Forward (modelPart o) (·.isSome = true) := by
  refine forward_current fun t => ?_
  split
  · exact forward_none.at t
  · exact (forward_mismatch _ _).at t
  · exact forwardAt_first ((forward_field o).at t) fun _ => forward_pure id
  · rename_i hfinish _
    exact forwardAt_first (forwardAt_passOver hfinish o _) fun _ => forward_pure id

theorem forward_model : Forward (model o) fun _ => True := by
  refine forward_first (forward_expect (by decide)) fun _ => ?_
  refine forward_then forward_nameToken fun name => ?_
  refine forward_then (forward_expect (by decide)) fun _ => ?_
  refine forward_then (forward_many (forward_modelPart o)) fun parts => ?_
  exact forward_then (forward_expect (by decide)) fun _ => forward_checked _ _

theorem forward_nextName : Forward nextName (·.isSome = true) := by
  refine forward_sees fun t => ?_
  split_ifs with hk
  · have ht : t.kind ≠ .finish := by
      intro h
      rw [h] at hk
      cases hk
    refine forwardAt_first (forwardAt_advance_of_ne ht) fun _ => ?_
    exact forward_then forward_nameToken fun _ => forward_pure id
  · exact forward_none.at t

theorem forward_nameList : Forward nameList fun _ => False := by
  refine forward_current fun t => ?_
  split_ifs
  · refine forwardAt_then (forward_nameToken.at t) fun first => ?_
    exact forward_then (forward_many forward_nextName) fun rest => forward_pure id
  · exact (forward_pure id).at t

/-- a binding whose first token is no end has passed it, and one whose first token is an end fails -/
theorem forward_binding : Forward binding fun _ => True := by
  have hfirst : ∀ (t : Token) (c : Component), True → t.kind ≠ .finish ∨ t.kind = .finish := fun t _ _ =>
    (em (t.kind = .finish)).symm
  refine forward_bind forward_advance (fun t => ?_) hfirst
  split
  · exact forward_fail Fault.noConfusion _
  · rename_i kind hkind
    have hne : t.kind ≠ .finish := by
      intro h
      rw [h] at hkind
      cases hkind
    refine Forward.mono (P := fun _ => False) ?_ fun _ h => hne h
    refine forward_then forward_nameToken fun name => ?_
    refine forward_then (forward_expect (by decide)) fun _ => ?_
    refine forward_then forward_nameToken fun model => ?_
    refine forward_then (forward_expect (by decide)) fun _ => ?_
    refine forward_then (forward_expect (by decide)) fun _ => ?_
    refine forward_then forward_nameList fun fields => ?_
    exact forward_then (forward_expect (by decide)) fun _ => forward_checked _ _

theorem forward_page : Forward page fun _ => True := by
  refine forward_first (forward_expect (by decide)) fun _ => ?_
  refine forward_then forward_nameToken fun name => ?_
  refine forward_then (forward_expect (by decide)) fun _ => ?_
  refine forward_then (forward_expect (by decide)) fun title => ?_
  refine forward_then (forward_expect (by decide)) fun _ => ?_
  refine forward_then (forward_expect (by decide)) fun _ => ?_
  refine forward_then forward_nameList fun components => ?_
  exact forward_then (forward_expect (by decide)) fun _ => forward_checked _ _

theorem forward_declaration : Forward (declaration o) (·.isSome = true) := by
  refine forward_current fun t => ?_
  split
  · exact forward_none.at t
  · exact forwardAt_first ((forward_model o).at t) fun _ => forward_pure id
  · exact forwardAt_first (forward_binding.at t) fun _ => forward_pure id
  · exact forwardAt_first (forward_binding.at t) fun _ => forward_pure id
  · exact forwardAt_first (forward_binding.at t) fun _ => forward_pure id
  · exact forwardAt_first (forward_page.at t) fun _ => forward_pure id
  · rename_i hfinish _ _ _ _ _
    exact forwardAt_first (forwardAt_passOver hfinish o _) fun _ => forward_pure id

theorem forward_app : Forward (app o) fun _ => False := by
  refine forward_then (forward_many (forward_declaration o)) fun ds => ?_
  exact forward_then (forward_note _) fun _ => forward_pure id

/-! ## Operations -/

/-- **One step.** Every operation goes forward. -/
theorem Operation.forward (op : Operation) : Forward (op.parser o) fun _ => False := by
  cases op with
  | advance => exact forward_then forward_advance fun _ => forward_pure id
  | expect k => exact forward_then (forward_expect_any k) fun _ => forward_pure id
  | nameToken => exact forward_then forward_nameToken fun _ => forward_pure id
  | passOver expected => exact forward_then (forward_passOver o expected) fun _ => forward_pure id
  | literal => exact forward_then forward_literal fun _ => forward_pure id
  | nameList => exact forward_then forward_nameList fun _ => forward_pure id
  | field => exact forward_then (forward_field o) fun _ => forward_pure id
  | model => exact forward_then (forward_model o) fun _ => forward_pure id
  | binding => exact forward_then forward_binding fun _ => forward_pure id
  | page => exact forward_then forward_page fun _ => forward_pure id
  | app => exact forward_then (forward_app o) fun _ => forward_pure id

variable {ts : List Token}

theorem Session.reached_concat (ops : List Operation) (op : Operation) :
    Session.reached o ts (ops ++ [op]) = (op.parser o (Session.reached o ts ops)).2 := by
  simp [Session.reached]

/-- **A run.** After any operations, failed ones included, tokens are passed of which none is an end. -/
theorem exists_onward_reached (h : EndAhead (Session.start ts)) (ops : List Operation) :
    ∃ passed, Onward (Session.start ts) passed (Session.reached o ts ops) := by
  induction ops using List.reverseRecOn with
  | nil => exact ⟨[], Onward.refl _⟩
  | append_singleton ops op ih =>
    obtain ⟨passed, hpass⟩ := ih
    obtain ⟨us, hpass', -⟩ := op.forward o _ (hpass.endAhead h)
    refine ⟨passed ++ us, ?_⟩
    rw [Session.reached_concat]
    exact hpass.trans hpass'

/-- the place of the first end among tokens -/
def firstEnd (ts : List Token) : Nat := ts.findIdx fun t => t.kind = .finish

theorem firstEnd_append {passed : List Token} (h : ∀ t ∈ passed, t.kind ≠ .finish) (rest : List Token) :
    firstEnd (passed ++ rest) = firstEnd rest + passed.length := by
  have hnone : passed.findIdx (fun t => t.kind = .finish) = passed.length :=
    List.findIdx_eq_length.2 fun t ht => decide_eq_false (h t ht)
  rw [firstEnd, List.findIdx_append, hnone, if_neg (Nat.lt_irrefl _), firstEnd]

theorem Onward.position_eq_length {passed : List Token} {s : Session} (h : Onward (Session.start ts) passed s) :
    s.position = passed.length := by
  rw [h.position, Session.start, Nat.zero_add]

theorem Onward.position_le {passed : List Token} {s : Session} (h : Onward (Session.start ts) passed s) :
    s.position ≤ firstEnd ts := by
  have hts : ts = passed ++ s.ahead := h.ahead
  rw [h.position_eq_length, hts, firstEnd_append h.inside]
  exact Nat.le_add_left _ _

theorem Onward.position_eq {passed : List Token} {s : Session} (h : Onward (Session.start ts) passed s) {t : Token}
    {r : List Token} (hs : s.ahead = t :: r) (ht : t.kind = .finish) : s.position = firstEnd ts := by
  have hts : ts = passed ++ s.ahead := h.ahead
  have hhead : firstEnd (t :: r) = 0 := by simp [firstEnd, List.findIdx_cons, ht]
  rw [h.position_eq_length, hts, firstEnd_append h.inside, hs, hhead, Nat.zero_add]

/-! ## Whole applications -/

/-- declarations are over only at an end -/
theorem declaration_eq_none {s s' : Session} (hs : EndAhead s) (h : declaration o s = (.ok none, s')) :
    ∃ t r, s'.ahead = t :: r ∧ t.kind = .finish := by
  obtain ⟨t, r, hr⟩ := hs.exists_cons
  -- before any other token something is read, if only a token that is skipped
  have hsome : ∀ {α : Type} {p : Parser α} {g : α → Declaration}, (p >>= fun a => pure (some (g a))) s ≠ (.ok none, s') := by
    intro α p g hp
    obtain ⟨a, m, -, hpure⟩ := (bind_eq_ok _ _ _ _ _).1 hp
    cases hpure
  unfold declaration at h
  rw [current_bind hr] at h
  cases hk : t.kind with
  | finish =>
    rw [hk] at h
    obtain ⟨-, rfl⟩ := (pure_eq_ok _ _ _ _).1 h
    exact ⟨t, r, hr, hk⟩
  | _ =>
    rw [hk] at h
    exact absurd h hsome

theorem app_eq_ok_at_end {s : Session} (hs : EndAhead s) {a : App} (h : (app o s).1 = .ok a) :
    ∃ t r, (app o s).2.ahead = t :: r ∧ t.kind = .finish := by
  obtain ⟨ds, m, hmany, hrest⟩ := (bind_eq_ok _ _ _ _ _).1 (Prod.ext h rfl : app o s = (.ok a, (app o s).2))
  have hloop : Loops (declaration o) s := loops (forward_declaration o) hs
  obtain ⟨m₀, hm₀, hstop⟩ := Repeats.exists_stop (forward_declaration o) hloop hs (congrArg Prod.fst hmany)
  rw [hmany] at hstop
  obtain ⟨t, r, hr, ht⟩ := declaration_eq_none o hm₀ hstop
  refine ⟨t, r, ?_, ht⟩
  have hnote : (app o s).2 = m.note (.parsed (appOf ds)) := by
    obtain ⟨u, m', hm', hpure⟩ := (bind_eq_ok _ _ _ _ _).1 hrest
    cases hm'
    exact ((pure_eq_ok _ _ _ _).1 hpure).2
  rw [hnote]
  exact hr

/-- at an end there is nothing to declare -/
theorem app_at_end {s : Session} {t : Token} {r : List Token} (hs : s.ahead = t :: r) (ht : t.kind = .finish) :
    app o s = (.ok .empty, s.note (.parsed .empty)) := by
  have hstep : declaration o s = (.ok none, s) := by
    unfold declaration
    rw [current_bind hs, ht]
    rfl
  have hmany : many (declaration o) s = (.ok [], s) := manyWithin_of_none hstep _
  show andThen (many (declaration o)) _ s = _
  rw [andThen, hmany]
  rfl

theorem parser_app (s : Session) : Operation.app.parser o s = ((app o s).1.map Answer.app, (app o s).2) := by
  show andThen (app o) (fun a => done (Answer.app a)) s = _
  rcases happ : app o s with ⟨f | a, m⟩
  · rw [andThen, happ]
    rfl
  · rw [andThen, happ]
    rfl

/-- **The parser ends, and before the end.** On tokens that end with an end of the source, with other ends anywhere before it,
every operation after any others comes to an outcome. It does not go back and does not go past the first end; and each of
the four loops of the grammar, repeated without a bound, is over where the repetition says. An application that is read
leaves the session at the first end, and reading once more gives the empty one. -/
theorem parser_stays_before_end (h : ts.getLast?.map Token.kind = some .finish) (ops : List Operation) (op : Operation) :
    let s := Session.reached o ts ops
    let r := op.parser o s
    (s.position ≤ r.2.position ∧ r.2.position ≤ firstEnd ts ∧ r.2.ahead = ts.drop r.2.position) ∧
      r.1 ≠ .error .endless ∧
      (Loops (modifier o) s ∧ Loops (modelPart o) s ∧ Loops nextName s ∧ Loops (declaration o) s) ∧
      ∀ x, (Operation.app.parser o s).1 = .ok x →
        let s' := (Operation.app.parser o s).2
        s'.position = firstEnd ts ∧ (Operation.app.parser o s').1 = .ok (.app .empty) ∧
          (Operation.app.parser o s').2.position = firstEnd ts := by
  intro s r
  have hstart : EndAhead (Session.start ts) := by
    obtain ⟨e, he, hk⟩ := Option.map_eq_some_iff.1 h
    exact ⟨e, List.mem_of_getLast? he, hk⟩
  obtain ⟨passed, hpass⟩ := exists_onward_reached o hstart ops
  have hs : EndAhead s := hpass.endAhead hstart
  obtain ⟨us, hstep, hend, -⟩ := op.forward o s hs
  have hnext : Onward (Session.start ts) (passed ++ us) r.2 := hpass.trans hstep
  refine ⟨⟨?_, hnext.position_le, ?_⟩, hend, ?_, ?_⟩
  · rw [hstep.position]
    exact Nat.le_add_right _ _
  · have hts : ts = (passed ++ us) ++ r.2.ahead := hnext.ahead
    rw [hnext.position_eq_length]
    conv_rhs => rw [hts]
    exact List.drop_left.symm
  · exact ⟨loops (forward_modifier o) hs, loops (forward_modelPart o) hs, loops forward_nextName hs,
      loops (forward_declaration o) hs⟩
  · intro x hx
    have happ : ∃ a, (app o s).1 = .ok a := by
      rw [parser_app] at hx
      cases ha : (app o s).1 with
      | error f =>
        rw [ha] at hx
        cases hx
      | ok a => exact ⟨a, rfl⟩
    obtain ⟨a, ha⟩ := happ
    obtain ⟨t, rest, hahead, ht⟩ := app_eq_ok_at_end o hs ha
    obtain ⟨vs, happ', -⟩ := forward_app o s hs
    have hposition : (app o s).2.position = firstEnd ts := (hpass.trans happ').position_eq hahead ht
    simp only [parser_app, app_at_end o hahead ht]
    exact ⟨hposition, rfl, hposition⟩

/-- a token that is skipped, an end, and more behind it -/
def twoEnds : List Token :=
  [⟨.identifier, "x", 1, 1⟩, ⟨.finish, "", 1, 2⟩, ⟨.page, "page", 1, 2⟩, ⟨.finish, "", 1, 6⟩]

theorem parser_stays_before_end_twice :
    twoEnds.getLast?.map Token.kind = some .finish ∧ firstEnd twoEnds = 1 ∧
      (Operation.page.parser .standard (Session.start twoEnds)).1 ≠ .error .endless ∧
      (Operation.app.parser .standard (Session.reached .standard twoEnds [.page])).2.position = 1 ∧
      (Operation.app.parser .standard (Session.reached .standard twoEnds [.page, .app])).1 = .ok (.app .empty) := by
  have hlast : twoEnds.getLast?.map Token.kind = some .finish := rfl
  have happ : (Operation.app.parser .standard (Session.reached .standard twoEnds [.page])).1 = .ok (.app .empty) := rfl
  obtain ⟨-, -, -, hread⟩ := parser_stays_before_end .standard hlast [.page] .app
  obtain ⟨hposition, hagain, -⟩ := hread _ happ
  exact ⟨hlast, rfl, (parser_stays_before_end .standard hlast [] .page).2.1, hposition, hagain⟩

/-- tokens without an end are skipped forever -/
example : (app .standard (Session.start [⟨.identifier, "x", 1, 1⟩])).1 = .error .endless := rfl

end Pagewright.Grammar
