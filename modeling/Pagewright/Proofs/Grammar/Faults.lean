/-
What reading can fail with. On the tokens of a source every fault is a token that does not fit or a default that is an
integer of too many digits. No name is refused, since every name token is a name, no repetition is endless, and there is
always a token at hand.

`Fails p Q` says so of a parser, and that the second kind of fault comes up exactly after the tokens of the rule `Q`. It is
carried through the grammar beside acceptance, which tells where the parts before a failing one come to. `fails_app` sums
up: an integer is refused exactly where the tokens are declarations, then a model up to one of its defaults, all as they
should be, and then an integer of more than 4300 digits.
-/
import Pagewright.Proofs.Grammar.Derivation
import Pagewright.Proofs.Grammar.Repetition

namespace Pagewright.Grammar

open Pagewright.Grammar.Parser

/-! ## Integers that are too long -/

/-- a number without a point that has too many digits -/
def IsOverlong (t : Token) : Prop := t.kind = .number ∧ '.' ∉ t.value.toList ∧ 4300 < t.value.toList.length

/-- a value up to where it is refused: one token -/
def overlongLiteral : Rule Unit := do
  let _ ← Rule.token IsOverlong
  pure ()

/-- a `default` modifier up to a value that is refused -/
def overlongDefault : Rule Unit := do
  let _ ← Rule.token (IsWord "default")
  let _ ← Rule.token (·.kind = .equals)
  overlongLiteral

/-- tokens of a field up to such a default -/
def overlongField (o : Options) : Rule Unit := do
  let _ ← Rule.token (·.kind = .field)
  let _ ← Rule.token (·.kind.isName = true)
  let _ ← Rule.token (·.kind = .colon)
  let type ← Rule.token (·.kind.isName = true)
  Rule.given (o.strictTypes = true → (FieldKind.ofName? type.value).isSome = true) ()
  let _ ← Rule.star (modifierRule o)
  overlongDefault

/-- tokens of a model up to such a default -/
def overlongModel (o : Options) : Rule Unit := do
  let _ ← Rule.token (·.kind = .model)
  let _ ← Rule.token (·.kind.isName = true)
  let _ ← Rule.token (·.kind = .leftBrace)
  let _ ← Rule.star (modelPartRule o)
  overlongField o

/-- tokens of an application up to such a default -/
def overlongApp (o : Options) : Rule Unit := do
  let _ ← Rule.star (declarationRule o)
  overlongModel o

def Rule.never : Rule Unit := fun _ _ _ => False

@[simp] theorem Rule.never_iff (ts sk : List Token) (u : Unit) : Rule.never ts sk u ↔ False := Iff.rfl

theorem Rule.bind_never {α : Type} (R : Rule α) : (R >>= fun _ => Rule.never) = Rule.never := by
  funext ts sk u
  simp [Rule.bind_iff]

theorem Rule.either_never (R : Rule Unit) : Rule.either R Rule.never = R := by
  funext ts sk u
  simp

theorem Rule.never_either (R : Rule Unit) : Rule.either Rule.never R = R := by
  funext ts sk u
  simp

/-- the first token of a rule that starts with one -/
theorem Rule.first_of_token {β : Type} {P : Token → Prop} {Q : Token → Rule β} {t : Token} {ts sk : List Token} {b : β}
    (h : (Rule.token P >>= Q) (t :: ts) sk b) : P t := by
  obtain ⟨u, us, heq, hu, -⟩ := (Rule.token_bind_iff P Q _ sk b).1 h
  rw [(List.cons.inj heq).1]
  exact hu

/-! ## Failure -/

/-- tokens as the lexer makes them -/
def Lexed (ts : List Token) : Prop := Ended ts ∧ ∀ t ∈ ts, t.Shaped

theorem Moves.lexed {s s' : Session} {ts sk : List Token} (h : Moves s ts sk s') (hs : Lexed s.ahead) :
    Lexed s'.ahead ∧ ∀ t ∈ ts, t.Shaped := by
  have hshaped := hs.2
  rw [h.ahead, List.forall_mem_append] at hshaped
  exact ⟨⟨h.ended hs.1, hshaped.2⟩, hshaped.1⟩

/-- what a source can fail with while it is read: a token that does not fit, or an integer of too many digits -/
def Fault.Expected (f : Fault) : Prop := (∃ e, f = .mismatch e) ∨ f = .numeral

/-- the parser fails only in the expected ways, and with an integer of too many digits exactly after the tokens of the
rule -/
structure Fails {α : Type} (p : Parser α) (Q : Rule Unit) : Prop where
  expected : ∀ {s s' : Session} {f : Fault}, Lexed s.ahead → p s = (.error f, s') → f.Expected
  overlong : ∀ {s s' : Session}, Lexed s.ahead →
    (p s = (.error .numeral, s') ↔ ∃ ts sk, Q ts sk () ∧ Moves s ts sk s')

/-- failure when a certain token is at hand -/
structure FailsAt {α : Type} (t : Token) (p : Parser α) (Q : Rule Unit) : Prop where
  expected : ∀ {s s' : Session} {f : Fault} {r : List Token}, Lexed s.ahead → s.ahead = t :: r →
    p s = (.error f, s') → f.Expected
  overlong : ∀ {s s' : Session} {r : List Token}, Lexed s.ahead → s.ahead = t :: r →
    (p s = (.error .numeral, s') ↔ ∃ ts sk, Q ts sk () ∧ Moves s ts sk s')

section

variable {α β : Type} {t : Token} {p : Parser α} {f : α → Parser β} {R : Rule α} {F : α → Kind → Prop} {N N' : Rule Unit}
  {Q : α → Rule Unit}

theorem Fails.at (h : Fails p N) (t : Token) : FailsAt t p N :=
  ⟨fun hs _ => h.expected hs, fun hs _ => h.overlong hs⟩

theorem failsAt_never (h : ∀ s s' f r, s.ahead = t :: r → p s = (.error f, s') → ∃ e, f = .mismatch e) :
    FailsAt t p .never := by
  constructor
  · intro s s' f r _ hr hf
    exact Or.inl (h s s' f r hr hf)
  · intro s s' r _ hr
    constructor
    · intro hf
      obtain ⟨e, he⟩ := h s s' _ r hr hf
      cases he
    · intro hf
      simp at hf

theorem fails_of_at (h : ∀ t, t.Shaped → FailsAt t p N) : Fails p N := by
  constructor
  · intro s s' f hs hf
    obtain ⟨t, r, hr, -⟩ := hs.1.exists_cons
    exact (h t (hs.2 t (by simp [hr]))).expected hs hr hf
  · intro s s' hs
    obtain ⟨t, r, hr, -⟩ := hs.1.exists_cons
    exact (h t (hs.2 t (by simp [hr]))).overlong hs hr

theorem fails_pure (a : α) : Fails (pure a : Parser α) .never := by
  refine fails_of_at fun t _ => failsAt_never ?_
  intro s s' f r _ hf
  cases hf

/-- a parser that goes by the token at hand -/
theorem fails_current {g : Token → Parser α} (h : ∀ t, t.Shaped → FailsAt t (g t) N) : Fails (current >>= g) N := by
  refine fails_of_at ?_
  intro t ht
  constructor
  · intro s s' f r hs hr hf
    rw [current_bind hr] at hf
    exact (h t ht).expected hs hr hf
  · intro s s' r hs hr
    rw [current_bind hr]
    exact (h t ht).overlong hs hr

/-- a choice by the kind at hand is one by the token at hand -/
theorem sees_bind (ks : List Kind) (g : Bool → Parser α) :
    (sees ks >>= g) = (current >>= fun t => g (ks.contains t.kind)) := by
  funext s
  show andThen (andThen current _) g s = andThen current _ s
  rcases hs : current s with ⟨_ | t, s'⟩
  · simp only [andThen, hs]
  · simp only [andThen, hs]
    rfl

theorem fails_sees {ks : List Kind} {g : Bool → Parser α} (h : ∀ t : Token, FailsAt t (g (ks.contains t.kind)) N) :
    Fails (sees ks >>= g) N := by
  rw [sees_bind]
  exact fails_current fun t _ => h t

/-- rules that agree on the runs of tokens that `t` starts -/
theorem FailsAt.congr (h : FailsAt t p N) (hcons : ∀ ts sk, N (t :: ts) sk () ↔ N' (t :: ts) sk ())
    (hnil : ∀ sk, ¬ N [] sk ()) (hnil' : ∀ sk, ¬ N' [] sk ()) : FailsAt t p N' := by
  refine ⟨h.expected, ?_⟩
  intro s s' r hs hr
  rw [h.overlong hs hr]
  have key : ∀ ts sk, Moves s ts sk s' → (N ts sk () ↔ N' ts sk ()) := by
    intro ts sk hm
    have hahead := hm.ahead
    rw [hr] at hahead
    cases ts with
    | nil => exact iff_of_false (hnil sk) (hnil' sk)
    | cons u ts =>
      obtain rfl : t = u := (List.cons.inj hahead).1
      exact hcons ts sk
  constructor
  · intro hf
    obtain ⟨ts, sk, hN, hm⟩ := hf
    exact ⟨ts, sk, (key ts sk hm).1 hN, hm⟩
  · intro hf
    obtain ⟨ts, sk, hN, hm⟩ := hf
    exact ⟨ts, sk, (key ts sk hm).2 hN, hm⟩

theorem FailsAt.of_never (h : FailsAt t p .never) (hcons : ∀ ts sk, ¬ N (t :: ts) sk ()) (hnil : ∀ sk, ¬ N [] sk ()) :
    FailsAt t p N :=
  h.congr (fun ts sk => iff_of_false (by simp) (hcons ts sk)) (by simp) hnil

/-! ## Sequence and repetition -/

/-- **Failure of a sequence.** It refuses an integer where its first part does, or else, after the tokens of the first part,
where the second does; what the first part finds out about the token after it has to hold there. -/
theorem failsAt_bind (hp : FailsAt t p N) (hacc : AcceptsAt t p R F)
    (hf : ∀ a ts sk, R ts sk a → (∀ t ∈ ts, t.Shaped) → Fails (f a) (Q a))
    (hF : ∀ a ts sk k, Q a ts sk () → F a (firstKind ts k)) : FailsAt t (p >>= f) (.either N (R >>= Q)) := by
  -- where the second part starts, and that it fails as it should there
  have hrest : ∀ {s m : Session} {a : α} {r : List Token}, Lexed s.ahead → s.ahead = t :: r → p s = (.ok a, m) →
      ∃ ts sk, R ts sk a ∧ Moves s ts sk m ∧ Lexed m.ahead ∧ Fails (f a) (Q a) := by
    intro s m a r hs hr ha
    obtain ⟨ts, sk, hR, hm, -⟩ := (hacc s m a r hs.1 hr).1 ha
    obtain ⟨hlexed, hshaped⟩ := hm.lexed hs
    exact ⟨ts, sk, hR, hm, hlexed, hf a ts sk hR hshaped⟩
  constructor
  · intro s s' e r hs hr he
    rcases (bind_eq_error _ _ _ _ _).1 he with he | ⟨a, m, ha, he⟩
    · exact hp.expected hs hr he
    · obtain ⟨_, _, -, -, hlexed, hfails⟩ := hrest hs hr ha
      exact hfails.expected hlexed he
  · intro s s' r hs hr
    rw [bind_eq_error]
    constructor
    · intro he
      rcases he with he | ⟨a, m, ha, he⟩
      · obtain ⟨ts, sk, hN, hm⟩ := (hp.overlong hs hr).1 he
        exact ⟨ts, sk, Or.inl hN, hm⟩
      · obtain ⟨ts, sk, hR, hm, hlexed, hfails⟩ := hrest hs hr ha
        obtain ⟨us, sl, hQ, hm'⟩ := (hfails.overlong hlexed).1 he
        exact ⟨ts ++ us, sk ++ sl, Or.inr ⟨a, ts, us, sk, sl, rfl, rfl, hR, hQ⟩,
          (moves_append _ _ _ _ _ _).2 ⟨m, hm, hm'⟩⟩
    · intro he
      obtain ⟨ts, sk, hN | ⟨a, ts, us, sk, sl, rfl, rfl, hR, hQ⟩, hmoves⟩ := he
      · exact Or.inl ((hp.overlong hs hr).2 ⟨ts, sk, hN, hmoves⟩)
      · obtain ⟨m, hm, hm'⟩ := (moves_append _ _ _ _ _ _).1 hmoves
        have hnext : F a m.nextKind := by
          rw [hm'.nextKind]
          exact hF a us sl _ hQ
        have ha : p s = (.ok a, m) := (hacc s m a r hs.1 hr).2 ⟨ts, sk, hR, hm, hnext⟩
        obtain ⟨_, _, -, -, hlexed, hfails⟩ := hrest hs hr ha
        exact Or.inr ⟨a, m, ha, (hfails.overlong hlexed).2 ⟨us, sl, hQ, hm'⟩⟩

/-- a sequence whose first part refuses no integer -/
theorem failsAt_then (hp : FailsAt t p .never) (hacc : AcceptsAt t p R anyNext)
    (hf : ∀ a ts sk, R ts sk a → (∀ t ∈ ts, t.Shaped) → Fails (f a) (Q a)) : FailsAt t (p >>= f) (R >>= Q) := by
  have h := failsAt_bind hp hacc hf fun _ _ _ _ _ => trivial
  rwa [Rule.never_either] at h

theorem fails_then (hp : Fails p .never) (hacc : Accepts p R anyNext)
    (hf : ∀ a ts sk, R ts sk a → (∀ t ∈ ts, t.Shaped) → Fails (f a) (Q a)) : Fails (p >>= f) (R >>= Q) :=
  fails_of_at fun t _ => failsAt_then (hp.at t) (hacc.at t) hf

/-- a sequence of which only the first part may refuse an integer -/
theorem failsAt_last (hp : FailsAt t p N) (hacc : AcceptsAt t p R F)
    (hf : ∀ a ts sk, R ts sk a → (∀ t ∈ ts, t.Shaped) → Fails (f a) .never) : FailsAt t (p >>= f) N := by
  have h := failsAt_bind hp hacc hf fun _ _ _ _ hfalse => hfalse.elim
  rwa [Rule.bind_never, Rule.either_never] at h

theorem fails_last (hp : Fails p N) (hacc : Accepts p R F)
    (hf : ∀ a ts sk, R ts sk a → (∀ t ∈ ts, t.Shaped) → Fails (f a) .never) : Fails (p >>= f) N :=
  fails_of_at fun t _ => failsAt_last (hp.at t) (hacc.at t) hf

/-- **Failure of a repetition.** It refuses an integer where, after some items, a step does. -/
theorem fails_many {step : Parser (Option α)} {stop : Kind → Prop} (hstep : Fails step N)
    (hacc : Accepts step R.optional (stopsAt stop)) (hR : ∀ sk a, ¬ R [] sk a) :
    Fails (many step) (Rule.star R >>= fun _ => N) := by
  constructor
  · intro s s' e hs he
    obtain ⟨ts, sk, as, m, -, hm, hfail⟩ := (many_eq_error_iff hacc hR hs.1 e).1 he
    exact hstep.expected (hm.lexed hs).1 hfail
  · intro s s' hs
    rw [many_eq_error_iff hacc hR hs.1]
    constructor
    · intro he
      obtain ⟨ts, sk, as, m, hstar, hm, hfail⟩ := he
      obtain ⟨us, sl, hN, hm'⟩ := (hstep.overlong (hm.lexed hs).1).1 hfail
      exact ⟨ts ++ us, sk ++ sl, ⟨as, ts, us, sk, sl, rfl, rfl, hstar, hN⟩, (moves_append _ _ _ _ _ _).2 ⟨m, hm, hm'⟩⟩
    · intro he
      obtain ⟨_, _, ⟨as, ts, us, sk, sl, rfl, rfl, hstar, hN⟩, hmoves⟩ := he
      obtain ⟨m, hm, hm'⟩ := (moves_append _ _ _ _ _ _).1 hmoves
      exact ⟨ts, sk, as, m, hstar, hm, (hstep.overlong (hm.lexed hs).1).2 ⟨us, sl, hN, hm'⟩⟩

/-- a parser that goes on under a condition only -/
theorem fails_guard {b : Bool} {c : Prop} (hc : b = true ↔ ¬ c) (e : ParseError) (hp : Fails p N) :
    Fails (if b = true then fail (.mismatch e) else p) (Rule.given c () >>= fun _ => N) := by
  cases hb : b with
  | true =>
    have hn : ¬ c := hc.1 hb
    constructor
    · intro s s' f _ hf
      cases hf
      exact Or.inl ⟨e, rfl⟩
    · intro s s' _
      simp [fail, hn]
  | false =>
    have hy : c := Classical.not_not.1 fun h => by simp [hc.2 h] at hb
    constructor
    · intro s s' f hs hf
      exact hp.expected hs hf
    · intro s s' hs
      simp only [Rule.given_bind_iff, hy, true_and]
      exact hp.overlong hs

theorem fails_checked {is : List Check.Issue} (his : is = []) (a : α) : Fails (checked is a) .never := by
  subst his
  exact fails_pure a

end

/-! ## Tokens -/

theorem mismatch_of_mismatch {α : Type} {t : Token} {x : String} {s s' : Session} {f : Fault} {r : List Token}
    (hr : s.ahead = t :: r) (hf : (mismatch x : Parser α) s = (.error f, s')) : ∃ e, f = .mismatch e := by
  have hstop : (mismatch x : Parser α) s = (.error (.mismatch (mismatchAt t x)), s) := current_bind hr _
  rw [hstop] at hf
  cases hf
  exact ⟨_, rfl⟩

theorem failsAt_mismatch {α : Type} (t : Token) (x : String) : FailsAt t (mismatch x : Parser α) .never :=
  failsAt_never fun _ _ _ _ hr hf => mismatch_of_mismatch hr hf

theorem failsAt_advance {t : Token} (ht : t.kind ≠ .finish) : FailsAt t advance .never := by
  refine failsAt_never ?_
  intro s s' f r hr hf
  rw [advance_eq hr ht] at hf
  cases hf

/-- a token that may not be passed over does not fit -/
theorem failsAt_passOver {α : Type} {t : Token} (ht : t.kind ≠ .finish) (o : Options) (x : String) (a : α) :
    FailsAt t (do passOver o x; pure a) .never := by
  refine failsAt_never ?_
  intro s s' f r hr hf
  rcases (bind_eq_error _ _ _ _ _).1 hf with hf | ⟨_, _, -, hf⟩
  · unfold passOver at hf
    split_ifs at hf
    · rcases (bind_eq_error _ _ _ _ _).1 hf with hf | ⟨_, _, -, hf⟩
      · rw [advance_eq hr ht] at hf
        cases hf
      · cases hf
    · exact mismatch_of_mismatch hr hf
  · cases hf

theorem fails_class (P : Token → Prop) [DecidablePred P] (hP : ∀ t, P t → t.kind ≠ .finish) (x : String) :
    Fails (current >>= fun t => if P t then advance else mismatch x) .never := by
  refine fails_current ?_
  intro t _
  split_ifs with ht
  · exact failsAt_advance (hP t ht)
  · exact failsAt_mismatch t x

theorem fails_expect (k : Kind) (hk : k ≠ .finish) : Fails (expect k) .never :=
  fails_class (·.kind = k) (fun _ ht => ht ▸ hk) _

section

variable {β : Type} {f : Token → Parser β} {Q : Token → Rule Unit}

/-- after a token of one kind -/
theorem fails_expect_then (k : Kind) (hk : k ≠ .finish) (hf : ∀ t, Fails (f t) (Q t)) :
    Fails (expect k >>= f) (Rule.token (·.kind = k) >>= Q) :=
  fails_then (fails_expect k hk) (accepts_expect k hk) fun t _ _ _ _ => hf t

theorem fails_expect_last (k : Kind) (hk : k ≠ .finish) (hf : ∀ t, Fails (f t) .never) : Fails (expect k >>= f) .never :=
  fails_last (fails_expect k hk) (accepts_expect k hk) fun t _ _ _ _ => hf t

/-- after a token that stands for a name, which is one -/
theorem fails_name_then (hf : ∀ t : Token, Name.isName t.value.toList = true → Fails (f t) (Q t)) :
    Fails (nameToken >>= f) (Rule.token (·.kind.isName = true) >>= Q) := by
  have hname : Fails nameToken .never := fails_class (·.kind.isName = true) (fun _ ht => isName_ne_finish ht) _
  refine fails_then hname accepts_nameToken ?_
  intro t ts sk ht hshaped
  obtain ⟨rfl, -, hk⟩ := ht
  exact hf t ((hshaped t (by simp)).1 hk)

theorem fails_name_last (hf : ∀ t : Token, Name.isName t.value.toList = true → Fails (f t) .never) :
    Fails (nameToken >>= f) .never := by
  have h := fails_name_then hf
  rwa [Rule.bind_never] at h

end

/-! ## The grammar -/

/-- a number token has no value exactly when it is an integer of too many digits -/
theorem numeral?_eq_none {t : Token} (ht : t.Shaped) (hk : t.kind = .number) : numeral? t.value = none ↔ IsOverlong t := by
  have hnum := ht.2 hk
  have hlimit : Number.digitLimit = 4300 := rfl
  by_cases hp : '.' ∈ t.value.toList
  · obtain ⟨w, f, hwf⟩ := List.append_of_mem hp
    have hread := hnum
    rw [hwf] at hread
    simp [IsOverlong, numeral?, hwf, hread.readNumber?]
  · simp only [numeral?, List.contains_eq_mem, hp, decide_false, Bool.false_eq_true, if_false, hnum.readInt? hp, hlimit,
      IsOverlong, hk, true_and, not_false_eq_true]
    split_ifs with hlong
    · simp [hlong]
    · simp [hlong]

theorem fails_literal : Fails literal overlongLiteral := by
  refine fails_current ?_
  intro t ht
  have hnever : ¬ IsOverlong t → ∀ {p : Parser Literal}, FailsAt t p .never → FailsAt t p overlongLiteral := by
    intro hlong p hp
    exact hp.of_never (by simp [overlongLiteral, hlong]) (by simp [overlongLiteral])
  have hadvance : t.kind ≠ .finish → ∀ l : Literal, FailsAt t (advance >>= fun _ => pure l) .never := by
    intro hk l
    exact failsAt_last (failsAt_advance hk) (acceptsAt_advance hk) fun _ _ _ _ _ => fails_pure l
  split
  case h_1 hk => exact hnever (by simp [IsOverlong, hk]) (hadvance (by simp [hk]) _)
  case h_2 hk =>
    have hiff := numeral?_eq_none ht hk
    cases hn : numeral? t.value with
    | some l => exact hnever (by simp [← hiff, hn]) (hadvance (by simp [hk]) l)
    | none =>
      have hlong := hiff.1 hn
      have hfinish : t.kind ≠ .finish := by simp [hk]
      have hstop : ∀ {s r}, s.ahead = t :: r →
          (advance >>= fun _ => (fail .numeral : Parser Literal)) s = (.error .numeral, s.pass) := by
        intro s r hr
        show andThen advance _ s = _
        rw [andThen, advance_eq hr hfinish]
        rfl
      constructor
      · intro s s' f r _ hr hf
        rw [hstop hr] at hf
        cases hf
        exact Or.inr rfl
      · intro s s' r _ hr
        rw [hstop hr]
        constructor
        · intro hf
          cases hf
          exact ⟨[t], [], by simp [overlongLiteral, hlong], (moves_pass hr hfinish _).2 rfl⟩
        · intro hf
          obtain ⟨ts, sk, hrule, hm⟩ := hf
          simp only [overlongLiteral, Rule.token_bind_iff, Rule.pure_iff] at hrule
          obtain ⟨u, _, rfl, -, rfl, rfl, -⟩ := hrule
          obtain ⟨rfl, -⟩ := List.cons.inj (hr.symm.trans hm.ahead)
          rw [(moves_pass hr hfinish s').1 hm]
  case h_3 hk =>
    cases truth? t.value with
    | some b => exact hnever (by simp [IsOverlong, hk]) (hadvance (by simp [hk]) _)
    | none => exact hnever (by simp [IsOverlong, hk]) (failsAt_mismatch t _)
  case h_4 h1 h2 h3 => exact hnever (fun h => h2 h.1) (failsAt_mismatch t _)

theorem fails_modifier (o : Options) : Fails (modifier o) overlongDefault := by
  refine fails_current ?_
  intro t _
  have hnever : ¬ IsWord "default" t → ∀ {p : Parser (Option Modifier)}, FailsAt t p .never →
      FailsAt t p overlongDefault := by
    intro hword p hp
    exact hp.of_never (by simp [overlongDefault, hword]) (by simp [overlongDefault])
  split_ifs with hk hr hd
  · have hfinish : t.kind ≠ .finish := by simp [hk]
    refine hnever (by simp [IsWord, hr]) ?_
    exact failsAt_last (failsAt_advance hfinish) (acceptsAt_advance hfinish) fun _ _ _ _ _ => fails_pure _
  · have hfinish : t.kind ≠ .finish := by simp [hk]
    have hp := failsAt_then (failsAt_advance hfinish) (acceptsAt_advance hfinish) fun _ _ _ _ _ =>
      fails_expect_then .equals (by simp) fun _ =>
        fails_last fails_literal accepts_literal fun l _ _ _ _ => fails_pure (some (Modifier.default l))
    refine hp.congr (fun ts sk => ?_) (by simp) (by simp [overlongDefault])
    simp [overlongDefault, IsWord, hk, hd]
  · exact hnever (by simp [IsWord, hd]) (failsAt_passOver (by simp [hk]) o _ _)
  · exact hnever (by simp [IsWord, hk]) ((fails_pure _).at t)

theorem fails_field (o : Options) : Fails (field o) (overlongField o) := by
  refine fails_expect_then .field (by simp) fun _ => ?_
  refine fails_name_then fun name hname => ?_
  refine fails_expect_then .colon (by simp) fun _ => ?_
  refine fails_name_then fun type htype => ?_
  refine fails_guard ?_ _ ?_
  · cases o.strictTypes <;> cases FieldKind.ofName? type.value <;> simp
  have hms := accepts_many (accepts_modifier o) (modifierRule_nil o)
  refine fails_last (fails_many (fails_modifier o) (accepts_modifier o) (modifierRule_nil o)) hms fun ms _ _ _ _ => ?_
  refine fails_expect_last .semicolon (by simp) fun _ => ?_
  refine fails_checked ?_ _
  simp [Field.issues, nameIssues_eq_nil hname, nameIssues_eq_nil htype]

theorem fails_modelPart (o : Options) : Fails (modelPart o) (overlongField o) := by
  refine fails_current ?_
  intro t _
  have hnever : t.kind ≠ .field → ∀ {p : Parser (Option (Option Field))}, FailsAt t p .never →
      FailsAt t p (overlongField o) := by
    intro hk p hp
    exact hp.of_never (fun ts sk h => hk (Rule.first_of_token h)) (by simp [overlongField])
  split
  case h_1 hk => exact hnever (by simp [hk]) ((fails_pure _).at t)
  case h_2 hk => exact hnever (by simp [hk]) (failsAt_mismatch t _)
  case h_3 hk => exact (fails_last (fails_field o) (accepts_field o) fun f _ _ _ _ => fails_pure _).at t
  case h_4 h1 h2 h3 => exact hnever h3 (failsAt_passOver h2 o _ _)

theorem fails_model (o : Options) : Fails (model o) (overlongModel o) := by
  refine fails_expect_then .model (by simp) fun _ => ?_
  refine fails_name_then fun name hname => ?_
  refine fails_expect_then .leftBrace (by simp) fun _ => ?_
  have hparts := accepts_many (accepts_modelPart o) (modelPartRule_nil o)
  refine fails_last (fails_many (fails_modelPart o) (accepts_modelPart o) (modelPartRule_nil o)) hparts
    fun parts _ _ _ _ => ?_
  refine fails_expect_last .rightBrace (by simp) fun _ => ?_
  refine fails_checked ?_ _
  simp [Model.issues, nameIssues_eq_nil hname]

theorem fails_nextName : Fails nextName .never := by
  refine fails_sees ?_
  intro t
  by_cases hk : t.kind = .comma
  · rw [if_pos (by simp [hk])]
    have hfinish : t.kind ≠ .finish := by simp [hk]
    refine failsAt_last (failsAt_advance hfinish) (acceptsAt_advance hfinish) fun _ _ _ _ _ => ?_
    exact fails_name_last fun _ _ => fails_pure _
  · rw [if_neg (by simpa using hk)]
    exact (fails_pure none).at t

theorem fails_nameList : Fails nameList .never := by
  refine fails_current ?_
  intro t _
  split_ifs
  · refine (fails_name_last fun first _ => ?_).at t
    have hmore := fails_many fails_nextName accepts_nextName (by simp [nextNameRule])
    rw [Rule.bind_never] at hmore
    exact fails_last hmore (accepts_many accepts_nextName (by simp [nextNameRule])) fun rest _ _ _ _ => fails_pure _
  · exact (fails_pure _).at t

/-- names that were read are names -/
theorem isName_of_nameList {ts sk : List Token} {ns : List String} (h : nameListRule ts sk ns)
    (hts : ∀ t ∈ ts, t.Shaped) : ∀ s ∈ ns, Name.isName s.toList = true :=
  (names_of_rule h).isName hts

theorem failsAt_binding {t : Token} {k : BindingKind} (hk : bindingKind? t.kind = some k) : FailsAt t binding .never := by
  have hfinish : t.kind ≠ .finish := fun h => by simp [h, bindingKind?] at hk
  refine failsAt_last (failsAt_advance hfinish) (acceptsAt_advance hfinish) ?_
  intro u _ _ hu _
  obtain ⟨-, -, rfl⟩ := hu
  simp only [hk]
  refine fails_name_last fun name hname => ?_
  refine fails_expect_last .leftParen (by simp) fun _ => ?_
  refine fails_name_last fun model hmodel => ?_
  refine fails_expect_last .rightParen (by simp) fun _ => ?_
  refine fails_expect_last .leftBrace (by simp) fun _ => ?_
  refine fails_last fails_nameList accepts_nameList fun fields _ _ hfields hshaped => ?_
  refine fails_expect_last .rightBrace (by simp) fun _ => ?_
  refine fails_checked ?_ _
  simp [Binding.issues, nameIssues_eq_nil hname, nameIssues_eq_nil hmodel,
    namesIssues_eq_nil (isName_of_nameList hfields hshaped)]

theorem fails_page : Fails page .never := by
  refine fails_expect_last .page (by simp) fun _ => ?_
  refine fails_name_last fun name hname => ?_
  refine fails_expect_last .leftParen (by simp) fun _ => ?_
  refine fails_expect_last .text (by simp) fun title => ?_
  refine fails_expect_last .rightParen (by simp) fun _ => ?_
  refine fails_expect_last .leftBrace (by simp) fun _ => ?_
  refine fails_last fails_nameList accepts_nameList fun components _ _ hcomponents hshaped => ?_
  refine fails_expect_last .rightBrace (by simp) fun _ => ?_
  refine fails_checked ?_ _
  simp [Page.issues, nameIssues_eq_nil hname, namesIssues_eq_nil (isName_of_nameList hcomponents hshaped)]

theorem fails_declaration (o : Options) : Fails (declaration o) (overlongModel o) := by
  refine fails_current ?_
  intro t _
  have hnever : t.kind ≠ .model → ∀ {p : Parser (Option Declaration)}, FailsAt t p .never →
      FailsAt t p (overlongModel o) := by
    intro hk p hp
    exact hp.of_never (fun ts sk h => hk (Rule.first_of_token h)) (by simp [overlongModel])
  have hbinding : ∀ {k}, bindingKind? t.kind = some k →
      FailsAt t (do let c ← binding; pure (some (Declaration.component c))) .never := fun hk =>
    failsAt_last (failsAt_binding hk) (acceptsAt_binding hk) fun c _ _ _ _ => fails_pure _
  split
  case h_1 hk => exact hnever (by simp [hk]) ((fails_pure _).at t)
  case h_2 hk => exact (fails_last (fails_model o) (accepts_model o) fun m _ _ _ _ => fails_pure _).at t
  case h_3 hk => exact hnever (by simp [hk]) (hbinding (k := .form) (by simp [hk, bindingKind?]))
  case h_4 hk => exact hnever (by simp [hk]) (hbinding (k := .list) (by simp [hk, bindingKind?]))
  case h_5 hk => exact hnever (by simp [hk]) (hbinding (k := .view) (by simp [hk, bindingKind?]))
  case h_6 hk => exact hnever (by simp [hk]) ((fails_last fails_page accepts_page fun p _ _ _ _ => fails_pure _).at t)
  case h_7 h1 h2 h3 h4 h5 h6 => exact hnever h2 (failsAt_passOver h1 o _ _)

/-- **Faults of reading.** On tokens as the lexer makes them, reading an application fails only at a token that does not
fit or at an integer of too many digits, and at the latter exactly where a default is one. -/
theorem fails_app (o : Options) : Fails (app o) (overlongApp o) := by
  have hds := accepts_many (accepts_declaration o) (declarationRule_nil o)
  refine fails_last (fails_many (fails_declaration o) (accepts_declaration o) (declarationRule_nil o)) hds ?_
  intro ds _ _ _ _
  refine fails_of_at fun t _ => failsAt_never ?_
  intro s s' f r _ hf
  rcases (bind_eq_error _ _ _ _ _).1 hf with hf | ⟨_, _, -, hf⟩
  · cases hf
  · cases hf

end Pagewright.Grammar
