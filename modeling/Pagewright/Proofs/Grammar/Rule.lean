/-
Rules of a grammar over tokens, and what it means that a parser accepts one.

A `Rule` says which tokens are passed, which of them are skipped, and what they stand for. Rules are put together like
parsers: one token, one rule after another, one rule any number of times. `Accepts p R F` says that `p` succeeds
exactly on the tokens of `R`, provided that the kind of the token after them satisfies `F`, which is what `p` finds
out by looking one token ahead.

`acceptsAt_bind` and `accepts_many` carry acceptance from the parts of a parser to the whole.
-/
import Mathlib.Tactic
import Pagewright.Grammar

namespace Pagewright.Grammar

open Pagewright.Grammar.Parser

/-! ## Tokens up to the end of the source -/

/-- the end of the source is the last token, and no other token is one -/
def Ended (ts : List Token) : Prop :=
  ts.getLast?.map Token.kind = some .finish ∧ ∀ t ∈ ts.dropLast, t.kind ≠ .finish

instance (ts : List Token) : Decidable (Ended ts) := inferInstanceAs (Decidable (_ ∧ _))

theorem ended_append_singleton (body : List Token) (e : Token) :
    Ended (body ++ [e]) ↔ e.kind = .finish ∧ ∀ t ∈ body, t.kind ≠ .finish := by
  simp [Ended]

theorem ended_iff (ts : List Token) :
    Ended ts ↔ ∃ body e, ts = body ++ [e] ∧ e.kind = .finish ∧ ∀ t ∈ body, t.kind ≠ .finish := by
  constructor
  · intro h
    obtain ⟨e, he, hk⟩ := Option.map_eq_some_iff.1 h.1
    exact ⟨ts.dropLast, e, (List.dropLast_append_getLast? e he).symm, hk, h.2⟩
  · rintro ⟨body, e, rfl, he, hb⟩
    exact (ended_append_singleton body e).2 ⟨he, hb⟩

theorem Ended.ne_nil {ts : List Token} (h : Ended ts) : ts ≠ [] := by
  rintro rfl
  simp [Ended] at h

/-- what is left of ended tokens after others than the end is ended -/
theorem Ended.of_append {ts us : List Token} (h : Ended (ts ++ us)) (ht : ∀ t ∈ ts, t.kind ≠ .finish) : Ended us := by
  obtain ⟨body, e, heq, he, hb⟩ := (ended_iff _).1 h
  rcases List.eq_nil_or_concat us with rfl | ⟨vs, e', rfl⟩
  · rw [List.append_nil] at heq
    exact absurd he (ht e (by simp [heq]))
  · rw [List.concat_eq_append] at heq ⊢
    rw [← List.append_assoc] at heq
    obtain ⟨rfl, he'⟩ := List.append_inj' heq rfl
    simp only [List.cons.injEq, and_true] at he'
    exact (ended_iff _).2 ⟨vs, e', rfl, he' ▸ he, fun t hv => hb t (List.mem_append_right _ hv)⟩

/-- the kind of the first token, or of the one that follows when there is none -/
def firstKind (ts : List Token) (after : Kind) : Kind := (ts.head?.map Token.kind).getD after

def Session.nextKind (s : Session) : Kind := firstKind s.ahead .finish

theorem Session.current?_of_cons {s : Session} {t : Token} {r : List Token} (h : s.ahead = t :: r) :
    s.current? = some t := by
  simp [Session.current?, h]

/-- an ended session has a token at hand -/
theorem Ended.exists_cons {s : Session} (h : Ended s.ahead) : ∃ t r, s.ahead = t :: r ∧ s.nextKind = t.kind := by
  cases hs : s.ahead with
  | nil => exact absurd hs h.ne_nil
  | cons t r => exact ⟨t, r, rfl, by simp [Session.nextKind, firstKind, hs]⟩

/-- a session that has come to the end of the source -/
theorem Ended.eq_singleton {s : Session} (h : Ended s.ahead) (hk : s.nextKind = .finish) :
    ∃ e, s.ahead = [e] ∧ e.kind = .finish := by
  obtain ⟨body, e, hs, he, hb⟩ := (ended_iff _).1 h
  cases body with
  | nil => exact ⟨e, hs, he⟩
  | cons t r =>
    have ht : s.nextKind = t.kind := by simp [Session.nextKind, firstKind, hs]
    exact absurd (ht ▸ hk) (hb t List.mem_cons_self)

/-! ## Moves of a session -/

/-- the session goes from `s` past the tokens `ts`, none of which is the end, to `s'`, and notes the skipped ones `sk` -/
structure Moves (s : Session) (ts sk : List Token) (s' : Session) : Prop where
  ahead : s.ahead = ts ++ s'.ahead
  last : s'.last = s.last
  position : s'.position = s.position + ts.length
  notes : s'.notes = s.notes ++ sk.map .skipped
  inside : ∀ t ∈ ts, t.kind ≠ .finish

theorem Moves.ended {s s' : Session} {ts sk : List Token} (h : Moves s ts sk s') (hs : Ended s.ahead) :
    Ended s'.ahead := by
  rw [h.ahead] at hs
  exact hs.of_append h.inside

theorem Moves.nextKind {s s' : Session} {ts sk : List Token} (h : Moves s ts sk s') :
    s.nextKind = firstKind ts s'.nextKind := by
  cases ts with
  | nil => simp [Session.nextKind, firstKind, h.ahead]
  | cons t r => simp [Session.nextKind, firstKind, h.ahead]

theorem moves_nil (s s' : Session) : Moves s [] [] s' ↔ s' = s := by
  obtain ⟨a, l, p, n⟩ := s
  obtain ⟨a', l', p', n'⟩ := s'
  constructor
  · rintro ⟨h1, h2, h3, h4, -⟩
    simp_all
  · rintro h
    simp only [Session.mk.injEq] at h
    obtain ⟨rfl, rfl, rfl, rfl⟩ := h
    exact ⟨rfl, rfl, rfl, by simp, by simp⟩

theorem moves_pass {s : Session} {t : Token} {r : List Token} (hs : s.ahead = t :: r) (ht : t.kind ≠ .finish)
    (s' : Session) : Moves s [t] [] s' ↔ s' = s.pass := by
  obtain ⟨a, l, p, n⟩ := s
  obtain ⟨a', l', p', n'⟩ := s'
  simp only at hs
  subst hs
  constructor
  · rintro ⟨h1, h2, h3, h4, -⟩
    simp_all [Session.pass]
  · intro h
    simp only [Session.pass, Session.mk.injEq, List.drop_one, List.tail_cons] at h
    obtain ⟨rfl, rfl, rfl, rfl⟩ := h
    exact ⟨rfl, rfl, rfl, by simp, by simpa using ht⟩

theorem moves_skip {s : Session} {t : Token} {r : List Token} (hs : s.ahead = t :: r) (ht : t.kind ≠ .finish)
    (s' : Session) : Moves s [t] [t] s' ↔ s' = s.pass.note (.skipped t) := by
  obtain ⟨a, l, p, n⟩ := s
  obtain ⟨a', l', p', n'⟩ := s'
  simp only at hs
  subst hs
  constructor
  · rintro ⟨h1, h2, h3, h4, -⟩
    simp_all [Session.pass, Session.note]
  · intro h
    simp only [Session.pass, Session.note, Session.mk.injEq, List.drop_one, List.tail_cons] at h
    obtain ⟨rfl, rfl, rfl, rfl⟩ := h
    exact ⟨rfl, rfl, rfl, by simp, by simpa using ht⟩

/-- a move past two runs of tokens is a move past the first and then one past the second -/
theorem moves_append (s s' : Session) (ts₁ ts₂ sk₁ sk₂ : List Token) :
    Moves s (ts₁ ++ ts₂) (sk₁ ++ sk₂) s' ↔ ∃ m, Moves s ts₁ sk₁ m ∧ Moves m ts₂ sk₂ s' := by
  constructor
  · intro h
    refine ⟨⟨ts₂ ++ s'.ahead, s.last, s.position + ts₁.length, s.notes ++ sk₁.map .skipped⟩, ?_, ?_⟩
    · exact ⟨by simp [h.ahead], rfl, rfl, rfl, fun t ht => h.inside t (List.mem_append_left _ ht)⟩
    · refine ⟨rfl, h.last, ?_, ?_, fun t ht => h.inside t (List.mem_append_right _ ht)⟩
      · simp [h.position, Nat.add_assoc]
      · simp [h.notes]
  · rintro ⟨m, h1, h2⟩
    refine ⟨?_, h2.last.trans h1.last, ?_, ?_, ?_⟩
    · rw [h1.ahead, h2.ahead, List.append_assoc]
    · rw [h2.position, h1.position, List.length_append, Nat.add_assoc]
    · rw [h2.notes, h1.notes, List.map_append, List.append_assoc]
    · intro t ht
      rcases List.mem_append.1 ht with ht | ht
      · exact h1.inside t ht
      · exact h2.inside t ht

/-! ## Rules -/

/-- the tokens passed, those of them that are skipped, and what they stand for -/
def Rule (α : Type) : Type := List Token → List Token → α → Prop

namespace Rule

def done {α : Type} (a : α) : Rule α := fun ts sk b => ts = [] ∧ sk = [] ∧ b = a

/-- one rule, and then the one that its value leads to -/
def andThen {α β : Type} (R : Rule α) (Q : α → Rule β) : Rule β := fun ts sk b =>
  ∃ a ts₁ ts₂ sk₁ sk₂, ts = ts₁ ++ ts₂ ∧ sk = sk₁ ++ sk₂ ∧ R ts₁ sk₁ a ∧ Q a ts₂ sk₂ b

instance : Monad Rule where
  pure := done
  bind := andThen

def token (P : Token → Prop) : Rule Token := fun ts sk t => ts = [t] ∧ sk = [] ∧ P t

/-- one token of a class, skipped, which counts as `a` -/
def skip {α : Type} (P : Token → Prop) (a : α) : Rule α := fun ts sk b => ∃ t, ts = [t] ∧ sk = [t] ∧ P t ∧ b = a

/-- a value and no token, under a condition -/
def given {α : Type} (c : Prop) (a : α) : Rule α := fun ts sk b => c ∧ done a ts sk b

def either {α : Type} (R Q : Rule α) : Rule α := fun ts sk a => R ts sk a ∨ Q ts sk a

/-- a rule any number of times -/
inductive Star {α : Type} (R : Rule α) : List Token → List Token → List α → Prop
  | nil : Star R [] [] []
  | cons {ts us sk sl : List Token} {a : α} {as : List α} (h : R ts sk a) (hs : Star R us sl as) :
      Star R (ts ++ us) (sk ++ sl) (a :: as)

def star {α : Type} (R : Rule α) : Rule (List α) := Star R

theorem bind_iff {α β : Type} (R : Rule α) (Q : α → Rule β) (ts sk : List Token) (b : β) :
    (R >>= Q) ts sk b ↔
      ∃ a ts₁ ts₂ sk₁ sk₂, ts = ts₁ ++ ts₂ ∧ sk = sk₁ ++ sk₂ ∧ R ts₁ sk₁ a ∧ Q a ts₂ sk₂ b := Iff.rfl

@[simp] theorem pure_iff {α : Type} (a b : α) (ts sk : List Token) :
    (pure a : Rule α) ts sk b ↔ ts = [] ∧ sk = [] ∧ b = a := Iff.rfl

/-- a rule and a function on its value -/
theorem bind_pure_iff {α β : Type} (R : Rule α) (g : α → β) (ts sk : List Token) (b : β) :
    (R >>= fun a => pure (g a)) ts sk b ↔ ∃ a, R ts sk a ∧ b = g a := by
  rw [bind_iff]
  constructor
  · rintro ⟨a, ts, _, sk, _, rfl, rfl, hR, rfl, rfl, rfl⟩
    exact ⟨a, by simpa using hR, rfl⟩
  · rintro ⟨a, hR, rfl⟩
    exact ⟨a, ts, [], sk, [], by simp, by simp, hR, rfl, rfl, rfl⟩

@[simp] theorem either_iff {α : Type} (R Q : Rule α) (ts sk : List Token) (a : α) :
    either R Q ts sk a ↔ R ts sk a ∨ Q ts sk a := Iff.rfl

@[simp] theorem token_bind_iff {β : Type} (P : Token → Prop) (Q : Token → Rule β) (ts sk : List Token) (b : β) :
    (token P >>= Q) ts sk b ↔ ∃ t us, ts = t :: us ∧ P t ∧ Q t us sk b := by
  rw [bind_iff]
  constructor
  · rintro ⟨t, _, us, _, sk, rfl, rfl, ⟨rfl, rfl, ht⟩, hq⟩
    exact ⟨t, us, rfl, ht, hq⟩
  · rintro ⟨t, us, rfl, ht, hq⟩
    exact ⟨t, [t], us, [], sk, rfl, rfl, ⟨rfl, rfl, ht⟩, hq⟩

@[simp] theorem given_bind_iff {α β : Type} (c : Prop) (a : α) (Q : α → Rule β) (ts sk : List Token) (b : β) :
    (given c a >>= Q) ts sk b ↔ c ∧ Q a ts sk b := by
  rw [bind_iff]
  constructor
  · rintro ⟨_, _, ts, _, sk, rfl, rfl, ⟨hc, rfl, rfl, rfl⟩, hq⟩
    exact ⟨hc, hq⟩
  · rintro ⟨hc, hq⟩
    exact ⟨a, [], ts, [], sk, rfl, rfl, ⟨hc, rfl, rfl, rfl⟩, hq⟩

@[simp] theorem skip_iff {α : Type} (P : Token → Prop) (a b : α) (ts sk : List Token) :
    skip P a ts sk b ↔ ∃ t, ts = [t] ∧ sk = [t] ∧ P t ∧ b = a := Iff.rfl

/-- the items of a repetition are at most as many as its tokens, when each has one -/
theorem Star.length_le {α : Type} {R : Rule α} (hR : ∀ sk a, ¬ R [] sk a) {ts sk : List Token}
    {as : List α} (h : Star R ts sk as) : as.length ≤ ts.length := by
  induction h with
  | nil => simp
  | @cons ts us sk sl a as h _ ih =>
    have hpos : 0 < ts.length := List.length_pos_iff.2 fun e => hR sk a (e ▸ h)
    simp only [List.length_cons, List.length_append]
    omega

end Rule

/-! ## Success of a parser -/

theorem bind_eq_ok {α β : Type} (p : Parser α) (f : α → Parser β) (s s' : Session) (b : β) :
    (p >>= f) s = (.ok b, s') ↔ ∃ a m, p s = (.ok a, m) ∧ f a m = (.ok b, s') := by
  show andThen p f s = _ ↔ _
  unfold andThen
  cases hp : p s with
  | mk r m =>
    cases r with
    | error e => simp
    | ok a =>
      constructor
      · intro h
        exact ⟨a, m, rfl, h⟩
      · rintro ⟨a', m', h, h'⟩
        simp only [Prod.mk.injEq, Except.ok.injEq] at h
        obtain ⟨rfl, rfl⟩ := h
        exact h'

theorem pure_eq_ok {α : Type} (a b : α) (s s' : Session) :
    (pure a : Parser α) s = (.ok b, s') ↔ b = a ∧ s' = s := by
  show (Except.ok a, s) = _ ↔ _
  simp only [Prod.mk.injEq, Except.ok.injEq]
  exact ⟨fun h => ⟨h.1.symm, h.2.symm⟩, fun h => ⟨h.1.symm, h.2.symm⟩⟩

/-- with a token at hand, looking at it gives it and changes nothing -/
theorem current_bind {α : Type} {s : Session} {t : Token} {r : List Token} (hs : s.ahead = t :: r)
    (f : Token → Parser α) : (current >>= f) s = f t s := by
  show andThen current f s = _
  simp [andThen, current, Session.current?_of_cons hs]

theorem advance_eq {s : Session} {t : Token} {r : List Token} (hs : s.ahead = t :: r) (ht : t.kind ≠ .finish) :
    advance s = (.ok t, s.pass) := by
  simp [advance, Session.current?_of_cons hs, ht]

theorem mismatch_ne_ok {α : Type} (x : String) (s s' : Session) (a : α) : mismatch x s ≠ (.ok a, s') := by
  intro h
  obtain ⟨t, m, -, hf⟩ := (bind_eq_ok _ _ _ _ _).1 h
  simp [fail] at hf

/-- a token is passed over exactly when reading is lenient -/
theorem passOver_eq_ok {s : Session} {t : Token} {r : List Token} (hs : s.ahead = t :: r) (ht : t.kind ≠ .finish)
    (o : Options) (x : String) (s' : Session) :
    passOver o x s = (.ok (), s') ↔ o.lenient = true ∧ s' = s.pass.note (.skipped t) := by
  unfold passOver
  split_ifs with hl
  · rw [bind_eq_ok, advance_eq hs ht]
    simp only [Prod.mk.injEq, Except.ok.injEq, Parser.note, hl, true_and]
    constructor
    · rintro ⟨_, _, ⟨rfl, rfl⟩, h⟩
      exact h.symm
    · intro h
      exact ⟨t, s.pass, ⟨rfl, rfl⟩, h.symm⟩
  · simp [mismatch_ne_ok, hl]

/-! ## Acceptance -/

/-- the parser succeeds exactly on the tokens of the rule, when what follows them satisfies `F` -/
def Accepts {α : Type} (p : Parser α) (R : Rule α) (F : α → Kind → Prop) : Prop :=
  ∀ s s' a, Ended s.ahead → (p s = (.ok a, s') ↔ ∃ ts sk, R ts sk a ∧ Moves s ts sk s' ∧ F a s'.nextKind)

/-- acceptance when a certain token is at hand -/
def AcceptsAt {α : Type} (t : Token) (p : Parser α) (R : Rule α) (F : α → Kind → Prop) : Prop :=
  ∀ s s' a r, Ended s.ahead → s.ahead = t :: r →
    (p s = (.ok a, s') ↔ ∃ ts sk, R ts sk a ∧ Moves s ts sk s' ∧ F a s'.nextKind)

theorem Accepts.at {α : Type} {p : Parser α} {R : Rule α} {F : α → Kind → Prop} (h : Accepts p R F) (t : Token) :
    AcceptsAt t p R F :=
  fun s s' a _ hs _ => h s s' a hs

theorem accepts_of_at {α : Type} {p : Parser α} {R : Rule α} {F : α → Kind → Prop} (h : ∀ t, AcceptsAt t p R F) :
    Accepts p R F := by
  intro s s' a hs
  obtain ⟨t, r, hr, -⟩ := hs.exists_cons
  exact h t s s' a r hs hr

def anyNext {α : Type} : α → Kind → Prop := fun _ _ => True

theorem accepts_given {α : Type} (c : Prop) (a : α) (p : Parser α)
    (hp : ∀ s s' b, p s = (.ok b, s') ↔ c ∧ b = a ∧ s' = s) : Accepts p (Rule.given c a) anyNext := by
  intro s s' b _
  rw [hp]
  constructor
  · rintro ⟨hc, rfl, rfl⟩
    exact ⟨[], [], ⟨hc, rfl, rfl, rfl⟩, (moves_nil _ _).2 rfl, trivial⟩
  · rintro ⟨_, _, ⟨hc, rfl, rfl, rfl⟩, hm, -⟩
    exact ⟨hc, rfl, (moves_nil _ _).1 hm⟩

theorem accepts_pure {α : Type} (a : α) : Accepts (pure a) (pure a) anyNext := by
  intro s s' b _
  rw [pure_eq_ok]
  constructor
  · rintro ⟨rfl, rfl⟩
    exact ⟨[], [], ⟨rfl, rfl, rfl⟩, (moves_nil _ _).2 rfl, trivial⟩
  · rintro ⟨_, _, ⟨rfl, rfl, rfl⟩, hm, -⟩
    exact ⟨rfl, (moves_nil _ _).1 hm⟩

/-- **Sequence.** The condition on what follows is that of the second parser, together with what the first one finds out
about the token after it: the first token of the second, or what follows when the second passes none. -/
theorem acceptsAt_bind {α β : Type} {t : Token} {p : Parser α} {f : α → Parser β} {R : Rule α} {Q : α → Rule β}
    {F : α → Kind → Prop} {G H : β → Kind → Prop} (hp : AcceptsAt t p R F) (hf : ∀ a, Accepts (f a) (Q a) G)
    (hH : ∀ a ts sk b k, Q a ts sk b → (F a (firstKind ts k) ∧ G b k ↔ H b k)) :
    AcceptsAt t (p >>= f) (R >>= Q) H := by
  intro s s' b r hs hr
  rw [bind_eq_ok]
  constructor
  · rintro ⟨a, m, h1, h2⟩
    obtain ⟨ts₁, sk₁, hR, hm₁, hF⟩ := (hp s m a r hs hr).1 h1
    obtain ⟨ts₂, sk₂, hQ, hm₂, hG⟩ := (hf a m s' b (hm₁.ended hs)).1 h2
    rw [hm₂.nextKind] at hF
    exact ⟨ts₁ ++ ts₂, sk₁ ++ sk₂, ⟨a, ts₁, ts₂, sk₁, sk₂, rfl, rfl, hR, hQ⟩,
      (moves_append _ _ _ _ _ _).2 ⟨m, hm₁, hm₂⟩, (hH a ts₂ sk₂ b _ hQ).1 ⟨hF, hG⟩⟩
  · rintro ⟨_, _, ⟨a, ts₁, ts₂, sk₁, sk₂, rfl, rfl, hR, hQ⟩, hm, hb⟩
    obtain ⟨m, hm₁, hm₂⟩ := (moves_append _ _ _ _ _ _).1 hm
    obtain ⟨hF, hG⟩ := (hH a ts₂ sk₂ b _ hQ).2 hb
    rw [← hm₂.nextKind] at hF
    exact ⟨a, m, (hp s m a r hs hr).2 ⟨ts₁, sk₁, hR, hm₁, hF⟩,
      (hf a m s' b (hm₁.ended hs)).2 ⟨ts₂, sk₂, hQ, hm₂, hG⟩⟩

/-- a sequence whose first parser does not look ahead -/
theorem acceptsAt_then {α β : Type} {t : Token} {p : Parser α} {f : α → Parser β} {R : Rule α} {Q : α → Rule β}
    {G : β → Kind → Prop} (hp : AcceptsAt t p R anyNext) (hf : ∀ a, Accepts (f a) (Q a) G) :
    AcceptsAt t (p >>= f) (R >>= Q) G :=
  acceptsAt_bind hp hf fun _ _ _ _ _ _ => and_iff_right trivial

theorem accepts_then {α β : Type} {p : Parser α} {f : α → Parser β} {R : Rule α} {Q : α → Rule β}
    {G : β → Kind → Prop} (hp : Accepts p R anyNext) (hf : ∀ a, Accepts (f a) (Q a) G) :
    Accepts (p >>= f) (R >>= Q) G :=
  accepts_of_at fun t => acceptsAt_then (hp.at t) hf

/-- a sequence whose second part starts with a token that the first one stops at -/
theorem accepts_until {α β : Type} {p : Parser α} {f : α → Parser β} {R : Rule α} {P : Token → Prop}
    {Q : α → Token → Rule β} {F : α → Kind → Prop} {G : β → Kind → Prop} (hp : Accepts p R F)
    (hf : ∀ a, Accepts (f a) (Rule.token P >>= Q a) G) (hF : ∀ a t, P t → F a t.kind) :
    Accepts (p >>= f) (R >>= fun a => Rule.token P >>= Q a) G := by
  refine accepts_of_at fun t => acceptsAt_bind (hp.at t) hf fun a ts sk b k h => and_iff_right ?_
  obtain ⟨u, us, rfl, hu, -⟩ := (Rule.token_bind_iff _ _ _ _ _).1 h
  exact hF a u hu

/-- a parser and a function on what it gives -/
theorem accepts_map {α β : Type} {p : Parser α} {R : Rule α} {F : α → Kind → Prop} {H : β → Kind → Prop}
    (g : α → β) (hp : Accepts p R F) (hH : ∀ a k, F a k ↔ H (g a) k) :
    Accepts (p >>= fun a => pure (g a)) (R >>= fun a => pure (g a)) H := by
  refine accepts_of_at fun t => acceptsAt_bind (hp.at t) (fun a => accepts_pure (g a)) ?_
  rintro a _ _ _ k ⟨rfl, rfl, rfl⟩
  exact (and_iff_left trivial).trans (hH a k)

/-- a parser that goes on under a condition only -/
theorem accepts_guard {β : Type} {b : Bool} {c : Prop} (hc : b = true ↔ ¬ c) (e : Fault) {q : Parser β} {Q : Rule β}
    {G : β → Kind → Prop} (hq : Accepts q Q G) :
    Accepts (if b = true then fail e else q) (Rule.given c () >>= fun _ => Q) G := by
  intro s s' a hs
  simp only [Rule.given_bind_iff]
  split_ifs with hb
  · have hn := hc.1 hb
    simp [fail, hn]
  · have hy : c := Classical.not_not.1 fun h => hb (hc.2 h)
    simp only [hy, true_and]
    exact hq s s' a hs

theorem accepts_checked {α : Type} (is : List Check.Issue) (a : α) :
    Accepts (checked is a) (Rule.given (is = []) a) anyNext := by
  apply accepts_given
  intro s s' b
  unfold checked
  split_ifs with h
  · rw [pure_eq_ok]
    simp [List.isEmpty_iff.1 h]
  · simp only [List.isEmpty_iff] at h
    simp [fail, h]

/-! ## Choice by the token at hand -/

/-- a parser that goes by the token at hand accepts a rule if it does so at every token -/
theorem accepts_current {α : Type} {f : Token → Parser α} {R : Rule α} {F : α → Kind → Prop}
    (h : ∀ t, AcceptsAt t (f t) R F) : Accepts (current >>= f) R F := by
  intro s s' a hs
  obtain ⟨t, r, hr, -⟩ := hs.exists_cons
  rw [current_bind hr]
  exact h t s s' a r hs hr

theorem accepts_sees {α : Type} {ks : List Kind} {f : Bool → Parser α} {R : Rule α} {F : α → Kind → Prop}
    (h : ∀ t, AcceptsAt t (f (ks.contains t.kind)) R F) : Accepts (sees ks >>= f) R F := by
  intro s s' a hs
  obtain ⟨t, r, hr, -⟩ := hs.exists_cons
  have hsees : sees ks s = (.ok (ks.contains t.kind), s) := current_bind hr _
  rw [bind_eq_ok, hsees, ← h t s s' a r hs hr]
  constructor
  · rintro ⟨_, _, heq, h'⟩
    simp only [Prod.mk.injEq, Except.ok.injEq] at heq
    obtain ⟨rfl, rfl⟩ := heq
    exact h'
  · intro h'
    exact ⟨_, _, rfl, h'⟩

theorem acceptsAt_advance {t : Token} (ht : t.kind ≠ .finish) : AcceptsAt t advance (Rule.token (· = t)) anyNext := by
  intro s s' u r _ hr
  rw [advance_eq hr ht]
  constructor
  · intro h
    simp only [Prod.mk.injEq, Except.ok.injEq] at h
    obtain ⟨rfl, rfl⟩ := h
    exact ⟨[t], [], ⟨rfl, rfl, rfl⟩, (moves_pass hr ht _).2 rfl, trivial⟩
  · rintro ⟨_, _, ⟨rfl, rfl, rfl⟩, hm, -⟩
    rw [(moves_pass hr ht s').1 hm]

theorem acceptsAt_passOver {α : Type} {t : Token} (ht : t.kind ≠ .finish) (o : Options) (x : String) (a : α) :
    AcceptsAt t (do passOver o x; pure a) (Rule.skip (fun u => o.lenient = true ∧ u = t) a) anyNext := by
  intro s s' b r _ hr
  rw [bind_eq_ok]
  simp only [passOver_eq_ok hr ht, pure_eq_ok]
  constructor
  · rintro ⟨_, _, ⟨hl, rfl⟩, rfl, rfl⟩
    exact ⟨[t], [t], ⟨t, rfl, rfl, ⟨hl, rfl⟩, rfl⟩, (moves_skip hr ht _).2 rfl, trivial⟩
  · rintro ⟨_, _, ⟨_, rfl, rfl, ⟨hl, rfl⟩, rfl⟩, hm, -⟩
    exact ⟨(), s', ⟨hl, (moves_skip hr ht s').1 hm⟩, rfl, rfl⟩

theorem acceptsAt_mismatch {α : Type} (t : Token) (x : String) (F : α → Kind → Prop) :
    AcceptsAt t (mismatch x) (fun _ _ _ => False) F := by
  intro s s' a r _ _
  simp [mismatch_ne_ok]

/-- rules that agree on the runs of tokens that `t` starts, or stands after, are accepted alike when `t` is at hand -/
theorem AcceptsAt.congr {α : Type} {t : Token} {p : Parser α} {R R' : Rule α} {F F' : α → Kind → Prop}
    (h : AcceptsAt t p R F) (hcons : ∀ ts sk a k, R (t :: ts) sk a ∧ F a k ↔ R' (t :: ts) sk a ∧ F' a k)
    (hnil : ∀ sk a, R [] sk a ∧ F a t.kind ↔ R' [] sk a ∧ F' a t.kind) : AcceptsAt t p R' F' := by
  intro s s' a r hs hr
  rw [h s s' a r hs hr]
  -- the tokens of a move from `s` are none, and then `t` is next, or start with `t`
  have key : ∀ ts sk, Moves s ts sk s' → (R ts sk a ∧ F a s'.nextKind ↔ R' ts sk a ∧ F' a s'.nextKind) := by
    intro ts sk hm
    have hahead := hm.ahead
    rw [hr] at hahead
    cases ts with
    | nil =>
      have hk : s'.nextKind = t.kind := by
        rw [List.nil_append] at hahead
        rw [Session.nextKind, ← hahead]
        rfl
      rw [hk]
      exact hnil sk a
    | cons u ts =>
      obtain rfl : t = u := (List.cons.inj hahead).1
      exact hcons ts sk a _
  constructor
  · rintro ⟨ts, sk, hR, hm, hF⟩
    obtain ⟨hR', hF'⟩ := (key ts sk hm).1 ⟨hR, hF⟩
    exact ⟨ts, sk, hR', hm, hF'⟩
  · rintro ⟨ts, sk, hR, hm, hF⟩
    obtain ⟨hR', hF'⟩ := (key ts sk hm).2 ⟨hR, hF⟩
    exact ⟨ts, sk, hR', hm, hF'⟩

/-- one token of a class, or an error -/
theorem accepts_class (P : Token → Prop) [DecidablePred P] (hP : ∀ t, P t → t.kind ≠ .finish) (x : String) :
    Accepts (current >>= fun t => if P t then advance else mismatch x) (Rule.token P) anyNext := by
  refine accepts_current fun t => ?_
  split_ifs with ht
  · refine (acceptsAt_advance (hP t ht)).congr (fun ts sk u k => ?_) (fun sk u => ?_)
    · simp only [Rule.token, List.cons.injEq, and_congr_left_iff]
      intro _
      constructor
      · rintro ⟨⟨rfl, rfl⟩, rfl, -⟩
        exact ⟨⟨rfl, rfl⟩, rfl, ht⟩
      · rintro ⟨⟨rfl, rfl⟩, rfl, -⟩
        exact ⟨⟨rfl, rfl⟩, rfl, rfl⟩
    · simp [Rule.token]
  · refine (acceptsAt_mismatch t x anyNext).congr (fun ts sk u k => ?_) (fun sk u => ?_)
    · simp only [Rule.token, List.cons.injEq, false_and, false_iff]
      rintro ⟨⟨⟨rfl, rfl⟩, -, hu⟩, -⟩
      exact ht hu
    · simp [Rule.token]

theorem accepts_expect (k : Kind) (hk : k ≠ .finish) : Accepts (expect k) (Rule.token (·.kind = k)) anyNext :=
  accepts_class (·.kind = k) (fun _ ht => ht ▸ hk) _

theorem isName_ne_finish {k : Kind} (h : k.isName = true) : k ≠ .finish := by
  rintro rfl
  simp [Kind.isName] at h

theorem accepts_nameToken : Accepts nameToken (Rule.token (·.kind.isName = true)) anyNext :=
  accepts_class (·.kind.isName = true) (fun _ ht => isName_ne_finish ht) _

/-! ## Repetition -/

/-- one step of a repetition: nothing, or the tokens of a rule -/
def Rule.optional {α : Type} (R : Rule α) : Rule (Option α) := fun ts sk x =>
  match x with
  | none => ts = [] ∧ sk = []
  | some a => R ts sk a

/-- nothing is given only before certain kinds -/
def stopsAt {α : Type} (stop : Kind → Prop) : Option α → Kind → Prop := fun x k => x = none → stop k

/-- a step stops before a token that starts nothing of the rule -/
theorem acceptsAt_stop {α : Type} {t : Token} {R : Rule α} {stop : Kind → Prop} (ht : stop t.kind)
    (hcons : ∀ ts sk a, ¬ R (t :: ts) sk a) (hnil : ∀ sk a, ¬ R [] sk a) :
    AcceptsAt t (pure none) R.optional (stopsAt stop) := by
  refine ((accepts_pure none).at t).congr (fun ts sk x k => ?_) (fun sk x => ?_)
  · cases x with
    | none => simp [Rule.optional]
    | some a => simp [Rule.optional, hcons]
  · cases x with
    | none => simp [Rule.optional, stopsAt, anyNext, ht]
    | some a => simp [Rule.optional, hnil]

/-- a step gives something at a token that starts the rule -/
theorem acceptsAt_go {α : Type} {t : Token} {p : Parser (Option α)} {R : Rule α} {R' : Rule (Option α)}
    {stop : Kind → Prop} (ht : ¬ stop t.kind) (h : AcceptsAt t p R' anyNext)
    (hcons : ∀ ts sk a, R' (t :: ts) sk (some a) ↔ R (t :: ts) sk a) (hnone : ∀ ts sk, ¬ R' (t :: ts) sk none)
    (hnil : ∀ sk x, ¬ R' [] sk x) (hR : ∀ sk a, ¬ R [] sk a) : AcceptsAt t p R.optional (stopsAt stop) := by
  refine h.congr (fun ts sk x k => ?_) (fun sk x => ?_)
  · cases x with
    | none => simp [Rule.optional, hnone]
    | some a => simp [Rule.optional, stopsAt, anyNext, hcons]
  · cases x with
    | none => simp [Rule.optional, stopsAt, hnil, ht]
    | some a => simp [Rule.optional, hnil, hR]

/-- within `n` steps a repetition reads fewer than `n` items -/
theorem manyWithin_eq_ok {α : Type} {step : Parser (Option α)} {R : Rule α} {stop : Kind → Prop}
    (h : Accepts step R.optional (stopsAt stop)) (n : Nat) (s s' : Session) (as : List α) (hs : Ended s.ahead) :
    manyWithin step n s = (.ok as, s') ↔
      as.length < n ∧ ∃ ts sk, Rule.Star R ts sk as ∧ Moves s ts sk s' ∧ stop s'.nextKind := by
  induction n generalizing s as with
  | zero => simp [manyWithin, fail]
  | succ n ih =>
    unfold manyWithin
    rw [bind_eq_ok]
    constructor
    · rintro ⟨x, m, hx, hrest⟩
      obtain ⟨ts, sk, hR, hm, hstop⟩ := (h s m x hs).1 hx
      cases x with
      | none =>
        obtain ⟨rfl, rfl⟩ := hR
        obtain ⟨rfl, rfl⟩ := (pure_eq_ok _ _ _ _).1 hrest
        exact ⟨by simp, [], [], .nil, hm, hstop rfl⟩
      | some a =>
        obtain ⟨bs, m', hbs, hp⟩ := (bind_eq_ok _ _ _ _ _).1 hrest
        obtain ⟨rfl, rfl⟩ := (pure_eq_ok _ _ _ _).1 hp
        obtain ⟨hlen, us, sl, hstar, hm', hstop'⟩ := (ih m bs (hm.ended hs)).1 hbs
        exact ⟨by simpa using hlen, ts ++ us, sk ++ sl, .cons hR hstar,
          (moves_append _ _ _ _ _ _).2 ⟨m, hm, hm'⟩, hstop'⟩
    · rintro ⟨hlen, _, _, hstar, hm, hstop⟩
      cases hstar with
      | nil => exact ⟨none, s', (h s s' none hs).2 ⟨[], [], ⟨rfl, rfl⟩, hm, fun _ => hstop⟩, rfl⟩
      | @cons ts us sk sl a bs hR hstar =>
        obtain ⟨m, hm₁, hm₂⟩ := (moves_append _ _ _ _ _ _).1 hm
        have hnone : stopsAt stop (some a) m.nextKind := fun e => nomatch e
        refine ⟨some a, m, (h s m (some a) hs).2 ⟨ts, sk, hR, hm₁, hnone⟩, (bind_eq_ok _ _ _ _ _).2 ⟨bs, s', ?_, rfl⟩⟩
        exact (ih m bs (hm₁.ended hs)).2 ⟨by simpa using hlen, us, sl, hstar, hm₂, hstop⟩

/-- **Repetition.** The steps allowed are as many as the tokens ahead and one more, which is always enough. -/
theorem accepts_many {α : Type} {step : Parser (Option α)} {R : Rule α} {stop : Kind → Prop}
    (h : Accepts step R.optional (stopsAt stop)) (hR : ∀ sk a, ¬ R [] sk a) :
    Accepts (many step) (Rule.star R) (fun _ k => stop k) := by
  intro s s' as hs
  unfold many
  rw [manyWithin_eq_ok h _ _ _ _ hs]
  constructor
  · rintro ⟨-, h⟩
    exact h
  · rintro ⟨ts, sk, hstar, hm, hstop⟩
    refine ⟨?_, ts, sk, hstar, hm, hstop⟩
    have hlen := hstar.length_le hR
    rw [hm.ahead, List.length_append]
    omega

end Pagewright.Grammar
