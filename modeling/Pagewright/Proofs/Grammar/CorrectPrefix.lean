/-
Errors stand at the first token that no application can have there. When reading stops at a token that does not fit, the
tokens before it can be completed to an application, and the error is the same whatever comes after it
(`parse_error_at_first_hopeless_token`).

`Prompt p R` says so of a parser and its rule: what it gives is settled by the tokens it passes and the one after them
(`Passes`), what it refuses by the tokens up to the refused one (`Refuses`), and the tokens before that one are the beginning
of tokens of the rule (`Rule.Viable`). It is carried through the grammar like acceptance. A repetition needs care with the
number of its steps, which depends on all the tokens ahead, and the check of a field type with its place, since it refuses a
token that has been passed.
-/
import Pagewright.Proofs.Grammar.Faults

namespace Pagewright

/-- the error is about this token: its place and its kind -/
def ParseError.Describes (e : ParseError) (t : Token) : Prop :=
  e.line = t.line ∧ e.column = t.column ∧ e.found = t.kind.describe

namespace Grammar

open Pagewright.Grammar.Parser

/-! ## Beginnings -/

/-- the tokens are a beginning of the rule: some tokens, none of them the end, complete them -/
def Rule.Viable {α : Type} (R : Rule α) (ts : List Token) : Prop :=
  ∃ us sk a, R (ts ++ us) sk a ∧ ∀ t ∈ us, t.Shaped ∧ t.kind ≠ .finish

/-- the parser gives a value after these tokens whenever this one is next -/
def Passes {α : Type} (p : Parser α) (a : α) (ts : List Token) (next : Option Token) : Prop :=
  ∀ u : Session, ∀ w, u.ahead = ts ++ w → w.head? = next → ∃ m, p u = (.ok a, m) ∧ m.ahead = w

/-- the parser stops with an error after these tokens whenever this one is next -/
def Refuses {α : Type} (p : Parser α) (e : ParseError) (ts : List Token) (t : Token) : Prop :=
  ∀ u : Session, ∀ r, u.ahead = ts ++ t :: r → ∃ m, p u = (.error (.mismatch e), m)

/-- what is given and what is refused is settled by the tokens up to there, when a certain token is at hand -/
structure PromptAt {α : Type} (t : Token) (p : Parser α) (R : Rule α) : Prop where
  passes : ∀ {s m : Session} {a : α} {r : List Token}, Lexed s.ahead → s.ahead = t :: r → p s = (.ok a, m) →
    ∃ ts sk, R ts sk a ∧ Moves s ts sk m ∧ Passes p a ts m.ahead.head?
  refuses : ∀ {s m : Session} {e : ParseError} {r : List Token}, Lexed s.ahead → s.ahead = t :: r →
    p s = (.error (.mismatch e), m) →
      ∃ ts t' r', s.ahead = ts ++ t' :: r' ∧ e.Describes t' ∧ R.Viable ts ∧ Refuses p e ts t'

/-- the same at every token, for a rule that has tokens at all -/
structure Prompt {α : Type} (p : Parser α) (R : Rule α) : Prop where
  each : ∀ t : Token, t.Shaped → PromptAt t p R
  continues : R.Viable []

section

variable {α β : Type} {t : Token} {p p' : Parser α} {f : α → Parser β} {R R' : Rule α} {Q : α → Rule β}

theorem Rule.viable_of_mono (h : ∀ ts sk a, R ts sk a → R' ts sk a) {ts : List Token} (hR : R.Viable ts) : R'.Viable ts := by
  obtain ⟨us, sk, a, ha, hus⟩ := hR
  exact ⟨us, sk, a, h _ _ _ ha, hus⟩

theorem Prompt.passes (h : Prompt p R) {s m : Session} {a : α} (hs : Lexed s.ahead) (hp : p s = (.ok a, m)) :
    ∃ ts sk, R ts sk a ∧ Moves s ts sk m ∧ Passes p a ts m.ahead.head? := by
  obtain ⟨t, r, hr, -⟩ := hs.1.exists_cons
  exact (h.each t (hs.2 t (by simp [hr]))).passes hs hr hp

theorem Prompt.refuses (h : Prompt p R) {s m : Session} {e : ParseError} (hs : Lexed s.ahead)
    (hp : p s = (.error (.mismatch e), m)) :
    ∃ ts t r, s.ahead = ts ++ t :: r ∧ e.Describes t ∧ R.Viable ts ∧ Refuses p e ts t := by
  obtain ⟨t, r, hr, -⟩ := hs.1.exists_cons
  exact (h.each t (hs.2 t (by simp [hr]))).refuses hs hr hp

theorem PromptAt.mono (h : PromptAt t p R) (hR : ∀ ts sk a, R ts sk a → R' ts sk a) : PromptAt t p R' := by
  constructor
  · intro s m a r hs hr hp
    obtain ⟨ts, sk, ha, hm, hpasses⟩ := h.passes hs hr hp
    exact ⟨ts, sk, hR _ _ _ ha, hm, hpasses⟩
  · intro s m e r hs hr hp
    obtain ⟨ts, t', r', hahead, he, hviable, hrefuses⟩ := h.refuses hs hr hp
    exact ⟨ts, t', r', hahead, he, Rule.viable_of_mono hR hviable, hrefuses⟩

/-- tokens after the same ones start alike when what follows them does -/
theorem head?_append_congr (ts : List Token) {w w' : List Token} (h : w.head? = w'.head?) :
    (ts ++ w).head? = (ts ++ w').head? := by
  rw [List.head?_append, List.head?_append, h]

/-- only sessions with the token at hand matter -/
theorem PromptAt.congr (h : PromptAt t p R) (hp : ∀ u r, u.ahead = t :: r → p' u = p u) : PromptAt t p' R := by
  -- a session that starts like one with the token at hand has it at hand
  have hsame : ∀ {s u : Session} {r : List Token}, s.ahead = t :: r → u.ahead.head? = s.ahead.head? → p' u = p u := by
    intro s u r hr hu
    rw [hr] at hu
    obtain ⟨r', hr'⟩ := List.head?_eq_some_iff.1 hu
    exact hp u r' hr'
  constructor
  · intro s m a r hs hr ha
    rw [hp s r hr] at ha
    obtain ⟨ts, sk, hR, hm, hpasses⟩ := h.passes hs hr ha
    refine ⟨ts, sk, hR, hm, ?_⟩
    intro u w hu hw
    rw [hsame hr (by rw [hu, hm.ahead]; exact head?_append_congr ts hw)]
    exact hpasses u w hu hw
  · intro s m e r hs hr he
    rw [hp s r hr] at he
    obtain ⟨ts, t', r', hahead, hdescribes, hviable, hrefuses⟩ := h.refuses hs hr he
    refine ⟨ts, t', r', hahead, hdescribes, hviable, ?_⟩
    intro u r'' hu
    rw [hsame hr (by rw [hu, hahead]; exact head?_append_congr ts rfl)]
    exact hrefuses u r'' hu

/-! ## Sequence and choice -/

theorem prompt_pure (a : α) : Prompt (pure a) (pure a) := by
  refine ⟨fun t _ => ⟨?_, ?_⟩, ⟨[], [], a, ⟨rfl, rfl, rfl⟩, by simp⟩⟩
  · intro s m b r _ _ hb
    obtain ⟨rfl, rfl⟩ := (pure_eq_ok _ _ _ _).1 hb
    exact ⟨[], [], ⟨rfl, rfl, rfl⟩, (moves_nil _ _).2 rfl, fun u w hu _ => ⟨u, rfl, hu⟩⟩
  · intro s m e r _ _ he
    cases he

/-- **Sequence.** What the first part refuses, a continuation of the first part and one of the second complete; what the
second refuses comes after tokens that the first part passes whatever comes later. -/
theorem promptAt_bind (hp : PromptAt t p R)
    (hf : ∀ a ts sk, R ts sk a → (∀ t ∈ ts, t.Shaped) → Prompt (f a) (Q a)) : PromptAt t (p >>= f) (R >>= Q) := by
  constructor
  · intro s m b r hs hr hb
    obtain ⟨a, n, ha, hb⟩ := (bind_eq_ok _ _ _ _ _).1 hb
    obtain ⟨ts, sk, hR, hmoves, hpasses⟩ := hp.passes hs hr ha
    obtain ⟨hlexed, hshaped⟩ := hmoves.lexed hs
    obtain ⟨us, sl, hQ, hmoves', hpasses'⟩ := (hf a ts sk hR hshaped).passes hlexed hb
    refine ⟨ts ++ us, sk ++ sl, ⟨a, ts, us, sk, sl, rfl, rfl, hR, hQ⟩, (moves_append _ _ _ _ _ _).2 ⟨n, hmoves, hmoves'⟩, ?_⟩
    intro u w hu hw
    rw [List.append_assoc] at hu
    obtain ⟨n', ha', hn'⟩ := hpasses u (us ++ w) hu (by rw [hmoves'.ahead]; exact head?_append_congr us hw)
    obtain ⟨m', hb', hm'⟩ := hpasses' n' w hn' hw
    exact ⟨m', (bind_eq_ok _ _ _ _ _).2 ⟨a, n', ha', hb'⟩, hm'⟩
  · intro s m e r hs hr he
    rcases (bind_eq_error _ _ _ _ _).1 he with he | ⟨a, n, ha, he⟩
    · obtain ⟨ts, t', r', hahead, hdescribes, ⟨us, sk, a, hR, hus⟩, hrefuses⟩ := hp.refuses hs hr he
      have hshaped : ∀ t ∈ ts ++ us, t.Shaped := by
        have hts := hs.2
        rw [hahead, List.forall_mem_append] at hts
        exact List.forall_mem_append.2 ⟨hts.1, fun t ht => (hus t ht).1⟩
      obtain ⟨vs, sl, b, hQ, hvs⟩ := (hf a _ sk hR hshaped).continues
      refine ⟨ts, t', r', hahead, hdescribes, ⟨us ++ vs, sk ++ sl, b, ?_, ?_⟩, ?_⟩
      · exact ⟨a, ts ++ us, vs, sk, sl, (List.append_assoc ..).symm, rfl, hR, hQ⟩
      · exact List.forall_mem_append.2 ⟨hus, hvs⟩
      · intro u r'' hu
        obtain ⟨m', hm'⟩ := hrefuses u r'' hu
        exact ⟨m', (bind_eq_error _ _ _ _ _).2 (Or.inl hm')⟩
    · obtain ⟨ts, sk, hR, hmoves, hpasses⟩ := hp.passes hs hr ha
      obtain ⟨hlexed, hshaped⟩ := hmoves.lexed hs
      obtain ⟨us, t', r', hahead, hdescribes, ⟨vs, sl, b, hQ, hvs⟩, hrefuses⟩ := (hf a ts sk hR hshaped).refuses hlexed he
      refine ⟨ts ++ us, t', r', by rw [hmoves.ahead, hahead, List.append_assoc], hdescribes, ⟨vs, sk ++ sl, b, ?_, hvs⟩, ?_⟩
      · exact ⟨a, ts, us ++ vs, sk, sl, List.append_assoc .., rfl, hR, hQ⟩
      · intro u r'' hu
        rw [List.append_assoc] at hu
        obtain ⟨n', ha', hn'⟩ := hpasses u _ hu (by rw [hahead]; exact head?_append_congr us rfl)
        obtain ⟨m', hm'⟩ := hrefuses n' r'' hn'
        exact ⟨m', (bind_eq_error _ _ _ _ _).2 (Or.inr ⟨a, n', ha', hm'⟩)⟩

theorem prompt_bind (hp : Prompt p R)
    (hf : ∀ a ts sk, R ts sk a → (∀ t ∈ ts, t.Shaped) → Prompt (f a) (Q a)) : Prompt (p >>= f) (R >>= Q) := by
  refine ⟨fun t ht => promptAt_bind (hp.each t ht) hf, ?_⟩
  obtain ⟨us, sk, a, hR, hus⟩ := hp.continues
  rw [List.nil_append] at hR
  obtain ⟨vs, sl, b, hQ, hvs⟩ := (hf a us sk hR fun t ht => (hus t ht).1).continues
  exact ⟨us ++ vs, sk ++ sl, b, ⟨a, us, vs, sk, sl, rfl, rfl, hR, hQ⟩, List.forall_mem_append.2 ⟨hus, hvs⟩⟩

/-- a parser that goes by the token at hand -/
theorem prompt_current {g : Token → Parser α} (hR : R.Viable []) (h : ∀ t, t.Shaped → PromptAt t (g t) R) :
    Prompt (current >>= g) R :=
  ⟨fun t ht => (h t ht).congr fun _ _ hu => current_bind hu g, hR⟩

theorem prompt_sees {ks : List Kind} {g : Bool → Parser α} (hR : R.Viable [])
    (h : ∀ t : Token, t.Shaped → PromptAt t (g (ks.contains t.kind)) R) : Prompt (sees ks >>= g) R := by
  rw [sees_bind]
  exact prompt_current hR h

/-! ## Tokens -/

theorem describes_mismatchAt (t : Token) (x : String) : (mismatchAt t x).Describes t := ⟨rfl, rfl, rfl⟩

theorem mismatch_eq {s : Session} {r : List Token} (hr : s.ahead = t :: r) (x : String) :
    (mismatch x : Parser α) s = (.error (.mismatch (mismatchAt t x)), s) := current_bind hr _

/-- a token that does not fit is refused at once -/
theorem promptAt_mismatch (hR : R.Viable []) (x : String) : PromptAt t (mismatch x : Parser α) R := by
  constructor
  · intro s m a r _ _ ha
    exact absurd ha (mismatch_ne_ok _ _ _ _)
  · intro s m e r _ hr he
    rw [mismatch_eq hr] at he
    cases he
    exact ⟨[], t, r, hr, describes_mismatchAt t x, hR, fun u _ hu => ⟨u, mismatch_eq hu x⟩⟩

/-- another fault is none of these errors -/
theorem promptAt_fault {g : Fault} (hg : ∀ e, g ≠ .mismatch e) (h : ∀ u r, u.ahead = t :: r → (p u).1 = .error g) :
    PromptAt t p R := by
  constructor
  · intro s m a r _ hr ha
    have hfault := h s r hr
    rw [ha] at hfault
    cases hfault
  · intro s m e r _ hr he
    have hfault := h s r hr
    rw [he] at hfault
    exact absurd (Except.error.inj hfault).symm (hg e)

theorem ahead_pass {s : Session} {r : List Token} (hr : s.ahead = t :: r) : s.pass.ahead = r := by
  simp [Session.pass, hr]

theorem promptAt_advance (ht : t.kind ≠ .finish) : PromptAt t advance (Rule.token (· = t)) := by
  constructor
  · intro s m u r _ hr hu
    rw [advance_eq hr ht] at hu
    cases hu
    exact ⟨[t], [], ⟨rfl, rfl, rfl⟩, (moves_pass hr ht _).2 rfl, fun v w hv _ => ⟨v.pass, advance_eq hv ht, ahead_pass hv⟩⟩
  · intro s m e r _ hr he
    rw [advance_eq hr ht] at he
    cases he

/-- a token that starts nothing is skipped, or else refused -/
theorem promptAt_passOver (ht : t.kind ≠ .finish) (o : Options) (x : String) {a : α} (hR : R.Viable [])
    (hskip : o.lenient = true → R [t] [t] a) : PromptAt t (do passOver o x; pure a) R := by
  cases hl : o.lenient with
  | true =>
    have hpass : ∀ u r, u.ahead = t :: r →
        (do passOver o x; pure a : Parser α) u = (.ok a, u.pass.note (.skipped t)) := by
      intro u r hu
      exact (bind_eq_ok _ _ _ _ _).2 ⟨(), _, (passOver_eq_ok hu ht o x _).2 ⟨hl, rfl⟩, rfl⟩
    constructor
    · intro s m b r _ hr hb
      rw [hpass s r hr] at hb
      cases hb
      exact ⟨[t], [t], hskip hl, (moves_skip hr ht _).2 rfl, fun v w hv _ => ⟨_, hpass v w hv, ahead_pass hv⟩⟩
    · intro s m e r _ hr he
      rw [hpass s r hr] at he
      cases he
  | false =>
    refine (promptAt_mismatch hR x).congr fun u r hu => ?_
    rw [mismatch_eq hu]
    show andThen (passOver o x) _ u = _
    simp only [passOver, hl, Bool.false_eq_true, if_false, andThen, mismatch_eq hu]

/-- one token of a class -/
theorem prompt_class (P : Token → Prop) [DecidablePred P] (hP : ∀ t, P t → t.kind ≠ .finish) (x : String)
    (sample : Token) (hsample : P sample) (hshaped : sample.Shaped) :
    Prompt (current >>= fun t => if P t then advance else mismatch x) (Rule.token P) := by
  have hviable : (Rule.token P).Viable [] :=
    ⟨[sample], [], sample, ⟨rfl, rfl, hsample⟩, by simpa using ⟨hshaped, hP sample hsample⟩⟩
  refine prompt_current hviable fun t _ => ?_
  split_ifs with ht
  · refine (promptAt_advance (hP t ht)).mono ?_
    rintro _ _ _ ⟨rfl, rfl, rfl⟩
    exact ⟨rfl, rfl, ht⟩
  · exact promptAt_mismatch hviable x

end

section

variable {β : Type} {f : Token → Parser β} {Q : Token → Rule β}

/-- after a token of a kind that is no name and no number -/
theorem prompt_expect_then {k : Kind} (hk : k ≠ .finish ∧ k ≠ .number ∧ k.isName = false) (hf : ∀ t, Prompt (f t) (Q t)) :
    Prompt (expect k >>= f) (Rule.token (·.kind = k) >>= Q) := by
  refine prompt_bind ?_ fun t _ _ _ _ => hf t
  refine prompt_class (·.kind = k) (fun _ ht => ht ▸ hk.1) _ ⟨k, "", 1, 1⟩ rfl ?_
  constructor
  · intro hname
    exact absurd hname (by simp [hk.2.2])
  · intro hnumber
    exact absurd hnumber hk.2.1

/-- a token that may stand for any name, and for a field type in particular -/
def sampleName : Token := ⟨.textType, "text", 1, 1⟩

theorem shaped_sampleName : sampleName.Shaped := by
  constructor
  · intro _
    decide +kernel
  · intro hnumber
    cases hnumber

theorem prompt_nameToken : Prompt nameToken (Rule.token (·.kind.isName = true)) :=
  prompt_class (·.kind.isName = true) (fun _ ht => isName_ne_finish ht) _ sampleName rfl shaped_sampleName

/-- after a token that stands for a name, which is one -/
theorem prompt_name_then (hf : ∀ t : Token, Name.isName t.value.toList = true → Prompt (f t) (Q t)) :
    Prompt (nameToken >>= f) (Rule.token (·.kind.isName = true) >>= Q) := by
  refine prompt_bind prompt_nameToken ?_
  intro t ts sk ht hshaped
  obtain ⟨rfl, -, hk⟩ := ht
  exact hf t ((hshaped t (by simp)).1 hk)

/-- after a name that is refused under a condition, though it has been passed: the tokens before the name count -/
theorem prompt_name_guard {b : Token → Bool} {c : Token → Prop} {e : Token → ParseError} (hb : ∀ t, b t = true ↔ ¬ c t)
    (he : ∀ t, (e t).Describes t) (hsample : c sampleName)
    (hf : ∀ t : Token, Name.isName t.value.toList = true → Prompt (f t) (Q t)) :
    Prompt (nameToken >>= fun t => if b t = true then fail (.mismatch (e t)) else f t)
      (Rule.token (·.kind.isName = true) >>= fun t => Rule.given (c t) () >>= fun _ => Q t) := by
  have hname : ∀ t : Token, t.Shaped → t.kind.isName = true → Prompt (f t) (Q t) := fun t ht hk => hf t (ht.1 hk)
  have hviable : Rule.Viable (Rule.token (·.kind.isName = true) >>= fun t => Rule.given (c t) () >>= fun _ => Q t) [] := by
    obtain ⟨us, sk, a, hQ, hus⟩ := (hname sampleName shaped_sampleName rfl).continues
    refine ⟨sampleName :: us, sk, a, ?_, List.forall_mem_cons.2 ⟨⟨shaped_sampleName, by decide⟩, hus⟩⟩
    exact (Rule.token_bind_iff _ _ _ _ _).2 ⟨sampleName, us, rfl, rfl, (Rule.given_bind_iff _ _ _ _ _ _).2 ⟨hsample, hQ⟩⟩
  refine ⟨fun t ht => ?_, hviable⟩
  cases hk : t.kind.isName with
  | false =>
    refine (promptAt_mismatch hviable Kind.identifier.describe).congr fun u r hu => ?_
    have hstop : nameToken u = (.error (.mismatch (mismatchAt t Kind.identifier.describe)), u) := by
      refine (current_bind hu _).trans ?_
      rw [if_neg (by simp [hk]), mismatch_eq hu]
    rw [mismatch_eq hu]
    exact (bind_eq_error _ _ _ _ _).2 (Or.inl hstop)
  | true =>
    have hfinish := isName_ne_finish hk
    have hgo : ∀ u r, u.ahead = t :: r → nameToken u = (.ok t, u.pass) := by
      intro u r hu
      refine (current_bind hu _).trans ?_
      rw [if_pos hk, advance_eq hu hfinish]
    cases hbt : b t with
    | true =>
      have hstop : ∀ u r, u.ahead = t :: r →
          (nameToken >>= fun t => if b t = true then fail (.mismatch (e t)) else f t) u =
            (.error (.mismatch (e t)), u.pass) := by
        intro u r hu
        refine (bind_eq_error _ _ _ _ _).2 (Or.inr ⟨t, u.pass, hgo u r hu, ?_⟩)
        rw [if_pos hbt]
        rfl
      constructor
      · intro s m a r _ hr ha
        rw [hstop s r hr] at ha
        cases ha
      · intro s m e' r _ hr he'
        rw [hstop s r hr] at he'
        cases he'
        exact ⟨[], t, r, hr, he t, hviable, fun u r' hu => ⟨_, hstop u r' hu⟩⟩
    | false =>
      have hc : c t := Classical.not_not.1 fun h => by simp [(hb t).2 h] at hbt
      have hrest := promptAt_bind (f := fun _ => f t) (promptAt_advance hfinish) fun _ _ _ _ _ => hname t ht hk
      refine PromptAt.congr (hrest.mono ?_) fun u r hu => ?_
      · intro ts sk a h
        obtain ⟨u, us, rfl, rfl, hQ⟩ := (Rule.token_bind_iff _ _ _ _ _).1 h
        exact (Rule.token_bind_iff _ _ _ _ _).2 ⟨u, us, rfl, hk, (Rule.given_bind_iff _ _ _ _ _ _).2 ⟨hc, hQ⟩⟩
      · show andThen nameToken _ u = andThen advance _ u
        simp only [andThen, hgo u r hu, advance_eq hu hfinish, hbt, Bool.false_eq_true, if_false]

end

theorem prompt_checked {α : Type} {is : List Check.Issue} (his : is = []) (a : α) :
    Prompt (checked is a) (Rule.given (is = []) a) := by
  subst his
  have h := prompt_pure a
  refine ⟨fun t ht => (h.each t ht).mono fun _ _ _ hb => ⟨rfl, hb⟩, ?_⟩
  exact Rule.viable_of_mono (fun _ _ _ hb => ⟨rfl, hb⟩) h.continues

/-! ## Repetition -/

section

variable {α : Type} {step : Parser (Option α)} {R : Rule α}

theorem exists_succ_of_lt {k n : Nat} (h : k < n) : ∃ m, n = m + 1 := ⟨n - 1, by omega⟩

theorem Rule.viable_nil_star : (Rule.star R).Viable [] := ⟨[], [], [], .nil, by simp⟩

/-- items that are read are settled by the tokens they pass and the next one; more steps than such tokens are enough -/
theorem manyWithin_passes (h : Prompt step R.optional) (hR : ∀ sk a, ¬ R [] sk a) {n : Nat} {s m : Session} {as : List α}
    (hs : Lexed s.ahead) (hmany : manyWithin step n s = (.ok as, m)) :
    ∃ ts sk, Rule.Star R ts sk as ∧ Moves s ts sk m ∧
      ∀ n', ts.length < n' → Passes (manyWithin step n') as ts m.ahead.head? := by
  induction n generalizing s as with
  | zero => cases hmany
  | succ n ih =>
    obtain ⟨x, q, hx, hrest⟩ := (bind_eq_ok _ _ _ _ _).1 hmany
    obtain ⟨ts, sk, hitem, hmoves, hpasses⟩ := h.passes hs hx
    cases x with
    | none =>
      obtain ⟨rfl, rfl⟩ := hitem
      obtain ⟨rfl, rfl⟩ := (pure_eq_ok _ _ _ _).1 hrest
      refine ⟨[], [], .nil, hmoves, ?_⟩
      intro n' hn' u w hu hw
      obtain ⟨k, rfl⟩ := exists_succ_of_lt hn'
      obtain ⟨v, hv, hahead⟩ := hpasses u w hu hw
      exact ⟨v, manyWithin_of_none hv k, hahead⟩
    | some a =>
      obtain ⟨bs, m', hbs, hpure⟩ := (bind_eq_ok _ _ _ _ _).1 hrest
      obtain ⟨rfl, rfl⟩ := (pure_eq_ok _ _ _ _).1 hpure
      obtain ⟨us, sl, hstar, hmoves', hmore⟩ := ih (hmoves.lexed hs).1 hbs
      have hpos : 0 < ts.length := List.length_pos_iff.2 fun e => hR sk a (e ▸ hitem)
      refine ⟨ts ++ us, sk ++ sl, .cons hitem hstar, (moves_append _ _ _ _ _ _).2 ⟨q, hmoves, hmoves'⟩, ?_⟩
      intro n' hn' u w hu hw
      rw [List.length_append] at hn'
      obtain ⟨k, rfl⟩ := exists_succ_of_lt hn'
      rw [List.append_assoc] at hu
      obtain ⟨v, hv, hahead⟩ := hpasses u (us ++ w) hu (by rw [hmoves'.ahead]; exact head?_append_congr us hw)
      obtain ⟨v', hv', hahead'⟩ := hmore k (by omega) v w hahead hw
      exact ⟨v', by rw [manyWithin_of_some hv, hv']; rfl, hahead'⟩

/-- an item that is refused is refused after the same items before it, whatever comes later -/
theorem manyWithin_refuses (h : Prompt step R.optional) (hR : ∀ sk a, ¬ R [] sk a) {n : Nat} {s m : Session} {e : ParseError}
    (hs : Lexed s.ahead) (hmany : manyWithin step n s = (.error (.mismatch e), m)) :
    ∃ ts t r, s.ahead = ts ++ t :: r ∧ e.Describes t ∧ (Rule.star R).Viable ts ∧
      ∀ n', ts.length < n' → Refuses (manyWithin step n') e ts t := by
  induction n generalizing s with
  | zero => cases hmany
  | succ n ih =>
    rcases (bind_eq_error _ _ _ _ _).1 hmany with hstep | ⟨x, q, hx, hrest⟩
    · obtain ⟨ts, t, r, hahead, hdescribes, ⟨us, sk, x, hitem, hus⟩, hrefuses⟩ := h.refuses hs hstep
      refine ⟨ts, t, r, hahead, hdescribes, ?_, ?_⟩
      · cases x with
        | none =>
          obtain rfl : ts = [] := (List.append_eq_nil_iff.1 hitem.1).1
          exact Rule.viable_nil_star
        | some a =>
          refine ⟨us, sk, [a], ?_, hus⟩
          have hone : Rule.Star R (ts ++ us ++ []) (sk ++ []) [a] := .cons hitem .nil
          rwa [List.append_nil, List.append_nil] at hone
      · intro n' hn' u r' hu
        obtain ⟨k, rfl⟩ := exists_succ_of_lt hn'
        obtain ⟨v, hv⟩ := hrefuses u r' hu
        exact ⟨v, manyWithin_of_error hv k⟩
    · obtain ⟨ts, sk, hitem, hmoves, hpasses⟩ := h.passes hs hx
      cases x with
      | none => cases hrest
      | some a =>
        rcases (bind_eq_error _ _ _ _ _).1 hrest with hrest | ⟨_, _, -, hpure⟩
        · obtain ⟨us, t, r, hahead, hdescribes, ⟨vs, sl, as, hstar, hvs⟩, hmore⟩ := ih (hmoves.lexed hs).1 hrest
          have hpos : 0 < ts.length := List.length_pos_iff.2 fun e => hR sk a (e ▸ hitem)
          refine ⟨ts ++ us, t, r, by rw [hmoves.ahead, hahead, List.append_assoc], hdescribes, ?_, ?_⟩
          · refine ⟨vs, sk ++ sl, a :: as, ?_, hvs⟩
            rw [List.append_assoc]
            exact .cons hitem hstar
          · intro n' hn' u r' hu
            rw [List.length_append] at hn'
            obtain ⟨k, rfl⟩ := exists_succ_of_lt hn'
            rw [List.append_assoc] at hu
            obtain ⟨v, hv, hnext⟩ := hpasses u _ hu (by rw [hahead]; exact head?_append_congr us rfl)
            obtain ⟨v', hv'⟩ := hmore k (by omega) v r' hnext
            exact ⟨v', by rw [manyWithin_of_some hv, hv']; rfl⟩
        · cases hpure

/-- **Repetition.** The steps allowed are more than the tokens ahead, so they suffice for what is passed of them. -/
theorem prompt_many (h : Prompt step R.optional) (hR : ∀ sk a, ¬ R [] sk a) : Prompt (many step) (Rule.star R) := by
  refine ⟨fun t _ => ⟨?_, ?_⟩, Rule.viable_nil_star⟩
  · intro s m as r hs _ hmany
    obtain ⟨ts, sk, hstar, hmoves, hpasses⟩ := manyWithin_passes h hR hs hmany
    refine ⟨ts, sk, hstar, hmoves, ?_⟩
    intro u w hu hw
    exact hpasses (u.ahead.length + 1) (by rw [hu, List.length_append]; omega) u w hu hw
  · intro s m e r hs _ hmany
    obtain ⟨ts, t', r', hahead, hdescribes, hviable, hrefuses⟩ := manyWithin_refuses h hR hs hmany
    refine ⟨ts, t', r', hahead, hdescribes, hviable, ?_⟩
    intro u r'' hu
    exact hrefuses (u.ahead.length + 1) (by rw [hu, List.length_append]; omega) u r'' hu

theorem Rule.viable_optional : R.optional.Viable [] := ⟨[], [], none, ⟨rfl, rfl⟩, by simp⟩

/-- a step stops before a token -/
theorem promptAt_stop (t : Token) (ht : t.Shaped) : PromptAt t (pure none) R.optional := by
  refine ((prompt_pure none).each t ht).mono ?_
  rintro _ _ _ ⟨rfl, rfl, rfl⟩
  exact ⟨rfl, rfl⟩

/-- a step reads an item -/
theorem promptAt_item {β : Type} {t : Token} {p : Parser β} {Q : Rule β} (g : β → α) (hp : PromptAt t p Q)
    (hR : ∀ ts sk b, Q ts sk b → R ts sk (g b)) : PromptAt t (do let b ← p; pure (some (g b))) R.optional := by
  refine (promptAt_bind hp fun b _ _ _ _ => prompt_pure (some (g b))).mono ?_
  intro ts sk x h
  obtain ⟨b, hb, rfl⟩ := (Rule.bind_pure_iff _ _ _ _ _).1 h
  exact hR ts sk b hb

end

/-! ## The grammar -/

theorem prompt_literal : Prompt literal literalRule := by
  have hviable : literalRule.Viable [] := by
    refine ⟨[⟨.text, "", 1, 1⟩], [], .text "", ⟨_, rfl, rfl, rfl⟩, ?_⟩
    simp [Token.Shaped, Kind.isName]
  refine prompt_current hviable fun t _ => ?_
  have hvalue : ∀ l, literalOf? t = some l → t.kind ≠ .finish →
      PromptAt t (advance >>= fun _ => pure l) literalRule := by
    intro l hl hk
    refine (promptAt_bind (promptAt_advance hk) fun _ _ _ _ _ => prompt_pure l).mono ?_
    intro ts sk a h
    obtain ⟨u, us, rfl, rfl, rfl, rfl, rfl⟩ := (Rule.token_bind_iff _ _ _ _ _).1 h
    exact ⟨u, rfl, rfl, hl⟩
  split
  case h_1 hk => exact hvalue _ (by simp [literalOf?, hk]) (by simp [hk])
  case h_2 hk =>
    cases hn : numeral? t.value with
    | some l => exact hvalue l (by simp [literalOf?, hk, hn]) (by simp [hk])
    | none =>
      refine promptAt_fault (g := .numeral) (by simp) fun u r hu => ?_
      show (andThen advance _ u).1 = _
      simp only [andThen, advance_eq hu (by simp [hk] : t.kind ≠ .finish)]
      rfl
  case h_3 hk =>
    cases hb : truth? t.value with
    | some b => exact hvalue _ (by simp [literalOf?, hk, hb]) (by simp [hk])
    | none => exact promptAt_mismatch hviable _
  case h_4 => exact promptAt_mismatch hviable _

theorem prompt_modifier (o : Options) : Prompt (modifier o) (modifierRule o).optional := by
  refine prompt_current Rule.viable_optional fun t ht => ?_
  split_ifs with hk hr hd
  · refine promptAt_item (fun _ => Modifier.required) (promptAt_advance (by simp [hk])) ?_
    rintro _ _ _ ⟨rfl, rfl, rfl⟩
    simp [modifierRule, IsWord, hk, hr]
  · have hp := promptAt_bind (t := t) (promptAt_advance (by simp [hk])) fun _ _ _ _ _ =>
      prompt_expect_then (k := .equals) (by decide) fun _ =>
        prompt_bind prompt_literal fun l _ _ _ _ => prompt_pure (some (Modifier.default l))
    refine hp.mono ?_
    intro ts sk x h
    simp only [Rule.token_bind_iff, literalRule_bind_iff, Rule.pure_iff] at h
    obtain ⟨u, _, rfl, rfl, v, _, rfl, hv, w, _, l, rfl, hl, rfl, rfl, rfl⟩ := h
    simp [Rule.optional, modifierRule, defaultRule, IsWord, hk, hd, hv, hl]
  · refine promptAt_passOver (by simp [hk]) o _ Rule.viable_optional fun hl => ?_
    show modifierRule o [t] [t] .skipped
    simp [modifierRule, StrayWord, hl, hk, hr, hd]
  · exact promptAt_stop t ht

theorem prompt_field (o : Options) : Prompt (field o) (fieldRule o) := by
  refine prompt_expect_then (by decide) fun _ => ?_
  refine prompt_name_then fun name hname => ?_
  refine prompt_expect_then (by decide) fun _ => ?_
  refine prompt_name_guard (fun t => ?_) (fun t => ⟨rfl, rfl, rfl⟩) (fun _ => by decide) fun type htype => ?_
  · cases o.strictTypes <;> cases FieldKind.ofName? t.value <;> simp
  refine prompt_bind (prompt_many (prompt_modifier o) (modifierRule_nil o)) fun ms _ _ _ _ => ?_
  refine prompt_expect_then (by decide) fun _ => ?_
  refine prompt_checked ?_ _
  simp [Field.issues, nameIssues_eq_nil hname, nameIssues_eq_nil htype]

theorem prompt_modelPart (o : Options) : Prompt (modelPart o) (modelPartRule o).optional := by
  refine prompt_current Rule.viable_optional fun t ht => ?_
  split
  case h_1 => exact promptAt_stop t ht
  case h_2 => exact promptAt_mismatch Rule.viable_optional _
  case h_3 =>
    refine promptAt_item some ((prompt_field o).each t ht) fun ts sk f h => Or.inl ?_
    exact (Rule.bind_pure_iff _ _ _ _ _).2 ⟨f, h, rfl⟩
  case h_4 h1 h2 h3 =>
    exact promptAt_passOver h2 o _ Rule.viable_optional fun hl => Or.inr ⟨t, rfl, rfl, ⟨hl, h1, h2, h3⟩, rfl⟩

theorem prompt_model (o : Options) : Prompt (model o) (modelRule o) := by
  refine prompt_expect_then (by decide) fun _ => ?_
  refine prompt_name_then fun name hname => ?_
  refine prompt_expect_then (by decide) fun _ => ?_
  refine prompt_bind (prompt_many (prompt_modelPart o) (modelPartRule_nil o)) fun parts _ _ _ _ => ?_
  refine prompt_expect_then (by decide) fun _ => ?_
  refine prompt_checked ?_ _
  simp [Model.issues, nameIssues_eq_nil hname]

theorem prompt_nextName : Prompt nextName nextNameRule.optional := by
  refine prompt_sees Rule.viable_optional fun t ht => ?_
  by_cases hk : t.kind = .comma
  · rw [if_pos (by simp [hk])]
    have hp := promptAt_bind (t := t) (promptAt_advance (by simp [hk])) fun _ _ _ _ _ =>
      prompt_name_then fun n _ => prompt_pure (some n.value)
    refine hp.mono ?_
    intro ts sk x h
    simp only [Rule.token_bind_iff, Rule.pure_iff] at h
    obtain ⟨u, _, rfl, rfl, v, _, rfl, hv, rfl, rfl, rfl⟩ := h
    simp [Rule.optional, nextNameRule, hk, hv]
  · rw [if_neg (by simpa using hk)]
    exact promptAt_stop t ht

theorem prompt_nameList : Prompt nameList nameListRule := by
  refine prompt_current ⟨[], [], [], Or.inr ⟨rfl, rfl, rfl⟩, by simp⟩ fun t ht => ?_
  split_ifs with hk
  · have hp : Prompt _ someNamesRule := prompt_name_then fun first _ =>
      prompt_bind (prompt_many prompt_nextName (by simp [nextNameRule])) fun rest _ _ _ _ => prompt_pure (first.value :: rest)
    exact (hp.each t ht).mono fun _ _ _ => Or.inl
  · exact ((prompt_pure []).each t ht).mono fun _ _ _ => Or.inr

theorem promptAt_binding {t : Token} {k : BindingKind} (hk : bindingKind? t.kind = some k) :
    PromptAt t binding bindingRule := by
  have hfinish : t.kind ≠ .finish := fun h => by simp [h, bindingKind?] at hk
  have hp : PromptAt t binding (Rule.token (· = t) >>= fun _ => bindingTailRule k) := by
    refine promptAt_bind (promptAt_advance hfinish) ?_
    intro u _ _ hu _
    obtain ⟨-, -, rfl⟩ := hu
    simp only [hk]
    refine prompt_name_then fun name hname => ?_
    refine prompt_expect_then (by decide) fun _ => ?_
    refine prompt_name_then fun model hmodel => ?_
    refine prompt_expect_then (by decide) fun _ => ?_
    refine prompt_expect_then (by decide) fun _ => ?_
    refine prompt_bind prompt_nameList fun fields _ _ hfields hshaped => ?_
    refine prompt_expect_then (by decide) fun _ => ?_
    refine prompt_checked ?_ _
    simp [Binding.issues, nameIssues_eq_nil hname, nameIssues_eq_nil hmodel,
      namesIssues_eq_nil (isName_of_nameList hfields hshaped)]
  refine hp.mono ?_
  intro ts sk c h
  obtain ⟨u, us, rfl, rfl, htail⟩ := (Rule.token_bind_iff _ _ _ _ _).1 h
  exact (Rule.token_bind_iff _ _ _ _ _).2 ⟨u, us, rfl, by simp [hk], by simpa [hk] using htail⟩

theorem prompt_page : Prompt page pageRule := by
  refine prompt_expect_then (by decide) fun _ => ?_
  refine prompt_name_then fun name hname => ?_
  refine prompt_expect_then (by decide) fun _ => ?_
  refine prompt_expect_then (by decide) fun title => ?_
  refine prompt_expect_then (by decide) fun _ => ?_
  refine prompt_expect_then (by decide) fun _ => ?_
  refine prompt_bind prompt_nameList fun components _ _ hcomponents hshaped => ?_
  refine prompt_expect_then (by decide) fun _ => ?_
  refine prompt_checked ?_ _
  simp [Page.issues, nameIssues_eq_nil hname, namesIssues_eq_nil (isName_of_nameList hcomponents hshaped)]

theorem prompt_declaration (o : Options) : Prompt (declaration o) (declarationRule o).optional := by
  refine prompt_current Rule.viable_optional fun t ht => ?_
  have hcomponent : ∀ {k}, bindingKind? t.kind = some k →
      PromptAt t (do let c ← binding; pure (some (Declaration.component c))) (declarationRule o).optional := by
    intro k hk
    refine promptAt_item Declaration.component (promptAt_binding hk) fun ts sk c h => Or.inl (Or.inr (Or.inl ?_))
    exact (Rule.bind_pure_iff _ _ _ _ _).2 ⟨c, h, rfl⟩
  split
  case h_1 => exact promptAt_stop t ht
  case h_2 =>
    refine promptAt_item Declaration.model ((prompt_model o).each t ht) fun ts sk m h => Or.inl (Or.inl ?_)
    exact (Rule.bind_pure_iff _ _ _ _ _).2 ⟨m, h, rfl⟩
  case h_3 hk => exact hcomponent (k := .form) (by simp [hk, bindingKind?])
  case h_4 hk => exact hcomponent (k := .list) (by simp [hk, bindingKind?])
  case h_5 hk => exact hcomponent (k := .view) (by simp [hk, bindingKind?])
  case h_6 =>
    refine promptAt_item Declaration.page (prompt_page.each t ht) fun ts sk p h => Or.inl (Or.inr (Or.inr ?_))
    exact (Rule.bind_pure_iff _ _ _ _ _).2 ⟨p, h, rfl⟩
  case h_7 h1 h2 h3 h4 h5 h6 =>
    have hstart : startsDeclaration t.kind = false := by
      cases hk : t.kind <;> simp_all [startsDeclaration, bindingKind?]
    exact promptAt_passOver h1 o _ Rule.viable_optional fun hl => Or.inr ⟨t, rfl, rfl, ⟨hl, h1, hstart⟩, rfl⟩

/-- an application is refused where its declarations are -/
theorem app_eq_mismatch (o : Options) (s : Session) (e : ParseError) :
    (app o s).1 = .error (.mismatch e) ↔ ∃ m, many (declaration o) s = (.error (.mismatch e), m) := by
  show (andThen (many (declaration o)) _ s).1 = _ ↔ _
  unfold andThen
  cases many (declaration o) s with
  | mk r m =>
    cases r with
    | ok ds =>
      refine iff_of_false (fun h => ?_) (by simp)
      cases h
    | error f => simp

/-- **Errors stand at the first hopeless token.** When the tokens of a source are refused with an error, one of them has the
place and the kind that the error gives; every list of tokens with the same tokens up to this one is refused with the same
error; and the tokens before it are those before it in a list that ends properly and is accepted under the same options. -/
theorem parse_error_at_first_hopeless_token (o : Options) {source : String} {ts : List Token} {e : ParseError}
    (hts : tokenize source = .ok ts) (h : (app o (Session.start ts)).1 = .error (.mismatch e)) :
    ∃ i t, ts[i]? = some t ∧ e.line = t.line ∧ e.column = t.column ∧ e.found = t.kind.describe ∧
      (∀ us : List Token, us.take (i + 1) = ts.take (i + 1) → (app o (Session.start us)).1 = .error (.mismatch e)) ∧
      ∃ more a, Ended (ts.take i ++ more) ∧ (app o (Session.start (ts.take i ++ more))).1 = .ok a := by
  have hlexed : Lexed ts := ended_shaped_of_tokenize hts
  have hds := prompt_many (prompt_declaration o) (declarationRule_nil o)
  obtain ⟨m, hm⟩ := (app_eq_mismatch o _ e).1 h
  obtain ⟨before, t, r, hahead, ⟨hline, hcolumn, hfound⟩, ⟨us, sk, ds, hstar, hus⟩, hrefuses⟩ :=
    hds.refuses (s := Session.start ts) hlexed hm
  obtain rfl : ts = before ++ t :: r := hahead
  refine ⟨before.length, t, by simp, hline, hcolumn, hfound, ?_, ?_⟩
  · intro vs hvs
    have hsplit : vs = before ++ t :: vs.drop (before.length + 1) := by
      conv_lhs => rw [← List.take_append_drop (before.length + 1) vs, hvs]
      simp [List.take_append]
    exact (app_eq_mismatch o _ e).2 (hrefuses (Session.start vs) _ hsplit)
  · have hbefore : ∀ t ∈ before, t.kind ≠ .finish := by
      intro u hu
      refine hlexed.1.2 u ?_
      rw [List.dropLast_append_of_ne_nil (by simp)]
      exact List.mem_append_left _ hu
    have hended : Ended (before ++ us ++ [⟨.finish, "", 1, 1⟩]) := by
      refine (ended_append_singleton _ _).2 ⟨rfl, List.forall_mem_append.2 ⟨hbefore, fun u hu => (hus u hu).2⟩⟩
    refine ⟨us ++ [⟨.finish, "", 1, 1⟩], appOf ds, ?_, ?_⟩
    · simpa using hended
    · have hok := (app_eq_ok o _ hended (appOf ds) _).2 ⟨before ++ us, _, sk, ds, rfl, rfl, hstar, rfl, rfl⟩
      simpa using congrArg Prod.fst hok

def unknownTypeTokens : List Token :=
  [⟨.model, "model", 1, 1⟩, ⟨.identifier, "M", 1, 7⟩, ⟨.leftBrace, Text.openBrace, 1, 8⟩, ⟨.field, "field", 2, 1⟩,
    ⟨.identifier, "x", 2, 7⟩, ⟨.colon, ":", 2, 8⟩, ⟨.identifier, "txt", 2, 9⟩, ⟨.finish, "", 2, 12⟩]

def unknownTypeError : ParseError := ⟨typeExpectation, "IDENTIFIER", "'txt'", 2, 9⟩

/-- a field type that strict types refuse after it has been passed: the error is about the type, not about the next token -/
theorem parse_error_at_first_hopeless_token_type :
    let o := { Options.standard with strictTypes := true }
    tokenize "model M\x7b\nfield x:txt" = .ok unknownTypeTokens ∧
      (app o (Session.start unknownTypeTokens)).1 = .error (.mismatch unknownTypeError) ∧
      ∃ i t, unknownTypeTokens[i]? = some t ∧ unknownTypeError.line = t.line ∧ unknownTypeError.column = t.column ∧
        unknownTypeError.found = t.kind.describe ∧
        (∀ us : List Token, us.take (i + 1) = unknownTypeTokens.take (i + 1) →
          (app o (Session.start us)).1 = .error (.mismatch unknownTypeError)) ∧
        ∃ more a, Ended (unknownTypeTokens.take i ++ more) ∧
          (app o (Session.start (unknownTypeTokens.take i ++ more))).1 = .ok a := by
  have hts : tokenize "model M\x7b\nfield x:txt" = .ok unknownTypeTokens := by decide +kernel
  have h : (app { Options.standard with strictTypes := true } (Session.start unknownTypeTokens)).1 =
      .error (.mismatch unknownTypeError) := by decide +kernel
  exact ⟨hts, h, parse_error_at_first_hopeless_token _ hts h⟩

end Grammar

end Pagewright
