/-
The rules of the language, with the tokens that lenient reading skips, and that the parsers accept exactly these rules.

Every rule is written like the parser for it. The parsers that decide by the token at hand have a rule with one
alternative for each decision. `app_eq_ok` sums up: an application is read from tokens exactly when they are
declarations, one after the other, up to the end of the source.
-/
import Pagewright.Grammar.Declaration
import Pagewright.Proofs.Grammar.Rule

namespace Pagewright.Grammar

open Pagewright.Grammar.Parser

/-! ## Rules -/

/-- the value of a token as a default -/
def literalOf? (t : Token) : Option Literal :=
  match t.kind with
  | .text => some (.text t.value)
  | .number => numeral? t.value
  | .identifier => (truth? t.value).map .bool
  | _ => none

def literalRule : Rule Literal := fun ts sk l => ∃ t, ts = [t] ∧ sk = [] ∧ literalOf? t = some l

/-- an identifier that is a certain word -/
def IsWord (w : String) (t : Token) : Prop := t.kind = .identifier ∧ t.value = w

/-- an identifier that is no modifier, where such may be skipped -/
def StrayWord (o : Options) (t : Token) : Prop :=
  o.lenient = true ∧ t.kind = .identifier ∧ t.value ≠ "required" ∧ t.value ≠ "default"

def defaultRule : Rule Modifier := do
  let _ ← Rule.token (IsWord "default")
  let _ ← Rule.token (·.kind = .equals)
  let l ← literalRule
  pure (.default l)

def modifierRule (o : Options) : Rule Modifier :=
  .either (.either (do let _ ← Rule.token (IsWord "required"); pure .required) defaultRule)
    (.skip (StrayWord o) .skipped)

def fieldRule (o : Options) : Rule Field := do
  let _ ← Rule.token (·.kind = .field)
  let name ← Rule.token (·.kind.isName = true)
  let _ ← Rule.token (·.kind = .colon)
  let type ← Rule.token (·.kind.isName = true)
  Rule.given (o.strictTypes = true → (FieldKind.ofName? type.value).isSome = true) ()
  let ms ← Rule.star (modifierRule o)
  let _ ← Rule.token (·.kind = .semicolon)
  let f : Field := ⟨name.value, type.value, Modifier.anyRequired ms, Modifier.lastDefault? ms⟩
  Rule.given (f.issues = []) f

/-- a token that is no part of a model, where such may be skipped -/
def StrayInModel (o : Options) (t : Token) : Prop :=
  o.lenient = true ∧ t.kind ≠ .rightBrace ∧ t.kind ≠ .finish ∧ t.kind ≠ .field

def modelPartRule (o : Options) : Rule (Option Field) :=
  .either (do let f ← fieldRule o; pure (some f)) (.skip (StrayInModel o) none)

def modelRule (o : Options) : Rule Model := do
  let _ ← Rule.token (·.kind = .model)
  let name ← Rule.token (·.kind.isName = true)
  let _ ← Rule.token (·.kind = .leftBrace)
  let parts ← Rule.star (modelPartRule o)
  let _ ← Rule.token (·.kind = .rightBrace)
  let m : Model := ⟨name.value, parts.filterMap id⟩
  Rule.given (m.issues = []) m

def nextNameRule : Rule String := do
  let _ ← Rule.token (·.kind = .comma)
  let t ← Rule.token (·.kind.isName = true)
  pure t.value

/-- names between commas, at least one -/
def someNamesRule : Rule (List String) := do
  let first ← Rule.token (·.kind.isName = true)
  let rest ← Rule.star nextNameRule
  pure (first.value :: rest)

/-- names between commas, possibly none -/
def nameListRule : Rule (List String) := .either someNamesRule (pure [])

/-- a form, list or view after its keyword -/
def bindingTailRule (kind : BindingKind) : Rule Component := do
  let name ← Rule.token (·.kind.isName = true)
  let _ ← Rule.token (·.kind = .leftParen)
  let model ← Rule.token (·.kind.isName = true)
  let _ ← Rule.token (·.kind = .rightParen)
  let _ ← Rule.token (·.kind = .leftBrace)
  let fields ← nameListRule
  let _ ← Rule.token (·.kind = .rightBrace)
  let b : Binding := ⟨name.value, model.value, fields⟩
  Rule.given (b.issues = []) ⟨kind, b⟩

def bindingRule : Rule Component := do
  let t ← Rule.token (fun t => (bindingKind? t.kind).isSome = true)
  bindingTailRule ((bindingKind? t.kind).getD .form)

def pageRule : Rule Page := do
  let _ ← Rule.token (·.kind = .page)
  let name ← Rule.token (·.kind.isName = true)
  let _ ← Rule.token (·.kind = .leftParen)
  let title ← Rule.token (·.kind = .text)
  let _ ← Rule.token (·.kind = .rightParen)
  let _ ← Rule.token (·.kind = .leftBrace)
  let components ← nameListRule
  let _ ← Rule.token (·.kind = .rightBrace)
  let p : Page := ⟨name.value, title.value, components⟩
  Rule.given (p.issues = []) p

def startsDeclaration (k : Kind) : Bool :=
  k = .model || k = .page || (bindingKind? k).isSome

/-- a token that starts no declaration, where such may be skipped -/
def StrayOutside (o : Options) (t : Token) : Prop :=
  o.lenient = true ∧ t.kind ≠ .finish ∧ startsDeclaration t.kind = false

def declarationRule (o : Options) : Rule Declaration :=
  .either
    (.either (do let m ← modelRule o; pure (.model m))
      (.either (do let c ← bindingRule; pure (.component c)) (do let p ← pageRule; pure (.page p))))
    (.skip (StrayOutside o) .skipped)

/-! ## Acceptance -/

@[simp] theorem literalRule_bind_iff {β : Type} (Q : Literal → Rule β) (ts sk : List Token) (b : β) :
    (literalRule >>= Q) ts sk b ↔ ∃ t us l, ts = t :: us ∧ literalOf? t = some l ∧ Q l us sk b := by
  rw [Rule.bind_iff]
  constructor
  · rintro ⟨l, _, us, _, sk, rfl, rfl, ⟨t, rfl, rfl, hl⟩, hq⟩
    exact ⟨t, us, l, rfl, hl, hq⟩
  · rintro ⟨t, us, l, rfl, hl, hq⟩
    exact ⟨l, [t], us, [], sk, rfl, rfl, ⟨t, rfl, rfl, hl⟩, hq⟩

/-- a token that has a value as a default is passed for it -/
theorem acceptsAt_literal {t : Token} {l : Literal} (hl : literalOf? t = some l) (hk : t.kind ≠ .finish) :
    AcceptsAt t (advance >>= fun _ => pure l) literalRule anyNext := by
  refine (acceptsAt_then (acceptsAt_advance hk) fun _ => accepts_pure l).congr (fun ts sk a k => ?_) (fun sk a => ?_)
  · simp [literalRule, hl, eq_comm, and_assoc]
  · simp [literalRule]

/-- a token that has none is an error -/
theorem acceptsAt_no_literal {t : Token} (hl : literalOf? t = none) {p : Parser Literal}
    (hp : ∀ s s' a, p s ≠ (.ok a, s')) : AcceptsAt t p literalRule anyNext := by
  have h : AcceptsAt t p (fun _ _ _ => False) anyNext := fun s s' a r _ _ => by simp [hp]
  refine h.congr (fun ts sk a k => ?_) (fun sk a => ?_)
  · simp only [literalRule, List.cons.injEq, false_and, false_iff]
    rintro ⟨⟨u, ⟨rfl, -⟩, -, hu⟩, -⟩
    rw [hl] at hu
    cases hu
  · simp [literalRule]

theorem accepts_literal : Accepts literal literalRule anyNext := by
  refine accepts_current fun t => ?_
  split
  case h_1 hk => exact acceptsAt_literal (by simp [literalOf?, hk]) (by simp [hk])
  case h_2 hk =>
    cases hn : numeral? t.value with
    | some l => exact acceptsAt_literal (by simp [literalOf?, hk, hn]) (by simp [hk])
    | none =>
      refine acceptsAt_no_literal (by simp [literalOf?, hk, hn]) fun s s' a h => ?_
      obtain ⟨_, _, -, h⟩ := (bind_eq_ok _ _ _ _ _).1 h
      simp [fail] at h
  case h_3 hk =>
    cases hb : truth? t.value with
    | some b => exact acceptsAt_literal (by simp [literalOf?, hk, hb]) (by simp [hk])
    | none => exact acceptsAt_no_literal (by simp [literalOf?, hk, hb]) (mismatch_ne_ok _)
  case h_4 h1 h2 h3 =>
    refine acceptsAt_no_literal ?_ (mismatch_ne_ok _)
    unfold literalOf?
    split
    · contradiction
    · contradiction
    · contradiction
    · rfl

/-! An item has a first token, and a declaration is known by it. -/

theorem modifierRule_nil (o : Options) (sk : List Token) (m : Modifier) : ¬ modifierRule o [] sk m := by
  simp [modifierRule, defaultRule]

theorem fieldRule_nil (o : Options) (sk : List Token) (f : Field) : ¬ fieldRule o [] sk f := by
  simp [fieldRule]

theorem fieldRule_first {o : Options} {t : Token} {ts sk : List Token} {f : Field} (h : fieldRule o (t :: ts) sk f) :
    t.kind = .field := by
  simp only [fieldRule, Rule.token_bind_iff] at h
  obtain ⟨_, _, heq, hk, -⟩ := h
  exact (List.cons.inj heq).1 ▸ hk

theorem modelPartRule_nil (o : Options) (sk : List Token) (x : Option Field) : ¬ modelPartRule o [] sk x := by
  simp [modelPartRule, Rule.bind_pure_iff, fieldRule_nil]

theorem modelRule_first {o : Options} {t : Token} {ts sk : List Token} {m : Model} (h : modelRule o (t :: ts) sk m) :
    t.kind = .model := by
  simp only [modelRule, Rule.token_bind_iff] at h
  obtain ⟨_, _, heq, hk, -⟩ := h
  exact (List.cons.inj heq).1 ▸ hk

theorem bindingRule_first {t : Token} {ts sk : List Token} {c : Component} (h : bindingRule (t :: ts) sk c) :
    (bindingKind? t.kind).isSome = true := by
  simp only [bindingRule, Rule.token_bind_iff] at h
  obtain ⟨_, _, heq, hk, -⟩ := h
  exact (List.cons.inj heq).1 ▸ hk

theorem pageRule_first {t : Token} {ts sk : List Token} {p : Page} (h : pageRule (t :: ts) sk p) :
    t.kind = .page := by
  simp only [pageRule, Rule.token_bind_iff] at h
  obtain ⟨_, _, heq, hk, -⟩ := h
  exact (List.cons.inj heq).1 ▸ hk

theorem declarationRule_nil (o : Options) (sk : List Token) (d : Declaration) : ¬ declarationRule o [] sk d := by
  simp [declarationRule, Rule.bind_pure_iff, modelRule, bindingRule, pageRule]

theorem accepts_modifier (o : Options) :
    Accepts (modifier o) (modifierRule o).optional (stopsAt (· ≠ .identifier)) := by
  refine accepts_current fun t => ?_
  split_ifs with hk hr hd
  · have hp := acceptsAt_then (acceptsAt_advance (t := t) (by simp [hk])) fun _ => accepts_pure (some Modifier.required)
    refine acceptsAt_go (by simp [hk]) hp (fun ts sk m => ?_) (by simp) (by simp) (modifierRule_nil o)
    simp [modifierRule, defaultRule, IsWord, StrayWord, hk, hr]
  · have hp := acceptsAt_then (acceptsAt_advance (t := t) (by simp [hk])) fun _ =>
      accepts_then (accepts_expect .equals (by simp)) fun _ =>
        accepts_then accepts_literal fun l => accepts_pure (some (Modifier.default l))
    refine acceptsAt_go (by simp [hk]) hp (fun ts sk m => ?_) (by simp) (by simp) (modifierRule_nil o)
    simp [modifierRule, defaultRule, IsWord, StrayWord, hk, hd]
  · refine acceptsAt_go (by simp [hk]) (acceptsAt_passOver (by simp [hk]) o _ _) (fun ts sk m => ?_) (by simp) (by simp)
      (modifierRule_nil o)
    simp [modifierRule, defaultRule, IsWord, StrayWord, hk, hr, hd]
  · refine acceptsAt_stop hk (fun ts sk m => ?_) (modifierRule_nil o)
    simp [modifierRule, defaultRule, IsWord, StrayWord, hk]

theorem accepts_field (o : Options) : Accepts (field o) (fieldRule o) anyNext := by
  refine accepts_then (accepts_expect .field (by simp)) fun _ => ?_
  refine accepts_then accepts_nameToken fun name => ?_
  refine accepts_then (accepts_expect .colon (by simp)) fun _ => ?_
  refine accepts_then accepts_nameToken fun type => ?_
  refine accepts_guard ?_ _ ?_
  · cases o.strictTypes <;> cases FieldKind.ofName? type.value <;> simp
  refine accepts_until (accepts_many (accepts_modifier o) (modifierRule_nil o)) (fun ms => ?_) (by simp +contextual)
  exact accepts_then (accepts_expect .semicolon (by simp)) fun _ => accepts_checked _ _

theorem accepts_modelPart (o : Options) :
    Accepts (modelPart o) (modelPartRule o).optional (stopsAt (· = .rightBrace)) := by
  refine accepts_current fun t => ?_
  have hfield : t.kind ≠ .field → ∀ ts sk f, ¬ fieldRule o (t :: ts) sk f := fun hk ts sk f h => hk (fieldRule_first h)
  split
  case h_1 hk =>
    refine acceptsAt_stop hk (fun ts sk x => ?_) (modelPartRule_nil o)
    simp [modelPartRule, Rule.bind_pure_iff, hfield, StrayInModel, hk]
  case h_2 hk =>
    refine acceptsAt_go (by simp [hk]) (acceptsAt_mismatch t _ _) (fun ts sk x => ?_) (by simp) (by simp)
      (modelPartRule_nil o)
    simp [modelPartRule, Rule.bind_pure_iff, hfield, StrayInModel, hk]
  case h_3 hk =>
    have hp := (accepts_then (accepts_field o) fun f => accepts_pure (some (some f))).at t
    refine acceptsAt_go (by simp [hk]) hp (fun ts sk x => ?_) ?_ ?_ (modelPartRule_nil o)
    · simp [modelPartRule, Rule.bind_pure_iff, StrayInModel, hk]
    · simp [Rule.bind_pure_iff]
    · simp [Rule.bind_pure_iff, fieldRule_nil]
  case h_4 h1 h2 h3 =>
    refine acceptsAt_go h1 (acceptsAt_passOver h2 o _ _) (fun ts sk x => ?_)
      (by simp) (by simp) (modelPartRule_nil o)
    have hstray : StrayInModel o t ↔ o.lenient = true := and_iff_left ⟨h1, h2, h3⟩
    simp [modelPartRule, Rule.bind_pure_iff, hfield h3, hstray]

theorem accepts_model (o : Options) : Accepts (model o) (modelRule o) anyNext := by
  refine accepts_then (accepts_expect .model (by simp)) fun _ => ?_
  refine accepts_then accepts_nameToken fun name => ?_
  refine accepts_then (accepts_expect .leftBrace (by simp)) fun _ => ?_
  refine accepts_until (accepts_many (accepts_modelPart o) (modelPartRule_nil o)) (fun parts => ?_) (by simp +contextual)
  exact accepts_then (accepts_expect .rightBrace (by simp)) fun _ => accepts_checked _ _

/-- what follows a list of names: no name after none, and no comma after some -/
def endsNames : List String → Kind → Prop
  | [], k => k.isName = false
  | _ :: _, k => k ≠ .comma

theorem endsNames_rightBrace (ns : List String) (t : Token) (ht : t.kind = .rightBrace) : endsNames ns t.kind := by
  cases ns with
  | nil => simp [endsNames, ht, Kind.isName]
  | cons n ns => simp [endsNames, ht]

theorem accepts_nextName : Accepts nextName nextNameRule.optional (stopsAt (· ≠ .comma)) := by
  have hnil : ∀ sk n, ¬ nextNameRule [] sk n := by simp [nextNameRule]
  refine accepts_sees fun t => ?_
  by_cases hk : t.kind = .comma
  · rw [if_pos (by simp [hk])]
    have hp := acceptsAt_then (acceptsAt_advance (t := t) (by simp [hk])) fun _ =>
      accepts_then accepts_nameToken fun n => accepts_pure (some n.value)
    refine acceptsAt_go (by simp [hk]) hp (fun ts sk n => ?_) (by simp) (by simp) hnil
    simp [nextNameRule, hk]
  · rw [if_neg (by simpa using hk)]
    refine acceptsAt_stop hk (fun ts sk n => ?_) hnil
    simp [nextNameRule, hk]

theorem accepts_nameList : Accepts nameList nameListRule endsNames := by
  refine accepts_current fun t => ?_
  have hmore := accepts_many accepts_nextName (by simp [nextNameRule])
  split_ifs with hk
  · have hp : Accepts _ someNamesRule (fun _ k => k ≠ .comma) :=
      accepts_then accepts_nameToken fun first => accepts_map (fun rest => first.value :: rest) hmore (by simp)
    refine (hp.at t).congr (fun ts sk ns k => ?_) (fun sk ns => ?_)
    · cases ns with
      | nil => simp [nameListRule, someNamesRule, Rule.bind_pure_iff]
      | cons n ns => simp [nameListRule, endsNames]
    · cases ns with
      | nil => simp [nameListRule, someNamesRule, endsNames, hk]
      | cons n ns => simp [nameListRule, someNamesRule]
  · refine ((accepts_pure []).at t).congr (fun ts sk ns k => ?_) (fun sk ns => ?_)
    · simp [nameListRule, someNamesRule, hk]
    · cases ns with
      | nil => simp [nameListRule, someNamesRule, endsNames, hk, anyNext]
      | cons n ns => simp [nameListRule, someNamesRule]

theorem acceptsAt_binding {t : Token} {k : BindingKind} (hk : bindingKind? t.kind = some k) :
    AcceptsAt t binding bindingRule anyNext := by
  have hf : t.kind ≠ .finish := fun h => by simp [h, bindingKind?] at hk
  let tail (u : Token) : Rule Component := fun ts sk c => ∃ k, bindingKind? u.kind = some k ∧ bindingTailRule k ts sk c
  have hp : AcceptsAt t binding (Rule.token (· = t) >>= tail) anyNext := by
    refine acceptsAt_then (acceptsAt_advance hf) fun u => ?_
    simp only [tail]
    cases bindingKind? u.kind with
    | none => exact fun s s' a _ => by simp [fail]
    | some k =>
      simp only [Option.some.injEq, exists_eq_left']
      refine accepts_then accepts_nameToken fun name => ?_
      refine accepts_then (accepts_expect .leftParen (by simp)) fun _ => ?_
      refine accepts_then accepts_nameToken fun model => ?_
      refine accepts_then (accepts_expect .rightParen (by simp)) fun _ => ?_
      refine accepts_then (accepts_expect .leftBrace (by simp)) fun _ => ?_
      refine accepts_until accepts_nameList (fun fields => ?_) endsNames_rightBrace
      exact accepts_then (accepts_expect .rightBrace (by simp)) fun _ => accepts_checked _ _
  refine hp.congr (fun ts sk c k => ?_) (fun sk c => ?_)
  · simp only [bindingRule, Rule.token_bind_iff]
    simp [tail, hk]
  · simp [bindingRule]

theorem accepts_page : Accepts page pageRule anyNext := by
  refine accepts_then (accepts_expect .page (by simp)) fun _ => ?_
  refine accepts_then accepts_nameToken fun name => ?_
  refine accepts_then (accepts_expect .leftParen (by simp)) fun _ => ?_
  refine accepts_then (accepts_expect .text (by simp)) fun title => ?_
  refine accepts_then (accepts_expect .rightParen (by simp)) fun _ => ?_
  refine accepts_then (accepts_expect .leftBrace (by simp)) fun _ => ?_
  refine accepts_until accepts_nameList (fun components => ?_) endsNames_rightBrace
  exact accepts_then (accepts_expect .rightBrace (by simp)) fun _ => accepts_checked _ _

/-- at a token that starts a binding, one is read -/
theorem acceptsAt_component {t : Token} {k : BindingKind} (hk : bindingKind? t.kind = some k) (o : Options) :
    AcceptsAt t (do let c ← binding; pure (some (.component c))) (declarationRule o).optional (stopsAt (· = .finish)) := by
  have hstart : startsDeclaration t.kind = true := by simp [startsDeclaration, hk]
  have hmodel : ∀ ts sk m, ¬ modelRule o (t :: ts) sk m := fun ts sk m h => by
    simp [modelRule_first h, bindingKind?] at hk
  have hpage : ∀ ts sk p, ¬ pageRule (t :: ts) sk p := fun ts sk p h => by
    simp [pageRule_first h, bindingKind?] at hk
  have hp := acceptsAt_then (acceptsAt_binding hk) fun c => accepts_pure (some (Declaration.component c))
  refine acceptsAt_go (fun h => ?_) hp (fun ts sk d => ?_) ?_ ?_ (declarationRule_nil o)
  · simp [h, bindingKind?] at hk
  · simp [declarationRule, Rule.bind_pure_iff, hmodel, hpage, StrayOutside, hstart]
  · simp [Rule.bind_pure_iff]
  · simp [Rule.bind_pure_iff, bindingRule]

theorem accepts_declaration (o : Options) :
    Accepts (declaration o) (declarationRule o).optional (stopsAt (· = .finish)) := by
  refine accepts_current fun t => ?_
  have hmodel : t.kind ≠ .model → ∀ ts sk m, ¬ modelRule o (t :: ts) sk m :=
    fun hk ts sk m h => hk (modelRule_first h)
  have hpage : t.kind ≠ .page → ∀ ts sk p, ¬ pageRule (t :: ts) sk p := fun hk ts sk p h => hk (pageRule_first h)
  have hbinding : bindingKind? t.kind = none → ∀ ts sk c, ¬ bindingRule (t :: ts) sk c :=
    fun hk ts sk c h => by simpa [hk] using bindingRule_first h
  split
  case h_1 hk =>
    refine acceptsAt_stop hk (fun ts sk d => ?_) (declarationRule_nil o)
    simp [declarationRule, Rule.bind_pure_iff, hmodel, hpage, hbinding, bindingKind?, StrayOutside, hk]
  case h_2 hk =>
    have hp := (accepts_then (accepts_model o) fun m => accepts_pure (some (Declaration.model m))).at t
    refine acceptsAt_go (by simp [hk]) hp (fun ts sk d => ?_) ?_ ?_ (declarationRule_nil o)
    · simp [declarationRule, Rule.bind_pure_iff, hpage, hbinding, bindingKind?, StrayOutside,
        startsDeclaration, hk]
    · simp [Rule.bind_pure_iff]
    · simp [Rule.bind_pure_iff, modelRule]
  case h_3 hk => exact acceptsAt_component (k := .form) (by simp [hk, bindingKind?]) o
  case h_4 hk => exact acceptsAt_component (k := .list) (by simp [hk, bindingKind?]) o
  case h_5 hk => exact acceptsAt_component (k := .view) (by simp [hk, bindingKind?]) o
  case h_6 hk =>
    have hp := (accepts_then accepts_page fun p => accepts_pure (some (Declaration.page p))).at t
    refine acceptsAt_go (by simp [hk]) hp (fun ts sk d => ?_) ?_ ?_ (declarationRule_nil o)
    · simp [declarationRule, Rule.bind_pure_iff, hmodel, hbinding, bindingKind?, StrayOutside,
        startsDeclaration, hk]
    · simp [Rule.bind_pure_iff]
    · simp [Rule.bind_pure_iff, pageRule]
  case h_7 h1 h2 h3 h4 h5 h6 =>
    have hb : bindingKind? t.kind = none := by
      unfold bindingKind?
      split
      · contradiction
      · contradiction
      · contradiction
      · rfl
    have hstray : StrayOutside o t ↔ o.lenient = true := by
      refine and_iff_left ⟨h1, ?_⟩
      simp only [startsDeclaration, hb, Option.isSome_none, Bool.or_false, Bool.or_eq_false_iff, decide_eq_false_iff_not]
      exact ⟨h2, h6⟩
    refine acceptsAt_go h1 (acceptsAt_passOver h1 o _ _) (fun ts sk d => ?_)
      (by simp) (by simp) (declarationRule_nil o)
    simp [declarationRule, Rule.bind_pure_iff, hmodel h2, hpage h6, hbinding hb, hstray]

/-- **Acceptance of applications.** Reading succeeds exactly on declarations up to the end of the source. What it notes is
the skipped tokens and then the application. -/
theorem app_eq_ok (o : Options) (ts : List Token) (hts : Ended ts) (a : App) (s' : Session) :
    app o (Session.start ts) = (.ok a, s') ↔
      ∃ body e sk ds, ts = body ++ [e] ∧ e.kind = .finish ∧ Rule.Star (declarationRule o) body sk ds ∧ a = appOf ds ∧
        s' = ⟨[e], some e, body.length, sk.map .skipped ++ [.parsed a]⟩ := by
  have hmany := accepts_many (accepts_declaration o) (declarationRule_nil o) (Session.start ts)
  unfold app
  rw [bind_eq_ok]
  constructor
  · rintro ⟨ds, m, hds, hrest⟩
    obtain ⟨_, n, hnote, hpure⟩ := (bind_eq_ok _ _ _ _ _).1 hrest
    obtain ⟨rfl, rfl⟩ := (pure_eq_ok _ _ _ _).1 hpure
    obtain ⟨body, sk, hstar, hm, hk⟩ := (hmany m ds hts).1 hds
    obtain ⟨e, he, hek⟩ := (hm.ended hts).eq_singleton hk
    have hahead : ts = body ++ [e] := he ▸ hm.ahead
    refine ⟨body, e, sk, ds, hahead, hek, hstar, rfl, ?_⟩
    have hlast := hm.last
    have hposition := hm.position
    have hnotes := hm.notes
    simp only [Session.start, hahead, List.getLast?_concat, Nat.zero_add, List.nil_append] at hlast hposition hnotes
    simp only [note, Prod.mk.injEq] at hnote
    rw [← hnote.2, Session.note, he, hlast, hposition, hnotes]
  · rintro ⟨body, e, sk, ds, rfl, hek, hstar, rfl, rfl⟩
    refine ⟨ds, ⟨[e], some e, body.length, sk.map .skipped⟩, ?_, rfl⟩
    have hm : Moves (Session.start (body ++ [e])) body sk ⟨[e], some e, body.length, sk.map .skipped⟩ :=
      ⟨rfl, by simp [Session.start], by simp [Session.start], by simp [Session.start],
        ((ended_append_singleton body e).1 hts).2⟩
    exact (hmany _ _ hts).2 ⟨body, sk, hstar, hm, hek⟩

end Pagewright.Grammar
