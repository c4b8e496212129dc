/-
The grammar of the language as relations between runs of tokens and what they declare, without any reading order or
lookahead, and that strict reading accepts exactly it (`app_eq_ok_iff_declares`).

    app      ::= (model | binding | page)* end
    model    ::= "model" name "{" field* "}"
    field    ::= "field" name ":" name modifier* ";"
    modifier ::= "required" | "default" "=" literal
    binding  ::= ("form" | "list" | "view") name "(" name ")" "{" names "}"
    page     ::= "page" name "(" text ")" "{" names "}"
    names    ::= (name ("," name)*)?
-/
import Pagewright.Proofs.Grammar.Language
import Pagewright.Proofs.Token.Decomposition

namespace Pagewright.Grammar

/-! ## The grammar -/

/-- a default value. A number without a point has a bounded number of digits; one with a point stands for the nearest
binary number to what it writes. -/
inductive IsLiteral : Token → Literal → Prop
  | text {t : Token} (hk : t.kind = .text) : IsLiteral t (.text t.value)
  | integer {t : Token} (hk : t.kind = .number) (hpoint : '.' ∉ t.value.toList)
      (hlimit : t.value.toList.length ≤ 4300) : IsLiteral t (.int (Number.digitsValue t.value.toList))
  | decimal {t : Token} {whole fraction : List Char} (hk : t.kind = .number)
      (hpoint : t.value.toList = whole ++ '.' :: fraction) :
      IsLiteral t (.float (.ofDecimal false (Number.digitsValue (whole ++ fraction)) (-(fraction.length : Int))))
  | true {t : Token} (hk : t.kind = .identifier) (hv : t.value = "true") : IsLiteral t (.bool true)
  | false {t : Token} (hk : t.kind = .identifier) (hv : t.value = "false") : IsLiteral t (.bool false)

/-- modifiers: whether `required` is among them, and the value of the last `default` -/
inductive Modifiers : List Token → Bool → Option Literal → Prop
  | none : Modifiers [] false none
  | required {t : Token} {ts : List Token} {r : Bool} {d : Option Literal} (hk : t.kind = .identifier)
      (hv : t.value = "required") (h : Modifiers ts r d) : Modifiers (t :: ts) true d
  | default {t e l : Token} {ts : List Token} {r : Bool} {d : Option Literal} {v : Literal} (hk : t.kind = .identifier)
      (hv : t.value = "default") (he : e.kind = .equals) (hl : IsLiteral l v) (h : Modifiers ts r d) :
      Modifiers (t :: e :: l :: ts) r (d.or (some v))

inductive FieldDecl : List Token → Field → Prop
  | mk {k n c t s : Token} {ms : List Token} {r : Bool} {d : Option Literal} (hk : k.kind = .field)
      (hn : n.kind.isName = true) (hc : c.kind = .colon) (ht : t.kind.isName = true) (hms : Modifiers ms r d)
      (hs : s.kind = .semicolon) : FieldDecl (k :: n :: c :: t :: (ms ++ [s])) ⟨n.value, t.value, r, d⟩

inductive FieldDecls : List Token → List Field → Prop
  | nil : FieldDecls [] []
  | cons {ts us : List Token} {f : Field} {fs : List Field} (h : FieldDecl ts f) (hs : FieldDecls us fs) :
      FieldDecls (ts ++ us) (f :: fs)

inductive ModelDecl : List Token → Model → Prop
  | mk {k n l r : Token} {body : List Token} {fs : List Field} (hk : k.kind = .model) (hn : n.kind.isName = true)
      (hl : l.kind = .leftBrace) (hfs : FieldDecls body fs) (hr : r.kind = .rightBrace) :
      ModelDecl (k :: n :: l :: (body ++ [r])) ⟨n.value, fs⟩

/-- names with a comma before each -/
inductive MoreNames : List Token → List String → Prop
  | nil : MoreNames [] []
  | cons {c n : Token} {ts : List Token} {ns : List String} (hc : c.kind = .comma) (hn : n.kind.isName = true)
      (h : MoreNames ts ns) : MoreNames (c :: n :: ts) (n.value :: ns)

/-- names with a comma between neighbours, possibly none -/
inductive Names : List Token → List String → Prop
  | none : Names [] []
  | some {n : Token} {ts : List Token} {ns : List String} (hn : n.kind.isName = true) (h : MoreNames ts ns) :
      Names (n :: ts) (n.value :: ns)

def bindingKeyword : BindingKind → Kind
  | .form => .form
  | .list => .list
  | .view => .view

inductive BindingDecl (kind : BindingKind) : List Token → Binding → Prop
  | mk {k n l m r b e : Token} {ts : List Token} {ns : List String} (hk : k.kind = bindingKeyword kind)
      (hn : n.kind.isName = true) (hl : l.kind = .leftParen) (hm : m.kind.isName = true) (hr : r.kind = .rightParen)
      (hb : b.kind = .leftBrace) (hns : Names ts ns) (he : e.kind = .rightBrace) :
      BindingDecl kind (k :: n :: l :: m :: r :: b :: (ts ++ [e])) ⟨n.value, m.value, ns⟩

inductive PageDecl : List Token → Page → Prop
  | mk {k n l t r b e : Token} {ts : List Token} {ns : List String} (hk : k.kind = .page) (hn : n.kind.isName = true)
      (hl : l.kind = .leftParen) (ht : t.kind = .text) (hr : r.kind = .rightParen) (hb : b.kind = .leftBrace)
      (hns : Names ts ns) (he : e.kind = .rightBrace) :
      PageDecl (k :: n :: l :: t :: r :: b :: (ts ++ [e])) ⟨n.value, t.value, ns⟩

/-- declarations up to the end of the source, each kind collected in source order -/
inductive Declares : List Token → App → Prop
  | finish {e : Token} (he : e.kind = .finish) : Declares [e] App.empty
  | model {ts us : List Token} {m : Model} {a : App} (h : ModelDecl ts m) (ha : Declares us a) :
      Declares (ts ++ us) { a with models := m :: a.models }
  | form {ts us : List Token} {b : Binding} {a : App} (h : BindingDecl .form ts b) (ha : Declares us a) :
      Declares (ts ++ us) { a with forms := b :: a.forms }
  | list {ts us : List Token} {b : Binding} {a : App} (h : BindingDecl .list ts b) (ha : Declares us a) :
      Declares (ts ++ us) { a with lists := b :: a.lists }
  | view {ts us : List Token} {b : Binding} {a : App} (h : BindingDecl .view ts b) (ha : Declares us a) :
      Declares (ts ++ us) { a with views := b :: a.views }
  | page {ts us : List Token} {p : Page} {a : App} (h : PageDecl ts p) (ha : Declares us a) :
      Declares (ts ++ us) { a with pages := p :: a.pages }

/-! ## Names and values that the lexer makes -/

theorem nameIssues_eq_nil {key s : String} (h : Name.isName s.toList = true) : nameIssues key s = [] := by
  simp [nameIssues, Name.check, Name.isAccepted_of_isName _ h]

theorem namesIssues_eq_nil {key : String} {names : List String} (h : ∀ s ∈ names, Name.isName s.toList = true) :
    namesIssues key names = [] := by
  have hnone : names.find? (fun s => !Name.isAccepted s.toList) = none := by
    refine List.find?_eq_none.2 fun s hs => ?_
    simp [Name.isAccepted_of_isName _ (h s hs)]
  simp [namesIssues, hnone]

theorem truth?_eq_some {s : String} {b : Bool} :
    truth? s = some b ↔ (s = "true" ∧ b = true) ∨ (s = "false" ∧ b = false) := by
  unfold truth?
  split_ifs with ht hf
  · simp [ht, eq_comm]
  · simp [hf, eq_comm]
  · simp [ht, hf]

/-- a token has a value as a default exactly when it is a literal -/
theorem literalOf?_eq_some {t : Token} (ht : t.Shaped) (l : Literal) : literalOf? t = some l ↔ IsLiteral t l := by
  constructor
  · intro h
    unfold literalOf? at h
    split at h
    case h_1 hk =>
      cases h
      exact .text hk
    case h_2 hk =>
      have hnum := ht.2 hk
      by_cases hp : '.' ∈ t.value.toList
      · obtain ⟨w, f, hwf⟩ := List.append_of_mem hp
        rw [hwf] at hnum
        simp only [numeral?, hwf, hnum.readNumber?] at h
        simp only [List.contains_eq_mem, List.mem_append, List.mem_cons, true_or, or_true, decide_true, if_true,
          Option.map_some, Option.some.injEq] at h
        exact h ▸ .decimal hk hwf
      · simp only [numeral?, hnum.readInt? hp, List.contains_eq_mem, hp, decide_false, Bool.false_eq_true, if_false] at h
        split_ifs at h with hlimit
        · cases h
        · cases h
          exact .integer hk hp (not_lt.1 hlimit)
    case h_3 hk =>
      obtain ⟨b, hb, rfl⟩ := Option.map_eq_some_iff.1 h
      rcases truth?_eq_some.1 hb with ⟨hv, rfl⟩ | ⟨hv, rfl⟩
      · exact .true hk hv
      · exact .false hk hv
    case h_4 => cases h
  · intro h
    cases h with
    | text hk => simp [literalOf?, hk]
    | integer hk hp hlimit =>
      have hle : ¬ Number.digitLimit < t.value.toList.length := not_lt.2 hlimit
      simp [literalOf?, hk, numeral?, hp, (ht.2 hk).readInt? hp, hle]
    | decimal hk hwf =>
      have hnum := ht.2 hk
      rw [hwf] at hnum
      simp [literalOf?, hk, numeral?, hwf, hnum.readNumber?]
    | true hk hv => simp [literalOf?, hk, truth?, hv]
    | false hk hv => simp [literalOf?, hk, truth?, hv]

/-! ## The rules derive the grammar

Only the values of name and number tokens matter, so that every lemma asks for tokens of the right shape where it needs
them. Reading gives no more than the grammar (`_of_` a rule) and no less (a rule `_of_` the grammar). -/

theorem Modifier.lastDefault?_default (l : Literal) (ms : List Modifier) :
    lastDefault? (.default l :: ms) = (lastDefault? ms).or (some l) := by
  show (l :: ms.filterMap default?).getLast? = ((ms.filterMap default?).getLast?).or (some l)
  cases h : ms.filterMap default? with
  | nil => rfl
  | cons x xs => simp [List.getLast?_cons]

theorem modifiers_of_star {o : Options} (ho : o.lenient = false) {ts sk : List Token} {ms : List Modifier}
    (h : Rule.Star (modifierRule o) ts sk ms) (hts : ∀ t ∈ ts, t.Shaped) :
    Modifiers ts (Modifier.anyRequired ms) (Modifier.lastDefault? ms) := by
  induction h with
  | nil => exact .none
  | cons h _ ih =>
    simp only [List.forall_mem_append] at hts
    have hrest := ih hts.2
    simp only [modifierRule, defaultRule, Rule.either_iff, Rule.token_bind_iff, literalRule_bind_iff, Rule.pure_iff,
      Rule.skip_iff] at h
    rcases h with
      (⟨t, _, rfl, hw, rfl, rfl, rfl⟩ | ⟨t, _, rfl, hw, e, _, rfl, he, l, _, v, rfl, hl, rfl, rfl, rfl⟩) |
      ⟨t, rfl, rfl, hstray, rfl⟩
    · exact .required hw.1 hw.2 hrest
    · rw [Modifier.lastDefault?_default]
      exact .default hw.1 hw.2 he ((literalOf?_eq_some (hts.1 l (by simp)) v).1 hl) hrest
    · simp [StrayWord, ho] at hstray

theorem star_of_modifiers (o : Options) {ts : List Token} {r : Bool} {d : Option Literal} (h : Modifiers ts r d)
    (hts : ∀ t ∈ ts, t.Shaped) :
    ∃ ms, Rule.Star (modifierRule o) ts [] ms ∧ Modifier.anyRequired ms = r ∧ Modifier.lastDefault? ms = d := by
  induction h with
  | none => exact ⟨[], .nil, rfl, rfl⟩
  | @required t ts r d hk hv _ ih =>
    simp only [List.forall_mem_cons] at hts
    obtain ⟨ms, hms, -, hd⟩ := ih hts.2
    have hone : modifierRule o [t] [] .required := by simp [modifierRule, IsWord, hk, hv]
    have hstar : Rule.Star (modifierRule o) ([t] ++ ts) [] (.required :: ms) := .cons hone hms
    exact ⟨.required :: ms, hstar, by simp [Modifier.anyRequired], hd⟩
  | @default t e l ts r d v hk hv he hl _ ih =>
    simp only [List.forall_mem_cons] at hts
    obtain ⟨ms, hms, hr, rfl⟩ := ih hts.2.2.2
    have hlit := (literalOf?_eq_some hts.2.2.1 v).2 hl
    have hone : modifierRule o [t, e, l] [] (.default v) := by simp [modifierRule, defaultRule, IsWord, hk, hv, he, hlit]
    have hstar : Rule.Star (modifierRule o) ([t, e, l] ++ ts) [] (.default v :: ms) := .cons hone hms
    exact ⟨.default v :: ms, hstar, by simpa [Modifier.anyRequired] using hr, Modifier.lastDefault?_default v ms⟩

theorem fieldDecl_of_rule {o : Options} (ho : o.lenient = false) {ts sk : List Token} {f : Field}
    (h : fieldRule o ts sk f) (hts : ∀ t ∈ ts, t.Shaped) : FieldDecl ts f := by
  simp only [fieldRule, Rule.token_bind_iff, Rule.given_bind_iff] at h
  obtain ⟨k, _, rfl, hk, n, _, rfl, hn, c, _, rfl, hc, t, _, rfl, ht, -, hrest⟩ := h
  obtain ⟨ms, us, _, _, _, rfl, rfl, hms, hend⟩ := hrest
  obtain ⟨s, _, rfl, hs, -, rfl, rfl, rfl⟩ := (Rule.token_bind_iff _ _ _ _ _).1 hend
  simp only [List.forall_mem_cons, List.forall_mem_append] at hts
  exact .mk hk hn hc ht (modifiers_of_star ho hms hts.2.2.2.2.1) hs

theorem rule_of_fieldDecl {o : Options} (ho : o.strictTypes = false) {ts : List Token} {f : Field}
    (h : FieldDecl ts f) (hts : ∀ t ∈ ts, t.Shaped) : fieldRule o ts [] f := by
  obtain ⟨hk, hn, hc, ht, hms, hs⟩ := h
  simp only [List.forall_mem_cons, List.forall_mem_append] at hts
  obtain ⟨-, hn', -, ht', hmods, -⟩ := hts
  obtain ⟨ms, hstar, rfl, rfl⟩ := star_of_modifiers o hms hmods
  simp only [fieldRule, Rule.token_bind_iff, Rule.given_bind_iff]
  refine ⟨_, _, rfl, hk, _, _, rfl, hn, _, _, rfl, hc, _, _, rfl, ht, by simp [ho], ?_⟩
  refine ⟨ms, _, _, [], [], rfl, rfl, hstar, (Rule.token_bind_iff _ _ _ _ _).2 ⟨_, [], rfl, hs, ?_, rfl, rfl, rfl⟩⟩
  simp [Field.issues, nameIssues_eq_nil (hn'.1 hn), nameIssues_eq_nil (ht'.1 ht)]

theorem fieldDecls_of_star {o : Options} (ho : o.lenient = false) {ts sk : List Token} {parts : List (Option Field)}
    (h : Rule.Star (modelPartRule o) ts sk parts) (hts : ∀ t ∈ ts, t.Shaped) : FieldDecls ts (parts.filterMap id) := by
  induction h with
  | nil => exact .nil
  | cons h _ ih =>
    simp only [List.forall_mem_append] at hts
    simp only [modelPartRule, Rule.either_iff, Rule.bind_pure_iff, Rule.skip_iff] at h
    rcases h with ⟨f, hf, rfl⟩ | ⟨t, -, -, hstray, -⟩
    · exact .cons (fieldDecl_of_rule ho hf hts.1) (ih hts.2)
    · simp [StrayInModel, ho] at hstray

theorem star_of_fieldDecls {o : Options} (ho : o.strictTypes = false) {ts : List Token} {fs : List Field}
    (h : FieldDecls ts fs) (hts : ∀ t ∈ ts, t.Shaped) : Rule.Star (modelPartRule o) ts [] (fs.map some) := by
  induction h with
  | nil => exact .nil
  | @cons ts us f fs h _ ih =>
    simp only [List.forall_mem_append] at hts
    have hpart : modelPartRule o ts [] (some f) :=
      Or.inl ((Rule.bind_pure_iff _ _ _ _ _).2 ⟨f, rule_of_fieldDecl ho h hts.1, rfl⟩)
    exact .cons hpart (ih hts.2)

theorem modelDecl_of_rule {o : Options} (ho : o.lenient = false) {ts sk : List Token} {m : Model}
    (h : modelRule o ts sk m) (hts : ∀ t ∈ ts, t.Shaped) : ModelDecl ts m := by
  simp only [modelRule, Rule.token_bind_iff] at h
  obtain ⟨k, _, rfl, hk, n, _, rfl, hn, l, _, rfl, hl, hrest⟩ := h
  obtain ⟨parts, body, _, _, _, rfl, rfl, hparts, hend⟩ := hrest
  obtain ⟨r, _, rfl, hr, -, rfl, rfl, rfl⟩ := (Rule.token_bind_iff _ _ _ _ _).1 hend
  simp only [List.forall_mem_cons, List.forall_mem_append] at hts
  exact .mk hk hn hl (fieldDecls_of_star ho hparts hts.2.2.2.1) hr

theorem rule_of_modelDecl {o : Options} (ho : o.strictTypes = false) {ts : List Token} {m : Model}
    (h : ModelDecl ts m) (hts : ∀ t ∈ ts, t.Shaped) : modelRule o ts [] m := by
  obtain ⟨hk, hn, hl, hfs, hr⟩ := h
  simp only [List.forall_mem_cons, List.forall_mem_append] at hts
  obtain ⟨-, hn', -, hbody, -⟩ := hts
  have hparts := star_of_fieldDecls ho hfs hbody
  simp only [modelRule, Rule.token_bind_iff]
  refine ⟨_, _, rfl, hk, _, _, rfl, hn, _, _, rfl, hl, ?_⟩
  refine ⟨_, _, _, [], [], rfl, rfl, hparts, (Rule.token_bind_iff _ _ _ _ _).2 ⟨_, [], rfl, hr, ?_, rfl, rfl, ?_⟩⟩
  · simp [Model.issues, nameIssues_eq_nil (hn'.1 hn)]
  · simp [List.filterMap_map]

theorem moreNames_of_star {ts sk : List Token} {ns : List String} (h : Rule.Star nextNameRule ts sk ns) :
    MoreNames ts ns := by
  induction h with
  | nil => exact .nil
  | cons h _ ih =>
    simp only [nextNameRule, Rule.token_bind_iff, Rule.pure_iff] at h
    obtain ⟨c, _, rfl, hc, n, _, rfl, hn, rfl, rfl, rfl⟩ := h
    exact .cons hc hn ih

theorem star_of_moreNames {ts : List Token} {ns : List String} (h : MoreNames ts ns) :
    Rule.Star nextNameRule ts [] ns := by
  induction h with
  | nil => exact .nil
  | @cons c n ts ns hc hn _ ih =>
    have hone : nextNameRule [c, n] [] n.value := by simp [nextNameRule, hc, hn]
    exact .cons hone ih

theorem names_of_rule {ts sk : List Token} {ns : List String} (h : nameListRule ts sk ns) : Names ts ns := by
  simp only [nameListRule, someNamesRule, Rule.either_iff, Rule.token_bind_iff, Rule.bind_pure_iff, Rule.pure_iff] at h
  rcases h with ⟨n, us, rfl, hn, rest, hrest, rfl⟩ | ⟨rfl, rfl, rfl⟩
  · exact .some hn (moreNames_of_star hrest)
  · exact .none

theorem rule_of_names {ts : List Token} {ns : List String} (h : Names ts ns) : nameListRule ts [] ns := by
  simp only [nameListRule, someNamesRule, Rule.either_iff, Rule.token_bind_iff, Rule.bind_pure_iff, Rule.pure_iff]
  cases h with
  | none => exact Or.inr ⟨rfl, trivial, rfl⟩
  | some hn h => exact Or.inl ⟨_, _, rfl, hn, _, star_of_moreNames h, rfl⟩

theorem MoreNames.isName {ts : List Token} {ns : List String} (h : MoreNames ts ns) (hts : ∀ t ∈ ts, t.Shaped) :
    ∀ s ∈ ns, Name.isName s.toList = true := by
  induction h with
  | nil => simp
  | cons hc hn _ ih =>
    simp only [List.forall_mem_cons] at hts ⊢
    exact ⟨hts.2.1.1 hn, ih hts.2.2⟩

theorem Names.isName {ts : List Token} {ns : List String} (h : Names ts ns) (hts : ∀ t ∈ ts, t.Shaped) :
    ∀ s ∈ ns, Name.isName s.toList = true := by
  cases h with
  | none => simp
  | some hn h =>
    simp only [List.forall_mem_cons] at hts ⊢
    exact ⟨hts.1.1 hn, h.isName hts.2⟩

theorem bindingKind?_eq_some {k : Kind} {kind : BindingKind} : bindingKind? k = some kind ↔ k = bindingKeyword kind := by
  cases kind <;> cases k <;> decide

theorem bindingDecl_of_rule {ts sk : List Token} {c : Component} (h : bindingRule ts sk c) :
    BindingDecl c.kind ts c.binding := by
  simp only [bindingRule, bindingTailRule, Rule.token_bind_iff] at h
  obtain ⟨k, _, rfl, hk, n, _, rfl, hn, l, _, rfl, hl, m, _, rfl, hm, r, _, rfl, hr, b, _, rfl, hb, hrest⟩ := h
  obtain ⟨ns, ts, _, _, _, rfl, rfl, hns, hend⟩ := hrest
  obtain ⟨e, _, rfl, he, -, rfl, rfl, rfl⟩ := (Rule.token_bind_iff _ _ _ _ _).1 hend
  obtain ⟨kind, hkind⟩ := Option.isSome_iff_exists.1 hk
  rw [hkind]
  exact .mk (bindingKind?_eq_some.1 hkind) hn hl hm hr hb (names_of_rule hns) he

theorem rule_of_bindingDecl {kind : BindingKind} {ts : List Token} {b : Binding} (h : BindingDecl kind ts b)
    (hts : ∀ t ∈ ts, t.Shaped) : bindingRule ts [] ⟨kind, b⟩ := by
  obtain ⟨hk, hn, hl, hm, hr, hb, hns, he⟩ := h
  simp only [List.forall_mem_cons, List.forall_mem_append] at hts
  obtain ⟨-, hn', -, hm', -, -, hns', -⟩ := hts
  have hkind := bindingKind?_eq_some.2 hk
  simp only [bindingRule, bindingTailRule, Rule.token_bind_iff]
  refine ⟨_, _, rfl, by simp [hkind], _, _, rfl, hn, _, _, rfl, hl, _, _, rfl, hm, _, _, rfl, hr, _, _, rfl, hb, ?_⟩
  refine ⟨_, _, _, [], [], rfl, rfl, rule_of_names hns, (Rule.token_bind_iff _ _ _ _ _).2 ⟨_, [], rfl, he, ?_⟩⟩
  refine ⟨?_, rfl, rfl, by simp [hkind]⟩
  simp [Binding.issues, nameIssues_eq_nil (hn'.1 hn), nameIssues_eq_nil (hm'.1 hm), namesIssues_eq_nil (hns.isName hns')]

theorem pageDecl_of_rule {ts sk : List Token} {p : Page} (h : pageRule ts sk p) : PageDecl ts p := by
  simp only [pageRule, Rule.token_bind_iff] at h
  obtain ⟨k, _, rfl, hk, n, _, rfl, hn, l, _, rfl, hl, t, _, rfl, ht, r, _, rfl, hr, b, _, rfl, hb, hrest⟩ := h
  obtain ⟨ns, ts, _, _, _, rfl, rfl, hns, hend⟩ := hrest
  obtain ⟨e, _, rfl, he, -, rfl, rfl, rfl⟩ := (Rule.token_bind_iff _ _ _ _ _).1 hend
  exact .mk hk hn hl ht hr hb (names_of_rule hns) he

theorem rule_of_pageDecl {ts : List Token} {p : Page} (h : PageDecl ts p) (hts : ∀ t ∈ ts, t.Shaped) :
    pageRule ts [] p := by
  obtain ⟨hk, hn, hl, ht, hr, hb, hns, he⟩ := h
  simp only [List.forall_mem_cons, List.forall_mem_append] at hts
  obtain ⟨-, hn', -, -, -, -, hns', -⟩ := hts
  simp only [pageRule, Rule.token_bind_iff]
  refine ⟨_, _, rfl, hk, _, _, rfl, hn, _, _, rfl, hl, _, _, rfl, ht, _, _, rfl, hr, _, _, rfl, hb, ?_⟩
  refine ⟨_, _, _, [], [], rfl, rfl, rule_of_names hns, (Rule.token_bind_iff _ _ _ _ _).2 ⟨_, [], rfl, he, ?_⟩⟩
  refine ⟨?_, rfl, rfl, rfl⟩
  simp [Page.issues, nameIssues_eq_nil (hn'.1 hn), namesIssues_eq_nil (hns.isName hns')]

theorem declares_of_star {o : Options} (ho : o.lenient = false) {body sk : List Token} {ds : List Declaration}
    (h : Rule.Star (declarationRule o) body sk ds) (hbody : ∀ t ∈ body, t.Shaped) {e : Token} (he : e.kind = .finish) :
    Declares (body ++ [e]) (appOf ds) := by
  induction h with
  | nil => exact .finish he
  | cons h _ ih =>
    simp only [List.forall_mem_append] at hbody
    have hrest := ih hbody.2
    rw [List.append_assoc]
    simp only [declarationRule, Rule.either_iff, Rule.bind_pure_iff, Rule.skip_iff] at h
    rcases h with (⟨m, hm, rfl⟩ | ⟨⟨kind, b⟩, hc, rfl⟩ | ⟨p, hp, rfl⟩) | ⟨t, -, -, hstray, -⟩
    · exact .model (modelDecl_of_rule ho hm hbody.1) hrest
    · have hb := bindingDecl_of_rule hc
      cases kind with
      | form => exact .form hb hrest
      | list => exact .list hb hrest
      | view => exact .view hb hrest
    · exact .page (pageDecl_of_rule hp) hrest
    · simp [StrayOutside, ho] at hstray

/-- the tokens are declarations as the rules read them, and the end of the source -/
def Reads (o : Options) (ts : List Token) (a : App) : Prop :=
  ∃ body e ds, ts = body ++ [e] ∧ e.kind = .finish ∧ Rule.Star (declarationRule o) body [] ds ∧ a = appOf ds

/-- one more declaration in front -/
theorem Reads.cons {o : Options} {ts us : List Token} {d : Declaration} {a b : App} (hd : declarationRule o ts [] d)
    (h : Reads o us a) (hb : ∀ ds, a = appOf ds → b = appOf (d :: ds)) : Reads o (ts ++ us) b := by
  obtain ⟨body, e, ds, rfl, he, hstar, ha⟩ := h
  exact ⟨ts ++ body, e, d :: ds, by simp, he, .cons hd hstar, hb ds ha⟩

theorem reads_of_declares {o : Options} (ho : o.strictTypes = false) {ts : List Token} {a : App} (h : Declares ts a)
    (hts : ∀ t ∈ ts, t.Shaped) : Reads o ts a := by
  have hcomponent {kind : BindingKind} {ts : List Token} {b : Binding} (h : BindingDecl kind ts b)
      (hts : ∀ t ∈ ts, t.Shaped) : declarationRule o ts [] (.component ⟨kind, b⟩) :=
    Or.inl (Or.inr (Or.inl ((Rule.bind_pure_iff _ _ _ _ _).2 ⟨_, rule_of_bindingDecl h hts, rfl⟩)))
  induction h with
  | @finish e he => exact ⟨[], e, [], rfl, he, .nil, rfl⟩
  | model h _ ih =>
    simp only [List.forall_mem_append] at hts
    have hd := (Rule.bind_pure_iff _ Declaration.model _ _ _).2 ⟨_, rule_of_modelDecl ho h hts.1, rfl⟩
    exact (ih hts.2).cons (Or.inl (Or.inl hd)) (by rintro ds rfl; rfl)
  | form h _ ih =>
    simp only [List.forall_mem_append] at hts
    exact (ih hts.2).cons (hcomponent h hts.1) (by rintro ds rfl; rfl)
  | list h _ ih =>
    simp only [List.forall_mem_append] at hts
    exact (ih hts.2).cons (hcomponent h hts.1) (by rintro ds rfl; rfl)
  | view h _ ih =>
    simp only [List.forall_mem_append] at hts
    exact (ih hts.2).cons (hcomponent h hts.1) (by rintro ds rfl; rfl)
  | page h _ ih =>
    simp only [List.forall_mem_append] at hts
    have hd := (Rule.bind_pure_iff _ Declaration.page _ _ _).2 ⟨_, rule_of_pageDecl h hts.1, rfl⟩
    exact (ih hts.2).cons (Or.inl (Or.inr (Or.inr hd))) (by rintro ds rfl; rfl)

/-! ## Strict reading -/

theorem Ended.cons {t : Token} {ts : List Token} (ht : t.kind ≠ .finish) (h : Ended ts) : Ended (t :: ts) := by
  obtain ⟨body, e, rfl, he, hb⟩ := (ended_iff ts).1 h
  exact (ended_append_singleton (t :: body) e).2 ⟨he, List.forall_mem_cons.2 ⟨ht, hb⟩⟩

/-- the tokens that a text decomposes into are ended, and each has the shape of its kind -/
theorem ended_shaped_of_decomposes {before text last : List Char} {pieces : List (List Char × List Char)}
    {ts : List Token} (h : Lexer.Decomposes before text pieces last ts) : Ended ts ∧ ∀ t ∈ ts, t.Shaped := by
  induction h with
  | finish => exact ⟨by simp [Ended], by simp [Token.Shaped, Kind.isName]⟩
  | token _ hl _ ih =>
    obtain ⟨hk, hshaped⟩ := hl.shaped
    exact ⟨ih.1.cons hk, List.forall_mem_cons.2 ⟨hshaped _ _, ih.2⟩⟩

/-- so are the tokens of a source -/
theorem ended_shaped_of_tokenize {source : String} {ts : List Token} (h : tokenize source = .ok ts) :
    Ended ts ∧ ∀ t ∈ ts, t.Shaped := by
  obtain ⟨pieces, last, hd⟩ := exists_decomposes h
  exact ended_shaped_of_decomposes hd

/-- **Strict reading accepts exactly the grammar.** Without lenience and with any name as a type, reading tokens gives an
application exactly when the tokens declare it. The tokens of every source are as asked for here
(`ended_shaped_of_tokenize`). -/
theorem app_eq_ok_iff_declares (o : Options) (hlenient : o.lenient = false) (hstrict : o.strictTypes = false)
    (ts : List Token) (hts : Ended ts) (hshaped : ∀ t ∈ ts, t.Shaped) (a : App) :
    (app o (Session.start ts)).1 = .ok a ↔ Declares ts a := by
  constructor
  · intro h
    have hread : app o (Session.start ts) = (.ok a, (app o (Session.start ts)).2) := Prod.ext h rfl
    obtain ⟨body, e, sk, ds, rfl, he, hstar, rfl, -⟩ := (app_eq_ok o ts hts a _).1 hread
    simp only [List.forall_mem_append] at hshaped
    exact declares_of_star hlenient hstar hshaped.1 he
  · intro h
    obtain ⟨body, e, ds, hbody, he, hstar, ha⟩ := reads_of_declares hstrict h hshaped
    rw [(app_eq_ok o ts hts a _).2 ⟨body, e, [], ds, hbody, he, hstar, ha, rfl⟩]

/-- a model with a field that has two defaults, and a form of it -/
def defaultSource : String :=
  "model A \x7b field date: when default=12 default=true; \x7d\nform F(A) \x7bdate, x\x7d"

def defaultTokens : List Token :=
  [⟨.model, "model", 1, 1⟩, ⟨.identifier, "A", 1, 7⟩, ⟨.leftBrace, "\x7b", 1, 9⟩, ⟨.field, "field", 1, 11⟩,
    ⟨.dateType, "date", 1, 17⟩, ⟨.colon, ":", 1, 21⟩, ⟨.identifier, "when", 1, 23⟩, ⟨.identifier, "default", 1, 28⟩,
    ⟨.equals, "=", 1, 35⟩, ⟨.number, "12", 1, 36⟩, ⟨.identifier, "default", 1, 39⟩, ⟨.equals, "=", 1, 46⟩,
    ⟨.identifier, "true", 1, 47⟩, ⟨.semicolon, ";", 1, 51⟩, ⟨.rightBrace, "\x7d", 1, 53⟩, ⟨.form, "form", 2, 1⟩,
    ⟨.identifier, "F", 2, 6⟩, ⟨.leftParen, "(", 2, 7⟩, ⟨.identifier, "A", 2, 8⟩, ⟨.rightParen, ")", 2, 9⟩,
    ⟨.leftBrace, "\x7b", 2, 11⟩, ⟨.dateType, "date", 2, 12⟩, ⟨.comma, ",", 2, 16⟩, ⟨.identifier, "x", 2, 18⟩,
    ⟨.rightBrace, "\x7d", 2, 19⟩, ⟨.finish, "", 2, 20⟩]

theorem declares_defaultTokens :
    Ended defaultTokens ∧ (∀ t ∈ defaultTokens, t.Shaped) ∧
      Declares defaultTokens
        ⟨[⟨"A", [⟨"date", "when", false, some (.bool true)⟩]⟩], [⟨"F", "A", ["date", "x"]⟩], [], [], []⟩ := by
  have hsource : tokenize defaultSource = .ok defaultTokens := by decide +kernel
  obtain ⟨hts, hshaped⟩ := ended_shaped_of_tokenize hsource
  refine ⟨hts, hshaped, ?_⟩
  exact (app_eq_ok_iff_declares { Options.standard with lenient := false } rfl rfl defaultTokens hts hshaped _).1
    (by decide +kernel)

end Pagewright.Grammar
