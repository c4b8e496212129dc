/-
Writing an application down. Its declarations are printed as tokens, kind by kind, and every application that the language
can express is what its tokens declare (`declares_tokens`), all of which can be written (`isWritten_tokens`).

What the language can express (`App.Expressible`) is said of the tree alone: its names are free, its defaults are truth
values, integers or texts, and no text ends with a backslash.
-/
import Pagewright.Proofs.App.Names
import Pagewright.Proofs.Grammar.Derivation
import Pagewright.Proofs.Token.Writing

namespace Pagewright

/-! ## What can be expressed -/

/-- a default that can be expressed: a truth value, an integer that is not negative and has at most 4300 digits, or a text
that does not end with a backslash -/
def Literal.Expressible : Literal → Prop
  | .bool _ => True
  | .int n => 0 ≤ n ∧ (Nat.toDigits 10 n.toNat).length ≤ 4300
  | .float _ => False
  | .text s => s.toList.getLast? ≠ some '\\'

instance (l : Literal) : Decidable l.Expressible :=
  match l with
  | .bool _ => inferInstanceAs (Decidable True)
  | .int _ => inferInstanceAs (Decidable (_ ∧ _))
  | .float _ => inferInstanceAs (Decidable False)
  | .text _ => inferInstanceAs (Decidable (_ ≠ _))

structure App.Expressible (a : App) : Prop where
  names : ∀ s ∈ a.names, Name.IsFree s
  defaults : ∀ m ∈ a.models, ∀ f ∈ m.fields, ∀ l, f.default = some l → l.Expressible
  titles : ∀ p ∈ a.pages, p.title.toList.getLast? ≠ some '\\'

/-! ## Printing -/

def Token.ofWord (s : String) : Token := ⟨Kind.ofWord s, s, 0, 0⟩

def Token.ofMark (k : Kind) (c : Char) : Token := ⟨k, c.toString, 0, 0⟩

def Token.leftBrace : Token := .ofMark .leftBrace '\x7b'

def Token.rightBrace : Token := .ofMark .rightBrace '\x7d'

def Token.leftParen : Token := .ofMark .leftParen '('

def Token.rightParen : Token := .ofMark .rightParen ')'

/-- a default as a token; a binary number is not written -/
def Literal.token? : Literal → Option Token
  | .bool b => some (.ofWord (if b then "true" else "false"))
  | .int n => some ⟨.number, String.ofList (Nat.toDigits 10 n.toNat), 0, 0⟩
  | .float _ => none
  | .text s => some ⟨.text, s, 0, 0⟩

/-- whether a field is required, and its default -/
def Field.modifierTokens (f : Field) : List Token :=
  (if f.required then [.ofWord "required"] else []) ++
    match f.default.bind Literal.token? with
    | none => []
    | some t => [.ofWord "default", .ofMark .equals '=', t]

def Field.tokens (f : Field) : List Token :=
  .ofWord "field" :: .ofWord f.name :: .ofMark .colon ':' :: .ofWord f.type ::
    (f.modifierTokens ++ [.ofMark .semicolon ';'])

def Model.tokens (m : Model) : List Token :=
  .ofWord "model" :: .ofWord m.name :: .leftBrace :: (m.fields.flatMap Field.tokens ++ [.rightBrace])

/-- names with commas between them -/
def namesTokens : List String → List Token
  | [] => []
  | n :: ns => .ofWord n :: ns.flatMap fun s => [.ofMark .comma ',', .ofWord s]

def Binding.tokens (k : BindingKind) (b : Binding) : List Token :=
  .ofWord k.name :: .ofWord b.name :: .leftParen :: .ofWord b.model :: .rightParen :: .leftBrace ::
    (namesTokens b.fields ++ [.rightBrace])

def Page.tokens (p : Page) : List Token :=
  .ofWord "page" :: .ofWord p.name :: .leftParen :: ⟨.text, p.title, 0, 0⟩ :: .rightParen :: .leftBrace ::
    (namesTokens p.components ++ [.rightBrace])

/-- the tokens of an application, without the end of the source -/
def App.tokens (a : App) : List Token :=
  a.models.flatMap Model.tokens ++ (a.forms.flatMap (Binding.tokens .form) ++ (a.lists.flatMap (Binding.tokens .list) ++
    (a.views.flatMap (Binding.tokens .view) ++ a.pages.flatMap Page.tokens)))

namespace Grammar

/-! ## Printed tokens can be written -/

theorem isWritten_of_isFree {s : String} (h : Name.IsFree s) : (Token.ofWord s).IsWritten := isWritten_word h.1

/-- the words of the language itself can be written -/
theorem isWritten_keyword {s : String}
    (h : s ∈ ["required", "default", "true", "false", "field", "model", "form", "list", "view", "page"]) :
    (Token.ofWord s).IsWritten := by
  have hall : ∀ s ∈ ["required", "default", "true", "false", "field", "model", "form", "list", "view", "page"],
      Name.isName s.toList = true := by decide +kernel
  exact isWritten_word (hall s h)

/-- a default that can be expressed has a token that is read as it -/
theorem exists_token? {l : Literal} (h : l.Expressible) : ∃ t, l.token? = some t ∧ IsLiteral t l ∧ t.IsWritten := by
  cases l with
  | bool b =>
    refine ⟨_, rfl, ?_, isWritten_keyword (by cases b <;> decide)⟩
    cases b with
    | true => exact .true rfl rfl
    | false => exact .false rfl rfl
  | int n =>
    obtain ⟨hn, hlimit⟩ := h
    have hpoint : '.' ∉ Nat.toDigits 10 n.toNat := by
      intro hmem
      exact absurd (Nat.isDigit_of_mem_toDigits (by decide) (by decide) hmem) (by decide)
    have hliteral : IsLiteral ⟨.number, String.ofList (Nat.toDigits 10 n.toNat), 0, 0⟩ _ :=
      .integer rfl (by simpa using hpoint) (by simpa using hlimit)
    rw [String.toList_ofList, Number.digitsValue_toDigits, Int.toNat_of_nonneg hn] at hliteral
    exact ⟨_, rfl, hliteral, isWritten_number (Number.isNumeral_toDigits _)⟩
  | float x => cases h
  | text s => exact ⟨_, rfl, .text rfl, isWritten_text h⟩

theorem isWritten_ofMark {k : Kind} {c : Char} (h : (c, k) ∈ Kind.marks) : (Token.ofMark k c).IsWritten := isWritten_mark h

theorem isName_ofWord {s : String} (h : Name.IsFree s) : (Token.ofWord s).kind.isName = true := Kind.isName_ofWord h.2

/-! ## Printed declarations -/

/-- the default of a field, if it can be expressed, is printed as a modifier -/
theorem modifiers_tokens {f : Field} (h : ∀ l, f.default = some l → l.Expressible) :
    Modifiers f.modifierTokens f.required f.default ∧ ∀ t ∈ f.modifierTokens, t.IsWritten := by
  have hdefault : ∃ ts, f.modifierTokens = (if f.required then [.ofWord "required"] else []) ++ ts ∧
      Modifiers ts false f.default ∧ ∀ t ∈ ts, t.IsWritten := by
    cases hd : f.default with
    | none => exact ⟨[], by simp [Field.modifierTokens, hd], .none, by simp⟩
    | some l =>
      obtain ⟨t, ht, hliteral, hwritten⟩ := exists_token? (h l hd)
      refine ⟨[.ofWord "default", .ofMark .equals '=', t], by simp [Field.modifierTokens, hd, ht], ?_, ?_⟩
      · exact .default rfl rfl rfl hliteral .none
      · simp only [List.forall_mem_cons]
        exact ⟨isWritten_keyword (by decide), isWritten_ofMark (by decide), hwritten, by simp⟩
  obtain ⟨ts, hts, hmodifiers, hwritten⟩ := hdefault
  rw [hts]
  cases f.required with
  | false => exact ⟨hmodifiers, hwritten⟩
  | true => exact ⟨.required rfl rfl hmodifiers, List.forall_mem_cons.2 ⟨isWritten_keyword (by decide), hwritten⟩⟩

theorem fieldDecl_tokens {f : Field} (hnames : ∀ s ∈ f.names, Name.IsFree s)
    (h : ∀ l, f.default = some l → l.Expressible) : FieldDecl f.tokens f ∧ ∀ t ∈ f.tokens, t.IsWritten := by
  obtain ⟨hmodifiers, hwritten⟩ := modifiers_tokens h
  simp only [Field.names, List.forall_mem_cons] at hnames
  obtain ⟨hname, htype, -⟩ := hnames
  refine ⟨.mk rfl (isName_ofWord hname) rfl (isName_ofWord htype) hmodifiers rfl, ?_⟩
  simp only [Field.tokens, List.forall_mem_cons, List.forall_mem_append]
  exact ⟨isWritten_keyword (by decide), isWritten_of_isFree hname, isWritten_ofMark (by decide), isWritten_of_isFree htype,
    hwritten, isWritten_ofMark (by decide), by simp⟩

theorem fieldDecls_tokens {fs : List Field} (h : ∀ f ∈ fs, FieldDecl f.tokens f) :
    FieldDecls (fs.flatMap Field.tokens) fs := by
  induction fs with
  | nil => exact .nil
  | cons f fs ih =>
    rw [List.forall_mem_cons] at h
    exact .cons h.1 (ih h.2)

theorem modelDecl_tokens {m : Model} (hnames : ∀ s ∈ m.names, Name.IsFree s)
    (h : ∀ f ∈ m.fields, ∀ l, f.default = some l → l.Expressible) : ModelDecl m.tokens m ∧ ∀ t ∈ m.tokens, t.IsWritten := by
  simp only [Model.names, List.forall_mem_cons, List.forall_mem_flatMap] at hnames
  obtain ⟨hname, hfields⟩ := hnames
  have hdecl : ∀ f ∈ m.fields, FieldDecl f.tokens f ∧ ∀ t ∈ f.tokens, t.IsWritten := fun f hf =>
    fieldDecl_tokens (hfields f hf) (h f hf)
  refine ⟨.mk rfl (isName_ofWord hname) rfl (fieldDecls_tokens fun f hf => (hdecl f hf).1) rfl, ?_⟩
  simp only [Model.tokens, List.forall_mem_cons, List.forall_mem_append, List.forall_mem_flatMap]
  exact ⟨isWritten_keyword (by decide), isWritten_of_isFree hname, isWritten_ofMark (by decide),
    fun f hf => (hdecl f hf).2, isWritten_ofMark (by decide), by simp⟩

theorem moreNames_tokens {ns : List String} (h : ∀ s ∈ ns, Name.IsFree s) :
    MoreNames (ns.flatMap fun s => [.ofMark .comma ',', .ofWord s]) ns := by
  induction ns with
  | nil => exact .nil
  | cons n ns ih =>
    rw [List.forall_mem_cons] at h
    exact .cons rfl (isName_ofWord h.1) (ih h.2)

theorem names_tokens {ns : List String} (h : ∀ s ∈ ns, Name.IsFree s) :
    Names (namesTokens ns) ns ∧ ∀ t ∈ namesTokens ns, t.IsWritten := by
  cases ns with
  | nil => exact ⟨.none, by simp [namesTokens]⟩
  | cons n ns =>
    rw [List.forall_mem_cons] at h
    refine ⟨.some (isName_ofWord h.1) (moreNames_tokens h.2), ?_⟩
    simp only [namesTokens, List.forall_mem_cons, List.forall_mem_flatMap]
    exact ⟨isWritten_of_isFree h.1, fun s hs => ⟨isWritten_ofMark (by decide), isWritten_of_isFree (h.2 s hs), by simp⟩⟩

theorem bindingDecl_tokens (k : BindingKind) {b : Binding} (hnames : ∀ s ∈ b.names, Name.IsFree s) :
    BindingDecl k (b.tokens k) b ∧ ∀ t ∈ b.tokens k, t.IsWritten := by
  simp only [Binding.names, List.forall_mem_cons] at hnames
  obtain ⟨hname, hmodel, hfields⟩ := hnames
  obtain ⟨hdecl, hwritten⟩ := names_tokens hfields
  refine ⟨.mk (by cases k <;> rfl) (isName_ofWord hname) rfl (isName_ofWord hmodel) rfl rfl hdecl rfl, ?_⟩
  simp only [Binding.tokens, List.forall_mem_cons, List.forall_mem_append]
  exact ⟨isWritten_keyword (by cases k <;> decide), isWritten_of_isFree hname, isWritten_ofMark (by decide),
    isWritten_of_isFree hmodel, isWritten_ofMark (by decide), isWritten_ofMark (by decide), hwritten,
    isWritten_ofMark (by decide), by simp⟩

theorem pageDecl_tokens {p : Page} (hnames : ∀ s ∈ p.names, Name.IsFree s) (htitle : p.title.toList.getLast? ≠ some '\\') :
    PageDecl p.tokens p ∧ ∀ t ∈ p.tokens, t.IsWritten := by
  simp only [Page.names, List.forall_mem_cons] at hnames
  obtain ⟨hname, hcomponents⟩ := hnames
  obtain ⟨hdecl, hwritten⟩ := names_tokens hcomponents
  refine ⟨.mk rfl (isName_ofWord hname) rfl rfl rfl rfl hdecl rfl, ?_⟩
  simp only [Page.tokens, List.forall_mem_cons, List.forall_mem_append]
  exact ⟨isWritten_keyword (by decide), isWritten_of_isFree hname, isWritten_ofMark (by decide), isWritten_text htitle,
    isWritten_ofMark (by decide), isWritten_ofMark (by decide), hwritten, isWritten_ofMark (by decide), by simp⟩

/-! ## Printed applications -/

/-- declarations of one kind in front of others -/
theorem declares_each {α : Type} {tokens : α → List Token} {us : List Token} (put : List α → App) {xs : List α}
    (hnil : Declares us (put []))
    (hcons : ∀ x ∈ xs, ∀ ys ts, Declares ts (put ys) → Declares (tokens x ++ ts) (put (x :: ys))) :
    Declares (xs.flatMap tokens ++ us) (put xs) := by
  induction xs with
  | nil => exact hnil
  | cons x xs ih =>
    rw [List.forall_mem_cons] at hcons
    rw [List.flatMap_cons, List.append_assoc]
    exact hcons.1 xs _ (ih hcons.2)

section

variable {a : App}

theorem isFree_of_binding (h : a.Expressible) (k : BindingKind) : ∀ b ∈ a.bindings k, ∀ s ∈ b.names, Name.IsFree s :=
  fun _ hb s hs => h.names s (App.mem_names_of_binding hb hs)

/-- an application that can be expressed is what its tokens declare -/
theorem declares_tokens (h : a.Expressible) {e : Token} (he : e.kind = .finish) : Declares (a.tokens ++ [e]) a := by
  have hmodel : ∀ m ∈ a.models, ModelDecl m.tokens m := fun m hm =>
    (modelDecl_tokens (fun s hs => h.names s (App.mem_names_of_model hm hs)) (h.defaults m hm)).1
  have hbinding : ∀ k, ∀ b ∈ a.bindings k, BindingDecl k (b.tokens k) b := fun k b hb =>
    (bindingDecl_tokens k (isFree_of_binding h k b hb)).1
  have hpage : ∀ p ∈ a.pages, PageDecl p.tokens p := fun p hp =>
    (pageDecl_tokens (fun s hs => h.names s (App.mem_names_of_page hp hs)) (h.titles p hp)).1
  simp only [App.tokens, List.append_assoc]
  -- from the last kind of declarations to the first
  refine declares_each (fun ms => ⟨ms, a.forms, a.views, a.lists, a.pages⟩) ?_ fun m hm _ _ ht => .model (hmodel m hm) ht
  refine declares_each (fun bs => ⟨[], bs, a.views, a.lists, a.pages⟩) ?_ fun b hb _ _ ht => .form (hbinding .form b hb) ht
  refine declares_each (fun bs => ⟨[], [], a.views, bs, a.pages⟩) ?_ fun b hb _ _ ht => .list (hbinding .list b hb) ht
  refine declares_each (fun bs => ⟨[], [], bs, [], a.pages⟩) ?_ fun b hb _ _ ht => .view (hbinding .view b hb) ht
  exact declares_each (fun ps => ⟨[], [], [], [], ps⟩) (.finish he) fun p hp _ _ ht => .page (hpage p hp) ht

/-- and they can be written -/
theorem isWritten_tokens (h : a.Expressible) : ∀ t ∈ a.tokens, t.IsWritten := by
  have hbinding : ∀ k, ∀ b ∈ a.bindings k, ∀ t ∈ b.tokens k, t.IsWritten := fun k b hb =>
    (bindingDecl_tokens k (isFree_of_binding h k b hb)).2
  simp only [App.tokens, List.forall_mem_append, List.forall_mem_flatMap]
  refine ⟨?_, hbinding .form, hbinding .list, hbinding .view, ?_⟩
  · intro m hm
    exact (modelDecl_tokens (fun s hs => h.names s (App.mem_names_of_model hm hs)) (h.defaults m hm)).2
  · intro p hp
    exact (pageDecl_tokens (fun s hs => h.names s (App.mem_names_of_page hp hs)) (h.titles p hp)).2

end

end Grammar

end Pagewright
