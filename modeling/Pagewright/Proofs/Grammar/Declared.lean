/-
Declarations in what was read. Every model, binding and page of a tree that was read has a declaration among the tokens,
also when other tokens were skipped (`declared_of_app`), and every default in it is one of the tokens
(`ModelDecl.exists_isLiteral`). So what is known of all tokens of a source is known of the parts of its tree.
-/
import Pagewright.Proofs.Grammar.Erasure
import Pagewright.Proofs.Grammar.Faults

namespace Pagewright.Grammar

/-- every part of an application has a declaration, in tokens with a property -/
structure Declared (P : Token → Prop) (a : App) : Prop where
  models : ∀ m ∈ a.models, ∃ ts, (∀ t ∈ ts, P t) ∧ ModelDecl ts m
  bindings : ∀ k, ∀ b ∈ a.bindings k, ∃ ts, (∀ t ∈ ts, P t) ∧ BindingDecl k ts b
  pages : ∀ p ∈ a.pages, ∃ ts, (∀ t ∈ ts, P t) ∧ PageDecl ts p

/-- one more form, list or view -/
theorem Declared.binding {P : Token → Prop} {a a' : App} (h : Declared P a) {kind : BindingKind} {b : Binding}
    {ts : List Token} (hb : BindingDecl kind ts b) (hts : ∀ t ∈ ts, P t) (hmodels : a'.models = a.models)
    (hpages : a'.pages = a.pages) (hbindings : ∀ k, a'.bindings k = if k = kind then b :: a.bindings k else a.bindings k) :
    Declared P a' := by
  refine ⟨by rw [hmodels]; exact h.models, ?_, by rw [hpages]; exact h.pages⟩
  intro k
  rw [hbindings]
  by_cases hk : k = kind
  · subst hk
    rw [if_pos rfl]
    exact List.forall_mem_cons.2 ⟨⟨ts, hts, hb⟩, h.bindings k⟩
  · rw [if_neg hk]
    exact h.bindings k

theorem declared_of_declares {P : Token → Prop} {ts : List Token} {a : App} (h : Declares ts a) (hts : ∀ t ∈ ts, P t) :
    Declared P a := by
  induction h with
  | finish he => exact ⟨by simp [App.empty], fun k => by cases k <;> simp [App.empty, App.bindings], by simp [App.empty]⟩
  | model h _ ih =>
    rw [List.forall_mem_append] at hts
    have hrest := ih hts.2
    exact ⟨List.forall_mem_cons.2 ⟨⟨_, hts.1, h⟩, hrest.models⟩, hrest.bindings, hrest.pages⟩
  | form h _ ih =>
    rw [List.forall_mem_append] at hts
    exact (ih hts.2).binding h hts.1 rfl rfl (fun k => by cases k <;> rfl)
  | list h _ ih =>
    rw [List.forall_mem_append] at hts
    exact (ih hts.2).binding h hts.1 rfl rfl (fun k => by cases k <;> rfl)
  | view h _ ih =>
    rw [List.forall_mem_append] at hts
    exact (ih hts.2).binding h hts.1 rfl rfl (fun k => by cases k <;> rfl)
  | page h _ ih =>
    rw [List.forall_mem_append] at hts
    have hrest := ih hts.2
    exact ⟨hrest.models, hrest.bindings, List.forall_mem_cons.2 ⟨⟨_, hts.1, h⟩, hrest.pages⟩⟩

/-- what was read is declared in the tokens that were not skipped -/
theorem declared_of_app {P : Token → Prop} {o : Options} {ts : List Token} {a : App} (hts : Lexed ts)
    (h : (app o (Session.start ts)).1 = .ok a) (hP : ∀ t ∈ ts, P t) : Declared P a := by
  have hread : app o (Session.start ts) = (.ok a, (app o (Session.start ts)).2) := Prod.ext h rfl
  -- strict reading of the tokens that were not skipped
  obtain ⟨keep, s, herased, hkeep, hstrict⟩ := app_of_erased o { o with lenient := false } rfl hts.1 hread
  have hkept : ∀ t ∈ keep, t ∈ ts := fun t ht => (herased.mem t).2 (Or.inr ht)
  obtain ⟨body, e, sk, ds, rfl, he, hstar, rfl, -⟩ := (app_eq_ok _ keep hkeep a s).1 hstrict
  have hbody : ∀ t ∈ body, t.Shaped := fun t ht => hts.2 t (hkept t (List.mem_append_left _ ht))
  exact declared_of_declares (declares_of_star rfl hstar hbody he) fun t ht => hP t (hkept t ht)

variable {ts : List Token}

/-- the default among modifiers stands in one of the tokens -/
theorem exists_isLiteral {r : Bool} {d : Option Literal} (h : Modifiers ts r d) {l : Literal} (hl : d = some l) :
    ∃ t ∈ ts, IsLiteral t l := by
  induction h with
  | none => cases hl
  | required _ _ _ ih =>
    obtain ⟨t, ht, hliteral⟩ := ih hl
    exact ⟨t, List.mem_cons_of_mem _ ht, hliteral⟩
  | @default t e u ts r d v _ _ _ hu _ ih =>
    cases d with
    | some x =>
      obtain ⟨t, ht, hliteral⟩ := ih hl
      exact ⟨t, by simp [ht], hliteral⟩
    | none =>
      cases hl
      exact ⟨u, by simp, hu⟩

theorem FieldDecl.exists_isLiteral {f : Field} (h : FieldDecl ts f) {l : Literal} (hl : f.default = some l) :
    ∃ t ∈ ts, IsLiteral t l := by
  obtain ⟨-, -, -, -, hms, -⟩ := h
  obtain ⟨t, ht, hliteral⟩ := Grammar.exists_isLiteral hms hl
  exact ⟨t, by simp [ht], hliteral⟩

theorem FieldDecls.exists_fieldDecl {fs : List Field} (h : FieldDecls ts fs) :
    ∀ f ∈ fs, ∃ us, (∀ t ∈ us, t ∈ ts) ∧ FieldDecl us f := by
  induction h with
  | nil => simp
  | @cons ts us f fs h _ ih =>
    rw [List.forall_mem_cons]
    refine ⟨⟨ts, fun t ht => List.mem_append_left _ ht, h⟩, ?_⟩
    intro g hg
    obtain ⟨vs, hvs, hdecl⟩ := ih g hg
    exact ⟨vs, fun t ht => List.mem_append_right _ (hvs t ht), hdecl⟩

theorem ModelDecl.exists_isLiteral {m : Model} (h : ModelDecl ts m) {f : Field} (hf : f ∈ m.fields) {l : Literal}
    (hl : f.default = some l) : ∃ t ∈ ts, IsLiteral t l := by
  obtain ⟨-, -, -, hfields, -⟩ := h
  obtain ⟨us, hus, hdecl⟩ := hfields.exists_fieldDecl f hf
  obtain ⟨t, ht, hliteral⟩ := hdecl.exists_isLiteral hl
  exact ⟨t, by simp [hus t ht], hliteral⟩

end Pagewright.Grammar
