/-
What the language can express. A tree without binary numbers is what some source declares exactly when its names are free,
its defaults are truth values, integers that are not negative and not too long, or texts, and neither a default nor a title
ends with a backslash (`exists_source_iff`).

A source for such a tree is its printed tokens with blanks between them (`readApp_source`). In the other direction every
part of a tree that was read has a declaration among the tokens (`Declared`), and what the tokens of a source can
express is known.
-/
import Pagewright.Proofs.Compile.Layout
import Pagewright.Proofs.Grammar.Printing

namespace Pagewright

open Pagewright.Grammar

/-! ## From a tree to a source -/

def App.source (a : App) : String := String.ofList (written a.tokens)

namespace Grammar

/-- what is read does not depend on the places of tokens -/
theorem app_eq_ok_of_words {o : Options} {ts us : List Token} {a : App} (h : (app o (Session.start ts)).1 = .ok a)
    (hwords : us.map Token.word = ts.map Token.word) : (app o (Session.start us)).1 = .ok a := by
  have hus := (app_layout o us).1
  rw [hwords, ← (app_layout o ts).1, h] at hus
  exact mapError_eq_ok.1 hus

/-- the tokens of an application are read as the application -/
theorem app_tokens {o : Options} (ho : o.strictTypes = false) {a : App} (h : a.Expressible) :
    (app o (Session.start (a.tokens ++ [⟨.finish, "", 0, 0⟩]))).1 = .ok a := by
  have hlexeme : ∀ t ∈ a.tokens, t.kind ≠ .finish ∧ t.Shaped := by
    intro t ht
    obtain ⟨hkind, hshaped⟩ := (isWritten_tokens h t ht []).shaped
    rw [String.ofList_toList] at hshaped
    exact ⟨hkind, hshaped t.line t.column⟩
  have hended : Ended (a.tokens ++ [⟨.finish, "", 0, 0⟩]) :=
    (ended_append_singleton _ _).2 ⟨rfl, fun t ht => (hlexeme t ht).1⟩
  have hshaped : ∀ t ∈ a.tokens ++ [⟨.finish, "", 0, 0⟩], t.Shaped := by
    intro t ht
    rcases List.mem_append.1 ht with ht | ht
    · exact (hlexeme t ht).2
    · rw [List.mem_singleton.1 ht]
      simp [Token.Shaped, Kind.isName]
  obtain ⟨body, e, ds, hbody, he, hstar, ha⟩ := reads_of_declares ho (declares_tokens h rfl) hshaped
  rw [(app_eq_ok o _ hended a _).2 ⟨body, e, [], ds, hbody, he, hstar, ha, rfl⟩]

end Grammar

/-- an application that can be expressed is what its source declares -/
theorem readApp_source {o : Options} (ho : o.strictTypes = false) (file : Option String) {a : App} (h : a.Expressible) :
    (readApp o file a.source).1 = .ok a := by
  obtain ⟨pieces, us, e, hus, hend, hempty, hwords⟩ := decomposes_written (isWritten_tokens h) []
  have hsource : a.source.toList = written a.tokens := String.toList_ofList
  rw [← hsource] at hus
  rw [readApp_eq_ok_iff]
  refine ⟨_, tokenize_of_decomposes hus, app_eq_ok_of_words (app_tokens ho h) ?_⟩
  have hlast : e.word = (.finish, "") := Prod.ext hend hempty
  rw [List.map_append, List.map_append, List.map_singleton, hlast]
  exact congrArg (· ++ [(Kind.finish, "")]) hwords

/-! ## From a source to a tree -/

namespace Grammar

variable {ts : List Token}

/-- a default of a token that the language can express -/
theorem expressible_of_isLiteral {t : Token} {l : Literal} (h : IsLiteral t l) (hshaped : t.Shaped) (ht : t.Expressed)
    (hfloat : ∀ x, l ≠ .float x) : l.Expressible := by
  cases h with
  | text hk => exact ht.2 hk
  | integer hk hpoint hlimit =>
    have hnumeral := hshaped.2 hk
    obtain ⟨c, r, hcons, -⟩ := hnumeral.exists_cons
    have hlength := Number.length_toDigits_digitsValue (by simp [hcons]) (hnumeral.digits hpoint)
    exact ⟨Int.natCast_nonneg _, hlength.trans hlimit⟩
  | decimal => exact absurd rfl (hfloat _)
  | true => trivial
  | false => trivial

theorem FieldDecl.isFree {f : Field} (h : FieldDecl ts f) (hts : ∀ t ∈ ts, t.Expressed) :
    ∀ s ∈ f.names, Name.IsFree s := by
  obtain ⟨-, hn, -, ht, -, -⟩ := h
  simp only [List.forall_mem_cons] at hts
  obtain ⟨-, hname, -, htype, -⟩ := hts
  simp only [Field.names, List.forall_mem_cons]
  exact ⟨hname.1 hn, htype.1 ht, by simp⟩

theorem ModelDecl.isFree {m : Model} (h : ModelDecl ts m) (hts : ∀ t ∈ ts, t.Expressed) :
    ∀ s ∈ m.names, Name.IsFree s := by
  obtain ⟨-, hn, -, hfields, -⟩ := h
  simp only [List.forall_mem_cons, List.forall_mem_append] at hts
  obtain ⟨-, hname, -, hbody, -⟩ := hts
  simp only [Model.names, List.forall_mem_cons, List.forall_mem_flatMap]
  refine ⟨hname.1 hn, ?_⟩
  intro f hf
  obtain ⟨us, hus, hdecl⟩ := hfields.exists_fieldDecl f hf
  exact hdecl.isFree fun t ht => hbody t (hus t ht)

theorem MoreNames.isFree {ns : List String} (h : MoreNames ts ns) (hts : ∀ t ∈ ts, t.Expressed) :
    ∀ s ∈ ns, Name.IsFree s := by
  induction h with
  | nil => simp
  | cons _ hn _ ih =>
    simp only [List.forall_mem_cons] at hts ⊢
    exact ⟨hts.2.1.1 hn, ih hts.2.2⟩

theorem Names.isFree {ns : List String} (h : Names ts ns) (hts : ∀ t ∈ ts, t.Expressed) : ∀ s ∈ ns, Name.IsFree s := by
  cases h with
  | none => simp
  | some hn h =>
    simp only [List.forall_mem_cons] at hts ⊢
    exact ⟨hts.1.1 hn, h.isFree hts.2⟩

theorem BindingDecl.isFree {kind : BindingKind} {b : Binding} (h : BindingDecl kind ts b) (hts : ∀ t ∈ ts, t.Expressed) :
    ∀ s ∈ b.names, Name.IsFree s := by
  obtain ⟨-, hn, -, hm, -, -, hns, -⟩ := h
  simp only [List.forall_mem_cons, List.forall_mem_append] at hts
  obtain ⟨-, hname, -, hmodel, -, -, hfields, -⟩ := hts
  simp only [Binding.names, List.forall_mem_cons]
  exact ⟨hname.1 hn, hmodel.1 hm, hns.isFree hfields⟩

theorem PageDecl.isFree {p : Page} (h : PageDecl ts p) (hts : ∀ t ∈ ts, t.Expressed) :
    (∀ s ∈ p.names, Name.IsFree s) ∧ p.title.toList.getLast? ≠ some '\\' := by
  obtain ⟨-, hn, -, ht, -, -, hns, -⟩ := h
  simp only [List.forall_mem_cons, List.forall_mem_append] at hts
  obtain ⟨-, hname, -, htitle, -, -, hcomponents, -⟩ := hts
  simp only [Page.names, List.forall_mem_cons]
  exact ⟨⟨hname.1 hn, hns.isFree hcomponents⟩, htitle.2 ht⟩

end Grammar

/-- no default is a binary number -/
def App.WithoutFloats (a : App) : Prop := ∀ m ∈ a.models, ∀ f ∈ m.fields, ∀ x, f.default ≠ some (.float x)

/-- what is declared in tokens that the language can express has free names -/
theorem App.isFree_of_declared {a : App} (h : Declared (fun t => t.Shaped ∧ t.Expressed) a) :
    ∀ s ∈ a.names, Name.IsFree s := by
  intro s hs
  simp only [App.names, List.mem_append, List.mem_flatMap] at hs
  rcases hs with (⟨m, hm, hs⟩ | ⟨b, hb, hs⟩) | ⟨p, hp, hs⟩
  · obtain ⟨us, hus, hdecl⟩ := h.models m hm
    exact hdecl.isFree (fun t ht => (hus t ht).2) s hs
  · obtain ⟨k, hk⟩ : ∃ k, b ∈ a.bindings k := by
      rcases hb with (hb | hb) | hb
      · exact ⟨.form, hb⟩
      · exact ⟨.list, hb⟩
      · exact ⟨.view, hb⟩
    obtain ⟨us, hus, hdecl⟩ := h.bindings k b hk
    exact hdecl.isFree (fun t ht => (hus t ht).2) s hs
  · obtain ⟨us, hus, hdecl⟩ := h.pages p hp
    exact (hdecl.isFree fun t ht => (hus t ht).2).1 s hs

/-- what is declared in tokens that the language can express can be expressed -/
theorem App.expressible_of_declared {a : App} (h : Declared (fun t => t.Shaped ∧ t.Expressed) a)
    (hfloat : a.WithoutFloats) : a.Expressible := by
  refine ⟨App.isFree_of_declared h, ?_, ?_⟩
  · intro m hm f hf l hl
    obtain ⟨us, hus, hdecl⟩ := h.models m hm
    obtain ⟨t, ht, hliteral⟩ := hdecl.exists_isLiteral hf hl
    refine expressible_of_isLiteral hliteral (hus t ht).1 (hus t ht).2 ?_
    intro x hx
    exact hfloat m hm f hf x (by rw [hl, hx])
  · intro p hp
    obtain ⟨us, hus, hdecl⟩ := h.pages p hp
    exact (hdecl.isFree fun t ht => (hus t ht).2).2

/-- every part of what a source declares has a declaration in it -/
theorem App.declared_of_readApp {o : Options} {file : Option String} {source : String} {a : App}
    (h : (readApp o file source).1 = .ok a) : Declared (fun t => t.Shaped ∧ t.Expressed) a := by
  obtain ⟨ts, htokens, happ⟩ := (readApp_eq_ok_iff o file a).1 h
  obtain ⟨pieces, last, hdecomposes⟩ := exists_decomposes htokens
  have hlexed : Lexed ts := ended_shaped_of_decomposes hdecomposes
  exact declared_of_app hlexed happ fun t ht => ⟨hlexed.2 t ht, hdecomposes.expressed t ht⟩

/-- what a source declares can be expressed -/
theorem App.expressible_of_readApp {o : Options} {file : Option String} {source : String}
    {a : App} (h : (readApp o file source).1 = .ok a) (hfloat : a.WithoutFloats) : a.Expressible :=
  App.expressible_of_declared (App.declared_of_readApp h) hfloat

/-- **What the language can express.** A tree without binary numbers as defaults is what some source declares, under the
standard options, exactly when each of its names is a name and none of the six words that start declarations, each default
is a truth value, an integer that is not negative and has at most 4300 digits, or a text, and no default and no title of a
page ends with a backslash. -/
theorem exists_source_iff (file : Option String) (a : App) (hfloat : a.WithoutFloats) :
    (∃ source, (readApp .standard file source).1 = .ok a) ↔ a.Expressible := by
  constructor
  · intro h
    obtain ⟨source, hread⟩ := h
    exact App.expressible_of_readApp hread hfloat
  · intro h
    exact ⟨a.source, readApp_source rfl file h⟩

/-- quotes, runs of backslashes and a line end in texts, an unknown type, and the word for a literal as a name -/
def App.hardTexts : App :=
  ⟨[⟨"true", [⟨"date", "required", true, some (.text "a\\\"\\\\\"\n")⟩, ⟨"_", "text", false, some (.int 0)⟩]⟩],
    [⟨"F", "nothing", ["default", "date"]⟩], [], [], [⟨"P", "\"\\\"", ["F", "F"]⟩]⟩

theorem exists_source_hardTexts :
    App.hardTexts.WithoutFloats ∧ App.hardTexts.Expressible ∧
      ∃ source, (readApp .standard none source).1 = .ok App.hardTexts := by
  have hfloat : App.hardTexts.WithoutFloats := by simp [App.WithoutFloats, App.hardTexts]
  have hexpressible : App.hardTexts.Expressible := by
    refine ⟨by decide +kernel, ?_, by decide +kernel⟩
    simp only [App.hardTexts, List.forall_mem_singleton, List.forall_mem_cons, Option.some.injEq]
    refine ⟨?_, ?_⟩
    · intro l hl
      subst hl
      decide +kernel
    · intro l hl
      subst hl
      decide +kernel
  exact ⟨hfloat, hexpressible, (exists_source_iff none _ hfloat).2 hexpressible⟩

end Pagewright
