/-
The names that get into a tree. A tree can be read from data exactly when each of its names is a name or a name with one line
end after it, and the same holds of a tree whose parts were checked one by one (`accepted_names_extent`). So the boundary
keeps out everything that delimits markup and script, but it is not exact: a line end at the end of a name gets through, in
every place where a name stands (`accepted_names_line_ends`).

`Admits` says of one reader which names it lets through. It is proved of a list from its items and of a record from its
members, so each kind of record has one lemma.
-/
import Pagewright.Proofs.App.Names
import Pagewright.Proofs.Check.Reading

namespace Pagewright

/-! ## One name -/

namespace Name

/-- a name, or a name and one line end -/
def Bounded (n : String) : Prop := isName n.toList = true ∨ ∃ m : String, isName m.toList = true ∧ n = m ++ "\n"

theorem isAccepted_iff_bounded {n : String} : isAccepted n.toList = true ↔ Bounded n := by
  simp only [isAccepted, Bounded, Bool.or_eq_true, Bool.and_eq_true, beq_iff_eq]
  refine or_congr_right ?_
  constructor
  · intro h
    obtain ⟨hlast, hname⟩ := h
    refine ⟨String.ofList n.toList.dropLast, by rwa [String.toList_ofList], ?_⟩
    rw [← String.toList_inj, String.toList_append, String.toList_ofList]
    exact (List.dropLast_append_getLast? _ hlast).symm
  · intro h
    obtain ⟨m, hname, rfl⟩ := h
    have hend : (m ++ "\n").toList = m.toList ++ ['\n'] := String.toList_append
    rw [hend, List.getLast?_concat, List.dropLast_concat]
    exact ⟨rfl, hname⟩

/-- a line end stands nowhere in a bounded name but at its end -/
theorem Bounded.not_mem_dropLast {n : String} (h : Bounded n) : '\n' ∉ n.toList.dropLast := by
  intro hmem
  have hend : isPart '\n' = false := by decide
  rcases h with hname | ⟨m, hname, rfl⟩
  · rw [isPart_of_isName hname (List.mem_of_mem_dropLast hmem)] at hend
    cases hend
  · have happend : (m ++ "\n").toList = m.toList ++ ['\n'] := String.toList_append
    rw [happend, List.dropLast_concat] at hmem
    rw [isPart_of_isName hname hmem] at hend
    cases hend

/-- nothing that delimits markup or script stands in a bounded name -/
theorem Bounded.not_mem_delimiters {n : String} (h : Bounded n) {c : Char} (hc : c ∈ n.toList) :
    c ∉ "\"'\\<>/()\x7b\x7d[],.;:=&".toList := by
  intro hdelimits
  have hchar := isChar_of_isAccepted (isAccepted_iff_bounded.2 h) hc
  rw [not_isChar_of_mem hdelimits] at hchar
  cases hchar

end Name

namespace Check

open Json (Value Members)
open Reading

/-! ## What readers let through -/

/-- a reader gives exactly the things whose names are all bounded -/
def Admits {α : Type} (read : Value → Reading α) (names : α → List String) : Prop :=
  ∀ a, (∃ v, read v = .ok a) ↔ ∀ n ∈ names a, Name.Bounded n

theorem name_iff_bounded {v : Value} {s : String} : name v = .ok s ↔ v = .text s ∧ Name.Bounded s := by
  rw [name_eq_ok, Name.isAccepted_iff_bounded]

theorem names_iff_bounded {v : Value} {ns : List String} :
    names v = .ok ns ↔ v = .array (ns.map .ofString) ∧ ∀ n ∈ ns, Name.Bounded n := by
  simp only [names_eq_ok, Name.isAccepted_iff_bounded]

theorem exists_forall₂_iff {α β : Type} {R : α → β → Prop} {bs : List β} :
    (∃ as, List.Forall₂ R as bs) ↔ ∀ b ∈ bs, ∃ a, R a b := by
  induction bs with
  | nil => simp
  | cons b bs ih =>
    simp only [List.forall_mem_cons, ih.symm, List.forall₂_cons_right_iff]
    constructor
    · intro h
      obtain ⟨_, a, as, ha, has, -⟩ := h
      exact ⟨⟨a, ha⟩, as, has⟩
    · intro h
      obtain ⟨⟨a, ha⟩, as, has⟩ := h
      exact ⟨a :: as, a, as, ha, has, rfl⟩

/-- a list can be read when each of its items can -/
theorem exists_array_iff {α : Type} {read : Value → Reading α} {as : List α} :
    (∃ v, array read v = .ok as) ↔ ∀ a ∈ as, ∃ v, read v = .ok a := by
  rw [← exists_forall₂_iff]
  simp [array_eq_ok]

theorem admits_array {α : Type} {read : Value → Reading α} {names : α → List String} (h : Admits read names) :
    Admits (array read) fun as => as.flatMap names := by
  intro as
  rw [exists_array_iff, List.forall_mem_flatMap]
  exact forall₂_congr fun a _ => h a

section

variable {key : String} {ms : Members}

theorem bounded_of_required {s : String} (h : required key name ms = .ok s) : Name.Bounded s := by
  obtain ⟨v, -, hv⟩ := required_eq_ok.1 h
  exact (name_iff_bounded.1 hv).2

/-- what holds of every list that is read, and of no items, holds of a list that may be absent -/
theorem optional_list {α : Type} {read : Value → Reading (List α)} {P : List α → Prop} (hnil : P [])
    (hread : ∀ v as, read v = .ok as → P as) {as : List α} (h : optional key [] read ms = .ok as) : P as := by
  rcases optional_eq_ok.1 h with ⟨-, rfl⟩ | ⟨v, -, hv⟩
  · exact hnil
  · exact hread v as hv

theorem bounded_of_names {ns : List String} (h : optional key [] names ms = .ok ns) : ∀ n ∈ ns, Name.Bounded n := by
  refine optional_list (P := fun ns => ∀ n ∈ ns, Name.Bounded n) ?_ ?_ h
  · simp
  · intro v ns hv
    exact (names_iff_bounded.1 hv).2

theorem bounded_of_array {α : Type} {read : Value → Reading α} {names : α → List String} (hread : Admits read names)
    {as : List α} (h : optional key [] (array read) ms = .ok as) : ∀ n ∈ as.flatMap names, Name.Bounded n := by
  refine optional_list (P := fun as => ∀ n ∈ as.flatMap names, Name.Bounded n) ?_ ?_ h
  · simp
  · intro v as hv
    exact (admits_array hread as).1 ⟨v, hv⟩

end

theorem admits_field : Admits field Field.names := by
  intro f
  simp only [Field.names, List.forall_mem_cons, List.not_mem_nil, false_imp_iff, implies_true, and_true]
  constructor
  · intro hread
    obtain ⟨v, hv⟩ := hread
    obtain ⟨ms, -, hname, htype, -⟩ := field_eq_ok.1 hv
    exact ⟨bounded_of_required hname, bounded_of_required htype⟩
  · intro hnames
    refine ⟨.object [("name", .text f.name), ("type", .text f.type), ("required", .bool f.required),
      ("default", .ofOption (f.default.map Literal.toValue))], field_eq_ok.2 ⟨_, rfl, ?_, ?_, rfl, ?_⟩⟩
    · exact required_eq_ok.2 ⟨_, rfl, name_iff_bounded.2 ⟨rfl, hnames.1⟩⟩
    · exact required_eq_ok.2 ⟨_, rfl, name_iff_bounded.2 ⟨rfl, hnames.2⟩⟩
    · exact optional_eq_ok.2 (Or.inr ⟨_, rfl, literal_toValue f.default⟩)

theorem admits_model : Admits model Model.names := by
  intro m
  simp only [Model.names, List.forall_mem_cons]
  constructor
  · intro hread
    obtain ⟨v, hv⟩ := hread
    obtain ⟨ms, -, hname, hfields⟩ := model_eq_ok.1 hv
    exact ⟨bounded_of_required hname, bounded_of_array admits_field hfields⟩
  · intro hnames
    obtain ⟨fields, hfields⟩ := (admits_array admits_field m.fields).2 hnames.2
    refine ⟨.object [("name", .text m.name), ("fields", fields)], model_eq_ok.2 ⟨_, rfl, ?_, ?_⟩⟩
    · exact required_eq_ok.2 ⟨_, rfl, name_iff_bounded.2 ⟨rfl, hnames.1⟩⟩
    · exact optional_eq_ok.2 (Or.inr ⟨_, rfl, hfields⟩)

theorem admits_binding (k : BindingKind) : Admits (binding k) Binding.names := by
  intro b
  simp only [Binding.names, List.forall_mem_cons]
  constructor
  · intro hread
    obtain ⟨v, hv⟩ := hread
    obtain ⟨ms, -, hname, hmodel, hfields⟩ := binding_eq_ok.1 hv
    exact ⟨bounded_of_required hname, bounded_of_required hmodel, bounded_of_names hfields⟩
  · intro hnames
    refine ⟨.object [("name", .text b.name), ("model", .text b.model), ("fields", .array (b.fields.map .ofString))],
      binding_eq_ok.2 ⟨_, rfl, ?_, ?_, ?_⟩⟩
    · exact required_eq_ok.2 ⟨_, rfl, name_iff_bounded.2 ⟨rfl, hnames.1⟩⟩
    · exact required_eq_ok.2 ⟨_, rfl, name_iff_bounded.2 ⟨rfl, hnames.2.1⟩⟩
    · exact optional_eq_ok.2 (Or.inr ⟨_, rfl, names_iff_bounded.2 ⟨rfl, hnames.2.2⟩⟩)

theorem admits_page : Admits page Page.names := by
  intro p
  simp only [Page.names, List.forall_mem_cons]
  constructor
  · intro hread
    obtain ⟨v, hv⟩ := hread
    obtain ⟨ms, -, hname, -, hcomponents⟩ := page_eq_ok.1 hv
    exact ⟨bounded_of_required hname, bounded_of_names hcomponents⟩
  · intro hnames
    refine ⟨.object [("name", .text p.name), ("title", .text p.title), ("components", .array (p.components.map .ofString))],
      page_eq_ok.2 ⟨_, rfl, ?_, rfl, ?_⟩⟩
    · exact required_eq_ok.2 ⟨_, rfl, name_iff_bounded.2 ⟨rfl, hnames.1⟩⟩
    · exact optional_eq_ok.2 (Or.inr ⟨_, rfl, names_iff_bounded.2 ⟨rfl, hnames.2⟩⟩)

/-- a tree can be read exactly when its names are bounded -/
theorem admits_app : Admits app App.names := by
  intro a
  simp only [App.names, List.flatMap_append, List.forall_mem_append]
  constructor
  · intro hread
    obtain ⟨v, hv⟩ := hread
    obtain ⟨ms, -, hmodels, hforms, hviews, hlists, hpages⟩ := app_eq_ok.1 hv
    exact ⟨⟨bounded_of_array admits_model hmodels, ⟨bounded_of_array (admits_binding _) hforms,
      bounded_of_array (admits_binding _) hlists⟩, bounded_of_array (admits_binding _) hviews⟩,
      bounded_of_array admits_page hpages⟩
  · intro hnames
    obtain ⟨⟨hmodels, ⟨hforms, hlists⟩, hviews⟩, hpages⟩ := hnames
    obtain ⟨models, hmodels⟩ := (admits_array admits_model _).2 hmodels
    obtain ⟨forms, hforms⟩ := (admits_array (admits_binding .form) _).2 hforms
    obtain ⟨views, hviews⟩ := (admits_array (admits_binding .view) _).2 hviews
    obtain ⟨lists, hlists⟩ := (admits_array (admits_binding .list) _).2 hlists
    obtain ⟨pages, hpages⟩ := (admits_array admits_page _).2 hpages
    refine ⟨.object [("models", models), ("forms", forms), ("views", views), ("lists", lists), ("pages", pages)],
      app_eq_ok.2 ⟨_, rfl, ?_, ?_, ?_, ?_, ?_⟩⟩
    · exact optional_eq_ok.2 (Or.inr ⟨_, rfl, hmodels⟩)
    · exact optional_eq_ok.2 (Or.inr ⟨_, rfl, hforms⟩)
    · exact optional_eq_ok.2 (Or.inr ⟨_, rfl, hviews⟩)
    · exact optional_eq_ok.2 (Or.inr ⟨_, rfl, hlists⟩)
    · exact optional_eq_ok.2 (Or.inr ⟨_, rfl, hpages⟩)

end Check

/-! ## Trees whose parts were checked one by one -/

def App.Passes (a : App) : Prop :=
  (∀ m ∈ a.models, m.issues = [] ∧ ∀ f ∈ m.fields, f.issues = []) ∧ (∀ b ∈ a.forms ++ a.lists ++ a.views, b.issues = []) ∧
    ∀ p ∈ a.pages, p.issues = []

theorem nameIssues_eq_nil_iff {key s : String} : nameIssues key s = [] ↔ Name.Bounded s := by
  rw [← Name.isAccepted_iff_bounded]
  unfold nameIssues Name.check
  by_cases h : Name.isAccepted s.toList = true
  · simp [h]
  · simp [h]

theorem namesIssues_eq_nil_iff {key : String} {names : List String} :
    namesIssues key names = [] ↔ ∀ n ∈ names, Name.Bounded n := by
  have hnone : namesIssues key names = [] ↔ names.find? (fun s => !Name.isAccepted s.toList) = none := by
    unfold namesIssues
    cases names.find? fun s => !Name.isAccepted s.toList <;> simp
  rw [hnone]
  simp [Name.isAccepted_iff_bounded]

theorem App.passes_iff (a : App) : a.Passes ↔ ∀ n ∈ a.names, Name.Bounded n := by
  simp only [App.Passes, App.names, Model.issues, Field.issues, Binding.issues, Page.issues, List.append_eq_nil_iff,
    nameIssues_eq_nil_iff, namesIssues_eq_nil_iff, Model.names, Field.names, Binding.names, Page.names,
    List.forall_mem_append, List.forall_mem_flatMap, List.forall_mem_cons]
  simp [and_assoc]

/-! ## The boundary -/

/-- **The names of a tree.** A tree can be read from data, or built of parts that each pass their check, exactly when every
name in it is a letter or an underscore followed by letters, digits and underscores, with at most one line end after the
last of them. So no name holds anything that delimits markup or script, and a line end at most as its last character. -/
theorem accepted_names_extent (a : App) :
    ((∃ v, Check.app v = .ok a) ↔ ∀ n ∈ a.names, Name.Bounded n) ∧ (a.Passes ↔ ∀ n ∈ a.names, Name.Bounded n) ∧
      ((∃ v, Check.app v = .ok a) ∨ a.Passes → ∀ n ∈ a.names,
        '\n' ∉ n.toList.dropLast ∧ ∀ c ∈ n.toList, c ∉ "\"'\\<>/()\x7b\x7d[],.;:=&".toList) := by
  have hread := Check.admits_app a
  have hpasses := a.passes_iff
  refine ⟨hread, hpasses, ?_⟩
  intro haccepted n hn
  have hbounded : Name.Bounded n := by
    rcases haccepted with h | h
    · exact hread.1 h n hn
    · exact hpasses.1 h n hn
  exact ⟨hbounded.not_mem_dropLast, fun c hc => hbounded.not_mem_delimiters hc⟩

/-- data with a line end after the name in each place where a name stands: of a model, a field and its type, a form, its
model and its field, a page and its component -/
def lineEndData : Json.Value :=
  .object [("models", .array [.object [("name", .text "A\n"),
      ("fields", .array [.object [("name", .text "x\n"), ("type", .text "t\n")]])]]),
    ("forms", .array [.object [("name", .text "F\n"), ("model", .text "A\n"), ("fields", .array [.text "x\n"])]]),
    ("pages", .array [.object [("name", .text "P\n"), ("title", .text ""), ("components", .array [.text "F\n"])]])]

/-- a tree is read whose names all end in a line end and are no names -/
theorem accepted_names_line_ends :
    ∃ a, Check.app lineEndData = .ok a ∧ a.names = ["A\n", "x\n", "t\n", "F\n", "A\n", "x\n", "P\n", "F\n"] ∧
      a.names.all (fun n => !Name.isName n.toList && n.toList.contains '\n') = true :=
  ⟨⟨[⟨"A\n", [⟨"x\n", "t\n", false, none⟩]⟩], [⟨"F\n", "A\n", ["x\n"]⟩], [], [], [⟨"P\n", "", ["F\n"]⟩]⟩, by rfl, by rfl,
    by decide⟩

end Pagewright
