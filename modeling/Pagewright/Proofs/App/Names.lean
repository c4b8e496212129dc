/-
The names of a tree, in all the places where one stands, and the characters they are made of. A name that passes the check
is a name with at most one line end after it (`Name.isAccepted`), so its characters are letters, digits, underscores
and line ends: nothing that delimits anything in markup or script.
-/
import Mathlib.Tactic
import Pagewright.Proofs.App.FreeText
import Pagewright.Proofs.Reference

namespace Pagewright

/-! ## Names in a tree -/

def Field.names (f : Field) : List String := [f.name, f.type]

def Model.names (m : Model) : List String := m.name :: m.fields.flatMap Field.names

/-- the names in a form, list or view -/
def Binding.names (b : Binding) : List String := b.name :: b.model :: b.fields

def Page.names (p : Page) : List String := p.name :: p.components

def App.names (a : App) : List String :=
  a.models.flatMap Model.names ++ (a.forms ++ a.lists ++ a.views).flatMap Binding.names ++ a.pages.flatMap Page.names

namespace App

theorem mem_names_of_model {a : App} {m : Model} (hm : m ∈ a.models) {n : String} (hn : n ∈ m.names) : n ∈ a.names := by
  simp only [names, List.mem_append, List.mem_flatMap]
  exact Or.inl (Or.inl ⟨m, hm, hn⟩)

theorem mem_names_of_binding {a : App} {k : BindingKind} {b : Binding} (hb : b ∈ a.bindings k) {n : String}
    (hn : n ∈ b.names) : n ∈ a.names := by
  have hall : b ∈ a.forms ++ a.lists ++ a.views := by
    cases k with
    | form => exact List.mem_append_left _ (List.mem_append_left _ hb)
    | list => exact List.mem_append_left _ (List.mem_append_right _ hb)
    | view => exact List.mem_append_right _ hb
  simp only [names, List.mem_append, List.mem_flatMap] at hall ⊢
  exact Or.inl (Or.inr ⟨b, hall, hn⟩)

theorem mem_names_of_page {a : App} {p : Page} (hp : p ∈ a.pages) {n : String} (hn : n ∈ p.names) : n ∈ a.names := by
  simp only [names, List.mem_append, List.mem_flatMap]
  exact Or.inr ⟨p, hp, hn⟩

/-- what shows the records of a model is a binding -/
theorem exists_mem_bindings_of_mem_displaysOf {a : App} {model : String} {c : Component} (hc : c ∈ a.displaysOf model) :
    ∃ k, c.binding ∈ a.bindings k := by
  have hmem := (List.mem_filter.1 hc).1
  rcases List.mem_append.1 hmem with hmem | hmem
  · obtain ⟨b, hb, rfl⟩ := List.mem_map.1 hmem
    exact ⟨.list, hb⟩
  · obtain ⟨b, hb, rfl⟩ := List.mem_map.1 hmem
    exact ⟨.view, hb⟩

/-- the models that a name can lead to are declared -/
theorem mem_models_of_mem_distinctModels {a : App} {m : Model} (hm : m ∈ a.distinctModels) : m ∈ a.models := by
  have hfirst : ∀ (ms : List Model) (seen : List String), m ∈ firstOfEachName seen ms → m ∈ ms := by
    intro ms
    induction ms with
    | nil => exact fun _ h => h
    | cons n ms ih =>
      intro seen h
      rw [firstOfEachName] at h
      split at h
      · exact List.mem_cons_of_mem _ (ih _ h)
      · rcases List.mem_cons.1 h with rfl | h
        · exact List.mem_cons_self ..
        · exact List.mem_cons_of_mem _ (ih _ h)
  exact hfirst _ _ hm

/-- every declared model has the name of one that a name can lead to -/
theorem exists_mem_distinctModels {a : App} {m : Model} (hm : m ∈ a.models) : ∃ k ∈ a.distinctModels, k.name = m.name := by
  have hfirst : ∀ (ms : List Model) (seen : List String), m ∈ ms → m.name ∉ seen →
      ∃ k ∈ firstOfEachName seen ms, k.name = m.name := by
    intro ms
    induction ms with
    | nil => exact fun _ h => nomatch h
    | cons n ms ih =>
      intro seen h hseen
      rw [firstOfEachName]
      split
      · next hn =>
        rcases List.mem_cons.1 h with rfl | h
        · exact absurd (List.contains_iff_mem.1 hn) hseen
        · exact ih seen h hseen
      · by_cases hname : n.name = m.name
        · exact ⟨n, List.mem_cons_self .., hname⟩
        · rcases List.mem_cons.1 h with rfl | h
          · exact absurd rfl hname
          · have hnew : m.name ∉ n.name :: seen := by simp [Ne.symm hname, hseen]
            obtain ⟨k, hk, hkm⟩ := ih (n.name :: seen) h hnew
            exact ⟨k, List.mem_cons_of_mem _ hk, hkm⟩
  exact hfirst _ _ hm (List.not_mem_nil)

/-- a name leads to one model -/
theorem nodup_names_distinctModels (a : App) : (a.distinctModels.map Model.name).Nodup := by
  have hfirst : ∀ (ms : List Model) (seen : List String), ((firstOfEachName seen ms).map Model.name).Nodup ∧
      ∀ m ∈ firstOfEachName seen ms, m.name ∉ seen := by
    intro ms
    induction ms with
    | nil => exact fun _ => ⟨List.nodup_nil, List.forall_mem_nil _⟩
    | cons n ms ih =>
      intro seen
      rw [firstOfEachName]
      split
      · exact ih seen
      · next hn =>
        obtain ⟨hnodup, hnew⟩ := ih (n.name :: seen)
        refine ⟨List.nodup_cons.2 ⟨fun hmem => ?_, hnodup⟩, List.forall_mem_cons.2 ⟨?_, fun m hm hseen => ?_⟩⟩
        · obtain ⟨m, hm, hmn⟩ := List.mem_map.1 hmem
          exact hnew m hm (hmn ▸ List.mem_cons_self ..)
        · exact mt List.contains_iff_mem.2 hn
        · exact hnew m hm (List.mem_cons_of_mem _ hseen)
  exact (hfirst a.models []).1

/-- what a name on a page means has that name -/
theorem component?_name {a : App} {name : String} {c : Component} (h : a.component? name = some c) :
    c.binding.name = name := by
  have hkind : ∀ k, a.componentOf? k name = some c → c.binding.name = name := by
    intro k hk
    obtain ⟨b, hb, rfl⟩ := Option.map_eq_some_iff.1 hk
    simpa using List.find?_some hb
  simp only [component?, Option.orElse_eq_orElse, Option.orElse_eq_or, Option.or_eq_some_iff] at h
  rcases h with h | ⟨-, h | ⟨-, h⟩⟩
  all_goals exact hkind _ h

/-- what a name leads to in its model is a field of that name -/
theorem name_of_resolveField {o : Options} {c : Component} {m : Model} {n : String} {f : Field}
    (h : resolveField o c m n = .ok f) : f.name = n := by
  unfold resolveField at h
  cases hf : m.field? n with
  | some g =>
    rw [hf] at h
    have hg : g.name = n := by simpa using List.find?_some hf
    simp only [Except.ok.injEq] at h
    rw [← h, hg]
  | none =>
    rw [hf] at h
    simp only at h
    split at h
    · cases h
    · cases h
      rfl

theorem names_of_resolveNames {o : Options} {c : Component} {m : Model} {ns : List String} {fs : List Field}
    (h : resolveNames o c m ns = .ok fs) : fs.map Field.name = ns := by
  induction ns generalizing fs with
  | nil =>
    cases h
    rfl
  | cons n ns ih =>
    simp only [resolveNames] at h
    cases hf : resolveField o c m n with
    | error e => simp [hf, bind, Except.bind] at h
    | ok f =>
      cases hfs : resolveNames o c m ns with
      | error e => simp [hf, hfs, bind, Except.bind] at h
      | ok gs =>
        have hlist : f :: gs = fs := by simpa [hf, hfs, bind, Except.bind, pure, Except.pure] using h
        rw [← hlist, List.map_cons, name_of_resolveField hf, ih hfs]

/-- the fields a declared binding shows have names of the tree -/
theorem name_mem_of_lookupFields {a : App} {o : Options} {c : Component} (hc : c.binding ∈ a.bindings c.kind)
    {fs : List Field} (h : a.lookupFields o c = .ok fs) {f : Field} (hf : f ∈ fs) : f.name ∈ a.names := by
  unfold lookupFields lookupModel at h
  cases hm : a.model? c.binding.model with
  | none => simp [hm, bind, Except.bind] at h
  | some m =>
    have hmem : m ∈ a.models := List.mem_of_find?_eq_some hm
    simp only [hm, bind, Except.bind] at h
    split at h
    · cases h
      refine mem_names_of_model hmem ?_
      exact List.mem_cons_of_mem _ (List.mem_flatMap.2 ⟨f, hf, by simp [Field.names]⟩)
    · have hname : f.name ∈ c.binding.fields := by
        rw [← names_of_resolveNames h]
        exact List.mem_map_of_mem hf
      exact mem_names_of_binding hc (List.mem_cons_of_mem _ (List.mem_cons_of_mem _ hname))

/-- the model of a binding whose fields are looked up is declared -/
theorem exists_model_of_lookupFields {a : App} {o : Options} {c : Component} {fs : List Field}
    (h : a.lookupFields o c = .ok fs) : ∃ m ∈ a.models, m.name = c.binding.model := by
  unfold lookupFields lookupModel at h
  cases hm : a.model? c.binding.model with
  | none => simp [hm, bind, Except.bind] at h
  | some m => exact ⟨m, List.mem_of_find?_eq_some hm, by simpa using List.find?_some hm⟩

end App

/-! ## Characters of names -/

namespace Name

/-- the characters of a name that passes the check -/
def isChar (c : Char) : Bool := isPart c || c = '\n'

theorem isPart_of_isStart {c : Char} (h : isStart c = true) : isPart c = true := by
  simp only [isStart, isPart, Char.isAlphanum, Bool.or_eq_true] at h ⊢
  exact h.imp_left Or.inl

theorem isPart_of_isName {s : List Char} (h : isName s = true) {c : Char} (hc : c ∈ s) : isPart c = true := by
  cases s with
  | nil => cases hc
  | cons d r =>
    simp only [isName, Bool.and_eq_true, List.all_eq_true] at h
    rcases List.mem_cons.1 hc with rfl | hc
    · exact isPart_of_isStart h.1
    · exact h.2 c hc

theorem ne_nil_of_isName {s : List Char} (h : isName s = true) : s ≠ [] := by
  rintro rfl
  cases h

theorem isChar_of_isAccepted {s : List Char} (h : isAccepted s = true) {c : Char} (hc : c ∈ s) : isChar c = true := by
  simp only [isAccepted, Bool.or_eq_true, Bool.and_eq_true, beq_iff_eq] at h
  rcases h with h | ⟨hlast, h⟩
  · simp [isChar, isPart_of_isName h hc]
  · rw [← List.dropLast_append_getLast? _ hlast, List.mem_append, List.mem_singleton] at hc
    rcases hc with hc | rfl
    · simp [isChar, isPart_of_isName h hc]
    · rfl

theorem ne_nil_of_isAccepted {s : List Char} (h : isAccepted s = true) : s ≠ [] := by
  rintro rfl
  cases h

theorem toNat_lt_of_isChar {c : Char} (h : isChar c = true) : c.toNat < 0x80 := by
  have hupper : c.isUpper = decide (c.val ≥ 'A'.val ∧ c.val ≤ 'Z'.val) := rfl
  have hlower : c.isLower = (decide (c.val ≥ 'a'.val) && decide (c.val ≤ 'z'.val)) := rfl
  have halpha : c.isAlpha = (c.isUpper || c.isLower) := rfl
  simp only [isChar, isPart, Char.isAlphanum, halpha, hupper, hlower, Char.isDigit, Bool.or_eq_true, Bool.and_eq_true,
    decide_eq_true_eq, ge_iff_le, UInt32.le_iff_toNat_le] at h
  show c.val.toNat < _
  rcases h with ((((⟨-, h⟩ | ⟨-, h⟩) | ⟨-, h⟩) | rfl) | rfl)
  · exact lt_of_le_of_lt h (by decide)
  · exact lt_of_le_of_lt h (by decide)
  · exact lt_of_le_of_lt h (by decide)
  · decide
  · decide

theorem isChar_toUpper {c : Char} (h : isChar c = true) : isChar c.toUpper = true := by
  have hall : ∀ n < 0x80, isChar (Char.ofNat n) = true → isChar (Char.ofNat n).toUpper = true := by decide
  have hc := hall c.toNat (toNat_lt_of_isChar h)
  rw [Char.ofNat_toNat] at hc
  exact hc h

/-- a name with its first letter in upper case has characters of names -/
theorem isChar_of_mem_capitalised {n : String} (h : isAccepted n.toList = true) {c : Char}
    (hc : c ∈ (Text.capitalised n).toList) : isChar c = true := by
  have hchars : ∀ d ∈ n.toList, isChar d = true := fun d hd => isChar_of_isAccepted h hd
  unfold Text.capitalised at hc
  cases hn : n.toList with
  | nil => exact absurd hn (ne_nil_of_isAccepted h)
  | cons d r =>
    rw [hn] at hchars
    have hd := hchars d (List.mem_cons_self ..)
    simp only [hn, String.toList_ofList, Text.upperChar, toNat_lt_of_isChar hd, if_true, List.mem_append,
      List.mem_singleton] at hc
    rcases hc with rfl | hc
    · exact isChar_toUpper hd
    · exact hchars c (List.mem_cons_of_mem _ hc)

/-- no character of a name is one that delimits something -/
theorem not_isChar_of_mem {c : Char} (h : c ∈ "\"'\\<>/(){}[],.;:=&".toList) : isChar c = false := by
  have hall : "\"'\\<>/(){}[],.;:=&".toList.all (fun d => !isChar d) = true := by decide
  simpa using List.all_eq_true.1 hall c h

end Name

end Pagewright
