/-
Where a script can hold the start of a markup comment. A reader of markup that meets `<!--` in a script element, and
`<script` after it, passes over the closing tag that the document writes. Titles and the texts of the page reach a script
escaped, and names have no angle bracket, so there is one way left: a default that is a text is written as it is, apart from
closing tags. A script therefore holds `<!--` exactly if such a default does (`commentStart_script_iff`).

A line end, a quote and the marks around literals are no part of `<!--`, so it stands within one line and within one literal.
-/
import Pagewright.Proofs.Artifact.Closing

namespace Pagewright

open Text Html

/-! ## Occurrences -/

def commentStart : List Char := ['<', '!', '-', '-']

section

variable {mark u v : List Char} {d : Char}

theorem prefix_append_cons_iff (hd : d ∉ mark) : mark <+: u ++ d :: v ↔ mark <+: u := by
  induction u generalizing mark with
  | nil =>
    cases mark with
    | nil => simp
    | cons m mark =>
      have hne : m ≠ d := fun h => hd (h ▸ List.mem_cons_self ..)
      simp [List.cons_prefix_cons, hne]
  | cons c u ih =>
    cases mark with
    | nil => simp
    | cons m mark =>
      rw [List.cons_append, List.cons_prefix_cons, List.cons_prefix_cons, ih (mt (List.mem_cons_of_mem m) hd)]

/-- a character that the mark has not separates the places where it may stand -/
theorem infix_append_cons_iff (hd : d ∉ mark) : mark <:+: u ++ d :: v ↔ mark <:+: u ∨ mark <:+: v := by
  induction u with
  | nil =>
    have hhere := prefix_append_cons_iff (u := []) (v := v) hd
    rw [List.nil_append] at hhere ⊢
    rw [List.infix_cons_iff, hhere, List.prefix_nil, List.infix_nil]
  | cons c u ih =>
    have hhere := prefix_append_cons_iff (u := c :: u) (v := v) hd
    rw [List.cons_append] at hhere ⊢
    rw [List.infix_cons_iff, hhere, ih, ← or_assoc, ← List.infix_cons_iff]

/-- text without the first character of the mark comes before every place of it -/
theorem infix_append_iff_of_not_mem {m : Char} (hm : mark.head? = some m) (hu : m ∉ u) : mark <:+: u ++ v ↔ mark <:+: v := by
  obtain ⟨ms, rfl⟩ := List.head?_eq_some_iff.1 hm
  induction u with
  | nil => rfl
  | cons c u ih =>
    obtain ⟨hc, hu⟩ := not_or.1 (mt List.mem_cons.2 hu)
    rw [List.cons_append, List.infix_cons_iff, ih hu, List.cons_prefix_cons]
    exact or_iff_right fun h => hc h.1

end

def Unmarked (s : String) : Prop := ¬ commentStart <:+: s.toList

/-- text without an angle bracket -/
def Bare (s : String) : Prop := '<' ∉ s.toList

theorem bare_append {s t : String} : Bare (s ++ t) ↔ Bare s ∧ Bare t := by
  simp [Bare]

theorem bare_ofList {l : List Char} (h : '<' ∉ l) : Bare (String.ofList l) := by
  unfold Bare
  rwa [String.toList_ofList]

theorem Plain.bare {s : String} (h : Plain s) : Bare s := fun hs => (h _ hs).1 rfl

theorem Bare.unmarked_append {s t : String} (hs : Bare s) : Unmarked (s ++ t) ↔ Unmarked t := by
  unfold Unmarked
  rw [String.toList_append, infix_append_iff_of_not_mem rfl hs]

theorem Bare.unmarked {s : String} (hs : Bare s) : Unmarked s := fun h => hs (h.subset (by decide))

/-- bare text that starts with a character outside the mark may follow anything -/
theorem unmarked_append_bare {s : String} {d : Char} {r : List Char} (hd : d ∉ commentStart) (hr : '<' ∉ r) :
    Unmarked (s ++ String.ofList (d :: r)) ↔ Unmarked s := by
  have hrest : ¬ commentStart <:+: r := fun h => hr (h.subset (by decide))
  unfold Unmarked
  rw [String.toList_append, String.toList_ofList, infix_append_cons_iff hd, or_iff_left hrest]

/-! ## Layout -/

theorem unmarked_line_end {s t : String} : Unmarked (s ++ "\n" ++ t) ↔ Unmarked s ∧ Unmarked t := by
  have htext : (s ++ "\n" ++ t).toList = s.toList ++ '\n' :: t.toList := by
    rw [String.append_assoc, String.toList_append, String.toList_append]
    rfl
  unfold Unmarked
  rw [htext, infix_append_cons_iff (by decide), not_or]

theorem stackable_unmarked : Stackable Unmarked where
  empty := by unfold Unmarked; decide
  stack hs ht := unmarked_line_end.2 ⟨hs, ht⟩
  columns := (bare_ofList (by decide)).unmarked_append

theorem stackable_bare : Stackable Bare where
  empty := by unfold Bare; decide
  stack hs ht := bare_append.2 ⟨bare_append.2 ⟨hs, bare_ofList (by decide)⟩, ht⟩
  columns := bare_append.trans (and_iff_right (bare_ofList (by decide)))

theorem unmarked_unlines {ls : Lines} : Unmarked (unlines ls) ↔ Every Unmarked ls := by
  refine ⟨fun h => ?_, stackable_unmarked.unlines⟩
  unfold Text.unlines at h
  induction ls with
  | nil => exact every_nil
  | cons l ls ih =>
    cases ls with
    | nil => exact every_cons.2 ⟨by simpa using h, every_nil⟩
    | cons m ms =>
      rw [String.intercalate_cons_cons] at h
      obtain ⟨hl, hrest⟩ := unmarked_line_end.1 h
      exact every_cons.2 ⟨hl, ih hrest⟩

theorem unmarked_sections {ss : List String} : Unmarked ("\n\n".intercalate ss ++ "\n") ↔ Every Unmarked ss := by
  refine ⟨fun h => ?_, stackable_unmarked.sections⟩
  replace h : Unmarked ("\n\n".intercalate ss) := (unmarked_append_bare (by decide) (by decide)).1 h
  induction ss with
  | nil => exact every_nil
  | cons s ss ih =>
    cases ss with
    | nil => exact every_cons.2 ⟨by simpa using h, every_nil⟩
    | cons t ts =>
      have hblank : "\n\n" = "\n" ++ "\n" := by decide
      have hbreak : ∀ rest : String, s ++ "\n\n" ++ rest = s ++ "\n" ++ ("" ++ "\n" ++ rest) := by
        intro rest
        rw [hblank]
        simp only [String.append_assoc, String.empty_append]
      rw [String.intercalate_cons_cons, hbreak] at h
      obtain ⟨hs, hrest⟩ := unmarked_line_end.1 h
      exact every_cons.2 ⟨hs, ih (unmarked_line_end.1 hrest).2⟩

theorem unmarked_commaSeparated {ls : Lines} : Every Unmarked (commaSeparated ls) ↔ Every Unmarked ls := by
  have hcomma : ∀ l, Unmarked (l ++ ",") ↔ Unmarked l := fun l => unmarked_append_bare (by decide) (by decide)
  induction ls with
  | nil => rfl
  | cons l ls ih =>
    cases ls with
    | nil => rfl
    | cons m ms => exact every_cons.trans ((and_congr (hcomma l) ih).trans every_cons.symm)

/-! ## Literals -/

/-- a character of a literal is written as it is, or it is none of the mark and escaped -/
theorem literalUnit_cases (afterAngle : Bool) (c : Char) :
    literalUnit afterAngle c = [c] ∨
      (c ∉ commentStart ∧ '<' ∉ literalUnit afterAngle c ∧ ∃ r, literalUnit afterAngle c = '\\' :: r) := by
  unfold literalUnit
  split_ifs with hslash
  · simp only [Bool.and_eq_true, decide_eq_true_eq] at hslash
    obtain ⟨-, rfl⟩ := hslash
    exact Or.inr ⟨by decide, by decide, _, rfl⟩
  · rcases Json.encodeChar_cases c with ⟨h, -, -⟩ | ⟨hescapes, r, hr⟩
    · exact Or.inl h
    · refine Or.inr ⟨fun hc => ?_, hescapes.not_angle, r, hr⟩
      have hplain : (commentStart.all fun d => Json.encodeChar d == [d]) = true := by decide
      rw [eq_of_beq (List.all_eq_true.1 hplain c hc)] at hr
      obtain ⟨rfl, -⟩ := List.cons.inj hr
      exact absurd hc (by decide)

/-- characters of the mark stand at the start of a literal exactly if they stand at the start of its text -/
theorem prefix_literalBody {w s : List Char} {afterAngle : Bool} (hw : w ⊆ commentStart) :
    w <+: literalBody afterAngle s ↔ w <+: s := by
  induction s generalizing w afterAngle with
  | nil => rfl
  | cons c s ih =>
    cases w with
    | nil => simp
    | cons x w =>
      obtain ⟨hx, hw⟩ := List.cons_subset.1 hw
      rw [literalBody]
      rcases literalUnit_cases afterAngle c with h | ⟨hc, -, r, h⟩
      · rw [h, List.singleton_append, List.cons_prefix_cons, List.cons_prefix_cons, ih hw]
      · rw [h, List.cons_append, List.cons_prefix_cons, List.cons_prefix_cons]
        refine iff_of_false (fun h => ?_) fun h => hc (h.1 ▸ hx)
        exact absurd (h.1 ▸ hx) (by decide)

theorem infix_literalBody {s : List Char} {afterAngle : Bool} :
    commentStart <:+: literalBody afterAngle s ↔ commentStart <:+: s := by
  induction s generalizing afterAngle with
  | nil => rfl
  | cons c s ih =>
    rw [literalBody]
    rcases literalUnit_cases afterAngle c with h | ⟨hc, hangle, -⟩
    · rw [h, List.singleton_append, List.infix_cons_iff, List.infix_cons_iff, ih]
      have hhere : commentStart <+: c :: literalBody (c = '<') s ↔ commentStart <+: c :: s := by
        rw [show commentStart = '<' :: ['!', '-', '-'] from rfl, List.cons_prefix_cons, List.cons_prefix_cons,
          prefix_literalBody (by decide)]
      rw [hhere]
    · have hbare : '<' ∉ [c] := fun hm => hc (List.mem_singleton.1 hm ▸ by decide)
      rw [infix_append_iff_of_not_mem rfl hangle, ih, ← List.singleton_append, infix_append_iff_of_not_mem rfl hbare]

/-- a text literal holds the start of a comment exactly if its text does -/
theorem unmarked_scriptText {t : String} : Unmarked (scriptText t) ↔ Unmarked t := by
  have hquote : '<' ∉ ['"'] := by decide
  unfold Unmarked
  rw [toList_scriptText, ← List.singleton_append, infix_append_iff_of_not_mem rfl hquote,
    infix_append_cons_iff (by decide), infix_literalBody, or_iff_left (by decide)]

theorem bare_scriptText {t : String} (h : Bare t) : Bare (scriptText t) := by
  have hbody : ∀ (s : List Char) (b : Bool), '<' ∉ s → '<' ∉ literalBody b s := by
    intro s
    induction s with
    | nil => exact fun _ _ => List.not_mem_nil
    | cons c s ih =>
      intro b hs
      obtain ⟨hc, hs⟩ := not_or.1 (mt List.mem_cons.2 hs)
      rw [literalBody, List.mem_append, not_or]
      refine ⟨?_, ih _ hs⟩
      rcases literalUnit_cases b c with hunit | ⟨-, hangle, -⟩
      · rw [hunit]
        exact mt List.mem_singleton.1 hc
      · exact hangle
  unfold Bare
  rw [toList_scriptText]
  simp [hbody _ _ h]

/-! ## Models -/

theorem bare_name {n : String} (h : Name.isAccepted n.toList = true) : Bare n := (plain_name h).bare

theorem bare_capitalised {n : String} (h : Name.isAccepted n.toList = true) : Bare (capitalised n) := (plain_capitalised h).bare

namespace Script

@[simp] theorem bare_block {head tail : String} {body : Lines} :
    Every Bare (block head body tail) ↔ Bare (head ++ " " ++ openBrace) ∧ Every Bare body ∧ Bare (closeBrace ++ tail) :=
  stackable_bare.every_block

@[simp] theorem bare_paragraphs {gs : List Lines} : Every Bare (paragraphs gs) ↔ ∀ g ∈ gs, Every Bare g :=
  stackable_bare.every_paragraphs

@[simp] theorem bare_indent {ls : Lines} : Every Bare (indent ls) ↔ Every Bare ls := stackable_bare.every_indent

@[simp] theorem bare_orBlank {ls : Lines} : Every Bare (orBlank ls) ↔ Every Bare ls := stackable_bare.every_orBlank

theorem every_unmarked {ls : Lines} (h : Every Bare ls) : Every Unmarked ls := fun l hl => (h l hl).unmarked

/-- a default that is no text has no angle bracket -/
theorem bare_scriptLiteral {d : Option Literal} (h : ∀ s, d ≠ some (.text s)) :
    Bare (scriptLiteral (.ofOption (d.map Literal.toValue))) := fun hc => by
  cases isWordy_scriptLiteral h hc

/-- what the script knows of a field holds the start of a comment exactly if its default is a text that does -/
theorem unmarked_fieldEntry {f : Field} (hname : Bare f.name) (htype : Bare f.type) :
    Unmarked (fieldEntry f) ↔ ∀ s, f.default = some (.text s) → Unmarked s := by
  have hbefore : Bare (f.name ++ ": " ++ (openBrace ++ " " ++ ("type: " ++ scriptText f.type ++ ", required: " ++
      scriptLiteral (.bool f.required) ++ ", defaultValue: "))) := by
    have hrequired : Bare (scriptLiteral (.bool f.required)) := bare_scriptLiteral (d := some (.bool f.required)) (by simp)
    simp only [bare_append, hname, bare_scriptText htype, hrequired, true_and, and_true]
    and_intros <;> exact bare_ofList (by decide)
  have hentry : fieldEntry f = f.name ++ ": " ++ (openBrace ++ " " ++ ("type: " ++ scriptText f.type ++ ", required: " ++
      scriptLiteral (.bool f.required) ++ ", defaultValue: ")) ++
        (scriptLiteral (.ofOption (f.default.map Literal.toValue)) ++ " \x7d") := by
    unfold fieldEntry inBraces
    simp only [String.append_assoc]
    rfl
  rw [hentry, hbefore.unmarked_append, unmarked_append_bare (by decide) (by decide)]
  by_cases htext : ∃ s, f.default = some (.text s)
  · obtain ⟨s, hs⟩ := htext
    have hliteral : scriptLiteral (.ofOption (f.default.map Literal.toValue)) = scriptText s := by rw [hs]; rfl
    rw [hliteral, unmarked_scriptText, hs]
    simp
  · have hnone : ∀ s, f.default ≠ some (.text s) := fun s hs => htext ⟨s, hs⟩
    exact iff_of_true (bare_scriptLiteral hnone).unmarked fun s hs => absurd hs (hnone s)

theorem unmarked_modelLines {m : Model} (hnames : ∀ n ∈ m.names, Name.isAccepted n.toList = true) :
    Every Unmarked (modelLines m) ↔ ∀ f ∈ m.fields, ∀ s, f.default = some (.text s) → Unmarked s := by
  have hname : Bare m.name := bare_name (hnames _ (List.mem_cons_self ..))
  have hfield : ∀ f ∈ m.fields, Unmarked (fieldEntry f) ↔ ∀ s, f.default = some (.text s) → Unmarked s := by
    intro f hf
    have hmem : ∀ n ∈ [f.name, f.type], n ∈ m.names := fun n hn =>
      List.mem_cons_of_mem _ (List.mem_flatMap.2 ⟨f, hf, hn⟩)
    exact unmarked_fieldEntry (bare_name (hnames _ (hmem _ (by simp)))) (bare_name (hnames _ (hmem _ (by simp))))
  have hcomment : Unmarked ("// Model: " ++ m.name) := (bare_append.2 ⟨bare_ofList (by decide), hname⟩).unmarked
  have hlines : Every Bare ["const " ++ m.name ++ "Model =" ++ " " ++ openBrace, "name: " ++ scriptText m.name ++ ",",
      "fields:" ++ " " ++ openBrace, closeBrace ++ "", closeBrace ++ ";"] := by
    simp only [every_cons, every_nil, bare_append, hname, bare_scriptText hname, and_true]
    and_intros <;> exact bare_ofList (by decide)
  obtain ⟨hhead, htext, hopen, hclose, hend, -⟩ : _ ∧ _ ∧ _ ∧ _ ∧ _ ∧ Every Unmarked [] := by
    simpa only [every_cons] using every_unmarked hlines
  unfold modelLines
  rw [stackable_unmarked.every_paragraphs, List.forall_mem_cons]
  refine (and_iff_left fun g hg => every_unmarked ?_).trans ?_
  · -- what comes after the constant depends on the name of the model alone
    revert g
    unfold findIndex function inBraces
    simp only [bare_block, every_append, every_cons, every_nil, List.forall_mem_cons, List.not_mem_nil, false_imp_iff,
      implies_true, true_and, and_true, bare_append, hname]
    and_intros <;> exact bare_ofList (by decide)
  · unfold modelConstant
    simp only [every_append, every_cons, every_nil, stackable_unmarked.every_block, stackable_unmarked.every_orBlank,
      unmarked_commaSeparated, every_map, hcomment, hhead, htext, hopen, hclose, hend, true_and, and_true]
    exact forall₂_congr hfield

/-! ## Lines without free text -/

theorem bare_refreshCall {c : Component} (hname : Bare c.binding.name) : Bare (refreshCall c ++ ";") := by
  unfold refreshCall
  split <;>
  · simp only [bare_append, hname, and_true]
    and_intros <;> exact bare_ofList (by decide)

theorem bare_changeNotice {a : App} {m : Model} (hname : Bare m.name)
    (hdisplays : ∀ c ∈ a.displaysOf m.name, Bare c.binding.name) : Bare (changeNotice a m) := by
  have hcalls : Every Bare ((a.displaysOf m.name).map fun c => refreshCall c ++ ";") :=
    every_map.2 fun c hc => bare_refreshCall (hdisplays c hc)
  refine stackable_bare.unlines ?_
  unfold function
  simp only [bare_block, hcalls, bare_append, hname, true_and, and_true]
  and_intros <;> exact bare_ofList (by decide)

theorem bare_formLines {b : Binding} (hname : Bare b.name) (hmodel : Bare b.model) : Every Bare (formLines b) := by
  unfold formLines readElement switchCase function elementById
  simp only [bare_paragraphs, bare_block, bare_indent, every_append, every_cons, every_nil, List.forall_mem_cons,
    List.not_mem_nil, false_imp_iff, implies_true, true_and, and_true, bare_append, hname, hmodel]
  and_intros <;> exact bare_ofList (by decide)

theorem bare_shownValue {f : Field} (hname : Bare f.name) : Bare (shownValue f) := by
  unfold shownValue
  split <;>
  · simp only [bare_append, hname, and_true]
    and_intros <;> exact bare_ofList (by decide)

theorem bare_question {f : Field} (hname : Bare f.name) : Every Bare (question f) := by
  have hanswer : Bare (answerValue f) := by
    unfold answerValue
    split <;> exact bare_ofList (by decide)
  unfold question
  simp only [bare_block, every_append, every_cons, every_nil, bare_append, hname, hanswer, and_true]
  and_intros <;> exact bare_ofList (by decide)

theorem bare_listLines {b : Binding} (hname : Bare b.name) (hmodel : Bare b.model) {fields : List Field}
    (hfields : ∀ f ∈ fields, Bare f.name) : Every Bare (listLines b fields) := by
  have hcells : Every Bare (fields.map cell) := every_map.2 fun f hf => by
    have hvalue := bare_shownValue (hfields f hf)
    exact bare_append.2 ⟨bare_append.2 ⟨bare_ofList (by decide), hvalue⟩, bare_ofList (by decide)⟩
  have hquestions : Every Bare (fields.flatMap question) := every_flatMap.2 fun f hf => bare_question (hfields f hf)
  unfold listLines returnUnless rowButton function elementById
  simp only [bare_paragraphs, bare_block, bare_orBlank, every_append, every_cons, every_nil, hcells, hquestions,
    List.forall_mem_cons, List.not_mem_nil, false_imp_iff, implies_true, true_and, and_true, bare_append, hname, hmodel]
  and_intros <;> exact bare_ofList (by decide)

theorem bare_viewLines {b : Binding} (hname : Bare b.name) (hmodel : Bare b.model) {fields : List Field}
    (hfields : ∀ f ∈ fields, Bare f.name ∧ Bare (capitalised f.name)) : Every Bare (viewLines b fields) := by
  have hcards : Every Bare (fields.map cardLine) := every_map.2 fun f hf => by
    obtain ⟨hfield, hlabel⟩ := hfields f hf
    unfold cardLine
    simp only [bare_append, bare_scriptText hlabel, bare_shownValue hfield, and_true]
    and_intros <;> exact bare_ofList (by decide)
  unfold viewLines addLine returnUnless function elementById
  simp only [bare_block, bare_orBlank, every_append, every_cons, every_nil, hcards, true_and, and_true, bare_append, hname,
    hmodel]
  and_intros <;> exact bare_ofList (by decide)

theorem bare_startScript {a : App} (hpages : ∀ p ∈ a.pages, Bare p.name) (hlists : ∀ b ∈ a.lists, Bare b.name)
    (hviews : ∀ b ∈ a.views, Bare b.name) : Bare (startScript a) := by
  unfold startScript
  cases hp : a.landingPage? with
  | some p =>
    simp only [bare_append, hpages p (List.mem_of_mem_head? hp), and_true]
    and_intros <;> exact bare_ofList (by decide)
  | none =>
    have hcalls : Every Bare ((a.lists.map (Component.mk .list) ++ a.views.map (Component.mk .view)).map
        fun c => refreshCall c ++ ";") := by
      refine every_map.2 (List.forall_mem_append.2 ⟨List.forall_mem_map.2 ?_, List.forall_mem_map.2 ?_⟩)
      · exact fun b hb => bare_refreshCall (hlists b hb)
      · exact fun b hb => bare_refreshCall (hviews b hb)
    refine stackable_bare.unlines ?_
    simp only [bare_block, hcalls, bare_append, true_and]
    and_intros <;> exact bare_ofList (by decide)

end Script

/-! ## Markup -/

/-- where a character of markup stands: in text, or after an angle bracket -/
inductive Bracket where
  | text | angle
  deriving DecidableEq, Repr

/-- where the next character stands; an exclamation mark after an angle bracket is refused -/
def Bracket.next (q : Bracket) (c : Char) : Option Bracket :=
  if c = '<' then some .angle else if q = .angle ∧ c = '!' then none else some .text

/-- markup in which every angle bracket starts a tag, and no comment -/
def Undeclared (s : String) : Prop := Loops Bracket.next .text s

theorem undeclared_of_bare {s : String} (h : Bare s) : Undeclared s := by
  refine reading_of_forall Bracket.next fun c hc => ?_
  have hangle : c ≠ '<' := fun e => h (e ▸ hc)
  simp [Bracket.next, hangle]

theorem undeclared_attr {n v : String} (hn : Bare n) (hv : Bare v) : Undeclared (attr n v).text := by
  refine undeclared_of_bare ?_
  show Bare (" " ++ n ++ "=\"" ++ v ++ "\"")
  simp only [bare_append, hn, hv, and_true]
  and_intros <;> exact bare_ofList (by decide)

theorem compositional_undeclared : Compositional Undeclared where
  text h := undeclared_of_bare h.bare
  append := Loops.append
  tag := by
    intro t ht
    have hall : ∀ t ∈ elements, reading Bracket.next .text ("<" ++ t).toList = some .text ∧
        reading Bracket.next .text ("</" ++ t).toList = some .text := by decide
    exact hall t ht
  valued := by
    intro n v hn hv
    have hall : ∀ n ∈ plainAttributes, '<' ∉ n.toList := by decide
    exact undeclared_attr (hall n hn) hv.bare

/-- markup of tags and text starts no comment -/
theorem Undeclared.unmarked {s : String} (h : Undeclared s) : Unmarked s := by
  have hnone : ∀ q, reading Bracket.next q commentStart = none := by
    intro q
    cases q <;> decide
  rintro ⟨u, v, huv⟩
  unfold Undeclared Loops at h
  rw [← huv] at h
  obtain ⟨p, p', -, hp⟩ := reading_infix Bracket.next h
  rw [hnone p] at hp
  cases hp

/-! ## Pages -/

namespace Script

/-- a literal put somewhere by a line that is bare otherwise -/
theorem unmarked_assign {place t : String} (hplace : Bare place) (ht : Unmarked t) :
    Unmarked (place ++ scriptText t ++ ";") := by
  rw [unmarked_append_bare (by decide) (by decide), hplace.unmarked_append]
  exact unmarked_scriptText.2 ht

theorem unmarked_placeComponent {name : String} (hname : Bare name) (c : Option Component) {fragment : String}
    (h : Unmarked fragment) : Every Unmarked (placeComponent name c fragment) := by
  have hplace : Bare (elementById (name ++ "-container") ++ ".innerHTML = ") := by
    unfold elementById
    simp only [bare_append, hname, true_and]
    and_intros <;> exact bare_ofList (by decide)
  refine every_append.2 ⟨every_cons.2 ⟨unmarked_assign hplace h, every_nil⟩, every_unmarked ?_⟩
  split
  · simp only [every_cons, every_nil, bare_append, hname, and_true]
    and_intros <;> exact bare_ofList (by decide)
  · simp only [every_cons, every_nil, bare_append, hname, and_true]
    and_intros <;> exact bare_ofList (by decide)
  · exact every_nil

theorem unmarked_pageLines {o : Options} {p : Page} (hname : Bare p.name)
    (hshell : Unmarked (Fragment.shell p.title (Fragment.containers p []) o.footerText)) {steps : Lines}
    (hsteps : Every Unmarked steps) : Every Unmarked (pageLines o p steps) := by
  have hcomment : Unmarked ("// Page: " ++ p.name) := (bare_append.2 ⟨bare_ofList (by decide), hname⟩).unmarked
  have hplace : Bare "document.body.innerHTML = " := bare_ofList (by decide)
  have hbody := unmarked_assign hplace hshell
  have hhead : Bare ("function " ++ ("renderPage_" ++ p.name) ++ "(" ++ "" ++ ")" ++ " " ++ openBrace) := by
    simp only [bare_append, hname, and_true]
    and_intros <;> exact bare_ofList (by decide)
  have hclose : Bare (closeBrace ++ "") := bare_append.2 ⟨bare_ofList (by decide), bare_ofList (l := []) (by decide)⟩
  unfold pageLines function
  refine every_append.2 ⟨every_cons.2 ⟨hcomment, every_nil⟩, stackable_unmarked.every_block.2 ⟨hhead.unmarked, ?_, hclose.unmarked⟩⟩
  exact every_append.2 ⟨every_cons.2 ⟨hbody, every_nil⟩, hsteps⟩

end Script

/-! ## Scripts -/

section

variable {a : App} {o : Options} (hnames : ∀ n ∈ a.names, Name.isAccepted n.toList = true)

include hnames

theorem bare_binding {k : BindingKind} {b : Binding} (hb : b ∈ a.bindings k) : Bare b.name ∧ Bare b.model :=
  (Script.accepted_binding hnames hb).imp bare_name bare_name

/-- the page of a script starts no comment, whatever its title -/
theorem unmarked_page {p : Page} (hp : p ∈ a.pages) {steps : List Lines} (h : Script.Places a o p steps) :
    Every Unmarked (Script.pageLines o p steps.flatten) := by
  have hcomponents : ∀ n ∈ p.names, Name.isAccepted n.toList = true := fun n hn => hnames n (App.mem_names_of_page hp hn)
  have hhandlers : ∀ b ∈ a.forms, Undeclared (attr "onsubmit" ("return handleSubmit_" ++ b.name ++ "(event)")).text ∧
      Undeclared (attr "onclick" ("resetForm_" ++ b.name ++ "()")).text := by
    intro b hb
    have hname := (bare_binding hnames (k := .form) hb).1
    refine ⟨undeclared_attr (bare_ofList (by decide)) ?_, undeclared_attr (bare_ofList (by decide)) ?_⟩
    · simp only [bare_append, hname, and_true]
      and_intros <;> exact bare_ofList (by decide)
    · simp only [bare_append, hname, and_true]
      and_intros <;> exact bare_ofList (by decide)
  have hcontainers : Undeclared (Fragment.containers p []) :=
    compositional_undeclared.containers (fun n hn => hcomponents n (List.mem_cons_of_mem _ hn)) (by simp)
  have hshell := compositional_undeclared.shell hcontainers p.title o.footerText
  refine Script.unmarked_pageLines (bare_name (hcomponents _ (List.mem_cons_self ..))) hshell.unmarked (every_flatten.2 ?_)
  intro ls hls
  obtain ⟨name, hname, r, hr, rfl⟩ := exists_left_of_forall₂ h hls
  have hfragment := compositional_undeclared.componentHtml hnames hhandlers hp hname hr
  exact Script.unmarked_placeComponent (bare_name (hcomponents _ (List.mem_cons_of_mem _ hname))) r.1 hfragment.unmarked

/-- only the section of a model may start a comment, and it does so where a default does -/
theorem unmarked_section {t : String} (h : Script.IsSection a o t)
    (hdefaults : ∀ m ∈ a.distinctModels, ∀ f ∈ m.fields, ∀ s, f.default = some (.text s) → Unmarked s) : Unmarked t := by
  have hmodel : ∀ {m : Model}, m ∈ a.distinctModels → ∀ n ∈ m.names, Name.isAccepted n.toList = true := fun hm n hn =>
    hnames n (App.mem_names_of_model (App.mem_models_of_mem_distinctModels hm) hn)
  have hfields : ∀ {k : BindingKind} {b : Binding} {fs : List Field}, b ∈ a.bindings k →
      a.lookupFields o ⟨k, b⟩ = .ok fs → ∀ f ∈ fs, Name.isAccepted f.name.toList = true := fun hb hfs f hf =>
    hnames _ (App.name_mem_of_lookupFields hb hfs hf)
  cases h with
  | model hm => exact unmarked_unlines.2 ((Script.unmarked_modelLines (hmodel hm)).2 (hdefaults _ hm))
  | notice hm =>
    refine (Script.bare_changeNotice (bare_name (hmodel hm _ (List.mem_cons_self ..))) fun c hc => ?_).unmarked
    exact bare_name (Script.accepted_displaysOf hnames hc)
  | form hb =>
    obtain ⟨hname, hof⟩ := bare_binding hnames (k := .form) hb
    exact (stackable_bare.unlines (Script.bare_formLines hname hof)).unmarked
  | list hb hfs =>
    obtain ⟨hname, hof⟩ := bare_binding hnames (k := .list) hb
    exact (stackable_bare.unlines (Script.bare_listLines hname hof fun f hf =>
      bare_name (hfields (k := .list) hb hfs f hf))).unmarked
  | view hb hfs =>
    obtain ⟨hname, hof⟩ := bare_binding hnames (k := .view) hb
    have hshown := fun f hf => hfields (k := .view) hb hfs f hf
    exact (stackable_bare.unlines (Script.bare_viewLines hname hof fun f hf =>
      ⟨bare_name (hshown f hf), bare_capitalised (hshown f hf)⟩)).unmarked
  | page hp hsteps => exact unmarked_unlines.2 (unmarked_page hnames hp hsteps)
  | start =>
    refine (Script.bare_startScript (fun p hp => ?_) (fun b hb => ?_) fun b hb => ?_).unmarked
    · exact bare_name (hnames _ (App.mem_names_of_page hp (List.mem_cons_self ..)))
    · exact (bare_binding hnames (k := .list) hb).1
    · exact (bare_binding hnames (k := .view) hb).1

/-- **The start of a comment in a script.** It stands there exactly if it stands in a default that is a text. -/
theorem commentStart_script_iff {s : String} (h : (a.script o).result = .ok s) :
    commentStart <:+: s.toList ↔
      ∃ m ∈ a.distinctModels, ∃ f ∈ m.fields, ∃ t, f.default = some (.text t) ∧ commentStart <:+: t.toList := by
  obtain ⟨ss, hss, rfl⟩ := Script.script_eq_ok h
  have hiff : Unmarked ("\n\n".intercalate ss ++ "\n") ↔
      ∀ m ∈ a.distinctModels, ∀ f ∈ m.fields, ∀ t, f.default = some (.text t) → Unmarked t := by
    rw [unmarked_sections]
    constructor
    · intro hall m hm
      have hmodel : ∀ n ∈ m.names, Name.isAccepted n.toList = true := fun n hn =>
        hnames n (App.mem_names_of_model (App.mem_models_of_mem_distinctModels hm) hn)
      exact (Script.unmarked_modelLines hmodel).1 (unmarked_unlines.1 (hall _ (hss.models m hm).1))
    · intro hdefaults t ht
      exact unmarked_section hnames (hss.only t ht) hdefaults
  have hnot := not_congr hiff
  simpa only [Unmarked, not_not, not_forall, exists_prop] using hnot

end

/-- **Free text and comments in a script.** A literal starts a comment exactly if its text does. So the script of an
application starts one exactly if a default of a model is a text that does, whatever the titles of the pages and the
footer are: they stand in a script as markup, with their angle brackets escaped. -/
theorem script_starts_comment_iff {o : Options} {a : App} {r : Artifacts}
    (hnames : ∀ n ∈ a.names, Name.isAccepted n.toList = true) (h : (compileApp o a).1 = .ok r) :
    (∀ t, commentStart <:+: (scriptText t).toList ↔ commentStart <:+: t.toList) ∧
      (commentStart <:+: r.script.toList ↔
        ∃ m ∈ a.distinctModels, ∃ f ∈ m.fields, ∃ t, f.default = some (.text t) ∧ commentStart <:+: t.toList) := by
  obtain ⟨-, hscript, -⟩ := compileApp_eq_ok h
  exact ⟨fun t => not_iff_not.1 unmarked_scriptText, commentStart_script_iff hnames hscript⟩

/-- the start of a comment in the title of a page stays out of the script, and in a default it gets there -/
theorem script_starts_comment_guestbook :
    (∀ n ∈ (App.guestbook "<!--" "").names, Name.isAccepted n.toList = true) ∧
      (∀ n ∈ (App.guestbook "" "<!--").names, Name.isAccepted n.toList = true) ∧
      ∃ r r', (compileApp .standard (App.guestbook "<!--" "")).1 = .ok r ∧
        (compileApp .standard (App.guestbook "" "<!--")).1 = .ok r' ∧
        ¬ commentStart <:+: r.script.toList ∧ commentStart <:+: r'.script.toList := by
  obtain ⟨r, hr⟩ := exists_compileApp_guestbook "<!--" ""
  obtain ⟨r', hr'⟩ := exists_compileApp_guestbook "" "<!--"
  have hdefault : commentStart <:+: "<!--".toList := by decide
  refine ⟨by decide, by decide, r, r', hr, hr', fun hin => ?_,
    (script_starts_comment_iff (by decide) hr').2.2
      ⟨_, List.mem_singleton.2 rfl, _, List.mem_singleton.2 rfl, _, rfl, hdefault⟩⟩
  obtain ⟨m, hm, f, hf, t, ht, hin⟩ := (script_starts_comment_iff (by decide) hr).2.1 hin
  obtain rfl : m = _ := List.mem_singleton.1 hm
  obtain rfl : f = _ := List.mem_singleton.1 hf
  cases ht
  revert hin
  decide

/-- **A default keeps a script open.** With `<!--<script>` as a default, the application compiles and its script starts
a comment. -/
theorem default_starts_comment :
    (∀ n ∈ (App.guestbook "" "<!--<script>").names, Name.isAccepted n.toList = true) ∧
      ∃ r, (compileApp .standard (App.guestbook "" "<!--<script>")).1 = .ok r ∧ commentStart <:+: r.script.toList := by
  obtain ⟨r, hr⟩ := exists_compileApp_guestbook "" "<!--<script>"
  obtain ⟨-, hscript, -⟩ := compileApp_eq_ok hr
  have hdefault : commentStart <:+: "<!--<script>".toList := by decide
  exact ⟨by decide, r, hr, (commentStart_script_iff (by decide) hscript).2
    ⟨_, List.mem_singleton.2 rfl, _, List.mem_singleton.2 rfl, _, rfl, hdefault⟩⟩

end Pagewright
