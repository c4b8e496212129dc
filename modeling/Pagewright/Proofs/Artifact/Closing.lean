/-
Which elements a document closes. A document holds a style element and a script element, and what stands in them, and in the
markup between them, comes from elsewhere. None of it can close either: the only places where `</style` and `</script`
stand are the two that the document itself writes (`closing_tags_document`).
-/
import Pagewright.Proofs.Artifact.Pieces
import Pagewright.Proofs.Artifact.Sound

namespace Pagewright

open Text Html

/-! ## Reading markup -/

/-- where a character stands: in text, after an angle bracket, or after the start of a closing tag -/
inductive Edge where
  | text | angle | slash
  deriving DecidableEq, Repr

/-- where the next character stands; a closing tag whose name starts with the letter of `script` and `style` is refused -/
def Edge.next (q : Edge) (c : Char) : Option Edge :=
  if c = '<' then some .angle
  else match q with
    | .text => some .text
    | .angle => if c = '/' then some .slash else some .text
    | .slash => if c = 's' then none else some .text

/-- text that closes neither a style element nor a script element -/
def Harmless (s : String) : Prop := Loops Edge.next .text s

theorem Harmless.append {s t : String} (hs : Harmless s) (ht : Harmless t) : Harmless (s ++ t) := Loops.append hs ht

theorem stackable_harmless : Stackable Harmless := stackable_loops rfl rfl

theorem harmless_ofList {l : List Char} (h : reading Edge.next .text l = some .text) : Harmless (String.ofList l) := by
  unfold Harmless Loops
  rw [String.toList_ofList]
  exact h

theorem harmless_of_forall {s : String} (h : ∀ c ∈ s.toList, c ≠ '<') : Harmless s := by
  refine reading_of_forall Edge.next fun c hc => ?_
  simp [Edge.next, h c hc]

theorem harmless_attr {n v : String} (hn : '<' ∉ n.toList) (hv : ∀ c ∈ v.toList, c ≠ '<') : Harmless (attr n v).text := by
  have hname : Harmless n := harmless_of_forall fun c hc h => hn (h ▸ hc)
  exact (((harmless_ofList rfl).append hname).append (harmless_ofList rfl)).append (harmless_of_forall hv)
    |>.append (harmless_ofList rfl)

theorem compositional_harmless : Compositional Harmless where
  text h := harmless_of_forall fun c hc => (h c hc).1
  append := Harmless.append
  tag := by
    intro t ht
    have hall : ∀ t ∈ elements, reading Edge.next .text ("<" ++ t).toList = some .text ∧
        reading Edge.next .text ("</" ++ t).toList = some .text := by decide
    exact hall t ht
  valued := by
    intro n v hn hv
    have hall : ∀ n ∈ plainAttributes, '<' ∉ n.toList := by decide
    exact harmless_attr (hall n hn) fun c hc => (hv c hc).1

/-! ## The stylesheet -/

/-- the texts of a rule close nothing -/
def HarmlessRule (r : Stylesheet.Rule) : Prop :=
  Harmless r.selector ∧ ∀ d ∈ r.declarations, Harmless d.1 ∧ Harmless d.2

theorem harmless_rules : ∀ r ∈ Stylesheet.rules, HarmlessRule r := by
  unfold Stylesheet.rules HarmlessRule
  simp only [List.forall_mem_cons, List.not_mem_nil, false_imp_iff, implies_true, and_true]
  and_intros <;> exact harmless_ofList rfl

theorem harmless_narrowRules : ∀ r ∈ Stylesheet.narrowRules, HarmlessRule r := by
  unfold Stylesheet.narrowRules HarmlessRule
  simp only [List.forall_mem_cons, List.not_mem_nil, false_imp_iff, implies_true, and_true]
  and_intros <;> exact harmless_ofList rfl

theorem harmless_ruleLines {rules : List Stylesheet.Rule} (h : ∀ r ∈ rules, HarmlessRule r) :
    Every Harmless (Stylesheet.ruleLines rules) := by
  refine stackable_harmless.every_paragraphs.2 (List.forall_mem_map.2 fun r hr => ?_)
  obtain ⟨hselector, hdeclarations⟩ := h r hr
  have hopen : Harmless (r.selector ++ " " ++ "\x7b") := (hselector.append (harmless_ofList rfl)).append (harmless_ofList rfl)
  have hclose : Harmless ("\x7d" ++ "") := Harmless.append (harmless_ofList rfl) (harmless_ofList (l := []) rfl)
  refine stackable_harmless.every_block.2 ⟨hopen, every_map.2 fun d hd => ?_, hclose⟩
  obtain ⟨hproperty, hvalue⟩ := hdeclarations d hd
  exact ((hproperty.append (harmless_ofList rfl)).append hvalue).append (harmless_ofList rfl)

theorem harmless_stylesheet : Harmless Stylesheet.text := by
  have hopen : Harmless (Stylesheet.narrowScreen ++ " " ++ "\x7b") :=
    (Harmless.append (harmless_ofList rfl) (harmless_ofList rfl)).append (harmless_ofList rfl)
  have hclose : Harmless ("\x7d" ++ "") := Harmless.append (harmless_ofList rfl) (harmless_ofList (l := []) rfl)
  have hnarrow := stackable_harmless.every_block.2 ⟨hopen, harmless_ruleLines harmless_narrowRules, hclose⟩
  have hblank : Every Harmless [""] := every_cons.2 ⟨stackable_harmless.empty, every_nil⟩
  have hcomment : Every Harmless ["/* SWeb Framework CSS */"] := every_cons.2 ⟨harmless_ofList rfl, every_nil⟩
  refine stackable_harmless.unlines ?_
  simp only [every_append]
  exact ⟨⟨⟨⟨hcomment, harmless_ruleLines harmless_rules⟩, hblank⟩, hnarrow⟩, hblank⟩

/-! ## The script -/

/-- what a reader of markup makes of a place in a script -/
def Script.Spot.edge : Script.Spot → Edge
  | .code => .text
  | .literal afterAngle => if afterAngle then .angle else .text
  | .escape => .text

/-- sound text closes nothing in markup either -/
theorem Script.Sound.harmless {s : String} (h : Script.Sound s) : Harmless s := by
  refine reading_of_follows (f := Script.Spot.edge) _ (fun q c q' hq => ?_) h
  cases q with
  | code =>
    simp only [Script.Spot.next] at hq
    split_ifs at hq with hquote hangle
    · cases hq
      simp [Edge.next, Script.Spot.edge, hquote]
    · cases hq
      simp [Edge.next, Script.Spot.edge, hangle]
  | literal b =>
    simp only [Script.Spot.next] at hq
    split_ifs at hq with hquote hescape hslash
    · cases hq
      cases b <;> simp [Edge.next, Script.Spot.edge, hquote]
    · cases hq
      cases b <;> simp [Edge.next, Script.Spot.edge, hescape]
    · cases hq
      by_cases hangle : c = '<'
      · simp [Edge.next, Script.Spot.edge, hangle]
      · cases b <;> simp_all [Edge.next, Script.Spot.edge]
  | escape =>
    cases hq
    by_cases hangle : c = '<' <;> simp [Edge.next, Script.Spot.edge, hangle]

/-! ## Occurrences -/

/-- the start of a closing tag of a script or style element -/
def closingStart : List Char := ['<', '/', 's']

theorem Harmless.not_closingStart {s : String} (h : Harmless s) : ¬ closingStart <:+: s.toList := by
  have hnone : ∀ q, reading Edge.next q closingStart = none := by
    intro q
    cases q <;> decide
  rintro ⟨u, v, huv⟩
  unfold Harmless Loops at h
  rw [← huv] at h
  obtain ⟨p, p', -, hp⟩ := reading_infix Edge.next h
  rw [hnone p] at hp
  cases hp

/-- the closing start cannot overlap itself: it stands where it was put, or further on -/
theorem closingStart_cases {x y u v : List Char} (hx : ¬ closingStart <:+: x)
    (h : x ++ (closingStart ++ y) = u ++ (closingStart ++ v)) :
    (u = x ∧ v = y) ∨ ∃ w, u = x ++ (closingStart ++ w) ∧ y = w ++ (closingStart ++ v) := by
  rcases List.append_eq_append_iff.1 h with ⟨w, rfl, hw⟩ | ⟨w, rfl, hw⟩
  · -- `u` goes on after `x`, and the first characters of `closingStart` decide how far
    match w, hw with
    | [], hw => exact Or.inl ⟨by simp, by simpa [closingStart] using hw.symm⟩
    | [c], hw => simp [closingStart] at hw
    | [c, d], hw => simp [closingStart] at hw
    | c :: d :: e :: w, hw =>
      simp only [closingStart, List.cons_append, List.nil_append, List.cons.injEq] at hw
      obtain ⟨rfl, rfl, rfl, hw⟩ := hw
      exact Or.inr ⟨w, rfl, hw⟩
  · match w, hw with
    | [], hw => exact Or.inl ⟨by simp, by simpa [closingStart] using hw⟩
    | [c], hw => simp [closingStart] at hw
    | [c, d], hw => simp [closingStart] at hw
    | c :: d :: e :: w, hw =>
      simp only [closingStart, List.cons_append, List.nil_append, List.cons.injEq] at hw
      obtain ⟨rfl, rfl, rfl, -⟩ := hw
      exact absurd ⟨u, w, by simp [closingStart]⟩ hx

/-- between three texts that close nothing there are two places where something is closed -/
theorem closingStart_iff {x y z u v : List Char} (hx : ¬ closingStart <:+: x) (hy : ¬ closingStart <:+: y)
    (hz : ¬ closingStart <:+: z) :
    x ++ (closingStart ++ (y ++ (closingStart ++ z))) = u ++ (closingStart ++ v) ↔
      (u = x ∧ v = y ++ (closingStart ++ z)) ∨ (u = x ++ (closingStart ++ y) ∧ v = z) := by
  constructor
  · intro h
    rcases closingStart_cases hx h with h | ⟨w, rfl, hw⟩
    · exact Or.inl h
    · rcases closingStart_cases hy hw with ⟨rfl, rfl⟩ | ⟨w', rfl, hw'⟩
      · exact Or.inr ⟨rfl, rfl⟩
      · exact absurd ⟨w', v, by rw [hw', List.append_assoc]⟩ hz
  · rintro (⟨rfl, rfl⟩ | ⟨rfl, rfl⟩)
    · rfl
    · simp

/-! ## The document -/

namespace Artifacts

/-- a document up to where its style element is closed -/
def beforeStyleEnd (r : Artifacts) (title : String) : String :=
  unlines
    ["<!DOCTYPE html>", opening "html" [attr "lang" "en"], opening "head" [],
      "  " ++ opening "meta" [attr "charset" "UTF-8"],
      "  " ++ opening "meta" [attr "name" "viewport", attr "content" "width=device-width, initial-scale=1.0"],
      "  " ++ Html.inline "title" [] (escape title), "  " ++ opening "style" [], r.stylesheet, "  "]

/-- a document from there to where its script element is closed -/
def beforeScriptEnd (r : Artifacts) : String :=
  unlines [">", closing "head", opening "body" [], r.markup, "  " ++ opening "script" [], r.script, "  "]

/-- the rest of a document -/
def afterScriptEnd : String := unlines [">", closing "body", closing "html", ""]

theorem document_eq (r : Artifacts) (title : String) :
    r.document title = r.beforeStyleEnd title ++ "</style" ++ r.beforeScriptEnd ++ "</script" ++ afterScriptEnd := by
  have hstyle : "</style" = "</" ++ "style" := by decide
  have hscript : "</script" = "</" ++ "script" := by decide
  simp only [document, beforeStyleEnd, beforeScriptEnd, afterScriptEnd, hstyle, hscript]
  unfold unlines around closing
  simp only [List.cons_append, List.nil_append, String.intercalate_cons_cons, String.intercalate_singleton,
    String.append_assoc]

variable {r : Artifacts}

theorem harmless_beforeStyleEnd (h : Harmless r.stylesheet) (title : String) : Harmless (r.beforeStyleEnd title) := by
  have hP := compositional_harmless
  have hlang : ∀ a ∈ [attr "lang" "en"], Harmless a.text :=
    List.forall_mem_singleton.2 (hP.valued (by decide) (plain_ofList (by decide)))
  have hcharset : ∀ a ∈ [attr "charset" "UTF-8"], Harmless a.text :=
    List.forall_mem_singleton.2 (hP.valued (by decide) (plain_ofList (by decide)))
  have hviewport : ∀ a ∈ [attr "name" "viewport", attr "content" "width=device-width, initial-scale=1.0"],
      Harmless a.text :=
    List.forall_mem_cons.2 ⟨hP.valued (by decide) (plain_ofList (by decide)),
      List.forall_mem_singleton.2 (hP.valued (by decide) (plain_ofList (by decide)))⟩
  have hstyle : Harmless (opening "style" []) := by
    show Harmless ("<" ++ "style" ++ "" ++ ">")
    simp only [Harmless, Loops, String.toList_append, reading_append]
    repeat rw [String.toList_ofList]
    rfl
  refine stackable_harmless.unlines ?_
  simp only [every_cons, every_nil, and_true, stackable_harmless.columns]
  exact ⟨harmless_ofList rfl, hP.opening (by decide) hlang, hP.opening (by decide) (List.forall_mem_nil _),
    hP.opening (by decide) hcharset, hP.opening (by decide) hviewport,
    hP.inline (by decide) (List.forall_mem_nil _) (hP.text (plain_escape title)), hstyle, h, harmless_ofList rfl⟩

theorem harmless_beforeScriptEnd (hmarkup : Harmless r.markup) (hscript : Harmless r.script) :
    Harmless r.beforeScriptEnd := by
  have hP := compositional_harmless
  have hopen : Harmless (opening "script" []) := by
    show Harmless ("<" ++ "script" ++ "" ++ ">")
    simp only [Harmless, Loops, String.toList_append, reading_append]
    repeat rw [String.toList_ofList]
    rfl
  refine stackable_harmless.unlines ?_
  simp only [every_cons, every_nil, and_true, stackable_harmless.columns]
  exact ⟨harmless_ofList rfl, hP.closing (by decide), hP.opening (by decide) (List.forall_mem_nil _), hmarkup, hopen,
    hscript, harmless_ofList rfl⟩

theorem harmless_afterScriptEnd : Harmless afterScriptEnd := by
  have hP := compositional_harmless
  refine stackable_harmless.unlines ?_
  simp only [every_cons, every_nil, and_true]
  exact ⟨harmless_ofList rfl, hP.closing (by decide), hP.closing (by decide), harmless_ofList (l := []) rfl⟩

/-- the places of the closing tags in a document whose parts close nothing -/
theorem closingStart_document_iff (hstyle : Harmless r.stylesheet) (hmarkup : Harmless r.markup)
    (hscript : Harmless r.script) (title : String) {u v : List Char} :
    (r.document title).toList = u ++ (closingStart ++ v) ↔
      (u = (r.beforeStyleEnd title).toList ∧
        v = "tyle".toList ++ (r.beforeScriptEnd ++ "</script" ++ afterScriptEnd).toList) ∨
      (u = (r.beforeStyleEnd title ++ "</style" ++ r.beforeScriptEnd).toList ∧ v = "cript".toList ++ afterScriptEnd.toList) := by
  have hfirst := (harmless_beforeStyleEnd hstyle title).not_closingStart
  have hsecond := (Harmless.append (s := "tyle") (harmless_ofList rfl)
    (harmless_beforeScriptEnd hmarkup hscript)).not_closingStart
  have hthird := (Harmless.append (s := "cript") (harmless_ofList rfl) harmless_afterScriptEnd).not_closingStart
  have hstyleTag : "</style".toList = closingStart ++ "tyle".toList := by decide
  have hscriptTag : "</script".toList = closingStart ++ "cript".toList := by decide
  have hplaces := closingStart_iff (u := u) (v := v) hfirst hsecond hthird
  rw [document_eq]
  simp only [String.toList_append, hstyleTag, hscriptTag, List.append_assoc] at hplaces ⊢
  exact hplaces

end Artifacts

theorem harmless_markup {a : App} {o : Options} (hnames : ∀ n ∈ a.names, Name.isAccepted n.toList = true) {s : String}
    (h : (a.markup o).result = .ok s) : Harmless s := by
  refine compositional_harmless.markup hnames (fun b hb => ?_) h
  have hname := plain_name (hnames _ (App.mem_names_of_binding (k := .form) hb (List.mem_cons_self ..)))
  have hsubmit : Plain ("return handleSubmit_" ++ b.name ++ "(event)") :=
    plain_append.2 ⟨plain_append.2 ⟨plain_ofList (by decide), hname⟩, plain_ofList (by decide)⟩
  have hreset : Plain ("resetForm_" ++ b.name ++ "()") :=
    plain_append.2 ⟨plain_append.2 ⟨plain_ofList (by decide), hname⟩, plain_ofList (by decide)⟩
  exact ⟨harmless_attr (by decide) fun c hc => (hsubmit c hc).1, harmless_attr (by decide) fun c hc => (hreset c hc).1⟩

/-- **No free text closes an element.** The script of an application has no closing tag in it, and in a document made of
its artifacts, under any title, a style element and a script element are closed once each: where the document itself
closes them. -/
theorem closing_tags_document {o : Options} {a : App} {r : Artifacts}
    (hnames : ∀ n ∈ a.names, Name.isAccepted n.toList = true) (h : (compileApp o a).1 = .ok r) (title : String) :
    ¬ ['<', '/'] <:+: r.script.toList ∧
      (∀ u v, (r.document title).toList = u ++ "</style".toList ++ v ↔
        u = (r.beforeStyleEnd title).toList ∧ v = (r.beforeScriptEnd ++ "</script" ++ Artifacts.afterScriptEnd).toList) ∧
      ∀ u v, (r.document title).toList = u ++ "</script".toList ++ v ↔
        u = (r.beforeStyleEnd title ++ "</style" ++ r.beforeScriptEnd).toList ∧ v = Artifacts.afterScriptEnd.toList := by
  obtain ⟨hmarkup, hscript, hstyle⟩ := compileApp_eq_ok h
  have hsound := Script.sound_script hnames hscript
  have hstylesheet : Harmless r.stylesheet := hstyle ▸ harmless_stylesheet
  have hplaces := fun u v => Artifacts.closingStart_document_iff hstylesheet (harmless_markup hnames hmarkup)
    hsound.harmless title (u := u) (v := v)
  have hstyleTag : "</style".toList = closingStart ++ "tyle".toList := by decide
  have hscriptTag : "</script".toList = closingStart ++ "cript".toList := by decide
  refine ⟨hsound.not_closing, fun u v => ?_, fun u v => ?_⟩
  · rw [hstyleTag, List.append_assoc, List.append_assoc, hplaces, List.append_cancel_left_eq]
    constructor
    · rintro (h | ⟨-, h⟩)
      · exact h
      · simp at h
    · exact Or.inl
  · rw [hscriptTag, List.append_assoc, List.append_assoc, hplaces, List.append_cancel_left_eq]
    constructor
    · rintro (⟨-, h⟩ | h)
      · simp at h
      · exact h
    · exact Or.inr

/-- closing tags in the title of a page, in a default and in the title of the document -/
theorem closing_tags_guestbook :
    (∀ n ∈ (App.guestbook "</style>" "</script>").names, Name.isAccepted n.toList = true) ∧
      ∃ r, (compileApp .standard (App.guestbook "</style>" "</script>")).1 = .ok r ∧
        ¬ ['<', '/'] <:+: r.script.toList ∧
        (∀ u v, (r.document "</script>").toList = u ++ "</style".toList ++ v ↔
          u = (r.beforeStyleEnd "</script>").toList ∧
            v = (r.beforeScriptEnd ++ "</script" ++ Artifacts.afterScriptEnd).toList) ∧
        ∀ u v, (r.document "</script>").toList = u ++ "</script".toList ++ v ↔
          u = (r.beforeStyleEnd "</script>" ++ "</style" ++ r.beforeScriptEnd).toList ∧
            v = Artifacts.afterScriptEnd.toList := by
  obtain ⟨r, hr⟩ := exists_compileApp_guestbook "</style>" "</script>"
  exact ⟨by decide, r, hr, closing_tags_document (by decide) hr "</script>"⟩

end Pagewright
