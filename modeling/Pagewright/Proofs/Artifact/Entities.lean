/-
Free text in markup can be read back. `escape` writes five characters as entities, and `unescape` undoes them in one pass, so
a text that looks like an entity comes back as it was (`unescape_escape`). No quote and no angle bracket is left in escaped
text. A default therefore is the value of its input, and a title or footer is the text of its element up to the next angle
bracket (`free_text_reads_back`).
-/
import Pagewright.Proofs.Artifact.Query

namespace Pagewright

open Text Html

/-! ## Entities -/

namespace Html

/-- characters with the entities of escaped text undone, from left to right; any other ampersand stands for itself -/
def unescapeChars : List Char → List Char
  | '&' :: 'a' :: 'm' :: 'p' :: ';' :: r => '&' :: unescapeChars r
  | '&' :: 'l' :: 't' :: ';' :: r => '<' :: unescapeChars r
  | '&' :: 'g' :: 't' :: ';' :: r => '>' :: unescapeChars r
  | '&' :: 'q' :: 'u' :: 'o' :: 't' :: ';' :: r => '"' :: unescapeChars r
  | '&' :: '#' :: 'x' :: '2' :: '7' :: ';' :: r => '\'' :: unescapeChars r
  | c :: r => c :: unescapeChars r
  | [] => []

/-- the text that a reader of markup sees -/
def unescape (s : String) : String := String.ofList (unescapeChars s.toList)

theorem unescapeChars_cons {c : Char} (hc : c ≠ '&') (r : List Char) : unescapeChars (c :: r) = c :: unescapeChars r := by
  rw [unescapeChars]
  all_goals
    intros
    contradiction

/-- what a character is written as is read as that character -/
theorem unescapeChars_escapeChar (c : Char) (r : List Char) : unescapeChars (escapeChar c ++ r) = c :: unescapeChars r := by
  unfold escapeChar
  split_ifs with hamp hlt hgt hquote happostrophe
  · simp [unescapeChars, hamp]
  · simp [unescapeChars, hlt]
  · simp [unescapeChars, hgt]
  · simp [unescapeChars, hquote]
  · simp [unescapeChars, happostrophe]
  · exact unescapeChars_cons hamp r

/-- **Escaping loses nothing.** Undoing the entities of an escaped text gives the text, also when there are entities in the
text itself. -/
theorem unescape_escape (s : String) : unescape (escape s) = s := by
  have hchars : ∀ l : List Char, unescapeChars (l.flatMap escapeChar) = l := by
    intro l
    induction l with
    | nil => rfl
    | cons c l ih => rw [List.flatMap_cons, unescapeChars_escapeChar, ih]
  rw [unescape, escape, String.toList_ofList, hchars, String.ofList_toList]

end Html

/-! ## Values of inputs -/

namespace Fragment

/-- the inputs of a fragment, in their order -/
def inputTags (s : String) : List (List Char) := (tags s).filter fun tag => tagName tag = "input"

/-- a form has one input for each field -/
theorem inputTags_form {b : Binding} (hb : Name.isAccepted b.name.toList = true) {fields : List Field}
    (hfields : ∀ f ∈ fields, Name.isAccepted f.name.toList = true) :
    inputTags (form b fields) = fields.map fun f => inside "input" (inputAttributes b.name f) := by
  have hinputs : (Query.ofElement "input" (fun tag => [tag])
      fun form f => [inside "input" (inputAttributes form f)]).Lawful := Query.lawful_inputs fun _ _ _ _ => rfl
  have hcollects := (hinputs.collects_form hb hfields).eq
  rw [Query.flatMap_ofElement, List.flatMap_singleton'] at hcollects
  rw [inputTags, hcollects, List.map_eq_flatMap]
  rfl

end Fragment

/-! ## Values in a form -/

/-- a text stands in one of some lines -/
def StandsIn (x : List Char) (ls : Lines) : Prop := ∃ l ∈ ls, x <:+: l.toList

theorem StandsIn.mono {x : List Char} {ls ms : Lines} (h : ∀ l ∈ ls, l ∈ ms) : StandsIn x ls → StandsIn x ms
  | ⟨l, hl, hx⟩ => ⟨l, h l hl, hx⟩

theorem StandsIn.enclosing {x : List Char} {ls : Lines} (h : StandsIn x ls) (t : String) (as : List Attribute) :
    StandsIn x (enclosing t as ls) := by
  obtain ⟨l, hl, hx⟩ := h
  refine ⟨indentLine l, ?_, hx.trans ?_⟩
  · unfold Html.enclosing around
    exact List.mem_append_left _ (List.mem_append_right _ (List.mem_map_of_mem hl))
  · unfold indentLine
    split
    · exact List.infix_rfl
    · rw [String.toList_append]
      exact (List.suffix_append _ _).isInfix

namespace Fragment

/-- the input of a field up to the text that it starts with -/
def valueStart (form : String) (f : Field) : String :=
  "<" ++ "input" ++ String.join (([attr "type" (inputType f), attr "id" (form ++ "-" ++ f.name), attr "name" f.name,
    styled "sweb-input", attr "data-field-type" f.kind.name] ++
      (if f.required then [flag "required"] else [])).map Attribute.text) ++ " value=\""

/-- the input of every field stands in the form -/
theorem infix_form (b : Binding) {fields : List Field} {f : Field} (hf : f ∈ fields) :
    (opening "input" (inputAttributes b.name f)).toList <:+: (form b fields).toList := by
  have hgroup : StandsIn (opening "input" (inputAttributes b.name f)).toList (inputGroup b.name f) := by
    unfold inputGroup
    exact StandsIn.enclosing ⟨_, List.mem_cons_of_mem _ List.mem_cons_self, List.infix_rfl⟩ _ _
  have hfields : StandsIn (opening "input" (inputAttributes b.name f)).toList
      (orBlank (fields.flatMap (inputGroup b.name))) := by
    refine hgroup.mono fun l hl => ?_
    have hmem : l ∈ fields.flatMap (inputGroup b.name) := List.mem_flatMap.2 ⟨f, hf, hl⟩
    rw [orBlank, if_neg (by simpa using List.ne_nil_of_mem hmem)]
    exact hmem
  have hform := (hfields.mono fun l hl => List.mem_append_left (formActions b.name) hl).enclosing "form"
    [attr "id" (b.name ++ "-form"), styled "sweb-form", attr "onsubmit" ("return handleSubmit_" ++ b.name ++ "(event)")]
  obtain ⟨l, hl, hx⟩ := (hform.mono fun l hl => List.mem_append_right [Html.inline "h3" [] (capitalised b.name)] hl).enclosing
    "div" [attr "id" b.name, styled "sweb-form-container"]
  exact hx.trans (infix_intercalate "\n" hl)

theorem initialValue_text {f : Field} {s : String} (hkind : f.kind ≠ .boolean) (hdefault : f.default = some (.text s)) :
    initialValue f = [attr "value" (escape s)] := by
  simp [initialValue, hdefault, hkind, Literal.inputText]

/-- the text after the start of a value, up to the quote that ends it -/
theorem exists_value (b : Binding) {fields : List Field} {f : Field} (hf : f ∈ fields) {s : String} (hkind : f.kind ≠ .boolean)
    (hdefault : f.default = some (.text s)) : ∃ before after : List Char,
      (form b fields).toList = before ++ ((valueStart b.name f).toList ++ after) ∧
        String.ofList (after.takeWhile (· ≠ '"')) = escape s := by
  have hquote : ∀ c ∈ (escape s).toList, decide (c ≠ '"') = true := by
    intro c hc
    simpa using (plain_escape s c hc).2
  have hinput : (opening "input" (inputAttributes b.name f)).toList =
      (valueStart b.name f).toList ++ ((escape s).toList ++ '"' :: ['>']) := by
    have hattributes : inputAttributes b.name f = ([attr "type" (inputType f), attr "id" (b.name ++ "-" ++ f.name),
        attr "name" f.name, styled "sweb-input", attr "data-field-type" f.kind.name] ++
          (if f.required then [flag "required"] else [])) ++ [attr "value" (escape s)] := by
      rw [inputAttributes, initialValue_text hkind hdefault]
    rw [hattributes, opening, valueStart, List.map_append, String.join_append]
    simp [attr, Attribute.text]
  obtain ⟨before, after, hform⟩ := infix_form b hf
  refine ⟨before, (escape s).toList ++ '"' :: ('>' :: after), ?_, ?_⟩
  · rw [← hform, hinput]
    simp
  · rw [List.takeWhile_append_of_pos hquote, List.takeWhile_cons_of_neg (by decide), List.append_nil, String.ofList_toList]

end Fragment

/-! ## Text of elements -/

namespace Fragment

/-- the text after a mark, up to the next tag -/
def textFrom (x : List Char × List Char) : String := String.ofList (x.2.takeWhile (· ≠ '<'))

def headingText? (s : String) : Option String := (occurrences "<h1>".toList s.toList).head?.map textFrom

def lastParagraphText? (s : String) : Option String := (occurrences "<p>".toList s.toList).getLast?.map textFrom

theorem textFrom_escape (u : List Char) (s : String) (v : List Char) :
    textFrom (u, (escape s).toList ++ '<' :: v) = escape s := by
  have hplain : ∀ c ∈ (escape s).toList, decide (c ≠ '<') = true := by
    intro c hc
    simpa using (plain_escape s c hc).1
  rw [textFrom, List.takeWhile_append_of_pos hplain, List.takeWhile_cons_of_neg (by decide), List.append_nil,
    String.ofList_toList]

theorem headingText?_shell (title body footer : String) : headingText? (shell title body footer) = some (escape title) := by
  have hstart : shellStart = "<div class=\"sweb-app\">\n  <header class=\"sweb-header\">\n    " ++ "<h1>" := by decide
  have hpage : (shell title body footer).toList =
      "<div class=\"sweb-app\">\n  <header class=\"sweb-header\">\n    ".toList ++
        ("<h1>".toList ++ ((escape title).toList ++ '<' :: (shellHead ++ ("\n" ++ body) ++
          (shellFoot ++ (escape footer ++ ("<" ++ shellEnd)))).toList)) := by
    rw [shell_eq, hstart]
    simp
  unfold headingText?
  rw [hpage, occurrences_put (by decide) (isClear_tail_ofList (by decide)) (isClear_ofList (by decide)), List.head?_cons,
    Option.map_some, textFrom_escape]

theorem lastParagraphText?_shell (title body footer : String) :
    lastParagraphText? (shell title body footer) = some (escape footer) := by
  have hfoot : shellFoot = "\n  </main>\n  <footer class=\"sweb-footer\">\n    " ++ "<p>" := by decide
  have hpage : (shell title body footer).toList = (shellStart ++ (escape title ++ ("<" ++ shellHead)) ++ ("\n" ++ body) ++
      "\n  </main>\n  <footer class=\"sweb-footer\">\n    ").toList ++
        ("<p>".toList ++ ((escape footer).toList ++ '<' :: shellEnd.toList)) := by
    rw [shell_eq, hfoot]
    simp
  have hclear : isClear "<p>".toList ((escape footer).toList ++ '<' :: shellEnd.toList) = true := by
    have hescape : '<' ∉ (escape footer).toList := fun h => (plain_escape footer _ h).1 rfl
    exact isClear_append (isClear_of_not_mem (by decide) hescape) (by decide)
  unfold lastParagraphText?
  rw [hpage, getLast?_occurrences (by decide) (isClear_tail_ofList (by decide)) _ hclear, Option.map_some, textFrom_escape]

end Fragment

/-- **Free text reads back.** A default that is a text, of a field that is no boolean, is what the value of its input says up
to the next quote. When names are of the class that every declared name is of, a form read tag by tag has one input for each
field, in their order and with their ids, and the value of each is its default. The title and the footer of a page can be
read off its heading and its last paragraph, whatever stands between them. -/
theorem free_text_reads_back :
    (∀ (b : Binding) (fields : List Field) (f : Field) (s : String), f ∈ fields → f.kind ≠ .boolean →
        f.default = some (.text s) → ∃ before after : List Char,
          (Fragment.form b fields).toList = before ++ ((Fragment.valueStart b.name f).toList ++ after) ∧
            unescape (String.ofList (after.takeWhile (· ≠ '"'))) = s) ∧
      (∀ (b : Binding) (fields : List Field), Name.isAccepted b.name.toList = true →
        (∀ f ∈ fields, Name.isAccepted f.name.toList = true) →
          (Fragment.inputTags (Fragment.form b fields)).map (attributeValues "id") =
              fields.map (fun f => [b.name ++ "-" ++ f.name]) ∧
            ∀ (i : Nat) (f : Field) (s : String), fields[i]? = some f → f.kind ≠ .boolean → f.default = some (.text s) →
              ∃ tag, (Fragment.inputTags (Fragment.form b fields))[i]? = some tag ∧
                (attributeValues "value" tag).map unescape = [s]) ∧
      ∀ title body footer : String,
        (Fragment.headingText? (Fragment.shell title body footer)).map unescape = some title ∧
          (Fragment.lastParagraphText? (Fragment.shell title body footer)).map unescape = some footer := by
  refine ⟨fun b fields f s hf hkind hdefault => ?_, fun b fields hb hfields => ⟨?_, fun i f s hi hkind hdefault => ?_⟩,
    fun title body footer => ⟨?_, ?_⟩⟩
  · obtain ⟨before, after, hform, hvalue⟩ := Fragment.exists_value b hf hkind hdefault
    exact ⟨before, after, hform, by rw [hvalue, unescape_escape]⟩
  · rw [Fragment.inputTags_form hb hfields, List.map_map]
    exact List.map_congr_left fun f hf => (Query.attributeValues_input hb (hfields f hf)).1
  · refine ⟨inside "input" (Fragment.inputAttributes b.name f), ?_, ?_⟩
    · rw [Fragment.inputTags_form hb hfields, List.getElem?_map, hi, Option.map_some]
    · rw [(Query.attributeValues_input hb (hfields f (List.mem_of_getElem? hi))).2,
        Fragment.initialValue_text hkind hdefault]
      simp [attr, unescape_escape]
  · rw [Fragment.headingText?_shell, Option.map_some, unescape_escape]
  · rw [Fragment.lastParagraphText?_shell, Option.map_some, unescape_escape]

/-- a note whose default looks like an entity, a value and the end of a tag -/
def Field.awkward : Field := ⟨"note", "text", true, some (.text "&amp;lt; \" value=\"it's\">")⟩

/-- a boolean whose default is not shown, and the note -/
def Field.awkwardList : List Field := [⟨"done", "boolean", false, some (.text "&lt;")⟩, Field.awkward]

theorem free_text_reads_back_awkward :
    Field.awkward ∈ Field.awkwardList ∧ Name.isAccepted "Sign".toList = true ∧
      (∀ f ∈ Field.awkwardList, Name.isAccepted f.name.toList = true) ∧
      (∃ before after : List Char, (Fragment.form ⟨"\"", "Note", []⟩ Field.awkwardList).toList =
          before ++ ((Fragment.valueStart "\"" Field.awkward).toList ++ after) ∧
        unescape (String.ofList (after.takeWhile (· ≠ '"'))) = "&amp;lt; \" value=\"it's\">") ∧
      (∃ tag, (Fragment.inputTags (Fragment.form ⟨"Sign", "Note", []⟩ Field.awkwardList))[1]? = some tag ∧
        (attributeValues "value" tag).map unescape = ["&amp;lt; \" value=\"it's\">"]) ∧
      (Fragment.headingText? (Fragment.shell "&amp;lt;</h1><h1>" "<h1>body</h1><p>" "</p><p>&#x27;")).map unescape =
        some "&amp;lt;</h1><h1>" ∧
      (Fragment.lastParagraphText? (Fragment.shell "&amp;lt;</h1><h1>" "<h1>body</h1><p>" "</p><p>&#x27;")).map unescape =
        some "</p><p>&#x27;" := by
  have hmem : Field.awkward ∈ Field.awkwardList := List.mem_cons_of_mem _ List.mem_cons_self
  have hname : Name.isAccepted "Sign".toList = true := by decide
  have hfields : ∀ f ∈ Field.awkwardList, Name.isAccepted f.name.toList = true := by decide
  obtain ⟨htext, hvalues, hpages⟩ := free_text_reads_back
  refine ⟨hmem, hname, hfields, ?_, ?_, hpages _ _ _⟩
  · exact htext ⟨"\"", "Note", []⟩ _ _ _ hmem (by decide) rfl
  · exact (hvalues ⟨"Sign", "Note", []⟩ _ hname hfields).2 1 _ _ rfl (by decide) rfl

end Pagewright
