/-
Script literals of whole values. The backslash before the slash of a closing tag is put into the finished text, and a text
is the only part of a value in which `<` can stand: the marks of lists and objects split the guarded text where they split
the value (`guardClosing_commaJoined`). So the literals are one more way to write values (`writing_guarded`), and what holds
of all of them gives the main result (`scriptLiteral_decodes`): a literal is printable ASCII, and, where there are no halves,
it is read back as its value, and no two values share one.
-/
import Mathlib.Tactic
import Pagewright.Proofs.Artifact.Literal
import Pagewright.Proofs.Json.Joined

namespace Pagewright

open Json

/-- what does not start with a slash is guarded by itself -/
theorem guardClosing_split (u : List Char) {c : Char} (hc : c ≠ '/') (t : List Char) :
    guardClosing (u ++ c :: t) = guardClosing u ++ guardClosing (c :: t) := by
  fun_induction guardClosing u with
  | case1 => rfl
  | case2 r ih => simp only [List.cons_append, guardClosing, ih]
  | case3 d r hnot ih =>
    rw [List.cons_append, List.cons_append, ← ih]
    rw [guardClosing]
    intro r' hd hr'
    cases r with
    | nil => exact hc (List.cons.inj hr').1
    | cons d' r =>
      obtain ⟨rfl, rfl⟩ := List.cons.inj hr'
      exact hnot r hd rfl

theorem guardClosing_commaJoined (us : List (List Char)) :
    guardClosing (commaJoined us) = commaJoined (us.map guardClosing) := by
  induction us with
  | nil => rfl
  | cons u us ih =>
    cases us with
    | nil => rw [List.map_cons, List.map_nil, commaJoined_singleton, commaJoined_singleton]
    | cons u' us =>
      have hrest : (u' :: us).map guardClosing ≠ [] := by simp
      rw [commaJoined_cons u (List.cons_ne_nil u' us), guardClosing_split u (by decide), guardClosing_cons_of_ne (by decide),
        guardClosing_cons_of_ne (by decide), ih, ← commaJoined_cons _ hrest, List.map_cons, List.map_cons, List.map_cons]

/-- texts between two marks -/
theorem guardClosing_enclosed (us : List (List Char)) {a b : Char} (ha : a ≠ '<') (hb : b ≠ '/') :
    guardClosing (a :: commaJoined us ++ [b]) = a :: commaJoined (us.map guardClosing) ++ guardClosing [b] := by
  rw [List.cons_append, guardClosing_cons_of_ne ha, guardClosing_split _ hb, guardClosing_commaJoined, List.cons_append]

def guarded (v : Value) : List Char := guardClosing v.compact.toList

theorem guarded_text (w : Text.Wide) : guarded (.text w) = guardClosing (encodeText w).toList := by
  rw [guarded, Value.compact]

theorem guardClosing_memberText (m : Text.Wide × Value) :
    guardClosing (memberText (fun v => v.compact.toList) m) = memberText guarded m := by
  rw [memberText, guardClosing_split _ (by decide), guardClosing_cons_of_ne (by decide), guardClosing_cons_of_ne (by decide)]
  rfl

theorem writing_guarded : Writing guarded where
  null := by decide
  truth b := by cases b <;> decide
  int n := by
    rw [guarded, Value.compact]
    exact guardClosing_of_isWordy fun _ => isWordy_intText
  quoted w := ⟨_, by rw [guarded_text, guardClosing_encodeText]⟩
  text w position rest more := by rw [guarded_text, readText_guardClosing]
  array vs := by
    rw [guarded, toList_compact_array, guardClosing_enclosed _ (by decide) (by decide), List.map_map]
    rfl
  object ms := by
    have hmembers : guardClosing ∘ memberText (fun v => v.compact.toList) = memberText guarded := by
      funext m
      rw [Function.comp_apply, guardClosing_memberText]
    rw [guarded, toList_compact_object, guardClosing_enclosed _ (by decide) (by decide), List.map_map, hmembers]
    rfl

/-- guarding adds nothing but backslashes -/
theorem mem_of_mem_guardClosing {u : List Char} {c : Char} (h : c ∈ guardClosing u) : c ∈ u ∨ c = '\\' := by
  fun_induction guardClosing u with
  | case1 => cases h
  | case2 r ih =>
    simp only [List.mem_cons] at h ⊢
    tauto
  | case3 d r _ ih =>
    simp only [List.mem_cons] at h ⊢
    tauto

theorem toList_scriptLiteral {v : Value} (h : v ≠ .null) : (scriptLiteral v).toList = guarded v := by
  rw [scriptLiteral, String.toList_ofList, guarded]
  exact h

theorem printable_scriptLiteral {v : Value} (hv : v.IsPlain) : ∀ c ∈ (scriptLiteral v).toList, IsPrintable c := by
  by_cases h : v = .null
  · subst h
    exact printable_of_all (by decide)
  · rw [toList_scriptLiteral h]
    intro c hc
    rcases mem_of_mem_guardClosing hc with hc | rfl
    · exact hv.printable c hc
    · decide

theorem parse_scriptLiteral {v : Value} (hv : v.IsPlain) (hhalf : v.hasHalf = false) (h : v ≠ .null) :
    parse (scriptLiteral v) = .ok v := by
  rw [writing_guarded.parse_eq hv (toList_scriptLiteral h), joined_of_hasHalf hv hhalf]

/-- null alone has a literal that is no structured data, so no other value shares it -/
theorem scriptLiteral_ne_null {v : Value} (hv : v.IsPlain) (hhalf : v.hasHalf = false) (h : v ≠ .null) :
    scriptLiteral v ≠ scriptLiteral .null := by
  intro hsame
  have hundefined : parse (scriptLiteral .null) = .error (.malformed 0) := by
    rw [scriptLiteral, parse]
    rfl
  rw [← hsame, parse_scriptLiteral hv hhalf h] at hundefined
  cases hundefined

theorem scriptLiteral_inj {v w : Value} (hv : v.IsPlain) (hvhalf : v.hasHalf = false) (hw : w.IsPlain)
    (hwhalf : w.hasHalf = false) (h : scriptLiteral w = scriptLiteral v) : w = v := by
  by_cases hnull : v = .null
  · subst hnull
    by_contra hne
    exact scriptLiteral_ne_null hw hwhalf hne h
  · have hnull' : w ≠ .null := by
      rintro rfl
      exact scriptLiteral_ne_null hv hvhalf hnull h.symm
    have hparse := parse_scriptLiteral hw hwhalf hnull'
    rw [h, parse_scriptLiteral hv hvhalf hnull] at hparse
    exact (Except.ok.inj hparse).symm

/-- **Script literals decode back.** The literal of a value without halves is printable ASCII, and it is read back as the
value; only that of null alone is no structured data. No two such values share a literal. -/
theorem scriptLiteral_decodes {v : Value} (hv : v.IsPlain) (hhalf : v.hasHalf = false) :
    (∀ c ∈ (scriptLiteral v).toList, 0x20 ≤ c.toNat ∧ c.toNat ≤ 0x7E) ∧
      (v ≠ .null → parse (scriptLiteral v) = .ok v) ∧
      ∀ w : Value, w.IsPlain → w.hasHalf = false → scriptLiteral w = scriptLiteral v → w = v :=
  ⟨printable_scriptLiteral hv, parse_scriptLiteral hv hhalf, fun _ hw hwhalf => scriptLiteral_inj hv hhalf hw hwhalf⟩

/-- closing tags in a key and in a text, a pair of units, escapes, and empty parts -/
def hardValue : Value :=
  .object [("a</b", .array [.text "</\n\"\\\u007f😀", .int (-120), .bool true, .null, .array []]), ("", .object [])]

theorem plain_hardValue : hardValue.IsPlain := by
  refine .object (by decide) (List.forall_mem_cons.2 ⟨.array ?_, List.forall_mem_singleton.2 (.object (by decide) ?_)⟩)
  · simp only [List.forall_mem_cons]
    exact ⟨.text _, .int (by decide), .bool _, .null, .array (List.forall_mem_nil _), List.forall_mem_nil _⟩
  · exact List.forall_mem_nil _

theorem scriptLiteral_decodes_hardValue : hardValue.IsPlain ∧ hardValue.hasHalf = false ∧
    scriptLiteral hardValue = "\x7b\"a<\\/b\": [\"<\\/\\n\\\"\\\\\\u007f\\ud83d\\ude00\", " ++
      "-120, true, null, []], \"\": \x7b\x7d\x7d" ∧
    parse (scriptLiteral hardValue) = .ok hardValue :=
  ⟨plain_hardValue, rfl, by decide, (scriptLiteral_decodes plain_hardValue rfl).2.1 (by rintro ⟨⟩)⟩

end Pagewright
