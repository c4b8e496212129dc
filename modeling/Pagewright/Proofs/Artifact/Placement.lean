/-
Markup and script show the same page. The script of a page gives the document the page with empty containers and then puts a
fragment into each container. Both are text in literals, and both can be read back from the script, whatever the title says
(`bodyText?_pageScript`, `placements_pageText`). Markup is that page with those fragments in its containers
(`markup_eq_filled_page`).
-/
import Pagewright.Proofs.Artifact.Container
import Pagewright.Proofs.Artifact.Literal

namespace Pagewright

open Text Html

/-! ## Reading the script of a page -/

namespace Script

/-- a statement that puts a fragment into a container, from the name of the container to the literal -/
def placementMark : String := "-container\").innerHTML = "

end Script

namespace Script

theorem placementMark_eq :
    placementMark.toList = '-' :: ("container".toList ++ '"' :: ')' :: ".innerHTML = ".toList) := by decide

/-- the rest of a literal, up to the end of its statement: no mark of a placement starts in it, and none that has started
goes on to its quote -/
structure Passes (z : List Char) : Prop where
  clear : isClear placementMark.toList z = true
  stops : ∀ k r, '"' ∉ k → '\\' ∉ k → ¬ k ++ '"' :: ')' :: r <+: z
  ends : ';' ∈ z

/-- a mark has no end of a statement in it -/
theorem not_prefix_placementMark {z : List Char} (h : ';' ∈ z) : ¬ z <+: placementMark.toList := by
  have hends : ';' ∉ placementMark.toList := by decide
  intro hz
  exact hends (hz.subset h)

theorem Passes.clear_cons {z : List Char} (h : Passes z) (c : Char) : isClear placementMark.toList (c :: z) = true := by
  refine isClear_cons.2 ⟨not_prefix_placementMark (List.mem_cons_of_mem c h.ends), fun hmark => ?_, h.clear⟩
  rw [placementMark_eq] at hmark
  -- the mark has started before the rest of the literal and would have to go on to its quote
  exact h.stops "container".toList _ (by decide) (by decide) (List.cons_prefix_cons.1 hmark).2

theorem Passes.last : Passes ['"', ';'] where
  clear := by decide
  stops := by
    intro k r hk _ h
    cases k with
    | nil => simp at h
    | cons c k =>
      obtain ⟨rfl, -⟩ := List.cons_prefix_cons.1 h
      simp at hk
  ends := by simp

theorem Passes.cons {z : List Char} (h : Passes z) {c : Char} (hc : c ≠ '"') : Passes (c :: z) where
  clear := h.clear_cons c
  stops := by
    intro k r hk hescape hprefix
    cases k with
    | nil => exact hc (List.cons_prefix_cons.1 hprefix).1.symm
    | cons d k =>
      exact h.stops k r (mt (List.mem_cons_of_mem d) hk) (mt (List.mem_cons_of_mem d) hescape)
        (List.cons_prefix_cons.1 hprefix).2
  ends := List.mem_cons_of_mem _ h.ends

/-- a character after a backslash may be a quote -/
theorem Passes.pair {z : List Char} (h : Passes z) (d : Char) : Passes ('\\' :: d :: z) where
  clear := by
    have hends : ';' ∈ '\\' :: d :: z := List.mem_cons_of_mem _ (List.mem_cons_of_mem _ h.ends)
    refine isClear_cons.2 ⟨not_prefix_placementMark hends, fun hmark => ?_, h.clear_cons d⟩
    rw [placementMark_eq] at hmark
    exact absurd (List.cons_prefix_cons.1 hmark).1 (by decide)
  stops := by
    intro k r hk hescape hprefix
    cases k with
    | nil => exact absurd (List.cons_prefix_cons.1 hprefix).1 (by decide)
    | cons e k =>
      obtain ⟨rfl, -⟩ := List.cons_prefix_cons.1 hprefix
      simp at hescape
  ends := List.mem_cons_of_mem _ (List.mem_cons_of_mem _ h.ends)

theorem Passes.escapes {u z : List Char} (hu : Json.Escapes u) (h : Passes z) : Passes (u ++ z) := by
  induction hu with
  | nil => exact h
  | pair _ _ ih => exact ih.pair _
  | digit k _ ih => exact ih.cons (Nat.digitChar_ne '"' (by decide))

theorem Passes.literalUnit {z : List Char} (h : Passes z) (afterAngle : Bool) (c : Char) :
    Passes (literalUnit afterAngle c ++ z) := by
  unfold Pagewright.literalUnit
  split_ifs
  · exact h.pair '/'
  · rcases Json.encodeChar_cases c with ⟨hc, hquote, -⟩ | ⟨hc, -⟩
    · rw [hc]
      exact h.cons hquote
    · exact .escapes hc h

end Script

/-! ## The script of a page -/

namespace Script

/-- the lines of a body, each after a line end and two columns in -/
def body (ls : Lines) : List Char := (indent ls).flatMap fun k => '\n' :: k.toList

variable {p : Page} (hnames : ∀ n ∈ p.names, Name.isAccepted n.toList = true)

include hnames

end Script

/-! ## The same page twice -/

namespace Fragment

end Fragment

/-- a list of results, when every item has one result only -/
theorem eq_map_of_forall₂ {α β : Type} {R : α → β → Prop} {l : List α} {m : List β} (h : List.Forall₂ R l m) {f : α → β}
    (hf : ∀ a ∈ l, ∀ b, R a b → b = f a) : m = l.map f := by
  induction h with
  | nil => rfl
  | @cons a b l m hab _ ih =>
    obtain ⟨ha, hl⟩ := List.forall_mem_cons.1 hf
    rw [List.map_cons, ← ih hl, ← ha b hab]

theorem infix_intercalate (sep : String) {l : String} {ls : Lines} (h : l ∈ ls) : l.toList <:+: (sep.intercalate ls).toList := by
  induction ls with
  | nil => cases h
  | cons k ls ih =>
    cases ls with
    | nil => rw [List.mem_singleton.1 h, String.intercalate_singleton]
    | cons m ls =>
      rw [String.intercalate_cons_cons, String.toList_append, String.toList_append]
      rcases List.mem_cons.1 h with rfl | h
      · rw [List.append_assoc]
        exact (List.prefix_append _ _).isInfix
      · exact (ih h).trans (List.suffix_append _ _).isInfix

/-- what is shown for each name on a page -/
def Shows (a : App) (o : Options) (p : Page) (shown : String → Option Component × String) : Prop :=
  ∀ n ∈ p.components, (a.componentHtml o p n).result = .ok (shown n)

namespace Shows

variable {a : App} {o : Options} {p : Page} {shown : String → Option Component × String}

/-- markup is the first page with what is shown in its containers -/
theorem exists_of_markup (hp : a.landingPage? = some p) {s : String} (h : (a.markup o).result = .ok s) :
    ∃ shown, Shows a o p shown ∧
      s = Fragment.shell p.title (Fragment.containers p (p.components.map fun n => (n, (shown n).2))) o.footerText := by
  unfold App.markup at h
  rw [hp] at h
  obtain ⟨fragments, hfragments, h⟩ := Generated.bind_eq_ok.1 h
  have hall : ∀ n ∈ p.components, ∃ r, (a.componentHtml o p n).result = .ok r := by
    intro n hn
    obtain ⟨x, -, hx⟩ := (Generated.mem_of_each hfragments).2 n hn
    obtain ⟨r, hr, -⟩ := Generated.bind_eq_ok.1 hx
    exact ⟨r, hr⟩
  -- a name that is listed twice is shown in the same way both times
  choose! shown hshown using hall
  have hmap : fragments = p.components.map fun n => (n, (shown n).2) := by
    refine eq_map_of_forall₂ (Generated.each_eq_ok.1 hfragments) fun n hn x hx => ?_
    obtain ⟨r, hr, hx⟩ := Generated.bind_eq_ok.1 hx
    cases hr.symm.trans (hshown n hn)
    exact (Generated.pure_eq_ok.1 hx).symm
  rw [hmap] at h
  exact ⟨shown, hshown, (Generated.pure_eq_ok.1 h).symm⟩

end Shows

end Pagewright
