/-
Texts with tags that are always shown. Tags start at opening brackets, so a text without one is shown, and a label between a
tag and the tag that closes it may stand before such a text; a channel has to know this much of tags (`Channel.ShowsTags`),
and a channel that is no terminal does (`showsTags_piped`). So the texts that tell warnings are shown whatever names they
hold, since no name has a bracket, and those that tell of success are shown unless a path has one.
-/
import Mathlib.Data.List.TakeWhile
import Mathlib.Tactic
import Pagewright.Console.Command
import Pagewright.Console.Piped

namespace Pagewright.Console

/-- the tags that a command uses are known: a text is shown if it has no opening bracket, and so is one in which a label between
a tag for a colour and the tag that closes it stands before such a text -/
structure Channel.ShowsTags (c : Channel) : Prop where
  plain : ∀ s, '[' ∉ s.toList → ∃ shown, c.tagged s = .ok shown
  styled : ∀ style ∈ ["green", "yellow"], ∀ label rest : String, '[' ∉ label.toList → '\\' ∉ label.toList →
    '[' ∉ rest.toList → ∃ shown, c.tagged ("[" ++ style ++ "]" ++ label ++ "[/" ++ style ++ "]" ++ rest) = .ok shown

/-- pieces are shown after some tags: each tag among them opens a style or closes one that is open -/
def Shows (names : Emoji.Names) (opened : List String) (ps : List Piece) : Prop :=
  ∃ cs, shownPieces names opened ps = .ok cs

variable {names : Emoji.Names} {opened opened' : List String} {ps : List Piece}

theorem Shows.text (h : Shows names opened ps) (s : List Char) : Shows names opened (textPiece s ++ ps) := by
  unfold textPiece
  split_ifs
  · exact h
  · obtain ⟨cs, hcs⟩ := h
    exact ⟨shownPiece names s ++ cs, by rw [List.singleton_append, shownPieces, hcs]; rfl⟩

theorem Shows.tag {body : List Char} {position : Nat} (happly : applyTag opened body position = .ok opened')
    (h : Shows names opened' ps) : Shows names opened (.tag body position :: ps) := by
  obtain ⟨cs, hcs⟩ := h
  refine ⟨cs, ?_⟩
  rw [shownPieces, happly]
  exact hcs

/-! ## Pieces -/

/-- a text without an opening bracket has no tags -/
theorem shows_plain {s : List Char} (hs : '[' ∉ s) (opened : List String) (slashes position : Nat) (passed : List Char) :
    Shows names opened (piecesAfter slashes position passed s) := by
  induction s generalizing slashes position passed with
  | nil =>
    have hend : Shows names opened [] := ⟨[], rfl⟩
    rw [piecesAfter, ← List.append_nil (textPiece _)]
    exact hend.text _
  | cons c s ih =>
    obtain ⟨hc, hs⟩ := not_or.1 (mt List.mem_cons.2 hs)
    rw [piecesAfter, if_neg (Ne.symm hc)]
    split_ifs
    · exact ih hs _ _ _
    · exact ih hs _ _ _

/-- characters that mean nothing are passed -/
theorem piecesAfter_label {label : List Char} (hbracket : '[' ∉ label) (hslash : '\\' ∉ label) (position : Nat)
    (passed s : List Char) :
    piecesAfter 0 position passed (label ++ s) = piecesAfter 0 (position + label.length) (label.reverse ++ passed) s := by
  induction label generalizing position passed with
  | nil => rfl
  | cons c label ih =>
    obtain ⟨hc, hbracket⟩ := not_or.1 (mt List.mem_cons.2 hbracket)
    obtain ⟨hc', hslash⟩ := not_or.1 (mt List.mem_cons.2 hslash)
    rw [List.cons_append, piecesAfter, if_neg (Ne.symm hc'), if_neg (Ne.symm hc), ih hbracket hslash]
    simp [Nat.add_assoc, Nat.add_comm 1]

theorem tagBody_eq {c : Char} {body : List Char} (hc : startsTag c = true)
    (hbody : ∀ d ∈ c :: body, d ≠ ']' ∧ d ≠ '[') (s : List Char) :
    tagBody (c :: (body ++ ']' :: s)) = some (c :: body) := by
  have htake : (c :: body ++ ']' :: s).takeWhile (fun d => d ≠ ']' && d ≠ '[') = c :: body := by
    rw [List.takeWhile_append_of_pos (fun d hd => by simpa using hbody d hd), List.takeWhile_cons_of_neg (by simp),
      List.append_nil]
  have hdrop : (c :: body ++ ']' :: s).drop (c :: body).length = ']' :: s := List.drop_left
  rw [List.cons_append] at htake hdrop
  simp only [tagBody, htake, hdrop, hc, List.head?_cons, decide_true, Bool.and_self, if_true]

/-- a tag is a piece of its own -/
theorem piecesAfter_tag {c : Char} {body : List Char} (hc : startsTag c = true)
    (hbody : ∀ d ∈ c :: body, d ≠ ']' ∧ d ≠ '[') (position : Nat) (passed s : List Char) :
    piecesAfter 0 position passed ('[' :: c :: (body ++ ']' :: s)) =
      textPiece passed.reverse ++
        (.tag (c :: body) position :: piecesAfter 0 (position + (c :: body).length + 2) [] s) := by
  have hdrop : (c :: (body ++ ']' :: s)).drop ((c :: body).length + 1) = s := by simp
  rw [piecesAfter, if_neg (by decide), if_pos rfl, tagBody_eq hc hbody]
  simp only [hdrop]
  rw [if_neg (by decide), List.append_assoc]
  rfl

/-! ## Styles -/

section

variable {c : Char} {name : List Char} {style : String} (hname : (c :: name).all Char.isLower = true)
  (hstyle : tagStyle (c :: name) = .ok style)

include hname

theorem ne_of_isLower {d : Char} (hd : d.isLower = false) : ∀ e ∈ c :: name, e ≠ d := by
  rintro e he rfl
  rw [List.all_eq_true.1 hname e he] at hd
  cases hd

theorem takeWhile_style : (c :: name).takeWhile (· ≠ '=') = c :: name :=
  List.takeWhile_eq_self_iff.2 fun d hd => decide_eq_true (ne_of_isLower hname (by decide) d hd)

include hstyle

theorem applyTag_open (opened : List String) (position : Nat) :
    applyTag opened (c :: name) position = .ok (style :: opened) := by
  have hslash : c ≠ '/' := ne_of_isLower hname (by decide) c List.mem_cons_self
  unfold applyTag
  rw [takeWhile_style hname]
  split
  · next heq => exact absurd (List.cons.inj heq).1 hslash
  · rw [hstyle]
    rfl

theorem applyTag_close (hblank : Text.allBlank (String.ofList (c :: name)) = false) (opened : List String)
    (position : Nat) : applyTag (style :: opened) ('/' :: c :: name) position = .ok opened := by
  unfold applyTag
  rw [List.takeWhile_cons_of_pos (by decide), takeWhile_style hname]
  simp only [hblank, hstyle, closeNamed, if_true]
  rfl

/-- a label in a style, and after it a text without an opening bracket -/
theorem exists_shownText_styled (hblank : Text.allBlank (String.ofList (c :: name)) = false) {label rest : List Char}
    (hlabel : '[' ∉ label ∧ '\\' ∉ label) (hrest : '[' ∉ rest) {s : String}
    (hs : s.toList = '[' :: c :: (name ++ ']' :: (label ++ '[' :: '/' :: (c :: name ++ ']' :: rest)))) :
    ∃ cs, shownText names s = .ok cs := by
  have hstart : startsTag c = true := by
    simp [startsTag, List.all_eq_true.1 hname c List.mem_cons_self]
  have hbody : ∀ d ∈ c :: name, d ≠ ']' ∧ d ≠ '[' := fun d hd =>
    ⟨ne_of_isLower hname (by decide) d hd, ne_of_isLower hname (by decide) d hd⟩
  have hclose : ∀ d ∈ '/' :: c :: name, d ≠ ']' ∧ d ≠ '[' := List.forall_mem_cons.2 ⟨by decide, hbody⟩
  show Shows names [] (piecesOf s.toList)
  rw [piecesOf, hs, piecesAfter_tag hstart hbody, piecesAfter_label hlabel.1 hlabel.2, piecesAfter_tag rfl hclose]
  -- from the last piece to the first, with the styles that are open before each
  have hend := @shows_plain names _ hrest [] 0 (0 + (c :: name).length + 2 + label.length + ('/' :: c :: name).length + 2) []
  have hclosed := hend.tag (applyTag_close hname hstyle hblank [] (0 + (c :: name).length + 2 + label.length))
  exact Shows.text (.tag (applyTag_open hname hstyle _ _) (hclosed.text _)) _

end

/-- a channel that is no terminal knows the tags -/
theorem showsTags_piped (names : Emoji.Names) : (Channel.piped names).ShowsTags where
  plain s hs := by
    obtain ⟨cs, hcs⟩ : Shows names [] (piecesOf s.toList) := shows_plain hs _ _ _ _
    exact ⟨wrap cs, congrArg (Except.map wrap) hcs⟩
  styled style hstyle label rest hbracket hslash hrest := by
    have hshown : ∃ cs, shownText names ("[" ++ style ++ "]" ++ label ++ "[/" ++ style ++ "]" ++ rest) = .ok cs := by
      rcases List.mem_pair.1 hstyle with rfl | rfl
      · have hname : ['g', 'r', 'e', 'e', 'n'].all Char.isLower = true := by decide
        have hstyle : tagStyle ['g', 'r', 'e', 'e', 'n'] = .ok "green" := by decide
        exact exists_shownText_styled hname hstyle (by decide) ⟨hbracket, hslash⟩ hrest (by simp)
      · have hname : ['y', 'e', 'l', 'l', 'o', 'w'].all Char.isLower = true := by decide
        have hstyle : tagStyle ['y', 'e', 'l', 'l', 'o', 'w'] = .ok "yellow" := by decide
        exact exists_shownText_styled hname hstyle (by decide) ⟨hbracket, hslash⟩ hrest (by simp)
    obtain ⟨cs, hcs⟩ := hshown
    exact ⟨wrap cs, congrArg (Except.map wrap) hcs⟩

/-! ## The texts of a command -/

variable {c : Channel}

theorem shownTexts_eq_none {texts : List String} (h : ∀ s ∈ texts, ∃ shown, c.tagged s = .ok shown) :
    (shownTexts c texts).2 = none := by
  induction texts with
  | nil => rfl
  | cons s texts ih =>
    obtain ⟨⟨shown, hshown⟩, hrest⟩ := List.forall_mem_cons.1 h
    rw [shownTexts, hshown]
    exact ih hrest

/-- warnings without brackets are shown -/
theorem shownTexts_warnings (hc : c.ShowsTags) {warnings : List String} (h : ∀ s ∈ warnings, '[' ∉ s.toList) :
    (shownTexts c (warningTexts warnings)).2 = none := by
  refine shownTexts_eq_none fun s hs => ?_
  obtain ⟨w, hw, rfl⟩ := List.mem_map.1 hs
  have hrest : '[' ∉ (" " ++ w).toList := by simpa using h w hw
  have hshown := hc.styled "yellow" (by decide) "warning:" (" " ++ w) (by decide) (by decide) hrest
  rwa [← String.append_assoc] at hshown

/-- what is said of success is shown if there are no brackets in the paths -/
theorem shownTexts_success (hc : c.ShowsTags) {file out : Files.Path} (hfile : '[' ∉ file.text.toList)
    (hout : '[' ∉ out.text.toList) : (shownTexts c (successTexts file out)).2 = none := by
  refine shownTexts_eq_none (List.forall_mem_cons.2 ⟨?_, List.forall_mem_singleton.2 ?_⟩)
  · have hrest : '[' ∉ (" " ++ file.text).toList := by simpa using hfile
    have hshown := hc.styled "green" (by decide) "Successfully compiled" (" " ++ file.text) (by decide) (by decide) hrest
    rwa [← String.append_assoc] at hshown
  · refine hc.plain _ ?_
    rw [String.toList_append, List.mem_append, not_or]
    exact ⟨by decide, hout⟩

end Pagewright.Console
