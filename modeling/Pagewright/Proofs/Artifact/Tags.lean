/-
The tags of markup. `tags` reads a text from left to right and gives what stands between the angle brackets of each tag; an
angle bracket in a quoted value ends nothing. The values of an attribute are the quoted texts after its name
(`attributeValues`). Both read back what `opening` writes (`tagsFrom_opening`, `attributeValues_inside`).

A text `Collects` something when reading it off the tags of the text does not depend on what follows the text. Layout is
transparent for this, so what a fragment collects is told by its tags.
-/
import Pagewright.Proofs.Artifact.Pieces

namespace Pagewright.Html

open Text

/-! ## Reading tags -/

/-- where a character of markup stands: between tags, or in a tag, in a quoted value of it or not, after the characters
given -/
inductive Position where
  | text
  | tag (quoted : Bool) (read : List Char)

/-- the tags from a position on, without their angle brackets -/
def tagsFrom : Position → List Char → List (List Char)
  | _, [] => []
  | .text, c :: r => if c = '<' then tagsFrom (.tag false []) r else tagsFrom .text r
  | .tag quoted read, c :: r =>
    if quoted = false ∧ c = '>' then read :: tagsFrom .text r
    else tagsFrom (.tag (if c = '"' then !quoted else quoted) (read ++ [c])) r

/-- the tags of a text, without their angle brackets -/
def tags (s : String) : List (List Char) := tagsFrom .text s.toList

def tagName (tag : List Char) : String := String.ofList (tag.takeWhile (· ≠ ' '))

/-- the texts after a key, in a text that was split at its quotes: every second piece is a quoted value -/
def valuesAfter (key : List Char) : List (List Char) → List String
  | before :: value :: rest => (if key.isSuffixOf before then [String.ofList value] else []) ++ valuesAfter key rest
  | _ => []

def attributeValues (name : String) (tag : List Char) : List String :=
  valuesAfter (' ' :: (name.toList ++ ['='])) (tag.splitOn '"')

/-- what stands between the angle brackets of an opening tag -/
def inside (tag : String) (attributes : List Attribute) : List Char :=
  (tag ++ String.join (attributes.map Attribute.text)).toList

/-- an attribute that is read back: no character of its name and no quote in its value takes part in the layout of tags -/
structure Neat (a : Attribute) : Prop where
  name : ' ' ∉ a.name.toList ∧ '>' ∉ a.name.toList ∧ '"' ∉ a.name.toList
  value : ∀ v, a.value = some v → '"' ∉ v.toList

theorem neat_attr {n v : String} (hn : ' ' ∉ n.toList ∧ '>' ∉ n.toList ∧ '"' ∉ n.toList) (hv : Plain v) :
    Neat (attr n v) where
  name := hn
  value := by
    rintro w ⟨⟩ hquote
    exact (hv _ hquote).2 rfl

theorem neat_flag {n : String} (hn : ' ' ∉ n.toList ∧ '>' ∉ n.toList ∧ '"' ∉ n.toList) : Neat (flag n) where
  name := hn
  value := by
    intro v hv
    cases hv

/-! ## Tags that were written -/

theorem tagsFrom_text {s : List Char} (h : '<' ∉ s) (v : List Char) : tagsFrom .text (s ++ v) = tagsFrom .text v := by
  induction s with
  | nil => rfl
  | cons c s ih =>
    obtain ⟨hc, hs⟩ := not_or.1 (mt List.mem_cons.2 h)
    rw [List.cons_append, tagsFrom, if_neg (Ne.symm hc), ih hs]

/-- in a tag, what is quoted goes on to the next quote, and what is not to the next quote or angle bracket -/
theorem tagsFrom_tag {quoted : Bool} {s : List Char} (hquote : '"' ∉ s) (hend : quoted = false → '>' ∉ s)
    (read v : List Char) : tagsFrom (.tag quoted read) (s ++ v) = tagsFrom (.tag quoted (read ++ s)) v := by
  induction s generalizing read with
  | nil => rw [List.nil_append, List.append_nil]
  | cons c s ih =>
    obtain ⟨hc, hs⟩ := not_or.1 (mt List.mem_cons.2 hquote)
    have hgoes : ¬(quoted = false ∧ c = '>') := by
      rintro ⟨hq, rfl⟩
      exact hend hq List.mem_cons_self
    rw [List.cons_append, tagsFrom, if_neg hgoes, if_neg (Ne.symm hc),
      ih hs (fun hq hm => hend hq (List.mem_cons_of_mem c hm)), List.append_assoc, List.singleton_append]

theorem tagsFrom_quote (quoted : Bool) (read v : List Char) :
    tagsFrom (.tag quoted read) ('"' :: v) = tagsFrom (.tag (!quoted) (read ++ ['"'])) v := by
  rw [tagsFrom, if_neg (by simp), if_pos rfl]

theorem tagsFrom_attribute {a : Attribute} (h : Neat a) (read v : List Char) :
    tagsFrom (.tag false read) (a.text.toList ++ v) = tagsFrom (.tag false (read ++ a.text.toList)) v := by
  obtain ⟨⟨-, hend, hquote⟩, hvalue⟩ := h
  cases ha : a.value with
  | none =>
    have htext : a.text.toList = ' ' :: a.name.toList := by simp [Attribute.text, ha]
    rw [htext]
    exact tagsFrom_tag (by simp [hquote]) (fun _ => by simp [hend]) read v
  | some w =>
    have htext : a.text.toList = ' ' :: (a.name.toList ++ ['=']) ++ '"' :: (w.toList ++ ['"']) := by
      simp [Attribute.text, ha]
    have hparts : a.text.toList ++ v = (' ' :: (a.name.toList ++ ['='])) ++ '"' :: (w.toList ++ '"' :: v) := by simp [htext]
    rw [hparts, tagsFrom_tag (by simp [hquote]) (fun _ => by simp [hend]), tagsFrom_quote, Bool.not_false,
      tagsFrom_tag (hvalue w ha) (by simp), tagsFrom_quote, Bool.not_true, htext]
    simp

theorem tagsFrom_attributes {as : List Attribute} (h : ∀ a ∈ as, Neat a) (read v : List Char) :
    tagsFrom (.tag false read) ((String.join (as.map Attribute.text)).toList ++ v) =
      tagsFrom (.tag false (read ++ (String.join (as.map Attribute.text)).toList)) v := by
  induction as generalizing read with
  | nil => simp
  | cons a as ih =>
    obtain ⟨ha, has⟩ := List.forall_mem_cons.1 h
    rw [List.map_cons, String.join_cons, String.toList_append, List.append_assoc, tagsFrom_attribute ha, ih has,
      List.append_assoc]

/-- an opening tag is read as what stands between its angle brackets -/
theorem tagsFrom_opening {t : String} (ht : '>' ∉ t.toList ∧ '"' ∉ t.toList) {as : List Attribute}
    (has : ∀ a ∈ as, Neat a) (v : List Char) :
    tagsFrom .text ((opening t as).toList ++ v) = inside t as :: tagsFrom .text v := by
  have htext : (opening t as).toList ++ v =
      '<' :: (t.toList ++ ((String.join (as.map Attribute.text)).toList ++ '>' :: v)) := by
    simp [opening]
  rw [htext, tagsFrom, if_pos rfl, tagsFrom_tag ht.2 fun _ => ht.1, tagsFrom_attributes has, tagsFrom, if_pos ⟨rfl, rfl⟩,
    inside, String.toList_append, List.nil_append]

theorem tagsFrom_closing {t : String} (ht : '>' ∉ t.toList ∧ '"' ∉ t.toList) (v : List Char) :
    tagsFrom .text ((closing t).toList ++ v) = ('/' :: t.toList) :: tagsFrom .text v := by
  have htext : (closing t).toList ++ v = '<' :: (('/' :: t.toList) ++ '>' :: v) := by simp [closing]
  rw [htext, tagsFrom, if_pos rfl, tagsFrom_tag (by simp [ht.2]) fun _ => by simp [ht.1], tagsFrom, if_pos ⟨rfl, rfl⟩,
    List.nil_append]

theorem tagName_inside {t : String} (ht : ' ' ∉ t.toList) (as : List Attribute) : tagName (inside t as) = t := by
  have htake : ∀ r : List Char, r.head? = some ' ' ∨ r = [] → (t.toList ++ r).takeWhile (· ≠ ' ') = t.toList := by
    intro r hr
    rw [List.takeWhile_append_of_pos fun c hc => by simpa using fun he : c = ' ' => ht (he ▸ hc)]
    cases r with
    | nil => simp
    | cons c r =>
      obtain rfl : c = ' ' := by simpa using hr
      simp
  have hrest : (String.join (as.map Attribute.text)).toList.head? = some ' ' ∨
      (String.join (as.map Attribute.text)).toList = [] := by
    cases as with
    | nil => exact Or.inr rfl
    | cons a as =>
      left
      cases ha : a.value <;> simp [Attribute.text, ha]
  rw [tagName, inside, String.toList_append, htake _ hrest, String.ofList_toList]

/-! ## Attributes that were written -/

/-- of two texts that end with a name after a blank, one ends like the other exactly if the names are the same -/
theorem isSuffixOf_key {n m : List Char} (hn : ' ' ∉ n) (hm : ' ' ∉ m) (before : List Char) :
    (' ' :: (n ++ ['='])).isSuffixOf (before ++ ' ' :: (m ++ ['='])) = true ↔ m = n := by
  rw [List.isSuffixOf_iff_suffix]
  constructor
  · rintro ⟨u, hu⟩
    have hnames : u ++ ' ' :: n = before ++ ' ' :: m := by
      rw [← List.append_left_inj ['=']]
      simpa using hu
    have hreverse := congrArg (fun l => l.reverse.takeWhile (· ≠ ' ')) hnames
    have htake : ∀ x y : List Char, ' ' ∉ y → (x ++ ' ' :: y).reverse.takeWhile (· ≠ ' ') = y.reverse := by
      intro x y hy
      have hsplit : (x ++ ' ' :: y).reverse = y.reverse ++ ' ' :: x.reverse := by simp
      rw [hsplit, List.takeWhile_append_of_pos fun c hc => by
        simpa using fun he : c = ' ' => hy (he ▸ List.mem_reverse.1 hc)]
      simp
    simp only [htake _ _ hn, htake _ _ hm] at hreverse
    exact (List.reverse_inj.1 hreverse).symm
  · rintro rfl
    exact List.suffix_append _ _

/-- **Attributes are read back.** The values of an attribute in a tag are those that were written for it. -/
theorem attributeValues_inside {n t : String} (hn : ' ' ∉ n.toList) (ht : '"' ∉ t.toList) {as : List Attribute}
    (has : ∀ a ∈ as, Neat a) :
    attributeValues n (inside t as) = as.filterMap fun a => if a.name = n then a.value else none := by
  -- before an attribute stand the tag's name, or nothing after a quote, and attributes without a value
  have hany : ∀ before : List Char, '"' ∉ before → valuesAfter (' ' :: (n.toList ++ ['=']))
      ((before ++ (String.join (as.map Attribute.text)).toList).splitOn '"') =
        as.filterMap fun a => if a.name = n then a.value else none := by
    induction as with
    | nil =>
      intro before hbefore
      simp [List.splitOn_eq_singleton hbefore, valuesAfter]
    | cons a as ih =>
      obtain ⟨⟨⟨hblank, -, hquote⟩, hvalue⟩, has⟩ := List.forall_mem_cons.1 has
      intro before hbefore
      cases ha : a.value with
      | none =>
        have htext : a.text.toList = ' ' :: a.name.toList := by simp [Attribute.text, ha]
        have hlonger : '"' ∉ before ++ ' ' :: a.name.toList := by simp [hbefore, hquote]
        rw [List.map_cons, String.join_cons, String.toList_append, htext, ← List.append_assoc, ih has _ hlonger,
          List.filterMap_cons_none (by simp [ha])]
      | some w =>
        have htext : before ++ (a.text ++ String.join (as.map Attribute.text)).toList =
            (before ++ ' ' :: (a.name.toList ++ ['='])) ++ '"' ::
              (w.toList ++ '"' :: ([] ++ (String.join (as.map Attribute.text)).toList)) := by
          simp [Attribute.text, ha]
        have hkey : '"' ∉ before ++ ' ' :: (a.name.toList ++ ['=']) := by simp [hbefore, hquote]
        have hsame : (' ' :: (n.toList ++ ['='])).isSuffixOf (before ++ ' ' :: (a.name.toList ++ ['='])) = true ↔
            a.name = n := by
          rw [isSuffixOf_key hn hblank, String.toList_inj]
        rw [List.map_cons, String.join_cons, htext, List.splitOn_append_cons_self, List.splitOn_eq_singleton hkey,
          List.splitOn_append_cons_self, List.splitOn_eq_singleton (hvalue w ha), List.singleton_append,
          List.singleton_append, valuesAfter, ih has [] List.not_mem_nil, String.ofList_toList]
        by_cases hname : a.name = n
        · rw [if_pos (hsame.2 hname), List.filterMap_cons_some (by rw [if_pos hname, ha])]
          rfl
        · rw [if_neg (mt hsame.1 hname), List.filterMap_cons_none (by rw [if_neg hname])]
          rfl
  rw [attributeValues, inside, String.toList_append]
  exact hany t.toList ht

/-! ## What is read off the tags of a text -/

/-- a text of whole tags, and what `read` gives for them, whatever follows the text -/
def Collects {α : Type} (read : List Char → List α) (s : String) (xs : List α) : Prop :=
  ∀ v, (tagsFrom .text (s.toList ++ v)).flatMap read = xs ++ (tagsFrom .text v).flatMap read

def CollectsLines {α : Type} (read : List Char → List α) (ls : Lines) (xs : List α) : Prop :=
  ∃ parts, List.Forall₂ (Collects read) ls parts ∧ parts.flatten = xs

section

variable {α : Type} {read : List Char → List α} {s t : String} {xs ys : List α} {ls ms : Lines}

theorem Collects.eq (h : Collects read s xs) : (tags s).flatMap read = xs := by
  have hall := h []
  rw [List.append_nil] at hall
  exact hall.trans (List.append_nil xs)

theorem Collects.append (hs : Collects read s xs) (ht : Collects read t ys) : Collects read (s ++ t) (xs ++ ys) := by
  intro v
  rw [String.toList_append, List.append_assoc, hs, ht, List.append_assoc]

theorem collects_text (h : Plain s) : Collects read s [] := by
  intro v
  rw [tagsFrom_text fun hm => (h _ hm).1 rfl, List.nil_append]

theorem collects_ofList {l : List Char} (h : '<' ∉ l ∧ '"' ∉ l) : Collects read (String.ofList l) [] :=
  collects_text (plain_ofList h)

theorem collects_opening (ht : '>' ∉ t.toList ∧ '"' ∉ t.toList) {as : List Attribute} (has : ∀ a ∈ as, Neat a)
    (hread : read (inside t as) = xs) : Collects read (opening t as) xs := by
  intro v
  rw [tagsFrom_opening ht has, List.flatMap_cons, hread]

theorem collects_closing (ht : '>' ∉ t.toList ∧ '"' ∉ t.toList) (hread : read ('/' :: t.toList) = []) :
    Collects read (closing t) [] := by
  intro v
  rw [tagsFrom_closing ht, List.flatMap_cons, hread]

theorem Collects.inline {as : List Attribute} (hopen : Collects read (opening t as) xs) (hcontent : Collects read s ys)
    (hclose : Collects read (closing t) []) : Collects read (Html.inline t as s) (xs ++ ys) := by
  have h := (hopen.append hcontent).append hclose
  rwa [List.append_nil] at h

/-- texts in a row, of which nothing is read -/
theorem collects_join (h : ∀ l ∈ ls, Collects read l []) : Collects read (String.join ls) [] := by
  induction ls with
  | nil => exact collects_ofList (l := []) (by decide)
  | cons l ls ih =>
    obtain ⟨hl, hls⟩ := List.forall_mem_cons.1 h
    rw [String.join_cons]
    exact hl.append (ih hls)

namespace CollectsLines

theorem nil : CollectsLines read [] [] := ⟨[], .nil, rfl⟩

theorem cons (hs : Collects read s xs) : CollectsLines read ls ys → CollectsLines read (s :: ls) (xs ++ ys)
  | ⟨parts, h, hys⟩ => ⟨xs :: parts, .cons hs h, by rw [List.flatten_cons, hys]⟩

theorem line (hs : Collects read s xs) : CollectsLines read [s] xs := by
  have h := cons hs nil
  rwa [List.append_nil] at h

theorem append : CollectsLines read ls xs → CollectsLines read ms ys → CollectsLines read (ls ++ ms) (xs ++ ys)
  | ⟨parts, h, hxs⟩, ⟨parts', h', hys⟩ =>
    ⟨parts ++ parts', List.rel_append h h', by rw [List.flatten_append, hxs, hys]⟩

theorem flatMap {β : Type} {l : List β} {f : β → Lines} {g : β → List α} (h : ∀ b ∈ l, CollectsLines read (f b) (g b)) :
    CollectsLines read (l.flatMap f) (l.flatMap g) := by
  induction l with
  | nil => exact nil
  | cons b l ih =>
    obtain ⟨hb, hl⟩ := List.forall_mem_cons.1 h
    exact append hb (ih hl)

/-- a line for each item of a list -/
theorem forall₂ {R : β → String → Prop} {l : List β} (hls : List.Forall₂ R l ls) {f : β → List α}
    (h : ∀ b ∈ l, ∀ s, R b s → Collects read s (f b)) : CollectsLines read ls (l.flatMap f) := by
  induction hls with
  | nil => exact .nil
  | cons hb _ ih =>
    obtain ⟨hhead, htail⟩ := List.forall_mem_cons.1 h
    exact .cons (hhead _ hb) (ih htail)

theorem indent : CollectsLines read ls xs → CollectsLines read (indent ls) xs
  | ⟨parts, h, hxs⟩ => by
    refine ⟨parts, ?_, hxs⟩
    unfold Text.indent
    rw [List.forall₂_map_left_iff]
    refine h.imp fun l part hl => ?_
    unfold indentLine
    split
    · exact hl
    · exact (collects_ofList (l := [' ', ' ']) (by decide)).append hl

theorem orBlank (h : CollectsLines read ls xs) : CollectsLines read (orBlank ls) xs := by
  unfold Text.orBlank
  cases ls with
  | nil =>
    obtain ⟨parts, hparts, hxs⟩ := h
    cases hparts
    rw [← hxs]
    exact line (collects_ofList (l := []) (by decide))
  | cons l ls => exact h

theorem around {as : List Attribute} (hopen : Collects read (opening t as) xs) (h : CollectsLines read ls ys)
    (hclose : Collects read (closing t) []) : CollectsLines read (around t as ls) (xs ++ ys) := by
  have hall := append (append (line hopen) h) (line hclose)
  rwa [List.append_nil] at hall

theorem enclosing {as : List Attribute} (hopen : Collects read (opening t as) xs) (h : CollectsLines read ls ys)
    (hclose : Collects read (closing t) []) : CollectsLines read (enclosing t as ls) (xs ++ ys) :=
  around hopen h.indent hclose

/-- lines put together: a line end is no part of a tag -/
theorem unlines : CollectsLines read ls xs → Collects read (unlines ls) xs
  | ⟨parts, h, hxs⟩ => by
    subst hxs
    unfold Text.unlines
    induction h with
    | nil => exact collects_ofList (l := []) (by decide)
    | @cons l part ls parts hl h ih =>
      cases h with
      | nil => simpa using hl
      | cons hm h =>
        rw [String.intercalate_cons_cons, List.flatten_cons]
        have hend : Collects read "\n" [] := collects_ofList (by decide)
        have hline := hl.append hend
        rw [List.append_nil] at hline
        exact hline.append ih

end CollectsLines

end

end Pagewright.Html
