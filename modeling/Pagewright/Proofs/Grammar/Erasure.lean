/-
Lenient reading is erasure. What it reads from some tokens is what strict reading reads from those that it does not
skip, and what strict reading reads, lenient reading reads without skipping anything.

Both are shown rule by rule. `Erases R R'` says that whatever `R` reads, `R'` reads from the tokens kept; a repetition
also loses the items that stand for skipped tokens. `Keeps R R'` says that whatever `R` reads, it reads without skipping
and `R'` reads it too.
-/
import Pagewright.Proofs.Grammar.Language

namespace Pagewright.Grammar

/-! ## Erased tokens -/

/-- tokens fall into skipped ones and kept ones, both in their order -/
inductive Erasure : List Token → List Token → List Token → Prop
  | nil : Erasure [] [] []
  | skip (t : Token) {ts sk keep : List Token} (h : Erasure ts sk keep) : Erasure (t :: ts) (t :: sk) keep
  | keep (t : Token) {ts sk keep : List Token} (h : Erasure ts sk keep) : Erasure (t :: ts) sk (t :: keep)

theorem Erasure.none (ts : List Token) : Erasure ts [] ts := by
  induction ts with
  | nil => exact .nil
  | cons t ts ih => exact .keep t ih

theorem Erasure.append {ts sk keep us sl more : List Token} (h : Erasure ts sk keep) (h' : Erasure us sl more) :
    Erasure (ts ++ us) (sk ++ sl) (keep ++ more) := by
  induction h with
  | nil => exact h'
  | skip t _ ih => exact .skip t ih
  | keep t _ ih => exact .keep t ih

theorem Erasure.mem {ts sk keep : List Token} (h : Erasure ts sk keep) (t : Token) : t ∈ ts ↔ t ∈ sk ∨ t ∈ keep := by
  induction h with
  | nil => simp
  | skip u _ ih => simp only [List.mem_cons, ih, or_assoc]
  | keep u _ ih => simp only [List.mem_cons, ih, or_left_comm]

/-- when no token occurs twice, the kept ones are those that are not skipped -/
theorem Erasure.eq_filter {ts sk keep : List Token} (h : Erasure ts sk keep) (hts : ts.Nodup) :
    keep = ts.filter (fun t => t ∉ sk) := by
  induction h with
  | nil => rfl
  | @skip t ts sk keep h ih =>
    obtain ⟨ht, hts⟩ := List.nodup_cons.1 hts
    rw [List.filter_cons_of_neg (by simp), ih hts]
    refine List.filter_congr fun u hu => ?_
    have hne : u ≠ t := fun e => ht (e ▸ hu)
    simp [hne]
  | @keep t ts sk keep h ih =>
    obtain ⟨ht, hts⟩ := List.nodup_cons.1 hts
    have hsk : t ∉ sk := fun hs => ht ((h.mem t).2 (Or.inl hs))
    rw [List.filter_cons_of_pos (by simpa using hsk), ← ih hts]

/-! ## Rules that erase -/

/-- whatever the first rule reads, the second reads from the tokens kept, up to `V` -/
def Erases {α β : Type} (V : α → β → Prop) (R : Rule α) (R' : Rule β) : Prop :=
  ∀ ts sk a, R ts sk a → ∃ keep b, Erasure ts sk keep ∧ R' keep [] b ∧ V a b

theorem erases_token (P : Token → Prop) : Erases Eq (Rule.token P) (Rule.token P) := by
  rintro _ _ t ⟨rfl, rfl, ht⟩
  exact ⟨[t], t, .none _, ⟨rfl, rfl, ht⟩, rfl⟩

theorem erases_given {α : Type} (c : Prop) (a : α) : Erases Eq (Rule.given c a) (Rule.given c a) := by
  rintro _ _ _ ⟨hc, rfl, rfl, rfl⟩
  exact ⟨[], _, .nil, ⟨hc, rfl, rfl, rfl⟩, rfl⟩

theorem erases_pure {α β : Type} {V : α → β → Prop} {a : α} {b : β} (h : V a b) :
    Erases V (pure a : Rule α) (pure b) := by
  rintro _ _ _ ⟨rfl, rfl, rfl⟩
  exact ⟨[], b, .nil, ⟨rfl, rfl, rfl⟩, h⟩

theorem erases_bind {α α' β β' : Type} {V : α → α' → Prop} {W : β → β' → Prop} {R : Rule α} {R' : Rule α'}
    {Q : α → Rule β} {Q' : α' → Rule β'} (hR : Erases V R R') (hQ : ∀ a a', V a a' → Erases W (Q a) (Q' a')) :
    Erases W (R >>= Q) (R' >>= Q') := by
  rintro _ _ b ⟨a, ts₁, ts₂, sk₁, sk₂, rfl, rfl, h₁, h₂⟩
  obtain ⟨keep₁, a', he₁, h₁', hV⟩ := hR _ _ _ h₁
  obtain ⟨keep₂, b', he₂, h₂', hW⟩ := hQ a a' hV _ _ _ h₂
  exact ⟨keep₁ ++ keep₂, b', he₁.append he₂, ⟨a', keep₁, keep₂, [], [], rfl, rfl, h₁', h₂'⟩, hW⟩

/-- a sequence whose first rules give the same value -/
theorem erases_then {α β β' : Type} {W : β → β' → Prop} {R R' : Rule α} {Q : α → Rule β} {Q' : α → Rule β'}
    (hR : Erases Eq R R') (hQ : ∀ a, Erases W (Q a) (Q' a)) : Erases W (R >>= Q) (R' >>= Q') :=
  erases_bind hR fun a _ e => e ▸ hQ a

/-- a repetition of items and skipped tokens loses the skipped ones -/
theorem erases_star {α : Type} {R R' : Rule α} {P P' : Token → Prop} {junk : α} (real : α → Bool)
    (hR : Erases Eq R R') (hreal : ∀ ts sk a, R ts sk a → real a = true) (hjunk : real junk = false) :
    Erases (fun as bs => bs = as.filter real) (Rule.star (.either R (.skip P junk)))
      (Rule.star (.either R' (.skip P' junk))) := by
  intro ts sk as h
  induction h with
  | nil => exact ⟨[], [], .nil, .nil, rfl⟩
  | @cons ts us sk sl a as h hs ih =>
    obtain ⟨more, _, he, hbs, rfl⟩ := ih
    rcases h with h | ⟨t, rfl, rfl, -, rfl⟩
    · obtain ⟨keep, _, hk, hR', rfl⟩ := hR ts sk a h
      have hkept : Rule.Star _ (keep ++ more) [] (a :: as.filter real) := .cons (Or.inl hR') hbs
      exact ⟨keep ++ more, _, hk.append he, hkept, (List.filter_cons_of_pos (hreal ts sk a h)).symm⟩
    · refine ⟨more, as.filter real, .skip t he, hbs, (List.filter_cons_of_neg ?_).symm⟩
      simp [hjunk]

/-! ## Rules that skip nothing -/

/-- whatever the first rule reads, it reads without skipping, and the second reads it too -/
def Keeps {α : Type} (R R' : Rule α) : Prop := ∀ ts sk a, R ts sk a → sk = [] ∧ R' ts [] a

theorem keeps_token (P : Token → Prop) : Keeps (Rule.token P) (Rule.token P) := by
  rintro _ _ t ⟨rfl, rfl, ht⟩
  exact ⟨rfl, rfl, rfl, ht⟩

theorem keeps_given {α : Type} (c : Prop) (a : α) : Keeps (Rule.given c a) (Rule.given c a) := by
  rintro _ _ _ ⟨hc, rfl, rfl, rfl⟩
  exact ⟨rfl, hc, rfl, rfl, rfl⟩

theorem keeps_pure {α : Type} (a : α) : Keeps (pure a : Rule α) (pure a) := by
  rintro _ _ _ ⟨rfl, rfl, rfl⟩
  exact ⟨rfl, rfl, rfl, rfl⟩

theorem keeps_skip {α : Type} {P : Token → Prop} (hP : ∀ t, ¬ P t) (a : α) (R' : Rule α) : Keeps (Rule.skip P a) R' := by
  rintro _ _ _ ⟨t, -, -, ht, -⟩
  exact absurd ht (hP t)

theorem keeps_either {α : Type} {R R' Q Q' : Rule α} (hR : Keeps R R') (hQ : Keeps Q Q') :
    Keeps (Rule.either R Q) (Rule.either R' Q') := by
  rintro ts sk a (h | h)
  · exact (hR ts sk a h).imp_right Or.inl
  · exact (hQ ts sk a h).imp_right Or.inr

theorem keeps_bind {α β : Type} {R R' : Rule α} {Q Q' : α → Rule β} (hR : Keeps R R') (hQ : ∀ a, Keeps (Q a) (Q' a)) :
    Keeps (R >>= Q) (R' >>= Q') := by
  rintro _ _ b ⟨a, ts₁, ts₂, sk₁, sk₂, rfl, rfl, h₁, h₂⟩
  obtain ⟨rfl, h₁'⟩ := hR _ _ _ h₁
  obtain ⟨rfl, h₂'⟩ := hQ a _ _ _ h₂
  exact ⟨rfl, a, ts₁, ts₂, [], [], rfl, rfl, h₁', h₂'⟩

theorem keeps_star {α : Type} {R R' : Rule α} (hR : Keeps R R') : Keeps (Rule.star R) (Rule.star R') := by
  intro ts sk as h
  induction h with
  | nil => exact ⟨rfl, .nil⟩
  | cons h _ ih =>
    obtain ⟨rfl, h'⟩ := hR _ _ _ h
    obtain ⟨rfl, hs'⟩ := ih
    exact ⟨rfl, .cons h' hs'⟩

/-! ## The rules of the language -/

theorem keeps_literal : Keeps literalRule literalRule := by
  rintro _ _ l ⟨t, rfl, rfl, hl⟩
  exact ⟨rfl, t, rfl, rfl, hl⟩

theorem keeps_default : Keeps defaultRule defaultRule := by
  refine keeps_bind (keeps_token _) fun _ => keeps_bind (keeps_token _) fun _ => ?_
  exact keeps_bind keeps_literal fun _ => keeps_pure _

theorem keeps_nameList : Keeps nameListRule nameListRule := by
  refine keeps_either (keeps_bind (keeps_token _) fun _ => keeps_bind (keeps_star ?_) fun _ => keeps_pure _) (keeps_pure _)
  exact keeps_bind (keeps_token _) fun _ => keeps_bind (keeps_token _) fun _ => keeps_pure _

theorem keeps_binding : Keeps bindingRule bindingRule := by
  refine keeps_bind (keeps_token _) fun t => ?_
  refine keeps_bind (keeps_token _) fun name => keeps_bind (keeps_token _) fun _ => ?_
  refine keeps_bind (keeps_token _) fun model => keeps_bind (keeps_token _) fun _ => ?_
  refine keeps_bind (keeps_token _) fun _ => keeps_bind keeps_nameList fun fields => ?_
  exact keeps_bind (keeps_token _) fun _ => keeps_given _ _

theorem keeps_page : Keeps pageRule pageRule := by
  refine keeps_bind (keeps_token _) fun _ => keeps_bind (keeps_token _) fun name => ?_
  refine keeps_bind (keeps_token _) fun _ => keeps_bind (keeps_token _) fun title => ?_
  refine keeps_bind (keeps_token _) fun _ => keeps_bind (keeps_token _) fun _ => ?_
  exact keeps_bind keeps_nameList fun components => keeps_bind (keeps_token _) fun _ => keeps_given _ _

/-- a rule that skips nothing erases nothing -/
theorem Keeps.erases {α : Type} {R R' : Rule α} (h : Keeps R R') : Erases Eq R R' := by
  intro ts sk a hR
  obtain ⟨rfl, hR'⟩ := h ts sk a hR
  exact ⟨ts, a, .none ts, hR', rfl⟩

def Modifier.isReal (m : Modifier) : Bool := m ≠ .skipped

def Declaration.isReal (d : Declaration) : Bool := d ≠ .skipped

theorem Modifier.anyRequired_filter (ms : List Modifier) : anyRequired (ms.filter isReal) = anyRequired ms := by
  induction ms with
  | nil => rfl
  | cons m ms ih => cases m <;> simp_all [anyRequired, isReal]

/-- items without an image may be dropped before a map -/
theorem filterMap_filter_real {α β : Type} {real : α → Bool} {f : α → Option β} (h : ∀ a, real a = false → f a = none)
    (l : List α) : (l.filter real).filterMap f = l.filterMap f := by
  rw [List.filterMap_filter]
  refine List.filterMap_congr fun a _ => ?_
  cases ha : real a with
  | true => rfl
  | false => exact (h a ha).symm

theorem Modifier.lastDefault?_filter (ms : List Modifier) : lastDefault? (ms.filter isReal) = lastDefault? ms := by
  unfold lastDefault?
  rw [filterMap_filter_real]
  rintro (_ | _ | _) h
  · rfl
  · simp [isReal] at h
  · rfl

theorem appOf_filter (ds : List Declaration) : appOf (ds.filter Declaration.isReal) = appOf ds := by
  have hskipped : ∀ d : Declaration, d.isReal = false → d = .skipped := by simp [Declaration.isReal]
  unfold appOf
  congr 1
  all_goals
    refine filterMap_filter_real (fun d hd => ?_) ds
    rw [hskipped d hd]
    rfl

theorem erases_modifiers (o o' : Options) :
    Erases (fun ms ns => ns = ms.filter Modifier.isReal) (Rule.star (modifierRule o)) (Rule.star (modifierRule o')) := by
  refine erases_star Modifier.isReal (Keeps.erases ?_) ?_ rfl
  · exact keeps_either (keeps_bind (keeps_token _) fun _ => keeps_pure _) keeps_default
  · intro ts sk m h
    simp only [Rule.either_iff, defaultRule, Rule.token_bind_iff, literalRule_bind_iff, Rule.pure_iff] at h
    rcases h with ⟨_, _, -, -, -, -, rfl⟩ | ⟨_, _, -, -, _, _, -, -, _, _, _, -, -, -, -, rfl⟩
    · rfl
    · rfl

theorem erases_field (o o' : Options) (h : o'.strictTypes = o.strictTypes) : Erases Eq (fieldRule o) (fieldRule o') := by
  refine erases_then (erases_token _) fun _ => erases_then (erases_token _) fun name => ?_
  refine erases_then (erases_token _) fun _ => erases_then (erases_token _) fun type => ?_
  rw [h]
  refine erases_then (erases_given _ _) fun _ => erases_bind (erases_modifiers o o') ?_
  rintro ms _ rfl
  rw [Modifier.anyRequired_filter, Modifier.lastDefault?_filter]
  exact erases_then (erases_token _) fun _ => erases_given _ _

theorem erases_model (o o' : Options) (h : o'.strictTypes = o.strictTypes) : Erases Eq (modelRule o) (modelRule o') := by
  refine erases_then (erases_token _) fun _ => erases_then (erases_token _) fun name => ?_
  refine erases_then (erases_token _) fun _ => erases_bind (erases_star Option.isSome ?_ ?_ rfl) ?_
  · exact erases_then (erases_field o o' h) fun f => erases_pure rfl
  · intro ts sk x hx
    obtain ⟨f, -, rfl⟩ := (Rule.bind_pure_iff _ _ _ _ _).1 hx
    rfl
  · rintro parts _ rfl
    rw [filterMap_filter_real (by simp)]
    exact erases_then (erases_token _) fun _ => erases_given _ _

theorem erases_declarations (o o' : Options) (h : o'.strictTypes = o.strictTypes) :
    Erases (fun ds es => es = ds.filter Declaration.isReal) (Rule.star (declarationRule o))
      (Rule.star (declarationRule o')) := by
  refine erases_star Declaration.isReal ?_ ?_ rfl
  · rintro ts sk d (hm | hrest)
    · obtain ⟨keep, _, hk, hm', rfl⟩ := erases_then (erases_model o o' h) (fun m => erases_pure rfl) ts sk d hm
      exact ⟨keep, _, hk, Or.inl hm', rfl⟩
    · have hkeeps := keeps_either (keeps_bind keeps_binding fun c => keeps_pure (Declaration.component c))
        (keeps_bind keeps_page fun p => keeps_pure (Declaration.page p))
      obtain ⟨keep, _, hk, hrest', rfl⟩ := hkeeps.erases ts sk d hrest
      exact ⟨keep, _, hk, Or.inr hrest', rfl⟩
  · intro ts sk d hd
    simp only [Rule.either_iff, Rule.bind_pure_iff] at hd
    rcases hd with ⟨_, -, rfl⟩ | ⟨_, -, rfl⟩ | ⟨_, -, rfl⟩
    all_goals rfl

theorem keeps_modifier (o o' : Options) (ho : o.lenient = false) : Keeps (modifierRule o) (modifierRule o') := by
  refine keeps_either (keeps_either (keeps_bind (keeps_token _) fun _ => keeps_pure _) keeps_default) ?_
  exact keeps_skip (fun t ht => by simp [StrayWord, ho] at ht) _ _

theorem keeps_field (o o' : Options) (ho : o.lenient = false) (h : o'.strictTypes = o.strictTypes) :
    Keeps (fieldRule o) (fieldRule o') := by
  refine keeps_bind (keeps_token _) fun _ => keeps_bind (keeps_token _) fun name => ?_
  refine keeps_bind (keeps_token _) fun _ => keeps_bind (keeps_token _) fun type => ?_
  rw [h]
  refine keeps_bind (keeps_given _ _) fun _ => keeps_bind (keeps_star (keeps_modifier o o' ho)) fun ms => ?_
  exact keeps_bind (keeps_token _) fun _ => keeps_given _ _

theorem keeps_model (o o' : Options) (ho : o.lenient = false) (h : o'.strictTypes = o.strictTypes) :
    Keeps (modelRule o) (modelRule o') := by
  refine keeps_bind (keeps_token _) fun _ => keeps_bind (keeps_token _) fun name => ?_
  refine keeps_bind (keeps_token _) fun _ => keeps_bind (keeps_star (keeps_either ?_ ?_)) fun parts => ?_
  · exact keeps_bind (keeps_field o o' ho h) fun f => keeps_pure _
  · exact keeps_skip (fun t ht => by simp [StrayInModel, ho] at ht) _ _
  · exact keeps_bind (keeps_token _) fun _ => keeps_given _ _

theorem keeps_declaration (o o' : Options) (ho : o.lenient = false) (h : o'.strictTypes = o.strictTypes) :
    Keeps (declarationRule o) (declarationRule o') := by
  refine keeps_either (keeps_either (keeps_bind (keeps_model o o' ho h) fun m => keeps_pure _) (keeps_either ?_ ?_)) ?_
  · exact keeps_bind keeps_binding fun c => keeps_pure _
  · exact keeps_bind keeps_page fun p => keeps_pure _
  · exact keeps_skip (fun t ht => by simp [StrayOutside, ho] at ht) _ _

/-! ## Lenient and strict reading -/

def Note.skipped? : Note → Option Token
  | .skipped t => some t
  | .parsed _ => none

/-- the tokens that notes say were skipped, in the order of the notes -/
def skippedTokens (notes : List Note) : List Token := notes.filterMap Note.skipped?

theorem skippedTokens_app (sk : List Token) (a : App) : skippedTokens (sk.map .skipped ++ [.parsed a]) = sk := by
  have h : sk.filterMap (Note.skipped? ∘ Note.skipped) = sk := List.filterMap_some
  have hlast : [Note.parsed a].filterMap Note.skipped? = [] := rfl
  rw [skippedTokens, List.filterMap_append, List.filterMap_map, h, hlast, List.append_nil]

/-- strict reading of what lenient reading keeps -/
theorem app_of_erased (o o' : Options) (h : o'.strictTypes = o.strictTypes) {ts : List Token} (hts : Ended ts) {a : App}
    {s : Session} (ha : app o (Session.start ts) = (.ok a, s)) :
    ∃ keep s', Erasure ts (skippedTokens s.notes) keep ∧ Ended keep ∧ app o' (Session.start keep) = (.ok a, s') := by
  obtain ⟨body, e, sk, ds, rfl, he, hstar, rfl, rfl⟩ := (app_eq_ok o ts hts a s).1 ha
  obtain ⟨keep, _, hk, hstar', rfl⟩ := erases_declarations o o' h body sk ds hstar
  have hb : ∀ t ∈ keep, t.kind ≠ .finish := fun t ht =>
    ((ended_append_singleton body e).1 hts).2 t ((hk.mem t).2 (Or.inr ht))
  have hended : Ended (keep ++ [e]) := (ended_append_singleton keep e).2 ⟨he, hb⟩
  have herased : Erasure (body ++ [e]) sk (keep ++ [e]) := by simpa using hk.append (Erasure.none [e])
  have hread := (app_eq_ok o' _ hended (appOf ds) _).2 ⟨keep, e, [], _, rfl, he, hstar', (appOf_filter ds).symm, rfl⟩
  exact ⟨keep ++ [e], _, by rwa [skippedTokens_app], hended, hread⟩

/-- lenient reading of what strict reading accepts -/
theorem app_of_strict (o o' : Options) (ho : o.lenient = false) (h : o'.strictTypes = o.strictTypes) {ts : List Token}
    (hts : Ended ts) {a : App} {s : Session} (ha : app o (Session.start ts) = (.ok a, s)) :
    ∃ s', app o' (Session.start ts) = (.ok a, s') ∧ skippedTokens s'.notes = [] := by
  obtain ⟨body, e, sk, ds, rfl, he, hstar, rfl, rfl⟩ := (app_eq_ok o ts hts a s).1 ha
  obtain ⟨rfl, hstar'⟩ := keeps_star (keeps_declaration o o' ho h) body sk ds hstar
  exact ⟨_, (app_eq_ok o' _ hts _ _).2 ⟨body, e, [], ds, rfl, he, hstar', rfl, rfl⟩, skippedTokens_app _ _⟩

/-- **Lenient reading is erasure.** Where lenient reading gives an application, the tokens fall into those it notes as
skipped and others, each in source order, and strict reading of the others gives the same application; when no token
occurs twice, the others are just those that are not noted. Where strict reading gives an application, lenient reading
gives the same one and skips nothing. -/
theorem lenient_reading_erases (o : Options) (ts : List Token) (hts : Ended ts) (a : App) :
    (∀ s, app { o with lenient := true } (Session.start ts) = (.ok a, s) →
      ∃ keep s', Erasure ts (skippedTokens s.notes) keep ∧
        (ts.Nodup → keep = ts.filter (fun t => t ∉ skippedTokens s.notes)) ∧
        app { o with lenient := false } (Session.start keep) = (.ok a, s')) ∧
    (∀ s, app { o with lenient := false } (Session.start ts) = (.ok a, s) →
      ∃ s', app { o with lenient := true } (Session.start ts) = (.ok a, s') ∧ skippedTokens s'.notes = []) := by
  constructor
  · intro s hs
    obtain ⟨keep, s', hk, -, ha⟩ := app_of_erased { o with lenient := true } { o with lenient := false } rfl hts hs
    exact ⟨keep, s', hk, hk.eq_filter, ha⟩
  · intro s hs
    exact app_of_strict { o with lenient := false } { o with lenient := true } rfl rfl hts hs

/-- a model with a stray token before it and another in its body -/
def strayTokens : List Token :=
  [⟨.identifier, "garbage", 1, 1⟩, ⟨.model, "model", 1, 9⟩, ⟨.identifier, "A", 1, 15⟩, ⟨.leftBrace, "\x7b", 1, 17⟩,
    ⟨.comma, ",", 1, 19⟩, ⟨.rightBrace, "\x7d", 1, 21⟩, ⟨.finish, "", 1, 22⟩]

theorem lenient_reading_erases_stray :
    Ended strayTokens ∧
      ∃ keep s', Erasure strayTokens [⟨.identifier, "garbage", 1, 1⟩, ⟨.comma, ",", 1, 19⟩] keep ∧
        app { Options.standard with lenient := false } (Session.start keep) =
          (.ok ⟨[⟨"A", []⟩], [], [], [], []⟩, s') := by
  have hts : Ended strayTokens := by decide
  obtain ⟨keep, s', hk, -, ha⟩ := (lenient_reading_erases .standard strayTokens hts ⟨[⟨"A", []⟩], [], [], [], []⟩).1 _ rfl
  exact ⟨hts, keep, s', hk, ha⟩

end Pagewright.Grammar
