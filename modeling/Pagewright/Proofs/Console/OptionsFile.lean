/-
Options from a file of a tree, and how they can fail. A file is read or not, and what it holds is options or has a fault. Most
faults have words to tell them, so that the options are told or what is wrong with them (`Config.Told`). There are two
exceptions (`Tree.Untold`): the file beside a source cannot be asked for, or what the file holds is not UTF-8 or is a document
that its reader gives up, over an integer or for want of room (`Config.Unusable`). The lemmas `told_ofBytes_iff`,
`told_loaded_iff` and `told_options_iff` say this of bytes, of a file and of a source.
-/
import Pagewright.Proofs.Console.Output

namespace Pagewright

open Files

/-! ## Options from bytes -/

namespace Config

/-- options, or a fault of a file that there are words for -/
inductive Told : Except (Path × Fault) Options → Prop
  | options (o : Options) : Told (.ok o)
  | fault {path : Path} {f : Fault} {message : String} (h : f.message? path = some message) : Told (.error (path, f))

theorem told_error_iff {path : Path} {f : Fault} : Told (.error (path, f)) ↔ f.message? path ≠ none := by
  constructor
  · intro h
    cases h with
    | fault h =>
      rw [h]
      exact Option.some_ne_none _
  · intro h
    obtain ⟨message, hmessage⟩ := Option.ne_none_iff_exists'.1 h
    exact .fault hmessage

theorem told_mapError_iff {path : Path} {r : Except Fault Options} :
    Told (r.mapError (path, ·)) ↔
      (∃ o, r = .ok o) ∨ ∃ f message, r = .error f ∧ f.message? path = some message := by
  cases r with
  | ok o => exact iff_of_true (.options o) (Or.inl ⟨o, rfl⟩)
  | error f =>
    constructor
    · intro h
      cases h with
      | fault h => exact Or.inr ⟨f, _, rfl, h⟩
    · rintro (⟨o, ho⟩ | ⟨f', message, hf, hmessage⟩)
      · cases ho
      · cases hf
        exact .fault hmessage

/-- the reader of a document gives it up without saying that it is not TOML -/
def GivenUp (room : Toml.Room) (s : String) : Prop :=
  Toml.parse room s = .error .hugeInteger ∨ Toml.parse room s = .error .tooDeep

/-- bytes that are no options and have no fault to tell: they are not UTF-8, or a document that is given up -/
def Unusable (room : Toml.Room) (b : ByteArray) : Prop :=
  ¬ b.IsValidUTF8 ∨ ∃ s : String, s.toUTF8 = b ∧ GivenUp room s

theorem unusable_toUTF8_iff (room : Toml.Room) (s : String) : Unusable room s.toUTF8 ↔ GivenUp room s := by
  constructor
  · rintro (hvalid | ⟨s', hs', hgiven⟩)
    · exact absurd s.isValidUTF8 hvalid
    · rw [String.toByteArray_inj.1 hs'] at hgiven
      exact hgiven
  · intro hgiven
    exact Or.inr ⟨s, rfl, hgiven⟩

variable (h : Host)

theorem ofBytes_toUTF8 (s : String) : ofBytes h s.toUTF8 = ofText h s := by
  have htext : String.fromUTF8? s.toUTF8 = some s := dif_pos s.isValidUTF8
  rw [ofBytes, htext]

theorem told_ofText_iff (s : String) (path : Path) :
    Told ((ofText h s).mapError (path, ·)) ↔ ¬ GivenUp h.room s := by
  unfold ofText GivenUp
  cases Toml.parse h.room s with
  | error f =>
    cases f with
    | invalid => exact iff_of_true (.fault rfl) (by simp)
    | hugeInteger => exact iff_of_false (fun h => told_error_iff.1 h rfl) (by simp)
    | tooDeep => exact iff_of_false (fun h => told_error_iff.1 h rfl) (by simp)
  | ok table =>
    refine iff_of_true ?_ (by simp)
    dsimp only
    cases Check.options ((table.get? "compiler").getD (.object [])) with
    | ok o => exact .options o
    | error issues => exact .fault rfl

theorem told_ofBytes_iff (b : ByteArray) (path : Path) :
    Told ((ofBytes h b).mapError (path, ·)) ↔ ¬ Unusable h.room b := by
  by_cases hb : b.IsValidUTF8
  · obtain ⟨s, rfl⟩ : ∃ s : String, s.toUTF8 = b := ⟨String.fromUTF8 b hb, rfl⟩
    rw [ofBytes_toUTF8, told_ofText_iff, unusable_toUTF8_iff]
  · have htext : String.fromUTF8? b = none := dif_neg hb
    rw [ofBytes, htext]
    exact iff_of_false (fun h => told_error_iff.1 h rfl) fun h => h (Or.inl hb)

end Config

/-! ## Files of a tree -/

namespace Files.Tree

variable {t : Tree} {h : Config.Host} {file path : Path} {config : Option Path} {b : ByteArray} {e : FileError}

theorem run_read {r : Except FileError ByteArray} (h : t.read path = r) : (disk.read path).run t = (r, t) := by
  rw [← h]
  rfl

theorem run_isFile {r : Except FileError Bool} (h : t.isFile path = r) : (disk.isFile path).run t = (r, t) := by
  rw [← h]
  rfl

theorem text_of_read (h : t.read file = .ok b) : t.text file = textOfBytes b := by
  unfold text Disk.readText
  rw [run_bind (run_read h)]
  rfl

theorem text_of_unreadable (h : t.read file = .error e) : t.text file = .error (.unreadable e) := by
  unfold text Disk.readText
  rw [run_bind (run_read h)]
  rfl

/-- a file has a text exactly if it can be read and is UTF-8 -/
theorem text_cases (t : Tree) (file : Path) :
    (∃ b s, t.read file = .ok b ∧ b.IsValidUTF8 ∧ t.text file = .ok s) ∨
      (∃ b, t.read file = .ok b ∧ ¬ b.IsValidUTF8 ∧ t.text file = .error .notText) ∨
      ∃ e, t.read file = .error e ∧ t.text file = .error (.unreadable e) := by
  cases hread : t.read file with
  | error e => exact Or.inr (Or.inr ⟨e, rfl, text_of_unreadable hread⟩)
  | ok b =>
    have htext := text_of_read hread
    by_cases hb : b.IsValidUTF8
    · have hvalid : String.fromUTF8? b = some (String.fromUTF8 b hb) := dif_pos hb
      rw [textOfBytes, Text.ofFile?, hvalid] at htext
      exact Or.inl ⟨b, _, rfl, hb, htext⟩
    · have hvalid : String.fromUTF8? b = none := dif_neg hb
      rw [textOfBytes, Text.ofFile?, hvalid] at htext
      exact Or.inr (Or.inl ⟨b, rfl, hb, htext⟩)

theorem walk_ne_hasNul (t : Tree) (here : Names) (parts : List String) : t.walk here parts ≠ .error .hasNul := by
  induction parts generalizing here with
  | nil => exact fun h => by cases h
  | cons p ps ih =>
    intro h
    unfold walk at h
    split at h
    · by_cases hlong : Path.nameLimit < p.utf8ByteSize
      · rw [if_pos hlong] at h
        cases h
      · rw [if_neg hlong] at h
        exact ih _ h
    · cases h
    · cases h

/-- a path without a character that ends it cannot be refused for one -/
theorem cause_ne_hasNul (hnul : path.hasNul = false) (h : t.read path = .error e) : e.cause ≠ .hasNul := by
  have hresolve : t.resolve path ≠ .error .hasNul := by
    unfold resolve
    rw [hnul, if_neg Bool.false_ne_true]
    by_cases hlong : path.isTooLong = true
    · rw [if_pos hlong]
      exact fun h => by cases h
    · rw [if_neg hlong]
      exact walk_ne_hasNul _ _ _
  unfold read at h
  intro hcause
  split at h
  · next c hc =>
    cases h
    exact hresolve (hc.trans (congrArg Except.error hcause))
  · split at h
    · cases h
    · cases h
      cases hcause
    · cases h
      cases hcause

/-- what is a file can be read -/
theorem exists_read_of_isFile (h : t.isFile path = .ok true) : ∃ b, t.read path = .ok b := by
  unfold isFile at h
  unfold read
  split at h
  · cases h
  · cases h
  · next names hnames =>
    split at h
    · next content hnode => exact ⟨content, by simp only [hnames, hnode]⟩
    · cases h

/-! ## Options of a tree -/

def loaded (t : Tree) (h : Config.Host) (path : Path) : Except Config.Fault Options := ((Config.load h disk path).run t).1

theorem loaded_of_read (hread : t.read path = .ok b) : t.loaded h path = Config.ofBytes h b := by
  unfold loaded Config.load
  rw [run_bind (run_read hread)]
  rfl

theorem loaded_of_unreadable (hread : t.read path = .error e) : t.loaded h path = .error (.unreadable e) := by
  unfold loaded Config.load
  rw [run_bind (run_read hread)]
  rfl

/-- a file gives options or a fault that is told, unless what it holds is unusable -/
theorem told_loaded_iff (hnul : path.hasNul = false ∨ ∃ b, t.read path = .ok b) :
    Config.Told ((t.loaded h path).mapError (path, ·)) ↔ ∀ b, t.read path = .ok b → ¬ Config.Unusable h.room b := by
  cases hread : t.read path with
  | error e =>
    have hcause : e.cause ≠ .hasNul := by
      rcases hnul with hnul | ⟨b, hb⟩
      · exact cause_ne_hasNul hnul hread
      · rw [hread] at hb
        cases hb
    rw [loaded_of_unreadable hread]
    exact iff_of_true (.fault (if_neg hcause)) fun b hb => by cases hb
  | ok b =>
    rw [loaded_of_read hread, Config.told_ofBytes_iff]
    constructor
    · intro hb b' hb'
      cases hb'
      exact hb
    · intro h
      exact h b rfl

/-- the file that the options for a source are read from, if there is one: the file that is named, or else the one beside the
source, which has to be asked for -/
def optionsFile (t : Tree) (source : Path) : Option Path → Except FileError (Option Path)
  | some path => .ok (some path)
  | none => (t.isFile (Config.beside source)).map fun found => if found then some (Config.beside source) else none

/-- the options come from that file, which is there if nobody named it -/
theorem optionsFile_cases (t : Tree) (h : Config.Host) (source : Path) (config : Option Path) :
    (∃ e, t.optionsFile source config = .error e ∧
        t.options h source config = .error (Config.beside source, .unreachable e)) ∨
      (t.optionsFile source config = .ok none ∧ t.options h source config = .ok .standard) ∨
      ∃ path, t.optionsFile source config = .ok (some path) ∧
        t.options h source config = (t.loaded h path).mapError (path, ·) ∧
        (config = some path ∨ ∃ b, t.read path = .ok b) := by
  cases config with
  | some path => exact Or.inr (Or.inr ⟨path, rfl, rfl, Or.inl rfl⟩)
  | none =>
    unfold optionsFile options Config.discover
    cases hfile : t.isFile (Config.beside source) with
    | error e =>
      rw [run_bind (run_isFile hfile)]
      exact Or.inl ⟨e, rfl, rfl⟩
    | ok found =>
      rw [run_bind (run_isFile hfile)]
      cases found with
      | false => exact Or.inr (Or.inl ⟨rfl, rfl⟩)
      | true => exact Or.inr (Or.inr ⟨_, rfl, rfl, Or.inr (exists_read_of_isFile hfile)⟩)

/-- neither the options for a source nor what is wrong with them can be told: their file cannot be asked for, or what it holds
is unusable -/
inductive Untold (t : Tree) (room : Toml.Room) (source : Path) (config : Option Path) : Prop
  | lookup {e : FileError} (h : t.optionsFile source config = .error e)
  | content {path : Path} {b : ByteArray} (h : t.optionsFile source config = .ok (some path)) (hread : t.read path = .ok b)
      (hb : Config.Unusable room b)

theorem told_options_iff (source : Path) (hnul : ∀ path, config = some path → path.hasNul = false) :
    Config.Told (t.options h source config) ↔ ¬ t.Untold h.room source config := by
  rcases t.optionsFile_cases h source config with ⟨e, hfile, ho⟩ | ⟨hfile, ho⟩ | ⟨path, hfile, ho, hpath⟩
  · rw [ho]
    exact iff_of_false (fun h => Config.told_error_iff.1 h rfl) fun h => h (.lookup hfile)
  · rw [ho]
    refine iff_of_true (.options _) fun h => ?_
    cases h with
    | lookup h =>
      rw [hfile] at h
      cases h
    | content h _ _ =>
      rw [hfile] at h
      cases h
  -- a file that nobody named was found beside the source, so it can be read whatever its path holds
  · rw [ho, told_loaded_iff (hpath.imp_left (hnul path))]
    constructor
    · intro hgood h
      cases h with
      | lookup h =>
        rw [hfile] at h
        cases h
      | content h hread hb =>
        rw [hfile] at h
        cases h
        exact hgood _ hread hb
    · intro h b hread hb
      exact h (.content hfile hread hb)

end Files.Tree

end Pagewright
