/-
Lines of a log. A record is written as one line of printable ASCII (`not_mem_jsonLine`) and read back as the data it was
written from with their pairs of halves joined (`parse_jsonLine`), so whatever its message and context hold, it can neither
end its line nor begin another: the file has one line for each record, in order, and each line tells its record, but that a
high half and a low one right after it come back as one character (`log_lines_read_back`).
-/
import Pagewright.Log.Record
import Pagewright.Log.Template
import Pagewright.Proofs.Json.Joined
import Pagewright.Proofs.Text.Lines

namespace Pagewright

/-- texts without line ends, each followed by one, are the lines of what they make up -/
theorem Text.splitLines_ended {ls : Lines} (h : ∀ l ∈ ls, '\n' ∉ l.toList) :
    splitLines (String.join (ls.map (· ++ "\n"))) = ls ++ [""] := by
  induction ls with
  | nil => rfl
  | cons l ls ih =>
    obtain ⟨hl, hls⟩ := List.forall_mem_cons.1 h
    have hone : splitLines l = [l] := by
      rw [splitLines, List.splitOn_eq_singleton hl, List.map_singleton, String.ofList_toList]
    have hjoin : String.join ((l :: ls).map (· ++ "\n")) = l ++ "\n" ++ String.join (ls.map (· ++ "\n")) := by
      rw [List.map_cons, String.join_cons]
    rw [hjoin, splitLines_stack, hone, ih hls, List.cons_append, List.cons_append, List.nil_append]

namespace Log

open Json
open Text (Half Point Wide HasPair)

/-- what stands after the last dot of a name, or all of a name without a dot -/
structure IsLastPart (name part : Wide) : Prop where
  undotted : .char '.' ∉ part.points
  ends : ∃ before, name.points = before ++ part.points ∧ (before = [] ∨ before.getLast? = some (.char '.'))

/-- members of an object tell a level, a component, a message and, if there is any, a context -/
structure Tells (ms : Members) (level : Int) (component message : Wide) (context : Members) : Prop where
  level : ms.get? "level" = some (.text (levelName level))
  component : ms.get? "component" = some (.text component)
  message : ms.get? "message" = some (.text message)
  context : ms.get? "context" = if context = [] then none else some (.object context)

/-- records as the text of a log, each followed by a line end -/
def logText (rs : List Record) : String := String.join (rs.map fun r => r.jsonLine ++ "\n")

namespace Record

/-- the level has at most 4300 digits, and so has each integer in the context, which holds no other numbers -/
structure IsPlain (r : Record) : Prop where
  level : (Value.int r.level).IsPlain
  context : (Value.object r.context).IsPlain

theorem isLastPart_component (r : Record) : IsLastPart r.name r.component := by
  have hpoints : r.component.points = (r.name.points.reverse.takeWhile (· ≠ .char '.')).reverse := by
    simp [component, Wide.points_ofReversed, Wide.pointsOfMore]
  -- the name is parted at its last dot, counted from its end
  have hsplit : r.name.points = (r.name.points.reverse.dropWhile (· ≠ .char '.')).reverse ++ r.component.points := by
    rw [hpoints, ← List.reverse_append, List.takeWhile_append_dropWhile, List.reverse_reverse]
  refine ⟨fun hdot => ?_, _, hsplit, ?_⟩
  · rw [hpoints, List.mem_reverse] at hdot
    simpa using List.mem_takeWhile_imp hdot
  · rw [List.getLast?_reverse, List.reverse_eq_nil_iff]
    cases hrest : r.name.points.reverse.dropWhile (· ≠ .char '.') with
    | nil => exact Or.inl rfl
    | cons p rest =>
      have hstop := List.head?_dropWhile_not (fun p : Point => decide (p ≠ .char '.')) r.name.points.reverse
      rw [hrest] at hstop
      have hp : p = .char '.' := by simpa using hstop
      exact Or.inr (congrArg some hp)

variable {r : Record}

theorem nodup_keys (r : Record) : (r.members.map Prod.fst).Nodup := by
  unfold members contextMembers
  cases r.exception with
  | none =>
    split_ifs
    · exact (by decide : (["timestamp", "level", "component", "message"] : List Wide).Nodup)
    · exact (by decide : (["timestamp", "level", "component", "message", "context"] : List Wide).Nodup)
  | some e =>
    split_ifs
    · exact (by decide : (["timestamp", "level", "component", "message", "exception"] : List Wide).Nodup)
    · exact (by decide : (["timestamp", "level", "component", "message", "context", "exception"] : List Wide).Nodup)

theorem forall_members {P : Wide × Value → Prop} (htime : P ("timestamp", .text r.created.text))
    (hlevel : P ("level", .text (levelName r.level))) (hcomponent : P ("component", .text r.component))
    (hmessage : P ("message", .text r.message)) (hcontext : P ("context", .object r.context))
    (hexception : ∀ type text, P ("exception", .object [("type", .text ↑(type : String)), ("message", .text text)])) :
    ∀ m ∈ r.members, P m := by
  simp only [members, List.forall_mem_cons, List.forall_mem_append]
  refine ⟨htime, hlevel, hcomponent, hmessage, ?_, ?_⟩
  · unfold contextMembers
    split_ifs
    · exact List.forall_mem_nil _
    · exact List.forall_mem_singleton.2 hcontext
  · cases r.exception with
    | none => exact List.forall_mem_nil _
    | some e => exact List.forall_mem_singleton.2 (hexception e.1 e.2)

theorem isPlain_members (h : (Value.object r.context).IsPlain) : (Value.object r.members).IsPlain := by
  refine .object r.nodup_keys (forall_members (.text _) (.text _) (.text _) (.text _) h fun type text => ?_)
  have hkeys : (["type", "message"] : List Wide).Nodup := by decide
  exact .object hkeys (by simp [Value.IsPlain.text])

/-- the members of a record are joined one by one -/
theorem joined_members (r : Record) :
    (Value.object r.members).joined = .object (r.members.map fun m => (m.1, m.2.joined)) := by
  have hkeys : ∀ m ∈ r.members, m.1.joined = m.1 := forall_members (Wide.joined_ofString _) (Wide.joined_ofString _)
    (Wide.joined_ofString _) (Wide.joined_ofString _) (Wide.joined_ofString _) fun _ _ => Wide.joined_ofString _
  rw [Value.joined, joinedMembers_eq_map r.nodup_keys hkeys]

theorem parse_jsonLine (h : (Value.object r.context).IsPlain) :
    parse r.jsonLine = .ok (.object (r.members.map fun m => (m.1, m.2.joined))) := by
  rw [jsonLine, parse_compact (isPlain_members h), joined_members]

theorem not_mem_jsonLine (h : (Value.object r.context).IsPlain) : '\n' ∉ r.jsonLine.toList := by
  intro hmem
  have hprintable := (isPlain_members h).printable _ hmem
  exact absurd hprintable (by decide)

theorem IsPlain.isWritable (h : r.IsPlain) : r.isWritable = true := by
  rw [Record.isWritable, h.level.isWritable, h.context.isWritable, Bool.and_self]

/-- a record is told with the pairs in its texts joined -/
theorem tells_joined (r : Record) : Tells (r.members.map fun m => (m.1, m.2.joined)) r.level r.component.joined
    r.message.joined (joinedMembers [] r.context) := by
  refine ⟨?_, ?_, ?_, ?_⟩
  · show some (Value.text (levelName r.level)).joined = _
    rw [Value.joined, Wide.joined_ofString]
  · show some (Value.text r.component).joined = _
    rw [Value.joined]
  · show some (Value.text r.message).joined = _
    rw [Value.joined]
  · by_cases hcontext : r.context = []
    · rw [hcontext, if_pos (by rw [joinedMembers]), members, hcontext]
      cases r.exception with
      | none => rfl
      | some e => rfl
    · rw [if_neg (mt joinedMembers_eq_nil_iff.1 fun h => hcontext h.2), members, contextMembers,
        if_neg (mt List.isEmpty_iff.1 hcontext)]
      show some (Value.object r.context).joined = _
      rw [Value.joined]

/-- what is told with its pairs joined is told as it is exactly when there are no pairs -/
theorem tells_iff (h : r.IsPlain) :
    Tells (r.members.map fun m => (m.1, m.2.joined)) r.level r.component r.message r.context ↔
      ¬HasPair r.component.points ∧ ¬HasPair r.message.points ∧ ¬(Value.object r.context).HasPair := by
  have hjoined := r.tells_joined
  rw [← Wide.joined_eq_self_iff, ← Wide.joined_eq_self_iff, ← joined_eq_self_iff h.context, Value.joined, Value.object.injEq]
  constructor
  · intro htells
    have hcomponent := hjoined.component.symm.trans htells.component
    have hmessage := hjoined.message.symm.trans htells.message
    have hcontext := hjoined.context.symm.trans htells.context
    simp only [Option.some.injEq, Value.text.injEq] at hcomponent hmessage
    refine ⟨hcomponent, hmessage, ?_⟩
    by_cases hempty : r.context = []
    · rw [hempty, joinedMembers]
    · rw [if_neg hempty, if_neg (mt joinedMembers_eq_nil_iff.1 fun h => hempty h.2)] at hcontext
      simpa using hcontext
  · rintro ⟨hcomponent, hmessage, hcontext⟩
    rwa [hcomponent, hmessage, hcontext] at hjoined

end Record

/-- **Lines of a log.** The text of some records has one line for each of them, in order, and each line is read as an object
that tells its record with the pairs of halves in it joined. It tells the record as it is exactly when neither the last part
of its name nor its message nor its context has a high half right before a low one. A context that is put together from a
whole and from single items has, under each key, the item with this name or else what the whole has; it is empty only if both
are. -/
theorem log_lines_read_back (rs : List Record) (h : ∀ r ∈ rs, r.IsPlain) :
    (∀ r ∈ rs, r.isWritable = true) ∧ Text.splitLines (logText rs) = rs.map Record.jsonLine ++ [""] ∧
      (∀ (i : Nat) (r : Record), rs[i]? = some r → ∃ part line ms, IsLastPart r.name part ∧
        (Text.splitLines (logText rs))[i]? = some line ∧ parse line = .ok (.object ms) ∧
        Tells ms r.level part.joined r.message.joined (joinedMembers [] r.context) ∧
        (Tells ms r.level part r.message r.context ↔
          ¬HasPair part.points ∧ ¬HasPair r.message.points ∧ ¬(Value.object r.context).HasPair)) ∧
      ∀ given items : Members, (Value.object given).IsPlain → (Value.object items).IsPlain →
        (Value.object (joinedContext given items)).IsPlain ∧
          (∀ k, (joinedContext given items).get? k = (items.get? k).or (given.get? k)) ∧
          (joinedContext given items = [] ↔ given = [] ∧ items = []) := by
  have hlines : Text.splitLines (logText rs) = rs.map Record.jsonLine ++ [""] := by
    -- a line end in a message or a context is escaped, so those in the text are the ones behind the records
    have hended : ∀ l ∈ rs.map Record.jsonLine, '\n' ∉ l.toList := by
      intro l hl
      obtain ⟨r, hr, rfl⟩ := List.mem_map.1 hl
      exact Record.not_mem_jsonLine (h r hr).context
    rw [← Text.splitLines_ended hended, List.map_map]
    rfl
  refine ⟨fun r hr => (h r hr).isWritable, hlines, fun i r hr => ?_, fun given items hgiven hitems => ?_⟩
  · have hplain := h r (List.mem_of_getElem? hr)
    have hline : (rs.map Record.jsonLine)[i]? = some r.jsonLine := by rw [List.getElem?_map, hr]; rfl
    refine ⟨r.component, r.jsonLine, _, r.isLastPart_component, ?_, Record.parse_jsonLine hplain.context, r.tells_joined,
      Record.tells_iff hplain⟩
    rw [hlines, List.getElem?_append_left (List.getElem?_eq_some_iff.1 hline).1, hline]
  · have hkeys : (items.map Prod.fst).Nodup := by
      cases hitems with
      | object hkeys _ => exact hkeys
    exact ⟨Members.isPlain_overlay hgiven hitems, Members.get?_overlay hkeys, Members.overlay_eq_nil_iff⟩

def splitPair : Wide := ⟨"", [(⟨0xD83D, by decide, by decide⟩, ""), (⟨0xDE00, by decide, by decide⟩, "")]⟩

/-- a record whose message would start a line of its own, and one whose context is full of marks and ends with a half -/
def forgingRecords : List Record :=
  [⟨"core.lexer", 20, "done\n\x7b\"level\": \"ERROR\"\x7d", ⟨0, 0⟩, [], none⟩,
    ⟨"server", 35, "\"é😀\\", ⟨0, 0⟩,
      [("a\n", .array [.text "\r\n\"", .int (-120), .null]),
        ("b", .object [("c", .text ⟨"d", [(⟨0xD83D, by decide, by decide⟩, "")]⟩)])], some ("KeyError", "\n")⟩]

theorem plain_forgingRecords : ∀ r ∈ forgingRecords, r.IsPlain := by
  have hlevel : ∀ n : Int, (Nat.toDigits 10 n.natAbs).length ≤ 4300 → (Value.int n).IsPlain := fun _ => .int
  refine List.forall_mem_cons.2 ⟨⟨hlevel 20 (by decide), .object (by decide) (by simp)⟩,
    List.forall_mem_singleton.2 ⟨hlevel 35 (by decide), .object (by decide) ?_⟩⟩
  refine List.forall_mem_cons.2 ⟨.array ?_, List.forall_mem_singleton.2 (.object (by decide) ?_)⟩
  · simp only [List.forall_mem_cons]
    exact ⟨.text _, .int (by decide), .null, List.forall_mem_nil _⟩
  · exact List.forall_mem_singleton.2 (.text _)

theorem log_lines_read_back_forging : (∀ r ∈ forgingRecords, r.IsPlain) ∧
    (Text.splitLines (logText forgingRecords)).length = 3 ∧
    ∃ (line : String) (ms : Members), (Text.splitLines (logText forgingRecords))[0]? = some line ∧
      parse line = .ok (.object ms) ∧ ms.get? "level" = some (.text "INFO") ∧
      ms.get? "message" = some (.text "done\n\x7b\"level\": \"ERROR\"\x7d") ∧ ms.get? "context" = none := by
  obtain ⟨-, hlines, hread, -⟩ := log_lines_read_back forgingRecords plain_forgingRecords
  obtain ⟨part, line, ms, -, hline, hms, htells, -⟩ := hread 0 _ rfl
  have hmessage := htells.message
  rw [Wide.joined_ofString] at hmessage
  exact ⟨plain_forgingRecords, congrArg List.length hlines, line, ms, hline, hms, htells.level, hmessage, htells.context⟩

/-- a message of two halves, put together from their codes, comes back as one character -/
theorem log_line_joins_pair : fill "%c%c" [.int 0xD83D, .int 0xDE00] = .ok splitPair ∧ splitPair ≠ "😀" ∧
    ∃ ms : Members, parse (Record.jsonLine ⟨"a", 20, splitPair, ⟨0, 0⟩, [], none⟩) = .ok (.object ms) ∧
      ms.get? "message" = some (.text "😀") := by
  have hplain : (Value.object []).IsPlain := .object List.nodup_nil (List.forall_mem_nil _)
  have hjoined : splitPair.joined = "😀" := by decide
  have htells := Record.tells_joined ⟨"a", 20, splitPair, ⟨0, 0⟩, [], none⟩
  have hmessage := htells.message
  rw [hjoined] at hmessage
  exact ⟨by rfl, by decide, _, Record.parse_jsonLine hplain, hmessage⟩

end Log

end Pagewright
