/-
Bytes that are read as text. What is sent as an object starts with a brace and a quote, and two bytes that are not zero
announce UTF-8; so its bytes are read as its characters (`parseBytes_object`, `parse_ofList`).
-/
import Mathlib.Tactic
import Pagewright.Json.Encoding

namespace Pagewright.Json

/-- the bytes of an array, one after the other -/
theorem toList_loop (b : ByteArray) (i : Nat) (r : List UInt8) :
    ByteArray.toList.loop b i r = r.reverse ++ b.data.toList.drop i := by
  fun_induction ByteArray.toList.loop b i r with
  | case1 i r h ih =>
    have hi : i < b.data.toList.length := h
    have hget : b.get! i = b.data.toList[i] := by
      rw [Array.getElem_toList]
      exact getElem!_pos b.data i h
    rw [ih, List.drop_eq_getElem_cons hi, List.reverse_cons, List.append_assoc, List.singleton_append, hget]
  | case2 i r h =>
    have hi : b.data.toList.length ≤ i := Nat.le_of_not_lt h
    rw [List.drop_eq_nil_of_le hi, List.append_nil]

/-- two bytes that are not zero announce UTF-8 -/
theorem ofBytes_utf8 {a b : UInt8} (ha : a ≠ 0) (hb : b ≠ 0) (r : List UInt8) : Encoding.ofBytes (a :: b :: r) = .utf8 := by
  match r with
  | [] => simp [Encoding.ofBytes, ha, hb]
  | [_] => rfl
  | _ :: _ :: _ => simp [Encoding.ofBytes, ha, hb]

/-- the bytes of an object are read as its text -/
theorem parseBytes_object (room : Room) (r : List Char) : parseBytes room (String.ofList ('\x7b' :: '"' :: r)).toUTF8 =
    (parseWithin room (String.ofList ('\x7b' :: '"' :: r))).mapError .unreadable := by
  generalize hs : String.ofList ('\x7b' :: '"' :: r) = s
  have hbytes : s.toUTF8.toList = 123 :: 34 :: r.flatMap String.utf8EncodeChar := by
    rw [ByteArray.toList, toList_loop, ← hs]
    simp only [String.toUTF8, String.toByteArray_ofList, List.utf8Encode]
    simp
    rfl
  have hencoding : Encoding.ofBytes s.toUTF8.toList = .utf8 := by
    rw [hbytes]
    exact ofBytes_utf8 (by decide) (by decide) _
  have htext : String.fromUTF8? s.toUTF8 = some s := dif_pos s.isValidUTF8
  have hdecode : Encoding.utf8.decode? s.toUTF8 = some ↑s := by
    have hmark : '\x7b' ≠ Char.ofNat 0xFEFF := by decide
    have hlist : s.toList = '\x7b' :: '"' :: r := by rw [← hs, String.toList_ofList]
    simp only [Encoding.decode?, htext, Option.map_some, hlist, hmark, if_false]
  simp only [parseBytes, hencoding, hdecode]

/-- read characters as one value with blanks around it -/
def parseChars (room : Room) (l : List Char) : Except ReadError Value :=
  match readValue room 0 (2 * l.length + 2) (Place.skipSpaces ⟨0, l, []⟩) with
  | .error e => .error e
  | .ok (v, q) => if q.skipSpaces.isEnd then .ok v else q.skipSpaces.fail

theorem parse_ofList (room : Room) (l : List Char) : parseWithin room (String.ofList l) = parseChars room l := by
  simp only [parseWithin, Place.start, Text.Wide.ofString, Text.Wide.length, String.toList_ofList, String.length_ofList]
  rfl

end Pagewright.Json
