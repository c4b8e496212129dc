/-
Texts without the control sequences of a terminal: an escape character, an opening bracket, numbers with their
separators, and a letter. `visible` is what a channel that is no terminal is given.
-/

namespace Pagewright.Console

/-- a character between the bracket and the letter of a control sequence -/
def isParameter (c : Char) : Bool := c = ';' || c = '?' || c.isDigit

/-- the length of the control sequence that a text starts with, without its escape character -/
def sequenceLength? : List Char → Option Nat
  | '[' :: r =>
    let parameters := r.takeWhile isParameter
    match r.drop parameters.length with
    | c :: _ => if c.isAlpha then some (parameters.length + 2) else none
    | [] => none
  | _ => none

/-- a text without control sequences -/
def plain (s : List Char) : List Char :=
  match s with
  | [] => []
  | c :: r =>
    if c = '\x1b' then
      match sequenceLength? r with
      | some n => plain (r.drop n)
      | none => c :: plain r
    else c :: plain r
termination_by s.length
decreasing_by all_goals (simp only [List.length_cons, List.length_drop]; omega)

/-- a text without its control sequences -/
def visible (s : String) : String := String.ofList (plain s.toList)

/-- a text without an escape character is left as it is -/
theorem plain_of_not_mem (s : List Char) (h : '\x1b' ∉ s) : plain s = s := by
  induction s with
  | nil => rw [plain]
  | cons c r ih =>
    have hc : c ≠ '\x1b' := fun e => h (by simp [e])
    rw [plain, if_neg hc, ih fun m => h (List.mem_cons_of_mem c m)]

end Pagewright.Console
