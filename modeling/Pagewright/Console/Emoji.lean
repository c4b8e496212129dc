/-
Emoji written by name: a name between two colons, without blanks, stands for the characters it names, whatever its case.
A name may end in a word that asks for the coloured or for the plain form. A name that is not known is left as it is; which
names are known is a parameter.
-/
import Pagewright.Text.Blank
import Pagewright.Text.Lower

namespace Pagewright.Console.Emoji

/-- the characters for a name in small letters, if it is known -/
abbrev Names := String → Option String

/-- the words for a form, and the selectors that ask for it -/
def forms : List (List Char × Char) := [("-emoji".toList, '\ufe0f'), ("-text".toList, '\ufe0e')]

/-- what stands between two colons as a name and the selector asked for -/
def nameAndForm (code : List Char) : List Char × List Char :=
  match forms.find? fun f => f.1.isSuffixOf code with
  | some f => (code.take (code.length - f.1.length), [f.2])
  | none => (code, [])

/-- the characters for what stands between two colons -/
def shown? (names : Names) (code : List Char) : Option (List Char) :=
  let (name, form) := nameAndForm code
  (names (String.ofList (Text.lower name))).map fun s => s.toList ++ form

/-- the code that a text after a colon starts with -/
def codeOf? (s : List Char) : Option (List Char) :=
  let code := s.takeWhile fun c => c ≠ ':' && !Text.isBlank c
  if (s.drop code.length).head? = some ':' then some code else none

/-- a text with the emoji that it names -/
def replaced (names : Names) (s : List Char) : List Char :=
  match s with
  | [] => []
  | c :: r =>
    if c = ':' then
      match codeOf? r with
      | some code => (shown? names code).getD (':' :: code ++ [':']) ++ replaced names (r.drop (code.length + 1))
      | none => c :: replaced names r
    else c :: replaced names r
termination_by s.length
decreasing_by all_goals (simp only [List.length_cons, List.length_drop]; omega)

end Pagewright.Console.Emoji
