/-
A whole document: markup, script and stylesheet in one page.
-/
import Pagewright.Artifact.Html
import Pagewright.Json.Value

namespace Pagewright

/-- what a compilation makes, and its warnings -/
structure Artifacts where
  markup : String
  script : String
  stylesheet : String
  warnings : List String
  deriving DecidableEq, Repr

namespace Artifacts

open Html

def document (a : Artifacts) (title : String) : String :=
  Text.unlines
    (["<!DOCTYPE html>"] ++
      around "html" [attr "lang" "en"]
        (around "head" []
            (["  " ++ opening "meta" [attr "charset" "UTF-8"],
              "  " ++ opening "meta" [attr "name" "viewport",
                attr "content" "width=device-width, initial-scale=1.0"],
              "  " ++ inline "title" [] (escape title),
              "  " ++ opening "style" [], a.stylesheet, "  " ++ closing "style"]) ++
          around "body" [] [a.markup, "  " ++ opening "script" [], a.script, "  " ++ closing "script"]) ++
      [""])

/-- what a compilation makes, as data -/
def toValue (a : Artifacts) : Json.Value :=
  .object [("html", .text a.markup), ("js", .text a.script), ("css", .text a.stylesheet),
    ("warnings", .array (a.warnings.map .ofString))]

end Artifacts

end Pagewright
