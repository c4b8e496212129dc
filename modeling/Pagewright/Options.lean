/-
The switches of a compilation: how forgiving reading is, what is checked, and two texts of the page.
-/

namespace Pagewright

/-- `lenient`: tokens that start nothing are skipped. `strictTypes`: a field has one of the four known types.
`validateFieldRefs`: a binding names only fields of its model. `appTitle` heads the page of an application that
declares none, and `footerText` closes every page. -/
structure Options where
  lenient : Bool
  strictTypes : Bool
  validateFieldRefs : Bool
  appTitle : String
  footerText : String
  deriving DecidableEq, Repr

/-- the options when nothing is chosen -/
def Options.standard : Options :=
  { lenient := true, strictTypes := false, validateFieldRefs := true,
    appTitle := "SWeb Application", footerText := "Created with SWeb" }

end Pagewright
