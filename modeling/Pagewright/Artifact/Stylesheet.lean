/-
The stylesheet. It is the same for every application.
-/
import Pagewright.Text.Lines

namespace Pagewright.Stylesheet

open Text

/-- what holds for the elements that a selector picks -/
structure Rule where
  selector : String
  declarations : List (String × String)

def Rule.lines (r : Rule) : Lines :=
  block r.selector (r.declarations.map fun d => d.1 ++ ": " ++ d.2 ++ ";") ""

/-- rules with a blank line between neighbours -/
def ruleLines (rules : List Rule) : Lines := List.intercalate [""] (rules.map Rule.lines)

def rules : List Rule :=
  [⟨":root",
      [("--sweb-primary", "#4a6cf7"), ("--sweb-primary-dark", "#3a56d4"), ("--sweb-secondary", "#6c757d"),
        ("--sweb-secondary-dark", "#5a6268"), ("--sweb-danger", "#dc3545"), ("--sweb-danger-dark", "#c82333"),
        ("--sweb-background", "#ffffff"), ("--sweb-text", "#212529"), ("--sweb-light-text", "#6c757d"),
        ("--sweb-border", "#dee2e6"), ("--sweb-light-background", "#f8f9fa"), ("--sweb-shadow", "rgba(0, 0, 0, 0.1)"),
        ("--sweb-font", "-apple-system, BlinkMacSystemFont, \"Segoe UI\", Roboto, \"Helvetica Neue\", sans-serif")]⟩,
    ⟨".sweb-app",
      [("font-family", "var(--sweb-font)"), ("line-height", "1.5"), ("color", "var(--sweb-text)"), ("display", "flex"),
        ("flex-direction", "column"), ("min-height", "100vh")]⟩,
    ⟨".sweb-header",
      [("background-color", "var(--sweb-primary)"), ("color", "white"), ("padding", "1rem"), ("text-align", "center")]⟩,
    ⟨".sweb-main",
      [("flex", "1"), ("padding", "2rem"), ("max-width", "1200px"), ("margin", "0 auto"), ("width", "100%")]⟩,
    ⟨".sweb-footer",
      [("background-color", "var(--sweb-light-background)"), ("padding", "1rem"), ("text-align", "center"),
        ("font-size", "0.875rem"), ("color", "var(--sweb-light-text)")]⟩,
    ⟨".sweb-component",
      [("margin-bottom", "2rem")]⟩,
    ⟨".sweb-form-container, .sweb-list-container, .sweb-view-container",
      [("background-color", "var(--sweb-background)"), ("border-radius", "4px"),
        ("box-shadow", "0 2px 4px var(--sweb-shadow)"), ("padding", "1.5rem"), ("margin-bottom", "1.5rem")]⟩,
    ⟨".sweb-form-container h3, .sweb-list-container h3, .sweb-view-container h3",
      [("margin-top", "0"), ("margin-bottom", "1rem"), ("font-size", "1.5rem")]⟩,
    ⟨".sweb-form-group",
      [("margin-bottom", "1rem")]⟩,
    ⟨".sweb-form-group label",
      [("display", "block"), ("margin-bottom", "0.5rem"), ("font-weight", "500")]⟩,
    ⟨".sweb-input",
      [("width", "100%"), ("padding", "0.5rem"), ("font-size", "1rem"), ("line-height", "1.5"),
        ("color", "var(--sweb-text)"), ("background-color", "var(--sweb-background)"),
        ("border", "1px solid var(--sweb-border)"), ("border-radius", "4px"),
        ("transition", "border-color 0.15s ease-in-out, box-shadow 0.15s ease-in-out")]⟩,
    ⟨".sweb-input[type=\"checkbox\"]",
      [("width", "auto")]⟩,
    ⟨".sweb-input:focus",
      [("border-color", "var(--sweb-primary)"), ("outline", "0"),
        ("box-shadow", "0 0 0 0.2rem rgba(74, 108, 247, 0.25)")]⟩,
    ⟨".sweb-form-actions",
      [("display", "flex"), ("gap", "1rem"), ("margin-top", "1.5rem")]⟩,
    ⟨".sweb-button",
      [("display", "inline-block"), ("font-weight", "400"), ("color", "var(--sweb-text)"), ("text-align", "center"),
        ("vertical-align", "middle"), ("user-select", "none"), ("background-color", "transparent"),
        ("border", "1px solid transparent"), ("padding", "0.5rem 1rem"), ("font-size", "1rem"), ("line-height", "1.5"),
        ("border-radius", "4px"), ("cursor", "pointer")]⟩,
    ⟨".sweb-button.sweb-small",
      [("padding", "0.25rem 0.5rem"), ("font-size", "0.875rem"), ("margin-right", "0.5rem")]⟩,
    ⟨".sweb-primary",
      [("color", "white"), ("background-color", "var(--sweb-primary)"), ("border-color", "var(--sweb-primary)")]⟩,
    ⟨".sweb-primary:hover",
      [("background-color", "var(--sweb-primary-dark)"), ("border-color", "var(--sweb-primary-dark)")]⟩,
    ⟨".sweb-secondary",
      [("color", "white"), ("background-color", "var(--sweb-secondary)"), ("border-color", "var(--sweb-secondary)")]⟩,
    ⟨".sweb-secondary:hover",
      [("background-color", "var(--sweb-secondary-dark)"), ("border-color", "var(--sweb-secondary-dark)")]⟩,
    ⟨".sweb-danger",
      [("color", "white"), ("background-color", "var(--sweb-danger)"), ("border-color", "var(--sweb-danger)")]⟩,
    ⟨".sweb-danger:hover",
      [("background-color", "var(--sweb-danger-dark)"), ("border-color", "var(--sweb-danger-dark)")]⟩,
    ⟨".sweb-table",
      [("width", "100%"), ("border-collapse", "collapse"), ("margin-top", "1rem")]⟩,
    ⟨".sweb-table th, .sweb-table td",
      [("padding", "0.75rem"), ("text-align", "left"), ("border-bottom", "1px solid var(--sweb-border)")]⟩,
    ⟨".sweb-table thead th",
      [("background-color", "var(--sweb-light-background)"), ("border-bottom", "2px solid var(--sweb-border)"),
        ("font-weight", "600")]⟩,
    ⟨".sweb-table tbody tr:hover",
      [("background-color", "rgba(0, 0, 0, 0.02)")]⟩,
    ⟨".sweb-cards",
      [("display", "grid"), ("grid-template-columns", "repeat(auto-fill, minmax(240px, 1fr))"), ("gap", "1rem")]⟩,
    ⟨".sweb-card",
      [("border", "1px solid var(--sweb-border)"), ("border-radius", "4px"), ("padding", "1rem")]⟩,
    ⟨".sweb-card-label",
      [("font-weight", "600"), ("margin-right", "0.5rem")]⟩,
    ⟨".sweb-error",
      [("color", "var(--sweb-danger)"), ("padding", "1rem"), ("border", "1px solid var(--sweb-danger)"),
        ("border-radius", "4px"), ("margin-bottom", "1rem")]⟩]

def narrowRules : List Rule :=
  [⟨".sweb-main",
      [("padding", "1rem")]⟩,
    ⟨".sweb-form-actions",
      [("flex-direction", "column")]⟩,
    ⟨".sweb-button",
      [("width", "100%"), ("margin-bottom", "0.5rem")]⟩]

def narrowScreen : String := "@media (max-width: 768px)"

def text : String :=
  unlines (["/* SWeb Framework CSS */"] ++ ruleLines rules ++ [""] ++ block narrowScreen (ruleLines narrowRules) "" ++
    [""])

end Pagewright.Stylesheet
