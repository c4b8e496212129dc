/-
What a run reports while it works: events with a severity and the part of the program they come from.
-/

namespace Pagewright.Log

inductive Severity where
  | debug | info | warning | error | critical
  deriving DecidableEq, Repr

/-- severities as numbers, the graver the greater -/
def Severity.number : Severity → Int
  | .debug => 10
  | .info => 20
  | .warning => 30
  | .error => 40
  | .critical => 50

/-- the parts of the program that report events -/
inductive Origin where
  | tokens | recovery | tree | generation | compilation | storage | server | console | setup
  deriving DecidableEq, Repr

/-- the short name an event shows for its origin -/
def Origin.tag : Origin → String
  | .tokens => "lexer"
  | .recovery => "base"
  | .tree => "dsl_parser_impl"
  | .generation => "base"
  | .compilation => "compiler"
  | .storage => "storage"
  | .server => "server"
  | .console => "cli"
  | .setup => "sweb"

structure Event where
  severity : Severity
  origin : Origin
  message : String
  deriving DecidableEq, Repr

end Pagewright.Log
