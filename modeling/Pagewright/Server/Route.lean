/-
Paths of the HTTP interface. The parts of a path between slashes lead to a route. A line end after a route that ends with a
fixed word is overlooked.
-/

namespace Pagewright.Server

inductive Method where
  | get | head | post | put | delete | other
  deriving DecidableEq, Repr

/-- the method with a name, in capitals or not -/
def Method.ofName (s : String) : Method :=
  match String.ofList (s.toList.map Char.toUpper) with
  | "GET" => .get
  | "HEAD" => .head
  | "POST" => .post
  | "PUT" => .put
  | "DELETE" => .delete
  | _ => .other

/-- the places that can be asked for; numbers are kept as they are written. A manual describes the others. -/
inductive Route where
  | apps
  | app (id : String)
  | preview (id : String)
  | entriesOf (id model : String)
  | entries
  | entry (id : String)
  | compile
  | run
  | manual
  deriving DecidableEq, Repr

/-- a fixed word at the end of a path -/
def endsWith (word s : String) : Bool := s = word || s = word ++ "\n"

/-- the route of a path, given by its parts after the first slash -/
def Route.ofParts : List String → Option Route
  | [w] => if endsWith "docs" w || endsWith "redoc" w || endsWith "openapi.json" w then some .manual else none
  | ["docs", w] => if endsWith "oauth2-redirect" w then some .manual else none
  | ["api", w] =>
    if endsWith "apps" w then some .apps
    else if endsWith "data" w then some .entries
    else if endsWith "compile" w then some .compile
    else if endsWith "run" w then some .run
    else none
  | ["api", w, id] =>
    if id.isEmpty then none
    else if w = "apps" then some (.app id)
    else if w = "data" then some (.entry id)
    else none
  | ["api", "apps", id, w] => if endsWith "preview" w && !id.isEmpty then some (.preview id) else none
  | ["api", "apps", id, "data", model] =>
    if id.isEmpty || model.isEmpty then none else some (.entriesOf id model)
  | _ => none

/-- the methods that a route answers to -/
def Route.allows : Route → Method → Bool
  | .apps, m => m = .get || m = .post
  | .app _, m => m = .get || m = .put || m = .delete
  | .preview _, m => m = .get
  | .entriesOf _ _, m => m = .get
  | .entries, m => m = .post
  | .entry _, m => m = .put || m = .delete
  | .compile, m => m = .post
  | .run, m => m = .post
  | .manual, m => m = .get || m = .head

/-- the route of a path; every path starts with a slash -/
def routeOf (path : List Char) : Option Route :=
  match path with
  | '/' :: r => Route.ofParts ((r.splitOn '/').map String.ofList)
  | _ => none

def withoutSlashes (path : List Char) : List Char := (path.reverse.dropWhile (· = '/')).reverse

inductive Target where
  | route (r : Route)
  | wrongMethod
  | redirect
  | unknown
  deriving DecidableEq, Repr

/-- where a method and a path lead -/
def targetOf (m : Method) (path : List Char) : Target :=
  match routeOf path with
  | some r => if r.allows m then .route r else .wrongMethod
  | none =>
    if path.getLast? = some '/' && (routeOf (withoutSlashes path)).isSome then .redirect else .unknown

end Pagewright.Server
