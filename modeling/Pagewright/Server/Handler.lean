/-
Requests and their answers. A request is first led to its route, then its body and the numbers in its path are checked,
and only then is anything done. `handle` gives the answer and the store afterwards. How a path is found in an address, how
deep a body may nest, and what an answer can show is up to the host.
-/
import Pagewright.Check.Payload
import Pagewright.Compile
import Pagewright.Json.Encoding
import Pagewright.Server.Route
import Pagewright.Store.Shown

namespace Pagewright.Server

open Json (Value Members)
open Check (Issue Reading)
open Text (Wide)

structure Request where
  method : Method
  address : String
  body : Option String

inductive Content where
  | json (v : Value)
  | issues (is : List Issue)
  | html (s : String)
  | plain (s : String)
  | nothing

structure Response where
  status : Nat
  content : Content

namespace Response

def ofValue (status : Nat) (v : Value) : Response := ⟨status, .json v⟩

/-- an error that is told in one sentence -/
def detail (status : Nat) (sentence : String) : Response := ofValue status (.object [("detail", .text sentence)])

/-- an error of checking -/
def invalid (issues : List Issue) : Response := ⟨422, .issues issues⟩

/-- an error inside the program -/
def broken : Response := ⟨500, .plain "Internal Server Error"⟩

def appNotFound : Response := detail 404 "App not found"

def entryNotFound : Response := detail 404 "Data not found"

def contentType (r : Response) : Option String :=
  match r.content with
  | .json _ | .issues _ => some "application/json"
  | .html _ => some "text/html; charset=utf-8"
  | .plain _ => some "text/plain; charset=utf-8"
  | .nothing => none

end Response

/-- what carries requests and answers -/
structure Host where
  /-- the path of an address -/
  pathOf : String → List Char
  /-- whether one more bracket of a body can be opened -/
  room : Json.Room
  /-- data as an answer shows them, if they can be shown -/
  shown? : Value → Option Value
  /-- whether an answer can repeat a part of a body -/
  repeats : Value → Bool
  /-- the answer where source that holds halves is compiled -/
  halved : Wide → Response

/-! ## What is sent along -/

/-- the body of a request before it is looked at -/
inductive Body where
  | absent
  | value (v : Value)

/-- the body of a request, or the answer when it cannot be read -/
def readBody (room : Json.Room) (body : Option String) : Except Response Body :=
  match body with
  | none => .ok .absent
  | some s =>
    if s.isEmpty then .ok .absent
    else
      match Json.parseBytes room s.toUTF8 with
      | .ok v => .ok (.value v)
      | .error (.unreadable (.malformed position)) => .error (.invalid [⟨[.name "body", .index position], .notJson⟩])
      | .error _ => .error (.detail 400 "There was an error parsing the body")

def bodyAs {α : Type} (read : Value → Reading α) (b : Body) : Reading α :=
  Reading.under (.name "body") (match b with
    | .absent => Reading.refuse .missing
    | .value (.object ms) => read (.object ms)
    | .value _ => Reading.refuse .notBody)

def pathNumber (name s : String) : Reading Int :=
  Reading.under (.name "path") (Reading.under (.name name) (Check.intOfText s))

def sourceOf : Value → Reading Wide
  | .object ms => Check.required "code" Check.wide ms
  | _ => Reading.refuse .notBody

/-! ## Answers -/

/-- an answer, and the store after it -/
abbrev Handled := Response × Store

/-- the part of a value that a path leads to, as far as it leads -/
def partAt (v : Value) : List Check.Key → Value
  | [] => v
  | k :: ks =>
    match k, v with
    | .name s, .object ms =>
      match Members.get? ms s with
      | some w => partAt w ks
      | none => v
    | .index n, .array vs =>
      match vs[n]? with
      | some w => partAt w ks
      | none => v
    | _, _ => v

/-- whether an issue can be told: the answer repeats the part of the body that the issue is about -/
def isTellable (host : Host) (b : Body) (i : Issue) : Bool :=
  match b, i.path with
  | .value v, k :: path => if k = .name "body" then host.repeats (partAt v path) else true
  | _, _ => true

section

variable (host : Host)

/-- the answer to a request with issues -/
def issuesResponse (b : Body) (issues : List Issue) : Response :=
  if issues.all (isTellable host b) then .invalid issues else .broken

/-- go on with what was read, or answer what is wrong -/
def whenRead {α : Type} (s : Store) (b : Body) (r : Reading α) (f : α → Handled) : Handled :=
  match r with
  | .ok a => f a
  | .error issues => (issuesResponse host b issues, s)

/-- go on with what was read of a body that can be read -/
def whenBody {α : Type} (s : Store) (r : Request) (read : Body → Reading α) (f : α → Handled) : Handled :=
  match readBody host.room r.body with
  | .ok b => whenRead host s b (read b) f
  | .error answer => (answer, s)

end

/-- data with a status, if they can be shown -/
def shownResponse (status : Nat) : Option Value → Response
  | some v => .ofValue status v
  | none => .broken

/-- what an error of compilation is called -/
def failureKind : Failure → Option String
  | .lex _ => some "LexError"
  | .grammar (.mismatch _) => some "ParseError"
  | .generation (.reference _) => some "UnknownReferenceError"
  | .grammar _ | .generation .numeral => none

/-- what an error of compilation says -/
def failureMessage : Failure → String
  | .lex e => e.report none
  | .grammar (.mismatch e) => e.report none
  | .generation (.reference r) => r.message
  | .grammar _ | .generation .numeral => ""

/-- the answer to source that does not compile -/
def failureResponse (f : Failure) : Response :=
  match failureKind f with
  | some kind => .ofValue 400 (.object [("message", .text (failureMessage f)), ("kind", .text kind)])
  | none => .broken

/-- compile source and answer with what comes of it -/
def compiled (host : Host) (o : Options) (source : Wide) (f : Artifacts → Response) : Response :=
  match source.toString? with
  | none => host.halved source
  | some s =>
    match (compileSource o none s).1 with
    | .ok r => f r
    | .error e => failureResponse e

/-- whether source is nothing but blanks -/
def isBlank (source : Wide) : Bool := !source.hasHalf && Text.allBlank source.start

def numberAndBody {α : Type} (name id : String) (read : Value → Reading α) (b : Body) : Reading (Int × α) :=
  ((pathNumber name id).into Prod.mk).andAlso (bodyAs read b)

section

variable (host : Host) (o : Options) (now : Instant) (s : Store) (r : Request)

/-- the answer on a route that allows the method of the request -/
def answer : Route → Handled
  | .apps =>
    match r.method with
    | .post => whenBody host s r (bodyAs Check.appDraft) fun d =>
      let (a, t) := s.addApp now d
      (shownResponse 201 (host.shown? a.toValue), t)
    | _ => (shownResponse 200 (Store.shownItems? host.shown? (s.apps.map Store.SavedApp.toValue)), s)
  | .app id =>
    match r.method with
    | .put => whenBody host s r (numberAndBody "app_id" id Check.appPatch) fun (n, p) =>
      match s.changeApp n p with
      | (some a, t) => (shownResponse 200 (host.shown? a.toValue), t)
      | (none, t) => (.appNotFound, t)
    | .delete => whenRead host s .absent (pathNumber "app_id" id) fun n =>
      match s.removeApp n with
      | (true, t) => (⟨204, .nothing⟩, t)
      | (false, t) => (.appNotFound, t)
    | _ => whenRead host s .absent (pathNumber "app_id" id) fun n =>
      match s.appAt? n with
      | some a => (shownResponse 200 (host.shown? a.toValue), s)
      | none => (.appNotFound, s)
  | .preview id => whenRead host s .absent (pathNumber "app_id" id) fun n =>
    match s.appAt? n with
    | some a => (compiled host o a.code fun r => ⟨200, .html (r.document a.name)⟩, s)
    | none => (.appNotFound, s)
  | .entriesOf id model => whenRead host s .absent (pathNumber "app_id" id) fun n =>
    (shownResponse 200 (Store.shownItems? host.shown? ((s.entriesOf n model).map Store.Entry.toValue)), s)
  | .entries => whenBody host s r (bodyAs Check.entryDraft) fun d =>
    match s.appAt? d.appId with
    | none => (.appNotFound, s)
    | some _ =>
      let (e, t) := s.addEntry now d
      (shownResponse 201 (host.shown? e.toValue), t)
  | .entry id =>
    match r.method with
    | .put => whenBody host s r (numberAndBody "data_id" id Check.entryPatch) fun (n, p) =>
      match s.changeEntry n p with
      | (some e, t) => (shownResponse 200 (host.shown? e.toValue), t)
      | (none, t) => (.entryNotFound, t)
    | _ => whenRead host s .absent (pathNumber "data_id" id) fun n =>
      match s.removeEntry n with
      | (true, t) => (⟨204, .nothing⟩, t)
      | (false, t) => (.entryNotFound, t)
  | .compile => whenBody host s r (bodyAs sourceOf) fun source =>
    (compiled host o source fun r => .ofValue 200 r.toValue, s)
  | .run => whenBody host s r (bodyAs sourceOf) fun source =>
    if isBlank source then (.detail 400 "Code is required", s)
    else (compiled host o source fun _ => .ofValue 200 (.object [("success", .bool true)]), s)
  | .manual => (⟨200, .html ""⟩, s)

/-- the answer to a request at a time, and the store after it -/
def handle : Handled :=
  match targetOf r.method (host.pathOf r.address) with
  | .route route => answer host o now s r route
  | .wrongMethod => (.detail 405 "Method Not Allowed", s)
  | .redirect => (⟨307, .nothing⟩, s)
  | .unknown => (.detail 404 "Not Found", s)

end

/-- the store after a sequence of requests, each at its time -/
def serve (host : Host) (o : Options) (s : Store) (requests : List (Instant × Request)) : Store :=
  requests.foldl (fun t r => (handle host o r.1 t r.2).2) s

end Pagewright.Server
