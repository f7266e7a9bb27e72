import Rulebook.Json.Reader
import Rulebook.Text.Percent
import Rulebook.Text.Search

/-!
# Requests

What a service is asked, and what it is asked for. A request has a method, a path, headers and
perhaps a body, which was read as JSON as far as that went. A path leads to a `Route`, each of which
takes some methods.

Left out are the description of the routes that a framework may serve of its own accord, and the
type that a body is sent with: every body is taken for JSON.

## Main definitions

* `Request`, `Body`;
* `Route`, `Route.ofPath?`, `Route.methods`;
* `Destination`: what becomes of a request by its path and method alone.
-/

namespace Rulebook

/-- The body of a request as far as it could be read; none when it is empty. -/
abbrev Body : Type := Option (Except Json.Fault Value)

/-- The body that a text makes. A mark of byte order in front of it does not belong to it. -/
def Body.ofText (s : String) : Body :=
  match s.toList with
  | [] => none
  | '\ufeff' :: rest => some (Json.read rest)
  | cs => some (Json.read cs)

/-- A request to a service. -/
structure Request where
  method : String
  /-- The path, perhaps with a query behind it. -/
  target : String
  headers : List (String × String)
  body : Body

namespace Request

/-- A text in small letters, of which only the Latin capitals are changed. -/
def small (s : String) : String := String.ofList (s.toList.map Char.toLower)

/-- The value of a header; its name may be in any case. -/
def header? (r : Request) (name : String) : Option String :=
  (r.headers.find? fun h => small h.1 = name).map Prod.snd

/-- The header with the id of a request. -/
def requestIdHeader : String := "x-request-id"

/-- The header with the origin of the page that a browser sends a request for. -/
def originHeader : String := "origin"

/-- The header with the method of the request that a browser asks ahead about. -/
def intendedMethodHeader : String := "access-control-request-method"

/-- The path that a request asks for, without its query. -/
def path (r : Request) : String :=
  Text.decodePath (String.ofList (r.target.toList.takeWhile fun c => c ≠ '?' && c ≠ '#'))

/-- The method of a request, in capitals. -/
def verb (r : Request) : String := String.ofList (r.method.toList.map Char.toUpper)

/-! ### Asking ahead -/

/-- The methods that a browser may use for the page of an admitted origin. -/
def admittedMethods : List String := ["DELETE", "GET", "HEAD", "OPTIONS", "PATCH", "POST", "PUT"]

/-- The method that a browser asks ahead about: before it sends a request for the page of another
origin, it asks whether it may. -/
def intendedMethod? (r : Request) : Option String :=
  if r.verb = "OPTIONS" ∧ (r.header? originHeader).isSome then r.header? intendedMethodHeader
  else none

end Request

/-- What a service can be asked for. -/
inductive Route where
  | root
  | health
  | metrics
  | evaluateRuleSet
  | evaluateRule
  | templates
  | template (category name : String)
  /-- A page for people. -/
  | page
deriving DecidableEq

namespace Route

/-- The paths of the routes without parameters. -/
def fixed : List (String × Route) := [
  ("/", root),
  ("/health", health),
  ("/metrics", metrics),
  ("/rules/evaluate", evaluateRuleSet),
  ("/rules/evaluate-rule", evaluateRule),
  ("/rules/templates", templates)]

/-- The paths of the pages, which only a service under development has. -/
def pages : List (String × Route) :=
  [("/docs", page), ("/docs/oauth2-redirect", page), ("/redoc", page)]

/-- The template that a path names. -/
def template? (path : String) : Option Route :=
  match (Text.splitOn '/' path.toList).map String.ofList with
  | ["", "rules", "templates", category, name] =>
    if category.isEmpty || name.isEmpty then none else some (template category name)
  | _ => none

/-- The route that a path leads to. -/
def ofPath? (hasPages : Bool) (path : String) : Option Route :=
  match fixed.lookup path with
  | some route => some route
  | none =>
    match template? path with
    | some route => some route
    | none => if hasPages then pages.lookup path else none

/-- The methods that a route takes. -/
def methods : Route → List String
  | evaluateRuleSet | evaluateRule | template _ _ => ["POST"]
  | page => ["GET", "HEAD"]
  | _ => ["GET"]

end Route

/-- What becomes of a request by its path and method. -/
inductive Destination where
  | reached (route : Route)
  | methodNotAllowed
  | elsewhere
  | notFound

namespace Destination

/-- A path with the slash at its end put there or taken away. -/
def turnSlash (path : String) : String :=
  match path.toList.reverse with
  | '/' :: _ => String.ofList (path.toList.reverse.dropWhile (· == '/')).reverse
  | _ => path ++ "/"

/-- What becomes of a request for a path by a method. A path that only has the slash at its end
wrong is sent elsewhere. -/
def of (hasPages : Bool) (path method : String) : Destination :=
  match Route.ofPath? hasPages path with
  | some route => if route.methods.contains method then reached route else methodNotAllowed
  | none =>
    if path ≠ "/" && (Route.ofPath? hasPages (turnSlash path)).isSome then elsewhere else notFound

end Destination

end Rulebook
