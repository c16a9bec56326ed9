import Laurels.Text.Cut
import Laurels.Text.LetterCase
import Laurels.Value

/-!
# Requests, routes and responses

A request has a method, a path, headers and perhaps a body. The path leads to a route: a health check, the
public catalogue, a check of a criteria text, three routes for the viewer whom a header names, or one of the
pages that describe the service. Header names are compared without regard to the case of ASCII letters, and
of several headers of one name the first counts.
-/

namespace Laurels.Web

open Laurels.Text

/-- A request, as it arrives. -/
structure Request where
  method : String
  /-- The path, decoded. -/
  path : List Char
  headers : List (String × String)
  /-- What the body says if it is read as JSON. -/
  body : Option Value

/-- A response. -/
structure Response where
  status : Nat
  body : Value

/-- What a path leads to. -/
inductive Route where
  | health
  | catalogue
  | validate
  | unlocked
  | progress
  | action (key : String)
  /-- A page that describes the service. -/
  | page
deriving DecidableEq, Repr

namespace Route

/-- The methods that a route answers. -/
def methods : Route → List String
  | .validate => ["POST"]
  | .action _ => ["POST"]
  | .page => ["GET", "HEAD"]
  | _ => ["GET"]

/-- The routes with a fixed path. -/
def fixed : List (String × Route) :=
  [("/openapi.json", .page), ("/docs", .page), ("/docs/oauth2-redirect", .page), ("/redoc", .page),
   ("/healthcheck", .health), ("/api/v1/achievements", .catalogue),
   ("/api/v1/achievements/validate", .validate), ("/api/v1/me/achievements", .unlocked),
   ("/api/v1/me/achievement-progress", .progress)]

/-- The opening of the path of an action. -/
def actionOpening : List Char := "/api/v1/me/actions/".toList

/-- A path without one line feed at its end. -/
def withoutFinalBreak (path : List Char) : List Char :=
  match path.reverse with
  | '\n' :: rest => rest.reverse
  | _ => path

/-- The route that a decoded path leads to. The key of an action is one segment that is not empty. -/
def ofPath? (path : List Char) : Option Route :=
  match fixed.lookup (String.ofList (withoutFinalBreak path)) with
  | some route => some route
  | none =>
    match after? actionOpening path with
    | some (c :: key) => if (c :: key).contains '/' then none else some (.action (String.ofList (c :: key)))
    | _ => none

end Route

/-- A name in lower case, as header names are compared. -/
def lowerAscii (s : String) : String := String.ofList (s.toList.map Char.toLower)

/-- Whether two header names are the same. -/
def sameName (a b : String) : Bool := lowerAscii a == lowerAscii b

/-- The text of a header. -/
def Request.header? (r : Request) (name : String) : Option String :=
  (r.headers.find? fun h => sameName h.1 name).map (·.2)

/-- The header that carries the id of the viewer. -/
def viewerHeader : String := "X-Viewer-User-Id"

/-- The viewer that a request is made by; empty if it does not say. -/
def Request.viewer (r : Request) : String := trimmed ((r.header? viewerHeader).getD "")

/-- The header that says of what type the body is. -/
def typeHeader : String := "Content-Type"

/-- The type and the subtype that a text names in front of its parameters. -/
def mediaType? (s : String) : Option (List Char × List Char) :=
  match pieces (· = '/') (lower (trim (s.toList.takeWhile (· ≠ ';')))) with
  | [kind, subtype] => some (kind, subtype)
  | _ => none

/-- Whether a type is JSON, or a format that is written in JSON. -/
def isJson (s : String) : Bool :=
  match mediaType? s with
  | some (kind, subtype) =>
    kind == "application".toList && (subtype == "json".toList || "+json".toList.isSuffixOf subtype)
  | none => false

/-- Whether the body of a request is declared to be JSON. -/
def Request.declaresJson (r : Request) : Bool := isJson ((r.header? typeHeader).getD "")

end Laurels.Web
