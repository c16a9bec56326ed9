import Laurels.Answer
import Laurels.Catalogue
import Laurels.Web.Basic

/-!
# What the routes answer

Refusals become responses with a code, a message and details; a fault that a route does not catch ends the
call. A path that no route has is not found, unless only slashes at its end are in the way; then the client is
redirected. A route answers its own methods only. Pages of other sites may send requests, and are told so when
they ask.
-/

namespace Laurels.Web

/-- A response that refuses a request. -/
def refuse (status : Nat) (code message details : String) : Response :=
  ⟨status, .object [("error", .text code), ("message", .text message), ("details", .text details)]⟩

/-- A successful response. -/
def accept (fields : List (String × Value)) : Response := ⟨200, .object (("ok", .flag true) :: fields)⟩

/-- The response while tables are missing. -/
def notMigrated (t : Table) : Response :=
  refuse 503 Refusal.storageMissing.code
    "Stats DB not initialized (achievements tables missing). Run the database migrations."
    (StoreFault.missing t).message

/-- The response to a viewer who does not say who they are. -/
def anonymous : Response := refuse 401 "auth_missing_user_id" "" ""

/-- Answer a missing table with a response; other faults end the call. -/
def unlessMigrated : Fault → Procedure Response
  | .store (.missing t) => .done (notMigrated t)
  | e => .raise e

/-- The public catalogue. -/
def catalogue : Procedure Response :=
  (do
    let achievements ← listAchievements
    pure (accept [("achievements", .list (achievements.map Achievement.toValue))])).rescue unlessMigrated

/-- One complaint about the body of a request. -/
def complaint (kind : String) (loc : List String) (message : String) : Response :=
  ⟨422, .object [("detail", .list [.object [("type", .text kind), ("loc", .list (loc.map .text)),
    ("msg", .text message)]])]⟩

/-- The complaint that a body is missing. -/
def bodyMissing : Response := complaint "missing" ["body"] "Field required"

/-- The complaint that a body is no object. -/
def bodyNoObject : Response :=
  complaint "model_attributes_type" ["body"]
    "Input should be a valid dictionary or object to extract fields from"

/-- The criteria text in an object, or the complaint that it is no text. An object without the field has the
empty text. -/
def criteriaIn (fields : List (String × Value)) : Except Response String :=
  match fields.lookup "criteria" with
  | none => .ok ""
  | some (.text s) => .ok s
  | some _ => .error (complaint "string_type" ["body", "criteria"] "Input should be a valid string")

/-- The criteria text in the body of a request, or the complaint that there is none. A body that is not
declared to be JSON is not looked into. -/
def criteriaOf (r : Request) : Except Response String :=
  match r.body with
  | none => .error bodyMissing
  | some body =>
    if !r.declaresJson then .error bodyNoObject
    else
      match body with
      | .null => .error bodyMissing
      | .object fields => criteriaIn fields
      | _ => .error bodyNoObject

/-- The warning about a metric that measures nothing. -/
def unknownWarning (name : String) : String := "Unknown metric '" ++ name ++ "' always evaluates as 0"

/-- Check a criteria text, and show its clauses under canonical names. -/
def validateText (text : String) : Procedure Response :=
  match Criteria.parse text with
  | .ok clauses =>
    .done (accept [("clauses", .list (clauses.map fun c => c.canonical.toValue)),
      ("warnings", .list ((unknownMetrics clauses).map fun m => .text (unknownWarning m)))])
  | .error e =>
    match e.refusal? with
    | some r => .done (refuse 400 r.code e.message "")
    | none => .raise (.criteria e)

/-- Check the criteria text in the body of a request. -/
def validate (r : Request) : Procedure Response :=
  match criteriaOf r with
  | .error response => .done response
  | .ok text => validateText text

/-- The unlocks of a viewer. -/
def unlocked (viewer : String) : Procedure Response :=
  if viewer.isEmpty then .done anonymous
  else
    (do
      let rows ← listUnlocked (.text viewer)
      pure (accept [("viewerUserId", .text viewer),
        ("achievements", .list (rows.map Unlocked.toValue))])).rescue unlessMigrated

/-- What becomes of a report that could not be made. -/
def reportFailed (viewer : String) : Fault → Procedure (Except Response Report)
  | .store (.missing t) => .done (.error (notMigrated t))
  | .viewerRequired => .done (.error (refuse 400 Refusal.viewerRequired.code Fault.viewerRequired.message ""))
  | e => do
    .write .error ("❌ [ACH-PROGRESS] Progress failed for viewer " ++ viewer)
    pure (.error (refuse 500 "server_error" "Failed to compute achievement progress." e.message))

/-- The progress of a viewer, with the time at which it was told. -/
def progress (viewer : String) : Procedure Response :=
  if viewer.isEmpty then .done anonymous
  else do
    match ← ((report (.text viewer)).bind fun r => .done (.ok r)).rescue (reportFailed viewer) with
    | .error response => pure response
    | .ok r =>
      let time ← .readClock
      pure (accept (("serverTimeMs", .int time) :: r.fields))

/-- An action of a viewer. -/
def action (viewer key : String) : Procedure Response :=
  if viewer.isEmpty then .done anonymous
  else
    (do
      let outcome ← recordAction (.text viewer) (.text key)
      pure (Response.mk 200 outcome.toResponse)).rescue unlessMigrated

/-- What a route answers to a request. The pages that describe the service are not written here. -/
def respond (r : Request) : Route → Procedure Response
  | .health => .done (accept [])
  | .catalogue => catalogue
  | .validate => validate r
  | .unlocked => unlocked r.viewer
  | .progress => progress r.viewer
  | .action key => action r.viewer key
  | .page => .done ⟨200, .null⟩

/-- A response that only says what is wrong. -/
def detail (status : Nat) (message : String) : Response := ⟨status, .object [("detail", .text message)]⟩

/-- A path without the slashes at its end, if it has any. -/
def withoutFinalSlashes? (path : List Char) : Option (List Char) :=
  match path.reverse with
  | '/' :: rest => some (rest.dropWhile (· = '/')).reverse
  | _ => none

/-- The response to a path that no route has. One that differs from the path of a route only by slashes
at its end is redirected there. -/
def elsewhere (path : List Char) : Response :=
  if ((withoutFinalSlashes? path).bind Route.ofPath?).isSome then ⟨307, .null⟩ else detail 404 "Not Found"

/-- The methods that pages of other sites may use. -/
def sharedMethods : List String := ["DELETE", "GET", "HEAD", "OPTIONS", "PATCH", "POST", "PUT"]

/-- The response to a question whether a page of another site may send a request with some method, if the
request is such a question. It is answered for every path. -/
def permission? (r : Request) : Option Response :=
  if r.method = "OPTIONS" ∧ (r.header? "Origin").isSome then
    (r.header? "Access-Control-Request-Method").map fun method =>
      ⟨if sharedMethods.contains method then 200 else 400, .null⟩
  else none

/-- Answer a request by its route. -/
def route (r : Request) : Procedure Response :=
  match Route.ofPath? r.path with
  | none => .done (elsewhere r.path)
  | some route =>
    if route.methods.contains r.method then respond r route else .done (detail 405 "Method Not Allowed")

/-- Answer a request. -/
def handle (r : Request) : Procedure Response :=
  match permission? r with
  | some response => .done response
  | none => route r

end Laurels.Web
