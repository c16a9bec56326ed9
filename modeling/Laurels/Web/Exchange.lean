import Laurels.Web
import Laurels.Web.Target

/-!
# Between client and service

What a client sends is not yet a request. Its method arrives in upper case and its reference as a path. Header
texts travel as bytes, and arrive as one character for each byte. A body is sent as JSON, and is declared to be
JSON unless a header of the client says otherwise; an empty one is not sent at all. On the way back, the
response to a `HEAD` request loses its body.
-/

namespace Laurels.Web

/-- What a client sends. -/
structure Message where
  method : String
  /-- A reference to what is wanted. -/
  target : String
  headers : List (String × String)
  body : Option Value

/-- A text as it arrives if it travels as bytes and each byte is read as a character. -/
def bytewise (s : String) : String :=
  String.ofList ((s.toList.flatMap String.utf8EncodeChar).map fun b => Char.ofNat b.toNat)

namespace Message

/-- The body that is sent. -/
def sentBody (m : Message) : Option Value :=
  match m.body with
  | some .null => none
  | body => body

/-- The headers that are sent. -/
def sentHeaders (m : Message) : List (String × String) :=
  if m.sentBody.isNone || m.headers.any (fun h => sameName h.1 typeHeader) then m.headers
  else m.headers ++ [(typeHeader, "application/json")]

/-- The request that arrives; `none` if the reference is none. -/
def arrival? (m : Message) : Option Request :=
  (Target.path? m.target).map fun path =>
    { method := String.ofList (Text.upper m.method.toList)
      path
      headers := m.sentHeaders.map fun h => (h.1, bytewise h.2)
      body := m.sentBody }

end Message

/-- The response as the client gets it. -/
def returned (method : String) (r : Response) : Response :=
  if method = "HEAD" then { r with body := .null } else r

/-- Send a message to the service, and get its response. -/
def exchange (m : Message) : Procedure Response :=
  match m.arrival? with
  | none => .raise .badTarget
  | some r => returned r.method <$> handle r

/-- A message that leads to a route, with one of its methods, is answered by it. -/
theorem exchange_of_route {m : Message} {request : Request} {route : Route} (hm : m.arrival? = some request)
    (hmethod : request.method ≠ "OPTIONS") (hroute : Route.ofPath? request.path = some route)
    (hanswers : route.methods.contains request.method = true) :
    exchange m = returned request.method <$> respond request route := by
  have hfree : permission? request = none := by
    unfold permission?
    rw [if_neg fun h => hmethod h.1]
  unfold exchange handle Web.route
  rw [hm]
  dsimp only
  rw [hfree, hroute]
  dsimp only
  rw [if_pos hanswers]

end Laurels.Web
