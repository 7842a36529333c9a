import PanelForms.Backend.Request

/-!
# A scripted backend

A backend is a script of replies for every route and a log of the requests it was sent.  Each
request takes the next reply of its route, the last reply stays, and a route without a script
answers that it is not there.

Main definitions:

- `Backend`: the script and the log.
- `Backend.script`: add replies to a route.
- `Backend.send`: the reply to a request, and the backend after it.
-/

namespace PanelForms

/-- The outcome of a request: an answer, or the error that kept it from getting through. -/
abbrev Reply := Except ApiError Response

/-- A method and a path. -/
abbrev Route := Method × String

/-- The replies still to come on every route, and the requests so far. -/
structure Backend where
  routes : List (Route × List Reply)
  requests : List Request

namespace Backend

/-- A backend without routes. -/
def empty : Backend :=
  ⟨[], []⟩

/-- The replies still to come on a route. -/
def replies (b : Backend) (route : Route) : List Reply :=
  (b.routes.lookup route).getD []

/-- Set the replies of a route. -/
def setReplies (b : Backend) (route : Route) (replies : List Reply) : Backend :=
  { b with routes := (route, replies) :: b.routes.filter fun r => r.1 ≠ route }

/-- Add replies to a route. -/
def script (b : Backend) (route : Route) (replies : List Reply) : Backend :=
  b.setReplies route (b.replies route ++ replies)

/-- Log a request. -/
def log (b : Backend) (request : Request) : Backend :=
  { b with requests := b.requests ++ [request] }

/-- The reply to a request. -/
def send (b : Backend) (request : Request) : Reply × Backend :=
  let route : Route := (request.method, request.path)
  match b.replies route with
  | [] => (.ok .notFound, b.log request)
  | [last] => (last, b.log request)
  | next :: rest => (next, (b.setReplies route rest).log request)

/-- How many requests a path has got. -/
def count (b : Backend) (path : String) : Nat :=
  b.requests.countP fun r => r.path == path

/-- A bound on the requests after which a path repeats its reply. -/
def scriptLength (b : Backend) : Nat :=
  b.routes.foldl (fun total r => total + r.2.length) 0

end Backend
end PanelForms
