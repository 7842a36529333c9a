import PanelForms.Json.Printer
import PanelForms.Schema.Error

/-!
# Requests, responses and their errors

The backend is called by requests with a path and perhaps a body, and answers with a status and
bytes.

Main definitions:

- `Request`, `Response`, `Body`, `Method`.
- `ApiError`: why a call has no result, with the path that was called.
- `ApiError.isTransient`: whether another attempt may help.
- `ApiError.MayPass`: which failures these are.
-/

namespace PanelForms

/-- How a path is called. -/
inductive Method where
  | get
  | post
  deriving DecidableEq

/-- The name of a method. -/
def Method.name : Method → String
  | .get => "GET"
  | .post => "POST"

/-- What is sent along: nothing, a JSON value, or a file under a form field. -/
inductive Body where
  | empty
  | json (value : Json)
  | file (field name : String) (bytes : List UInt8)
  deriving DecidableEq

/-- A call. -/
structure Request where
  method : Method
  path : String
  body : Body
  deriving DecidableEq

namespace Request

/-- A call without a body. -/
def get (path : String) : Request :=
  ⟨.get, path, .empty⟩

/-- A call with a JSON body. -/
def post (path : String) (value : Json) : Request :=
  ⟨.post, path, .json value⟩

end Request

/-- An answer. -/
structure Response where
  status : Nat
  body : List UInt8
  deriving DecidableEq

/-- The bytes of a text. -/
def textBytes (s : String) : List UInt8 :=
  s.toList.flatMap String.utf8EncodeChar

namespace Response

/-- An answer that holds a JSON value. -/
def json (value : Json) : Response :=
  ⟨200, textBytes value.text⟩

/-- The answer of a path that is not there. -/
def notFound : Response :=
  ⟨404, []⟩

/-- Whether the status reports success. -/
def isSuccess (r : Response) : Bool :=
  200 ≤ r.status && r.status < 300

end Response

/-- Why a call has no result: the request failed, the status reports a failure, or the body is not
what the call expects. -/
inductive ApiError where
  | transport (path message : String)
  | status (path : String) (code : Nat)
  | badBody (path : String)
  deriving DecidableEq

namespace ApiError

/-- The path that was called. -/
def path : ApiError → String
  | .transport path _ => path
  | .status path _ => path
  | .badBody path => path

/-- What is reported. -/
def message : ApiError → String
  | .transport path text => path ++ ": request failed: " ++ text
  | .status path code => path ++ ": HTTP status " ++ toString code
  | .badBody path => path ++ ": bad response body: " ++ jsonFaultText

/-- Whether another attempt may help: the request did not get through, there were too many
requests, or the backend failed. -/
def isTransient : ApiError → Bool
  | .transport _ _ => true
  | .status _ code => code == 429 || 500 ≤ code
  | .badBody _ => false

/-- The failures that may pass: the request got no answer, or the answer has status 429 (too many
requests) or a status of 500 and above (a fault of the backend). -/
inductive MayPass : ApiError → Prop where
  | unanswered {path text : String} : MayPass (.transport path text)
  | tooMany {path : String} : MayPass (.status path 429)
  | backendFault {path : String} {code : Nat} (h : 500 ≤ code) : MayPass (.status path code)

/-- Another attempt is thought to help exactly after the failures that may pass. -/
theorem isTransient_iff (e : ApiError) : e.isTransient = true ↔ e.MayPass := by
  constructor
  · intro h
    cases e with
    | transport path text => exact .unanswered
    | status path code =>
      have hcode : code = 429 ∨ 500 ≤ code := by simpa [isTransient] using h
      rcases hcode with rfl | hfault
      · exact .tooMany
      · exact .backendFault hfault
    | badBody path => cases h
  · rintro (_ | _ | hfault)
    · rfl
    · rfl
    · simp [isTransient, hfault]

/-- No other attempt is made after a failure that lasts. -/
theorem isTransient_eq_false_iff (e : ApiError) : e.isTransient = false ↔ ¬ e.MayPass := by
  rw [← isTransient_iff, Bool.not_eq_true]

end ApiError
end PanelForms
