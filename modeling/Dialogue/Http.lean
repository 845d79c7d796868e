import Dialogue.Json.Reading
import Dialogue.Json.Writing
import Dialogue.Text.Blank
import Dialogue.Text.Lowercase
import Dialogue.Text.Search

/-!
# Requests and responses

The requests that api nodes make, the responses to them, and the part of a response that a dotted
path selects.
-/

namespace Dialogue

/-- A request of an api node. -/
structure ApiRequest where
  method : String
  url : String
  body : Option String
  deriving DecidableEq, Inhabited, Repr

/-- A response to a request. -/
structure ApiResponse where
  status : UInt16
  body : String
  deriving DecidableEq, Inhabited, Repr

/-- Whether a response tells of success: its status is from 200 to 299. -/
def ApiResponse.isSuccess (r : ApiResponse) : Bool := 200 ≤ r.status && r.status ≤ 299

/-! ### Failures -/

/-- Why a request has no response. -/
inductive HttpError where
  /-- The server answered with a status that is a failure. -/
  | status (url : String) (code : UInt16) (body : String)
  /-- The server could not be reached. -/
  | transport (url message : String)
  | unsupportedMethod (method : String)
  deriving DecidableEq, Repr

/-- What went wrong, in words. -/
def HttpError.message : HttpError → String
  | .status url code body =>
    "Request to '" ++ url ++ "' failed with status " ++ toString code.toNat ++ ": " ++ body
  | .transport url message => "Request to '" ++ url ++ "' failed: " ++ message
  | .unsupportedMethod method => "Unsupported HTTP method '" ++ method ++ "'"

/-! ### Calls -/

/-- The methods of requests. -/
inductive HttpMethod where
  | get
  | post
  | put
  | patch
  | delete
  | head
  deriving DecidableEq, Repr

namespace HttpMethod

/-- The name of a method. -/
def name : HttpMethod → String
  | get => "GET"
  | post => "POST"
  | put => "PUT"
  | patch => "PATCH"
  | delete => "DELETE"
  | head => "HEAD"

/-- All methods. -/
def all : List HttpMethod := [get, post, put, patch, delete, head]

/-- The method that a text names. Blanks at its ends and the case of letters do not matter. -/
def ofText? (s : String) : Option HttpMethod :=
  all.find? fun m => m.name = Text.asciiUppercase (Text.trim s)

end HttpMethod

/-- Makes a request by a way of sending one with a known method. A request with another method is
not sent. -/
def ApiRequest.send {m : Type → Type} [Monad m]
    (via : HttpMethod → ApiRequest → m (Except HttpError ApiResponse)) (request : ApiRequest) :
    m (Except HttpError ApiResponse) :=
  match HttpMethod.ofText? request.method with
  | some method => via method request
  | none => pure (.error (.unsupportedMethod request.method))

/-! ### Parts of a response -/

/-- The segments of a dotted path. Empty ones do not count. -/
def pathSegments (path : String) : List String := (Text.split '.' path).filter (· ≠ "")

/-- The tree that one segment of a path selects: a field of an object, or an item of an array. -/
def Json.child? (segment : String) : Json → Option Json
  | .object fields => fields.lookup segment
  | .array items => (Decimal.natural? segment).bind fun i => items[i]?
  | _ => none

/-- The tree that the segments of a path select, one inside the other. -/
def Json.descend? : List String → Json → Option Json
  | [], j => some j
  | segment :: rest, j => (j.child? segment).bind (descend? rest)

/-- A string as it is, any other tree as its text. -/
def Json.plainText : Json → String
  | .string s => s
  | j => j.compact

/-- The value of a text. -/
def Json.valueOf? (s : String) : Option Json.Value := (Json.parse? s).bind Json.value?

/-- The text of the part of a body that a dotted path selects. -/
def ApiResponse.field? (r : ApiResponse) (path : String) : Option String := do
  let body ← Json.valueOf? r.body
  let part ← body.tree.descend? (pathSegments path)
  return part.plainText

end Dialogue
