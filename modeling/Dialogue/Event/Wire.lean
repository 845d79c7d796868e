import Dialogue.Event.Basic
import Dialogue.Json.Record

/-!
# Wire forms of events

The JSON trees as which events, requests and results are sent, and the reading of such trees. Every
form is an object whose first field names its variant. Optional fields without a value are left out
or written as null.
-/

namespace Dialogue

open Json (Field required optional)

/-! ### Requests and responses -/

/-- The tree of a request. -/
def ApiRequest.toJson (r : ApiRequest) : Json :=
  .object [("method", .string r.method), ("url", .string r.url), ("body", .ofText? r.body)]

/-- The request of a tree. -/
def ApiRequest.ofJson? (j : Json) : Option ApiRequest :=
  match j.parts? [{ name := "method" }, { name := "url" }, { name := "body" }] with
  | some [method, url, body] => do
    return {
      method := ← required Json.string? method
      url := ← required Json.string? url
      body := ← optional Json.string? body }
  | _ => none

/-- The tree of a response. -/
def ApiResponse.toJson (r : ApiResponse) : Json :=
  .object [("status", .integer r.status.toNat), ("body", .string r.body)]

/-- The status of a tree: an integer that fits 16 bits. -/
def Json.status? : Json → Option UInt16
  | .integer i => if 0 ≤ i ∧ i < 0x10000 then some (UInt16.ofNat i.toNat) else none
  | _ => none

/-- The response of a tree. -/
def ApiResponse.ofJson? (j : Json) : Option ApiResponse :=
  match j.parts? [{ name := "status" }, { name := "body" }] with
  | some [status, body] => do
    return { status := ← required Json.status? status, body := ← required Json.string? body }
  | _ => none

namespace ExternalRequest

/-- The tree of what a conversation waits for. -/
def toJson : ExternalRequest → Json
  | delay seconds => .object [("type", .string "delay"), ("seconds", .ofFloat seconds)]
  | http request => .object [("type", .string "http"), ("request", request.toJson)]

/-- What a tree says to wait for. -/
def ofJson? (j : Json) : Option ExternalRequest :=
  match j.variant? "type" ["delay", "http"] false with
  | some ("delay", fields) =>
    match fields.parts? [{ name := "seconds" }] with
    | some [seconds] => (required Json.number? seconds).map delay
    | _ => none
  | some (_, fields) =>
    match fields.parts? [{ name := "request" }] with
    | some [request] => (required ApiRequest.ofJson? request).map http
    | _ => none
  | none => none

end ExternalRequest

namespace ExternalResult

/-- The tree of a result. -/
def toJson : ExternalResult → Json
  | delayElapsed => .object [("type", .string "delay_elapsed")]
  | httpSucceeded response =>
    .object [("type", .string "http_succeeded"), ("response", response.toJson)]
  | httpFailed reason => .object [("type", .string "http_failed"), ("reason", .string reason)]

/-- The result of a tree. Inside another tree its variant may be named by number. -/
def ofJson? (numbered : Bool) (j : Json) : Option ExternalResult :=
  match j.variant? "type" ["delay_elapsed", "http_succeeded", "http_failed"] numbered with
  | some ("delay_elapsed", fields) => fields.noFields?.map fun _ => delayElapsed
  | some ("http_succeeded", fields) =>
    match fields.parts? [{ name := "response" }] with
    | some [response] => (required ApiResponse.ofJson? response).map httpSucceeded
    | _ => none
  | some (_, fields) =>
    match fields.parts? [{ name := "reason" }] with
    | some [reason] => (required Json.string? reason).map httpFailed
    | _ => none
  | none => none

end ExternalResult

/-! ### Events -/

namespace FlowErrorKind

/-- The name of a kind of failure. -/
def wireName : FlowErrorKind → String
  | infiniteLoop => "infinite_loop_detected"
  | missingEdge => "missing_edge"
  | externalCallFailure => "external_call_failure"
  | unexpectedStimulus => "unexpected_stimulus"

/-- The kind of failure that a tree names. -/
def ofJson? (j : Json) : Option FlowErrorKind :=
  (j.name? true).bind fun name =>
    [infiniteLoop, missingEdge, externalCallFailure, unexpectedStimulus].find? (·.wireName = name)

end FlowErrorKind

namespace Event

/-- The tree of an event. -/
def toJson : Event → Json
  | botMessage node message =>
    .object ([("event", .string "bot_message"), ("nodeId", .string node),
      ("text", .string message.text)] ++ Json.entry? "imageUrl" (message.image.map .string) ++
      Json.entry? "linkUrl" (message.link.map .string))
  | endOfConversation => .object [("event", .string "end_of_conversation")]
  | typingDelay seconds =>
    .object [("event", .string "typing_delay"), ("seconds", .ofFloat seconds)]
  | flowError kind reason =>
    .object [("event", .string "flow_error"), ("kind", .string kind.wireName),
      ("reason", .string reason)]

/-- The names of the events. -/
def names : List String := ["bot_message", "end_of_conversation", "typing_delay", "flow_error"]

/-- The fields of a message. -/
def messageFields : List Field :=
  [{ name := "nodeId" }, { name := "text" }, { name := "imageUrl", omissible := true },
    { name := "linkUrl", omissible := true }]

/-- The event of a tree. -/
def ofJson? (j : Json) : Option Event :=
  match j.variant? "event" names false with
  | some ("bot_message", fields) =>
    match fields.parts? messageFields with
    | some [node, text, image, link] => do
      return botMessage (← required Json.string? node) {
        text := ← required Json.string? text
        image := ← optional Json.string? image
        link := ← optional Json.string? link }
    | _ => none
  | some ("end_of_conversation", fields) => fields.noFields?.map fun _ => endOfConversation
  | some ("typing_delay", fields) =>
    match fields.parts? [{ name := "seconds" }] with
    | some [seconds] => (required Json.number? seconds).map typingDelay
    | _ => none
  | some (_, fields) =>
    match fields.parts? [{ name := "kind" }, { name := "reason" }] with
    | some [kind, reason] => do
      return flowError (← required FlowErrorKind.ofJson? kind) (← required Json.string? reason)
    | _ => none
  | none => none

end Event

namespace Incoming

/-- The tree of an event sent to a conversation. -/
def toJson : Incoming → Json
  | startFlow flow session =>
    .object [("event", .string "start_flow"), ("flowId", .string flow),
      ("sessionId", .ofText? session)]
  | userMessage session text =>
    .object [("event", .string "user_message"), ("sessionId", .string session),
      ("text", .string text)]
  | externalComplete session result =>
    .object [("event", .string "external_complete"), ("sessionId", .string session),
      ("result", result.toJson)]

/-- The names of the events. -/
def names : List String := ["start_flow", "user_message", "external_complete"]

/-- The event of a tree. -/
def ofJson? (j : Json) : Option Incoming :=
  match j.variant? "event" names false with
  | some ("start_flow", fields) =>
    match fields.parts? [{ name := "flowId" }, { name := "sessionId", omissible := true }] with
    | some [flow, session] => do
      return startFlow (← required Json.string? flow) (← optional Json.string? session)
    | _ => none
  | some ("user_message", fields) =>
    match fields.parts? [{ name := "sessionId" }, { name := "text" }] with
    | some [session, text] => do
      return userMessage (← required Json.string? session) (← required Json.string? text)
    | _ => none
  | some (_, fields) =>
    match fields.parts? [{ name := "sessionId" }, { name := "result" }] with
    | some [session, result] => do
      return externalComplete (← required Json.string? session)
        (← required (ExternalResult.ofJson? true) result)
    | _ => none
  | none => none

end Incoming

end Dialogue
