import Dialogue.Event.Wire
import Dialogue.Proofs.Json.Order

/-!
# Wire forms of events

Events, requests and results are written as plain trees, which are read again as they were, in
whatever order the fields come. A number that is not finite is written as null and is lost; so the
delays of what is read again are finite.
-/

namespace Dialogue

open Json (IgnoresOrder required_sortKeys optional_sortKeys ignoresOrder_string?
  ignoresOrder_number? ignoresOrder_noFields? ignoresOrder_name?)

namespace Json

lemma plain_ofFloat (x : Float) : (ofFloat x).Plain := by
  rw [ofFloat]
  split
  · next finite => exact .decimal finite
  · exact .null

lemma plain_ofText? (s : Option String) : (ofText? s).Plain := by
  cases s with
  | none => exact .null
  | some s => exact .string s

lemma ofFloat_of_isFinite {x : Float} (h : Decimal.isFinite x) : ofFloat x = .decimal x := if_pos h

lemma ignoresOrder_status? : IgnoresOrder status? := by
  intro j _
  cases j <;> rfl

end Json

/-! ### Requests and responses -/

namespace ApiRequest

lemma plain_toJson (r : ApiRequest) : r.toJson.Plain :=
  Json.plain_object (by simp) ⟨.string _, .string _, Json.plain_ofText? _⟩

lemma ofJson?_toJson (r : ApiRequest) : ofJson? r.toJson = some r := by
  obtain ⟨method, url, body⟩ := r
  cases body <;> rfl

lemma ignoresOrder_ofJson? : IgnoresOrder ofJson? := by
  intro j hj
  refine hj.read_three _ fun method url body hmethod hurl hbody => ?_
  rw [required_sortKeys ignoresOrder_string? hmethod, required_sortKeys ignoresOrder_string? hurl,
    optional_sortKeys ignoresOrder_string? hbody]

end ApiRequest

namespace ApiResponse

lemma plain_toJson (r : ApiResponse) : r.toJson.Plain :=
  Json.plain_object (by simp) ⟨.integer _, .string _⟩

lemma status?_toNat (status : UInt16) : Json.status? (.integer status.toNat) = some status := by
  have hlt : status.toNat < 0x10000 := status.toNat_lt
  rw [Json.status?, if_pos (by omega), Int.toNat_natCast, UInt16.ofNat_toNat]

lemma ofJson?_toJson (r : ApiResponse) : ofJson? r.toJson = some r := by
  obtain ⟨status, body⟩ := r
  have hparts : (toJson ⟨status, body⟩).parts? [{ name := "status" }, { name := "body" }] =
      some [some (.integer status.toNat), some (.string body)] := rfl
  rw [ofJson?, hparts]
  simp only
  rw [Json.required_some, status?_toNat]
  rfl

lemma ignoresOrder_ofJson? : IgnoresOrder ofJson? := by
  intro j hj
  refine hj.read_two _ fun status body hstatus hbody => ?_
  rw [required_sortKeys Json.ignoresOrder_status? hstatus,
    required_sortKeys ignoresOrder_string? hbody]

end ApiResponse

namespace ExternalRequest

/-- The delay, if it is one, is finite. -/
def IsFinite : ExternalRequest → Prop
  | delay seconds => Decimal.isFinite seconds
  | http _ => True

lemma plain_toJson (r : ExternalRequest) : r.toJson.Plain := by
  cases r with
  | delay seconds =>
    exact Json.plain_object (by simp) ⟨.string _, Json.plain_ofFloat _⟩
  | http request =>
    exact Json.plain_object (by simp) ⟨.string _, request.plain_toJson⟩

lemma ofJson?_toJson {r : ExternalRequest} (h : r.IsFinite) : ofJson? r.toJson = some r := by
  have hplain := r.plain_toJson
  cases r with
  | delay seconds =>
    rw [toJson, Json.ofFloat_of_isFinite h]
    rfl
  | http request =>
    rw [toJson] at hplain ⊢
    simp only [ofJson?, hplain.variant?_eq ["delay", "http"] false (by simp)]
    show (ApiRequest.ofJson? request.toJson).map http = _
    rw [request.ofJson?_toJson]
    rfl

lemma ignoresOrder_ofJson? : IgnoresOrder ofJson? := by
  intro j hj
  simp only [ofJson?]
  rcases hj.variant?_cases "type" ["delay", "http"] false with
    ⟨h, hs⟩ | ⟨name, hname, record, hrecord, h, hs⟩
  · rw [h, hs]
  · rw [h, hs]
    simp only [List.mem_cons, List.not_mem_nil, or_false] at hname
    rcases hname with rfl | rfl
    · refine hrecord.read_one _ fun seconds hseconds => ?_
      rw [required_sortKeys ignoresOrder_number? hseconds]
    · refine hrecord.read_one _ fun request hrequest => ?_
      rw [required_sortKeys ApiRequest.ignoresOrder_ofJson? hrequest]

end ExternalRequest

namespace ExternalResult

lemma plain_toJson (r : ExternalResult) : r.toJson.Plain := by
  cases r with
  | delayElapsed =>
    exact Json.plain_object (by simp) (.string _)
  | httpSucceeded response =>
    exact Json.plain_object (by simp) ⟨.string _, response.plain_toJson⟩
  | httpFailed reason =>
    exact Json.plain_object (by simp) ⟨.string _, .string _⟩

lemma ofJson?_toJson (numbered : Bool) (r : ExternalResult) :
    ofJson? numbered r.toJson = some r := by
  have hplain := r.plain_toJson
  cases r with
  | delayElapsed => rfl
  | httpSucceeded response =>
    rw [toJson] at hplain ⊢
    simp only [ofJson?, hplain.variant?_eq _ numbered (List.mem_cons_of_mem _ List.mem_cons_self)]
    have hparts : (Json.object [("response", response.toJson)]).parts? [{ name := "response" }] =
        some [some response.toJson] := rfl
    simp only [hparts]
    rw [Json.required_some, response.ofJson?_toJson]
    rfl
  | httpFailed reason => rfl

lemma ignoresOrder_ofJson? (numbered : Bool) : IgnoresOrder (ofJson? numbered) := by
  intro j hj
  simp only [ofJson?]
  rcases hj.variant?_cases "type" ["delay_elapsed", "http_succeeded", "http_failed"] numbered with
    ⟨h, hs⟩ | ⟨name, hname, record, hrecord, h, hs⟩
  · rw [h, hs]
  · rw [h, hs]
    simp only [List.mem_cons, List.not_mem_nil, or_false] at hname
    rcases hname with rfl | rfl | rfl
    · exact congrArg (Option.map fun _ => delayElapsed) (ignoresOrder_noFields? record hrecord)
    · refine hrecord.read_one _ fun response hresponse => ?_
      rw [required_sortKeys ApiResponse.ignoresOrder_ofJson? hresponse]
    · refine hrecord.read_one _ fun reason hreason => ?_
      rw [required_sortKeys ignoresOrder_string? hreason]

end ExternalResult

/-! ### Events -/

namespace FlowErrorKind

lemma ignoresOrder_ofJson? : IgnoresOrder ofJson? := by
  intro j hj
  rw [ofJson?, ofJson?, ignoresOrder_name? true j hj]

end FlowErrorKind

namespace Event

/-- The delay, if it is one, is finite. -/
def IsFinite : Event → Prop
  | typingDelay seconds => Decimal.isFinite seconds
  | _ => True

lemma plain_toJson (e : Event) : e.toJson.Plain := by
  cases e with
  | botMessage node message =>
    obtain ⟨text, image, link⟩ := message
    cases image <;> cases link <;>
    · refine .object (by simp [Json.entry?]) ?_
      simp [Json.entry?, Json.Plain.string]
  | endOfConversation =>
    exact Json.plain_object (by simp) (.string _)
  | typingDelay seconds =>
    exact Json.plain_object (by simp) ⟨.string _, Json.plain_ofFloat _⟩
  | flowError kind reason =>
    exact Json.plain_object (by simp) ⟨.string _, .string _, .string _⟩

lemma ofJson?_toJson {e : Event} (h : e.IsFinite) : ofJson? e.toJson = some e := by
  cases e with
  | botMessage node message =>
    obtain ⟨text, image, link⟩ := message
    cases image <;> cases link <;> rfl
  | endOfConversation => rfl
  | typingDelay seconds =>
    rw [toJson, Json.ofFloat_of_isFinite h]
    rfl
  | flowError kind reason => cases kind <;> rfl

lemma ignoresOrder_ofJson? : IgnoresOrder ofJson? := by
  intro j hj
  simp only [ofJson?]
  rcases hj.variant?_cases "event" names false with ⟨h, hs⟩ | ⟨name, hname, record, hrecord, h, hs⟩
  · rw [h, hs]
  · rw [h, hs]
    simp only [names, List.mem_cons, List.not_mem_nil, or_false] at hname
    rcases hname with rfl | rfl | rfl | rfl
    · refine hrecord.read_four _ fun node text image link hnode htext himage hlink => ?_
      rw [required_sortKeys ignoresOrder_string? hnode,
        required_sortKeys ignoresOrder_string? htext,
        optional_sortKeys ignoresOrder_string? himage, optional_sortKeys ignoresOrder_string? hlink]
    · exact congrArg (Option.map fun _ => endOfConversation)
        (ignoresOrder_noFields? record hrecord)
    · refine hrecord.read_one _ fun seconds hseconds => ?_
      rw [required_sortKeys ignoresOrder_number? hseconds]
    · refine hrecord.read_two _ fun kind reason hkind hreason => ?_
      rw [required_sortKeys FlowErrorKind.ignoresOrder_ofJson? hkind,
        required_sortKeys ignoresOrder_string? hreason]

end Event

namespace Incoming

lemma plain_toJson (e : Incoming) : e.toJson.Plain := by
  cases e with
  | startFlow flow session =>
    exact Json.plain_object (by simp) ⟨.string _, .string _, Json.plain_ofText? _⟩
  | userMessage session text =>
    exact Json.plain_object (by simp) ⟨.string _, .string _, .string _⟩
  | externalComplete session result =>
    exact Json.plain_object (by simp) ⟨.string _, .string _, result.plain_toJson⟩

lemma ofJson?_toJson (e : Incoming) : ofJson? e.toJson = some e := by
  have hplain := e.plain_toJson
  cases e with
  | startFlow flow session => cases session <;> rfl
  | userMessage session text => rfl
  | externalComplete session result =>
    rw [toJson] at hplain ⊢
    simp only [ofJson?, hplain.variant?_eq names false (by simp [names])]
    show (ExternalResult.ofJson? true result.toJson).bind _ = _
    rw [result.ofJson?_toJson]
    rfl

lemma ignoresOrder_ofJson? : IgnoresOrder ofJson? := by
  intro j hj
  simp only [ofJson?]
  rcases hj.variant?_cases "event" names false with ⟨h, hs⟩ | ⟨name, hname, record, hrecord, h, hs⟩
  · rw [h, hs]
  · rw [h, hs]
    simp only [names, List.mem_cons, List.not_mem_nil, or_false] at hname
    rcases hname with rfl | rfl | rfl
    · refine hrecord.read_two _ fun flow session hflow hsession => ?_
      rw [required_sortKeys ignoresOrder_string? hflow,
        optional_sortKeys ignoresOrder_string? hsession]
    · refine hrecord.read_two _ fun session text hsession htext => ?_
      rw [required_sortKeys ignoresOrder_string? hsession,
        required_sortKeys ignoresOrder_string? htext]
    · refine hrecord.read_two _ fun session result hsession hresult => ?_
      rw [required_sortKeys ignoresOrder_string? hsession,
        required_sortKeys (ExternalResult.ignoresOrder_ofJson? true) hresult]

end Incoming

end Dialogue
