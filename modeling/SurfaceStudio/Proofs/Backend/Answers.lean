import SurfaceStudio.Backend.Engine
import SurfaceStudio.Proofs.Studio.News
import SurfaceStudio.Proofs.Surface.Agreement
import SurfaceStudio.Proofs.Wire.Refusals

/-!
# Bad answers

Of a query comes a reply, or a failure of some kind: there is no URL, nothing is received, the
status is not one of success, or the body is no reply.  A failure enters the transcript with a text
that is always the same, and changes nothing else.  A body counts as a whole or not at all: the text
of a reply whose surface is none is not taken either.

  • `Reply.exists_fault` — a text next to something that is no surface,
  • `Endpoint.Judged`, `Endpoint.judged` — **what comes of a query**,
  • `Studio.State.Settled`, `Studio.State.settled` — **what the studio makes of it**,
  • `settled_everywhere` — **a bad answer changes nothing but the transcript**.
-/

namespace SurfaceStudio

open Json Wire Studio

/-! ## §1. Bodies that are no replies. -/

/-- What is decoded from a text is what the check makes of the value that stands there. -/
theorem Surface.exists_value_of_fromText {budget : Nat} {c c' : Cursor} {s : Surface}
    (h : decoder.fromText budget c = .ok (s, c')) :
    ∃ v, value budget c = .ok (v, c') ∧ ofJson v = .ok s := by
  obtain ⟨ms, hms, hs⟩ := (Record.factors_decoder rfl agrees_fields budget c s c').1 h
  exact ⟨_, value_eq_object_iff.2 ⟨ms, hms, rfl⟩, (ofEntries_eq_ok_iff.1 hs).1⟩

/-- A value that is no surface is refused as one. -/
theorem Surface.refuses {budget : Nat} {w tail : List UInt8} {v : Json}
    (h : Reads (value budget) w tail v) (hv : ∀ s, ofJson v ≠ .ok s) :
    Refuses (decoder.fromText budget) (w ++ tail) := by
  rintro c hc ⟨s, c'⟩ hs
  obtain ⟨v', hv', hs'⟩ := exists_value_of_fromText hs
  rw [h.apply hc] at hv'
  injection hv' with hv'
  injection hv' with hv' _
  exact hv s (hv' ▸ hs')

theorem Json.canonical_ne_null {v : Json} (h : v ≠ .null) : v.canonical ≠ .null := by
  intro hnull
  cases v with
  | null => exact h rfl
  | _ => simp [canonical] at hnull

namespace Reply

/-- What is neither null nor a surface is refused as the surface of a reply. -/
theorem refusesMember_surface {draft : Draft} (hnew : draft.surface = none) {v : Json}
    (hnull : v ≠ .null) (hv : ∀ s, Surface.ofJson v.canonical ≠ .ok s) {budget : Nat}
    (hlegible : v.Legible budget) {layout : Layout} (hl : layout.Plain) (depth : Nat) :
    RefusesMember (record.member budget draft "surface") layout depth v := by
  have hread : ReadBack (value budget) layout depth v := readBack_value hl hlegible
  obtain ⟨b, w, hw, hb⟩ := hread.begins
  refine Record.refusesMember hl rfl hnew fun pad tail hp ht => ?_
  have hreads := hread.reads [] tail blank_nil ht
  rw [hw] at hreads ⊢
  rw [List.append_assoc]
  refine refuses_optional hp hb.1 ?_ (Surface.refuses hreads hv)
  rintro rfl
  exact Json.canonical_ne_null hnull (eq_null_of_reads hreads)

/-- The members of a body with something in the place of the surface: the text stands before it, or
among the others, or there is none. -/
def bodyMembers (text? : Option String) (surface : Json) (others : Members) : Members :=
  (text?.map fun text => ("text", .string text)).toList ++ ("surface", surface) :: others

/-- **A body with something else in the place of the surface is no reply**, whatever the text is. -/
theorem exists_fault {v : Json} (hnull : v ≠ .null) (hv : ∀ s, Surface.ofJson v.canonical ≠ .ok s)
    (hlegible : v.Legible 126) {layout : Layout} (hl : layout.Plain) (text? : Option String)
    (others : Members) :
    ∃ fault, decoder.readText (bytesOf ((Json.object (bodyMembers text? v others)).write layout))
      = .error fault := by
  have htaken : record.TakesAll record.empty
      (text?.map fun text => ("text", Json.string text)).toList ⟨text?, none, none⟩ := by
    cases text? with
    | none => exact .nil _
    | some text => exact .cons (.of rfl rfl (returns_string text)) (.nil _)
  have hfront : ∀ m ∈ (text?.map fun text => ("text", Json.string text)).toList,
      m.2.Legible 126 := by
    intro m hm
    cases text? with
    | none => cases hm
    | some text =>
      rw [List.mem_singleton.1 hm]
      exact bounded_string text
  have hrefused := Record.refuses htaken hl hfront
    (refusesMember_surface rfl hnull hv hlegible hl (0 + 1)) others []
  rw [List.append_nil] at hrefused
  exact exists_fault_of_refuses hrefused

end Reply

/-! ## §2. What comes of a query. -/

theorem Status.isSuccess_iff {status : Status} :
    status.isSuccess = true ↔ 200 ≤ status.code ∧ status.code < 300 := by
  rw [Status.isSuccess, Bool.and_eq_true, decide_eq_true_iff, decide_eq_true_iff]

theorem mapError_eq_ok_iff {α ε ε' : Type} {x : Except ε α} {f : ε → ε'} {a : α} :
    x.mapError f = .ok a ↔ x = .ok a := by
  cases x with
  | ok b =>
    show Except.ok b = Except.ok a ↔ Except.ok b = Except.ok a
    rw [Except.ok.injEq, Except.ok.injEq]
  | error e => exact ⟨nofun, nofun⟩

namespace Endpoint

/-- The request of the query can be made, and sent to its URL. -/
structure CanSend (e : Endpoint) (r : Request) (request : HttpRequest) : Prop where
  made : e.queryRequest r = .ok request
  sendable : request.check = .ok ()

/-- **What comes of a query by the status and the body of the answer.** -/
structure JudgedBy (status : Status) (body : List UInt8) (result : Except QueryError Reply) :
    Prop where
  /-- A reply comes of it if the status is one of success and the whole body is a reply. -/
  ok_iff : ∀ reply, result = .ok reply
    ↔ (200 ≤ status.code ∧ status.code < 300) ∧ Reply.decoder.readText body = .ok reply
  /-- The body does not count under any other status. -/
  otherStatus : ¬ (200 ≤ status.code ∧ status.code < 300) →
    result = .error ⟨.httpStatus status.code, status.text⟩
  undecodable : 200 ≤ status.code ∧ status.code < 300 → ∀ fault,
    Reply.decoder.readText body = .error fault → result = .error ⟨.undecodable, fault.message⟩

/-- **What comes of a query.** -/
structure Judged (e : Endpoint) (r : Request) : Prop where
  /-- The address makes no URL, and nothing is sent. -/
  invalidUrl : ∀ error, e.queryRequest r = .error error →
    error.kind = .invalidUrl ∧ ∀ answer, (e.ask r answer).value = .error error
  /-- Nothing can be sent to the URL. -/
  unsendable : ∀ request error, e.queryRequest r = .ok request → request.check = .error error →
    error.kind = .network ∧ ∀ answer, (e.ask r answer).value = .error error
  unreachable : ∀ request, e.CanSend r request →
    ∃ message, (e.ask r .unreachable).value = .error ⟨.network, message⟩
  timedOut : ∀ request, e.CanSend r request →
    ∃ message, (e.ask r .timedOut).value = .error ⟨.timeout, message⟩
  /-- The body ended too early, which matters only where it counts. -/
  cutShort : ∀ request, e.CanSend r request → ∀ status : Status,
    ∃ message, (e.ask r (.cutShort status)).value = .error
      ⟨if 200 ≤ status.code ∧ status.code < 300 then .undecodable else .httpStatus status.code,
        message⟩
  complete : ∀ request, e.CanSend r request → ∀ status body,
    JudgedBy status body (e.ask r (.complete status body)).value

theorem value_ask_eq (e : Endpoint) (r : Request) (answer : HttpAnswer) : (e.ask r answer).value
    = (e.queryRequest r >>= fun request => request.outcome Reply.decoder answer) := by
  unfold ask
  cases e.queryRequest r with
  | error error => rfl
  | ok request => rfl

theorem value_ask {e : Endpoint} {r : Request} {request : HttpRequest} (h : e.CanSend r request)
    (answer : HttpAnswer) : (e.ask r answer).value = request.decode Reply.decoder answer := by
  rw [value_ask_eq, h.made]
  show request.outcome Reply.decoder answer = _
  rw [HttpRequest.outcome, h.sendable]
  rfl

/-- A URL fails for one reason only. -/
theorem kind_of_url {e : Endpoint} {path : String} {error : QueryError}
    (h : e.url path = .error error) : error.kind = .invalidUrl := by
  rw [url] at h
  generalize Url.parse (e.address path) = parsed at h
  cases parsed with
  | ok found => cases h
  | error fault => exact Except.error.inj h ▸ rfl

theorem kind_of_queryRequest {e : Endpoint} {r : Request} {error : QueryError}
    (h : e.queryRequest r = .error error) : error.kind = .invalidUrl := by
  cases hurl : e.url "agent/query" with
  | ok url =>
    rw [queryRequest, hurl] at h
    cases h
  | error fault =>
    rw [queryRequest, hurl] at h
    exact Except.error.inj h ▸ kind_of_url hurl

theorem kind_of_check {request : HttpRequest} {error : QueryError}
    (h : request.check = .error error) : error.kind = .network := by
  rw [HttpRequest.check] at h
  split at h
  · cases h
  · exact Except.error.inj h ▸ rfl

theorem judgedBy_decode (request : HttpRequest) (status : Status) (body : List UInt8) :
    JudgedBy status body (request.decode Reply.decoder (.complete status body)) := by
  by_cases hsuccess : status.isSuccess = true
  · have hdecode : request.decode Reply.decoder (.complete status body)
        = (Reply.decoder.readText body).mapError fun fault => ⟨.undecodable, fault.message⟩ := by
      rw [HttpRequest.decode, HttpRequest.successBody, if_pos hsuccess]
      rfl
    have hcode := Status.isSuccess_iff.1 hsuccess
    rw [hdecode]
    exact {
      ok_iff := by
        intro reply
        rw [and_iff_right hcode, mapError_eq_ok_iff]
      otherStatus := fun h => absurd hcode h
      undecodable := by
        intro _ fault hfault
        rw [hfault]
        rfl }
  · have hdecode : request.decode Reply.decoder (.complete status body)
        = .error ⟨.httpStatus status.code, status.text⟩ := by
      rw [HttpRequest.decode, HttpRequest.successBody, if_neg hsuccess]
      rfl
    have hcode := mt Status.isSuccess_iff.2 hsuccess
    rw [hdecode]
    exact {
      ok_iff := fun reply => ⟨nofun, fun h => absurd h.1 hcode⟩
      otherStatus := fun _ => rfl
      undecodable := fun h => absurd h hcode }

theorem decode_cutShort (request : HttpRequest) (status : Status) :
    ∃ message, request.decode Reply.decoder (.cutShort status) = .error
      ⟨if 200 ≤ status.code ∧ status.code < 300 then .undecodable else .httpStatus status.code,
        message⟩ := by
  rw [HttpRequest.decode, HttpRequest.successBody]
  by_cases hsuccess : status.isSuccess = true
  · rw [if_pos hsuccess, if_pos (Status.isSuccess_iff.1 hsuccess)]
    exact ⟨_, rfl⟩
  · rw [if_neg hsuccess, if_neg (mt Status.isSuccess_iff.2 hsuccess)]
    exact ⟨_, rfl⟩

theorem judged (e : Endpoint) (r : Request) : e.Judged r where
  invalidUrl := by
    intro error herror
    refine ⟨kind_of_queryRequest herror, fun answer => ?_⟩
    rw [value_ask_eq, herror]
    rfl
  unsendable := by
    intro request error hmade hcheck
    refine ⟨kind_of_check hcheck, fun answer => ?_⟩
    rw [value_ask_eq, hmade]
    show request.outcome Reply.decoder answer = _
    rw [HttpRequest.outcome, hcheck]
    rfl
  unreachable := fun request h => ⟨_, value_ask h .unreachable⟩
  timedOut := fun request h => ⟨_, value_ask h .timedOut⟩
  cutShort := fun request h status => by
    obtain ⟨message, hmessage⟩ := decode_cutShort request status
    exact ⟨message, (value_ask h _).trans hmessage⟩
  complete := by
    intro request h status body
    rw [value_ask h]
    exact judgedBy_decode request status body

end Endpoint

/-! ## §3. What the studio makes of it. -/

namespace Studio.State

/-- **What the studio makes of what came of a query.** -/
structure Settled (s : State) (id : RequestId) (result : Except QueryError Reply) : Prop where
  /-- Of a reply one entry of the agent is appended, with all that the reply says. -/
  reply : ∀ reply, result = .ok reply →
    (s.step (receiveEvent id result)).state.transcript
      = s.transcript ++ [⟨.agent, reply.text, reply.surface, reply.source⟩]
  /-- Of a failure one entry is appended that is always the same, and the request is no longer under
  way.  The rest of the state is as it was: the editor and the preview, the mode, the chat input,
  the turn of the templates and the next id. -/
  failure : ∀ error, result = .error error →
    (s.step (receiveEvent id result)).state = { s with
      transcript := s.transcript ++ [⟨.agent, connectivityText, none, none⟩]
      inFlight := s.inFlight.erase id
      dirty := true }
  /-- As a request is under way once, it is no longer. -/
  ended : s.inFlight.Nodup → id ∉ (s.step (receiveEvent id result)).state.inFlight
  /-- All the others are as they were. -/
  others : ∀ other, other ≠ id →
    (other ∈ (s.step (receiveEvent id result)).state.inFlight ↔ other ∈ s.inFlight)
  /-- Nothing is sent. -/
  outgoing : (s.step (receiveEvent id result)).outgoing = []

theorem settled {s : State} {id : RequestId} (hid : id ∈ s.inFlight)
    (result : Except QueryError Reply) : s.Settled id result := by
  have hside := conversationSide_receive_of_mem hid (result.mapError QueryError.text)
  have hinFlight : (s.step (receiveEvent id result)).state.inFlight = s.inFlight.erase id :=
    congrArg ConversationSide.inFlight hside
  exact {
    reply := by
      rintro reply rfl
      exact congrArg ConversationSide.transcript hside
    failure := by
      rintro error rfl
      have hcontains : s.inFlight.contains id = true := by simpa using hid
      show (s.receive id _).value = _
      rw [receive, if_pos hcontains]
      rfl
    ended := fun hnodup => not_mem_inFlight_receive hnodup id _
    others := by
      intro other hother
      rw [hinFlight]
      exact List.mem_erase_of_ne hother
    outgoing := rfl }

end Studio.State

/-! ## §4. Bad answers. -/

/-- **A bad answer changes nothing but the transcript.**  Whatever comes of a query is judged by its
status and its body, and the studio takes a reply as it is and every failure alike.  It is a failure
too if the body has a text and something that is no surface in the place of the surface. -/
theorem settled_everywhere (e : Endpoint) (r : Request) {s : State} {id : RequestId}
    (hid : id ∈ s.inFlight) :
    e.Judged r
      ∧ (∀ answer,
        ((Engine.ofBackend (.live e)).perform answer (.query ⟨id, r⟩)).value
          = .answered id (e.ask r answer).value
        ∧ s.Settled id (e.ask r answer).value)
      ∧ ∀ request, e.CanSend r request → ∀ status : Status,
        200 ≤ status.code ∧ status.code < 300 → ∀ v : Json, v ≠ .null →
          (∀ surface, Surface.ofJson v.canonical ≠ .ok surface) → v.Legible 126 →
            ∀ layout : Layout, layout.Plain → ∀ text? others, ∃ message,
              (e.ask r (.complete status (bytesOf ((Json.object
                (Reply.bodyMembers text? v others)).write layout)))).value
                = .error ⟨.undecodable, message⟩ := by
  refine ⟨e.judged r, fun answer => ⟨rfl, State.settled hid _⟩, ?_⟩
  intro request hrequest status hstatus v hnull hv hlegible layout hl text? others
  obtain ⟨fault, hfault⟩ := Reply.exists_fault hnull hv hlegible hl text? others
  have hjudged := (e.judged r).complete request hrequest status
  exact ⟨fault.message, (hjudged _).undecodable hstatus fault hfault⟩

/-- A backend on this machine. -/
def localEndpoint : Endpoint := ⟨"http://[::1]:8000", 5000, 30000⟩

/-- A surface without a content. -/
def idAlone : Json := .object [("surfaceId", .string "s")]

/-- Two requests are under way. -/
def twoUnderWay : State := { State.initial 5 with inFlight := [1, 2], nextId := 3 }

/-- The URL that queries are sent to. -/
def localUrl : Url :=
  ⟨"http", some ⟨"", "[::1]", some 8000⟩, .segments ["agent", "query"], none, none⟩

theorem url_localEndpoint : localEndpoint.url "agent/query" = .ok localUrl := rfl

theorem canSend_localEndpoint (r : Request) :
    localEndpoint.CanSend r ⟨.post, localUrl, some r.toJson⟩ where
  made := by
    rw [Endpoint.queryRequest, url_localEndpoint]
    rfl
  sendable := rfl

/-- The first of the two is answered with a text and with a surface that has no content. -/
theorem settled_everywhere_idAlone :
    let body := (Json.object (Reply.bodyMembers (some "hello") idAlone [])).compact
    let result := (localEndpoint.ask ⟨"hi", []⟩ (.complete ⟨200⟩ (bytesOf body))).value
    (∃ message, result = .error ⟨.undecodable, message⟩)
      ∧ (twoUnderWay.step (receiveEvent 1 result)).state = { twoUnderWay with
        transcript := [⟨.agent, connectivityText, none, none⟩]
        inFlight := [2]
        dirty := true } := by
  intro body result
  have hlegible : idAlone.Legible 126 := bounded_object_iff.2 fun m hm => by
    rw [List.mem_singleton.1 hm]
    exact bounded_string "s"
  obtain ⟨-, hsettled, hpartial⟩ :=
    settled_everywhere (s := twoUnderWay) localEndpoint ⟨"hi", []⟩ List.mem_cons_self
  obtain ⟨message, hmessage⟩ :=
    hpartial _ (canSend_localEndpoint _) ⟨200⟩ (by decide) idAlone nofun nofun hlegible
      .compact Layout.plain_compact (some "hello") []
  exact ⟨⟨message, hmessage⟩, (hsettled _).2.failure _ hmessage⟩

end SurfaceStudio
