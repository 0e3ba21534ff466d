import Remediation.ControlPlane.Remote
import Remediation.ControlPlane.Paging

/-! Pages of a gateway: how the request for a page, the answer to it and the page that is read from
the answer follow from each other.
-/

namespace Remediation

variable {σ : Type}

/-- The value of a text that holds no infinite number, its members in the order of their keys. -/
theorem Json.read_of_readMembers {text : String} {written : Json}
    (read : readMembers text = some written) (finite : written.isFinite = true)
    : Json.read text = some written.canonical := by
  rw [Json.read, read, Option.filter_some, if_pos finite]
  rfl

/-- A step after another one starts from where that one leads. -/
theorem run_bind_of {τ α β : Type} {step : StateM τ α} {next : α → StateM τ β} {state after : τ}
    {answer : α} (stepped : step.run state = (answer, after))
    : (step >>= next).run state = (next answer).run after := by
  rw [StateT.run_bind, stepped]
  rfl

/-- A request that can be sent brings back what its network answers. -/
theorem Http.run_send_of_answered {transport : Http.Transport σ} {request : Http.Request}
    {answer : Http.Response} {network after : σ} (reached : request.url.hasHost = true)
    (proof : request.token.all isHeaderValue = true)
    (addressable : isAddressable request.url = true)
    (answered : (transport request).run network = (.ok answer, after))
    : (send transport request).run network = (.ok answer, after) := by
  simp only [send, reached, proof, addressable, Bool.not_true, Bool.false_eq_true, if_false]
  rw [run_bind_of answered]
  rfl

namespace Gateway

variable {gateway : Gateway} {transport : Http.Transport σ} {resource : ResourceType}
  {cursor : Option String} {session after : Session σ} {response : Json}

theorem cancelled_readResponse (site : CallSite) (response : Http.Response) (session : Session σ)
    : ((readResponse site response).run session).2.cancelled = session.cancelled := by
  unfold readResponse
  split
  · rfl
  · split
    · rfl
    · cases Json.read response.body with
      | none => rfl
      | some json => rfl

/-- The request that is sent on behalf of the credentials. -/
def authorized (gateway : Gateway) (method : String) (url : Url) (body : Option Json)
    : Http.Request :=
  {
    method := method,
    url := url,
    token :=
      if gateway.credentials.token.isEmpty then none else some gateway.credentials.token,
    body := body
  }

/-- What is made of the answer to a request, or of the failure to get one. -/
def settle (site : CallSite)
    : Except Http.SendError Http.Response → StateM (Session σ) (Except RemoteError Json)
  | .ok response => readResponse site response
  | .error error => pure (.error (site.error .transport error.message))

theorem request_eq (gateway : Gateway) (transport : Http.Transport σ) (site : CallSite)
    (method : String) (url : Url) (body : Option Json)
    : gateway.request transport site method url body
      = exchange transport (gateway.authorized method url body) >>= settle site :=
  rfl

theorem cancelled_request (gateway : Gateway) (transport : Http.Transport σ) (site : CallSite)
    (method : String) (url : Url) (body : Option Json) (session : Session σ)
    : ((gateway.request transport site method url body).run session).2.cancelled
      = session.cancelled := by
  let sent := exchange transport (gateway.authorized method url body)
  have kept : (sent.run session).2.cancelled = session.cancelled := rfl
  rw [request_eq]
  change ((settle site (sent.run session).1).run (sent.run session).2).2.cancelled = _
  cases (sent.run session).1 with
  | ok response => exact (cancelled_readResponse site response _).trans kept
  | error error => exact kept

/-- Asking for a page does not cancel a run. -/
theorem cancelled_askForPage {answer : Except RemoteError Json}
    (asked : (gateway.askForPage transport resource cursor).run session = (answer, after))
    : after.cancelled = session.cancelled := by
  unfold askForPage at asked
  cases found : gateway.listUrl resource cursor with
  | error error =>
      rw [found] at asked
      cases asked
      rfl
  | ok url =>
      have kept :=
        cancelled_request gateway transport ⟨resource.service, "list"⟩ "GET" url none session
      simp only [found] at asked
      rw [asked] at kept
      exact kept

theorem cancelled_call (gateway : Gateway) (transport : Http.Transport σ) (resource : ResourceType)
    (operation : String) (id : Option String) (body : Json) (session : Session σ)
    : ((gateway.call transport resource operation id body).run session).2.cancelled
      = session.cancelled := by
  unfold call
  cases resource.operation? operation with
  | none => rfl
  | some route =>
      dsimp only
      cases Http.method? route.method with
      | none => rfl
      | some method =>
          dsimp only
          cases Url.parse (gateway.operationUrl resource route id) with
          | error error => rfl
          | ok url => exact cancelled_request gateway transport _ method url (some body) session

/-- A change is made with the call of its operation. -/
theorem perform_eq (gateway : Gateway) (transport : Http.Transport σ) (mutation : Mutation)
    : (gateway.plane transport).perform mutation
      = gateway.call transport mutation.resource mutation.operation (pathId? mutation)
        (bodyOf mutation) :=
  rfl

/-- A call for a change does not cancel a run either. -/
theorem cancelled_perform {mutation : Mutation} {answer : Except RemoteError Json}
    (performed : ((gateway.plane transport).perform mutation).run session = (answer, after))
    : after.cancelled = session.cancelled := by
  have kept :=
    cancelled_call gateway transport mutation.resource mutation.operation (pathId? mutation)
      (bodyOf mutation) session
  rw [← perform_eq, performed] at kept
  exact kept

/-- A service that answers with the text of a value has said that value. -/
theorem readResponse_of_read (site : CallSite) {answer : Http.Response} {json : Json}
    (success : Http.isSuccess answer.status = true)
    (nonempty : (trimmed answer.body).isEmpty = false)
    (read : Json.read answer.body = some json)
    : readResponse site answer
      = (pure (.ok json) : StateM (Session σ) (Except RemoteError Json)) := by
  simp only [readResponse, success, nonempty, read, Bool.not_true, Bool.false_eq_true, if_false]

/-- The request for a page goes to the URL of the list, and what a service says to it comes back. -/
theorem run_askForPage {url : Url} {answer : Http.Response} {network : σ} {json : Json}
    (found : gateway.listUrl resource cursor = .ok url)
    (sent
      : (Http.send transport (gateway.authorized "GET" url none)).run session.network
        = (.ok answer, network))
    (success : Http.isSuccess answer.status = true)
    (nonempty : (trimmed answer.body).isEmpty = false)
    (read : Json.read answer.body = some json)
    : (gateway.askForPage transport resource cursor).run session
      = (.ok json, { session with network }) := by
  let site : CallSite := ⟨resource.service, "list"⟩
  let request := gateway.authorized "GET" url none
  have exchanged
      : (exchange transport request).run session = (.ok answer, { session with network }) := by
    change (((Http.send transport request).run session.network).1,
      { session with network := ((Http.send transport request).run session.network).2 }) = _
    rw [sent]
  unfold askForPage
  rw [found]
  change (gateway.request transport site "GET" url none).run session = _
  rw [request_eq, run_bind_of exchanged]
  change (readResponse site answer).run { session with network } = _
  rw [readResponse_of_read site success nonempty read]
  rfl

/-- A page is asked for with one request, and read from the answer to it. -/
theorem listPage_eq (gateway : Gateway) (transport : Http.Transport σ) (resource : ResourceType)
    (cursor : Option String)
    : (gateway.plane transport).listPage resource cursor
      = (do
          let answer ← gateway.askForPage transport resource cursor
          pure (answer.bind (readPage resource cursor))) :=
  rfl

/-- What comes of asking for a page follows from what the service said. -/
theorem exists_askForPage {answer : Except RemoteError Page}
    (listed : ((gateway.plane transport).listPage resource cursor).run session = (answer, after))
    : ∃ said,
        (gateway.askForPage transport resource cursor).run session = (said, after)
        ∧ said.bind (readPage resource cursor) = answer := by
  cases asked : (gateway.askForPage transport resource cursor).run session with
  | mk said middle =>
      rw [listPage_eq, run_bind_of asked] at listed
      obtain ⟨read, rfl⟩ : said.bind (readPage resource cursor) = answer ∧ middle = after :=
        Prod.mk.inj listed
      exact ⟨said, rfl, read⟩

/-- Having a page does not cancel a run. -/
theorem cancelled_listPage {answer : Except RemoteError Page}
    (listed : ((gateway.plane transport).listPage resource cursor).run session = (answer, after))
    : after.cancelled = session.cancelled := by
  obtain ⟨_, asked, _⟩ := exists_askForPage listed
  exact cancelled_askForPage asked

/-- A page that is had is read from what the service said to the request for it. -/
theorem of_run_listPage {page : Page}
    (listed
      : ((gateway.plane transport).listPage resource cursor).run session = (.ok page, after))
    : ∃ response,
        (gateway.askForPage transport resource cursor).run session = (.ok response, after)
        ∧ readPage resource cursor response = .ok page := by
  obtain ⟨said, asked, read⟩ := exists_askForPage listed
  cases said with
  | error source => cases read
  | ok response => exact ⟨response, asked, read⟩

/-- The page of an answer has the records in it and the cursor that follows from them. -/
theorem run_listPage
    (asked : (gateway.askForPage transport resource cursor).run session = (.ok response, after))
    {items : List Json} (found : Page.itemsAt response resource.responsePath = .ok items)
    {next : Option String} (onward : Page.cursorAfter resource response items cursor = .ok next)
    : ((gateway.plane transport).listPage resource cursor).run session
      = (.ok ⟨items, next⟩, after) := by
  have page : Page.ofResponse resource response cursor = .ok ⟨items, next⟩ := by
    unfold Page.ofResponse
    rw [found]
    change (Page.cursorAfter resource response items cursor
      >>= fun next => (.ok ⟨items, next⟩ : Except PageError Page)) = _
    rw [onward]
    rfl
  have read : readPage resource cursor response = .ok ⟨items, next⟩ := by
    rw [readPage, page]
    rfl
  rw [listPage_eq, run_bind_of asked]
  change (readPage resource cursor response, after) = _
  rw [read]

end Gateway

-----------------------------------------------------------------------------------------
-- A service with alarms
-----------------------------------------------------------------------------------------

namespace Sample

/-- The gateway of a project, to one service only and without a token. -/
def gateway : Gateway :=
  {
    credentials := ⟨""⟩,
    project := "home",
    region := "north",
    defaultEndpoint := some "http://ces"
  }

/-- The URL of the alarms behind the gateway. -/
def alarmsUrl (query : String) : Url :=
  {
    scheme := "http",
    username := "",
    password := "",
    host := some (.name "ces"),
    port := none,
    path := .segments ["v2", "home", "alarms"],
    query := some query,
    fragment := none
  }

/-- A network that answers the query of a request. -/
def answering (body : Option String → String) : Http.Transport Unit :=
  fun request => pure (.ok ⟨200, body request.url.query⟩)

/-- The network answers a request for a page with a value that is written with its members in
order. -/
theorem run_askForPage {body : Option String → String} {resource : ResourceType}
    {cursor : Option String} {written : Json} (query : String)
    (found : gateway.listUrl resource cursor = .ok (alarmsUrl query))
    (addressable : Http.isAddressable (alarmsUrl query) = true)
    (nonempty : (trimmed (body (some query))).isEmpty = false)
    (read : Json.readMembers (body (some query)) = some written) (finite : written.isFinite = true)
    (ordered : written.canonical = written) (session : Session Unit)
    : (gateway.askForPage (answering body) resource cursor).run session
      = (.ok written, session) := by
  have asked : (gateway.askForPage (answering body) resource cursor).run session
      = (.ok written.canonical, session) :=
    Gateway.run_askForPage found (Http.run_send_of_answered rfl rfl addressable rfl) rfl nonempty
      (Json.read_of_readMembers read finite)
  rw [asked, ordered]

end Sample

end Remediation
