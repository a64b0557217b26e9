import LoadBalance.Equiv.Confinement
import LoadBalance.Equiv.NoAborts

/-!
# One response to each request over HTTP

What `GET` and `HEAD` ask for is answered once, on all ways to the label `finish`: with one head
alone, or with the head of a file that was opened, the file when the method is `GET`, and the close
of its descriptor (`Answer`).  A request with another method goes to the label without a response,
and with a keep-alive its connection then waits for one (`no_response_to_post`).  So each input is
responded to once exactly when it is none of these, and the search for its source comes to an end
(`one_response_iff`).
-/

namespace LoadBalance

open LoadBalance.Action

/-! ### Responses over HTTP -/

/-- The status of a head; a file has none. -/
def HttpResponse.status : HttpResponse → Option HttpStatus
  | .error status _ _ => some status
  | .redirect .. => some .permanentRedirect
  | .headers .. => some .ok
  | .file .. => none

/-- Something is written to a connection over HTTP. -/
def Output.isHttpResponse : Output → Bool
  | .response .. => true
  | _ => false

/-- A file is opened, or its descriptor closed. -/
def Output.isDescriptor : Output → Bool
  | .opened .. => true
  | .closed .. => true
  | _ => false

/-- Either of the two. -/
def Output.isHttp (o : Output) : Bool := o.isHttpResponse || o.isDescriptor

/-- The method of what is read, when it is a request. -/
def HttpInput.method : HttpInput → Option HttpMethod
  | .request req => some req.method
  | _ => none

/-- What is read is a request that asks for its connection to be kept. -/
def HttpInput.keepAlive : HttpInput → Bool
  | .request req => req.keepAlive
  | _ => false

/-- What follows a head: the file when the status is 200 and the method is `GET`, and otherwise
nothing. -/
def IsBodyOf (client : ClientId) (method : Option HttpMethod) (status : HttpStatus)
    (body : List Output) : Prop :=
  if status = .ok ∧ method = some .get then
    ∃ path size, body = [.response client (.file path size)]
  else body = []

theorem isBodyOf_nil {client : ClientId} {method : Option HttpMethod} {status : HttpStatus}
    (h : ¬(status = .ok ∧ method = some .get)) : IsBodyOf client method status [] := by
  unfold IsBodyOf
  rw [if_neg h]

theorem isBodyOf_file {client : ClientId} {method : Option HttpMethod} {path : String} {size : ℕ}
    (h : method = some .get) :
    IsBodyOf client method .ok [.response client (.file path size)] := by
  unfold IsBodyOf
  rw [if_pos ⟨rfl, h⟩]
  exact ⟨path, size, rfl⟩

/-- What is asked of the processing of an input. -/
structure OneResponse (client : ClientId) (input : HttpInput) (s s' : State) : Prop where
  /-- One head is written, and the body that belongs to it. -/
  response : ∃ head status body, head.status = some status ∧
    IsBodyOf client input.method status body ∧
      Emits Output.isHttpResponse (.response client head :: body) s s'
  /-- A file that is opened is closed. -/
  descriptor : Emits Output.isDescriptor [] s s' ∨
    ∃ path, Emits Output.isDescriptor [.opened client path, .closed client path] s s'
  /-- The connection stays a connection over HTTP when that was asked for, and is closed
  otherwise. -/
  connection : if input.keepAlive then ∃ c, s'.clients client = some c ∧ c.kind = .http
    else s'.clients client = none

/-! ### Answers -/

/-- What shows of a request that is answered, by its method. -/
inductive Answer (client : ClientId) (method : HttpMethod) : List Output → Prop
  /-- A head without a file. -/
  | head {head : HttpResponse} {status : HttpStatus} (hstatus : head.status = some status)
    (hok : status ≠ .ok) : Answer client method [.response client head]
  /-- The head of a file. -/
  | headers {path mime : String} {size mtime : ℕ} {keepAlive : Bool} (hmethod : method ≠ .get) :
    Answer client method [.opened client path,
      .response client (.headers mime size mtime keepAlive), .closed client path]
  /-- A file. -/
  | file {path mime : String} {size mtime : ℕ} {keepAlive : Bool} (hmethod : method = .get) :
    Answer client method [.opened client path,
      .response client (.headers mime size mtime keepAlive),
      .response client (.file path size), .closed client path]

/-- There is an answer between the two states. -/
def Answers (client : ClientId) (method : HttpMethod) (s s' : State) : Prop :=
  ∃ os, Answer client method os ∧ Emits Output.isHttp os s s'

/-- A call answers and succeeds. -/
def Answered (client : ClientId) (method : HttpMethod) (s : State)
    (r : Outcome Error Unit × State) : Prop :=
  r.1 = .ok () ∧ Answers client method s r.2

/-- A call answers, or ends the process before anything has shown. -/
def AnsweredOrAborts (client : ClientId) (method : HttpMethod) (s : State)
    (r : Outcome Error Unit × State) : Prop :=
  Answered client method s r ∨ (r.1 = .abort ∧ Emits Output.isHttp [] s r.2)

section

variable {client : ClientId} {method : HttpMethod} {s s' s'' : State} {os os' : List Output}
  {sur : HttpSurroundings} {request : HttpRequest} {sid : StreamId} {α β : Type}

theorem Answers.silent_trans (h : Emits Output.isHttp [] s s') (h' : Answers client method s' s'') :
    Answers client method s s'' := by
  obtain ⟨os, hos, hemits⟩ := h'
  exact ⟨os, hos, h.trans hemits⟩

theorem Answers.trans_silent (h : Answers client method s s') (h' : Emits Output.isHttp [] s' s'') :
    Answers client method s s'' := by
  obtain ⟨os, hos, hemits⟩ := h
  exact ⟨os, hos, by simpa using hemits.trans h'⟩

theorem AnsweredOrAborts.silent_trans {r : Outcome Error Unit × State}
    (h : Emits Output.isHttp [] s s') (h' : AnsweredOrAborts client method s' r) :
    AnsweredOrAborts client method s r := by
  rcases h' with ⟨hok, hanswers⟩ | ⟨haborts, hsilent⟩
  · exact Or.inl ⟨hok, hanswers.silent_trans h⟩
  · exact Or.inr ⟨haborts, h.trans hsilent⟩

/-- A notice is nothing over HTTP. -/
theorem isHttp_of_notice {o : Output} (h : Notice o) : o.isHttp = false := by
  cases o with
  | broadcast => rfl
  | _ => exact h.elim

/-! Writing to a connection. -/

theorem emits_send {p : Output → Bool} {o : Output} (ho : p o = true) :
    Emits p [o] s ((send o).run s).2 :=
  ⟨[o], rfl, by rw [List.filter_cons_of_pos ho, List.filter_nil]⟩

/-- The file is sent for `GET` alone. -/
theorem run_sendFileByFd (hbody : sur.sendsBody = true) (hopen : s.clients client ≠ none)
    (request : HttpRequest) (path : String) (size : ℕ) (sid : StreamId) :
    ∃ s', (sendFileByFd sur client request path size sid).run s = (.ok (), s') ∧
      Emits Output.isHttp
        (if request.method = .get then [.response client (.file path size)] else []) s s' := by
  obtain ⟨c, hc⟩ := Option.ne_none_iff_exists'.mp hopen
  unfold sendFileByFd
  by_cases hmethod : request.method = .get
  · rw [if_pos ⟨hmethod, hbody⟩, if_pos hmethod]
    let s₁ : State := { s with sent := s.sent ++ [.response client (.file path size)] }
    refine ⟨_, (run_bind_of_ok rfl).trans (run_assign (s := s₁) hc _), [_], rfl, rfl⟩
  · rw [if_neg (fun h => hmethod h.1), if_neg hmethod]
    exact ⟨s, rfl, refl_of (Emits Output.isHttp []) s⟩

variable (hsends : sur.sends client = true)

include hsends

theorem run_result_write (o : Output) :
    (result (write sur.toSurroundings client o)).run s =
      (.ok (.ok ()), { s with sent := s.sent ++ [o] }) := by
  unfold write
  rw [if_pos hsends]
  rfl

theorem run_sendError {keepAlive : Bool} {status : HttpStatus} {err : Error} :
    (sendError sur client keepAlive status err).run s =
      (.ok (), { s with sent := s.sent ++ [.response client (.error status err keepAlive)] }) := by
  unfold sendError write
  rw [if_pos hsends]
  rfl

/-- An error is an answer. -/
theorem answered_sendError {keepAlive : Bool} {status : HttpStatus} {err : Error}
    (hok : status ≠ .ok) :
    Answered client method s ((sendError sur client keepAlive status err).run s) := by
  rw [run_sendError hsends]
  exact ⟨rfl, _, .head rfl hok, [.response client (.error status err keepAlive)], rfl, rfl⟩

/-- So is a redirect. -/
theorem answered_sendRedirect {keepAlive : Bool} {url : Gurl} (hopen : s.clients client ≠ none) :
    Answered client method s ((sendRedirect sur client keepAlive url sid).run s) := by
  obtain ⟨c, hc⟩ := Option.ne_none_iff_exists'.mp hopen
  let s₁ : State := { s with sent := s.sent ++ [.response client (.redirect url.spec keepAlive)] }
  unfold sendRedirect
  rw [run_bind_of_ok (run_result_write hsends _)]
  dsimp only
  rw [run_assign (s := s₁) hc]
  have hok : HttpStatus.permanentRedirect ≠ .ok := nofun
  exact ⟨rfl, _, .head rfl hok, [.response client (.redirect url.spec keepAlive)], rfl, rfl⟩

/-- The head of a file, the file for `GET`, and the close of the descriptor. -/
theorem run_sendOpenFile (hbody : sur.sendsBody = true) (hopen : s.clients client ≠ none)
    (request : HttpRequest) (path : String) (size mtime : ℕ) (mime : String) (sid : StreamId) :
    ∃ s', (sendOpenFile sur client request path size mtime mime sid).run s = (.ok (), s') ∧
      Emits Output.isHttp ([.response client (.headers mime size mtime request.keepAlive)] ++
        (if request.method = .get then [.response client (.file path size)] else []) ++
          [.closed client path]) s s' := by
  let s₁ : State := { s with
    sent := s.sent ++ [.response client (.headers mime size mtime request.keepAlive)] }
  obtain ⟨s₂, hrun, hemits⟩ := run_sendFileByFd (s := s₁) hbody hopen request path size sid
  unfold sendOpenFile
  rw [run_bind_of_ok (run_result_write hsends _)]
  dsimp only
  rw [run_bind_of_ok hrun]
  exact ⟨_, rfl, ((emits_send rfl).trans hemits).trans (emits_send rfl)⟩

/-- The source of a channel is an answer whatever it is. -/
theorem answered_sendSource [Fastotv] (hbody : sur.sendsBody = true) {source : HttpSource}
    {name : String} (hopen : s.clients client ≠ none) :
    Answered client request.method s
      ((sendSource sur client request source name sid).run s) := by
  unfold sendSource
  split
  · exact answered_sendRedirect hsends hopen
  split_ifs
  swap
  · exact answered_sendRedirect hsends hopen
  unfold sendFile
  split
  · exact answered_sendError hsends nofun
  rename_i path _
  split
  · exact answered_sendError hsends nofun
  · exact answered_sendError hsends nofun
  · exact answered_sendError hsends nofun
  rename_i size mtime _
  -- The file was opened.
  let s₁ : State := { s with sent := s.sent ++ [.opened client (cstr path)] }
  obtain ⟨s', hrun, hemits⟩ := run_sendOpenFile (s := s₁) hsends hbody hopen request (cstr path)
    size mtime (Fastotv.mimeType request.fileName) sid
  have hall := (emits_send (s := s) rfl).trans hemits
  have hopened : (send (.opened client (cstr path))).run s = (.ok (), s₁) := rfl
  rw [run_bind_of_ok hopened, hrun]
  by_cases hmethod : request.method = .get
  · rw [if_pos hmethod] at hall
    exact ⟨rfl, _, .file hmethod, hall⟩
  · rw [if_neg hmethod] at hall
    exact ⟨rfl, _, .headers hmethod, hall⟩

variable [Fastotv] (hbody : sur.sendsBody = true) {auth : ServerDBAuthInfo} {uid : UserId}
  {password channel name : String} {dev : DeviceId}

include hbody

/-- Only the search for the source can end the process. -/
theorem answeredOrAborts_serveStream (hopen : s.clients client ≠ none) :
    AnsweredOrAborts client request.method s
      ((serveStream sur client request auth sid channel name).run s) := by
  have herror : ∀ err, AnsweredOrAborts client request.method s
      ((sendError sur client request.keepAlive .notFound err).run s) :=
    fun _ => Or.inl (answered_sendError hsends nofun)
  unfold serveStream
  cases Fastotv.channelId channel with
  | none => exact herror _
  | some cid =>
    dsimp only
    rw [run_bind, run_result, run_reads]
    cases clientFindHttpDirectoryOrUrlForChannel sur.toEnv s.db auth.toAuthInfo sid cid with
    | ok source =>
      exact Or.inl (answered_sendSource hsends hbody hopen)
    | error err => exact herror err
    | abort => exact Or.inr ⟨rfl, refl_of (Emits Output.isHttp []) s⟩

omit hsends hbody in
theorem keepsOpen_loginOfRequest :
    Within (KeepsOpen client) (loginOfRequest sur client uid password dev) := by
  intro s hopen
  rcases hrun : (loginOfRequest sur client uid password dev).run s with ⟨o, s₁⟩
  rcases loginOfRequest_cases hrun with
    ⟨hquiet, -⟩ | ⟨auth, s₀, c, -, -, -, -, -, -, rfl⟩
  · rw [ne_eq, hquiet.registry.isOpen]
    exact hopen
  · show Function.update s₀.clients client (some { c with login := some auth }) client ≠ none
    rw [Function.update_self]
    exact nofun

/-- Nothing shows of the login. -/
theorem answeredOrAborts_servePath (hopen : s.clients client ≠ none) (tokens : List String) :
    AnsweredOrAborts client request.method s ((servePath sur client request tokens).run s) := by
  have herror : ∀ {s₁ err}, AnsweredOrAborts client request.method s₁
      ((sendError sur client request.keepAlive .notFound err).run s₁) :=
    Or.inl (answered_sendError hsends nofun)
  unfold servePath
  split
  swap
  · exact herror
  rename_i uid password dev sid channel name rest
  have hsilent : Emits Output.isHttp [] s ((loginOfRequest sur client uid password dev).run s).2 :=
    (appends_loginOfRequest (fun _ => id) s).emits_nil fun _ => isHttp_of_notice
  have hopen' : ((loginOfRequest sur client uid password dev).run s).2.clients client ≠ none :=
    keepsOpen_loginOfRequest s hopen
  rw [run_bind, run_result]
  rcases hrun : (loginOfRequest sur client uid password dev).run s with ⟨auth | err | _, s₁⟩ <;>
    rw [hrun] at hsilent hopen'
  · exact (answeredOrAborts_serveStream hsends hbody hopen').silent_trans hsilent
  · exact herror.silent_trans hsilent
  · exact Or.inr ⟨rfl, hsilent⟩

theorem answeredOrAborts_serveRequest (hopen : s.clients client ≠ none)
    (hmethod : request.method ≠ .other) :
    AnsweredOrAborts client request.method s ((serveRequest sur client request).run s) := by
  unfold serveRequest
  rw [if_neg hmethod]
  cases request.path with
  | none => exact Or.inl (answered_sendError hsends nofun)
  | some path => exact answeredOrAborts_servePath hsends hbody hopen _

end

/-! ### The connection -/

section

variable {client : ClientId} {s s' : State} {sur : HttpSurroundings} {request : HttpRequest}
  {input : HttpInput}

/-- A connection over HTTP that is there stays there. -/
def KeepsHttp (client : ClientId) (s s' : State) : Prop :=
  (∃ c, s.clients client = some c ∧ c.kind = .http) →
    ∃ c, s'.clients client = some c ∧ c.kind = .http

instance : IsPreorder State (KeepsHttp client) where
  refl _ := id
  trans _ _ _ h h' := h' ∘ h

theorem Quiet.keepsHttp {P : Output → Prop} (h : Quiet P s s') : KeepsHttp client s s' := by
  rintro ⟨c, hc, hkind⟩
  have hsession := h.registry.session client
  unfold State.session at hsession
  rw [hc, Option.map_some, Option.map_eq_some_iff] at hsession
  obtain ⟨c', hc', heq⟩ := hsession
  exact ⟨c', hc', (Prod.mk.inj heq).1.trans hkind⟩

theorem keepsHttp_serveRequest [Fastotv] :
    KeepsHttp client s ((serveRequest sur client request).run s).2 := by
  refine within_serveRequest (fun _ _ => Quiet.keepsHttp) fun info s₁ c _ _ hc hhttp => ?_
  obtain ⟨c', hc', hkind⟩ := hhttp
  obtain rfl := Option.some.inj (hc.symm.trans hc')
  refine ⟨{ c with login := some info }, ?_, hkind⟩
  show Function.update s₁.clients client (some { c with login := some info }) client = _
  rw [Function.update_self]

/-- The end of a connection shows nothing over HTTP; the object goes. -/
theorem run_closeAndDelete_http (hopen : s.clients client ≠ none) :
    ∃ s', (closeAndDelete client).run s = (.ok (), s') ∧ Emits Output.isHttp [] s s' ∧
      s'.clients client = none := by
  obtain ⟨c, hc⟩ := Option.ne_none_iff_exists'.mp hopen
  have hsilent : Emits Output.isHttp [] s ((closeAndDelete client).run s).2 :=
    (appends_closeAndDelete (fun _ => id) s).emits_nil fun _ => isHttp_of_notice
  rw [run_closeAndDelete hc] at hsilent
  exact ⟨_, run_closeAndDelete hc, hsilent, Function.update_self ..⟩

/-- Behind the label `finish`. -/
theorem run_finish (keepAlive : Bool) (hhttp : ∃ c, s.clients client = some c ∧ c.kind = .http) :
    ∃ s', ((if keepAlive then pure () else closeAndDelete client : Call Unit).run s) =
        (.ok (), s') ∧ Emits Output.isHttp [] s s' ∧
      if keepAlive then ∃ c, s'.clients client = some c ∧ c.kind = .http
        else s'.clients client = none := by
  cases keepAlive with
  | true => exact ⟨s, rfl, refl_of (Emits Output.isHttp []) s, hhttp⟩
  | false =>
    obtain ⟨c, hc, -⟩ := hhttp
    exact run_closeAndDelete_http (by simp [hc])

/-! ### One response -/

/-- An answer is one response, with nothing after it. -/
theorem OneResponse.of_answers {method : HttpMethod} (h : Answers client method s s')
    (hmethod : method = .get ↔ input.method = some .get)
    (hconnection : if input.keepAlive then ∃ c, s'.clients client = some c ∧ c.kind = .http
      else s'.clients client = none) : OneResponse client input s s' := by
  obtain ⟨os, hos, hemits⟩ := h
  have hresponses : Emits Output.isHttpResponse (os.filter Output.isHttpResponse) s s' :=
    hemits.filter fun o ho => by simp [Output.isHttp, ho]
  have hdescriptors : Emits Output.isDescriptor (os.filter Output.isDescriptor) s s' :=
    hemits.filter fun o ho => by simp [Output.isHttp, ho]
  cases hos with
  | head hstatus hok =>
    exact ⟨⟨_, _, _, hstatus, isBodyOf_nil fun h => hok h.1, hresponses⟩, Or.inl hdescriptors,
      hconnection⟩
  | headers hget =>
    exact ⟨⟨_, _, _, rfl, isBodyOf_nil fun h => hget (hmethod.mpr h.2), hresponses⟩,
      Or.inr ⟨_, hdescriptors⟩, hconnection⟩
  | file hget =>
    exact ⟨⟨_, _, _, rfl, isBodyOf_file (hmethod.mp hget), hresponses⟩, Or.inr ⟨_, hdescriptors⟩,
      hconnection⟩

/-- Without anything over HTTP there is no response. -/
theorem not_oneResponse_of_silent (h : Emits Output.isHttp [] s s') :
    ¬OneResponse client input s s' := by
  rintro ⟨⟨head, status, body, -, -, hresponses⟩, -, -⟩
  have hnone : Emits Output.isHttpResponse [] s s' :=
    h.filter fun o ho => by simp [Output.isHttp, ho]
  cases hnone.unique hresponses

variable [Fastotv]

/-- Every input that is handed to `ProcessReceived` is responded to once, exactly when it is no
request with another method than `GET` and `HEAD`, and the login and the search that the segments of
its path ask for come to an end. -/
theorem one_response_iff {c : Client} (hc : s.clients client = some c) (hkind : c.kind = .http)
    (hread : input ≠ .failed) (hsends : sur.sends client = true) (hbody : sur.sendsBody = true) :
    OneResponse client input s ((processReceived sur client input).run s).2 ↔
      ∀ request, input = .request request → request.method ≠ .other ∧
        ∀ path uid password dev sid channel name rest, request.path = some path →
          tokenize path = uid :: password :: dev :: sid :: channel :: name :: rest →
          RequestReturns sur s c uid password dev sid channel := by
  have hopen : s.clients client ≠ none := by simp [hc]
  unfold processReceived
  cases input with
  | failed => exact absurd rfl hread
  | unparsed status err =>
    refine iff_of_true ?_ fun _ => nofun
    have hanswered : Answered client .other s
        ((sendError sur client false (.unparsed status) err).run s) :=
      answered_sendError hsends nofun
    rw [run_sendError hsends] at hanswered
    obtain ⟨s', hclose, hsilent, hclosed⟩ := run_closeAndDelete_http (s := { s with
      sent := s.sent ++ [.response client (.error (.unparsed status) err false)] }) hopen
    rw [run_bind_of_ok (run_sendError hsends), hclose]
    exact .of_answers (hanswered.2.trans_silent hsilent) (by simp [HttpInput.method]) hclosed
  | request request =>
    have hkept : ∃ c, ((serveRequest sur client request).run s).2.clients client = some c ∧
        c.kind = .http := keepsHttp_serveRequest ⟨c, hc, hkind⟩
    have hreturns : ((serveRequest sur client request).run s).1.Returns ↔ _ :=
      returns_serveRequest_iff hc
    simp only [HttpInput.request.injEq, forall_eq']
    by_cases hmethod : request.method = .other
    · -- Nothing is done up to `finish`.
      refine iff_of_false (not_oneResponse_of_silent ?_) fun h => h.1 hmethod
      have hrun : (serveRequest sur client request).run s = (.ok (), s) := by
        unfold serveRequest
        rw [if_pos hmethod]
        rfl
      obtain ⟨s', hfinish, hsilent, -⟩ := run_finish request.keepAlive ⟨c, hc, hkind⟩
      rw [run_bind_of_ok hrun, hfinish]
      exact hsilent
    rw [forall_prop_of_true hmethod] at hreturns
    rcases hrun : (serveRequest sur client request).run s with ⟨o, s₁⟩
    have hanswered := answeredOrAborts_serveRequest hsends hbody hopen hmethod
    rw [hrun] at hkept hreturns hanswered
    rcases hanswered with ⟨rfl, hanswers⟩ | ⟨rfl, hsilent⟩
    · refine iff_of_true ?_ ⟨hmethod, hreturns.mp trivial⟩
      obtain ⟨s', hfinish, hsilent, hconnection⟩ := run_finish request.keepAlive hkept
      rw [run_bind_of_ok hrun, hfinish]
      exact .of_answers (hanswers.trans_silent hsilent) (by simp [HttpInput.method]) hconnection
    · refine iff_of_false (not_oneResponse_of_silent ?_) fun h =>
        Outcome.not_returns_abort (hreturns.mpr h.2)
      rw [run_bind, hrun]
      exact hsilent

end

/-! A file is served once, and a `POST` not at all. -/

namespace Sample

/-- The request for the file with another method; its connection is to be kept, too. -/
def postRequest : HttpRequest := { watchRequest "secret" with method := .other }

end Sample

open Sample in
theorem one_response_iff_sample :
    ∃ s, run step (some filesStart) [.accept 7 .http] = some s ∧
      OneResponse 7 (.request (watchRequest "secret")) s
        ((processReceived filesSur 7 (.request (watchRequest "secret"))).run s).2 := by
  have hread : HttpInput.request (watchRequest "secret") ≠ .failed := nofun
  have hmethod : (watchRequest "secret").method ≠ .other := by decide
  have hreturns {s : State} {c : Client} (hc : s.clients 7 = some c) :
      ((serveRequest filesSur 7 (watchRequest "secret")).run s).1.Returns ↔ _ :=
    returns_serveRequest_iff hc
  refine ⟨_, rfl, (one_response_iff rfl rfl hread rfl rfl).mpr fun request hrequest => ?_⟩
  obtain rfl := HttpInput.request.inj hrequest
  exact ⟨hmethod, (hreturns rfl).mp trivial hmethod⟩

open Sample in
/-- The connection that sends a `POST` is kept, and waits for a response. -/
theorem no_response_to_post :
    ∃ s, run step (some filesStart) [.accept 7 .http] = some s ∧
      (s.clients 7).any (fun c => c.kind = .http) = true ∧ filesSur.sends 7 = true ∧
      filesSur.sendsBody = true ∧
      (processReceived filesSur 7 (.request postRequest)).run s = (.ok (), s) ∧
      ¬OneResponse 7 (.request postRequest) s
        ((processReceived filesSur 7 (.request postRequest)).run s).2 :=
  ⟨_, rfl, by decide, rfl, rfl, rfl, not_oneResponse_of_silent (.of_sent_eq rfl)⟩

end LoadBalance
