import LoadBalance.Equiv.Connections

/-!
# The login under which HTTP requests are served

A request over HTTP brings credentials along, but they are only looked at while its connection has
no login.  Content is then served under the login of the connection, and that one was accepted
for the credentials of this request or of an earlier one on the same connection
(`content_under_login`).
-/

namespace LoadBalance

open LoadBalance.Action

/-- A part of an answer with a stream in it, as opposed to an error. -/
def IsContent (client : ClientId) : Output → Prop
  | .response c (.redirect _ _) => c = client
  | .response c (.headers _ _ _ _) => c = client
  | .response c (.file _ _) => c = client
  | _ => False

/-- The call sends no content. -/
abbrev NoContent (client : ClientId) : State → State → Prop := Appends fun o => ¬IsContent client o

theorem NoContent.not_mem {s s' : State} {client : ClientId} (h : NoContent client s s') :
    ¬∃ o ∈ s'.sent.drop s.sent.length, IsContent client o := by
  rintro ⟨o, ho, hcontent⟩
  obtain ⟨outs, hsent, houts⟩ := h
  rw [hsent, List.drop_left] at ho
  exact houts o ho hcontent

theorem not_isContent_of_notice {client : ClientId} {o : Output} (h : Notice o) :
    ¬IsContent client o := by
  intro hcontent
  cases o with
  | broadcast b => exact hcontent
  | _ => exact h

/-- The session of a connection after a call, if it is a login over HTTP, was there before. -/
def NoLogin (client : ClientId) (auth : ServerDBAuthInfo) (s s' : State) : Prop :=
  s'.session client = some (.http, some auth) → s.session client = some (.http, some auth)

/-! ### One request -/

section

variable [Fastotv] {sur : HttpSurroundings} {client other : ClientId} {request : HttpRequest}
  {s s₁ : State} {uid : UserId} {password : String} {dev : DeviceId} {auth : ServerDBAuthInfo}

/-- Logging in sends nothing but notices. -/
theorem appends_loginOfRequest {P : Output → Prop} (hnotice : ∀ o, Notice o → P o) :
    Within (Appends P) (loginOfRequest sur client uid password dev) := by
  intro s
  rcases hrun : (loginOfRequest sur client uid password dev).run s with ⟨o, s₁⟩
  have hnothing : ∀ {s s'}, Quiet Nothing s s' → Appends P s s' :=
    fun h => h.sent.mono fun _ ho => ho.elim
  rcases loginOfRequest_cases hrun with
    ⟨hquiet, -⟩ | ⟨auth, s₀, c, -, -, -, -, hquiet, -, rfl⟩
  · exact hnothing hquiet
  · -- The registration itself sends nothing.
    have hjoin : Appends P (s₀.register client auth c) (s₀.join client auth c) :=
      quiet_join.sent.mono hnotice
    exact trans_of (Appends P) (hnothing hquiet) hjoin

omit [Fastotv] in
/-- The end of a connection sends nothing but notices, either. -/
theorem appends_closeAndDelete {P : Output → Prop} (hnotice : ∀ o, Notice o → P o) :
    Within (Appends P) (closeAndDelete other) :=
  within_closeAndDelete (fun _ _ h => h.sent.mono hnotice)
    fun _ _ _ => ⟨[], (List.append_nil _).symm, by simp⟩

/-- What is sent for a request is sent before the label `finish`. -/
theorem appends_processReceived {P : Output → Prop} (hnotice : ∀ o, Notice o → P o)
    (h : Appends P s ((serveRequest sur client request).run s).2) :
    Appends P s ((processReceived sur client (.request request)).run s).2 := by
  refine rel_bind h fun _ s₁ _ => ?_
  split_ifs
  · exact refl_of (Appends P) s₁
  · exact appends_closeAndDelete hnotice s₁

/-- The stream that a request names by its segments is resolved under a login, and served from what
it is resolved to. -/
def ServedUnder (sur : HttpSurroundings) (client : ClientId) (request : HttpRequest) (s : State)
    (auth : ServerDBAuthInfo) : Prop :=
  ∃ path uid password dev sid channel name rest s₁ cid source,
    request.path = some path ∧
      tokenize path = uid :: password :: dev :: sid :: channel :: name :: rest ∧
      (loginOfRequest sur client uid password dev).run s = (.ok auth, s₁) ∧
      Fastotv.channelId channel = some cid ∧
      clientFindHttpDirectoryOrUrlForChannel sur.toEnv s₁.db auth.toAuthInfo sid cid =
        .ok source ∧
      (serveRequest sur client request).run s =
        (sendSource sur client request source name sid).run s₁

/-- Up to errors, something is only sent for a stream that is resolved. -/
theorem appends_or_servedUnder {P : Output → Prop} (hnotice : ∀ o, Notice o → P o)
    (herror : ∀ status err keepAlive, P (.response client (.error status err keepAlive)))
    (s : State) :
    Appends P s ((serveRequest sur client request).run s).2 ∨
      ∃ auth, ServedUnder sur client request s auth := by
  have hrefused : ∀ status err,
      Within (Appends P) (sendError sur client request.keepAlive status err) :=
    fun status err s => (keeps_sendError (herror status err _) s).sent
  unfold ServedUnder serveRequest
  split_ifs
  · exact Or.inl (refl_of (Appends P) s)
  cases hpath : request.path with
  | none => exact Or.inl (hrefused _ _ s)
  | some path =>
    dsimp only
    unfold servePath
    split
    · rename_i uid password dev sid channel name rest htokens
      rw [run_bind, run_result]
      have hlogin : Appends P s ((loginOfRequest sur client uid password dev).run s).2 :=
        appends_loginOfRequest hnotice s
      rcases hrun : (loginOfRequest sur client uid password dev).run s with ⟨auth | err | _, s₁⟩
      · rw [hrun] at hlogin
        dsimp only
        unfold serveStream
        cases hcid : Fastotv.channelId channel with
        | none => exact Or.inl (trans_of (Appends P) hlogin (hrefused _ _ s₁))
        | some cid =>
          dsimp only
          rw [run_bind, run_result, run_reads]
          cases hsource : clientFindHttpDirectoryOrUrlForChannel sur.toEnv s₁.db auth.toAuthInfo
            sid cid with
          | abort => exact Or.inl hlogin
          | error err => exact Or.inl (trans_of (Appends P) hlogin (hrefused _ _ s₁))
          | ok source =>
            exact Or.inr ⟨auth, path, uid, password, dev, sid, channel, name, rest, s₁, cid, source,
              rfl, htokens, hrun, hcid, hsource, rfl⟩
      · rw [hrun] at hlogin
        exact Or.inl (trans_of (Appends P) hlogin (hrefused _ _ s₁))
      · rw [hrun] at hlogin
        exact Or.inl hlogin
    · exact Or.inl (hrefused _ _ s)

/-! ### Segments that are not looked at -/

/-- The requests differ at most in the three segments of the credentials. -/
def SameButCredentials (request request' : HttpRequest) : Prop :=
  ∃ path path' uid password dev uid' password' dev' rest,
    request.path = some path ∧ request' = { request with path := some path' } ∧
      tokenize path = uid :: password :: dev :: rest ∧
      tokenize path' = uid' :: password' :: dev' :: rest

/-- Once the connection has a login, the segments of the credentials make no difference. -/
theorem run_serveRequest_of_login {request' : HttpRequest} {info : ServerDBAuthInfo}
    (hlogin : s.loginOf client = some info) (h : SameButCredentials request request') :
    (serveRequest sur client request').run s = (serveRequest sur client request).run s := by
  obtain ⟨path, path', uid, password, dev, uid', password', dev', rest, hpath, rfl, htokens,
    htokens'⟩ := h
  obtain ⟨c, hc, hinfo⟩ := Option.bind_eq_some_iff.mp hlogin
  unfold serveRequest
  dsimp only
  split_ifs
  · rfl
  rw [hpath]
  dsimp only
  rw [htokens, htokens']
  rcases rest with _ | ⟨sid, _ | ⟨channel, _ | ⟨name, rest⟩⟩⟩
  · rfl
  · rfl
  · rfl
  · unfold servePath
    rw [run_bind, run_bind, run_result, run_result, run_loginOfRequest_of_some hc hinfo,
      run_loginOfRequest_of_some hc hinfo]
    rfl

/-- So the whole request ends in the same way. -/
theorem step_of_sameButCredentials {request' : HttpRequest} {info : ServerDBAuthInfo}
    (hlogin : s.loginOf client = some info) (h : SameButCredentials request request') :
    step (some s) (.http client sur (.request request')) =
      step (some s) (.http client sur (.request request)) := by
  have hserve : (serveRequest sur client request').run s = (serveRequest sur client request).run s :=
    run_serveRequest_of_login hlogin h
  obtain ⟨path, path', uid, password, dev, uid', password', dev', rest, -, rfl, -, -⟩ := h
  have haction : (Event.action (.http client sur (.request { request with path := path' }))).run s =
      (Event.action (.http client sur (.request request))).run s := by
    by_cases hopen : (s.clients client).any (fun c => c.kind = .http) = true
    · rw [run_action_http hopen, run_action_http hopen]
      unfold processReceived
      dsimp only
      rw [run_bind, run_bind, hserve]
    · rw [run_action_http_of_not hopen, run_action_http_of_not hopen]
  unfold step
  rw [Option.bind_eq_bind, Option.bind_some, Option.bind_some, haction]

/-! ### Where a login comes from -/

/-- The only event that logs a connection in over HTTP is a request with the credentials for it. -/
theorem noLogin_or_http (e : Event) (client : ClientId) (auth : ServerDBAuthInfo) (s : State) :
    NoLogin client auth s ((e.action).run s).2 ∨
      ∃ sur request, e = .http client sur (.request request) ∧
        LogsInByPath s sur client request auth := by
  rcases sessionFrom_or_joins e client .http auth s with hfrom | ⟨hjoins, login, hsession⟩
  · exact Or.inl hfrom
  cases e with
  | request other sur req =>
    obtain ⟨id, command⟩ := req
    cases command with
    | login params =>
      -- The connections of the subscribers are not those of HTTP.
      obtain ⟨rfl, hopen, -⟩ := hjoins
      obtain ⟨c, hc, hkind⟩ := (Option.any_eq_true _ _).mp hopen
      rw [State.session, hc, Option.map_some, of_decide_eq_true hkind] at hsession
      cases hsession
    | _ => exact hjoins.elim
  | http other sur input =>
    cases input with
    | request request =>
      obtain ⟨rfl, -, hlogs⟩ := hjoins
      exact Or.inr ⟨sur, request, rfl, hlogs.logsInByPath⟩
    | _ => exact hjoins.elim
  | _ => exact hjoins.elim

/-- An earlier request of the run logged the connection in, and the login has not changed since. -/
def LoggedInEarlier (start : State) (es : List Event) (client : ClientId)
    (auth : ServerDBAuthInfo) : Prop :=
  ∃ fs sur request gs s, es = fs ++ .http client sur (.request request) :: gs ∧
    run step (some start) fs = some s ∧ LogsInByPath s sur client request auth ∧
    ∀ hs, hs <+: gs → ∃ t, run step (some start)
      (fs ++ .http client sur (.request request) :: hs) = some t ∧ t.loginOf client = some auth

/-- Whoever is logged in over HTTP logged in with a request. -/
theorem loggedInEarlier {start : State} (hstart : ∀ client, start.clients client = none)
    {es : List Event} {s : State} (hrun : run step (some start) es = some s)
    (hs : s.session client = some (.http, some auth)) : LoggedInEarlier start es client auth := by
  have hnot : ¬∃ s, some start = some s ∧ s.session client = some (.http, some auth) := by
    rintro ⟨s, hs, hsession⟩
    obtain rfl := Option.some.inj hs
    rw [State.session, hstart] at hsession
    cases hsession
  have hend : ∃ s, run step (some start) es = some s ∧
      s.session client = some (.http, some auth) := ⟨s, hrun, hs⟩
  obtain ⟨fs, e, gs, rfl, hfs, hgs⟩ := exists_onset
    (P := fun o : Option State => ∃ s, o = some s ∧ s.session client = some (.http, some auth))
    hnot hend
  -- The step in which the login came about.
  obtain ⟨s₁, hs₁, hsession₁⟩ := hgs [] List.nil_prefix
  rw [run_concat] at hs₁
  cases hs₀ : run step (some start) fs with
  | none =>
    rw [hs₀] at hs₁
    cases hs₁
  | some s₀ =>
    rw [hs₀] at hs₁ hfs
    rcases noLogin_or_http e client auth s₀ with hno | ⟨sur, request, rfl, hlogs⟩
    · rw [step_eq_some hs₁] at hsession₁
      exact absurd ⟨s₀, rfl, hno hsession₁⟩ hfs
    · refine ⟨fs, sur, request, gs, s₀, rfl, hs₀, hlogs, fun hs hhs => ?_⟩
      obtain ⟨t, ht, hsession⟩ := hgs hs hhs
      exact ⟨t, ht, by rw [State.loginOf_eq, hsession]; rfl⟩

/-- Content is served under the login of its connection, which was accepted for the segments of
this request, or for those of an earlier one on the same connection.  The segments of a request on a
connection that is logged in are not looked at: with others the request ends in the same state. -/
theorem content_under_login (db : Database) (endpoint : CatchupEndpointInfo) (epgUrl : Gurl)
    (lockedText : String) (es : List Event) (client : ClientId) (sur : HttpSurroundings)
    (request : HttpRequest) (s s' : State)
    (hrun : run step (some (State.initial db endpoint epgUrl lockedText)) es = some s)
    (hstep : step (some s) (.http client sur (.request request)) = some s') :
    ((∃ o ∈ s'.sent.drop s.sent.length, IsContent client o) →
      ∃ auth, ServedUnder sur client request s auth ∧
        (LogsInByPath s sur client request auth ∨
          LoggedInEarlier (State.initial db endpoint epgUrl lockedText) es client auth)) ∧
    ((s.loginOf client).isSome → ∀ request', SameButCredentials request request' →
      step (some s) (.http client sur (.request request')) = some s') := by
  refine ⟨fun hcontent => ?_, fun hlogged request' hsame => ?_⟩
  swap
  · obtain ⟨info, hinfo⟩ := Option.isSome_iff_exists.mp hlogged
    rw [step_of_sameButCredentials hinfo hsame, hstep]
  have hs' := step_eq_some hstep
  by_cases hc : (s.clients client).any (fun c => c.kind = .http) = true
  · rw [run_action_http hc] at hs'
    -- An end of the connection sends no content.
    have hserve : ¬NoContent client s ((serveRequest sur client request).run s).2 := by
      intro hno
      refine NoContent.not_mem ?_ hcontent
      rw [hs']
      exact appends_processReceived (fun _ => not_isContent_of_notice) hno
    obtain ⟨auth, hserved⟩ := (appends_or_servedUnder (fun _ => not_isContent_of_notice)
      (fun _ _ _ hcontent => hcontent) s).resolve_left hserve
    refine ⟨auth, hserved, ?_⟩
    obtain ⟨path, uid, password, dev, sid, channel, name, rest, s₁, cid, source, hpath, htokens,
      hlogin, -, -, -⟩ := hserved
    rcases loginOfRequest_cases hlogin with
      ⟨-, hsome⟩ | ⟨login, s₀, c, hok, hnone, haccepted, -, -, -, -⟩
    · right
      refine loggedInEarlier (fun _ => rfl) hrun ?_
      obtain ⟨c, hopen, hkind⟩ := (Option.any_eq_true _ _).mp hc
      have hloginOf := hsome auth rfl
      rw [State.loginOf, hopen] at hloginOf
      have hlogin' : c.login = some auth := hloginOf
      rw [State.session, hopen, Option.map_some, of_decide_eq_true hkind, hlogin']
    · obtain rfl := Outcome.ok.inj hok
      exact Or.inl ⟨hnone, path, uid, password, dev, _, hpath, htokens, haccepted⟩
  · rw [run_action_http_of_not hc] at hs'
    obtain rfl : s' = s := hs'
    exact absurd hcontent (NoContent.not_mem (refl_of (NoContent client) s'))

end

/-! A connection that asks for a channel twice, the second time with another password. -/

namespace Sample

def newsProxy : StoredDoc where
  id := .oid (oid 2)
  fields := [(streamClsField, .utf8 proxyStr), (streamOutputField, .array [.document
    [(streamOutputUrlsIdField, .int32 1), (streamOutputUrlsUriField, .utf8 "http://cdn/news")]])]
  no_id := by decide

/-- The account with the channel among its streams. -/
def viewer : StoredDoc where
  id := .oid (oid 1)
  fields := account.fields ++
    [(userStreamsField, .array [.document (userStreamEntry (oid 2))])]
  no_id := by
    simp only [account, Doc.keys, List.map_cons, List.map_nil, List.cons_append, List.nil_append]
    decide

theorem nodup_viewer : ([viewer].map StoredDoc.id).Nodup := List.nodup_singleton _

def viewerStart : State :=
  State.initial (database viewer [newsProxy] (List.nodup_singleton _)) endpoint
    ⟨"http://epg", true⟩ "locked"

def httpSur : HttpSurroundings :=
  { sur with sendsBody := true, file := fun _ => .missing }

def watchRequest (password : String) : HttpRequest where
  method := .get
  path := some ((oid 1).text ++ "/" ++ password ++ "/" ++ (oid 5).text ++ "/" ++ (oid 2).text ++
    "/1/news.m3u8")
  fileName := "news.m3u8"
  keepAlive := true

def watching : List Event :=
  [.accept 7 .http, .http 7 httpSur (.request (watchRequest "secret"))]

theorem sameButCredentials_watchRequest :
    SameButCredentials (watchRequest "wrong") (watchRequest "other") :=
  ⟨_, _, (oid 1).text, "wrong", (oid 5).text, (oid 1).text, "other", (oid 5).text,
    [(oid 2).text, "1", "news.m3u8"], rfl, rfl, by decide, by decide⟩

end Sample

open Sample in
/-- The second request is answered with the redirect as well, for a password that is wrong. -/
theorem content_for_wrong_password :
    ∃ s s', run step (some viewerStart) watching = some s ∧
      step (some s) (.http 7 httpSur (.request (watchRequest "wrong"))) = some s' ∧
      (∃ o ∈ s'.sent.drop s.sent.length, IsContent 7 o) ∧
      ((watchRequest "wrong").path.map fun path => (tokenize path).take 3) =
        some [(oid 1).text, "wrong", (oid 5).text] ∧
      ((clientLoginByUid httpSur.toEnv (oid 1).text "wrong" (oid 5).text).run s).1 =
        .error (.message "Invalid password") :=
  ⟨_, _, rfl, rfl, ⟨.response 7 (.redirect "http://cdn/news" true), by decide, rfl⟩, by decide,
    by decide⟩

open Sample in
theorem content_under_login_sample :
    ∃ s s', run step (some viewerStart) watching = some s ∧
      step (some s) (.http 7 httpSur (.request (watchRequest "wrong"))) = some s' ∧
      (((∃ o ∈ s'.sent.drop s.sent.length, IsContent 7 o) →
        ∃ auth, ServedUnder httpSur 7 (watchRequest "wrong") s auth ∧
          (LogsInByPath s httpSur 7 (watchRequest "wrong") auth ∨
            LoggedInEarlier viewerStart watching 7 auth)) ∧
      ((s.loginOf 7).isSome → ∀ request', SameButCredentials (watchRequest "wrong") request' →
        step (some s) (.http 7 httpSur (.request request')) = some s')) ∧
      (∃ o ∈ s'.sent.drop s.sent.length, IsContent 7 o) ∧ (s.loginOf 7).isSome = true ∧
      SameButCredentials (watchRequest "wrong") (watchRequest "other") :=
  ⟨_, _, rfl, rfl,
    content_under_login _ _ _ _ watching 7 httpSur (watchRequest "wrong") _ _ rfl rfl,
    ⟨.response 7 (.redirect "http://cdn/news" true), by decide, rfl⟩, rfl,
    sameButCredentials_watchRequest⟩

end LoadBalance
