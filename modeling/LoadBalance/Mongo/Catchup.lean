import LoadBalance.Mongo.Catalogue

/-!
# Catchups and content requests

`CreateOrFindCatchup` looks among the parts of a channel for a catchup with the same title, start
and stop; without one it writes a new stream document, links it to the channel, and attaches it to
the channel's server.
-/

namespace LoadBalance

open LoadBalance.Action

def inputUrlCls := "pyfastocloud_models.common_entries.InputUrl"
def outputUrlCls := "pyfastocloud_models.common_entries.OutputUrl"
def contentRequestCls := "pyfastocloud_models.content_request.entry.ContentRequest"

structure CatchupEndpointInfo where
  catchupsHost : HostAndPort
  catchupsHttpRoot : Directory
deriving DecidableEq, Repr

def CatchupEndpointInfo.isValid [Fastotv] (info : CatchupEndpointInfo) : Bool :=
  Fastotv.hostValid info.catchupsHost && Fastotv.directoryValid info.catchupsHttpRoot

/-! ### Urls -/

/-- One element of the input field. -/
def inputElement (iurl : InputUri) : Doc :=
  [(streamClsField, .utf8 inputUrlCls), ("id", .int32 iurl.id.toInt32),
      ("uri", .utf8 (cstr iurl.url.spec))] ++
    match iurl.userAgent with
    | some ua => [("user_agent", .int32 ua)]
    | none => []

/-- The value of the input field. -/
def createInputUrl (urls : List InputUri) : Bson :=
  .array (urls.map fun iurl => .document (inputElement iurl))

/-- One element of the output field. -/
def outputElement (out : OutputUri) : Doc :=
  [(streamClsField, .utf8 outputUrlCls), (streamOutputUrlsIdField, .int32 out.id.toInt32),
      (streamOutputUrlsUriField, .utf8 (cstr out.url.spec))] ++
    (match out.httpRoot with
      | some dir => [(streamOutputUrlsHttpRootField, .utf8 (cstr dir.path))]
      | none => []) ++
    (match out.hlsType with
      | some t => [(streamOutputUrlsHlsTypeField, .int32 t)]
      | none => [])

/-- The value of the output field. -/
def createOutputUrl (urls : List OutputUri) : Bson :=
  .array (urls.map fun out => .document (outputElement out))

section

variable [Fastotv]

/-- The outputs of a catchup: one for each output of the channel, under the catchup's id. -/
def patchedOutputs (urls : List OutputUri) (sid : StreamId) (endpoint : CatchupEndpointInfo) :
    List OutputUri :=
  urls.map fun out =>
    let postfixDir := toString Fastotv.catchupNumber ++ "/" ++ sid ++ "/" ++ toString out.id.toNat
    let url := "http://" ++ Fastotv.hostText endpoint.catchupsHost ++ "/" ++ postfixDir ++
      "/master.m3u8"
    { out with
      url := Fastotv.gurl url
      httpRoot := match Fastotv.makeDirectory endpoint.catchupsHttpRoot postfixDir with
        | some dir => some dir
        | none => out.httpRoot }

/-- The value of the output field of a catchup, with the outputs it holds. -/
def createCatchupOutputUrl (urls : List OutputUri) (sid : StreamId)
    (endpoint : CatchupEndpointInfo) : Bson × List OutputUri :=
  let patched := patchedOutputs urls sid endpoint
  (createOutputUrl patched, patched)

/-! ### The stream document of a catchup -/

/-- The groups are written as an array `languages` inside of the array. -/
def catchupGroups (groups : List String) : Bson :=
  .array [.array (groups.map fun g => .utf8 (cstr g))]

/-- The fields of a new catchup other than `_id`, in the order in which they are appended. -/
def catchupDoc (env : Env) (basedOn : ChannelInfo) (title : String) (start stop : Timestamp)
    (output : Bson) (outputUrls : List OutputUri) : Doc :=
  [(streamClsField, .utf8 catchupStr),
    (streamCreateDateField, .dateTime env.now),
    (streamNameField, .utf8 (cstr title)),
    (streamGroupsField, catchupGroups basedOn.groups),
    (channelTvgIdField, .utf8 (cstr basedOn.epg.tvgId)),
    (channelTvgNameField, .utf8 ""),
    (channelTvgLogoField, .utf8 (cstr basedOn.epg.iconUrl.spec)),
    (streamPriceField, .double 0),
    (streamVisibleField, .bool true),
    (streamIarcField, .int32 basedOn.iarc),
    (streamViewCountField, .int32 0),
    (streamPartsField, .array []),
    (streamOutputField, output),
    (streamLogLevelField, .int32 Fastotv.logLevelInfo),
    (streamInputField, createInputUrl (outputUrls.map fun out => ⟨out.id, out.url, none⟩)),
    (streamHaveVideoField, .bool basedOn.enableVideo),
    (streamHaveAudioField, .bool basedOn.enableAudio),
    (streamLoopField, .bool false),
    (streamRestartAttemptsField, .int32 10),
    (streamAutoExitField, .int32 ((stop - start) / 1000).toInt32),
    (streamExtraConfigArgsField, .utf8 "{}"),
    (streamVideoParserField, .utf8 "h264parse"),
    (streamAudioParserField, .utf8 "aacparse"),
    (timeshiftChunkDurationField, .int32 12),
    (timeshiftChunkLifeTimeField, .int32 43200),
    (catchupStartField, .dateTime start),
    (catchupStopField, .dateTime stop)]

theorem no_id_catchupDoc (env : Env) (basedOn : ChannelInfo) (title : String)
    (start stop : Timestamp) (output : Bson) (outputUrls : List OutputUri) :
    idField ∉ Doc.keys (catchupDoc env basedOn title start stop output outputUrls) := by
  simp only [catchupDoc, Doc.keys, List.map_cons, List.map_nil]
  decide

/-- The info of a new catchup as it is told to the requester: a copy of the channel's with the
title for a name, from the flags of the channel in the order audio, video. -/
def catchupCopy (basedOn : ChannelInfo) (sid : StreamId) (title : String) (urls : List Gurl)
    (start stop : Timestamp) : CatchupInfo where
  toStreamBaseInfo := streamBaseInfo sid basedOn.groups basedOn.iarc basedOn.favorite
    basedOn.recent basedOn.interruptionTime basedOn.enableAudio basedOn.enableVideo basedOn.parts
    0 false basedOn.metaUrls
  epg := { basedOn.epg with displayName := title, urls := urls }
  start := start
  stop := stop

/-! ### Creating and finding catchups -/

/-- The output parameters of `CreateCatchup`. -/
structure CreatedCatchup where
  serverid : String
  cat : CatchupInfo
  isCreated : Bool
deriving DecidableEq, Repr

/-- A stream document with this title, start and stop. -/
def sameBroadcast (sdoc : Doc) (title : String) (start stop : Timestamp) : Bool :=
  match sdoc.get? streamNameField, sdoc.get? catchupStartField, sdoc.get? catchupStopField with
  | some (.utf8 name), some (.dateTime streamStart), some (.dateTime streamStop) =>
    cstr name = title && streamStart = start && stop = streamStop
  | _, _, _ => false

/-- The first part with this title, start and stop that decodes as a catchup. -/
def findPart (env : Env) (db : Database) (title : String) (start stop : Timestamp) :
    List StreamId → Outcome Error (Option CatchupInfo)
  | [] => .ok none
  | chan :: parts =>
    match (convertFromString env.beyond chan).bind db.streams.findId? with
    | none => findPart env db title start stop parts
    | some sdoc =>
      if sameBroadcast sdoc.toDoc title start stop then
        match makeCatchupInfo env.uninit sdoc.toDoc .catchup {} with
        | .ok (orig, _) => .ok (some orig)
        | .error _ => findPart env db title start stop parts
        | .abort => .abort
      else findPart env db title start stop parts

/-- The documents that a new catchup is made from: the id of the channel, its outputs, and the id
of the first server that has the channel. -/
def catchupOrigin (env : Env) (endpoint : CatchupEndpointInfo) (basedOn : ChannelInfo) :
    Action Database Error (Oid × List OutputUri × Oid) := do
  if !endpoint.isValid then
    fail (.message "Service not prepared for catchups, skiping request")
  else
    let bsid ← orFail (convertFromString env.beyond basedOn.streamId)
      (.message "Invalid stream id")
    let sdoc ← mongoFind .streams (StoredDoc.hasId bsid)
    let sdoc ← orFail sdoc (.message "Stream not found")
    let server ← mongoFind .servers fun d =>
      d.toDoc.fieldMatches serverStreamsField (Bson.hasElement bsid)
    let server ← orFail server (.message "Server not found")
    let serverOid ← orFail server.id.asOid? (.message "Invalid stream")
    let _ ← orFail (streamType? sdoc.toDoc) (.message "Invalid stream")
    let outputUrls ← orFail ((sdoc.toDoc.get? streamOutputField).bind getOutputUrlData)
      (.message "Invalid stream")
    pure (bsid, outputUrls, serverOid)

def createOrFindCatchup (env : Env) (endpoint : CatchupEndpointInfo) (basedOn : ChannelInfo)
    (title : String) (start stop : Timestamp) : Action Database Error CreatedCatchup := do
  match ← reads fun db => findPart env db title start stop basedOn.parts with
  | some orig => pure { serverid := "", cat := orig, isCreated := false }
  | none =>
    let (bsid, outputUrls, serverOid) ← catchupOrigin env endpoint basedOn
    let catchupid := env.fresh
    let (output, caturls) := createCatchupOutputUrl outputUrls catchupid.text endpoint
    mongoInsert env .insertStream .streams catchupid
      (catchupDoc env basedOn title start stop output outputUrls) (no_id_catchupDoc _ _ _ _ _ _ _)
    -- link catchup to stream parts array
    mongoUpdate env .linkPart .streams (StoredDoc.hasId bsid) streamPartsField parts_ne_id
      (pushOp (.oid catchupid))
    addStreamToServer env serverOid catchupid
    pure
      { serverid := serverOid.text
        cat := catchupCopy basedOn catchupid.text title (makeUrlsFromOutput caturls) start stop
        isCreated := true }

def createCatchup (env : Env) (endpoint : CatchupEndpointInfo) (auth : ServerDBAuthInfo)
    (sid : StreamId) (title : String) (start stop : Timestamp) :
    Action Database Error CreatedCatchup := do
  if !auth.isValid || sid = Fastotv.invalidStreamId then
    fail .inval
  else
    let ch ← reads fun db => findStream env db auth sid
    createOrFindCatchup env endpoint ch title start stop

end

/-! ### Content requests -/

/-- The fields of a new content request other than `_id`. -/
def requestDoc (request : CreateContentRequestInfo) : Doc :=
  [(contentRequestTitleField, .utf8 (cstr request.text)),
    (contentRequestClsField, .utf8 contentRequestCls),
    (contentRequestStatusField, .int32 request.status),
    (contentRequestTypeField, .int32 request.type)]

theorem no_id_requestDoc (request : CreateContentRequestInfo) :
    idField ∉ Doc.keys (requestDoc request) := by
  simp only [requestDoc, Doc.keys, List.map_cons, List.map_nil]
  decide

def createRequestContent [Fastotv] (env : Env) (auth : ServerDBAuthInfo)
    (request : CreateContentRequestInfo) : Action Database Error ContentRequestInfo := do
  if !auth.isValid then
    fail .inval
  else
    let oid ← orFail (convertFromString env.beyond auth.uid) (.message "Invalid user id")
    let requestid := env.fresh
    mongoInsert env .insertRequest .requests requestid (requestDoc request) (no_id_requestDoc _)
    addContentRequestToUserArray env oid requestid
    pure
      { id := requestid.text, title := request.text, type := request.type
        status := request.status }

end LoadBalance
