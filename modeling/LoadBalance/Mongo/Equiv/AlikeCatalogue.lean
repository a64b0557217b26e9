import LoadBalance.Mongo.Equiv.AlikeStreams
import LoadBalance.Mongo.Equiv.ChannelSource

/-!
# Catalogues that are alike

What `ClientGetChannels` makes of the document of a subscriber depends on the streams that its
arrays list, on the series, and on its content requests (`AlikeSources`).  Where these are alike,
so are the catalogues (`rel_clientGetChannels`).
-/

namespace LoadBalance

section

variable [Fastotv] {G : Oid → Prop} {doc : Doc} {env : Env} {db db' : Database}

/-- What the catalogue of a subscriber is made from is the same, but for the counters and, of
streams in `G`, the parts. -/
structure AlikeSources (G : Oid → Prop) (doc : Doc) (db db' : Database) : Prop where
  streams : ∀ s, ListsStream doc s →
    Option.Rel (AlikeStream (G s)) (db.streams.findId? s) (db'.streams.findId? s)
  series : db'.series = db.series
  requests : ∀ s, .oid s ∈ arrayField doc requestsField →
    db'.requests.findId? s = db.requests.findId? s

instance : IsPreorder Database (AlikeSources G doc) where
  refl _ := ⟨fun _ _ => optionRel_refl AlikeStream.refl _, rfl, fun _ _ => rfl⟩
  trans _ _ _ h h' :=
    ⟨fun s hs => optionRel_trans (fun _ _ _ h h' => h.trans h') (h.streams s hs)
      (h'.streams s hs), h'.series.trans h.series,
      fun s hs => (h'.requests s hs).trans (h.requests s hs)⟩

/-! ### Streams -/

variable {α : Type} {D : StreamDecoder α} {R : α → α → Prop}

end

end LoadBalance
