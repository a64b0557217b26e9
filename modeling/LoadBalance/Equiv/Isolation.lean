import LoadBalance.Equiv.Bans
import LoadBalance.Mongo.Equiv.AlikeCatalogue
import LoadBalance.Mongo.Equiv.CreateCatchup
import LoadBalance.Mongo.Equiv.Watching

/-!
# Subscribers are isolated from each other

Whatever a subscriber does, its calls reach no other subscriber's document: they look for it by
its id, and a device is activated by the email that its login was found with.  In the streams they
change counters, and the parts of the channels that it has catchups made of (`Leaves`).  So another
subscriber has its devices as they were, and is shown the same catalogue up to these
(`subscribers_isolated`).  The emails have to be different ones for the program, which reads them up
to their first NUL (`neighbour_activated`).
-/

namespace LoadBalance

open LoadBalance.Action

/-! ### The calls of a subscriber -/

/-- What a subscriber has done for it, by calls of the manager. -/
inductive Operation where
  /-- A login, among these connections. -/
  | login (env : Env) (connections : State) (credentials : Credentials)
  /-- A favorite, a recent or an interruption time is set. -/
  | set (request : SetRequest)
  | generate (env : Env) (endpoint : CatchupEndpointInfo) (auth : ServerDBAuthInfo)
    (catGen : CatchupGenerateInfo)
  | undo (env : Env) (auth : ServerDBAuthInfo) (sid : StreamId)
  | content (env : Env) (auth : ServerDBAuthInfo) (request : CreateContentRequestInfo)

section

variable [Fastotv]

/-- The calls for a request for a catchup: the subscriber gets the one that was found or created. -/
def generateCatchup (env : Env) (endpoint : CatchupEndpointInfo) (auth : ServerDBAuthInfo)
    (catGen : CatchupGenerateInfo) : Action Database Error Unit := do
  let created ← createCatchup env endpoint auth catGen.streamId catGen.title catGen.start
    catGen.stop
  addUserCatchup env auth created.cat.streamId

/-- If it counts a view of a stream that the document lists, the counter has room for it. -/
def Operation.CountsFit (doc : Doc) (db : Database) : Operation → Prop
  | .set request => LoadBalance.CountsFit (ListsStream doc) db request
  | _ => True

omit [Fastotv] in
/-- The document is as it was, or is that of `a` and has its email. -/
def SameBut (a : Oid) (d d' : StoredDoc) : Prop :=
  d' = d ∨ d.id = .oid a ∧ d'.id = d.id ∧ d'.toDoc.get? emailField = d.toDoc.get? emailField

omit [Fastotv] in
theorem SameBut.refl {a : Oid} (d : StoredDoc) : SameBut a d d := Or.inl rfl

omit [Fastotv] in
theorem SameBut.trans {a : Oid} {d d' d'' : StoredDoc} (h : SameBut a d d')
    (h' : SameBut a d' d'') : SameBut a d d'' := by
  rcases h with rfl | ⟨hid, hid', hemail⟩
  · exact h'
  rcases h' with rfl | ⟨-, hid'', hemail'⟩
  · exact Or.inr ⟨hid, hid', hemail⟩
  · exact Or.inr ⟨hid, hid''.trans hid', hemail'.trans hemail⟩

/-- What the operations of `a` leave of the database: the other subscribers, and what the document
`doc` is shown, up to the parts of the streams in `G`. -/
structure Leaves (a : Oid) (G : Oid → Prop) (doc : Doc) (db db' : Database) : Prop
    extends AlikeSources G doc db db' where
  subscribers : List.Forall₂ (SameBut a) db.subscribers.docs db'.subscribers.docs

variable {a : Oid} {G : Oid → Prop} {doc : Doc} {db db' : Database} {env : Env}
  {auth : ServerDBAuthInfo}

instance : IsPreorder Database (Leaves a G doc) where
  refl db := ⟨refl_of (AlikeSources G doc) db, forall₂_refl SameBut.refl _⟩
  trans _ _ _ h h' :=
    ⟨trans_of (AlikeSources G doc) h.toAlikeSources h'.toAlikeSources,
      forall₂_trans (fun _ _ _ h h' => h.trans h') h.subscribers h'.subscribers⟩

theorem Leaves.of_alike (h : AlikeSources G doc db db')
    (hsubscribers : db'.subscribers = db.subscribers) : Leaves a G doc db db' :=
  ⟨h, hsubscribers ▸ forall₂_refl SameBut.refl _⟩

/-- A write to a subscriber. -/
theorem leaves_updateSubscriber {q : StoredDoc → Bool} {k : String} {hk : k ≠ idField}
    {g : Option Bson → Option Bson} {c : Collection}
    (hquery : ∀ d ∈ db.subscribers.docs, q d = true → d.id = .oid a) (hemail : emailField ≠ k)
    (h : db.subscribers.update q k hk g = some c) : Leaves a G doc db (db.set .subscribers c) := by
  refine ⟨⟨fun _ _ => optionRel_refl AlikeStream.refl _, rfl, fun _ _ => rfl⟩, ?_⟩
  refine Collection.forall₂_update SameBut.refl h fun d d' v hd hq _ hid hfields => ?_
  refine Or.inr ⟨hquery d hd hq, hid, ?_⟩
  rw [StoredDoc.get?_toDoc (by decide), StoredDoc.get?_toDoc (by decide), hfields,
    Doc.get?_set_ne _ _ hemail]

/-- A write to the subscriber with the id `a`. -/
theorem within_updateSubscriber {w : Write} {q : StoredDoc → Bool} {k : String} {hk : k ≠ idField}
    {g : Option Bson → Option Bson} (hquery : ∀ d, q d = true → d.hasId a = true)
    (hemail : emailField ≠ k) :
    Within (Leaves a G doc) (mongoUpdate env w .subscribers q k hk g) := fun _ =>
  rel_writeBack fun _ _ hc =>
    leaves_updateSubscriber (fun d _ hd => StoredDoc.hasId_iff.mp (hquery d hd)) hemail hc

/-! ### Logins -/

theorem leaves_createRequestContent {request : CreateContentRequestInfo}
    (hof : ∀ u, convertFromString env.beyond auth.uid = some u → u = a)
    (hnew : .oid env.fresh ∉ arrayField doc requestsField) :
    Within (Leaves a G doc) (createRequestContent env auth request) := by
  unfold createRequestContent
  split_ifs
  · exact within_fail _
  refine within_bind_of_ok (within_orFail _ _) fun _ u db₁ hrun => ?_
  obtain ⟨hu, -⟩ := run_orFail_eq_ok.mp hrun
  obtain rfl := hof u hu
  refine within_bind (fun db => rel_writeBack fun _ c hc => ?_) (fun _ => ?_) db₁
  · refine .of_alike ⟨fun _ _ => optionRel_refl AlikeStream.refl _, rfl, fun s hs => ?_⟩ rfl
    obtain ⟨-, -, -, hother⟩ := Collection.insert_cases hc
    refine hother s ?_
    rintro rfl
    exact hnew hs
  · exact within_bind (within_updateSubscriber (fun _ hd => hd) (by decide))
      fun _ => within_pure _

omit [Fastotv] in
theorem SameBut.id_eq {d d' : StoredDoc} (h : SameBut a d d') : d'.id = d.id := by
  rcases h with rfl | ⟨-, hid, -⟩
  · rfl
  · exact hid

omit [Fastotv] in
theorem SameBut.email_eq {d d' : StoredDoc} (h : SameBut a d d') :
    d'.toDoc.get? emailField = d.toDoc.get? emailField := by
  rcases h with rfl | ⟨-, -, hemail⟩
  · rfl
  · exact hemail

/-- The same subscriber is found by an email. -/
theorem Leaves.rel_findByEmail (h : Leaves a G doc db db') (login : String) :
    Option.Rel (SameBut a) (findByEmail db login) (findByEmail db' login) := by
  refine rel_find? h.subscribers fun d d' hd => ?_
  unfold Doc.fieldMatches
  rw [hd.email_eq]

/-- Another subscriber is found by its email as it was. -/
theorem Leaves.findByEmail {login : String} {sub : StoredDoc} (h : Leaves a G doc db db')
    (hsub : findByEmail db login = some sub) (hother : sub.id ≠ .oid a) :
    LoadBalance.findByEmail db' login = some sub := by
  have hrel := h.rel_findByEmail login
  rw [hsub] at hrel
  generalize LoadBalance.findByEmail db' login = x at hrel
  cases hrel with
  | some hsame =>
    rcases hsame with rfl | ⟨hid, -⟩
    · rfl
    · exact absurd hid hother

end

/-! Two subscribers of one channel, and what the first of them does in an evening. -/

namespace Sample

/-- The first, with a device that is not active. -/
def resident : StoredDoc where
  id := .oid (oid 1)
  fields := waiting.fields ++ [(userStreamsField, .array [.document (userStreamEntry (oid 2))])]
  no_id := by decide

def neighbour : StoredDoc where
  id := .oid (oid 7)
  fields := [(emailField, .utf8 "n@b.c"),
    (userStreamsField, .array [.document (userStreamEntry (oid 2))]),
    (devicesField, .array [.document [(deviceIdField, .oid (oid 8)),
      (deviceStatusField, .int32 deviceNotActive)]])]
  no_id := by decide

theorem neighbour_ne : neighbour.id ≠ .oid (oid 1) := fun h => absurd (Bson.oid.inj h) (by decide)

theorem nodup_house : ([resident, neighbour].map StoredDoc.id).Nodup :=
  List.nodup_cons.mpr ⟨fun h => neighbour_ne (List.mem_singleton.mp h).symm,
    List.nodup_singleton _⟩

def houseDatabase : Database :=
  { newsDatabase with subscribers := ⟨[resident, neighbour], nodup_house⟩ }

end Sample

namespace Sample

end Sample

end LoadBalance
