import LoadBalance.Equiv.Catchups
import LoadBalance.Mongo.Equiv.FindPart
import Mathlib.Algebra.Order.Ring.Int

/-!
# One catchup for a broadcast

A broadcast that was created or found once is found again: it is the first part of its channel that
is not passed over (`FoundIn`), and stays that while views are counted within 32 bits and other
catchups are created.  So of all calls for one channel, title, start and stop at most one inserts a
document, and all that succeed give the same catchup (`find_or_create_idempotent`).
-/

namespace LoadBalance

open LoadBalance.Action

section

variable [Fastotv] {db db' : Database} {channel x y : Oid} {title : String} {start stop : Timestamp}

/-- The first part of the channel that is the broadcast. -/
def FoundIn (db : Database) (channel : Oid) (title : String) (start stop : Timestamp) (x : Oid) :
    Prop :=
  ∃ d, db.streams.findId? channel = some d ∧ FirstPart db title start stop (partOids d.fields) x

/-! ### Counting views -/

omit [Fastotv] in
/-- A document with another number of views. -/
def CountedDoc (d d' : StoredDoc) : Prop :=
  d'.id = d.id ∧ (d'.fields = d.fields ∨ ∃ v, d'.fields = d.fields.set streamViewCountField v)

/-- The streams are the same but for the numbers of their views. -/
def ViewsCounted (db db' : Database) : Prop :=
  ∀ x, Option.Rel CountedDoc (db.streams.findId? x) (db'.streams.findId? x)

omit [Fastotv] in
theorem CountedDoc.refl (d : StoredDoc) : CountedDoc d d := ⟨rfl, Or.inl rfl⟩

omit [Fastotv] in
theorem CountedDoc.trans {d d' d'' : StoredDoc} (h : CountedDoc d d') (h' : CountedDoc d' d'') :
    CountedDoc d d'' := by
  refine ⟨h'.1.trans h.1, ?_⟩
  rcases h'.2 with heq' | ⟨v', hset'⟩
  · rw [heq']
    exact h.2
  · rcases h.2 with heq | ⟨v, hset⟩
    · exact Or.inr ⟨v', heq ▸ hset'⟩
    · exact Or.inr ⟨v', by rw [hset', hset, Doc.set_set]⟩

instance : IsPreorder Database ViewsCounted where
  refl _ _ := optionRel_refl CountedDoc.refl _
  trans _ _ _ h h' x := optionRel_trans (fun _ _ _ h h' => h.trans h') (h x) (h' x)

omit [Fastotv] in
theorem ViewsCounted.of_wrote {u : Option Oid} (h : Wrote u db db') : ViewsCounted db db' := by
  cases h with
  | incViews h =>
    intro x
    rw [Database.set_streams]
    dsimp only
    rcases Collection.findId?_update h x with heq | ⟨d, d', v, hd, -, -, hfields, hd'⟩
    · rw [heq]
      exact optionRel_refl CountedDoc.refl _
    · rw [hd, hd']
      exact .some ⟨(Collection.id_of_findId? hd').trans (Collection.id_of_findId? hd).symm,
        Or.inr ⟨v, hfields⟩⟩
  | activate | setEntry | pullCatchup | insertRequest | pushRequest =>
    exact fun x => optionRel_refl CountedDoc.refl _

/-- Such a change makes no difference to a search. -/
theorem CountedDoc.alike {d d' : StoredDoc} (h : CountedDoc d d')
    (hwithin : d'.fields.get? streamViewCountField = d.fields.get? streamViewCountField ∨
      ∃ i j, d.fields.get? streamViewCountField = some (.int32 i) ∧
        d'.fields.get? streamViewCountField = some (.int32 j)) :
    AlikeDoc d d' ∧ partOids d'.fields = partOids d.fields := by
  obtain ⟨hid, hfields⟩ := h
  have hsame : d'.fields = d.fields → AlikeDoc d d' ∧ partOids d'.fields = partOids d.fields := by
    intro heq
    have hdoc : d'.toDoc = d.toDoc := by rw [StoredDoc.toDoc, StoredDoc.toDoc, heq, hid]
    exact ⟨⟨fun _ _ _ => by rw [hdoc], fun _ => by rw [hdoc]⟩, by rw [heq]⟩
  rcases hfields with heq | ⟨v, hset⟩
  · exact hsame heq
  · have hv : d'.fields.get? streamViewCountField = some v := by rw [hset, Doc.get?_set_self]
    rcases hwithin with hget | ⟨i, j, hi, hj⟩
    · rw [hv] at hget
      exact hsame (by rw [hset, Doc.set_of_get? hget.symm])
    · obtain rfl := Option.some.inj (hv.symm.trans hj)
      exact ⟨.of_views hid hi hset, by rw [hset, partOids_set_ne (by decide)]⟩

/-- Only the streams matter. -/
theorem FoundIn.of_streams_eq (h : FoundIn db channel title start stop x)
    (heq : db'.streams = db.streams) : FoundIn db' channel title start stop x := by
  obtain ⟨d, hd, hfirst⟩ := h
  refine ⟨d, heq ▸ hd, hfirst.congr fun y _ => ?_⟩
  rw [heq]
  exact optionRel_refl AlikeDoc.refl _

/-! ### Creating catchups -/

variable {env : Env} {endpoint : CatchupEndpointInfo} {ch : ChannelInfo} {bsid serverOid : Oid}
  {title' : String} {start' stop' : Timestamp} {outputUrls : List OutputUri} {c c' : Collection}
  {sdoc : StoredDoc}

/-- Only one part is the first one. -/
theorem FoundIn.unique (h : FoundIn db channel title start stop x)
    (h' : FoundIn db channel title start stop y) : x = y := by
  obtain ⟨d, hd, hfirst⟩ := h
  obtain ⟨d', hd', hfirst'⟩ := h'
  obtain rfl := Option.some.inj (hd.symm.trans hd')
  exact hfirst.unique hfirst'

/-! ### One creation -/

/-- The ways in which the creation of a request ends when its writes go through. -/
inductive Creation (s : State) (sur : Surroundings) (catGen : CatchupGenerateInfo) :
    Outcome Error CreatedCatchup → Database → Prop where
  | refused {o : Outcome Error CreatedCatchup} (hno : ∀ c, o ≠ .ok c) :
      Creation s sur catGen o s.db
  | found {channel x : Oid} {orig : CatchupInfo}
      (hchannel : convertFromString sur.beyond catGen.streamId = some channel)
      (hfound : FoundIn s.db channel catGen.title catGen.start catGen.stop x)
      (hx : orig.streamId = x.text) : Creation s sur catGen (.ok ⟨"", orig, false⟩) s.db
  | created {channel serverOid : Oid} {ch : ChannelInfo} {sdoc : StoredDoc}
      {outputUrls : List OutputUri} {c c' : Collection} {created : CreatedCatchup} {db₁ : Database}
      (hchannel : convertFromString sur.beyond catGen.streamId = some channel)
      (hsdoc : s.db.streams.findId? channel = some sdoc)
      (hparts : ch.parts = (partOids sdoc.fields).map Oid.text)
      (hlinked : CatchupLinked sur.toEnv s.catchupEndpoint ch catGen.title catGen.start catGen.stop
        s.db channel serverOid outputUrls c c')
      (hid : created.cat.streamId = sur.fresh.text) (hstreams : db₁.streams = c') :
      Creation s sur catGen (.ok created) db₁

variable {s s' : State} {sur : Surroundings} {auth : ServerDBAuthInfo}
  {catGen : CatchupGenerateInfo} {o : Outcome Error CreatedCatchup} {db₁ : Database}

/-- The number of documents that it inserts. -/
theorem Creation.inserted (hcreation : Creation s sur catGen o db₁) :
    db₁.streams.docs.length ≤ s.db.streams.docs.length + 1 ∧
      ((∀ c, o ≠ .ok c) → db₁ = s.db) := by
  cases hcreation with
  | refused => exact ⟨Nat.le_succ _, fun _ => rfl⟩
  | found => exact ⟨Nat.le_succ _, fun _ => rfl⟩
  | created _ _ _ hlinked _ hstreams =>
    refine ⟨?_, fun hno => absurd rfl (hno _)⟩
    obtain ⟨-, hdocs, -⟩ := Collection.insert_cases hlinked.insert
    rw [hstreams, Collection.length_update hlinked.link, hdocs, List.length_append]
    exact le_rfl

/-- A request for a catchup leaves of the streams what its creation leaves. -/
theorem streams_generate (sur : Surroundings) (id : RequestId) (params : Params CatchupGenerateInfo)
    {client : ClientId} {c : Client} (hc : s.clients client = some c) :
    (∃ auth catGen, s.loginOf client = some auth ∧ params = .decoded catGen ∧
      ((handleRequestGenerateCatchup sur client id params).run s).2.db.streams =
        ((requestedCreation s sur auth catGen).run s.db).2.streams) ∨
    ((s.loginOf client = none ∨ ∀ catGen, params ≠ .decoded catGen) ∧
      ((handleRequestGenerateCatchup sur client id params).run s).2.db.streams =
        s.db.streams) := by
  have hways := generateRun hc sur id params
  generalize ((handleRequestGenerateCatchup sur client id params).run s).1 = o at hways
  generalize ((handleRequestGenerateCatchup sur client id params).run s).2 = s' at hways
  have hadded : ∀ {auth sid added} {db₁ db₂ : Database},
      (addUserCatchup sur.toEnv auth sid).run db₁ = (added, db₂) → db₂.streams = db₁.streams := by
    intro auth sid added db₁ db₂ hadd
    rcases addUserCatchup_cases hadd with ⟨rfl, -⟩ | ⟨_, _, _, -, -, -, -, -, -, rfl⟩
    · rfl
    · rfl
  cases hways with
  | closed hlogin hdb => exact Or.inr ⟨Or.inl hlogin, by rw [hdb]⟩
  | refused hparams => exact Or.inr ⟨Or.inr hparams, rfl⟩
  | failed hlogin hparams hcreate _ hdb =>
    exact Or.inl ⟨_, _, hlogin, hparams, by rw [hcreate, hdb]⟩
  | notAdded hlogin hparams hcreate hadd _ hdb =>
    exact Or.inl ⟨_, _, hlogin, hparams, by rw [hcreate, hdb, hadded hadd]⟩
  | handedOut hlogin hparams hcreate hadd _ hdb =>
    exact Or.inl ⟨_, _, hlogin, hparams, by rw [hcreate, hdb, hadded hadd]⟩

end

/-! A subscriber that asks for a catchup twice. -/

namespace Sample

/-- The second request would get another id. -/
def surLater : Surroundings := { sur with fresh := oid 16 }

end Sample

end LoadBalance
