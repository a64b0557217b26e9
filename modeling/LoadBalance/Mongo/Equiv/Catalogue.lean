import LoadBalance.Mongo.Catalogue
import LoadBalance.Mongo.Equiv.Decoders

/-!
# The catalogue against the arrays of the subscriber

`clientGetChannels` walks over five arrays.  A walk succeeds when it does so at each entry
(`walk_eq_ok`), and what an entry gives is a function of its fields: the object id under `sid`,
the stream document with that id, and the five flags.  The flags are read with one iterator, so
they are those of the fields looked up by name exactly when the fields stand in the order in
which the reader asks for them (`InOrder`).
-/

namespace LoadBalance

/-! ### Walks -/

section walk

variable {α : Type} {f : Bson → Outcome Error (Option α)} {a : List Bson} {l : List α}

/-- A walk gives what its body gives at each element, if that succeeds everywhere. -/
theorem walk_eq_ok : walk f a = .ok l ↔
    (∀ e ∈ a, ∃ x, f e = .ok x) ∧ l = a.filterMap fun e => (f e).toOption.join := by
  unfold walk
  rw [Outcome.bind_eq_ok]
  constructor
  · rintro ⟨ys, hys, hl⟩
    rw [Outcome.pure_eq_ok, Outcome.ok.injEq] at hl
    subst hl
    have h := Outcome.mapM_eq_ok.mp hys
    clear hys
    induction h with
    | nil => simp
    | @cons e y a ys hy _ ih =>
      refine ⟨List.forall_mem_cons.mpr ⟨⟨y, hy⟩, ih.1⟩, ?_⟩
      have hjoin : (f e).toOption.join = y := by rw [hy]; rfl
      rw [List.filterMap_cons, List.filterMap_cons, hjoin, ih.2]
      rfl
  · rintro ⟨hall, rfl⟩
    induction a with
    | nil => exact ⟨[], rfl, rfl⟩
    | cons e a ih =>
      obtain ⟨⟨x, hx⟩, hrest⟩ := List.forall_mem_cons.mp hall
      obtain ⟨ys, hys, hl⟩ := ih hrest
      refine ⟨x :: ys, ?_, ?_⟩
      · exact Outcome.mapM_eq_ok.mpr (List.Forall₂.cons hx (Outcome.mapM_eq_ok.mp hys))
      · have hjoin : (f e).toOption.join = x := by rw [hx]; rfl
        rw [Outcome.pure_eq_ok, Outcome.ok.injEq] at hl ⊢
        rw [List.filterMap_cons, List.filterMap_cons, hjoin, hl]
        rfl

theorem walk_returns (h : ∀ e ∈ a, ∃ x, f e = .ok x) : ∃ l, walk f a = .ok l :=
  ⟨_, walk_eq_ok.mpr ⟨h, rfl⟩⟩

/-- A walk asks its body at the elements of the array only. -/
theorem walk_congr {f' : Bson → Outcome Error (Option α)} (h : ∀ e ∈ a, f' e = f e) :
    walk f' a = walk f a := by
  have hmap : a.mapM f' = a.mapM f := by
    induction a with
    | nil => rfl
    | cons e a ih =>
      obtain ⟨he, ha⟩ := List.forall_mem_cons.mp h
      rw [List.mapM_cons, List.mapM_cons, he, ih ha]
  unfold walk
  rw [hmap]

theorem mem_of_walk (h : walk f a = .ok l) {x : α} :
    x ∈ l ↔ ∃ e ∈ a, f e = .ok (some x) := by
  obtain ⟨-, rfl⟩ := walk_eq_ok.mp h
  simp only [List.mem_filterMap, Option.join_eq_some_iff, Outcome.toOption_eq_some]

end walk

theorem mem_withPrivate {α : Type} {priv : Bool} {l : List (Bool × α)} {x : α} :
    x ∈ withPrivate priv l ↔ (priv, x) ∈ l := by
  unfold withPrivate
  rw [List.mem_filterMap]
  constructor
  · rintro ⟨⟨p, y⟩, hmem, hy⟩
    dsimp only at hy
    split_ifs at hy with hp
    rw [Option.some.injEq] at hy
    exact hp ▸ hy ▸ hmem
  · exact fun h => ⟨(priv, x), h, by simp⟩

/-! ### Entries -/

/-- The fields of an entry that say something about its stream, each looked up by name. -/
def UserStreamInfo.byName (rec : Doc) : UserStreamInfo where
  favorite := ((rec.get? favoriteField).map Bson.asBool).getD false
  recent := ((rec.get? recentField).map Bson.asDateTime).getD 0
  interruptionTime := ((rec.get? interruptionTimeField).map fun v => v.asInt32.toInt64).getD 0
  priv := ((rec.get? privateField).map Bson.asBool).getD false
  locked := ((rec.get? lockedField).map Bson.asBool).getD false

/-- The value that a field has with its type behind the fields `ks`; the default when it is not
there. -/
def fieldBehind {τ : Type} (ks : List String) (d : Doc) (k : String) (value : Bson → τ)
    (dflt : τ) : τ :=
  ((Doc.get? (behind ks d) k).map value).getD dflt

/-- The value of a field is the same behind the fields `ks` as in the whole document. -/
def SameBehind {τ : Type} (ks : List String) (rec : Doc) (k : String) (value : Bson → τ)
    (dflt : τ) : Prop :=
  fieldBehind ks rec k value dflt = fieldBehind [] rec k value dflt

/-- Going forward from `sid`, each field that the reader asks for is met with the value it has by
name: behind the fields that the reader asked for before, all of which have to be there. -/
structure InOrder (rec : Doc) : Prop where
  favorite : SameBehind [userStreamIdField] rec favoriteField Bson.asBool false
  priv : SameBehind [userStreamIdField, favoriteField] rec privateField Bson.asBool false
  locked : SameBehind [userStreamIdField, favoriteField, privateField] rec lockedField
    Bson.asBool false
  recent : SameBehind [userStreamIdField, favoriteField, privateField, lockedField] rec
    recentField Bson.asDateTime 0
  interruptionTime : SameBehind [userStreamIdField, favoriteField, privateField, lockedField,
    recentField] rec interruptionTimeField (fun v => v.asInt32.toInt64) 0

/-- What the reader finds behind `sid` are the fields by name exactly when they are in order. -/
theorem makeUserStreamInfo_eq_byName_iff {rec : Doc} :
    makeUserStreamInfo (behind [userStreamIdField] rec) = UserStreamInfo.byName rec ↔
      InOrder rec := by
  simp only [makeUserStreamInfo, UserStreamInfo.byName, UserStreamInfo.mk.injEq, iterFind_fst]
  constructor
  · rintro ⟨h1, h2, h3, h4, h5⟩
    exact ⟨h1, h4, h5, h2, h3⟩
  · rintro ⟨h1, h2, h3, h4, h5⟩
    exact ⟨h1, h4, h5, h2, h3⟩

/-- The fields of an entry with the stream document that its object id stands for, and the type of
the stream. -/
def entryStream (db : Database) : Bson → Option (Doc × StoredDoc × StreamType)
  | .document rec => do
    let oid ← (Doc.get? rec userStreamIdField).bind Bson.asOid?
    let sdoc ← db.streams.findId? oid
    let st ← streamType? sdoc.toDoc
    pure (rec, sdoc, st)
  | _ => none

/-- The `sid` of an entry is no object id. -/
def NullSid (e : Bson) : Prop :=
  ∃ rec v, e = .document rec ∧ Doc.get? rec userStreamIdField = some v ∧ v.asOid? = none

theorem entryStream_eq_some {db : Database} {e : Bson} {rec : Doc} {sdoc : StoredDoc}
    {st : StreamType} : entryStream db e = some (rec, sdoc, st) ↔
      e = .document rec ∧ ∃ oid, Doc.get? rec userStreamIdField = some (.oid oid) ∧
        db.streams.findId? oid = some sdoc ∧ streamType? sdoc.toDoc = some st := by
  cases e <;> simp only [entryStream, reduceCtorEq, false_and]
  case document d =>
    simp only [Option.bind_eq_bind, Option.bind_eq_some_iff, Option.pure_def, Option.some.injEq,
      Prod.mk.injEq, Bson.asOid?_eq_some, Bson.document.injEq]
    constructor
    · rintro ⟨oid, ⟨v, hv, rfl⟩, sdoc', hs, st', hst, rfl, rfl, rfl⟩
      exact ⟨rfl, oid, hv, hs, hst⟩
    · rintro ⟨rfl, oid, hv, hs, hst⟩
      exact ⟨oid, ⟨_, hv, rfl⟩, sdoc, hs, st, hst, rfl, rfl, rfl⟩

/-- The type is a matter of one field. -/
theorem streamType?_of_fields {d d' : StoredDoc}
    (h : d'.fields.get? streamClsField = d.fields.get? streamClsField) :
    streamType? d'.toDoc = streamType? d.toDoc := by
  have hne : streamClsField ≠ idField := by decide
  unfold streamType?
  rw [StoredDoc.get?_toDoc hne, StoredDoc.get?_toDoc hne, h]

theorem listedStream_of_nullSid (db : Database) {e : Bson} (h : NullSid e) :
    listedStream db e = .abort := by
  obtain ⟨rec, v, rfl, hv, hoid⟩ := h
  have hfst : (iterFind userStreamIdField rec).1 = some v := by rw [iterFind_fst, hv]
  simp only [listedStream, hfst, hoid]

/-- Without a null object id an entry gives its stream and the flags behind its `sid`. -/
theorem listedStream_eq (db : Database) {e : Bson} (h : ¬ NullSid e) :
    listedStream db e = .ok ((entryStream db e).map fun (rec, sdoc, st) =>
      (sdoc.toDoc, st, makeUserStreamInfo (behind [userStreamIdField] rec))) := by
  cases e with
  | document rec =>
    unfold listedStream entryStream
    simp only [iterFind_fst]
    cases hv : Doc.get? rec userStreamIdField with
    | none => simp
    | some v =>
      cases hoid : v.asOid? with
      | none => exact absurd ⟨rec, v, rfl, hv, hoid⟩ h
      | some oid =>
        cases hs : db.streams.findId? oid with
        | none => simp [hoid, hs]
        | some sdoc => cases hst : streamType? sdoc.toDoc <;> simp [hoid, hs, hst]
  | _ => rfl

theorem decoded_eq_ok {α : Type} {x : Outcome Unit α} {y : Option α} :
    decoded x = .ok y ↔ x ≠ .abort ∧ y = x.toOption := by
  cases x <;> simp [decoded, Outcome.toOption, eq_comm]

/-! ### What an entry gives -/

section entry

variable {α : Type} (decode : Doc → StreamType → UserStreamInfo → Outcome Unit (α × Bool))
  (shows : Bool → Bool) (db : Database)

/-- No null object id is met at an entry: neither its `sid` nor, in the document of its stream,
an element of an array that the decoder reads as object ids. -/
def Readable (e : Bson) : Prop :=
  ¬ NullSid e ∧ ∀ rec sdoc st, entryStream db e = some (rec, sdoc, st) →
    decode sdoc.toDoc st {} ≠ .abort

/-- The entry belongs into a list: its stream document is accepted, and as visible as the list
asks for. -/
def Shown (e : Bson) : Prop :=
  ∃ rec sdoc st info visible, entryStream db e = some (rec, sdoc, st) ∧
    decode sdoc.toDoc st {} = .ok (info, visible) ∧ shows visible = true

/-- What the fields of an entry, each looked up by name, and its stream document call for: nothing
when there is no document or it is not accepted or not to be shown, else the value of `private`
and the info. -/
def expectedInfo (e : Bson) : Option (Bool × α) := do
  let (rec, sdoc, st) ← entryStream db e
  let uinf := UserStreamInfo.byName rec
  let (info, visible) ← (decode sdoc.toDoc st uinf).toOption
  if shows visible then some (uinf.priv, info) else none

/-- The same with the flags that the reader finds behind `sid`. -/
def readInfo (e : Bson) : Option (Bool × α) := do
  let (rec, sdoc, st) ← entryStream db e
  let uinf := makeUserStreamInfo (behind [userStreamIdField] rec)
  let (info, visible) ← (decode sdoc.toDoc st uinf).toOption
  if shows visible then some (uinf.priv, info) else none

end entry

section

variable [Fastotv]

variable {α : Type} {D : StreamDecoder α} {shows : Bool → Bool} {uninit : Uninit} {db : Database}
  {e : Bson}

/-- The body of a walk returns exactly at an entry that is readable, with what the reader finds. -/
theorem listedInfo_eq_ok {x : Option (Bool × α)} :
    listedInfo db (D.decode uninit) shows e = .ok x ↔
      Readable (D.decode uninit) db e ∧ readInfo (D.decode uninit) shows db e = x := by
  unfold listedInfo Readable readInfo
  by_cases hnull : NullSid e
  · rw [listedStream_of_nullSid db hnull]
    simp [hnull]
  rw [listedStream_eq db hnull, Outcome.ok_bind]
  cases hes : entryStream db e with
  | none => simp [hnull]
  | some r =>
    obtain ⟨rec, sdoc, st⟩ := r
    simp only [Option.map_some, hnull, not_false_eq_true, true_and, Option.bind_eq_bind,
      Option.bind_some, StreamDecoder.decode_eq]
    cases hacc : D.accepted uninit sdoc.toDoc st with
    | abort => simp [decoded, hacc]
    | error e' => simp [decoded, Outcome.toOption, hacc]
    | ok s => simp [decoded, Outcome.toOption, hacc]

/-- What is read and what is called for agree exactly when the fields of a shown entry stand in
order. -/
theorem readInfo_eq_expectedInfo_iff (D : StreamDecoder α) :
    readInfo (D.decode uninit) shows db e = expectedInfo (D.decode uninit) shows db e ↔
      ∀ rec, e = .document rec → Shown (D.decode uninit) shows db e → InOrder rec := by
  unfold readInfo expectedInfo Shown
  cases hes : entryStream db e with
  | none => simp
  | some r =>
    obtain ⟨rec, sdoc, st⟩ := r
    obtain ⟨rfl, -⟩ := entryStream_eq_some.mp hes
    simp only [Option.bind_eq_bind, Option.bind_some, StreamDecoder.decode_eq,
      Bson.document.injEq, forall_eq']
    cases hacc : D.accepted uninit sdoc.toDoc st with
    | abort => simp [Outcome.toOption, hacc]
    | error e' => simp [Outcome.toOption, hacc]
    | ok s =>
      -- the two infos come from the same walk over the stream document
      have hinj : ∀ u u' : UserStreamInfo,
          ((u.priv, D.info s u) = (u'.priv, D.info s u') ↔ u = u') := by
        intro u u'
        rw [Prod.mk.injEq, StreamDecoder.info_inj, UserStreamInfo.eq_iff]
      cases hshows : shows s.visible with
      | false =>
        simp only [Outcome.toOption, Outcome.ok_bind, Outcome.pure_eq_ok, Option.bind_some,
          hshows, Bool.false_eq_true, ite_false, true_iff]
        rintro ⟨rec', sdoc', st', info, visible, hes', hdec, hv⟩
        simp only [Option.some.injEq, Prod.mk.injEq] at hes'
        obtain ⟨rfl, rfl, rfl⟩ := hes'
        simp only [hacc, Outcome.ok_bind, Outcome.ok.injEq, Prod.mk.injEq] at hdec
        rw [← hdec.2, hshows] at hv
        exact absurd hv Bool.false_ne_true
      | true =>
        simp only [Outcome.toOption, Outcome.ok_bind, Outcome.pure_eq_ok, Option.bind_some,
          hshows, ite_true, Option.some.injEq, hinj, makeUserStreamInfo_eq_byName_iff]
        constructor
        · exact fun h _ => h
        · intro h
          exact h ⟨rec, sdoc, st, D.info s {}, s.visible, rfl, by simp [hacc], hshows⟩

/-- A walk over readable entries succeeds with what the reader finds. -/
theorem walk_listedInfo (D : StreamDecoder α) {a : List Bson}
    (hread : ∀ e ∈ a, Readable (D.decode uninit) db e) :
    walk (listedInfo db (D.decode uninit) shows) a =
      .ok (a.filterMap (readInfo (D.decode uninit) shows db)) := by
  rw [walk_eq_ok]
  have hok : ∀ e ∈ a, listedInfo db (D.decode uninit) shows e =
      .ok (readInfo (D.decode uninit) shows db e) :=
    fun e he => listedInfo_eq_ok.mpr ⟨hread e he, rfl⟩
  refine ⟨fun e he => ⟨_, hok e he⟩, List.filterMap_congr fun e he => ?_⟩
  rw [hok e he]
  rfl

/-- What a walk gives, entry by entry. -/
theorem mem_walk_listedInfo_iff (D : StreamDecoder α) {a : List Bson} {l : List (Bool × α)}
    (h : walk (listedInfo db (D.decode uninit) shows) a = .ok l) {x : Bool × α} :
    x ∈ l ↔ ∃ e ∈ a, ∃ rec sdoc st s, entryStream db e = some (rec, sdoc, st) ∧
      D.accepted uninit sdoc.toDoc st = .ok s ∧ shows s.visible = true ∧
      x = ((makeUserStreamInfo (behind [userStreamIdField] rec)).priv,
        D.info s (makeUserStreamInfo (behind [userStreamIdField] rec))) := by
  rw [mem_of_walk h]
  constructor
  · rintro ⟨e, he, hread⟩
    obtain ⟨-, hinfo⟩ := listedInfo_eq_ok.mp hread
    unfold readInfo at hinfo
    simp only [Option.bind_eq_bind, Option.bind_eq_some_iff, Outcome.toOption_eq_some] at hinfo
    obtain ⟨⟨rec, sdoc, st⟩, hes, ⟨info, visible⟩, hdec, hx⟩ := hinfo
    obtain ⟨s, hs, rfl, rfl⟩ := StreamDecoder.decode_eq_ok.mp hdec
    split_ifs at hx with hshows
    rw [Option.some.injEq] at hx
    exact ⟨e, he, rec, sdoc, st, s, hes, hs, hshows, hx.symm⟩
  · rintro ⟨e, he, rec, sdoc, st, s, hes, hs, hshows, rfl⟩
    obtain ⟨x, hx⟩ := (walk_eq_ok.mp h).1 e he
    refine ⟨e, he, listedInfo_eq_ok.mpr ⟨(listedInfo_eq_ok.mp hx).1, ?_⟩⟩
    unfold readInfo
    simp [hes, StreamDecoder.decode_eq, hs, hshows, Outcome.toOption]

variable {env : Env}

theorem listedChannel_eq_ok {x : Option (Bool × ChannelInfo)} :
    listedChannel env db e = .ok x ↔ Readable (makeChannelInfo env.uninit) db e ∧
      readInfo (makeChannelInfo env.uninit) (fun visible => visible) db e = x :=
  listedInfo_eq_ok (D := channelDecoder)

theorem listedVod_eq_ok {x : Option (Bool × VodInfo)} :
    listedVod env db e = .ok x ↔ Readable (makeVodInfo env.uninit) db e ∧
      readInfo (makeVodInfo env.uninit) (fun _ => true) db e = x :=
  listedInfo_eq_ok (D := vodDecoder)

theorem listedCatchup_eq_ok {x : Option (Bool × CatchupInfo)} :
    listedCatchup env db e = .ok x ↔ Readable (makeCatchupInfo env.uninit) db e ∧
      readInfo (makeCatchupInfo env.uninit) (fun _ => true) db e = x :=
  listedInfo_eq_ok (D := catchupDecoder)

end

end LoadBalance
