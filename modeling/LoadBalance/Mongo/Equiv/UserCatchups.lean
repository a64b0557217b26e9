import LoadBalance.Mongo.Equiv.ClientGetChannels
import LoadBalance.Mongo.Equiv.Writes

/-!
# The catchups of a subscriber

The ids that the entries of the array `catchups` are about, in their order (`catchupSids`).  None of
the writes of `Wrote` adds one; `AddUserCatchup` appends one, whether it is there already or not.
Where the ids are distinct, `ClientGetChannels` lists no catchup twice.
-/

namespace LoadBalance

open LoadBalance.Action

/-- The stream that an entry is about. -/
def entrySid? : Bson → Option Oid
  | .document rec => (Doc.get? rec userStreamIdField).bind Bson.asOid?
  | _ => none

/-- The streams that the entries of an array are about. -/
def entrySids : Option Bson → List Oid
  | some (.array a) => a.filterMap entrySid?
  | _ => []

/-- The catchups of a subscriber. -/
def catchupSids (db : Database) (user : Oid) : List Oid :=
  entrySids ((db.subscribers.findId? user).bind fun sub => sub.fields.get? userCatchupsField)

/-- No subscriber has more catchups, or has them in another order. -/
def CatchupsKept (db db' : Database) : Prop :=
  ∀ user, (catchupSids db' user).Sublist (catchupSids db user)

instance : IsPreorder Database CatchupsKept where
  refl _ _ := List.Sublist.refl _
  trans _ _ _ h h' user := (h' user).trans (h user)

/-! ### The writes -/

theorem entrySids_pull {k : String} {o : Oid} {w : Option Bson} {v : Bson}
    (h : pullOp k o w = some v) : (entrySids (some v)).Sublist (entrySids w) := by
  unfold pullOp at h
  split at h
  · obtain rfl := Option.some.inj h
    exact List.filter_sublist.filterMap _
  · cases h

/-- A setter leaves the `sid` of the entry that it changes. -/
theorem entrySids_setElement {k : String} {o : Oid} {field : String} {value : Bson}
    {w : Option Bson} {v : Bson} (hfield : field ≠ userStreamIdField)
    (h : setElementOp k o field value w = some v) : entrySids (some v) = entrySids w := by
  unfold setElementOp at h
  split at h
  · obtain ⟨a', ha', rfl⟩ := Option.map_eq_some_iff.mp h
    have hmap : a'.map entrySid? = _ := map_modifyFirst entrySid? (fun x y hxy => by
      split at hxy
      · obtain rfl := Option.some.inj hxy
        simp only [entrySid?]
        rw [Doc.get?_set_ne _ _ (Ne.symm hfield)]
      · cases hxy) ha'
    have hids : ∀ l : List Bson, l.filterMap entrySid? = (l.map entrySid?).filterMap id :=
      fun l => by rw [List.filterMap_map, Function.id_comp]
    show a'.filterMap entrySid? = _
    rw [hids, hmap, ← hids]
    rfl
  · cases h

theorem catchupsKept_of_update {db : Database} {q : StoredDoc → Bool} {k : String}
    {hk : k ≠ idField} {g : Option Bson → Option Bson} {c : Collection}
    (h : db.subscribers.update q k hk g = some c)
    (hg : k = userCatchupsField → ∀ w v, g w = some v →
      (entrySids (some v)).Sublist (entrySids w)) :
    CatchupsKept db (db.set .subscribers c) := by
  intro user
  show (entrySids ((c.findId? user).bind fun sub => sub.fields.get? userCatchupsField)).Sublist _
  unfold catchupSids
  rcases Collection.findId?_update h user with heq | ⟨d, d', v, hd, -, hv, hfields, hd'⟩
  · rw [heq]
  · rw [hd, hd', Option.bind_some, Option.bind_some, hfields]
    by_cases hcatchups : k = userCatchupsField
    · subst hcatchups
      rw [Doc.get?_set_self]
      exact hg rfl _ _ hv
    · rw [Doc.get?_set_ne _ _ (Ne.symm hcatchups)]

theorem CatchupsKept.of_wrote {u : Option Oid} {db db' : Database} (h : Wrote u db db') :
    CatchupsKept db db' := by
  cases h with
  | activate h => exact catchupsKept_of_update h fun hk => absurd hk (by decide)
  | setEntry hfield h =>
    exact catchupsKept_of_update h fun _ w v hv => by rw [entrySids_setElement hfield hv]
  | pullCatchup h => exact catchupsKept_of_update h fun _ _ _ => entrySids_pull
  | pushRequest h => exact catchupsKept_of_update h fun hk => absurd hk (by decide)
  | incViews | insertRequest => exact fun user => List.Sublist.refl _

theorem CatchupsKept.of_writes {U : Option Oid → Prop} {db db' : Database} (h : Writes U db db') :
    CatchupsKept db db' :=
  h.rel fun _ _ _ _ => CatchupsKept.of_wrote

/-! ### Adding a catchup -/

theorem entrySids_push {x : Oid} {w : Option Bson} {v : Bson}
    (h : pushOp (.document (userCatchupEntry x)) w = some v) :
    entrySids (some v) = entrySids w ++ [x] := by
  have hentry : entrySid? (.document (userCatchupEntry x)) = some x := rfl
  unfold pushOp at h
  split at h
  · obtain rfl := Option.some.inj h
    simp [entrySids, hentry]
  · obtain rfl := Option.some.inj h
    simp [entrySids, hentry]
  · cases h

/-- The catchup is appended to those of the subscriber, if there is one with the id. -/
theorem catchupSids_push {db : Database} {user x : Oid} {c : Collection}
    (h : db.subscribers.update (StoredDoc.hasId user) userCatchupsField userCatchups_ne_id
      (pushOp (.document (userCatchupEntry x))) = some c) (other : Oid) :
    catchupSids (db.set .subscribers c) other = catchupSids db other ++
      if other = user ∧ (db.subscribers.findId? user).isSome then [x] else [] := by
  have hquery : ∀ d : StoredDoc, d.hasId user = true → d.id = .oid user :=
    fun d hd => StoredDoc.hasId_iff.mp hd
  show entrySids ((c.findId? other).bind fun sub => sub.fields.get? userCatchupsField) = _
  unfold catchupSids
  rcases Collection.update_cases hquery h with
    ⟨hno, rfl⟩ | ⟨d, d', v, hd, -, hv, -, hfields, hd', hother⟩
  · have hnone : db.subscribers.findId? user = none := by
      cases hd : db.subscribers.findId? user with
      | none => rfl
      | some d =>
        have hid := StoredDoc.hasId_iff.mpr (Collection.id_of_findId? hd)
        rw [hno d hd] at hid
        cases hid
    simp [hnone]
  · by_cases heq : other = user
    · subst heq
      rw [hd, hd', Option.bind_some, Option.bind_some, hfields, Doc.get?_set_self,
        entrySids_push hv]
      simp
    · rw [hother other heq]
      simp [heq]

/-- The subscriber has an array of catchups, or no such field. -/
def TakesCatchup (db : Database) (user : Oid) : Prop :=
  ∀ sub v, db.subscribers.findId? user = some sub → sub.fields.get? userCatchupsField = some v →
    ∃ a, v = .array a

/-- The push of a catchup is refused only where the array is something else. -/
theorem TakesCatchup.push_isSome {db : Database} {user x : Oid} (h : TakesCatchup db user) :
    ∃ c, db.subscribers.update (StoredDoc.hasId user) userCatchupsField userCatchups_ne_id
      (pushOp (.document (userCatchupEntry x))) = some c := by
  refine Collection.update_isSome fun d hd hquery => ?_
  cases hget : d.fields.get? userCatchupsField with
  | none => rfl
  | some v =>
    obtain ⟨a, rfl⟩ := h d v (Collection.findId?_of_mem hd (StoredDoc.hasId_iff.mp hquery)) hget
    rfl

/-- Who has a catchup already takes another one. -/
theorem takesCatchup_of_mem {db : Database} {user y : Oid} (h : y ∈ catchupSids db user) :
    (db.subscribers.findId? user).isSome ∧ TakesCatchup db user := by
  unfold catchupSids at h
  cases hd : db.subscribers.findId? user with
  | none =>
    rw [hd] at h
    cases h
  | some d =>
    refine ⟨rfl, fun sub v hsub hv => ?_⟩
    obtain rfl := Option.some.inj (hd.symm.trans hsub)
    rw [hd, Option.bind_some, hv] at h
    cases v with
    | array a => exact ⟨a, rfl⟩
    | _ => cases h

section

variable [Fastotv] {env : Env} {auth : ServerDBAuthInfo} {db db' : Database}

/-- `AddUserCatchup` appends the entry, or fails and changes nothing. -/
theorem addUserCatchup_cases {sid : StreamId} {o : Outcome Error Unit}
    (h : (addUserCatchup env auth sid).run db = (o, db')) :
    (db' = db ∧ o ≠ .ok ()) ∨
      ∃ user x c, convertFromString env.beyond auth.uid = some user ∧
        convertFromString env.beyond sid = some x ∧ sid ≠ Fastotv.invalidStreamId ∧
        env.write .pushEntry = true ∧
        db.subscribers.update (StoredDoc.hasId user) userCatchupsField userCatchups_ne_id
          (pushOp (.document (userCatchupEntry x))) = some c ∧
        o = .ok () ∧ db' = db.set .subscribers c := by
  unfold addUserCatchup withUserAndStream at h
  split_ifs at h with hrefused
  · obtain ⟨rfl, rfl⟩ := Prod.mk.inj h
    exact Or.inl ⟨rfl, by simp⟩
  cases huser : convertFromString env.beyond auth.uid with
  | none =>
    rw [huser] at h
    obtain ⟨rfl, rfl⟩ := Prod.mk.inj h
    exact Or.inl ⟨rfl, by simp⟩
  | some user =>
    rw [huser, run_bind_of_ok (run_orFail_some _ _ _)] at h
    cases hx : convertFromString env.beyond sid with
    | none =>
      rw [hx] at h
      obtain ⟨rfl, rfl⟩ := Prod.mk.inj h
      exact Or.inl ⟨rfl, by simp⟩
    | some x =>
      rw [hx, run_bind_of_ok (run_orFail_some _ _ _)] at h
      unfold addStreamToUserCatchupsArray at h
      rcases writeBack_cases h with ⟨hwrite, c, hc, rfl, rfl⟩ | ⟨-, rfl, rfl⟩
      · have hsid : sid ≠ Fastotv.invalidStreamId := fun h => hrefused (by simp [h])
        exact Or.inr ⟨user, x, c, rfl, rfl, hsid, hwrite, hc, rfl, rfl⟩
      · exact Or.inl ⟨rfl, by simp⟩

/-- A push that is neither lost nor refused succeeds. -/
theorem addUserCatchup_of_takes {user x : Oid} (hvalid : auth.isValid = true)
    (hx : x.text ≠ Fastotv.invalidStreamId)
    (huser : convertFromString env.beyond auth.uid = some user)
    (hwrite : env.write .pushEntry = true) (htakes : TakesCatchup db user) :
    ∃ c, (addUserCatchup env auth x.text).run db = (.ok (), db.set .subscribers c) ∧
      catchupSids (db.set .subscribers c) user = catchupSids db user ++
        if (db.subscribers.findId? user).isSome then [x] else [] := by
  obtain ⟨c, hc⟩ := htakes.push_isSome (x := x)
  refine ⟨c, ?_, ?_⟩
  · unfold addUserCatchup withUserAndStream
    rw [if_neg (by simp [hvalid, hx]), huser, convertFromString_text,
      run_bind_of_ok (run_orFail_some _ _ _), run_bind_of_ok (run_orFail_some _ _ _)]
    show (writeBack (env.write .pushEntry) .subscribers fun c => c.update (StoredDoc.hasId user)
      userCatchupsField userCatchups_ne_id (pushOp (.document (userCatchupEntry x)))).run db = _
    exact writeBack_ok hwrite hc
  · rw [catchupSids_push hc]
    simp only [true_and]

/-! ### What is listed -/

omit [Fastotv] in
/-- What is made of the elements of a list, from the elements of a longer one. -/
theorem map_filterMap_sublist {α β γ δ : Type} {g : α → Option β} {h : α → Option γ} {φ : β → δ}
    {ψ : γ → δ} {a : List α} (hgh : ∀ e ∈ a, ∀ y, g e = some y → ∃ z, h e = some z ∧ φ y = ψ z) :
    ((a.filterMap g).map φ).Sublist ((a.filterMap h).map ψ) := by
  induction a with
  | nil => exact List.Sublist.refl _
  | cons e a ih =>
    obtain ⟨he, ha⟩ := List.forall_mem_cons.mp hgh
    rw [List.filterMap_cons, List.filterMap_cons]
    cases hg : g e with
    | none =>
      cases h e with
      | none => exact ih ha
      | some z => exact (ih ha).cons _
    | some y =>
      obtain ⟨z, hz, hφ⟩ := he y hg
      rw [hz, List.map_cons, List.map_cons, hφ]
      exact (ih ha).cons_cons _

/-- The ids of the catchups that a walk lists are those of the entries, without the entries that it
passes over. -/
theorem streamIds_listed {a : List Bson} {l : List (Bool × CatchupInfo)}
    (h : walk (listedCatchup env db) a = .ok l) :
    (l.map fun x => x.2.streamId).Sublist ((a.filterMap entrySid?).map Oid.text) := by
  obtain ⟨hall, rfl⟩ := walk_eq_ok.mp h
  refine map_filterMap_sublist fun e he x hx => ?_
  rw [Option.join_eq_some_iff, Outcome.toOption_eq_some] at hx
  obtain ⟨-, hread⟩ := listedCatchup_eq_ok.mp hx
  unfold readInfo at hread
  simp only [Option.bind_eq_bind, Option.bind_eq_some_iff, Outcome.toOption_eq_some] at hread
  obtain ⟨⟨rec, sdoc, st⟩, hes, ⟨info, visible⟩, hdec, hshown⟩ := hread
  obtain ⟨rfl, o, hsid, hsdoc, -⟩ := entryStream_eq_some.mp hes
  rw [← decode_catchupDecoder] at hdec
  obtain ⟨scan, hscan, rfl, -⟩ := StreamDecoder.decode_eq_ok.mp hdec
  obtain ⟨o', hid, htext⟩ := StreamDecoder.streamId_of_accepted
    (u := makeUserStreamInfo (behind [userStreamIdField] rec)) hscan
  rw [Collection.id_of_findId? hsdoc, Bson.oid.injEq] at hid
  subst hid
  rw [if_pos trivial, Option.some.injEq] at hshown
  subst hshown
  exact ⟨o, by simp [entrySid?, hsid], htext⟩

/-- Where the catchups of a subscriber are distinct, none is listed twice. -/
theorem catchups_listed_once {login : AuthInfo} {user : Oid} {sub : StoredDoc} {r : Catalogue}
    (hdistinct : (catchupSids db user).Nodup) (hsub : findByEmail db login.login = some sub)
    (hid : sub.id = .oid user) (hr : clientGetChannels env db login = .ok r) :
    (r.catchups.map fun cat => cat.streamId).Nodup := by
  obtain ⟨-, sub', hsub', _, _, catchups, _, _, -, -, hwalk, -, -, rfl⟩ :=
    clientGetChannels_eq_ok.mp hr
  obtain rfl := Option.some.inj (hsub.symm.trans hsub')
  have hsids : catchupSids db user =
      (arrayField sub.toDoc userCatchupsField).filterMap entrySid? := by
    unfold catchupSids arrayField entrySids
    rw [Collection.findId?_of_mem (Collection.mem_of_find? hsub) hid, Option.bind_some,
      StoredDoc.get?_toDoc (by decide)]
    cases hget : sub.fields.get? userCatchupsField with
    | none => rfl
    | some v => cases v <;> rfl
  rw [hsids] at hdistinct
  rw [List.map_map]
  exact (hdistinct.map Oid.text_injective).sublist (streamIds_listed hwalk)

end

end LoadBalance
