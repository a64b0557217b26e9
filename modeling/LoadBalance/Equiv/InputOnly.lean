import LoadBalance.Daemon.ServerInfo
import LoadBalance.Mongo.Equiv.CountedFields
import LoadBalance.Mongo.Equiv.Uninit

/-!
# What a decode depends on

Some locals of the decoders are not initialized.  What is decoded is a matter of the input alone
(`InputOnly`) exactly when the input is refused or has the fields that are read into them
(`decodes_from_input_iff`): the JSON decoders ignore that a field is absent, and the BSON decoders
count the fields, so that one that stands twice makes up for one that is absent.
-/

namespace LoadBalance

open LoadBalance.Field

/-- What is given is not a matter of what the locals held before the call. -/
def InputOnly {ι α : Type} (gives : ι → α → Prop) : Prop :=
  ∀ u u' r, gives u r → gives u' r

theorem exists_ne_of_ne {α : Type} {x y : α} (h : x ≠ y) (a : α) : ∃ b, b ≠ a := by
  by_cases hx : x = a
  · exact ⟨y, fun hy => h (hx.trans hy.symm)⟩
  · exact ⟨x, hx⟩

/-! ### JSON -/

/-- The object has all the numbers of `OnlineUsers`. -/
def HasOnlineUsers (o : JsonObject) : Prop :=
  ∀ k ∈ [onlineUsersDaemonField, onlineUsersHttpField, onlineUsersSubscribersField],
    (o.getUInt k).isSome = true

theorem onlineUsers_inputOnly_iff (o : JsonObject) :
    InputOnly (fun u r => OnlineUsers.deSerialize u o = r) ↔ HasOnlineUsers o := by
  unfold HasOnlineUsers
  simp only [List.forall_mem_cons, List.not_mem_nil, false_imp_iff, forall_const, and_true]
  constructor
  · intro h
    -- The calls that begin with zeros and with ones give the same.
    have hsame := (h ⟨0, 0, 0, 0⟩ ⟨1, 1, 1, 0⟩ _ rfl).symm
    unfold OnlineUsers.deSerialize at hsame
    rw [OnlineUsers.mk.injEq] at hsame
    have hget : ∀ x : Option UInt64, x.getD 0 = x.getD 1 → x.isSome = true := by
      intro x hx
      cases x with
      | none => exact absurd hx (by decide)
      | some _ => rfl
    exact ⟨hget _ hsame.1, hget _ hsame.2.1, hget _ hsame.2.2⟩
  · rintro ⟨hdaemon, hhttp, hsubscribers⟩ u u' r rfl
    obtain ⟨x, hx⟩ := Option.isSome_iff_exists.mp hdaemon
    obtain ⟨y, hy⟩ := Option.isSome_iff_exists.mp hhttp
    obtain ⟨z, hz⟩ := Option.isSome_iff_exists.mp hsubscribers
    unfold OnlineUsers.deSerialize
    rw [hx, hy, hz]
    rfl

section

variable {Machine OS : Type} [MachineInfos Machine OS]

variable (Machine OS) in
/-- The libraries take their parts of the object. -/
def ServiceAccepted (o : JsonObject) : Prop :=
  (MachineInfos.machineDoDeSerialize OS o : Option Machine).isSome = true ∧
    (FullServiceInfo.readOS Machine o : Option OS).isSome = true

/-- The object has the fields whose locals are not initialized: the expiration time, and the numbers
when there is an object for them. -/
structure HasServiceFields (o : JsonObject) : Prop where
  expTime : (o.getInt expirationTimeField).isSome = true
  onlineUsers : ∀ jonline, o.getObject onlineUsersField = some jonline → HasOnlineUsers jonline

/-- The users that are read with the info. -/
def readUsers (u : UninitInfo) (o : JsonObject) : OnlineUsers :=
  match o.getObject onlineUsersField with
  | some jonline => OnlineUsers.deSerialize u jonline
  | none => ⟨0, 0, 0⟩

theorem readUsers_inputOnly_iff (o : JsonObject) :
    InputOnly (fun u r => readUsers u o = r) ↔
      ∀ jonline, o.getObject onlineUsersField = some jonline → HasOnlineUsers jonline := by
  unfold readUsers
  cases o.getObject onlineUsersField with
  | none => exact iff_of_true (fun _ _ _ h => h) (by simp)
  | some jonline =>
    simp only [Option.some.injEq, forall_eq']
    exact onlineUsers_inputOnly_iff jonline

variable [HostTexts]

theorem fullServiceInfo_eq_some {o : JsonObject} {u : UninitInfo}
    {r : FullServiceInfo Machine OS} :
    FullServiceInfo.deSerialize u o = some r ↔
      ∃ machine os, MachineInfos.machineDoDeSerialize OS o = some machine ∧
        FullServiceInfo.readOS Machine o = some os ∧
        r = { machine := machine
              onlineUsers := readUsers u o
              httpHost := ((o.getString httpHostField).bind HostTexts.hostOf).getD
                HostTexts.hostAndPort
              expTime := (o.getInt expirationTimeField).getD u.expTime
              project := (o.getString projectField).getD (MachineInfos.projectName Machine OS)
              projVer := (o.getString versionField).getD (MachineInfos.projectVersion Machine OS)
              os := os } := by
  unfold FullServiceInfo.deSerialize ServerInfo.deSerialize
  cases (MachineInfos.machineDoDeSerialize OS o : Option Machine) with
  | none => simp
  | some machine =>
    cases (FullServiceInfo.readOS Machine o : Option OS) with
    | none => simp
    | some os =>
      constructor
      · intro h
        exact ⟨machine, os, rfl, rfl, (Option.some.inj h).symm⟩
      · rintro ⟨machine', os', hm, ho, rfl⟩
        obtain rfl := Option.some.inj hm
        obtain rfl := Option.some.inj ho
        rfl

theorem fullServiceInfo_inputOnly_iff (o : JsonObject) :
    InputOnly (fun u (r : FullServiceInfo Machine OS) =>
        FullServiceInfo.deSerialize u o = some r) ↔
      (ServiceAccepted Machine OS o → HasServiceFields o) := by
  simp only [fullServiceInfo_eq_some]
  constructor
  · rintro h ⟨hmachine, hos⟩
    obtain ⟨machine, hmachine⟩ := Option.isSome_iff_exists.mp hmachine
    obtain ⟨os, hos⟩ := Option.isSome_iff_exists.mp hos
    have hsame := fun u u' => h u u' _ ⟨machine, os, hmachine, hos, rfl⟩
    refine ⟨?_, (readUsers_inputOnly_iff o).mp ?_⟩
    · obtain ⟨_, _, _, _, heq⟩ := hsame ⟨0, 0, 0, 0⟩ ⟨0, 0, 0, 1⟩
      have hexp := congrArg FullServiceInfo.expTime heq
      cases hget : o.getInt expirationTimeField with
      | none =>
        rw [hget] at hexp
        have hzero : (0 : Int64) = 1 := hexp
        exact absurd hzero (by decide)
      | some _ => rfl
    · rintro u u' r rfl
      obtain ⟨_, _, _, _, heq⟩ := hsame u u'
      exact (congrArg (fun info => info.onlineUsers) heq).symm
  · rintro hneeded u u' r ⟨machine, os, hmachine, hos, rfl⟩
    obtain ⟨hexp, husers⟩ := hneeded ⟨by rw [hmachine]; rfl, by rw [hos]; rfl⟩
    obtain ⟨t, ht⟩ := Option.isSome_iff_exists.mp hexp
    refine ⟨machine, os, hmachine, hos, ?_⟩
    rw [(readUsers_inputOnly_iff o).mpr husers u' u _ rfl, ht]
    rfl

end

/-! ### BSON -/

section

variable {σ α : Type} {fs : List (Field σ)} {rows : List FieldRow} {d : Doc}

/-- An array that the branch hands a null pointer of on ends the walk. -/
theorem objectIds_of_scanDoc {k : String} (fd : Field σ) (hfd : fs.find? (·.key = k) = some fd)
    (hread : ∀ s a, oidTexts a = .abort → fd.read s (.array a) = .abort) {s : σ} {r : σ × ℕ}
    (hscan : scanDoc fs s d = .ok r) : ObjectIds d k := by
  intro a ha
  by_contra hnull
  obtain ⟨t, t', ht⟩ := scanField_of_mem hscan ha
  rw [scanField_of_nullArray fd hfd hread hnull] at ht
  cases ht

/-- The number of the fields that a decoder counts, one that stands twice being counted twice. -/
def countFields (rows : List FieldRow) (d : Doc) : ℕ :=
  (d.filter fun f => isCounted rows f.1).length

/-- The walk gets to the end of a document when every field is of its type, and then the count is
that of the fields. -/
theorem scanDoc_ok_iff {ids : Prop} (hrows : (rows.map FieldRow.key).Nodup)
    (hchecks : ids → List.Forall₂ (fun fd r => Field.Checks fd r d) fs rows) {s : σ}
    (hids : ∀ r, scanDoc fs s d = .ok r → ids) (n : ℕ) :
    (∃ t, scanDoc fs s d = .ok (t, n)) ↔ WellTyped rows d ∧ ids ∧ countFields rows d = n := by
  rw [wellTyped_iff hrows]
  constructor
  · rintro ⟨t, hscan⟩
    have hid := hids _ hscan
    rcases foldlM_of_checks (hchecks hid) (List.Subset.refl d) (s, 0) with
      ⟨htyped, t', ht'⟩ | ⟨-, herr⟩
    · have hcount := congrArg Prod.snd (Outcome.ok.inj (ht'.symm.trans hscan))
      rw [Nat.zero_add] at hcount
      exact ⟨htyped, hid, hcount⟩
    · cases herr.symm.trans hscan
  · rintro ⟨htyped, hid, rfl⟩
    rcases foldlM_of_checks (hchecks hid) (List.Subset.refl d) (s, 0) with
      ⟨-, t, ht⟩ | ⟨hno, -⟩
    · rw [Nat.zero_add] at ht
      exact ⟨t, ht⟩
    · exact absurd htyped hno

end

/-- The decoder takes the document: every field is of its type, the ids are ids, and the number of
the counted fields is the one that is asked for. -/
structure Taken (rows : List FieldRow) (ids : Prop) (total : ℕ) (d : Doc) : Prop where
  typed : WellTyped rows d
  ids : ids
  count : countFields rows d = total

section

variable {ι σ β : Type} {rows : List FieldRow} {d : Doc} {ids needed : Prop}
  {decode : ι → Outcome Unit β} {total : ℕ}

/-- A decoder that checks the count depends on the input only exactly when it does not take the
document, or no local keeps what it held before. -/
theorem decode_inputOnly_iff [Nonempty ι] (fs : List (Field σ)) (init : ι → σ) (info : σ → β)
    (hdecode : ∀ u, decode u = scanDoc fs (init u) d >>= fun r =>
      if r.2 = total then .ok (info r.1) else .error ())
    (hok : ∀ u n, (∃ t, scanDoc fs (init u) d = .ok (t, n)) ↔
      WellTyped rows d ∧ ids ∧ countFields rows d = n)
    (hsame : needed → ∀ u u', scanDoc fs (init u) d = scanDoc fs (init u') d)
    (hother : ¬needed → ∀ u t n, scanDoc fs (init u) d = .ok (t, n) →
      ∃ u' t', scanDoc fs (init u') d = .ok (t', n) ∧ info t' ≠ info t) :
    InputOnly (fun u r => decode u = .ok r) ↔ (Taken rows ids total d → needed) := by
  have hgives : ∀ u r, decode u = .ok r ↔
      ∃ t, scanDoc fs (init u) d = .ok (t, total) ∧ info t = r := by
    intro u r
    rw [hdecode, Outcome.bind_eq_ok]
    constructor
    · rintro ⟨⟨t, n⟩, hscan, hr⟩
      dsimp only at hr
      split_ifs at hr with hn
      exact ⟨t, hn ▸ hscan, Outcome.ok.inj hr⟩
    · rintro ⟨t, hscan, rfl⟩
      exact ⟨_, hscan, if_pos rfl⟩
  constructor
  · rintro h ⟨htyped, hids, hcount⟩
    by_contra hno
    obtain ⟨u⟩ := ‹Nonempty ι›
    obtain ⟨t, ht⟩ := (hok u total).mpr ⟨htyped, hids, hcount⟩
    obtain ⟨u', t', ht', hne⟩ := hother hno u t total ht
    obtain ⟨t'', ht'', hinfo⟩ := (hgives _ _).mp (h u u' _ ((hgives _ _).mpr ⟨t, ht, rfl⟩))
    obtain rfl := congrArg Prod.fst (Outcome.ok.inj (ht'.symm.trans ht''))
    exact hne hinfo
  · intro h u u' r hr
    obtain ⟨t, ht, hinfo⟩ := (hgives _ _).mp hr
    obtain ⟨htyped, hids, hcount⟩ := (hok u total).mp ⟨t, ht⟩
    refine (hgives _ _).mpr ⟨t, ?_, hinfo⟩
    rw [hsame (h ⟨htyped, hids, hcount⟩) u' u]
    exact ht

end

/-! ### The three decoders of documents -/

/-- Two components of the locals whose branches are those of the keys `k` and `k'`. -/
theorem scanDoc_write_pair {σ α β : Type} {fs : List (Field σ)} {d : Doc} {k k' : String}
    {w : α → σ → σ} {get : σ → α} {w' : β → σ → σ} {get' : σ → β} (h : WrittenBy fs k w get)
    (h' : WrittenBy fs k' w' get') (hno : ¬(k ∈ d.keys ∧ k' ∈ d.keys)) {s t : σ} {n : ℕ}
    (hscan : scanDoc fs s d = .ok (t, n)) {a : α} {b : β} (ha : a ≠ get t) (hb : b ≠ get' t) :
    ∃ t', scanDoc fs (w a (w' b s)) d = .ok (t', n) ∧ (get t' ≠ get t ∨ get' t' ≠ get' t) := by
  obtain ⟨t₁, ht₁, -, habsent'⟩ := h'.scanDoc_write hscan b
  obtain ⟨t₂, ht₂, hpresent, habsent⟩ := h.scanDoc_write ht₁ a
  refine ⟨t₂, ht₂, ?_⟩
  by_cases hk : k ∈ d.keys
  · have hk' : k' ∉ d.keys := fun hk' => hno ⟨hk, hk'⟩
    rw [hpresent hk, habsent' hk']
    exact Or.inr hb
  · rw [habsent hk]
    exact Or.inl ha

instance : Nonempty Uninit := ⟨⟨0, 0, 0, 0, 0⟩⟩

section

variable [Fastotv] {d : Doc}

theorem makeSerialInfo_inputOnly_iff (d : Doc) :
    InputOnly (fun u r => makeSerialInfo u d = .ok r) ↔
      (Taken serialRows (ObjectIds d serialEpisodesField) checkSumSerial d →
        serialSeasonField ∈ d.keys) := by
  refine decode_inputOnly_iff serialFields SerialScan.init
    (fun s => (serialInfo s, s.visible)) (fun u => ?_) (fun u n => ?_) (fun hk u u' => ?_)
    fun hk u t n hscan => ?_
  · unfold makeSerialInfo
    refine congrArg _ (funext fun s => ?_)
    exact ite_not _ _ _
  · refine scanDoc_ok_iff (by decide) checks_serialFields (fun r hr => ?_) n
    refine objectIds_of_scanDoc SerialField.episodes rfl (fun s a ha => ?_) hr
    show (oidTexts a >>= fun es => Outcome.ok _) = _
    rw [ha]
    rfl
  · exact writtenBy_season.scanDoc_of_mem hk u.season (SerialScan.init u')
  · obtain ⟨x, hx⟩ := exists_ne_of_ne (show (0 : UInt64) ≠ 1 by decide) t.season
    obtain ⟨t', ht', -, habsent⟩ := writtenBy_season.scanDoc_write hscan x
    refine ⟨{ u with season := x }, t', ht', fun hsame => hx ?_⟩
    rw [← habsent hk]
    exact congrArg (fun r => r.1.season) hsame

end

theorem makeContentRequestInfo_inputOnly_iff (d : Doc) :
    InputOnly (fun u r => makeContentRequestInfo u d = .ok r) ↔
      (Taken requestRows True checkSumRequest d →
        contentRequestTypeField ∈ d.keys ∧ contentRequestStatusField ∈ d.keys) := by
  refine decode_inputOnly_iff requestFields
    (fun u : Uninit => ⟨"", "", u.type, u.status⟩) requestInfo (fun u => ?_)
    (fun u n => scanDoc_ok_iff (by decide) (fun _ => checks_requestFields d) (fun _ _ => trivial) n)
    (fun hk u u' => ?_) fun hk u t n hscan => ?_
  · unfold makeContentRequestInfo
    refine congrArg _ (funext fun s => ?_)
    exact ite_not _ _ _
  · calc scanDoc requestFields ⟨"", "", u.type, u.status⟩ d
        = scanDoc requestFields ⟨"", "", u'.type, u.status⟩ d :=
          writtenBy_type.scanDoc_of_mem hk.1 u.type ⟨"", "", u'.type, u.status⟩
      _ = scanDoc requestFields ⟨"", "", u'.type, u'.status⟩ d :=
          writtenBy_status.scanDoc_of_mem hk.2 u.status ⟨"", "", u'.type, u'.status⟩
  · obtain ⟨x, hx⟩ := exists_ne_of_ne (show (0 : Int32) ≠ 1 by decide) t.type
    obtain ⟨y, hy⟩ := exists_ne_of_ne (show (0 : Int32) ≠ 1 by decide) t.status
    obtain ⟨t', ht', hne⟩ := scanDoc_write_pair writtenBy_type writtenBy_status hk hscan hx hy
    refine ⟨{ u with type := x, status := y }, t', ht', fun hsame => ?_⟩
    rcases hne with htype | hstatus
    · exact htype (congrArg ContentRequestInfo.type hsame)
    · exact hstatus (congrArg ContentRequestInfo.status hsame)

section

variable [Fastotv]

theorem makeCatchupInfo_inputOnly_iff (d : Doc) (st : StreamType) (uinfo : UserStreamInfo) :
    InputOnly (fun u r => makeCatchupInfo u d st uinfo = .ok r) ↔
      (Taken catchupRows (ObjectIds d streamPartsField) checkSumCatchup d →
        catchupStartField ∈ d.keys ∧ catchupStopField ∈ d.keys) := by
  refine decode_inputOnly_iff catchupFields StreamScan.init
    (fun s => (catchupDecoder.info s uinfo, s.visible)) (fun u => ?_) (fun u n => ?_)
    (fun hk u u' => ?_) fun hk u t n hscan => ?_
  · show decodeStream _ _ _ _ _ _ = _
    unfold decodeStream
    refine congrArg _ (funext fun s => ?_)
    simp only [decide_eq_true_eq]
    rfl
  · refine scanDoc_ok_iff (by decide) checks_catchupFields (fun r hr => ?_) n
    refine objectIds_of_scanDoc StreamField.parts rfl (fun s a ha => ?_) hr
    show (oidTexts a >>= fun ps => Outcome.ok _) = _
    rw [ha]
    rfl
  · calc scanDoc catchupFields (StreamScan.init u) d
        = scanDoc catchupFields { StreamScan.init u with start := u'.start } d :=
          writtenBy_start.scanDoc_of_mem hk.1 u.start
            { StreamScan.init u with start := u'.start }
      _ = scanDoc catchupFields (StreamScan.init u') d :=
          writtenBy_stop.scanDoc_of_mem hk.2 u.stop (StreamScan.init u')
  · obtain ⟨x, hx⟩ := exists_ne_of_ne (show (0 : Int64) ≠ 1 by decide) t.start
    obtain ⟨y, hy⟩ := exists_ne_of_ne (show (0 : Int64) ≠ 1 by decide) t.stop
    obtain ⟨t', ht', hne⟩ := scanDoc_write_pair writtenBy_start writtenBy_stop hk hscan hx hy
    refine ⟨{ u with start := x, stop := y }, t', ht', fun hsame => ?_⟩
    rcases hne with hstart | hstop
    · exact hstart (congrArg (fun r => r.1.start) hsame)
    · exact hstop (congrArg (fun r => r.1.stop) hsame)

end

/-! ### The five decoders -/

/-- What a decoder gives depends on the input only exactly when the input has the fields of the
locals that are not initialized, or is refused.  An object without them is not refused, and neither
is a document in which another counted field stands twice. -/
theorem decodes_from_input_iff [Fastotv] [HostTexts] {Machine OS : Type}
    [MachineInfos Machine OS] :
    (∀ o : JsonObject,
      InputOnly (fun u r => OnlineUsers.deSerialize u o = r) ↔ HasOnlineUsers o) ∧
    (∀ o : JsonObject,
      InputOnly (fun u (r : FullServiceInfo Machine OS) =>
          FullServiceInfo.deSerialize u o = some r) ↔
        (ServiceAccepted Machine OS o → HasServiceFields o)) ∧
    (∀ d : Doc,
      InputOnly (fun u r => makeSerialInfo u d = .ok r) ↔
        (Taken serialRows (ObjectIds d serialEpisodesField) checkSumSerial d →
          serialSeasonField ∈ d.keys)) ∧
    (∀ (d : Doc) st uinfo,
      InputOnly (fun u r => makeCatchupInfo u d st uinfo = .ok r) ↔
        (Taken catchupRows (ObjectIds d streamPartsField) checkSumCatchup d →
          catchupStartField ∈ d.keys ∧ catchupStopField ∈ d.keys)) ∧
    ∀ d : Doc,
      InputOnly (fun u r => makeContentRequestInfo u d = .ok r) ↔
        (Taken requestRows True checkSumRequest d →
          contentRequestTypeField ∈ d.keys ∧ contentRequestStatusField ∈ d.keys) :=
  ⟨onlineUsers_inputOnly_iff, fullServiceInfo_inputOnly_iff, makeSerialInfo_inputOnly_iff,
    makeCatchupInfo_inputOnly_iff, makeContentRequestInfo_inputOnly_iff⟩

/-! An empty object, and a series whose name stands twice and that has no season. -/

namespace Sample

def seasonlessSerial : Doc :=
  [(serialIdField, .oid (oid 2)), (serialGroupsField, .array []), (serialNameField, .utf8 "News"),
    (serialNameField, .utf8 "News"), (serialIconField, .utf8 "http://icon"),
    (serialDescriptionField, .utf8 "news")]

/-- The series with what the local of the season held. -/
def seasonlessInfo (season : UInt64) : SerialInfo :=
  ⟨(oid 2).text, "News", ⟨"http://icon", true⟩, [], "news", season, [], 0⟩

end Sample

open Sample in
/-- Both are taken, and the result has what the locals held. -/
theorem locals_left_over :
    (∀ u, OnlineUsers.deSerialize u [] = ⟨u.daemon, u.http, u.subscribers⟩) ∧
    (∀ u, makeSerialInfo u seasonlessSerial = .ok (seasonlessInfo u.season, false)) ∧
    ¬InputOnly (fun u r => OnlineUsers.deSerialize u [] = r) ∧
    ¬InputOnly (fun u r => makeSerialInfo u seasonlessSerial = .ok r) := by
  refine ⟨fun _ => rfl, fun _ => rfl, fun h => ?_, fun h => ?_⟩
  · have hsame : (⟨1, 0, 0⟩ : OnlineUsers) = ⟨0, 0, 0⟩ := h ⟨0, 0, 0, 0⟩ ⟨1, 0, 0, 0⟩ _ rfl
    exact absurd hsame (by decide)
  · have hsame : Outcome.ok (seasonlessInfo 1, false) = (.ok (seasonlessInfo 0, false) :
        Outcome Unit (SerialInfo × Bool)) := h ⟨0, 0, 0, 0, 0⟩ ⟨0, 0, 1, 0, 0⟩ _ rfl
    have hseason : (1 : UInt64) = 0 := congrArg (fun r => r.1.season) (Outcome.ok.inj hsame)
    exact absurd hseason (by decide)

end LoadBalance
