import LoadBalance.Mongo.Equiv.Catchup
import LoadBalance.Mongo.Equiv.Writes

/-!
# What points to a catchup

A catchup is linked when its id stands in the `parts` array of a stream, and attached to a server
when its id stands in the `streams` array there.  `createOrFindCatchup` is the only call that
links or attaches anything; all other calls leave the servers alone and link nothing new
(`LinksKept`).
-/

namespace LoadBalance

open LoadBalance.Action

/-- An array field of the document has an object id among its elements. -/
def StoredDoc.Holds (d : StoredDoc) (k : String) (x : Oid) : Prop :=
  ∃ a, (k, Bson.array a) ∈ d.fields ∧ Bson.oid x ∈ a

/-- Some stream has `x` among its parts. -/
def Linked (streams : Collection) (x : Oid) : Prop :=
  ∃ d ∈ streams.docs, d.Holds streamPartsField x

/-- The server with this id has `x` among its streams. -/
def AttachedTo (servers : Collection) (server x : Oid) : Prop :=
  ∃ d ∈ servers.docs, d.id = .oid server ∧ d.Holds serverStreamsField x

/-! ### One document -/

section

variable {d d' : StoredDoc} {k k' : String} {x y : Oid} {v : Bson}

/-- Setting another field does not matter. -/
theorem StoredDoc.Holds.of_set_ne (hfields : d'.fields = d.fields.set k v) (hk : k' ≠ k)
    (h : d'.Holds k' x) : d.Holds k' x := by
  obtain ⟨a, ha, hx⟩ := h
  rw [hfields] at ha
  rcases Doc.mem_of_mem_set ha with heq | ha
  · exact absurd (congrArg Prod.fst heq) hk
  · exact ⟨a, ha, hx⟩

/-- What is pushed to an array is the one thing that it holds more. -/
theorem StoredDoc.Holds.of_push (hpush : pushOp (.oid y) (d.fields.get? k) = some v)
    (hfields : d'.fields = d.fields.set k v) (h : d'.Holds k x) : d.Holds k x ∨ x = y := by
  obtain ⟨a, ha, hx⟩ := h
  rw [hfields] at ha
  rcases Doc.mem_of_mem_set ha with heq | ha
  · obtain rfl : Bson.array a = v := congrArg Prod.snd heq
    cases hget : d.fields.get? k with
    | none =>
      rw [hget] at hpush
      simp only [pushOp, Option.some.injEq, Bson.array.injEq] at hpush
      subst hpush
      simpa using Or.inr hx
    | some w =>
      rw [hget] at hpush
      cases w with
      | array b =>
        simp only [pushOp, Option.some.injEq, Bson.array.injEq] at hpush
        subst hpush
        rcases List.mem_append.mp hx with hx | hx
        · exact Or.inl ⟨b, Doc.mem_of_get? hget, hx⟩
        · exact Or.inr (by simpa using hx)
      | _ => cases hpush
  · exact Or.inl ⟨a, ha, hx⟩

theorem StoredDoc.Holds.push (hpush : pushOp (.oid y) (d.fields.get? k) = some v)
    (hfields : d'.fields = d.fields.set k v) (h : d.Holds k x) : d'.Holds k x := by
  obtain ⟨a, ha, hx⟩ := h
  rcases Doc.mem_set_of_mem (v := v) ha with ha | ⟨-, hget⟩
  · exact ⟨a, hfields ▸ ha, hx⟩
  · rw [hget] at hpush
    simp only [pushOp, Option.some.injEq] at hpush
    subst hpush
    exact ⟨a ++ [.oid y], hfields ▸ Doc.mem_set_self _ _ _, List.mem_append_left _ hx⟩

theorem StoredDoc.holds_push (hpush : pushOp (.oid y) (d.fields.get? k) = some v)
    (hfields : d'.fields = d.fields.set k v) : d'.Holds k y := by
  cases hget : d.fields.get? k with
  | none =>
    rw [hget] at hpush
    simp only [pushOp, Option.some.injEq] at hpush
    subst hpush
    exact ⟨[.oid y], hfields ▸ Doc.mem_set_self _ _ _, List.mem_singleton_self _⟩
  | some w =>
    rw [hget] at hpush
    cases w with
    | array b =>
      simp only [pushOp, Option.some.injEq] at hpush
      subst hpush
      exact ⟨b ++ [.oid y], hfields ▸ Doc.mem_set_self _ _ _, by simp⟩
    | _ => cases hpush

end

/-! ### One write -/

section

variable {c c' : Collection} {q : StoredDoc → Bool} {k : String} {hk : k ≠ idField}
  {g : Option Bson → Option Bson} {x y server : Oid}

theorem Linked.of_update (h : c.update q k hk g = some c') (hne : k ≠ streamPartsField)
    (hx : Linked c' x) : Linked c x := by
  obtain ⟨d', hd', hx⟩ := hx
  rcases Collection.mem_of_mem_update h hd' with hd | ⟨d, hd, v, -, hfields⟩
  · exact ⟨d', hd, hx⟩
  · exact ⟨d, hd, hx.of_set_ne hfields (Ne.symm hne)⟩

theorem Linked.of_link (h : c.update q streamPartsField parts_ne_id (pushOp (.oid y)) = some c')
    (hx : Linked c' x) : Linked c x ∨ x = y := by
  obtain ⟨d', hd', hx⟩ := hx
  rcases Collection.mem_of_mem_update h hd' with hd | ⟨d, hd, v, hv, hfields⟩
  · exact Or.inl ⟨d', hd, hx⟩
  · exact (hx.of_push hv hfields).imp_left fun hx => ⟨d, hd, hx⟩

/-- A new catchup has no parts. -/
theorem not_holds_newCatchupDoc [Fastotv] {env : Env} {endpoint : CatchupEndpointInfo}
    {basedOn : ChannelInfo} {title : String} {start stop : Timestamp}
    {outputUrls : List OutputUri} {id : Bson} :
    ¬StoredDoc.Holds ⟨id, newCatchupDoc env endpoint basedOn title start stop outputUrls,
      no_id_catchupDoc _ _ _ _ _ _ _⟩ streamPartsField x := by
  rintro ⟨a, ha, hx⟩
  have hget := Doc.get?_of_mem (d := newCatchupDoc env endpoint basedOn title start stop
    outputUrls) (by simp only [newCatchupDoc, catchupDoc, Doc.keys, List.map_cons, List.map_nil]
                    decide) ha
  have hparts : Doc.get? (newCatchupDoc env endpoint basedOn title start stop outputUrls)
      streamPartsField = some (.array []) := rfl
  rw [hparts, Option.some.injEq, Bson.array.injEq] at hget
  rw [← hget] at hx
  cases hx

theorem Linked.of_insert [Fastotv] {env : Env} {endpoint : CatchupEndpointInfo}
    {basedOn : ChannelInfo} {title : String} {start stop : Timestamp}
    {outputUrls : List OutputUri} {o : Oid}
    (h : c.insert o (newCatchupDoc env endpoint basedOn title start stop outputUrls)
      (no_id_catchupDoc _ _ _ _ _ _ _) = some c') (hx : Linked c' x) : Linked c x := by
  obtain ⟨d, hd, hx⟩ := hx
  rw [(Collection.insert_cases h).2.1, List.mem_append, List.mem_singleton] at hd
  rcases hd with hd | rfl
  · exact ⟨d, hd, hx⟩
  · exact absurd hx not_holds_newCatchupDoc

theorem AttachedTo.update
    (h : c.update q serverStreamsField serverStreams_ne_id (pushOp (.oid y)) = some c')
    (hx : AttachedTo c server x) : AttachedTo c' server x := by
  obtain ⟨d, hd, hid, hx⟩ := hx
  rcases Collection.mem_update_of_mem h hd with hd | ⟨d', hd', v, hv, hid', hfields⟩
  · exact ⟨d, hd, hid, hx⟩
  · exact ⟨d', hd', hid'.trans hid, hx.push hv hfields⟩

/-- A push to the document with an id puts the element there. -/
theorem holds_of_push {d : StoredDoc} (hd : c.findId? server = some d)
    (h : c.update (StoredDoc.hasId server) k hk (pushOp (.oid y)) = some c') :
    ∃ d', c'.findId? server = some d' ∧ d'.Holds k y := by
  have hquery : ∀ d : StoredDoc, d.hasId server = true → d.id = .oid server :=
    fun d hd => StoredDoc.hasId_iff.mp hd
  rcases Collection.update_cases hquery h with ⟨hno, -⟩ | ⟨d, d', v, -, -, hv, -, hfields, hd', -⟩
  · have hid := StoredDoc.hasId_iff.mpr (Collection.id_of_findId? hd)
    rw [hno d hd] at hid
    cases hid
  · exact ⟨d', hd', StoredDoc.holds_push hv hfields⟩

end

/-! ### Writes that link nothing -/

/-- Nothing new is linked, and the servers are the same. -/
structure LinksKept (db db' : Database) : Prop where
  linked : ∀ x, Linked db'.streams x → Linked db.streams x
  servers : db'.servers = db.servers

instance : IsPreorder Database LinksKept where
  refl _ := ⟨fun _ => id, rfl⟩
  trans _ _ _ h h' := ⟨fun x => h.linked x ∘ h'.linked x, h'.servers.trans h.servers⟩

theorem LinksKept.of_wrote {u : Option Oid} {db db' : Database} (h : Wrote u db db') :
    LinksKept db db' := by
  cases h with
  | incViews h => exact ⟨fun x => Linked.of_update h (by decide), rfl⟩
  | activate | setEntry | pullCatchup | insertRequest | pushRequest => exact ⟨fun _ => id, rfl⟩

theorem LinksKept.of_writes {U : Option Oid → Prop} {db db' : Database} (h : Writes U db db') :
    LinksKept db db' :=
  h.rel fun _ _ _ _ => LinksKept.of_wrote

end LoadBalance
