import LoadBalance.Mongo.Catchup
import LoadBalance.Mongo.Login

/-!
# Texts of object ids

`convertFromString` is what stands between the ids that clients send and the queries of the manager.
Its callers take a refusal for "this is no object id", but it refuses nothing but the empty text;
everything else is read as 24 digits, wherever they come from.  It does what its callers expect of
it exactly on the empty text and on the texts of object ids (`object_ids_iff`).
-/

namespace LoadBalance

open LoadBalance.Action

/-! ### Texts of object ids -/

def hexDigits : List Char := "0123456789abcdefABCDEF".toList

/-- Exactly 24 hexadecimal digits, of either case. -/
def IsObjectId (s : String) : Prop := s.toList.length = 24 ∧ ∀ c ∈ s.toList, c ∈ hexDigits

/-- The characters of the text are gone through, not all that there are. -/
instance (s : String) : Decidable (IsObjectId s) :=
  @instDecidableAnd _ _ inferInstance (List.decidableBAll _ _)

theorem hexDigit_hexValue {c : Char} (hc : c ∈ hexDigits) : hexDigit (hexValue c) = c.toLower := by
  have hdigits : hexDigits = ['0', '1', '2', '3', '4', '5', '6', '7', '8', '9', 'a', 'b', 'c',
      'd', 'e', 'f', 'A', 'B', 'C', 'D', 'E', 'F'] := String.toList_ofList
  have hall : (hexDigits.all fun c => hexDigit (hexValue c) = c.toLower) = true := by
    rw [hdigits]
    decide
  exact of_decide_eq_true (List.all_eq_true.mp hall c hc)

theorem utf8Size_of_mem_hexDigits {c : Char} (hc : c ∈ hexDigits) : c.utf8Size = 1 := by
  have hdigits : hexDigits = ['0', '1', '2', '3', '4', '5', '6', '7', '8', '9', 'a', 'b', 'c',
      'd', 'e', 'f', 'A', 'B', 'C', 'D', 'E', 'F'] := String.toList_ofList
  have hall : (hexDigits.all fun c => c.utf8Size = 1) = true := by
    rw [hdigits]
    decide
  exact of_decide_eq_true (List.all_eq_true.mp hall c hc)

/-- What stands behind a text of 24 bytes is not looked at. -/
theorem parse_beyond {s : String} (h : (utf8Bytes s).length = 24) (b b' : ℕ → UInt8) :
    Oid.parse b s = Oid.parse b' s := by
  unfold Oid.parse
  congr 2
  funext i
  have hi : i.val < (utf8Bytes s ++ [0]).length := by
    have hlt := i.isLt
    rw [List.length_append, List.length_singleton]
    omega
  unfold byteAt
  rw [List.getD_eq_getElem _ _ hi, List.getD_eq_getElem _ _ hi]

theorem IsObjectId.length_utf8Bytes {s : String} (h : IsObjectId s) :
    (utf8Bytes s).length = 24 := by
  rw [length_utf8Bytes_of_ascii fun c hc => utf8Size_of_mem_hexDigits (h.2 c hc)]
  exact h.1

/-- The text of an object id is given back in lower case. -/
theorem text_parse {s : String} (h : IsObjectId s) (b : ℕ → UInt8) :
    (Oid.parse b s).text = s.toLower := by
  obtain ⟨hlength, hdigits⟩ := h
  apply String.toList_inj.mp
  have hlower : s.toLower.toList = s.toList.map Char.toLower := String.toList_map
  rw [hlower]
  unfold Oid.text Oid.parse
  rw [String.toList_ofList]
  apply List.ext_getElem
  · simp [hlength]
  · intro i h1 h2
    have hi : i < s.toList.length := by simpa using h2
    rw [List.getElem_map, List.getElem_map, List.getElem_ofFn,
      byteAt_of_ascii (fun c hc => utf8Size_of_mem_hexDigits (hdigits c hc)) b hi]
    exact hexDigit_hexValue (hdigits _ (List.getElem_mem hi))

/-- The text is taken if and only if it is the text of an object id, nothing behind its end is
looked at, and what it is taken for has this text, in lower case. -/
structure ConvertsExactly (s : String) : Prop where
  accepts : ∀ b, (convertFromString b s).isSome = true ↔ IsObjectId s
  within : ∀ b b', convertFromString b s = convertFromString b' s
  text : ∀ b o, convertFromString b s = some o → o.text = s.toLower

theorem convertFromString_of_ne {s : String} (h : s ≠ "") (b : ℕ → UInt8) :
    convertFromString b s = some (Oid.parse b s) := by
  unfold convertFromString
  rw [if_neg h]

theorem convertsExactly_iff (s : String) : ConvertsExactly s ↔ s = "" ∨ IsObjectId s := by
  constructor
  · intro h
    by_cases hs : s = ""
    · exact Or.inl hs
    · refine Or.inr ((h.accepts fun _ => 0).mp ?_)
      rw [convertFromString_of_ne hs]
      rfl
  · rintro (rfl | hid)
    · have hno : ¬IsObjectId "" := by decide
      exact ⟨fun b => iff_of_false (by simp [convertFromString]) hno, fun b b' => rfl, nofun⟩
    · have hne : s ≠ "" := by
        rintro rfl
        exact absurd hid.1 (by decide)
      refine ⟨fun b => iff_of_true ?_ hid, fun b b' => ?_, fun b o ho => ?_⟩
      · rw [convertFromString_of_ne hne]
        rfl
      · rw [convertFromString_of_ne hne, convertFromString_of_ne hne,
          parse_beyond hid.length_utf8Bytes b b']
      · rw [convertFromString_of_ne hne, Option.some.injEq] at ho
        rw [← ho, text_parse hid]

/-! ### The callers -/

section

variable [Fastotv]

/-- The stream that a setter is called for is there, with a class. -/
def StreamKnown (env : Env) (channel : StreamId) (db : Database) : Prop :=
  ∃ o sdoc st, convertFromString env.beyond channel = some o ∧
    db.streams.findId? o = some sdoc ∧ streamType? sdoc.toDoc = some st

/-- A call that gets as far as this text ends with its error for an invalid id, and changes
nothing. -/
structure RefusesId (s : String) : Prop where
  setFavorite : ∀ env auth db info, info.channel = s → Fastotv.favoriteValid info = true →
    (setFavorite env auth info).run db = (.error (.message "Invalid stream id"), db)
  setFavorite_user : ∀ env auth db info, auth.uid = s → Fastotv.favoriteValid info = true →
    StreamKnown env info.channel db →
    (LoadBalance.setFavorite env auth info).run db = (.error (.message "Invalid user id"), db)
  setRecent : ∀ env auth db info, info.channel = s → Fastotv.recentValid info = true →
    (setRecent env auth info).run db = (.error (.message "Invalid stream id"), db)
  setRecent_user : ∀ env auth db info, auth.uid = s → Fastotv.recentValid info = true →
    StreamKnown env info.channel db →
    (LoadBalance.setRecent env auth info).run db = (.error (.message "Invalid user id"), db)
  setInterruptTime : ∀ env auth db info, info.channel = s → Fastotv.interruptValid info = true →
    (setInterruptTime env auth info).run db = (.error (.message "Invalid stream id"), db)
  setInterruptTime_user : ∀ env auth db info, auth.uid = s → Fastotv.interruptValid info = true →
    StreamKnown env info.channel db →
    (LoadBalance.setInterruptTime env auth info).run db =
      (.error (.message "Invalid user id"), db)
  findStream : ∀ env db auth, auth.isValid = true → s ≠ Fastotv.invalidStreamId →
    (convertFromString env.beyond auth.uid).isSome = true →
    findStream env db auth s = .error (.message "Invalid stream id")
  findStream_user : ∀ env db auth sid, auth.uid = s → auth.isValid = true →
    sid ≠ Fastotv.invalidStreamId →
    LoadBalance.findStream env db auth sid = .error (.message "Invalid user id")
  addUserCatchup : ∀ env auth db, auth.isValid = true → s ≠ Fastotv.invalidStreamId →
    (convertFromString env.beyond auth.uid).isSome = true →
    (addUserCatchup env auth s).run db = (.error (.message "Invalid stream id"), db)
  addUserCatchup_user : ∀ env auth db sid, auth.uid = s → auth.isValid = true →
    sid ≠ Fastotv.invalidStreamId →
    (LoadBalance.addUserCatchup env auth sid).run db = (.error (.message "Invalid user id"), db)
  removeUserCatchup : ∀ env auth db, auth.isValid = true → s ≠ Fastotv.invalidStreamId →
    (convertFromString env.beyond auth.uid).isSome = true →
    (removeUserCatchup env auth s).run db = (.error (.message "Invalid stream id"), db)
  removeUserCatchup_user : ∀ env auth db sid, auth.uid = s → auth.isValid = true →
    sid ≠ Fastotv.invalidStreamId →
    (LoadBalance.removeUserCatchup env auth sid).run db =
      (.error (.message "Invalid user id"), db)
  clientLogin : ∀ env password dev state, s ≠ "" → password ≠ "" → dev ≠ "" →
    (clientLoginByUid env s password dev).run state =
      (.error (.message "Invalid user id"), state)

section

variable {env : Env} {auth : ServerDBAuthInfo} {db : Database} {s : String}

omit [Fastotv] in
theorem run_setUserStreamField_of_stream (h : convertFromString env.beyond s = none) (field : String)
    (v : Bson) : (setUserStreamField env auth s field v).run db =
      (.error (.message "Invalid stream id"), db) := by
  unfold setUserStreamField
  rw [run_bind, h, run_orFail_none]

omit [Fastotv] in
theorem run_setUserStreamField_of_user {channel : StreamId}
    (h : convertFromString env.beyond auth.uid = none) (hknown : StreamKnown env channel db)
    (field : String) (v : Bson) : (setUserStreamField env auth channel field v).run db =
      (.error (.message "Invalid user id"), db) := by
  obtain ⟨o, sdoc, st, ho, hsdoc, hst⟩ := hknown
  have hfind : (mongoFind .streams (StoredDoc.hasId o)).run db = (.ok (some sdoc), db) := by
    rw [run_mongoFind]
    exact congrArg (fun x => (Outcome.ok x, db)) hsdoc
  unfold setUserStreamField
  rw [ho, run_bind_of_ok (run_orFail_some _ _ _), run_bind_of_ok hfind,
    run_bind_of_ok (run_orFail_some _ _ _), hst, run_bind_of_ok (run_orFail_some _ _ _), h,
    run_bind, run_orFail_none]

/-- An error on the way to the entry is the error of the setter. -/
theorem run_setFavorite_of_error {info : FavoriteInfo} {err : Error}
    (hvalid : Fastotv.favoriteValid info = true)
    (h : ∀ field v, (setUserStreamField env auth info.channel field v).run db = (.error err, db)) :
    (setFavorite env auth info).run db = (.error err, db) := by
  unfold setFavorite
  rw [hvalid, Bool.not_true, if_neg Bool.false_ne_true, run_bind, h]

theorem run_setRecent_of_error {info : RecentStreamTimeInfo} {err : Error}
    (hvalid : Fastotv.recentValid info = true)
    (h : ∀ field v, (setUserStreamField env auth info.channel field v).run db = (.error err, db)) :
    (setRecent env auth info).run db = (.error err, db) := by
  unfold setRecent
  rw [hvalid, Bool.not_true, if_neg Bool.false_ne_true, run_bind, h]

theorem run_setInterruptTime_of_error {info : InterruptStreamTimeInfo} {err : Error}
    (hvalid : Fastotv.interruptValid info = true)
    (h : ∀ field v, (setUserStreamField env auth info.channel field v).run db = (.error err, db)) :
    (setInterruptTime env auth info).run db = (.error err, db) := by
  unfold setInterruptTime
  rw [hvalid, Bool.not_true, if_neg Bool.false_ne_true, run_bind, h]

theorem run_withUserAndStream_of_stream {f : Oid → Oid → Action Database Error Unit}
    (h : convertFromString env.beyond s = none) (hauth : auth.isValid = true)
    (hs : s ≠ Fastotv.invalidStreamId)
    (huser : (convertFromString env.beyond auth.uid).isSome = true) :
    (withUserAndStream env auth s f).run db = (.error (.message "Invalid stream id"), db) := by
  obtain ⟨o, ho⟩ := Option.isSome_iff_exists.mp huser
  unfold withUserAndStream
  rw [hauth, ho, h]
  simp only [Bool.not_true, Bool.false_or, decide_eq_true_eq, if_neg hs]
  rfl

theorem run_withUserAndStream_of_user {f : Oid → Oid → Action Database Error Unit} {sid : StreamId}
    (h : convertFromString env.beyond auth.uid = none) (hauth : auth.isValid = true)
    (hs : sid ≠ Fastotv.invalidStreamId) :
    (withUserAndStream env auth sid f).run db = (.error (.message "Invalid user id"), db) := by
  unfold withUserAndStream
  rw [hauth, h]
  simp only [Bool.not_true, Bool.false_or, decide_eq_true_eq, if_neg hs]
  rfl

theorem findStream_of_stream (h : convertFromString env.beyond s = none)
    (hauth : auth.isValid = true) (hs : s ≠ Fastotv.invalidStreamId)
    (huser : (convertFromString env.beyond auth.uid).isSome = true) :
    findStream env db auth s = .error (.message "Invalid stream id") := by
  obtain ⟨o, ho⟩ := Option.isSome_iff_exists.mp huser
  unfold findStream findInfo findUserStream
  rw [hauth, ho, h]
  simp only [Bool.not_true, Bool.false_or, decide_eq_true_eq, if_neg hs]
  rfl

theorem findStream_of_user {sid : StreamId} (h : convertFromString env.beyond auth.uid = none)
    (hauth : auth.isValid = true) (hs : sid ≠ Fastotv.invalidStreamId) :
    findStream env db auth sid = .error (.message "Invalid user id") := by
  unfold findStream findInfo findUserStream
  rw [hauth, h]
  simp only [Bool.not_true, Bool.false_or, decide_eq_true_eq, if_neg hs]
  rfl

omit [Fastotv] in
theorem run_clientLoginByUid_of_user {password : String} {dev : DeviceId} {state : State}
    (h : convertFromString env.beyond s = none) (hs : s ≠ "") (hpassword : password ≠ "")
    (hdev : dev ≠ "") : (clientLoginByUid env s password dev).run state =
      (.error (.message "Invalid user id"), state) := by
  unfold clientLoginByUid
  rw [h]
  simp only [hs, hpassword, hdev, decide_false, Bool.or_false, Bool.false_eq_true, if_false]
  rfl

end

/-- The callers rely on the refusal. -/
theorem refusesId_of_none {s : String} (h : ∀ b, convertFromString b s = none) : RefusesId s where
  setFavorite env auth db info hs hvalid := by
    subst hs
    exact run_setFavorite_of_error hvalid (run_setUserStreamField_of_stream (h _))
  setFavorite_user env auth db info hs hvalid hknown := by
    subst hs
    exact run_setFavorite_of_error hvalid (run_setUserStreamField_of_user (h _) hknown)
  setRecent env auth db info hs hvalid := by
    subst hs
    exact run_setRecent_of_error hvalid (run_setUserStreamField_of_stream (h _))
  setRecent_user env auth db info hs hvalid hknown := by
    subst hs
    exact run_setRecent_of_error hvalid (run_setUserStreamField_of_user (h _) hknown)
  setInterruptTime env auth db info hs hvalid := by
    subst hs
    exact run_setInterruptTime_of_error hvalid (run_setUserStreamField_of_stream (h _))
  setInterruptTime_user env auth db info hs hvalid hknown := by
    subst hs
    exact run_setInterruptTime_of_error hvalid (run_setUserStreamField_of_user (h _) hknown)
  findStream env db auth := findStream_of_stream (h _)
  findStream_user env db auth sid hs := findStream_of_user (hs ▸ h _)
  addUserCatchup env auth db := run_withUserAndStream_of_stream (h _)
  addUserCatchup_user env auth db sid hs := run_withUserAndStream_of_user (hs ▸ h _)
  removeUserCatchup env auth db := run_withUserAndStream_of_stream (h _)
  removeUserCatchup_user env auth db sid hs := run_withUserAndStream_of_user (hs ▸ h _)
  clientLogin env password dev state := run_clientLoginByUid_of_user (h _)

/-- The text of an object id is converted back to it.  A text is converted as the callers expect,
and refused by them when it is not the text of an object id, if and only if it is one or is
empty. -/
theorem object_ids_iff :
    (∀ b (o : Oid), convertFromString b o.text = some o) ∧
    ∀ s, (ConvertsExactly s ∧ (¬IsObjectId s → RefusesId s)) ↔ (s = "" ∨ IsObjectId s) := by
  refine ⟨fun b o => convertFromString_text b o, fun s => ⟨fun h => ?_, fun h => ?_⟩⟩
  · exact (convertsExactly_iff s).mp h.1
  · refine ⟨(convertsExactly_iff s).mpr h, fun hno => ?_⟩
    obtain rfl := h.resolve_right hno
    exact refusesId_of_none fun b => rfl

end

/-- A text of two digits is taken for an object id, which one depends on what stands behind the NUL
at its end: zeros, or sevens. -/
theorem short_text_converted :
    ¬IsObjectId "12" ∧
      (convertFromString (fun _ => 0x30) "12").map Oid.text = some "120000000000000000000000" ∧
      (convertFromString (fun _ => 0x37) "12").map Oid.text = some "120777777777777777777777" := by
  decide

end LoadBalance
