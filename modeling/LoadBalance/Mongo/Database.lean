import LoadBalance.Mongo.Mongo2Info

/-!
# The database, and what a request meets

The five collections of the balancer, and the surroundings of one request: the clock, the writes
that go through, the object id generated next and so on.  Reads always succeed.  A write that does
not go through, or that the server refuses, changes nothing.

The manager is looked at from a successful `ConnectToDatabase` on, so its guards against
collections that are not there are left out.
-/

namespace LoadBalance

/-- `common::Error`, of a call that did not succeed. -/
inductive Error where
  /-- `make_error_inval()`. -/
  | inval
  /-- `make_error(text)`. -/
  | message (text : String)
  /-- `make_error(error.message)`, with a text of the database driver. -/
  | driver
  /-- The error of a write to a socket. -/
  | socket
deriving DecidableEq, Repr

/-- The login of a connection: what the subscriber gave, the expiry date of its account and the
text of its document's id. -/
structure ServerDBAuthInfo extends ServerAuthInfo where
  uid : UserId
deriving DecidableEq, Repr

def ServerDBAuthInfo.isValid [Fastotv] (info : ServerDBAuthInfo) : Bool :=
  info.uid ≠ "" && Fastotv.serverAuthValid info.toServerAuthInfo

/-- The places where a request writes to the database; no request passes one of them twice. -/
inductive Write where
  | activateDevice
  | setEntry
  | incViews
  | pushEntry
  | pullEntry
  | insertStream
  | linkPart
  | attachServer
  | insertRequest
  | pushRequest
deriving DecidableEq, Repr

/-- What `BCON_NEW` takes a text for that stands where a value is expected. -/
inductive BconToken where
  | utf8 (text : String)
  | docStart
  | docEnd
  | arrayStart
  | arrayEnd
deriving DecidableEq, Repr

/-- A brace or a bracket at the start of a text is structure, whatever comes behind it. -/
def bconTokenize (text : String) : BconToken := match (cstr text).toList with
  | '{' :: _ => .docStart
  | '}' :: _ => .docEnd
  | '[' :: _ => .arrayStart
  | ']' :: _ => .arrayEnd
  | _ => .utf8 (cstr text)

/-- The surroundings of one request. -/
structure Env where
  /-- `current_utc_mstime`. -/
  now : Timestamp
  /-- The object id that `bson_oid_init` generates. -/
  fresh : Oid
  /-- The write goes through. -/
  write : Write → Bool
  /-- What stands in memory behind the end of a text, see `byteAt`. -/
  beyond : ℕ → UInt8
  /-- Whether the library ends the process at a document or an array that is never closed. -/
  assertsUnclosed : BconToken → Bool
  /-- See `Uninit`. -/
  uninit : Uninit
  /-- `is_directory_exist`. -/
  isDirectoryExist : Directory → Bool

/-- `BCON_NEW` ends the process at the text: it closes what was not opened, or opens what is never
closed, where the library asserts on that. -/
def Env.bconAborts (env : Env) (text : String) : Bool := match bconTokenize text with
  | .utf8 _ => false
  | .docEnd | .arrayEnd => true
  | token => env.assertsUnclosed token

/-- The collections the balancer works on. -/
structure Database where
  subscribers : Collection
  servers : Collection
  streams : Collection
  series : Collection
  requests : Collection

/-- The collections it writes to. -/
inductive CollectionName where
  | subscribers
  | servers
  | streams
  | requests
deriving DecidableEq, Repr

namespace Database

def get (db : Database) : CollectionName → Collection
  | .subscribers => db.subscribers
  | .servers => db.servers
  | .streams => db.streams
  | .requests => db.requests

def set (db : Database) (n : CollectionName) (c : Collection) : Database :=
  match n with
  | .subscribers => { db with subscribers := c }
  | .servers => { db with servers := c }
  | .streams => { db with streams := c }
  | .requests => { db with requests := c }

@[simp] theorem get_set_self (db : Database) (n : CollectionName) (c : Collection) :
    (db.set n c).get n = c := by cases n <;> rfl

@[simp] theorem set_subscribers (db : Database) (c : Collection) :
    db.set .subscribers c = { db with subscribers := c } := rfl
@[simp] theorem set_servers (db : Database) (c : Collection) :
    db.set .servers c = { db with servers := c } := rfl
@[simp] theorem set_streams (db : Database) (c : Collection) :
    db.set .streams c = { db with streams := c } := rfl
@[simp] theorem set_requests (db : Database) (c : Collection) :
    db.set .requests c = { db with requests := c } := rfl
@[simp] theorem get_subscribers (db : Database) : db.get .subscribers = db.subscribers := rfl
@[simp] theorem get_servers (db : Database) : db.get .servers = db.servers := rfl
@[simp] theorem get_streams (db : Database) : db.get .streams = db.streams := rfl
@[simp] theorem get_requests (db : Database) : db.get .requests = db.requests := rfl

end Database

/-! ### Calls of the driver -/

open LoadBalance.Action

/-- A write with its result: nothing changes when it does not go through or is refused. -/
def writeBack (goesThrough : Bool) (n : CollectionName) (f : Collection → Option Collection) :
    Action Database Error Unit := fun db =>
  match if goesThrough then f (db.get n) else none with
  | some c => (.ok (), db.set n c)
  | none => (.error .driver, db)

/-- `mongoc_collection_update`: the first document that satisfies the query. -/
def mongoUpdate (env : Env) (w : Write) (n : CollectionName) (q : StoredDoc → Bool) (k : String)
    (hk : k ≠ idField) (g : Option Bson → Option Bson) : Action Database Error Unit :=
  writeBack (env.write w) n fun c => c.update q k hk g

/-- `mongoc_collection_insert`. -/
def mongoInsert (env : Env) (w : Write) (n : CollectionName) (o : Oid) (fields : Doc)
    (h : idField ∉ fields.keys) : Action Database Error Unit :=
  writeBack (env.write w) n fun c => c.insert o fields h

/-- `mongoc_collection_find` by a query, and the first document of its cursor. -/
def mongoFind (n : CollectionName) (q : StoredDoc → Bool) :
    Action Database Error (Option StoredDoc) :=
  reads fun db => .ok ((db.get n).find? q)

section calls

variable {goesThrough : Bool} {n : CollectionName} {f : Collection → Option Collection}
  {db db' : Database} {o : Outcome Error Unit}

/-- A write either succeeds with the new collection or changes nothing. -/
theorem writeBack_cases (h : (writeBack goesThrough n f).run db = (o, db')) :
    (goesThrough = true ∧ ∃ c, f (db.get n) = some c ∧ o = .ok () ∧ db' = db.set n c) ∨
      ((goesThrough = false ∨ f (db.get n) = none) ∧ o = .error .driver ∧ db' = db) := by
  cases goesThrough with
  | false =>
    have h' : (Outcome.error Error.driver, db) = (o, db') := h
    simp only [Prod.mk.injEq] at h'
    exact Or.inr ⟨Or.inl rfl, h'.1.symm, h'.2.symm⟩
  | true =>
    simp only [Action.run, writeBack, ite_true] at h
    cases hf : f (db.get n) with
    | none =>
      simp only [hf, Prod.mk.injEq] at h
      exact Or.inr ⟨Or.inr rfl, h.1.symm, h.2.symm⟩
    | some c =>
      simp only [hf, Prod.mk.injEq] at h
      exact Or.inl ⟨rfl, c, rfl, h.1.symm, h.2.symm⟩

theorem writeBack_ok (hg : goesThrough = true) {c : Collection} (hf : f (db.get n) = some c) :
    (writeBack goesThrough n f).run db = (.ok (), db.set n c) := by
  simp [Action.run, writeBack, hg, hf]

/-- What the write does when it goes through, and is not refused, is all it can do. -/
theorem rel_writeBack {R : Database → Database → Prop} [IsPreorder Database R]
    (h : goesThrough = true → ∀ c, f (db.get n) = some c → R db (db.set n c)) :
    R db ((writeBack goesThrough n f).run db).2 := by
  rcases hrun : (writeBack goesThrough n f).run db with ⟨o, db'⟩
  rcases writeBack_cases hrun with ⟨hgoes, c, hc, -, rfl⟩ | ⟨-, -, rfl⟩
  · exact h hgoes c hc
  · exact refl_of R _

theorem alwaysReturns_writeBack : AlwaysReturns (writeBack goesThrough n f) := by
  intro db
  rcases hrun : (writeBack goesThrough n f).run db with ⟨o, db'⟩
  rcases writeBack_cases hrun with ⟨-, c, -, rfl, -⟩ | ⟨-, rfl, -⟩
  · exact trivial
  · exact trivial

@[simp] theorem run_mongoFind (q : StoredDoc → Bool) (db : Database) :
    (mongoFind n q).run db = (.ok ((db.get n).find? q), db) := rfl

end calls

end LoadBalance
