import LoadBalance.Library.Handles
import LoadBalance.Mongo.Database

/-!
# The connection to the database

`MongoEngine::Connect` of `mongo/mongo_engine.cpp`, and `ConnectToDatabase` and `Disconnect` of
`mongo/subscribers_manager.cpp`: which handles of the driver are created, kept and destroyed.  What
the driver answers is an argument.  It gets no null pointer for a client: to hand it one is the end
of the process.
-/

namespace LoadBalance

open LoadBalance.Action

def subscribersCollection := "subscribers"
def serversCollection := "services"
def streamsCollection := "streams"
def seriesCollection := "series"
def requestsCollection := "requests"

/-- What the driver answers to one attempt to connect. -/
structure DriverAnswers where
  /-- `mongoc_uri_new`. -/
  uri : Bool
  /-- `mongoc_client_new_from_uri`. -/
  client : Bool
  /-- `mongoc_client_get_server_status`. -/
  serverStatus : Bool
  /-- `mongoc_client_get_collection`. -/
  collection : String → Bool

/-- `MongoEngine::Connect`. -/
def MongoEngine.connect (answers : DriverAnswers) (url : String) (lazy : Bool) :
    Action Heap Error (Option ℕ) := do
  if url = "" then fail .inval
  else match ← Heap.create answers.uri with
    | none => fail (.message "Invalid uri")
    | some uri =>
      let cl ← Heap.create answers.client
      Heap.destroy uri
      if lazy then pure cl
      else
        let client ← value cl
        if answers.serverStatus then pure (some client)
        else
          Heap.destroy client
          fail .driver

/-- The handles that the manager keeps. -/
structure DatabaseHandles where
  client : Option ℕ
  subscribers : Option ℕ
  servers : Option ℕ
  streams : Option ℕ
  series : Option ℕ
  requests : Option ℕ
deriving DecidableEq, Repr

/-- Those of the manager, and all that are there. -/
structure DatabaseConnection extends DatabaseHandles where
  heap : Heap

/-- A call of the driver. -/
def driver {α : Type} (x : Action Heap Error α) : Action DatabaseConnection Error α :=
  zoom DatabaseConnection.heap (fun c heap => { c with heap := heap }) x

/-- A collection of the database.  Without it what was created before is destroyed, as far as it is
in the list. -/
def getCollection (answers : DriverAnswers) (name : String) (created : List ℕ) :
    Action Heap Error ℕ := do
  match ← Heap.create (answers.collection name) with
  | some collection => pure collection
  | none =>
    Heap.destroyAll created
    fail (.message ("Can't find " ++ name ++ " collection."))

/-- `ConnectToDatabase` up to where the handles are kept.  The two collections that come last are
looked for with the one of the streams left out of what is destroyed. -/
def openDatabase (answers : DriverAnswers) (url dbName : String) (lazy : Bool) :
    Action Heap Error DatabaseHandles := do
  if dbName = "" then fail .inval
  else
    let cl ← MongoEngine.connect answers url lazy
    let client ← value cl
    let scollection ← getCollection answers subscribersCollection [client]
    let sercollection ← getCollection answers serversCollection [scollection, client]
    let stcollection ← getCollection answers streamsCollection
      [sercollection, scollection, client]
    let series ← getCollection answers seriesCollection [sercollection, scollection, client]
    let requests ← getCollection answers requestsCollection
      [sercollection, scollection, series, client]
    pure
      { client := some client
        subscribers := some scollection
        servers := some sercollection
        streams := some stcollection
        series := some series
        requests := some requests }

def connectToDatabase (answers : DriverAnswers) (url dbName : String) (lazy : Bool) :
    Action DatabaseConnection Error Unit := do
  let handles ← driver (openDatabase answers url dbName lazy)
  modify fun c => { c with toDatabaseHandles := handles }

/-- A handle that is kept is destroyed, and forgotten. -/
def destroyKept (handle : DatabaseHandles → Option ℕ)
    (forget : DatabaseHandles → DatabaseHandles) : Action DatabaseConnection Error Unit := do
  match ← reads fun c => .ok (handle c.toDatabaseHandles) with
  | some h =>
    driver (Heap.destroy h)
    modify fun c => { c with toDatabaseHandles := forget c.toDatabaseHandles }
  | none => pure ()

def disconnect : Action DatabaseConnection Error Unit := do
  destroyKept DatabaseHandles.servers fun c => { c with servers := none }
  destroyKept DatabaseHandles.streams fun c => { c with streams := none }
  destroyKept DatabaseHandles.subscribers fun c => { c with subscribers := none }
  destroyKept DatabaseHandles.series fun c => { c with series := none }
  destroyKept DatabaseHandles.requests fun c => { c with requests := none }
  destroyKept DatabaseHandles.client fun c => { c with client := none }

inductive ConnectionEvent where
  | connect (answers : DriverAnswers) (url dbName : String) (lazy : Bool)
  | disconnect

def ConnectionEvent.action : ConnectionEvent → Action DatabaseConnection Error Unit
  | .connect answers url dbName lazy => connectToDatabase answers url dbName lazy
  | .disconnect => LoadBalance.disconnect

/-- After an event, nothing when the process is gone. -/
def connectionStep (c : Option DatabaseConnection) (e : ConnectionEvent) :
    Option DatabaseConnection := do
  let c ← c
  match (e.action).run c with
  | (.abort, _) => none
  | (_, c') => some c'

/-- `SubscribersManager()`. -/
def DatabaseConnection.initial : DatabaseConnection where
  client := none
  subscribers := none
  servers := none
  streams := none
  series := none
  requests := none
  heap := Heap.empty

end LoadBalance
