import Statora.Domain
import Statora.Library.StoreProgram

/-!
# The subscriber service

Double opt-in for the mail list: a subscription is pending until its verification
token comes back, and is ended with an unsubscribe token. A request looks one
subscriber up and then inserts or replaces the whole document.
-/

namespace Statora.Subscribers
open Library (Prog Fallible Collection)

/-- A call also draws 32 random bytes at each place that generates a token. -/
structure TokenRuntime extends Runtime where
  random : ℕ → Vector UInt8 32

def newSubscriberToken (buf : Vector UInt8 32) : String :=
  String.ofList <| buf.toList.flatMap fun byte => (hexDigits 2 byte.toNat).map hexChar

def verificationTokenTTL : ℤ := 48 * hour

def unverifiedRetention : ℤ := 48 * hour

/-- `pii.Normalize`, where `lower` stands for `unicode.ToLower`. -/
def normalize (lower : Char → Char) (value : String) : String :=
  String.ofList ((trimSpace value).toList.map lower)

/-- A stored field equals the text of a query; a field that is absent does not. -/
def hasField (field text : String) : Bool := field ≠ "" && field = text

def findByEmail (email : String) (db : Database) : Option Subscriber :=
  db.subscribers.findOne fun sub => sub.email = email

def findByVerificationToken (token : String) (db : Database) : Option Subscriber :=
  db.subscribers.findOne fun sub => hasField sub.verificationToken token

def findByUnsubscribeToken (token : String) (db : Database) : Option Subscriber :=
  db.subscribers.findOne fun sub => hasField sub.unsubscribeToken token

def findByID (id : ObjectID) (db : Database) : Option Subscriber := db.subscribers.findByKey id

def insertSubscriber (sub : Subscriber) (db : Database) : Database :=
  { db with subscribers := db.subscribers.insertOne sub }

theorem insertSubscriber_of_contains {sub : Subscriber} {db : Database}
    (h : db.subscribers.contains sub.id = true) : insertSubscriber sub db = db := by
  unfold insertSubscriber
  rw [Collection.insertOne_of_contains h]

def withID (sub : Subscriber) (id : ObjectID) : Subscriber := { sub with id := id }

theorem withID_id (sub stored : Subscriber) : (withID sub stored.id).id = stored.id := rfl

/-- `ReplaceOne` with the document's own `_id`; without a match it does nothing. -/
def replaceSubscriber (sub : Subscriber) (db : Database) : Database :=
  { db with
    subscribers := db.subscribers.updateByKey sub.id (fun stored => withID sub stored.id)
      (withID_id sub) }

def insert (sub : Subscriber) : Fallible Database ServiceError Unit :=
  Fallible.execIf .store .store (fun db => !db.subscribers.contains sub.id) (insertSubscriber sub)

def update (sub : Subscriber) : Fallible Database ServiceError Unit :=
  Fallible.exec .store (replaceSubscriber sub)

def listVerified (db : Database) : List Subscriber :=
  db.subscribers.find fun sub => sub.verified && !sub.unsubscribed

def pruned (createdBefore : ℤ) (db : Database) : Database :=
  { db with
    subscribers := db.subscribers.deleteMany fun sub =>
      !sub.verified && sub.createdAt < createdBefore }

def newSubscriberWithTokens (email : String) (rt : TokenRuntime) : Subscriber where
  id := rt.newID 0
  email := email
  verified := false
  verificationToken := newSubscriberToken (rt.random 0)
  verificationTokenExpiresAt := some (rt.clock 0 + 48 * hour)
  unsubscribeToken := newSubscriberToken (rt.random 1)
  createdAt := rt.clock 0

def refreshed (sub : Subscriber) (rt : TokenRuntime) : Subscriber :=
  { sub with
    verificationToken := newSubscriberToken (rt.random 0)
    verificationTokenExpiresAt := some (rt.clock 0 + verificationTokenTTL) }

def reactivated (sub : Subscriber) (rt : TokenRuntime) : Subscriber :=
  { refreshed sub rt with
    verified := false
    verifiedAt := none
    unsubscribed := false
    unsubscribedAt := none }

def verifiedAtTime (sub : Subscriber) (now : ℤ) : Subscriber :=
  { sub with
    verified := true
    verifiedAt := some now
    verificationToken := ""
    verificationTokenExpiresAt := none }

def unsubscribedAtTime (sub : Subscriber) (now : ℤ) : Subscriber :=
  { sub with unsubscribed := true, unsubscribedAt := some now }

def expired (sub : Subscriber) (now : ℤ) : Bool :=
  sub.verificationTokenExpiresAt.any fun expiresAt => now > expiresAt

def errAlreadySubscribed : ServiceError := .conflict "email already subscribed"

def errUnknownVerificationToken : ServiceError := .notFound "unknown verification token"

def errTokenExpired : ServiceError := .invalidInput "verification token expired"

def errUnknownUnsubscribeToken : ServiceError := .notFound "unknown unsubscribe token"

def errSubscriberNotFound : ServiceError := .notFound "subscriber not found"

def errAlreadyVerified : ServiceError := .conflict "subscriber already verified"

section Services
variable (lower : Char → Char)

def subscribe (email : String) (rt : TokenRuntime) :
    Fallible Database ServiceError Subscriber := do
  let email := normalize lower email
  let existing ← Fallible.query .store (findByEmail email)
  match existing with
  | none => do
    let sub := newSubscriberWithTokens email rt
    insert sub
    return sub
  | some existing =>
    if existing.verified && !existing.unsubscribed then Fallible.throw errAlreadySubscribed
    else do
      let sub := if !existing.verified then refreshed existing rt else reactivated existing rt
      update sub
      return sub

end Services

def verify (token : String) (rt : TokenRuntime) : Fallible Database ServiceError Subscriber := do
  let sub ← Fallible.find .store errUnknownVerificationToken (findByVerificationToken token)
  if expired sub (rt.clock 0) then Fallible.throw errTokenExpired
  else do
    let sub := verifiedAtTime sub (rt.clock 1)
    update sub
    return sub

def unsubscribe (token : String) (rt : TokenRuntime) :
    Fallible Database ServiceError Subscriber := do
  let sub ← Fallible.find .store errUnknownUnsubscribeToken (findByUnsubscribeToken token)
  let sub := unsubscribedAtTime sub (rt.clock 0)
  update sub
  return sub

def resendVerification (id : ObjectID) (rt : TokenRuntime) :
    Fallible Database ServiceError Subscriber := do
  let sub ← Fallible.find .store errSubscriberNotFound (findByID id)
  if sub.verified && !sub.unsubscribed then Fallible.throw errAlreadyVerified
  else do
    let sub := { refreshed sub rt with verified := false }
    update sub
    return sub

def deleteByID (id : ObjectID) : Fallible Database ServiceError Unit :=
  Fallible.execIf .store errSubscriberNotFound (fun db => db.subscribers.contains id)
    fun db => { db with subscribers := db.subscribers.deleteByKey id }

def pruneUnverified (olderThan now : ℤ) : Fallible Database ServiceError Unit :=
  Fallible.exec .store (pruned (now - olderThan))

inductive Request
  | subscribe (email : String) (rt : TokenRuntime)
  | verify (token : String) (rt : TokenRuntime)
  | unsubscribe (token : String) (rt : TokenRuntime)
  | resendVerification (id : ObjectID) (rt : TokenRuntime)

inductive Write
  | insert (sub : Subscriber)
  | replace (sub : Subscriber)

def Write.sub : Write → Subscriber
  | .insert sub | .replace sub => sub

def Write.apply : Write → Database → Database
  | .insert sub => insertSubscriber sub
  | .replace sub => replaceSubscriber sub

def Write.accepted : Write → Database → Bool
  | .insert sub, db => !db.subscribers.contains sub.id
  | .replace _, _ => true

section Plans
variable (lower : Char → Char)

def Request.program : Request → Fallible Database ServiceError Subscriber
  | .subscribe email rt => Subscribers.subscribe lower email rt
  | .verify token rt => Subscribers.verify token rt
  | .unsubscribe token rt => Subscribers.unsubscribe token rt
  | .resendVerification id rt => Subscribers.resendVerification id rt

def Request.lookup : Request → Database → Option Subscriber
  | .subscribe email _ => findByEmail (normalize lower email)
  | .verify token _ => findByVerificationToken token
  | .unsubscribe token _ => findByUnsubscribeToken token
  | .resendVerification id _ => findByID id

/-- What a request goes on to do with the subscriber that it has found. -/
def Request.plan : Request → Option Subscriber → Except ServiceError Write
  | .subscribe email rt, none => .ok (.insert (newSubscriberWithTokens (normalize lower email) rt))
  | .subscribe _ rt, some sub =>
    if sub.verified && !sub.unsubscribed then .error errAlreadySubscribed
    else .ok (.replace (if !sub.verified then refreshed sub rt else reactivated sub rt))
  | .verify _ _, none => .error errUnknownVerificationToken
  | .verify _ rt, some sub =>
    if expired sub (rt.clock 0) then .error errTokenExpired
    else .ok (.replace (verifiedAtTime sub (rt.clock 1)))
  | .unsubscribe _ _, none => .error errUnknownUnsubscribeToken
  | .unsubscribe _ rt, some sub => .ok (.replace (unsubscribedAtTime sub (rt.clock 0)))
  | .resendVerification _ _, none => .error errSubscriberNotFound
  | .resendVerification _ rt, some sub =>
    if sub.verified && !sub.unsubscribed then .error errAlreadyVerified
    else .ok (.replace { refreshed sub rt with verified := false })

def Write.program (write : Write) : Fallible Database ServiceError Subscriber :=
  match write with
  | .insert sub => do
    Subscribers.insert sub
    return sub
  | .replace sub => do
    Subscribers.update sub
    return sub

def planned (plan : Except ServiceError Write) : Fallible Database ServiceError Subscriber :=
  match plan with
  | .error e => Fallible.throw e
  | .ok write => write.program

theorem Request.program_eq (request : Request) :
    request.program lower = .op id fun seen => seen.elim (Fallible.throw .store) fun db =>
      planned (request.plan lower (request.lookup lower db)) := by
  cases request with
  | subscribe email rt =>
    unfold Request.program Subscribers.subscribe
    dsimp only
    rw [Fallible.query_bind]
    congr 1
    funext seen
    cases seen with
    | none => rfl
    | some db =>
      dsimp only [Option.elim, Request.lookup]
      cases findByEmail (normalize lower email) db with
      | none => rfl
      | some existing =>
        unfold Request.plan
        dsimp only
        split_ifs <;> rfl
  | verify token rt =>
    unfold Request.program Subscribers.verify
    dsimp only
    rw [Fallible.find_bind]
    congr 1
    funext seen
    cases seen with
    | none => rfl
    | some db =>
      dsimp only [Option.elim, Request.lookup]
      cases findByVerificationToken token db with
      | none => rfl
      | some sub =>
        unfold Request.plan
        dsimp only
        split_ifs <;> rfl
  | unsubscribe token rt =>
    unfold Request.program Subscribers.unsubscribe
    dsimp only
    rw [Fallible.find_bind]
    congr 1
    funext seen
    cases seen with
    | none => rfl
    | some db =>
      dsimp only [Option.elim, Request.lookup]
      cases findByUnsubscribeToken token db <;> rfl
  | resendVerification id rt =>
    unfold Request.program Subscribers.resendVerification
    dsimp only
    rw [Fallible.find_bind]
    congr 1
    funext seen
    cases seen with
    | none => rfl
    | some db =>
      dsimp only [Option.elim, Request.lookup]
      cases findByID id db with
      | none => rfl
      | some sub =>
        unfold Request.plan
        dsimp only
        split_ifs <;> rfl

theorem insert_write_eq (sub : Subscriber) :
    (fun db => if (!db.subscribers.contains sub.id) = true then insertSubscriber sub db else db) =
      insertSubscriber sub := by
  funext db
  cases hstored : db.subscribers.contains sub.id with
  | true => exact (insertSubscriber_of_contains hstored).symm
  | false => rfl

def Write.answer (write : Write) (found : Option Database) : Except ServiceError Subscriber :=
  match found with
  | none => .error .store
  | some db => if write.accepted db then .ok write.sub else .error .store

theorem Write.program_eq (write : Write) :
    write.program = Prog.op write.apply fun found => .ret (write.answer found) := by
  cases write with
  | insert sub =>
    unfold Write.program Subscribers.insert
    dsimp only
    rw [Fallible.execIf_bind, insert_write_eq]
    congr 1
    funext found
    cases found with
    | none => rfl
    | some db =>
      have hreturns : ∀ accepted : Bool,
          (if accepted = true then pure sub else Fallible.throw .store :
            Fallible Database ServiceError Subscriber) =
          Prog.ret (if accepted = true then .ok sub else .error .store) := fun accepted => by
        cases accepted <;> rfl
      exact hreturns _
  | replace sub =>
    unfold Write.program Subscribers.update
    dsimp only
    rw [Fallible.exec_bind]
    congr 1
    funext found
    cases found <;> rfl

theorem Write.run_program (write : Write) (db : Database) :
    write.program.run db =
      (if write.accepted db then .ok write.sub else .error .store, write.apply db) := by
  rw [Write.program_eq]
  rfl

theorem Request.run_program (request : Request) (db : Database) :
    (request.program lower).run db =
      match request.plan lower (request.lookup lower db) with
      | .error e => (.error e, db)
      | .ok write =>
        (if write.accepted db then .ok write.sub else .error .store, write.apply db) := by
  rw [Request.program_eq]
  change (planned (request.plan lower (request.lookup lower db))).run db = _
  cases request.plan lower (request.lookup lower db) with
  | error e => rfl
  | ok write => exact write.run_program db

end Plans
end Statora.Subscribers
