import Statora.Auth.InvitationRequests
import Statora.Auth.SecondFactor

/-!
# Invitations under concurrent requests

An activation finds an invitation that is neither accepted nor revoked, makes the
account and marks the invitation, each with an operation of its own. A revocation may
come between them, and each of them may fail.
-/

namespace Statora.Auth
open Library (Prog Fallible Collection Thread Pool Act Observation AllStates AllSteps run
  OnOperations)

abbrev InvitationPool := Pool InvitationRequest Database

section Protocol
variable (c : Primitives) (cfg : Config) (i : ObjectID)

def invitationStep : InvitationPool → Act InvitationRequest → InvitationPool :=
  Pool.step (InvitationRequest.program c cfg)

def addsAccount (upd : Database → Database) (db : Database) : Bool :=
  db.users.docs.length < (upd db).users.docs.length

def CreatedAccount (t : Thread InvitationRequest Database) : Prop :=
  Opens c i t ∧ ∃ op ∈ t.performed (InvitationRequest.program c cfg), addsAccount op.1 op.2 = true

structure InvitationProtocol (pool : InvitationPool) : Prop where
  exclusive : ¬ (isAccepted i pool.store = true ∧ isRevoked i pool.store = true)
  unrevoked : ∀ t ∈ pool.threads, Opens c i t →
    ∀ op ∈ t.performed (InvitationRequest.program c cfg), addsAccount op.1 op.2 = true →
      isRevoked i op.2 = false
  accepted : pool.Returned (InvitationRequest.program c cfg) →
    ((∃ t ∈ pool.threads, CreatedAccount c cfg i t) ↔ isAccepted i pool.store = true)

/-- An account is created only while the invitation it is for is not revoked, and the
write that accepts the invitation succeeds, and only while it is not revoked. -/
def WritesWhilePending (pool : InvitationPool) (t : Thread InvitationRequest Database)
    (upd : Database → Database) (succeeds : Bool) : Prop :=
  (Opens c i t → addsAccount upd pool.store = true → succeeds = true →
    isRevoked i pool.store = false) ∧
  (isAccepted i pool.store = false → isAccepted i (upd pool.store) = true →
    succeeds = true ∧ isRevoked i pool.store = false)

instance (pool : InvitationPool) (t : Thread InvitationRequest Database)
    (upd : Database → Database) (succeeds : Bool) :
    Decidable (WritesWhilePending c i pool t upd succeeds) :=
  inferInstanceAs (Decidable ((_ → _ → _ → _) ∧ (_ → _ → _)))

instance (pool : InvitationPool) (act : Act InvitationRequest) :
    Decidable (OnOperations (InvitationRequest.program c cfg) (WritesWhilePending c i) pool act) :=
  OnOperations.decidable (WritesWhilePending c i) pool act

end Protocol

/-- A request that has found the invitation has its account still to create, has only
the invitation left to accept, or has done both. -/
inductive Stage (c : Primitives) (cfg : Config) (i : ObjectID) (emailHash : String)
    (t : Thread InvitationRequest Database) : Prop
  | fresh (hseen : t.seen = [])
  | idle (hseen : t.seen ≠ []) (hopens : ¬ Opens c i t)
      (hrest : (t.rest (InvitationRequest.program c cfg)).Performs (Harmless i))
  | pending (hopens : Opens c i t) (hnone : ¬ CreatedAccount c cfg i t)
      (hrest : Activates i emailHash (t.rest (InvitationRequest.program c cfg)))
  | created (hcreated : CreatedAccount c cfg i t)
      (hrest : Accepts i (t.rest (InvitationRequest.program c cfg)))
  | ended (hcreated : CreatedAccount c cfg i t)
      (hrest : ∃ a, t.rest (InvitationRequest.program c cfg) = .ret a)

inductive Move (c : Primitives) (cfg : Config) (i : ObjectID) (emailHash : String)
    (db : Database) (succeeds : Bool) (t t' : Thread InvitationRequest Database)
    (upd : Database → Database) : Prop
  | quiet (hupd : Harmless i upd) (hnone : ¬ CreatedAccount c cfg i t')
      (hstage : Stage c cfg i emailHash t')
  | creates (user : User) (hhash : user.emailHash = emailHash)
      (hupd : upd = fun db =>
        if UserRepository.accepts user db then UserRepository.insertUser user db else db)
      (hopens : Opens c i t) (hsucceeds : succeeds = true)
      (haccepts : UserRepository.accepts user db = true) (hcreated : CreatedAccount c cfg i t')
      (hrest : Accepts i (t'.rest (InvitationRequest.program c cfg)))
  | accepts (now : ℤ) (hupd : upd = acceptInvitation i now)
      (hcreated : CreatedAccount c cfg i t) (hcreated' : CreatedAccount c cfg i t')
      (hrest : ∃ a, t'.rest (InvitationRequest.program c cfg) = .ret a)

section Steps
variable {c : Primitives} {cfg : Config} {i : ObjectID} {emailHash : String}
  {pool : InvitationPool} {k : ℕ} {t : Thread InvitationRequest Database}
  {upd : Database → Database}
  {next : Option Database → Prog Database (Except InvitationError InvitationReply)}

theorem Opens.seen_ne_nil (h : Opens c i t) : t.seen ≠ [] := by
  obtain ⟨invitation, hopened, -⟩ := h
  intro hseen
  simp [opened, hseen] at hopened

theorem InvitationRequest.findByKey_of_lookup {request : InvitationRequest} {db : Database}
    {invitation : UserInvitation} (h : request.lookup c db = some invitation) :
    db.userInvitations.findByKey invitation.id = some invitation := by
  cases request with
  | activate req entropy rt => exact Collection.findByKey_of_mem (List.mem_of_find?_eq_some h)
  | refresh rawID origin random rt | revoke rawID rt => cases h

theorem opens_observe (hseen : t.seen ≠ []) (o : Observation Database) :
    Opens c i (t.observe o) ↔ Opens c i t := by
  simp only [Opens, opened, Thread.observe, List.head?_append_of_ne_nil _ hseen]

theorem opens_observe_fresh (hseen : t.seen = []) (o : Observation Database) :
    Opens c i (t.observe o) ↔
      ∃ invitation ∈ o.found.bind (t.call.lookup c), invitation.id = i := by
  simp only [Opens, opened, Thread.observe, hseen]
  rfl

theorem createdAccount_observe (hrest : t.rest (InvitationRequest.program c cfg) = .op upd next)
    (hseen : t.seen ≠ []) (o : Observation Database) :
    CreatedAccount c cfg i (t.observe o) ↔
      CreatedAccount c cfg i t ∨ Opens c i t ∧ ∃ db ∈ o.found, addsAccount upd db = true := by
  rw [CreatedAccount, CreatedAccount, opens_observe hseen, Thread.performed_observe hrest,
    ← and_or_left]
  refine and_congr_right fun _ => ?_
  cases o.found <;> simp [or_and_right, exists_or]

theorem addsAccount_id (db : Database) : addsAccount id db = false := by
  simp [addsAccount]

theorem docs_insertUser {user : User} {db : Database}
    (h : UserRepository.accepts user db = true) :
    (UserRepository.insertUser user db).users.docs = db.users.docs ++ [user] := by
  rw [UserRepository.accepts, Bool.and_eq_true, Bool.not_eq_true'] at h
  exact Collection.insertOne_docs_of_fresh h.1

theorem addsAccount_insertUser {user : User} {db : Database} :
    addsAccount (fun db =>
      if UserRepository.accepts user db then UserRepository.insertUser user db else db) db =
        UserRepository.accepts user db := by
  cases haccepts : UserRepository.accepts user db with
  | false => simp [addsAccount, haccepts]
  | true => simp [addsAccount, haccepts, docs_insertUser haccepts]

theorem not_createdAccount_fresh (hseen : t.seen = [])
    (hrest : t.rest (InvitationRequest.program c cfg) = .op id next) (o : Observation Database) :
    ¬ CreatedAccount c cfg i (t.observe o) := by
  intro hcreated
  obtain ⟨-, op, hop, hadds⟩ := hcreated
  rcases (Thread.mem_performed_observe hrest).mp hop with hop | ⟨db, -, rfl⟩
  · rw [Thread.performed_of_fresh hseen] at hop
    cases hop
  · cases (addsAccount_id db).symm.trans hadds

theorem move_fresh {db : Database} {succeeds : Bool} {o : Observation Database}
    (ho : o.found = if succeeds then some db else none) (hseen : t.seen = [])
    (hhash : ∀ invitation ∈ db.userInvitations.findByKey i,
      accountHash c cfg invitation.email = emailHash)
    (hrest : t.rest (InvitationRequest.program c cfg) = .op upd next) :
    Move c cfg i emailHash db succeeds t (t.observe o) upd := by
  have hseen' : (t.observe o).seen ≠ [] := by simp [Thread.observe]
  have hnext := Thread.rest_observe hrest o
  have hprogram := (Thread.rest_of_fresh hseen).symm.trans hrest
  rcases InvitationRequest.program_cases c cfg t.call with ⟨hall, hlookup⟩ | ⟨a, ha⟩ |
    ⟨next', hfirst, hfound⟩
  · rw [hprogram] at hall
    have hopens : ¬ Opens c i (t.observe o) := by
      rw [opens_observe_fresh hseen]
      intro hopens
      obtain ⟨invitation, hinvitation, -⟩ := hopens
      obtain ⟨db, -, hdb⟩ := Option.bind_eq_some_iff.mp hinvitation
      cases (hlookup db).symm.trans hdb
    exact .quiet hall.1 (fun hcreated => hopens hcreated.1)
      (.idle hseen' hopens (hnext ▸ hall.2 o.found))
  · cases ha.symm.trans hprogram
  · obtain ⟨rfl, rfl⟩ := Prog.op.inj (hfirst.symm.trans hprogram)
    have hnone := not_createdAccount_fresh (i := i) hseen hrest o
    refine .quiet harmless_id hnone ?_
    have hopens := opens_observe_fresh (c := c) (i := i) hseen o
    have hafter := hfound o.found
    rw [← hnext] at hafter
    cases hlookup : o.found.bind (t.call.lookup c) with
    | none =>
      rw [hlookup] at hafter
      obtain ⟨a, ha⟩ := hafter
      refine .idle hseen' ?_ (by rw [ha]; trivial)
      rw [hopens, hlookup]
      simp
    | some invitation =>
      rw [hlookup] at hafter
      by_cases hid : invitation.id = i
      · have hsame : accountHash c cfg invitation.email = emailHash := by
          obtain ⟨db', hdb, hfinds⟩ := Option.bind_eq_some_iff.mp hlookup
          rw [ho] at hdb
          split_ifs at hdb
          cases hdb
          exact hhash invitation (hid ▸ InvitationRequest.findByKey_of_lookup hfinds)
        rw [← hsame]
        exact .pending (hopens.mpr ⟨invitation, hlookup, hid⟩) hnone (hid ▸ hafter)
      · refine .idle hseen' ?_ (hafter.performs (Ne.symm hid))
        rw [hopens, hlookup]
        simpa using hid

theorem move_pending {db : Database} {succeeds : Bool} {o : Observation Database}
    (ho : o.found = if succeeds then some db else none) (hopens : Opens c i t)
    (hnone : ¬ CreatedAccount c cfg i t)
    (hactivates : Activates i emailHash (t.rest (InvitationRequest.program c cfg)))
    (hrest : t.rest (InvitationRequest.program c cfg) = .op upd next) :
    Move c cfg i emailHash db succeeds t (t.observe o) upd := by
  have hopens' : Opens c i (t.observe o) := (opens_observe hopens.seen_ne_nil o).mpr hopens
  have hnext := Thread.rest_observe hrest o
  have hcreates := createdAccount_observe (i := i) hrest hopens.seen_ne_nil o
  rw [hrest] at hactivates
  cases hactivates with
  | read _ hread =>
    have hnone' : ¬ CreatedAccount c cfg i (t.observe o) := by
      intro hcreated
      rcases hcreates.mp hcreated with hcreated | ⟨-, db', -, hadds⟩
      · exact hnone hcreated
      · cases (addsAccount_id db').symm.trans hadds
    exact .quiet harmless_id hnone' (.pending hopens' hnone' (hnext ▸ hread o.found))
  | create user _ huser hrefused hcreated =>
    cases hguard : o.found.any (UserRepository.accepts user) with
    | false =>
      have hnone' : ¬ CreatedAccount c cfg i (t.observe o) := by
        intro hcreated'
        rcases hcreates.mp hcreated' with hcreated' | ⟨-, db', hdb, hadds⟩
        · exact hnone hcreated'
        · have hany := (Option.any_eq_true _ _).mpr
            ⟨db', hdb, addsAccount_insertUser.symm.trans hadds⟩
          cases hguard.symm.trans hany
      obtain ⟨a, ha⟩ := hrefused o.found hguard
      refine .quiet ((harmless_insertUser user).guarded _) hnone' (.pending hopens' hnone' ?_)
      rw [hnext, ha]
      exact .ret a
    | true =>
      obtain ⟨db', hdb, haccepts⟩ := (Option.any_eq_true _ _).mp hguard
      have hfound : succeeds = true ∧ db = db' := by
        rw [ho] at hdb
        split_ifs at hdb with hsucceeds
        exact ⟨hsucceeds, Option.some.inj hdb⟩
      obtain ⟨hsucceeds, rfl⟩ := hfound
      refine .creates user huser rfl hopens hsucceeds haccepts ?_ ?_
      · exact hcreates.mpr (Or.inr ⟨hopens, db, hdb, addsAccount_insertUser.trans haccepts⟩)
      · rw [hnext, hdb]
        exact hcreated db haccepts

theorem Stage.move (hstage : Stage c cfg i emailHash t) {db : Database} {succeeds : Bool}
    {o : Observation Database} (ho : o.found = if succeeds then some db else none)
    (hhash : ∀ invitation ∈ db.userInvitations.findByKey i,
      accountHash c cfg invitation.email = emailHash)
    (hrest : t.rest (InvitationRequest.program c cfg) = .op upd next) :
    Move c cfg i emailHash db succeeds t (t.observe o) upd := by
  have hnext := Thread.rest_observe hrest o
  cases hstage with
  | fresh hseen => exact move_fresh ho hseen hhash hrest
  | idle hseen hopens hperforms =>
    rw [hrest] at hperforms
    rw [← opens_observe hseen o] at hopens
    have hseen' : (t.observe o).seen ≠ [] := by simp [Thread.observe]
    exact .quiet hperforms.1 (fun hcreated => hopens hcreated.1)
      (.idle hseen' hopens (hnext ▸ hperforms.2 o.found))
  | pending hopens hnone hactivates => exact move_pending ho hopens hnone hactivates hrest
  | created hcreated haccepts =>
    obtain ⟨now, next', haccept, hlast⟩ := haccepts
    obtain ⟨rfl, rfl⟩ := Prog.op.inj (haccept.symm.trans hrest)
    refine .accepts now rfl hcreated ?_ (hnext ▸ hlast o.found)
    exact (createdAccount_observe hrest hcreated.1.seen_ne_nil o).mpr (Or.inl hcreated)
  | ended hcreated hended =>
    obtain ⟨a, ha⟩ := hended
    cases ha.symm.trans hrest

def CreatedAt (c : Primitives) (cfg : Config) (i : ObjectID) (pool : InvitationPool) (j : ℕ) :
    Prop :=
  ∃ t, pool.threads[j]? = some t ∧ CreatedAccount c cfg i t

theorem exists_createdAt : (∃ j, CreatedAt c cfg i pool j) ↔
    ∃ t ∈ pool.threads, CreatedAccount c cfg i t := by
  constructor
  · intro hcreatedAt
    obtain ⟨j, t, hj, hcreated⟩ := hcreatedAt
    exact ⟨t, List.mem_of_getElem? hj, hcreated⟩
  · intro hcreatedAt
    obtain ⟨t, hmem, hcreated⟩ := hcreatedAt
    obtain ⟨j, hj⟩ := List.mem_iff_getElem?.mp hmem
    exact ⟨j, t, hj, hcreated⟩

/-- The invariant: the account is created once, under an email that is then taken, and
what remains is to accept the invitation. -/
structure Kept (c : Primitives) (cfg : Config) (i : ObjectID) (email : String)
    (pool : InvitationPool) : Prop where
  stored : (pool.store.userInvitations.findByKey i).map (·.email) = some email
  stage : ∀ t ∈ pool.threads, Stage c cfg i (accountHash c cfg email) t
  exclusive : ¬ (isAccepted i pool.store = true ∧ isRevoked i pool.store = true)
  unrevoked : ∀ t ∈ pool.threads, Opens c i t →
    ∀ op ∈ t.performed (InvitationRequest.program c cfg), addsAccount op.1 op.2 = true →
      isRevoked i op.2 = false
  created : isAccepted i pool.store = true → ∃ j, CreatedAt c cfg i pool j
  accepted : ∀ t ∈ pool.threads, CreatedAccount c cfg i t →
    (isAccepted i pool.store = true ↔ ∃ a, t.rest (InvitationRequest.program c cfg) = .ret a)
  taken : ∀ j, CreatedAt c cfg i pool j →
    ∃ user ∈ pool.store.users.docs, user.emailHash = accountHash c cfg email
  once : ∀ j j', CreatedAt c cfg i pool j → CreatedAt c cfg i pool j' → j = j'

theorem Kept.protocol {email : String} (h : Kept c cfg i email pool) :
    InvitationProtocol c cfg i pool := by
  refine ⟨h.exclusive, h.unrevoked, fun hreturned => ⟨fun hcreated => ?_, fun haccepted => ?_⟩⟩
  · obtain ⟨t, hmem, hcreated⟩ := hcreated
    exact (h.accepted t hmem hcreated).mpr (hreturned.rest hmem)
  · exact exists_createdAt.mp (h.created haccepted)

theorem Kept.found {email : String} (h : Kept c cfg i email pool) :
    (pool.store.userInvitations.findByKey i).isSome = true := by
  rw [← Option.isSome_map, h.stored]
  rfl

theorem Kept.not_accepted {email : String} (h : Kept c cfg i email pool)
    (hperforming : pool.Performing (InvitationRequest.program c cfg) k t upd next)
    (hcreated : CreatedAccount c cfg i t) : isAccepted i pool.store = false := by
  rw [Bool.eq_false_iff, Ne, h.accepted t hperforming.mem hcreated]
  intro hended
  obtain ⟨a, ha⟩ := hended
  cases ha.symm.trans hperforming.rest

theorem not_opens_call (request : InvitationRequest) : ¬ Opens c i ⟨request, []⟩ :=
  fun hopens => hopens.seen_ne_nil rfl

theorem createdAt_call (request : InvitationRequest) (j : ℕ) :
    CreatedAt c cfg i (invitationStep c cfg pool (.call request)) j ↔
      CreatedAt c cfg i pool j := by
  simp only [CreatedAt, invitationStep, Pool.step]
  constructor
  · intro hcreatedAt
    obtain ⟨t, hj, hcreated⟩ := hcreatedAt
    rw [List.getElem?_append] at hj
    split_ifs at hj
    · exact ⟨t, hj, hcreated⟩
    · rw [List.mem_singleton.mp (List.mem_of_getElem? hj)] at hcreated
      exact absurd hcreated.1 (not_opens_call request)
  · intro hcreatedAt
    obtain ⟨t, hj, hcreated⟩ := hcreatedAt
    refine ⟨t, ?_, hcreated⟩
    rw [List.getElem?_append_left (List.getElem?_eq_some_iff.mp hj).1, hj]

theorem Kept.call {email : String} (h : Kept c cfg i email pool) (request : InvitationRequest) :
    Kept c cfg i email (invitationStep c cfg pool (.call request)) := by
  constructor
  case stored => exact h.stored
  case stage => exact Pool.forall_step_call h.stage (.fresh rfl)
  case exclusive => exact h.exclusive
  case unrevoked =>
    exact Pool.forall_step_call h.unrevoked fun hopens => absurd hopens (not_opens_call request)
  case created =>
    intro haccepted
    obtain ⟨j, hj⟩ := h.created haccepted
    exact ⟨j, (createdAt_call request j).mpr hj⟩
  case accepted =>
    exact Pool.forall_step_call h.accepted fun hcreated =>
      absurd hcreated.1 (not_opens_call request)
  case taken => exact fun j hj => h.taken j ((createdAt_call request j).mp hj)
  case once =>
    intro j j' hj hj'
    exact h.once j j' ((createdAt_call request j).mp hj) ((createdAt_call request j').mp hj')

theorem createdAt_step_self (h : pool.Performing (InvitationRequest.program c cfg) k t upd next)
    (succeeds : Bool) : CreatedAt c cfg i (invitationStep c cfg pool (.op k succeeds)) k ↔
      CreatedAccount c cfg i
        (t.observe ⟨pool.time, if succeeds then some pool.store else none⟩) := by
  simp [CreatedAt, invitationStep, h.getElem?_step]

theorem createdAt_step_other (h : pool.Performing (InvitationRequest.program c cfg) k t upd next)
    (succeeds : Bool) {j : ℕ} (hj : j ≠ k) :
    CreatedAt c cfg i (invitationStep c cfg pool (.op k succeeds)) j ↔
      CreatedAt c cfg i pool j := by
  simp [CreatedAt, invitationStep, h.getElem?_step, hj]

theorem CreatedAccount.observe (h : CreatedAccount c cfg i t)
    (hrest : t.rest (InvitationRequest.program c cfg) = .op upd next) (o : Observation Database) :
    CreatedAccount c cfg i (t.observe o) :=
  (createdAccount_observe hrest h.1.seen_ne_nil o).mpr (Or.inl h)

theorem createdAt_of_performing
    (h : pool.Performing (InvitationRequest.program c cfg) k t upd next) :
    CreatedAt c cfg i pool k ↔ CreatedAccount c cfg i t := by
  simp [CreatedAt, h.thread]

theorem Kept.quiet {email : String} (h : Kept c cfg i email pool)
    (hperforming : pool.Performing (InvitationRequest.program c cfg) k t upd next)
    (succeeds : Bool) (hupd : Harmless i upd)
    (hnone : ¬ CreatedAccount c cfg i
      (t.observe ⟨pool.time, if succeeds then some pool.store else none⟩))
    (hstage : Stage c cfg i (accountHash c cfg email)
      (t.observe ⟨pool.time, if succeeds then some pool.store else none⟩)) :
    Kept c cfg i email (invitationStep c cfg pool (.op k succeeds)) := by
  have hkeeps := hupd.guarded fun _ => succeeds
  have hstore : (invitationStep c cfg pool (.op k succeeds)).store =
      (fun db => if succeeds then upd db else db) pool.store := hperforming.store_step succeeds
  have hcreatedAt : ∀ j, CreatedAt c cfg i (invitationStep c cfg pool (.op k succeeds)) j ↔
      CreatedAt c cfg i pool j := fun j => by
    by_cases hj : j = k
    · subst hj
      rw [createdAt_step_self hperforming, createdAt_of_performing hperforming]
      exact iff_of_false hnone fun hcreated => hnone (hcreated.observe hperforming.rest _)
    · exact createdAt_step_other hperforming succeeds hj
  constructor
  case stored =>
    rw [hstore, hkeeps.email]
    exact h.stored
  case stage => exact hperforming.forall_step h.stage hstage
  case exclusive =>
    rw [hstore, hkeeps.accepted]
    intro hboth
    rw [hkeeps.revoked _ hboth.1] at hboth
    exact h.exclusive hboth
  case unrevoked =>
    exact hperforming.forall_step h.unrevoked fun hopens op hop hadds =>
      absurd ⟨hopens, op, hop, hadds⟩ hnone
  case created =>
    rw [hstore, hkeeps.accepted]
    intro haccepted
    obtain ⟨j, hj⟩ := h.created haccepted
    exact ⟨j, (hcreatedAt j).mpr hj⟩
  case accepted =>
    rw [hstore, hkeeps.accepted]
    exact hperforming.forall_step h.accepted fun hcreated => absurd hcreated hnone
  case taken =>
    intro j hj
    obtain ⟨user, huser, hhash⟩ := h.taken j ((hcreatedAt j).mp hj)
    rw [hstore]
    exact ⟨user, hkeeps.users _ user huser, hhash⟩
  case once => exact fun j j' hj hj' => h.once j j' ((hcreatedAt j).mp hj) ((hcreatedAt j').mp hj')

theorem not_accepts_of_taken {user other : User} {db : Database} (h : other ∈ db.users.docs)
    (hhash : other.emailHash = user.emailHash) : UserRepository.accepts user db = false := by
  have hfound : (db.users.findOne fun stored => stored.emailHash = user.emailHash).isNone =
      false := by
    rw [← Option.not_isSome, Bool.not_eq_false']
    exact List.find?_isSome.mpr ⟨other, h, by simpa using hhash⟩
  rw [UserRepository.accepts, hfound, Bool.and_false]

theorem Kept.none_created {email : String} {user : User} (h : Kept c cfg i email pool)
    (hhash : user.emailHash = accountHash c cfg email)
    (haccepts : UserRepository.accepts user pool.store = true) (j : ℕ) :
    ¬ CreatedAt c cfg i pool j := by
  intro hj
  obtain ⟨other, hother, hsame⟩ := h.taken j hj
  have hrefused := not_accepts_of_taken hother (hsame.trans hhash.symm)
  cases haccepts.symm.trans hrefused

theorem Kept.creates {email : String} {user : User} (h : Kept c cfg i email pool)
    (hperforming : pool.Performing (InvitationRequest.program c cfg) k t
      (fun db => if UserRepository.accepts user db then UserRepository.insertUser user db else db)
      next)
    (hhash : user.emailHash = accountHash c cfg email)
    (hopens : Opens c i t) (haccepts : UserRepository.accepts user pool.store = true)
    (hcreated : CreatedAccount c cfg i (t.observe ⟨pool.time, some pool.store⟩))
    (hrest : Accepts i ((t.observe ⟨pool.time, some pool.store⟩).rest
      (InvitationRequest.program c cfg)))
    (hunrevoked : isRevoked i pool.store = false) :
    Kept c cfg i email (invitationStep c cfg pool (.op k true)) := by
  have hstore : (invitationStep c cfg pool (.op k true)).store =
      UserRepository.insertUser user pool.store :=
    (hperforming.store_step true).trans (if_pos haccepts)
  have hkeeps := harmless_insertUser (i := i) user
  have hnothing := h.none_created hhash haccepts
  have hpending : ¬ isAccepted i pool.store = true := fun haccepted => by
    obtain ⟨j, hj⟩ := h.created haccepted
    exact hnothing j hj
  have hcreatedAt : ∀ j, CreatedAt c cfg i (invitationStep c cfg pool (.op k true)) j ↔
      j = k := fun j => by
    by_cases hj : j = k
    · subst hj
      rw [createdAt_step_self hperforming]
      exact iff_of_true hcreated rfl
    · rw [createdAt_step_other hperforming true hj]
      exact iff_of_false (hnothing j) hj
  constructor
  case stored =>
    rw [hstore, hkeeps.email]
    exact h.stored
  case stage => exact hperforming.forall_step h.stage (.created hcreated hrest)
  case exclusive =>
    rw [hstore, hkeeps.accepted]
    exact fun hboth => hpending hboth.1
  case unrevoked =>
    refine hperforming.forall_step h.unrevoked fun _ op hop hadds => ?_
    rcases (Thread.mem_performed_observe hperforming.rest).mp hop with hop | ⟨db, hdb, rfl⟩
    · exact h.unrevoked t hperforming.mem hopens op hop hadds
    · obtain rfl := Option.some.inj hdb
      exact hunrevoked
  case created => exact fun _ => ⟨k, (hcreatedAt k).mpr rfl⟩
  case accepted =>
    rw [hstore, hkeeps.accepted]
    refine hperforming.forall_step (fun t' ht hcreated' => ?_) fun _ => ?_
    · obtain ⟨j, hj⟩ := exists_createdAt.mpr ⟨t', ht, hcreated'⟩
      exact absurd hj (hnothing j)
    · exact iff_of_false hpending hrest.not_ret
  case taken =>
    intro j _
    rw [hstore, docs_insertUser haccepts]
    exact ⟨user, List.mem_append_right _ (List.mem_singleton_self user), hhash⟩
  case once => exact fun j j' hj hj' => ((hcreatedAt j).mp hj).trans ((hcreatedAt j').mp hj').symm

theorem isAccepted_acceptInvitation {db : Database} (now : ℤ)
    (h : (db.userInvitations.findByKey i).isSome = true) :
    isAccepted i (acceptInvitation i now db) = true := by
  obtain ⟨invitation, hinvitation⟩ := Option.isSome_iff_exists.mp h
  simp only [isAccepted, acceptInvitation]
  rw [Collection.findByKey_updateByKey_self, hinvitation]
  rfl

theorem isRevoked_acceptInvitation (db : Database) (now : ℤ) :
    isRevoked i (acceptInvitation i now db) = isRevoked i db := by
  simp only [isRevoked, acceptInvitation]
  rw [Collection.findByKey_updateByKey_self]
  cases db.userInvitations.findByKey i <;> rfl

theorem email_acceptInvitation (db : Database) (now : ℤ) :
    ((acceptInvitation i now db).userInvitations.findByKey i).map (·.email) =
      (db.userInvitations.findByKey i).map (·.email) := by
  simp only [acceptInvitation]
  rw [Collection.findByKey_updateByKey_self]
  cases db.userInvitations.findByKey i <;> rfl

theorem Kept.accepts {email : String} {now : ℤ} (h : Kept c cfg i email pool)
    (hperforming : pool.Performing (InvitationRequest.program c cfg) k t
      (acceptInvitation i now) next)
    (hcreated : CreatedAccount c cfg i t)
    (hrest : ∃ a, (t.observe ⟨pool.time, some pool.store⟩).rest
      (InvitationRequest.program c cfg) = .ret a)
    (hunrevoked : isRevoked i pool.store = false) :
    Kept c cfg i email (invitationStep c cfg pool (.op k true)) := by
  have hstore : (invitationStep c cfg pool (.op k true)).store =
      acceptInvitation i now pool.store := hperforming.store_step true
  have hcreated' := hcreated.observe hperforming.rest ⟨pool.time, some pool.store⟩
  have hold := (createdAt_of_performing hperforming).mpr hcreated
  have hcreatedAt : ∀ j, CreatedAt c cfg i (invitationStep c cfg pool (.op k true)) j ↔
      CreatedAt c cfg i pool j := fun j => by
    by_cases hj : j = k
    · subst hj
      rw [createdAt_step_self hperforming]
      exact iff_of_true hcreated' hold
    · exact createdAt_step_other hperforming true hj
  constructor
  case stored =>
    rw [hstore, email_acceptInvitation]
    exact h.stored
  case stage => exact hperforming.forall_step h.stage (.ended hcreated' hrest)
  case exclusive =>
    rw [hstore, isRevoked_acceptInvitation, hunrevoked]
    exact fun hboth => Bool.false_ne_true hboth.2
  case unrevoked =>
    refine hperforming.forall_step h.unrevoked fun _ op hop hadds => ?_
    rcases (Thread.mem_performed_observe hperforming.rest).mp hop with hop | ⟨db, hdb, rfl⟩
    · exact h.unrevoked t hperforming.mem hcreated.1 op hop hadds
    · obtain rfl := Option.some.inj hdb
      exact hunrevoked
  case created => exact fun _ => ⟨k, (hcreatedAt k).mpr hold⟩
  case accepted =>
    intro t' ht hcreated''
    -- only the `k`-th request has created an account, so this is that request
    obtain ⟨j, hj⟩ := List.mem_iff_getElem?.mp ht
    obtain rfl : j = k := h.once j k ((hcreatedAt j).mp ⟨t', hj, hcreated''⟩) hold
    simp only [invitationStep, hperforming.getElem?_step, if_true] at hj
    obtain rfl := Option.some.inj hj
    rw [hstore]
    exact iff_of_true (isAccepted_acceptInvitation now h.found) hrest
  case taken =>
    intro j hj
    rw [hstore]
    exact h.taken j ((hcreatedAt j).mp hj)
  case once => exact fun j j' hj hj' => h.once j j' ((hcreatedAt j).mp hj) ((hcreatedAt j').mp hj')

theorem move_of_performing {email : String}
    (h : pool.Performing (InvitationRequest.program c cfg) k t upd next)
    (hstored : (pool.store.userInvitations.findByKey i).map (·.email) = some email)
    (hstage : Stage c cfg i (accountHash c cfg email) t) (succeeds : Bool) :
    Move c cfg i (accountHash c cfg email) pool.store succeeds t
      (t.observe ⟨pool.time, if succeeds then some pool.store else none⟩) upd := by
  refine hstage.move rfl (fun invitation hinvitation => ?_) h.rest
  rw [Option.mem_def.mp hinvitation, Option.map_some, Option.some.injEq] at hstored
  rw [hstored]

theorem Kept.step {email : String} (h : Kept c cfg i email pool) (act : Act InvitationRequest)
    (hact : OnOperations (InvitationRequest.program c cfg) (WritesWhilePending c i) pool act) :
    Kept c cfg i email (invitationStep c cfg pool act) := by
  cases act with
  | call request => exact h.call request
  | op k succeeds =>
    rcases pool.step_op_cases (InvitationRequest.program c cfg) k succeeds with
      ⟨t, upd, next, hperforming⟩ | ⟨hstay, -⟩
    · have hwrites := hact t upd next hperforming
      cases move_of_performing hperforming h.stored (h.stage t hperforming.mem) succeeds with
      | quiet hupd hnone hstage => exact h.quiet hperforming succeeds hupd hnone hstage
      | creates user hhash hupd hopens hsucceeds haccepts hcreated hrest =>
        subst hupd hsucceeds
        exact h.creates hperforming hhash hopens haccepts hcreated hrest
          (hwrites.1 hopens (addsAccount_insertUser.trans haccepts) rfl)
      | accepts now hupd hcreated hcreated' hrest =>
        subst hupd
        obtain ⟨rfl, hunrevoked⟩ := hwrites.2 (h.not_accepted hperforming hcreated)
          (isAccepted_acceptInvitation now h.found)
        exact h.accepts hperforming hcreated hrest hunrevoked
    · rwa [invitationStep, hstay]

structure Lost (c : Primitives) (cfg : Config) (i : ObjectID) (email : String)
    (pool : InvitationPool) : Prop where
  stored : (pool.store.userInvitations.findByKey i).map (·.email) = some email
  stage : ∀ t ∈ pool.threads, Stage c cfg i (accountHash c cfg email) t
  created : ∃ t ∈ pool.threads, CreatedAccount c cfg i t
  ended : ∀ t ∈ pool.threads, CreatedAccount c cfg i t →
    ∃ a, t.rest (InvitationRequest.program c cfg) = .ret a
  taken : ∃ user ∈ pool.store.users.docs, user.emailHash = accountHash c cfg email
  pending : isAccepted i pool.store = false

theorem Lost.created_step {email : String} (h : Lost c cfg i email pool)
    (act : Act InvitationRequest) :
    ∃ t ∈ (invitationStep c cfg pool act).threads, CreatedAccount c cfg i t := by
  obtain ⟨t, hmem, hcreated⟩ := h.created
  obtain ⟨a, ha⟩ := h.ended t hmem hcreated
  have hresult : t.result (InvitationRequest.program c cfg) = some a := by
    rw [Thread.result, ha]
  exact ⟨t, Pool.mem_step_of_returned hmem hresult act, hcreated⟩

theorem Lost.quiet {email : String} (h : Lost c cfg i email pool)
    (hperforming : pool.Performing (InvitationRequest.program c cfg) k t upd next)
    (succeeds : Bool) (hupd : Harmless i upd)
    (hnone : ¬ CreatedAccount c cfg i
      (t.observe ⟨pool.time, if succeeds then some pool.store else none⟩))
    (hstage : Stage c cfg i (accountHash c cfg email)
      (t.observe ⟨pool.time, if succeeds then some pool.store else none⟩)) :
    Lost c cfg i email (invitationStep c cfg pool (.op k succeeds)) := by
  have hkeeps := hupd.guarded fun _ => succeeds
  have hstore : (invitationStep c cfg pool (.op k succeeds)).store =
      (fun db => if succeeds then upd db else db) pool.store := hperforming.store_step succeeds
  constructor
  case stored =>
    rw [hstore, hkeeps.email]
    exact h.stored
  case stage => exact hperforming.forall_step h.stage hstage
  case created => exact h.created_step _
  case ended => exact hperforming.forall_step h.ended fun hcreated => absurd hcreated hnone
  case taken =>
    obtain ⟨user, huser, hhash⟩ := h.taken
    rw [hstore]
    exact ⟨user, hkeeps.users _ user huser, hhash⟩
  case pending =>
    rw [hstore, hkeeps.accepted]
    exact h.pending

theorem Lost.step {email : String} (h : Lost c cfg i email pool) (act : Act InvitationRequest) :
    Lost c cfg i email (invitationStep c cfg pool act) := by
  cases act with
  | call request =>
    exact ⟨h.stored, Pool.forall_step_call h.stage (.fresh rfl), h.created_step _,
      Pool.forall_step_call h.ended fun hcreated => absurd hcreated.1 (not_opens_call request),
      h.taken, h.pending⟩
  | op k succeeds =>
    rcases pool.step_op_cases (InvitationRequest.program c cfg) k succeeds with
      ⟨t, upd, next, hperforming⟩ | ⟨hstay, -⟩
    · cases move_of_performing hperforming h.stored (h.stage t hperforming.mem) succeeds with
      | quiet hupd hnone hstage => exact h.quiet hperforming succeeds hupd hnone hstage
      | creates user hhash hupd hopens hsucceeds haccepts hcreated hrest =>
        obtain ⟨other, hother, hsame⟩ := h.taken
        cases haccepts.symm.trans (not_accepts_of_taken hother (hsame.trans hhash.symm))
      | accepts now hupd hcreated hcreated' hrest =>
        obtain ⟨a, ha⟩ := h.ended t hperforming.mem hcreated
        cases ha.symm.trans hperforming.rest
    · rwa [invitationStep, hstay]

theorem Kept.failed {email : String} {now : ℤ} (h : Kept c cfg i email pool)
    (hperforming : pool.Performing (InvitationRequest.program c cfg) k t
      (acceptInvitation i now) next)
    (hcreated : CreatedAccount c cfg i t)
    (hrest : ∃ a, (t.observe ⟨pool.time, none⟩).rest (InvitationRequest.program c cfg) = .ret a) :
    Lost c cfg i email (invitationStep c cfg pool (.op k false)) := by
  have hstore : (invitationStep c cfg pool (.op k false)).store = pool.store :=
    hperforming.store_step false
  have hcreatedAt := (createdAt_of_performing hperforming).mpr hcreated
  have hcreated' := hcreated.observe hperforming.rest ⟨pool.time, none⟩
  constructor
  case stored =>
    rw [hstore]
    exact h.stored
  case stage => exact hperforming.forall_step h.stage (.ended hcreated' hrest)
  case created => exact ⟨_, hperforming.observe_mem_step false, hcreated'⟩
  case ended =>
    intro t' ht hcreated''
    obtain ⟨j, hj⟩ := List.mem_iff_getElem?.mp ht
    by_cases hjk : j = k
    · subst hjk
      simp only [invitationStep, hperforming.getElem?_step, if_true] at hj
      obtain rfl := Option.some.inj hj
      exact hrest
    · have hold := (createdAt_step_other hperforming false hjk).mp ⟨t', hj, hcreated''⟩
      exact absurd (h.once j k hold hcreatedAt) hjk
  case taken =>
    rw [hstore]
    exact h.taken k hcreatedAt
  case pending =>
    rw [hstore]
    exact h.not_accepted hperforming hcreated

theorem writesWhilePending_of_quiet
    (hperforming : pool.Performing (InvitationRequest.program c cfg) k t upd next)
    {succeeds : Bool} (hupd : Harmless i upd)
    (hnone : ¬ CreatedAccount c cfg i
      (t.observe ⟨pool.time, if succeeds then some pool.store else none⟩)) :
    WritesWhilePending c i pool t upd succeeds := by
  constructor
  · intro hopens hadds hsucceeds
    subst hsucceeds
    have hcreates := createdAccount_observe (i := i) hperforming.rest hopens.seen_ne_nil
      ⟨pool.time, some pool.store⟩
    exact absurd (hcreates.mpr (Or.inr ⟨hopens, pool.store, rfl, hadds⟩)) hnone
  · intro hpending haccepted
    cases hpending.symm.trans ((hupd.accepted pool.store).symm.trans haccepted)

theorem Kept.lost {email : String} (h : Kept c cfg i email pool) {act : Act InvitationRequest}
    (hprotocol : InvitationProtocol c cfg i (invitationStep c cfg pool act))
    (hact : ¬ OnOperations (InvitationRequest.program c cfg) (WritesWhilePending c i) pool act) :
    Lost c cfg i email (invitationStep c cfg pool act) := by
  cases act with
  | call request => exact absurd trivial hact
  | op k succeeds =>
    rcases pool.step_op_cases (InvitationRequest.program c cfg) k succeeds with
      ⟨t, upd, next, hperforming⟩ | ⟨-, hnone⟩
    · rw [hperforming.onOperations_iff succeeds] at hact
      cases move_of_performing hperforming h.stored (h.stage t hperforming.mem) succeeds with
      | quiet hupd hnone hstage =>
        exact absurd (writesWhilePending_of_quiet hperforming hupd hnone) hact
      | creates user hhash hupd hopens hsucceeds haccepts hcreated hrest =>
        subst hupd hsucceeds
        have hharmless := (harmless_insertUser (i := i) user).guarded
          (UserRepository.accepts user)
        refine absurd ⟨fun _ hadds _ => ?_, fun hpending haccepted => ?_⟩ hact
        · refine hprotocol.unrevoked _ (hperforming.observe_mem_step true) hcreated.1
            (_, pool.store) ?_ hadds
          exact (Thread.mem_performed_observe hperforming.rest).mpr
            (Or.inr ⟨pool.store, rfl, rfl⟩)
        · cases hpending.symm.trans ((hharmless.accepted pool.store).symm.trans haccepted)
      | accepts now hupd hcreated hcreated' hrest =>
        subst hupd
        cases succeeds with
        | true =>
          have hstore : (invitationStep c cfg pool (.op k true)).store =
              acceptInvitation i now pool.store := hperforming.store_step true
          refine absurd ⟨fun _ hadds => ?_, fun _ haccepted => ⟨rfl, ?_⟩⟩ hact
          · cases (addsAccount_id pool.store).symm.trans hadds
          · rw [Bool.eq_false_iff]
            intro hrevoked
            refine hprotocol.exclusive ⟨?_, ?_⟩
            · rw [hstore, haccepted]
            · rw [hstore, isRevoked_acceptInvitation, hrevoked]
        | false => exact h.failed hperforming hcreated hrest
    · exact absurd (fun t upd next hperforming => absurd hperforming (hnone t upd next)) hact

end Steps

/-- The protocol holds along every run whose operations meet the condition, and only
along such runs once every request has returned. -/
theorem invitationProtocol_run (c : Primitives) (cfg : Config) (i : ObjectID) (db : Database)
    (invitation : UserInvitation) (acts : List (Act InvitationRequest))
    (hstored : db.userInvitations.findByKey i = some invitation)
    (hpending : invitation.acceptedAt = none) :
    (AllSteps (invitationStep c cfg)
        (OnOperations (InvitationRequest.program c cfg) (WritesWhilePending c i))
        { store := db } acts →
      AllStates (invitationStep c cfg) (InvitationProtocol c cfg i) { store := db } acts) ∧
    ((run (invitationStep c cfg) { store := db } acts).Returned
        (InvitationRequest.program c cfg) →
      AllStates (invitationStep c cfg) (InvitationProtocol c cfg i) { store := db } acts →
      AllSteps (invitationStep c cfg)
        (OnOperations (InvitationRequest.program c cfg) (WritesWhilePending c i))
        { store := db } acts) := by
  have hnone : ∀ t, t ∉ ({ store := db } : InvitationPool).threads := fun _ => List.not_mem_nil
  have hnowhere : ∀ j, ¬ CreatedAt c cfg i { store := db } j := fun j hj => by
    obtain ⟨t, hmem, -⟩ := exists_createdAt.mp ⟨j, hj⟩
    exact hnone t hmem
  have hunaccepted : isAccepted i db = false := by
    rw [isAccepted, hstored, Option.any_some, hpending]
    rfl
  have hstart : Kept c cfg i invitation.email { store := db } := by
    constructor
    case stored => exact congrArg (Option.map (·.email)) hstored
    case stage => exact fun t hmem => absurd hmem (hnone t)
    case exclusive => exact fun hboth => Bool.false_ne_true (hunaccepted.symm.trans hboth.1)
    case unrevoked => exact fun t hmem => absurd hmem (hnone t)
    case created => exact fun h => absurd (hunaccepted.symm.trans h) Bool.false_ne_true
    case accepted => exact fun t hmem => absurd hmem (hnone t)
    case taken => exact fun j hj => absurd hj (hnowhere j)
    case once => exact fun j _ hj => absurd hj (hnowhere j)
  constructor
  · intro hsteps
    exact (Library.allStates_of_invariant (fun _ h => h.protocol) (fun _ act h => h.step act)
      hstart hsteps).2
  · intro hreturned hstates
    refine Library.allSteps_of_not_lost (fun _ act h => h.step act)
      (fun _ _ h hprotocol hact => h.lost hprotocol hact) (fun _ act h => h.step act) hstart
      hstates fun hlost => ?_
    have haccepted := (hstates.last.accepted hreturned).mp hlost.created
    exact Bool.false_ne_true (hlost.pending.symm.trans haccepted)

def memberInvitation : UserInvitation where
  id := 1#96
  tokenHash := hashPII plainPrimitives "open sesame"
  email := (encrypt plainPrimitives exampleEntropy.nonce "member@example.com"
    exampleConfig.emailEncryptionKey).getD ""
  emailHash := hashPII plainPrimitives "member@example.com"
  role := "operator"
  expiresAt := 48 * hour
  createdBy := 2#96
  createdAt := 0

def memberInvited : Database := { userInvitations := Collection.empty.insertOne memberInvitation }

def activateMember : InvitationRequest :=
  .activate ⟨"open sesame", "member", "password"⟩ exampleEntropy
    ⟨fun _ => 1, fun _ => 3#96⟩

def revokeMember : InvitationRequest :=
  .revoke memberInvitation.id.hex ⟨fun _ => 2, fun _ => NilObjectID⟩

def revokedTooLate : List (Act InvitationRequest) :=
  [.call activateMember, .op 0 true, .op 0 true, .op 0 true, .op 0 true,
    .call revokeMember, .op 1 true]

theorem invitationProtocol_run_revokedTooLate :
    AllStates (invitationStep plainPrimitives exampleConfig)
      (InvitationProtocol plainPrimitives exampleConfig 1#96) { store := memberInvited }
      revokedTooLate := by
  have h := invitationProtocol_run plainPrimitives exampleConfig 1#96 memberInvited
    memberInvitation revokedTooLate (by decide +kernel) rfl
  exact h.1 (by decide +kernel)

/-- The revocation succeeds after the activation has found the invitation. -/
def revokedMeanwhile : List (Act InvitationRequest) :=
  [.call activateMember, .op 0 true, .call revokeMember, .op 1 true, .op 0 true, .op 0 true,
    .op 0 true]

theorem revokedMeanwhile_accepted :
    memberInvited.userInvitations.findByKey 1#96 = some memberInvitation ∧
    memberInvitation.acceptedAt = none ∧
    ¬ AllStates (invitationStep plainPrimitives exampleConfig)
      (InvitationProtocol plainPrimitives exampleConfig 1#96) { store := memberInvited }
      revokedMeanwhile := by
  refine ⟨by decide +kernel, rfl, fun h => ?_⟩
  have hboth : isAccepted 1#96 (run (invitationStep plainPrimitives exampleConfig)
      { store := memberInvited } revokedMeanwhile).store = true ∧
      isRevoked 1#96 (run (invitationStep plainPrimitives exampleConfig)
        { store := memberInvited } revokedMeanwhile).store = true := by
    decide +kernel
  exact h.last.exclusive hboth

end Statora.Auth
