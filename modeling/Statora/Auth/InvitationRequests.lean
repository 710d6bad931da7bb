import Statora.Auth.Invitations
import Statora.Library.Interleaving

/-!
# The operations of the invitation requests

What the operations of a request change of one invitation, and in which order an
activation performs them: it looks the invitation up, creates the account, and marks
the invitation.
-/

namespace Statora.Auth
open Library (Prog Fallible Collection Thread Observation)

section Requests
variable (c : Primitives) (cfg : Config) (i : ObjectID)

def isAccepted (db : Database) : Bool :=
  (db.userInvitations.findByKey i).any fun invitation => invitation.acceptedAt.isSome

def isRevoked (db : Database) : Bool :=
  (db.userInvitations.findByKey i).any fun invitation => invitation.revokedAt.isSome

def InvitationRequest.lookup : InvitationRequest → Database → Option UserInvitation
  | .activate req _ rt, db =>
    db.userInvitations.findOne (opensWith c (trimSpace req.token) (rt.clock 0))
  | .refresh .., _ | .revoke .., _ => none

def opened (t : Thread InvitationRequest Database) : Option UserInvitation :=
  t.seen.head?.bind fun o => o.found.bind (t.call.lookup c)

def Opens (t : Thread InvitationRequest Database) : Prop :=
  ∃ invitation ∈ opened c t, invitation.id = i

instance (t : Thread InvitationRequest Database) : Decidable (Opens c i t) :=
  inferInstanceAs (Decidable (∃ invitation ∈ opened c t, _))

structure Harmless (upd : Database → Database) : Prop where
  users : ∀ db, ∀ user ∈ db.users.docs, user ∈ (upd db).users.docs
  email : ∀ db, ((upd db).userInvitations.findByKey i).map (·.email) =
    (db.userInvitations.findByKey i).map (·.email)
  accepted : ∀ db, isAccepted i (upd db) = isAccepted i db
  revoked : ∀ db, isAccepted i db = true → isRevoked i (upd db) = isRevoked i db

variable {i}

theorem harmless_id : Harmless i id :=
  ⟨fun _ _ h => h, fun _ => rfl, fun _ => rfl, fun _ _ => rfl⟩

theorem Harmless.guarded {upd : Database → Database} (h : Harmless i upd)
    (guard : Database → Bool) : Harmless i fun db => if guard db then upd db else db := by
  refine ⟨fun db user huser => ?_, fun db => ?_, fun db => ?_, fun db haccepted => ?_⟩
  · split_ifs
    · exact h.users db user huser
    · exact huser
  · split_ifs
    · exact h.email db
    · rfl
  · split_ifs
    · exact h.accepted db
    · rfl
  · split_ifs
    · exact h.revoked db haccepted
    · rfl

theorem harmless_insertUser (user : User) : Harmless i (UserRepository.insertUser user) :=
  ⟨fun _ _ h => Collection.mem_insertOne_of_mem h, fun _ => rfl, fun _ => rfl, fun _ _ => rfl⟩

theorem harmless_update (j : ObjectID) {f : UserInvitation → UserInvitation}
    (hf : ∀ invitation, (f invitation).id = invitation.id)
    (hemail : ∀ invitation, (f invitation).email = invitation.email)
    (haccepted : i = j → ∀ invitation,
      (f invitation).acceptedAt.isSome = invitation.acceptedAt.isSome)
    (hrevoked : i = j → ∀ invitation, invitation.acceptedAt.isSome = true →
      (f invitation).revokedAt.isSome = invitation.revokedAt.isSome) :
    Harmless i fun db =>
      { db with userInvitations := db.userInvitations.updateByKey j f hf } := by
  refine ⟨fun _ _ h => h, fun db => ?_, fun db => ?_, fun db haccept => ?_⟩
  · dsimp only
    rw [Collection.findByKey_updateByKey, Option.map_map]
    cases db.userInvitations.findByKey i with
    | none => rfl
    | some invitation =>
      simp only [Option.map_some, Function.comp_apply]
      split_ifs
      · rw [hemail]
      · rfl
  · simp only [isAccepted, Collection.findByKey_updateByKey]
    cases db.userInvitations.findByKey i with
    | none => rfl
    | some invitation =>
      simp only [Option.map_some, Option.any_some]
      split_ifs with hij
      · exact haccepted hij invitation
      · rfl
  · simp only [isAccepted] at haccept
    simp only [isRevoked, Collection.findByKey_updateByKey]
    cases hfound : db.userInvitations.findByKey i with
    | none => rfl
    | some invitation =>
      rw [hfound] at haccept
      simp only [Option.map_some, Option.any_some]
      split_ifs with hij
      · exact hrevoked hij invitation haccept
      · rfl

theorem harmless_replaceToken (j : ObjectID) (tokenHash : String) (expiresAt : ℤ) :
    Harmless i (replaceToken j tokenHash expiresAt) := by
  unfold replaceToken
  apply harmless_update
  · exact fun _ => rfl
  · exact fun _ _ => rfl
  · exact fun _ _ _ => rfl

theorem harmless_acceptInvitation {j : ObjectID} (h : i ≠ j) (now : ℤ) :
    Harmless i (acceptInvitation j now) := by
  unfold acceptInvitation
  apply harmless_update
  · exact fun _ => rfl
  · exact fun hij => absurd hij h
  · exact fun hij => absurd hij h

theorem harmless_revokeInvitation (j : ObjectID) (now : ℤ) :
    Harmless i (revokeInvitation j now) := by
  have hupdate : revokeInvitation j now = fun db =>
      { db with
        userInvitations := db.userInvitations.updateByKey j
          (fun invitation => if pending invitation then { invitation with revokedAt := some now }
            else invitation) fun invitation => by split_ifs <;> rfl } := by
    funext db
    unfold revokeInvitation
    congr 1
    apply Collection.updateOne_key_and db.userInvitations j pending
  rw [hupdate]
  apply harmless_update
  · intro invitation
    split_ifs <;> rfl
  · intro _ invitation
    split_ifs <;> rfl
  · intro _ invitation haccepted
    have hpending : pending invitation = false := by
      rw [pending, ← Option.not_isSome, haccepted]
      rfl
    rw [hpending]
    rfl

section Activation
variable {α β : Type}

def Accepts (i : ObjectID) (p : Prog Database α) : Prop :=
  ∃ now next, p = .op (acceptInvitation i now) next ∧ ∀ found, ∃ a, next found = .ret a

inductive Activates (i : ObjectID) (emailHash : String) : Prog Database α → Prop
  | ret (a : α) : Activates i emailHash (.ret a)
  | read (next : Option Database → Prog Database α)
      (hnext : ∀ found, Activates i emailHash (next found)) : Activates i emailHash (.op id next)
  | create (user : User) (next : Option Database → Prog Database α)
      (hhash : user.emailHash = emailHash)
      (hrefused : ∀ found : Option Database, found.any (UserRepository.accepts user) = false →
        ∃ a, next found = .ret a)
      (hcreated : ∀ db, UserRepository.accepts user db = true → Accepts i (next (some db))) :
      Activates i emailHash (.op (fun db =>
        if UserRepository.accepts user db then UserRepository.insertUser user db else db) next)

theorem Accepts.not_ret {p : Prog Database α} (h : Accepts i p) : ¬ ∃ a, p = .ret a := by
  obtain ⟨now, next, rfl, -⟩ := h
  intro hret
  obtain ⟨a, ha⟩ := hret
  cases ha

theorem Accepts.bind {p : Prog Database α} (h : Accepts i p) {k : α → Prog Database β}
    (hk : ∀ a, ∃ b, k a = .ret b) : Accepts i (p.bind k) := by
  obtain ⟨now, next, rfl, hnext⟩ := h
  refine ⟨now, _, rfl, fun found => ?_⟩
  obtain ⟨a, ha⟩ := hnext found
  rw [ha]
  exact hk a

theorem Activates.bind {emailHash : String} {p : Prog Database α} (h : Activates i emailHash p)
    {k : α → Prog Database β} (hk : ∀ a, ∃ b, k a = .ret b) :
    Activates i emailHash (p.bind k) := by
  induction h with
  | ret a =>
    obtain ⟨b, hb⟩ := hk a
    change Activates i emailHash (k a)
    rw [hb]
    exact .ret b
  | read next _ ih => exact .read _ ih
  | create user next hhash hrefused hcreated =>
    refine .create user _ hhash (fun found hfound => ?_) fun db hdb => (hcreated db hdb).bind hk
    obtain ⟨a, ha⟩ := hrefused found hfound
    rw [ha]
    exact hk a

theorem Accepts.performs {j : ObjectID} (hne : i ≠ j) {p : Prog Database α} (h : Accepts j p) :
    p.Performs (Harmless i) := by
  obtain ⟨now, next, rfl, hnext⟩ := h
  refine ⟨harmless_acceptInvitation hne now, fun found => ?_⟩
  obtain ⟨a, ha⟩ := hnext found
  rw [ha]
  trivial

theorem Activates.performs {j : ObjectID} (hne : i ≠ j) {emailHash : String}
    {p : Prog Database α} (h : Activates j emailHash p) : p.Performs (Harmless i) := by
  induction h with
  | ret a => trivial
  | read next _ ih => exact ⟨harmless_id, ih⟩
  | create user next _ hrefused hcreated =>
    refine ⟨(harmless_insertUser user).guarded _, fun found => ?_⟩
    cases hguard : found.any (UserRepository.accepts user) with
    | false =>
      obtain ⟨a, ha⟩ := hrefused found hguard
      rw [ha]
      trivial
    | true =>
      obtain ⟨db, rfl, hdb⟩ := (Option.any_eq_true _ _).mp hguard
      exact (hcreated db hdb).performs hne

end Activation

def accountHash (email : String) : String :=
  hashPII c (normalizeEmail c.lower ((decryptPII c email cfg.emailEncryptionKey).getD ""))

theorem createUser_activates {req : CreateUserRequest} {entropy : Entropy} {id : ObjectID}
    {now : ℤ} {k : User → Fallible Database InvitationError ActivateResponse}
    {email : String} (hemail : req.email = email) (hk : ∀ user, Accepts i (k user)) :
    Activates i (hashPII c (normalizeEmail c.lower email))
      ((createUser c cfg req entropy id now).mapError InvitationError.internal >>= k :
        Fallible Database InvitationError ActivateResponse) := by
  subst hemail
  simp only [createUser, processPII]
  cases encrypt c entropy.nonce (normalizeEmail c.lower req.email) cfg.emailEncryptionKey with
  | none => exact .ret _
  | some encrypted =>
    dsimp only [Option.map_some]
    cases generateFromPassword c (entropy.salt 0) req.password with
    | none => exact .ret _
    | some passwordHash =>
      dsimp only
      rw [UserRepository.create, Fallible.mapError_bind, Fallible.mapError_execIf,
        Fallible.bind_assoc, Fallible.execIf_bind]
      refine .create _ _ rfl (fun found hfound => ?_) fun db hdb => ?_
      · cases found with
        | none => exact ⟨_, rfl⟩
        | some db =>
          rw [Option.any_some] at hfound
          simp only [Option.elim, hfound]
          exact ⟨_, rfl⟩
      · simp only [Option.elim, hdb, Fallible.mapError_pure, Fallible.pure_bind]
        exact hk _

theorem emailExists_activates {emailHash email : String}
    {k : Bool → Fallible Database InvitationError ActivateResponse}
    (hk : ∀ taken, Activates i emailHash (k taken)) : Activates i emailHash
      ((emailExists c email).mapError InvitationError.internal >>= k :
        Fallible Database InvitationError ActivateResponse) := by
  simp only [emailExists]
  split_ifs with hblank
  · rw [Fallible.mapError_pure, Fallible.pure_bind]
    exact hk false
  · rw [UserRepository.emailExistsByHash, Fallible.mapError_query, Fallible.query_bind]
    refine .read _ fun found => ?_
    cases found with
    | none => exact .ret _
    | some db => exact hk _

theorem activateWith_activates (req : ActivateRequest) (entropy : Entropy) (rt : Runtime)
    (invitation : UserInvitation) : Activates invitation.id (accountHash c cfg invitation.email)
      (activateWith c cfg req entropy rt invitation) := by
  rw [activateWith, decryptStoredEmail, accountHash]
  cases decryptPII c invitation.email cfg.emailEncryptionKey with
  | none => exact .ret _
  | some email =>
    rw [Fallible.pure_bind, Option.getD_some]
    apply emailExists_activates
    intro taken
    cases taken with
    | true => exact .ret _
    | false =>
      rw [if_neg Bool.false_ne_true]
      refine createUser_activates c cfg rfl fun user => ?_
      rw [Fallible.exec_bind]
      refine ⟨rt.clock 1, _, rfl, fun found => ?_⟩
      cases found <;> exact ⟨_, rfl⟩

/-- A request either never touches what counts, or it looks its invitation up first. -/
theorem InvitationRequest.program_cases (request : InvitationRequest) :
    ((request.program c cfg).Performs (Harmless i) ∧ ∀ db, request.lookup c db = none) ∨
    (∃ a, request.program c cfg = Prog.ret a) ∨
    ∃ next, request.program c cfg = Prog.op id next ∧
      ∀ found : Option Database, (found.bind (request.lookup c)).elim (∃ a, next found = .ret a)
        fun invitation =>
          Activates invitation.id (accountHash c cfg invitation.email) (next found) := by
  cases request with
  | activate req entropy rt =>
    simp only [InvitationRequest.program, activateUserInvitation]
    split_ifs
    · exact Or.inr (Or.inl ⟨_, rfl⟩)
    · exact Or.inr (Or.inl ⟨_, rfl⟩)
    · refine Or.inr (Or.inr ?_)
      rw [findInvitation, Fallible.bind_assoc, Fallible.find_bind]
      refine ⟨_, rfl, fun found => ?_⟩
      cases found with
      | none => exact ⟨_, rfl⟩
      | some db =>
        dsimp only [Option.elim, Option.bind_some, InvitationRequest.lookup]
        cases db.userInvitations.findOne
          (opensWith c (trimSpace req.token) (rt.clock 0)) with
        | none => exact ⟨_, rfl⟩
        | some invitation =>
          refine (activateWith_activates c cfg req entropy rt invitation).bind fun r => ?_
          cases r <;> exact ⟨_, rfl⟩
  | refresh rawID origin random rt =>
    refine Or.inl ⟨?_, fun _ => rfl⟩
    simp only [InvitationRequest.program, refreshUserInvitation]
    cases objectIDFromHex rawID with
    | none => trivial
    | some invitationID =>
      refine Fallible.performs_bind (Fallible.performs_bind
        (Fallible.performs_find harmless_id _ _ _) fun invitation => ?_) fun _ => trivial
      cases random with
      | none => trivial
      | some bytes =>
        refine Fallible.performs_bind (Fallible.performs_exec (harmless_replaceToken _ _ _) _)
          fun _ => Fallible.performs_bind ?_ fun _ => trivial
        rw [decryptStoredEmail]
        cases decryptPII c invitation.email cfg.emailEncryptionKey <;> trivial
  | revoke rawID rt =>
    refine Or.inl ⟨?_, fun _ => rfl⟩
    simp only [InvitationRequest.program, revokeUserInvitation]
    cases objectIDFromHex rawID with
    | none => trivial
    | some invitationID =>
      exact Fallible.performs_bind
        (Fallible.performs_execIf ((harmless_revokeInvitation _ _).guarded _) _ _)
        fun _ => trivial

end Requests

end Statora.Auth
