import Mathlib.Data.List.Count
import Statora.Auth.SecondFactor
import Statora.Library.Interleaving

/-!
# Recovery codes under concurrent requests

A request that proves the second factor reads the user, drops the code it matched
from the list it read, and writes the rest of that list back. A code is used once
exactly as long as nobody has used a code of the list between the two.
-/

namespace Statora.Auth
open Library (Prog Fallible Collection Thread Pool Act Observation AllStates AllSteps run
  OnOperations allStates_iff_onOperations)

inductive FactorRequest
  | verifyChallenge (code : String) (rt : Runtime)
  | disableMFA (password code : String) (rt : Runtime)

structure FactorCall (u : ObjectID) where
  userID : String
  ofUser : objectIDFromHex userID = some u
  request : FactorRequest

section Requests
variable (c : Primitives) (cfg : Config) {u : ObjectID}

def FactorCall.program (call : FactorCall u) : Prog Database (Except AuthError Unit) :=
  match call.request with
  | .verifyChallenge code rt =>
    (do let _ ← verifyChallenge c cfg call.userID code rt : Fallible Database AuthError Unit)
  | .disableMFA password code rt => disableMFA c cfg call.userID password code rt

def FactorRequest.code : FactorRequest → String
  | .verifyChallenge code _ => code
  | .disableMFA _ code _ => code

def FactorRequest.now : FactorRequest → ℤ
  | .verifyChallenge _ rt => rt.clock 0
  | .disableMFA _ _ rt => rt.clock 0

def FactorRequest.checksFactor (request : FactorRequest) (user : User) : Bool :=
  match request with
  | .verifyChallenge _ _ => user.mfaEnabled
  | .disableMFA password _ _ =>
    c.compareHashAndPassword user.passwordHash password && user.mfaEnabled

def FactorRequest.takes (request : FactorRequest) (user : User) : Option String :=
  if request.checksFactor c user then
    match decryptMFASecret c (trimSpace user.mfaSecretEnc) cfg.mfaSecretKey with
    | none => none
    | some secret =>
      if verifyTOTPCode c secret request.code request.now then none
      else user.mfaRecoveryCodesHash.find? fun hash =>
        c.compareHashAndPassword hash request.code
  else none

def updateCodes (u : ObjectID) (hashes : List String) (db : Database) : Database :=
  { db with
    users := db.users.updateByKey u fun user => { user with mfaRecoveryCodesHash := hashes } }

def disableFactor (u : ObjectID) (db : Database) : Database :=
  { db with users := db.users.updateByKey u fun user =>
      { user with mfaEnabled := false, mfaSecretEnc := "", mfaRecoveryCodesHash := [] } }

def FactorCall.check (call : FactorCall u) (user : User) : Fallible Database AuthError Unit :=
  match call.request with
  | .verifyChallenge code rt =>
    if !user.mfaEnabled then Fallible.throw .mfaRequired
    else do
      verifyMFAFactor c cfg call.userID user.mfaSecretEnc user.mfaRecoveryCodesHash code
        (rt.clock 0)
      return ()
  | .disableMFA password code rt =>
    if !c.compareHashAndPassword user.passwordHash password then Fallible.throw .invalidPassword
    else if !user.mfaEnabled then Fallible.throw .mfaRequired
    else do
      verifyMFAFactor c cfg call.userID user.mfaSecretEnc user.mfaRecoveryCodesHash code
        (rt.clock 0)
      UserRepository.disableMFA call.userID

theorem FactorCall.program_eq (call : FactorCall u) :
    call.program c cfg = .op id fun seen => seen.elim (Fallible.throw .store) fun db =>
      (db.users.findByKey u).elim (Fallible.throw .noDocuments) (call.check c cfg) := by
  obtain ⟨userID, hid, request⟩ := call
  cases request with
  | verifyChallenge code rt =>
    unfold FactorCall.program verifyChallenge
    dsimp only
    rw [findByID_eq hid, Fallible.bind_assoc, Fallible.find_bind]
    congr 1
    funext seen
    cases seen with
    | none => rfl
    | some db =>
      dsimp only [Option.elim]
      cases db.users.findByKey u with
      | none => rfl
      | some user =>
        unfold FactorCall.check
        dsimp only
        split_ifs
        · rfl
        · exact Fallible.bind_assoc _ _ _
  | disableMFA password code rt =>
    unfold FactorCall.program disableMFA
    dsimp only
    rw [findByID_eq hid, Fallible.find_bind]
    rfl

def FactorCall.finish (call : FactorCall u) : Fallible Database AuthError Unit :=
  match call.request with
  | .verifyChallenge _ _ => return ()
  | .disableMFA _ _ _ => UserRepository.disableMFA call.userID

def FactorRequest.left (request : FactorRequest) (user : User) : List String :=
  user.mfaRecoveryCodesHash.eraseP fun hash => c.compareHashAndPassword hash request.code

theorem FactorCall.check_eq {call : FactorCall u} {user : User}
    (h : call.request.checksFactor c user = true) :
    call.check c cfg user =
      verifyMFAFactor c cfg call.userID user.mfaSecretEnc user.mfaRecoveryCodesHash
        call.request.code call.request.now >>= fun _ => call.finish := by
  obtain ⟨userID, hid, request⟩ := call
  cases request with
  | verifyChallenge code rt =>
    have henabled : user.mfaEnabled = true := h
    simp only [FactorCall.check, henabled]
    rfl
  | disableMFA password code rt =>
    have hboth := Bool.and_eq_true_iff.mp h
    simp only [FactorCall.check, hboth.1, hboth.2]
    rfl

theorem FactorCall.check_of_not_checksFactor {call : FactorCall u} {user : User}
    (h : call.request.checksFactor c user = false) :
    ∃ e, call.check c cfg user = Fallible.throw e := by
  obtain ⟨userID, hid, request⟩ := call
  cases request with
  | verifyChallenge code rt =>
    have hdisabled : user.mfaEnabled = false := h
    refine ⟨.mfaRequired, ?_⟩
    simp [FactorCall.check, hdisabled]
  | disableMFA password code rt =>
    have heither := Bool.and_eq_false_iff.mp h
    unfold FactorCall.check
    dsimp only
    split_ifs with hpassword henabled
    · exact ⟨_, rfl⟩
    · exact ⟨_, rfl⟩
    · simp_all

theorem FactorCall.check_of_takes {call : FactorCall u} {user : User} {hash : String}
    (h : call.request.takes c cfg user = some hash) :
    call.check c cfg user =
      .op (updateCodes u (call.request.left c user)) fun seen =>
        seen.elim (Fallible.throw .store) fun _ => call.finish := by
  unfold FactorRequest.takes at h
  split_ifs at h with hchecks
  split at h
  · cases h
  · rename_i secret hsecret
    split_ifs at h with htotp
    rw [FactorCall.check_eq c cfg hchecks]
    unfold verifyMFAFactor UserRepository.replaceRecoveryCodes
    simp only [hsecret, htotp, consumeRecoveryCode_eq, h, Option.isSome_some, Bool.false_eq_true,
      if_false]
    rw [updateByID_eq call.ofUser]
    exact Fallible.exec_bind _ _ _

theorem FactorCall.check_of_takes_none {call : FactorCall u} {user : User}
    (h : call.request.takes c cfg user = none) :
    (∃ e, call.check c cfg user = Fallible.throw e) ∨ call.check c cfg user = call.finish := by
  unfold FactorRequest.takes at h
  split_ifs at h with hchecks
  · rw [FactorCall.check_eq c cfg hchecks]
    unfold verifyMFAFactor
    cases hsecret : decryptMFASecret c (trimSpace user.mfaSecretEnc) cfg.mfaSecretKey with
    | none => exact Or.inl ⟨_, rfl⟩
    | some secret =>
      rw [hsecret] at h
      dsimp only at h
      split_ifs at h with htotp
      · simp only [htotp, if_true]
        exact Or.inr rfl
      · simp only [htotp, consumeRecoveryCode_eq, h, Option.isSome_none, Bool.false_eq_true,
          if_false]
        exact Or.inl ⟨_, rfl⟩
  · exact Or.inl (FactorCall.check_of_not_checksFactor c cfg (by simpa using hchecks))

theorem FactorCall.performs_finish (call : FactorCall u) :
    Prog.Performs (fun upd => upd = disableFactor u) call.finish := by
  obtain ⟨userID, hid, request⟩ := call
  unfold FactorCall.finish
  cases request with
  | verifyChallenge code rt => exact Prog.performs_pure _
  | disableMFA password code rt =>
    dsimp only
    unfold UserRepository.disableMFA
    rw [updateByID_eq hid]
    refine ⟨rfl, fun seen => ?_⟩
    cases seen <;> trivial

def readUser (t : Thread (FactorCall u) Database) : Option User :=
  t.seen.head?.bind fun o => o.found.bind fun db => db.users.findByKey u

def accepted (t : Thread (FactorCall u) Database) : Option String :=
  match t.seen with
  | _ :: o :: _ => if o.found.isSome then (readUser t).bind (t.call.request.takes c cfg) else none
  | _ => none

def writesBack (t : Thread (FactorCall u) Database) : Option User :=
  match t.seen with
  | [_] => (readUser t).filter fun user => (t.call.request.takes c cfg user).isSome
  | _ => none

def acceptedCount (pool : Pool (FactorCall u) Database) (hash : String) : ℕ :=
  pool.threads.countP fun t => accepted c cfg t = some hash

/-- No code is accepted or still stored more often than it was stored at the start. -/
def SingleUse (initial : List String) (pool : Pool (FactorCall u) Database) : Prop :=
  ∃ user, pool.store.users.findByKey u = some user ∧
    ∀ hash, acceptedCount c cfg pool hash + user.mfaRecoveryCodesHash.count hash ≤
      initial.count hash

/-- A request writes codes back only while none of those it read has been used since. -/
def WritesUnused (initial : List String) (pool : Pool (FactorCall u) Database)
    (t : Thread (FactorCall u) Database) (_ : Database → Database) (succeeds : Bool) : Prop :=
  succeeds = true → ∀ user, writesBack c cfg t = some user →
    ∀ hash, acceptedCount c cfg pool hash + user.mfaRecoveryCodesHash.count hash ≤
      initial.count hash

theorem rest_after_read {t : Thread (FactorCall u) Database} {o : Observation Database}
    {rest : List (Observation Database)} (hseen : t.seen = o :: rest) :
    t.rest (FactorCall.program c cfg) =
      Prog.after ((readUser t).elim
        (Fallible.throw (if o.found.isSome then .noDocuments else .store))
        (t.call.check c cfg)) (rest.map (·.found)) := by
  unfold Thread.rest readUser
  rw [hseen, FactorCall.program_eq, List.map_cons, Prog.after]
  congr 1
  obtain ⟨time, found⟩ := o
  cases found with
  | none => rfl
  | some db =>
    simp only [Option.elim, List.head?_cons, Option.bind_some, Option.isSome_some]
    cases db.users.findByKey u <;> rfl

theorem accepted_observe {t : Thread (FactorCall u) Database} (h : writesBack c cfg t = none)
    (o : Observation Database) : accepted c cfg (t.observe o) = accepted c cfg t := by
  obtain ⟨call, seen⟩ := t
  rcases seen with _ | ⟨first, _ | ⟨second, rest⟩⟩
  · rfl
  · have htakes : (readUser ⟨call, [first]⟩).bind (call.request.takes c cfg) = none := by
      rw [Option.bind_eq_none_iff]
      intro user huser
      simpa using Option.filter_eq_none_iff.mp h user huser
    unfold accepted Thread.observe
    dsimp only [List.cons_append, List.nil_append]
    rw [show readUser ⟨call, [first, o]⟩ = readUser ⟨call, [first]⟩ from rfl, htakes, ite_self]
  · rfl

theorem factor_op_cases {pool : Pool (FactorCall u) Database} {k : ℕ}
    {t : Thread (FactorCall u) Database} {upd : Database → Database}
    {next : Option Database → Prog Database (Except AuthError Unit)}
    (h : pool.Performing (FactorCall.program c cfg) k t upd next) :
    (∃ user hash, writesBack c cfg t = some user ∧ t.call.request.takes c cfg user = some hash ∧
      upd = updateCodes u (t.call.request.left c user) ∧ accepted c cfg t = none ∧
      ∀ o, accepted c cfg (t.observe o) = if o.found.isSome then some hash else none) ∨
    (writesBack c cfg t = none ∧ (upd = id ∨ upd = disableFactor u)) := by
  have hthrow : ∀ e : AuthError, Prog.Performs (fun upd => upd = disableFactor u)
      (Fallible.throw e : Fallible Database AuthError Unit) := fun _ => trivial
  have hrest := h.rest
  rcases hseen : t.seen with _ | ⟨o, rest⟩
  · right
    unfold Thread.rest at hrest
    rw [hseen, List.map_nil, Prog.after_nil, FactorCall.program_eq, Prog.op.injEq] at hrest
    exact ⟨by simp [writesBack, hseen], Or.inl hrest.1.symm⟩
  · rw [rest_after_read c cfg hseen] at hrest
    cases huser : readUser t with
    | none =>
      rw [huser] at hrest
      refine Or.inr ⟨?_, Or.inr ((hthrow _).next_op hrest)⟩
      cases rest <;> simp [writesBack, hseen, huser]
    | some user =>
      rw [huser] at hrest
      dsimp only [Option.elim] at hrest
      cases htakes : t.call.request.takes c cfg user with
      | none =>
        refine Or.inr ⟨?_, Or.inr ?_⟩
        · cases rest <;> simp [writesBack, hseen, huser, htakes]
        · rcases FactorCall.check_of_takes_none c cfg htakes with ⟨e, hfails⟩ | hfinish
          · rw [hfails] at hrest
            exact (hthrow e).next_op hrest
          · rw [hfinish] at hrest
            exact t.call.performs_finish.next_op hrest
      | some hash =>
        rw [FactorCall.check_of_takes c cfg htakes] at hrest
        cases rest with
        | nil =>
          rw [List.map_nil, Prog.after_nil, Prog.op.injEq] at hrest
          refine Or.inl ⟨user, hash, ?_, htakes, hrest.1.symm, ?_, fun o' => ?_⟩
          · simp [writesBack, hseen, huser, htakes]
          · simp [accepted, hseen]
          · have hsame : readUser (t.observe o') = some user := by
              rw [← huser]
              simp [readUser, Thread.observe, hseen]
            simp only [accepted, hsame]
            simp [Thread.observe, hseen, htakes]
        | cons o' rest =>
          refine Or.inr ⟨by simp [writesBack, hseen], Or.inr ?_⟩
          rw [List.map_cons, Prog.after] at hrest
          cases hfound : o'.found with
          | none =>
            rw [hfound] at hrest
            exact (hthrow .store).next_op hrest
          | some db =>
            rw [hfound] at hrest
            exact t.call.performs_finish.next_op hrest

theorem acceptedCount_step {pool : Pool (FactorCall u) Database} {k : ℕ}
    {t : Thread (FactorCall u) Database} {upd : Database → Database}
    {next : Option Database → Prog Database (Except AuthError Unit)}
    (h : pool.Performing (FactorCall.program c cfg) k t upd next) (succeeds : Bool)
    (hash : String) :
    acceptedCount c cfg (pool.step (FactorCall.program c cfg) (.op k succeeds)) hash +
        (if accepted c cfg t = some hash then 1 else 0) =
      acceptedCount c cfg pool hash +
        if accepted c cfg (t.observe ⟨pool.time, if succeeds then some pool.store else none⟩) =
          some hash then 1 else 0 := by
  obtain ⟨hlt, hget⟩ := List.getElem?_eq_some_iff.mp h.thread
  unfold acceptedCount
  rw [h.step_eq]
  dsimp only
  rw [List.countP_set hlt, hget]
  have hcounted : accepted c cfg t = some hash →
      0 < pool.threads.countP fun t => accepted c cfg t = some hash := fun haccepted =>
    List.countP_pos_iff.mpr ⟨t, h.mem, by simpa using haccepted⟩
  simp only [decide_eq_true_eq]
  by_cases haccepted : accepted c cfg t = some hash
  · have := hcounted haccepted
    rw [if_pos haccepted]
    omega
  · rw [if_neg haccepted]
    omega

theorem find_of_takes {request : FactorRequest} {user : User} {hash : String}
    (h : request.takes c cfg user = some hash) :
    (user.mfaRecoveryCodesHash.find? fun stored =>
      c.compareHashAndPassword stored request.code) = some hash := by
  unfold FactorRequest.takes at h
  split_ifs at h
  split at h
  · cases h
  · split_ifs at h
    exact h

theorem count_left {request : FactorRequest} {user : User} {hash : String}
    (h : request.takes c cfg user = some hash) (other : String) :
    (request.left c user).count other + (if hash = other then 1 else 0) =
      user.mfaRecoveryCodesHash.count other := by
  obtain ⟨hmatch, before, rest, hcodes, hbefore⟩ :=
    List.find?_eq_some_iff_append.mp (find_of_takes c cfg h)
  have hleft : request.left c user = before ++ rest := by
    have hrest : (hash :: rest).eraseP (fun stored =>
        c.compareHashAndPassword stored request.code) = rest := List.eraseP_cons_of_pos hmatch
    unfold FactorRequest.left
    rw [hcodes, List.eraseP_append_right _ (by simpa using hbefore), hrest]
  rw [hleft, hcodes, List.count_append, List.count_append, List.count_cons, ← Nat.add_assoc]
  simp

theorem findByKey_updateCodes {db : Database} {user : User} (h : db.users.findByKey u = some user)
    (hashes : List String) : (updateCodes u hashes db).users.findByKey u =
      some { user with mfaRecoveryCodesHash := hashes } := by
  unfold updateCodes
  rw [Collection.findByKey_updateByKey_self, h]
  rfl

theorem SingleUse.writeBack {initial : List String} {pool pool' : Pool (FactorCall u) Database}
    (h : SingleUse c cfg initial pool) {request : FactorRequest} {user : User} {hash : String}
    (htakes : request.takes c cfg user = some hash)
    (hstore : pool'.store = updateCodes u (request.left c user) pool.store)
    (hcount : ∀ other, acceptedCount c cfg pool' other =
      acceptedCount c cfg pool other + if hash = other then 1 else 0) :
    SingleUse c cfg initial pool' ↔
      ∀ other, acceptedCount c cfg pool other + user.mfaRecoveryCodesHash.count other ≤
        initial.count other := by
  obtain ⟨stored, hstored, -⟩ := h
  have hcodes : ∀ other, acceptedCount c cfg pool' other + (request.left c user).count other =
      acceptedCount c cfg pool other + user.mfaRecoveryCodesHash.count other := fun other => by
    rw [hcount, ← count_left c cfg htakes other]
    omega
  unfold SingleUse
  rw [hstore, findByKey_updateCodes hstored]
  simp only [Option.some.injEq, exists_eq_left', hcodes]

theorem SingleUse.of_accepts_none {initial : List String}
    {pool pool' : Pool (FactorCall u) Database} (h : SingleUse c cfg initial pool)
    (hstore : pool'.store = pool.store ∨ pool'.store = disableFactor u pool.store)
    (hcount : ∀ hash, acceptedCount c cfg pool' hash = acceptedCount c cfg pool hash) :
    SingleUse c cfg initial pool' := by
  obtain ⟨user, huser, hall⟩ := h
  rcases hstore with hsame | hdisabled
  · exact ⟨user, hsame ▸ huser, fun hash => hcount hash ▸ hall hash⟩
  · refine ⟨{ user with mfaEnabled := false, mfaSecretEnc := "", mfaRecoveryCodesHash := [] },
      ?_, fun hash => ?_⟩
    · rw [hdisabled]
      unfold disableFactor
      rw [Collection.findByKey_updateByKey_self, huser]
      rfl
    · rw [hcount, List.count_nil]
      exact (Nat.le_add_right _ _).trans (hall hash)

theorem SingleUse.of_nodup {initial : List String} {pool : Pool (FactorCall u) Database}
    (h : SingleUse c cfg initial pool) (hinitial : initial.Nodup) (hash : String) :
    acceptedCount c cfg pool hash ≤ 1 ∧
      (acceptedCount c cfg pool hash = 1 → ∀ user, pool.store.users.findByKey u = some user →
        hash ∉ user.mfaRecoveryCodesHash) := by
  obtain ⟨stored, hstored, hall⟩ := h
  have honce := List.nodup_iff_count_le_one.mp hinitial hash
  have hcount := hall hash
  refine ⟨by omega, fun hused user huser => ?_⟩
  obtain rfl : stored = user := Option.some.inj (hstored.symm.trans huser)
  exact List.count_eq_zero.mp (by omega)

end Requests

theorem singleUse_run_iff (c : Primitives) (cfg : Config) (u : ObjectID) (db : Database)
    (user : User) (acts : List (Act (FactorCall u))) (huser : db.users.findByKey u = some user) :
    AllStates (Pool.step (FactorCall.program c cfg))
        (SingleUse c cfg user.mfaRecoveryCodesHash) { store := db } acts ↔
      AllSteps (Pool.step (FactorCall.program c cfg))
        (OnOperations (FactorCall.program c cfg) (WritesUnused c cfg user.mfaRecoveryCodesHash))
        { store := db } acts := by
  have hstart : SingleUse c cfg user.mfaRecoveryCodesHash
      ({ store := db } : Pool (FactorCall u) Database) :=
    ⟨user, huser, fun hash => by simp [acceptedCount]⟩
  refine allStates_iff_onOperations (I := SingleUse c cfg user.mfaRecoveryCodesHash)
    (fun pool call h => ?_) (fun pool k t upd next succeeds h hperforming => ?_) hstart acts
  · refine h.of_accepts_none c cfg (Or.inl rfl) fun hash => ?_
    simp [acceptedCount, Pool.step, accepted]
  · have hstep := hperforming.step_eq succeeds
    have hcount := acceptedCount_step c cfg hperforming succeeds
    rcases factor_op_cases c cfg hperforming with
      ⟨read, hash, hwrites, htakes, rfl, hnone, hafter⟩ | ⟨hwrites, hupd⟩
    · rw [hnone, hafter] at hcount
      unfold WritesUnused
      rw [hwrites]
      cases succeeds with
      | false =>
        refine iff_of_true (h.of_accepts_none c cfg (Or.inl ?_) fun other => ?_) (by simp)
        · rw [hstep]
          rfl
        · simpa using hcount other
      | true =>
        simp only [Option.some.injEq, forall_const, forall_eq']
        refine h.writeBack c cfg htakes ?_ fun other => ?_
        · rw [hstep]
          rfl
        · simpa using hcount other
    · refine iff_of_true (h.of_accepts_none c cfg ?_ fun hash => ?_) fun _ read hread => ?_
      · rw [hstep]
        cases succeeds with
        | false => exact Or.inl rfl
        | true =>
          rcases hupd with rfl | rfl
          · exact Or.inl rfl
          · exact Or.inr rfl
      · have := hcount hash
        rw [accepted_observe c cfg hwrites] at this
        omega
      · rw [hwrites] at hread
        cases hread

def sameCodeTogether : List (Act (FactorCall 1#96)) :=
  let request : FactorCall 1#96 :=
    ⟨alice.id.hex, by decide, .verifyChallenge "ABCDE-FGHJK" ⟨fun _ => 0, fun _ => NilObjectID⟩⟩
  [.call request, .call request, .op 0 true, .op 1 true, .op 0 true, .op 1 true]

theorem singleUse_run_iff_together :
    AllStates (Pool.step (FactorCall.program plainPrimitives exampleConfig))
        (SingleUse plainPrimitives exampleConfig alice.mfaRecoveryCodesHash)
        { store := aliceOnly.db } sameCodeTogether ↔
      AllSteps (Pool.step (FactorCall.program plainPrimitives exampleConfig))
        (OnOperations (FactorCall.program plainPrimitives exampleConfig)
          (WritesUnused plainPrimitives exampleConfig alice.mfaRecoveryCodesHash))
        { store := aliceOnly.db } sameCodeTogether :=
  singleUse_run_iff plainPrimitives exampleConfig 1#96 aliceOnly.db alice sameCodeTogether
    (by decide +kernel)

theorem sameCodeTogether_accepted_twice :
    aliceOnly.db.users.findByKey 1#96 = some alice ∧ alice.mfaRecoveryCodesHash.Nodup ∧
    acceptedCount plainPrimitives exampleConfig
      (run (Pool.step (FactorCall.program plainPrimitives exampleConfig))
        { store := aliceOnly.db } sameCodeTogether) "$2a$ABCDE-FGHJK" = 2 ∧
    ¬ AllStates (Pool.step (FactorCall.program plainPrimitives exampleConfig))
        (SingleUse plainPrimitives exampleConfig alice.mfaRecoveryCodesHash)
        { store := aliceOnly.db } sameCodeTogether := by
  have htwice : acceptedCount plainPrimitives exampleConfig
      (run (Pool.step (FactorCall.program plainPrimitives exampleConfig))
        { store := aliceOnly.db } sameCodeTogether) "$2a$ABCDE-FGHJK" = 2 := by
    decide +kernel
  refine ⟨by decide +kernel, by decide, htwice, fun h => ?_⟩
  have honce := (h.last.of_nodup plainPrimitives exampleConfig (by decide) "$2a$ABCDE-FGHJK").1
  omega

end Statora.Auth
