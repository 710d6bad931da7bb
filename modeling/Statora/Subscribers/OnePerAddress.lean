import Statora.Subscribers.LostUnsubscribe

/-!
# One record for an address

A subscription looks its normalised address up and inserts a record when it has found
none. No index refuses the second record of two requests that have both looked up.
-/

namespace Statora.Subscribers
open Library (Prog Fallible Collection Thread Pool Act Observation AllStates AllSteps run
  OnOperations allStates_iff_of_invariant allSteps_of_forall)

variable (lower : Char → Char)

/-- The two records belong to one address, in whatever spellings it was given. -/
def SameAddress (a b : Subscriber) : Prop :=
  ∃ address, a.email = normalize lower address ∧ b.email = normalize lower address

def OnePerAddress (pool : RequestPool) : Prop :=
  pool.store.subscribers.Exclusive (SameAddress lower)

/-- A subscription whose record the store takes would still find none for its address. -/
def LookupHolds (pool : RequestPool) (t : Thread Request Database) (_ : Database → Database)
    (succeeds : Bool) : Prop :=
  succeeds = true → ∀ email rt, t.call = .subscribe email rt → t.seen ≠ [] →
    foundBy lower t = none → pool.store.subscribers.contains (rt.newID 0) = false →
      findByEmail (normalize lower email) pool.store = none

def records (db : Database) : List (ObjectID × String) :=
  db.subscribers.docs.map fun sub => (sub.id, sub.email)

theorem records_replaceSubscriber {sub : Subscriber} {db : Database}
    (h : (sub.id, sub.email) ∈ records db) : records (replaceSubscriber sub db) = records db := by
  obtain ⟨stored, hstored, hrecord⟩ := List.mem_map.mp h
  rw [Prod.mk.injEq] at hrecord
  unfold records
  rw [replaceSubscriber_docs, List.map_map]
  refine List.map_congr_left fun other hother => ?_
  simp only [Function.comp_apply]
  split_ifs with hid
  · have hsame : other = stored := Collection.eq_of_key_eq hother hstored (hid.trans hrecord.1.symm)
    rw [hsame, hrecord.1, hrecord.2]
  · rfl

theorem mem_records_insertSubscriber {record : ObjectID × String} {db : Database}
    (h : record ∈ records db) (sub : Subscriber) : record ∈ records (insertSubscriber sub db) := by
  obtain ⟨stored, hstored, rfl⟩ := List.mem_map.mp h
  exact List.mem_map_of_mem (Collection.mem_insertOne_of_mem hstored)

theorem onePerAddress_iff (pool : RequestPool) :
    OnePerAddress lower pool ↔
      ∀ address, ∀ record ∈ records pool.store, ∀ other ∈ records pool.store,
        record.2 = normalize lower address → other.2 = normalize lower address →
          record.1 = other.1 := by
  unfold records
  simp only [List.forall_mem_map]
  constructor
  · intro h address a ha b hb hleft hright
    rw [h a ha b hb ⟨address, hleft, hright⟩]
  · rintro h a ha b hb ⟨address, hleft, hright⟩
    exact Collection.eq_of_key_eq ha hb (h address a ha b hb hleft hright)

theorem onePerAddress_of_records {pool pool' : RequestPool}
    (h : records pool'.store = records pool.store) (hone : OnePerAddress lower pool) :
    OnePerAddress lower pool' := by
  rw [onePerAddress_iff] at hone ⊢
  rwa [h]

def ReadsStored (pool : RequestPool) : Prop :=
  ∀ t ∈ pool.threads, ∀ found ∈ foundBy lower t, (found.id, found.email) ∈ records pool.store

structure Inv (pool : RequestPool) : Prop where
  one : OnePerAddress lower pool
  reads : ReadsStored lower pool

section Operations
variable {lower} {pool : RequestPool} {k : ℕ} {t : Thread Request Database}
  {upd : Database → Database}
  {next : Option Database → Prog Database (Except ServiceError Subscriber)}

theorem record_cases (hreads : ReadsStored lower pool)
    (h : pool.Performing (Request.program lower) k t upd next) :
    (t.seen = [] ∨ foundBy lower t ≠ none) ∧ records (upd pool.store) = records pool.store ∨
    ∃ email rt, t.call = .subscribe email rt ∧ t.seen ≠ [] ∧ foundBy lower t = none ∧
      upd = insertSubscriber (newSubscriberWithTokens (normalize lower email) rt) := by
  rcases request_op_cases lower h with ⟨hseen, rfl⟩ | ⟨lookup, db, write, hseen, hdb, hplan, rfl, -⟩
  · exact Or.inl ⟨Or.inl hseen, rfl⟩
  · have hfound : t.call.lookup lower db = foundBy lower t := by
      unfold foundBy
      rw [hseen, List.head?_cons, Option.bind_some, hdb, Option.bind_some]
    rw [hfound] at hplan
    have hplanned := Request.planned_of_ok lower hplan
    cases hsome : foundBy lower t with
    | none =>
      right
      rw [hsome] at hplanned
      generalize hcall : t.call = request at hplanned
      cases hplanned with
      | new email rt => exact ⟨email, rt, rfl, by simp [hseen], rfl, rfl⟩
    | some found =>
      left
      have hstored := hreads t h.mem found hsome
      rw [hsome] at hplanned
      refine ⟨Or.inr (by simp), ?_⟩
      cases write with
      | insert sub =>
        generalize t.call = request at hplanned
        cases hplanned
      | replace sub =>
        obtain ⟨hid, hemail, -⟩ := hplanned.kept
        refine records_replaceSubscriber ?_
        rwa [hid, hemail]

theorem mem_records_of_performing (hreads : ReadsStored lower pool)
    (h : pool.Performing (Request.program lower) k t upd next) {record : ObjectID × String}
    (hmem : record ∈ records pool.store) : record ∈ records (upd pool.store) := by
  rcases record_cases hreads h with ⟨-, hsame⟩ | ⟨email, rt, -, -, -, rfl⟩
  · rwa [hsame]
  · exact mem_records_insertSubscriber hmem _

theorem onePerAddress_insert_iff {email : String} {rt : TokenRuntime} {store : Database}
    (hone : store.subscribers.Exclusive (SameAddress lower)) :
    (insertSubscriber (newSubscriberWithTokens (normalize lower email) rt)
        store).subscribers.Exclusive (SameAddress lower) ↔
      (store.subscribers.contains (rt.newID 0) = false →
        findByEmail (normalize lower email) store = none) := by
  have hsymm : ∀ a b, SameAddress lower a b → SameAddress lower b a :=
    fun a b ⟨address, hleft, hright⟩ => ⟨address, hright, hleft⟩
  refine (Collection.exclusive_insertOne _ hsymm hone _).trans (imp_congr Iff.rfl ?_)
  unfold findByEmail Collection.findOne
  rw [List.find?_eq_none]
  refine forall_congr' fun stored => imp_congr_right fun _ => ?_
  rw [decide_eq_true_eq]
  refine not_congr ⟨?_, fun hemail => ⟨email, rfl, hemail⟩⟩
  rintro ⟨address, hnew, hstored⟩
  exact hstored.trans hnew.symm

theorem onePerAddress_op_iff (hinv : Inv lower pool)
    (h : pool.Performing (Request.program lower) k t upd next) (succeeds : Bool) :
    OnePerAddress lower (requestStep lower pool (.op k succeeds)) ↔
      LookupHolds lower pool t upd succeeds := by
  have hstore := h.store_step succeeds
  cases succeeds with
  | false =>
    refine iff_of_true (onePerAddress_of_records lower ?_ hinv.one) (fun hno => by cases hno)
    exact congrArg records hstore
  | true =>
    rw [if_pos rfl] at hstore
    rcases record_cases hinv.reads h with ⟨hread, hsame⟩ | ⟨email, rt, hcall, hseen, hnone, rfl⟩
    · refine iff_of_true (onePerAddress_of_records lower ?_ hinv.one)
        fun _ email rt _ hseen hnone => absurd hread (by simp [hseen, hnone])
      exact (congrArg records hstore).trans hsame
    · have hafter : OnePerAddress lower (requestStep lower pool (.op k true)) ↔
          (insertSubscriber (newSubscriberWithTokens (normalize lower email) rt)
            pool.store).subscribers.Exclusive (SameAddress lower) := by
        unfold OnePerAddress requestStep
        rw [hstore]
      rw [hafter, onePerAddress_insert_iff hinv.one]
      constructor
      · rintro hfree - email' rt' hcall' - -
        cases hcall.symm.trans hcall'
        exact hfree
      · exact fun hholds => hholds rfl email rt hcall hseen hnone

theorem readsStored_op (hreads : ReadsStored lower pool)
    (h : pool.Performing (Request.program lower) k t upd next) (succeeds : Bool) :
    ReadsStored lower (requestStep lower pool (.op k succeeds)) := by
  have hkept : ∀ record ∈ records pool.store,
      record ∈ records (requestStep lower pool (.op k succeeds)).store := fun record hmem => by
    have hstore : (requestStep lower pool (.op k succeeds)).store = _ := h.store_step succeeds
    rw [hstore]
    split_ifs
    · exact mem_records_of_performing hreads h hmem
    · exact hmem
  refine h.forall_step (fun t' hmem found hfound => hkept _ (hreads t' hmem found hfound))
    fun found hfound => hkept _ ?_
  rcases request_op_cases lower h with ⟨hseen, -⟩ | ⟨lookup, db, write, hseen, -⟩
  · obtain ⟨db, hdb, hmem⟩ := mem_of_foundBy_observe lower hseen hfound
    cases succeeds with
    | false => cases hdb
    | true =>
      cases hdb
      exact List.mem_map_of_mem hmem
  · rw [foundBy_observe lower hseen] at hfound
    exact hreads t h.mem found hfound

theorem readsStored_step (hreads : ReadsStored lower pool) (act : Act Request) :
    ReadsStored lower (requestStep lower pool act) := by
  cases act with
  | call request => exact Pool.forall_step_call hreads fun found hfound => by cases hfound
  | op k succeeds =>
    rcases pool.step_op_cases (Request.program lower) k succeeds with
      ⟨t, upd, next, hperforming⟩ | ⟨hstay, -⟩
    · exact readsStored_op hreads hperforming succeeds
    · unfold requestStep
      rwa [hstay]

theorem onePerAddress_step_iff (hinv : Inv lower pool) (act : Act Request) :
    OnePerAddress lower (requestStep lower pool act) ↔
      OnOperations (Request.program lower) (LookupHolds lower) pool act := by
  cases act with
  | call request => exact iff_of_true hinv.one trivial
  | op k succeeds =>
    rcases pool.step_op_cases (Request.program lower) k succeeds with
      ⟨t, upd, next, hperforming⟩ | ⟨hstay, hnone⟩
    · exact (onePerAddress_op_iff hinv hperforming succeeds).trans
        (hperforming.onOperations_iff succeeds).symm
    · unfold requestStep
      rw [hstay]
      exact iff_of_true hinv.one fun t upd next hperforming => absurd hperforming (hnone t upd next)

end Operations

/-- In any interleaving of requests there is one record for an address in every state
exactly when every insert finds what the lookup of its request has found: none. -/
theorem onePerAddress_run_iff (db : Database) (acts : List (Act Request))
    (h : OnePerAddress lower { store := db }) :
    AllStates (requestStep lower) (OnePerAddress lower) { store := db } acts ↔
      AllSteps (requestStep lower) (OnOperations (Request.program lower) (LookupHolds lower))
        { store := db } acts := by
  refine allStates_iff_of_invariant (P := fun _ _ => True) (J := Inv lower)
    (fun pool hinv => hinv.one)
    (fun pool act hinv _ hone => (onePerAddress_step_iff hinv act).mp hone)
    (fun pool act hinv _ hholds => ?_) ⟨h, fun t hmem => absurd hmem List.not_mem_nil⟩
    (allSteps_of_forall fun _ _ _ => trivial)
  exact ⟨(onePerAddress_step_iff hinv act).mpr hholds, readsStored_step hinv.reads act⟩

def rushedRuntime (n : ℕ) : TokenRuntime where
  clock := fun k => k
  newID := fun k => BitVec.ofNat 96 (8 * n + k + 1)
  random := fun k => Vector.replicate 32 (UInt8.ofNat (8 * n + k))

def rushedTwice : List (Act Request) :=
  [.call (.subscribe "ann@example.org" (rushedRuntime 0)),
    .call (.subscribe " Ann@Example.org" (rushedRuntime 1)),
    .op 0 true, .op 1 true, .op 0 true, .op 1 true]

theorem onePerAddress_run_iff_rushedTwice :
    AllStates (requestStep toLower) (OnePerAddress toLower) { store := {} } rushedTwice ↔
      AllSteps (requestStep toLower) (OnOperations (Request.program toLower) (LookupHolds toLower))
        { store := {} } rushedTwice :=
  onePerAddress_run_iff toLower {} rushedTwice fun _ ha => absurd ha List.not_mem_nil

theorem rushedTwice_two_records :
    ¬ AllStates (requestStep toLower) (OnePerAddress toLower) { store := {} } rushedTwice := by
  have hstored : records (run (requestStep toLower) { store := {} } rushedTwice).store =
      [(1#96, "ann@example.org"), (9#96, "ann@example.org")] := by
    decide +kernel
  intro h
  have hone := (onePerAddress_iff toLower _).mp h.last "ann@example.org"
  rw [hstored] at hone
  have hsame : 1#96 = 9#96 := hone (1#96, "ann@example.org") (by simp)
    (9#96, "ann@example.org") (by simp) (by decide) (by decide)
  exact absurd hsame (by decide)

end Statora.Subscribers
