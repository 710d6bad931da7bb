import Statora.Worker.Steps

/-!
# What a check does to its target

The stored status of the monitor's target after a check, and which incident the
check resolves.
-/

namespace Statora.Worker
open Library (Collection)

namespace Check

def opens (c : Check) (db : Database) : Bool := c.isDown && opensOutage c.mon.id (c.logged db)

def warns (c : Check) : Bool := c.checksExpiry && c.warning

def closes (c : Check) (db : Database) : Option Outage :=
  if c.isDown then none else activeOutage c.mon.id db

def resolves (c : Check) (db : Database) : Option Incident :=
  (c.closes db).bind fun outage => recoveredIncident outage db

end Check

def Target.IsOf (outage : Outage) : Target → Prop
  | .component id => id = outage.componentID
  | .subComponent id => id = outage.subComponentID

instance (outage : Outage) : (T : Target) → Decidable (T.IsOf outage)
  | .component id => inferInstanceAs (Decidable (id = outage.componentID))
  | .subComponent id => inferInstanceAs (Decidable (id = outage.subComponentID))

/-- The step from `db` to `db'` changes the status of `T` and of no other target. -/
def Writes (T : Target) (change : ComponentStatus → ComponentStatus) (db db' : Database) : Prop :=
  ∀ T' : Target, T'.storedStatus db' =
    if T' = T then (T'.storedStatus db).map change else T'.storedStatus db

section Writes
variable (id : ObjectID) (status : ComponentStatus) (updatedAt : ℤ) (db : Database)

theorem writes_component {db db' : Database} {f : Component → Component}
    (hf : ∀ component, (f component).id = component.id)
    {change : ComponentStatus → ComponentStatus}
    (hchange : ∀ component, (f component).status = change component.status)
    (hcomponents : db'.components = db.components.updateByKey id f hf)
    (hsubs : db'.subcomponents = db.subcomponents) : Writes (.component id) change db db' := by
  intro T
  cases T with
  | subComponent sub => simp [Target.storedStatus, hsubs]
  | component comp =>
    simp only [Target.storedStatus, hcomponents, Target.component.injEq]
    exact Collection.map_findByKey_updateByKey _ _ _ f hf _ change hchange

theorem writes_subComponent {db db' : Database} {f : SubComponent → SubComponent}
    (hf : ∀ sub, (f sub).id = sub.id) {change : ComponentStatus → ComponentStatus}
    (hchange : ∀ sub, (f sub).status = change sub.status)
    (hcomponents : db'.components = db.components)
    (hsubs : db'.subcomponents = db.subcomponents.updateByKey id f hf) :
    Writes (.subComponent id) change db db' := by
  intro T
  cases T with
  | component comp => simp [Target.storedStatus, hcomponents]
  | subComponent sub =>
    simp only [Target.storedStatus, hsubs, Target.subComponent.injEq]
    exact Collection.map_findByKey_updateByKey _ _ _ f hf _ change hchange

theorem writes_setComponentStatus :
    Writes (.component id) (fun _ => status) db (setComponentStatus id status updatedAt db) :=
  writes_component id (componentWith_id status updatedAt) (fun _ => rfl) rfl rfl

theorem writes_setSubComponentStatus :
    Writes (.subComponent id) (fun _ => status) db
      (setSubComponentStatus id status updatedAt db) :=
  writes_subComponent id (subComponentWith_id status updatedAt) (fun _ => rfl) rfl rfl

theorem writes_setSubComponentStatusOnly :
    Writes (.subComponent id) (fun _ => status) db (setSubComponentStatusOnly id status db) :=
  writes_subComponent id (subComponentWithStatus_id status) (fun _ => rfl) rfl rfl

def restored (status : ComponentStatus) : ComponentStatus :=
  if status = .degradedPerf then .operational else status

theorem writes_restoreComponent :
    Writes (.component id) restored db (restoreComponent id updatedAt db) := by
  refine writes_component id ?_ ?_ (Collection.updateOne_key_and db.components id
    (fun component => component.status = .degradedPerf) (componentWith .operational updatedAt)
    (componentWith_id .operational updatedAt)) rfl
  · intro component
    split_ifs <;> rfl
  · intro component
    by_cases h : component.status = .degradedPerf <;> simp [restored, componentWith, h]

theorem writes_restoreSubComponent :
    Writes (.subComponent id) restored db (restoreSubComponent id updatedAt db) := by
  refine writes_subComponent id ?_ ?_ rfl (Collection.updateOne_key_and db.subcomponents id
    (fun sub => sub.status = .degradedPerf) (subComponentWith .operational updatedAt)
    (subComponentWith_id .operational updatedAt))
  · intro sub
    split_ifs <;> rfl
  · intro sub
    by_cases h : sub.status = .degradedPerf <;> simp [restored, subComponentWith, h]

end Writes

theorem target_ne_zero {mon : Monitor} {T : Target} (h : target mon = some T) :
    (T = .component mon.componentID ∧ mon.componentID.isZero = false) ∨
      (T = .subComponent mon.subComponentID ∧ mon.componentID.isZero = true ∧
        mon.subComponentID.isZero = false) := by
  unfold target at h
  split_ifs at h with hc hs
  · exact Or.inl ⟨(Option.some.inj h).symm, by simpa using hc⟩
  · exact Or.inr ⟨(Option.some.inj h).symm, by simpa using hc, by simpa using hs⟩

def Check.warnedStatus (c : Check) (db : Database) (status : ComponentStatus) : ComponentStatus :=
  if c.warns then .degradedPerf
  else if c.checksExpiry && restores c.mon db then restored status else status

theorem Writes.self {T : Target} {change : ComponentStatus → ComponentStatus}
    {db db' : Database} (h : Writes T change db db') :
    T.storedStatus db' = (T.storedStatus db).map change :=
  (h T).trans (if_pos rfl)

theorem storedStatus_warned {mon : Monitor} {T : Target} (h : target mon = some T)
    (warning : Bool) (rt : Runtime) (db : Database) :
    T.storedStatus (warned mon warning rt db) =
      (T.storedStatus db).map fun status =>
        if warning then .degradedPerf else if restores mon db then restored status else status := by
  unfold warned
  rw [h]
  cases T with
  | component id =>
    dsimp only
    split_ifs
    · exact (writes_setComponentStatus id .degradedPerf (rt.clock 0) db).self
    · exact (writes_restoreComponent id (rt.clock 0) db).self
    · exact Option.map_id'.symm
  | subComponent id =>
    dsimp only
    split_ifs
    · exact (writes_setSubComponentStatus id .degradedPerf (rt.clock 0) db).self
    · exact (writes_restoreSubComponent id (rt.clock 0) db).self
    · exact Option.map_id'.symm

theorem storedStatus_congr {db db' : Database} (T : Target)
    (hcomponents : db'.components = db.components)
    (hsubs : db'.subcomponents = db.subcomponents) : T.storedStatus db' = T.storedStatus db := by
  cases T <;> simp only [Target.storedStatus, hcomponents, hsubs]

theorem storedStatus_recorded {c : Check} {T : Target} (h : target c.mon = some T)
    (db : Database) :
    T.storedStatus (c.recorded db) = (T.storedStatus db).map (c.warnedStatus db) := by
  have hrestores : restores c.mon
      (recordCheck c.mon c.result (c.rt.check.clock 3) (c.logged db)) = restores c.mon db := by
    unfold restores hasActiveIncident
    rw [h]
    cases T <;> rfl
  have hbefore : T.storedStatus (recordCheck c.mon c.result (c.rt.check.clock 3) (c.logged db)) =
      T.storedStatus db := storedStatus_congr T rfl rfl
  unfold Check.recorded Check.warnedStatus Check.warns
  dsimp only
  generalize hdb : (if c.checksExpiry = true then _ else _ : Database) = afterWarning
  obtain ⟨records, hrecords⟩ :=
    run_updateDailyUptime c.mon.id c.result.status c.rt.uptime afterWarning
  have hframe : T.storedStatus { afterWarning with dailyUptime := records } =
      T.storedStatus afterWarning := storedStatus_congr T rfl rfl
  rw [hrecords]
  refine hframe.trans ?_
  rw [← hdb]
  cases c.checksExpiry with
  | false => simp [hbefore]
  | true => simp [storedStatus_warned h, hrestores, hbefore]

def Check.recovers (c : Check) (T : Target) (db : Database) : Bool :=
  (c.closes db).any fun outage => (recoveredIncident outage db).isSome && decide (T.IsOf outage)

theorem storedStatus_outageOpened {mon : Monitor} {T : Target} (h : target mon = some T)
    (rt : Runtime) (db : Database) :
    T.storedStatus (outageOpened mon rt db) =
      (T.storedStatus db).map fun _ => .majorOutage := by
  have hmark : T.storedStatus (outageOpened mon rt db) =
      T.storedStatus (markMajorOutage mon rt db) := storedStatus_congr T rfl rfl
  rw [hmark, markMajorOutage, h]
  cases T with
  | component id => exact (writes_setComponentStatus id .majorOutage (rt.clock 1) db).self
  | subComponent id => exact (writes_setSubComponentStatusOnly id .majorOutage db).self

theorem storedStatus_incidentRecovered {mon : Monitor} {T : Target} (h : target mon = some T)
    (outage : Outage) (incident : Incident) (rt : Runtime) (db : Database) :
    T.storedStatus (incidentRecovered outage incident rt db) =
      if T.IsOf outage then (T.storedStatus db).map fun _ => .operational
      else T.storedStatus db := by
  have hresolve : ∀ T : Target, T.storedStatus (resolveIncident incident (rt.clock 1) db) =
      T.storedStatus db := fun T => storedStatus_congr T rfl rfl
  have hcomponent := fun before (T : Target) =>
    writes_setComponentStatus outage.componentID .operational (rt.clock 1) before T
  have hsub := fun before (T : Target) =>
    writes_setSubComponentStatusOnly outage.subComponentID .operational before T
  unfold incidentRecovered
  rcases target_ne_zero h with ⟨rfl, hne⟩ | ⟨rfl, _, hne⟩
  · have hzero : mon.componentID = outage.componentID → outage.componentID.isZero = false :=
      fun heq => heq ▸ hne
    by_cases heq : mon.componentID = outage.componentID
    · cases hs : outage.subComponentID.isZero <;>
        simp [Target.IsOf, hcomponent, hsub, hresolve, hzero heq, heq]
    · cases hc : outage.componentID.isZero <;> cases hs : outage.subComponentID.isZero <;>
        simp [Target.IsOf, hcomponent, hsub, hresolve, heq]
  · have hzero : mon.subComponentID = outage.subComponentID →
        outage.subComponentID.isZero = false := fun heq => heq ▸ hne
    by_cases heq : mon.subComponentID = outage.subComponentID
    · cases hc : outage.componentID.isZero <;>
        simp [Target.IsOf, hcomponent, hsub, hresolve, hzero heq, heq]
    · cases hc : outage.componentID.isZero <;> cases hs : outage.subComponentID.isZero <;>
        simp [Target.IsOf, hcomponent, hsub, hresolve, heq]

theorem storedStatus_outageClosed {mon : Monitor} {T : Target} (h : target mon = some T)
    (outage : Outage) (rt : Runtime) (db : Database) :
    T.storedStatus (outageClosed outage rt db) =
      if (recoveredIncident outage db).isSome && decide (T.IsOf outage) then
        (T.storedStatus db).map fun _ => .operational
      else T.storedStatus db := by
  have hended : T.storedStatus (endOutage outage (rt.clock 0) db) = T.storedStatus db :=
    storedStatus_congr T rfl rfl
  unfold outageClosed
  cases recoveredIncident outage db with
  | none => exact hended
  | some incident =>
    dsimp only [Option.elim]
    rw [storedStatus_incidentRecovered h, hended]
    by_cases hof : T.IsOf outage <;> simp [hof]

theorem storedStatus_step {c : Check} {T : Target} (h : target c.mon = some T)
    (db : Database) :
    T.storedStatus (step db c) = (T.storedStatus db).map fun status =>
      if c.opens db then .majorOutage
      else if c.recovers T db then .operational
      else c.warnedStatus db status := by
  have hrecorded := storedStatus_recorded h db
  rw [step_eq, activeOutage_recorded, opensOutage_recorded]
  unfold Check.opens Check.recovers Check.closes
  cases hdown : c.isDown with
  | true =>
    cases hopens : opensOutage c.mon.id (c.logged db) with
    | true => simp [storedStatus_outageOpened h, hrecorded, Function.comp_def]
    | false => simp [hrecorded]
  | false =>
    cases hactive : activeOutage c.mon.id db with
    | none => simp [hrecorded]
    | some outage =>
      simp only [Bool.false_eq_true, if_false, Option.elim, Bool.false_and, Option.any_some,
        storedStatus_outageClosed h, recoveredIncident_recorded, hrecorded]
      split_ifs <;> simp [Function.comp_def]

theorem step_incidents_eq (db : Database) (c : Check) :
    (step db c).incidents =
      if c.opens db then (opensIncident c.mon (c.recorded db)).elim db.incidents
        fun id => db.incidents.insertOne (newIncident c.mon [id] c.rt.outage)
      else (c.resolves db).elim db.incidents
        fun incident => (resolveIncident incident (c.rt.outage.clock 1) db).incidents := by
  rw [step_incidents]
  unfold Check.opens Check.resolves Check.closes
  cases c.isDown with
  | true => cases opensOutage c.mon.id (c.logged db) <;> simp
  | false =>
    cases activeOutage c.mon.id db <;> simp

end Statora.Worker
