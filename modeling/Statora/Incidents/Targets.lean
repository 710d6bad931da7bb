import Mathlib.Data.List.Perm.Subperm
import Statora.Incidents.Lifecycle

/-!
# Accepted targets

`validateIncidentTargets` compares counts. A count of documents by distinct ids
reaches the number of ids exactly when each of them is stored.
-/

namespace Statora.Incidents
open Library (Keyed Collection)

/-- The component is stored, and so are the listed sub-components, under it. -/
def TargetStored (db : Database) (target : IncidentAffectedComponent) : Prop :=
  (∃ component ∈ db.components.docs, component.id = target.componentID) ∧
    ∀ subID ∈ target.subComponentIDs, ∃ sub ∈ db.subcomponents.docs,
      sub.id = subID ∧ sub.componentID = target.componentID

theorem length_eq_dedupe_iff {found ids : List ObjectID} (hnodup : found.Nodup)
    (hsub : found ⊆ ids) : found.length = (dedupeObjectIDs ids).length ↔ ids ⊆ found := by
  have hsubperm : found.Subperm (dedupeObjectIDs ids) :=
    hnodup.subperm fun id hid => mem_dedupeObjectIDs.mpr (hsub hid)
  constructor
  · intro hlength id hid
    have hperm := hsubperm.perm_of_length_le hlength.ge
    exact hperm.mem_iff.mpr (mem_dedupeObjectIDs.mpr hid)
  · intro hall
    refine le_antisymm hsubperm.length_le ?_
    exact ((nodup_dedupeObjectIDs ids).subperm fun id hid =>
      hall (mem_dedupeObjectIDs.mp hid)).length_le

theorem mem_map_key_filter {α : Type} [Keyed α ObjectID] {c : Collection α}
    {ids : List ObjectID} {p : α → Bool} {id : ObjectID} :
    id ∈ (c.docs.filter fun a => Keyed.key a ∈ ids && p a).map Keyed.key ↔
      id ∈ ids ∧ ∃ a ∈ c.docs, Keyed.key a = id ∧ p a = true := by
  rw [List.mem_map]
  constructor
  · rintro ⟨a, ha, rfl⟩
    obtain ⟨hmem, hkeep⟩ := List.mem_filter.mp ha
    rw [Bool.and_eq_true, decide_eq_true_iff] at hkeep
    exact ⟨hkeep.1, a, hmem, rfl, hkeep.2⟩
  · rintro ⟨hid, a, ha, rfl, hp⟩
    refine ⟨a, List.mem_filter.mpr ⟨ha, ?_⟩, rfl⟩
    rw [Bool.and_eq_true, decide_eq_true_iff]
    exact ⟨hid, hp⟩

theorem countDocuments_eq_dedupe_iff {α : Type} [Keyed α ObjectID] (c : Collection α)
    (ids : List ObjectID) (p : α → Bool) :
    c.countDocuments (fun a => Keyed.key a ∈ ids && p a) = (dedupeObjectIDs ids).length ↔
      ∀ id ∈ ids, ∃ a ∈ c.docs, Keyed.key a = id ∧ p a = true := by
  have hcount : c.countDocuments (fun a => Keyed.key a ∈ ids && p a) =
      ((c.docs.filter fun a => Keyed.key a ∈ ids && p a).map Keyed.key).length :=
    (List.length_map _).symm
  rw [hcount, length_eq_dedupe_iff ((List.filter_sublist.map _).nodup c.nodup)
    fun id hid => (mem_map_key_filter.mp hid).1]
  exact forall₂_congr fun id hid => mem_map_key_filter.trans (and_iff_right hid)

theorem countComponents_eq_dedupe_iff (ids : List ObjectID) (db : Database) :
    countComponents ids db = (dedupeObjectIDs ids).length ↔
      ∀ id ∈ ids, ∃ component ∈ db.components.docs, component.id = id := by
  have h := countDocuments_eq_dedupe_iff db.components ids fun _ => true
  simp only [Bool.and_true, and_true] at h
  exact h

theorem subComponentsExist_iff (db : Database) (target : IncidentAffectedComponent) :
    subComponentsExist db target = true ↔ ∀ subID ∈ target.subComponentIDs,
      ∃ sub ∈ db.subcomponents.docs, sub.id = subID ∧ sub.componentID = target.componentID := by
  have h := countDocuments_eq_dedupe_iff db.subcomponents target.subComponentIDs
    fun sub => sub.componentID = target.componentID
  simp only [decide_eq_true_eq] at h
  rw [subComponentsExist, Bool.or_eq_true, decide_eq_true_iff, decide_eq_true_iff]
  refine (or_congr_right h).trans (or_iff_right_of_imp fun hnil => ?_)
  simp [hnil]

theorem targetsExist_iff (targets : List IncidentAffectedComponent) (db : Database) :
    targetsExist targets db = true ↔ ∀ target ∈ targets, TargetStored db target := by
  simp only [targetsExist, TargetStored]
  rw [Bool.or_eq_true, Bool.and_eq_true, decide_eq_true_iff, decide_eq_true_iff, List.all_eq_true,
    countComponents_eq_dedupe_iff, List.forall_mem_map]
  simp only [subComponentsExist_iff]
  rw [← forall₂_and]
  refine or_iff_right_of_imp fun hnil => ?_
  simp [hnil]

/-- The validation accepts exactly the targets that are stored, whatever their lists are:
it counts their distinct ids. -/
theorem validateIncidentTargets_accepts_iff (targets : List IncidentAffectedComponent)
    (db : Database) : ((validateIncidentTargets targets).run db).1 = .ok () ↔
      ∀ target ∈ targets, TargetStored db target := by
  rw [run_validateIncidentTargets, accepted, ← targetsExist_iff]
  cases targetsExist targets db <;> simp

theorem createdIncident_targets {input : CreateInput} {rt : Runtime} {db : Database}
    {incident : Incident} (h : createdIncident input rt db = some incident) :
    ∀ target ∈ incident.affectedComponentTargets, TargetStored db target := by
  simp only [createdIncident] at h
  obtain ⟨userID, -, h⟩ := Option.bind_eq_some_iff.mp h
  rcases hnorm : input.normalized with _ | ⟨compIDs, targets⟩ <;> rw [hnorm] at h
  · cases h
  · dsimp only at h
    split_ifs at h with hexist
    obtain rfl := Option.some.inj h
    exact (targetsExist_iff targets db).mp hexist

theorem checkedTargets_targets {input : RequestBody} {db : Database}
    {given : List ObjectID × List IncidentAffectedComponent}
    (h : checkedTargets input db = some (some given)) :
    ∀ target ∈ given.2, TargetStored db target := by
  simp only [checkedTargets] at h
  split_ifs at h with hpayload
  swap
  · cases h
  rcases hnorm : input.normalized with _ | ⟨compIDs, targets⟩ <;> rw [hnorm] at h
  · cases h
  · dsimp only at h
    split_ifs at h with hexist
    obtain rfl := Option.some.inj (Option.some.inj h)
    exact (targetsExist_iff targets db).mp hexist

end Statora.Incidents
