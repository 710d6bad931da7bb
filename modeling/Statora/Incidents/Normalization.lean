import Statora.Incidents.Service

/-!
# Normalized targets

`normalizeIncidentTargets` merges what a request says about each component. The
derivation of statuses reads a target without sub-components as the whole
component, and the merge adds up lists: next to a list the whole component is lost.
-/

namespace Statora.Incidents
open Library (sortSlice)

/-- A component as a whole, or one sub-component under it. -/
inductive Place
  | component (id : ObjectID)
  | sub (componentID subID : ObjectID)

/-- The reading of the derivation: an empty list covers the component and all that is
under it. -/
def Covers (target : IncidentAffectedComponent) : Place → Prop
  | .component id => target.componentID = id ∧ target.subComponentIDs = []
  | .sub componentID subID => target.componentID = componentID ∧
      (target.subComponentIDs = [] ∨ subID ∈ target.subComponentIDs)

def scope (targets : List IncidentAffectedComponent) : Set Place :=
  {place | ∃ target ∈ targets, Covers target place}

def parsedTarget (input : AffectedComponentInput) : Option IncidentAffectedComponent :=
  (objectIDFromHex input.componentID).map fun componentID =>
    ⟨componentID, input.subComponentIDs.filterMap objectIDFromHex⟩

def wholeComponent (id : ObjectID) : IncidentAffectedComponent := ⟨id, []⟩

structure TargetRequest where
  targets : List AffectedComponentInput
  legacy : List String
  legacyAlias : List String

namespace TargetRequest

def structured (req : TargetRequest) : List IncidentAffectedComponent :=
  req.targets.filterMap parsedTarget

def legacyIDs (req : TargetRequest) : List ObjectID :=
  (req.legacy ++ req.legacyAlias).filterMap objectIDFromHex

def mentioned (req : TargetRequest) : List ObjectID :=
  req.structured.map (·.componentID) ++ req.legacyIDs

/-- The union of the structured targets, and the whole of what only a legacy id names. -/
def scope (req : TargetRequest) : Set Place :=
  Incidents.scope (req.structured ++
    (req.legacyIDs.filter fun id => id ∉ req.structured.map (·.componentID)).map wholeComponent)

/-- No component is given both as a whole and in part. -/
def Unmixed (req : TargetRequest) : Prop :=
  ∀ whole ∈ req.structured, ∀ target ∈ req.structured,
    target.componentID = whole.componentID → whole.subComponentIDs = [] →
      target.subComponentIDs = []

end TargetRequest

theorem append_lt_append {α : Type} [LinearOrder α] {l l' : List α} (hlt : l < l')
    (hlength : l.length = l'.length) (m m' : List α) : l ++ m < l' ++ m' := by
  induction l generalizing l' with
  | nil =>
    rw [List.eq_nil_of_length_eq_zero hlength.symm] at hlt
    exact absurd hlt (List.not_lt_nil _)
  | cons a l ih =>
    cases l' with
    | nil => exact absurd hlength (by simp)
    | cons b l' =>
      rw [List.cons_append, List.cons_append, List.cons_lt_cons_iff]
      refine (List.cons_lt_cons_iff.mp hlt).imp_right fun ⟨hab, htail⟩ => ⟨hab, ?_⟩
      exact ih htail (Nat.succ.inj hlength)

theorem hexDigits_lt_hexDigits {n v w : ℕ} (hlt : v < w) (hw : w < 16 ^ n) :
    hexDigits n v < hexDigits n w := by
  induction n generalizing v w with
  | zero => omega
  | succ n ih =>
    rw [hexDigits, hexDigits]
    rcases (Nat.div_le_div_right (c := 16) hlt.le).lt_or_eq with hdiv | hdiv
    · refine append_lt_append (ih hdiv ?_) ?_ _ _
      · rw [pow_succ] at hw
        omega
      · rw [length_hexDigits, length_hexDigits]
    · rw [hdiv]
      refine List.append_left_lt ?_
      rw [List.cons_lt_cons_iff]
      exact Or.inl (by omega)

theorem hexChar_lt_hexChar : ∀ a < 16, ∀ b < a, hexChar b < hexChar a := by decide

theorem map_hexChar_lt {l l' : List ℕ} (hlt : l < l') (h' : ∀ digit ∈ l', digit < 16) :
    l.map hexChar < l'.map hexChar := by
  induction l generalizing l' with
  | nil =>
    cases l' with
    | nil => exact absurd hlt (List.not_lt_nil _)
    | cons b l' => exact List.nil_lt_cons _ _
  | cons a l ih =>
    cases l' with
    | nil => exact absurd hlt (List.not_lt_nil _)
    | cons b l' =>
      rw [List.forall_mem_cons] at h'
      rw [List.map_cons, List.map_cons, List.cons_lt_cons_iff]
      rcases List.cons_lt_cons_iff.mp hlt with hab | ⟨rfl, htail⟩
      · exact Or.inl (hexChar_lt_hexChar b h'.1 a hab)
      · exact Or.inr ⟨rfl, ih htail h'.2⟩

theorem hex_lt_hex {a b : ObjectID} (h : a.toNat < b.toNat) : a.hex < b.hex := by
  rw [String.lt_iff, ObjectID.hex, ObjectID.hex, String.toList_ofList,
    String.toList_ofList]
  exact map_hexChar_lt (hexDigits_lt_hexDigits h b.isLt) fun digit => hexDigits_lt

theorem sortByHex_pairwise (ids : List ObjectID) :
    (sortByHex ids).Pairwise (fun a b => a.toNat ≤ b.toNat) :=
  Library.sortSlice_pairwise BitVec.toNat (fun _ _ => decide_eq_true_iff) ids

theorem sortByHex_perm (ids : List ObjectID) : (sortByHex ids).Perm ids :=
  Library.sortSlice_perm _ _

theorem sortByHex_sorted {ids : List ObjectID} (h : ids.Nodup) :
    (sortByHex ids).Pairwise (fun a b => a.toNat < b.toNat) := by
  have hnodup : (sortByHex ids).Nodup := (sortByHex_perm ids).nodup_iff.mpr h
  refine ((sortByHex_pairwise ids).and hnodup).imp fun ⟨hle, hne⟩ => ?_
  exact hle.lt_of_ne fun heq => hne (BitVec.eq_of_toNat_eq heq)

def mergeParsed (bucket : List IncidentAffectedComponent) (target : IncidentAffectedComponent) :
    List IncidentAffectedComponent :=
  mergeTarget bucket target.componentID target.subComponentIDs

def merged (targets : List IncidentAffectedComponent) : List IncidentAffectedComponent :=
  targets.foldl mergeParsed []

theorem merged_snoc (targets : List IncidentAffectedComponent)
    (target : IncidentAffectedComponent) :
    merged (targets ++ [target]) = mergeParsed (merged targets) target := by
  rw [merged, List.foldl_append, List.foldl_cons, List.foldl_nil, merged]

theorem map_componentID_mergeTarget (bucket : List IncidentAffectedComponent) (id : ObjectID)
    (subIDs : List ObjectID) : (mergeTarget bucket id subIDs).map (·.componentID) =
      if id ∈ bucket.map (·.componentID) then bucket.map (·.componentID)
      else bucket.map (·.componentID) ++ [id] := by
  have hkeep : ∀ targets : List IncidentAffectedComponent, (targets.map fun target =>
      if target.componentID = id then
        { target with subComponentIDs := dedupeObjectIDs (target.subComponentIDs ++ subIDs) }
      else target).map (·.componentID) = targets.map (·.componentID) := fun targets => by
    rw [List.map_map]
    refine List.map_congr_left fun target _ => ?_
    rw [Function.comp_apply]
    split_ifs <;> rfl
  have hany : bucket.any (·.componentID = id) = true ↔ id ∈ bucket.map (·.componentID) := by
    simp
  rw [mergeTarget, hkeep]
  by_cases hmem : id ∈ bucket.map (·.componentID)
  · rw [if_pos (hany.mpr hmem), if_pos hmem]
  · rw [if_neg (mt hany.mp hmem), if_neg hmem, List.map_append, List.map_singleton]

theorem map_componentID_merged (targets : List IncidentAffectedComponent) :
    (merged targets).map (·.componentID) = dedupeObjectIDs (targets.map (·.componentID)) := by
  induction targets using List.reverseRecOn with
  | nil => rfl
  | append_singleton targets target ih =>
    rw [merged_snoc, mergeParsed, map_componentID_mergeTarget, ih, List.map_append,
      List.map_singleton, dedupeObjectIDs_append]

structure Gathers (targets : List IncidentAffectedComponent) (entry : IncidentAffectedComponent) :
    Prop where
  nodup : entry.subComponentIDs.Nodup
  mem_iff : ∀ subID, subID ∈ entry.subComponentIDs ↔
    ∃ target ∈ targets, target.componentID = entry.componentID ∧
      subID ∈ target.subComponentIDs

theorem gathers_of_mem_merged {targets : List IncidentAffectedComponent}
    {entry : IncidentAffectedComponent} (h : entry ∈ merged targets) : Gathers targets entry := by
  induction targets using List.reverseRecOn generalizing entry with
  | nil => cases h
  | append_singleton targets target ih =>
    have hall : ∀ old ∈ (if (merged targets).any (·.componentID = target.componentID) then
        merged targets else merged targets ++ [⟨target.componentID, []⟩]),
        Gathers targets old := by
      intro old hold
      split_ifs at hold with hany
      · exact ih hold
      · rcases List.mem_append.mp hold with hold | hold
        · exact ih hold
        · obtain rfl := List.mem_singleton.mp hold
          refine ⟨List.nodup_nil, fun subID => iff_of_false List.not_mem_nil ?_⟩
          rintro ⟨other, hother, hsame, -⟩
          have hids : target.componentID ∈ (merged targets).map (·.componentID) := by
            rw [map_componentID_merged, mem_dedupeObjectIDs]
            exact List.mem_map.mpr ⟨other, hother, hsame⟩
          obtain ⟨found, hfound, hkey⟩ := List.mem_map.mp hids
          exact hany (List.any_eq_true.mpr ⟨found, hfound, decide_eq_true hkey⟩)
    rw [merged_snoc, mergeParsed, mergeTarget] at h
    obtain ⟨old, hold, rfl⟩ := List.mem_map.mp h
    obtain ⟨hnodup, hmem⟩ := hall old hold
    split_ifs with hcomponent
    · refine ⟨nodup_dedupeObjectIDs _, fun subID => ?_⟩
      dsimp only
      rw [mem_dedupeObjectIDs, List.mem_append, hmem]
      simp [or_and_right, exists_or, hcomponent]
    · refine ⟨hnodup, fun subID => (hmem subID).trans ?_⟩
      simp [or_and_right, exists_or, Ne.symm hcomponent]

theorem mapM_parseObjectID {raws : List String} {ids : List ObjectID}
    (h : raws.mapM parseObjectID = .ok ids) : raws.filterMap objectIDFromHex = ids := by
  induction raws generalizing ids with
  | nil => exact Except.ok.inj h
  | cons raw raws ih =>
    rw [List.mapM_cons, parseObjectID] at h
    cases hraw : objectIDFromHex raw with
    | none =>
      rw [hraw] at h
      cases h
    | some id =>
      cases hraws : raws.mapM parseObjectID with
      | error e =>
        rw [hraw, hraws] at h
        cases h
      | ok rest =>
        rw [hraw, hraws] at h
        rw [List.filterMap_cons_some hraw, ih hraws]
        exact Except.ok.inj h

theorem mergeInput_eq_ok {bucket bucket' : List IncidentAffectedComponent}
    {input : AffectedComponentInput} (h : mergeInput bucket input = .ok bucket') :
    ∃ target, parsedTarget input = some target ∧ bucket' = mergeParsed bucket target := by
  unfold mergeInput at h
  split_ifs at h with hempty
  · cases h
  · rw [parseObjectID] at h
    cases hcomponent : objectIDFromHex input.componentID with
    | none =>
      rw [hcomponent] at h
      cases h
    | some componentID =>
      cases hsubs : input.subComponentIDs.mapM parseObjectID with
      | error e =>
        rw [hcomponent, hsubs] at h
        cases h
      | ok subIDs =>
        rw [hcomponent, hsubs] at h
        refine ⟨⟨componentID, subIDs⟩, ?_, (Except.ok.inj h).symm⟩
        rw [parsedTarget, hcomponent, mapM_parseObjectID hsubs, Option.map_some]

theorem mergeLegacy_eq_ok {bucket bucket' : List IncidentAffectedComponent} {rawID : String}
    (h : mergeLegacy bucket rawID = .ok bucket') :
    ∃ id, objectIDFromHex rawID = some id ∧ bucket' = mergeParsed bucket (wholeComponent id) := by
  rw [mergeLegacy, parseObjectID] at h
  cases hraw : objectIDFromHex rawID with
  | none =>
    rw [hraw] at h
    cases h
  | some id =>
    rw [hraw] at h
    exact ⟨id, rfl, (Except.ok.inj h).symm⟩

theorem foldlM_merge {ι : Type}
    (merge : List IncidentAffectedComponent → ι →
      Except TargetError (List IncidentAffectedComponent))
    (parse : ι → Option IncidentAffectedComponent)
    (hmerge : ∀ bucket bucket' input, merge bucket input = .ok bucket' →
      ∃ target, parse input = some target ∧ bucket' = mergeParsed bucket target)
    {inputs : List ι} {bucket bucket' : List IncidentAffectedComponent}
    (h : inputs.foldlM merge bucket = .ok bucket') :
    bucket' = (inputs.filterMap parse).foldl mergeParsed bucket := by
  induction inputs generalizing bucket with
  | nil => exact (Except.ok.inj h).symm
  | cons input inputs ih =>
    rw [List.foldlM_cons] at h
    cases hfirst : merge bucket input with
    | error e =>
      rw [hfirst] at h
      cases h
    | ok next =>
      rw [hfirst] at h
      obtain ⟨target, hparse, rfl⟩ := hmerge _ _ _ hfirst
      rw [List.filterMap_cons_some hparse, List.foldl_cons]
      exact ih h

def sortedTarget (target : IncidentAffectedComponent) : IncidentAffectedComponent :=
  { target with subComponentIDs := sortByHex target.subComponentIDs }

def TargetRequest.parsed (req : TargetRequest) : List IncidentAffectedComponent :=
  req.structured ++ req.legacyIDs.map wholeComponent

theorem dedupeObjectIDs_of_nodup {ids : List ObjectID} (h : ids.Nodup) :
    dedupeObjectIDs ids = ids := by
  induction ids using List.reverseRecOn with
  | nil => rfl
  | append_singleton ids id ih =>
    obtain ⟨hids, -, hdisjoint⟩ := List.nodup_append.mp h
    rw [dedupeObjectIDs_append, if_neg, ih hids]
    rw [mem_dedupeObjectIDs]
    exact fun hmem => hdisjoint id hmem id (List.mem_singleton_self id) rfl

theorem nodup_map_componentID_merged (targets : List IncidentAffectedComponent) :
    ((merged targets).map (·.componentID)).Nodup := by
  rw [map_componentID_merged]
  exact nodup_dedupeObjectIDs _

theorem normalizeIncidentTargets_eq_ok {req : TargetRequest} {allowEmpty : Bool}
    {ids : List ObjectID} {out : List IncidentAffectedComponent}
    (h : normalizeIncidentTargets req.targets req.legacy req.legacyAlias allowEmpty =
      .ok (ids, out)) :
    ids = out.map (·.componentID) ∧ out = (merged req.parsed).map sortedTarget ∧
      (allowEmpty = false → ids ≠ []) := by
  rw [normalizeIncidentTargets] at h
  cases hinputs : req.targets.foldlM mergeInput [] with
  | error e =>
    rw [hinputs] at h
    cases h
  | ok bucket =>
    cases hlegacy : (req.legacy ++ req.legacyAlias).foldlM mergeLegacy bucket with
    | error e =>
      rw [hinputs] at h
      dsimp only [bind, Except.bind] at h
      rw [hlegacy] at h
      cases h
    | ok bucket' =>
      have hbucket := foldlM_merge mergeInput parsedTarget (fun _ _ _ => mergeInput_eq_ok) hinputs
      have hbucket' := foldlM_merge mergeLegacy
        (fun rawID => (objectIDFromHex rawID).map wholeComponent) (fun _ _ rawID hraw => by
          obtain ⟨id, hid, rfl⟩ := mergeLegacy_eq_ok hraw
          exact ⟨wholeComponent id, by rw [hid, Option.map_some], rfl⟩) hlegacy
      have hmerged : bucket' = merged req.parsed := by
        rw [hbucket', hbucket, merged, TargetRequest.parsed, List.foldl_append,
          TargetRequest.legacyIDs, List.map_filterMap]
        rfl
      rw [hinputs] at h
      dsimp only [bind, Except.bind] at h
      rw [hlegacy] at h
      dsimp only at h
      have hids : dedupeObjectIDs (bucket'.map (·.componentID)) = bucket'.map (·.componentID) :=
        dedupeObjectIDs_of_nodup (hmerged ▸ nodup_map_componentID_merged _)
      have hsorted : (bucket'.map sortedTarget).map (·.componentID) =
          bucket'.map (·.componentID) := List.map_map
      rw [hids] at h
      split_ifs at h with hnone
      cases h
      refine ⟨hsorted.symm, congrArg (List.map sortedTarget) hmerged, fun hempty hnil => hnone ?_⟩
      rw [hempty, hnil]
      rfl

def inputOf (target : IncidentAffectedComponent) : AffectedComponentInput :=
  ⟨target.componentID.hex, target.subComponentIDs.map ObjectID.hex⟩

theorem parseObjectID_hex (id : ObjectID) : parseObjectID id.hex = .ok id := by
  rw [parseObjectID, objectIDFromHex_hex]
  rfl

theorem mapM_parseObjectID_hex (ids : List ObjectID) :
    (ids.map ObjectID.hex).mapM parseObjectID = .ok ids := by
  induction ids with
  | nil => rfl
  | cons id ids ih =>
    rw [List.map_cons, List.mapM_cons, parseObjectID_hex, ih]
    rfl

theorem hex_ne_empty (id : ObjectID) : id.hex ≠ "" := by
  intro hempty
  have hparsed := objectIDFromHex_hex id
  rw [hempty] at hparsed
  cases hparsed

theorem mergeInput_inputOf (bucket : List IncidentAffectedComponent)
    (target : IncidentAffectedComponent) :
    mergeInput bucket (inputOf target) = .ok (mergeParsed bucket target) := by
  rw [mergeInput, inputOf]
  dsimp only
  rw [if_neg (hex_ne_empty _), parseObjectID_hex, mapM_parseObjectID_hex]
  rfl

theorem mergeLegacy_hex (bucket : List IncidentAffectedComponent) (id : ObjectID) :
    mergeLegacy bucket id.hex = .ok (mergeParsed bucket (wholeComponent id)) := by
  rw [mergeLegacy, parseObjectID_hex]
  rfl

theorem foldlM_mergeInput_inputOf (bucket targets : List IncidentAffectedComponent) :
    (targets.map inputOf).foldlM mergeInput bucket = .ok (targets.foldl mergeParsed bucket) := by
  induction targets generalizing bucket with
  | nil => rfl
  | cons target targets ih =>
    rw [List.map_cons, List.foldlM_cons, mergeInput_inputOf]
    exact ih _

theorem foldlM_mergeLegacy_hex (bucket : List IncidentAffectedComponent) (ids : List ObjectID) :
    (ids.map ObjectID.hex).foldlM mergeLegacy bucket =
      .ok ((ids.map wholeComponent).foldl mergeParsed bucket) := by
  induction ids generalizing bucket with
  | nil => rfl
  | cons id ids ih =>
    rw [List.map_cons, List.foldlM_cons, mergeLegacy_hex]
    exact ih _

structure Normal (targets : List IncidentAffectedComponent) : Prop where
  nodup : (targets.map (·.componentID)).Nodup
  sorted : ∀ target ∈ targets,
    target.subComponentIDs.Pairwise (fun a b => a.toNat < b.toNat)

theorem nodup_of_sorted {ids : List ObjectID} (h : ids.Pairwise (fun a b => a.toNat < b.toNat)) :
    ids.Nodup := h.imp fun hlt => ne_of_apply_ne BitVec.toNat hlt.ne

theorem mergeParsed_of_listed {targets : List IncidentAffectedComponent} (h : Normal targets)
    {id : ObjectID} (hid : id ∈ targets.map (·.componentID)) :
    mergeParsed targets (wholeComponent id) = targets := by
  obtain ⟨found, hfound, hkey⟩ := List.mem_map.mp hid
  have hany : targets.any (·.componentID = id) = true :=
    List.any_eq_true.mpr ⟨found, hfound, decide_eq_true hkey⟩
  rw [mergeParsed, mergeTarget, wholeComponent, if_pos hany]
  refine (List.map_congr_left fun target htarget => ?_).trans (List.map_id' _)
  split_ifs
  · rw [List.append_nil, dedupeObjectIDs_of_nodup (nodup_of_sorted (h.sorted target htarget))]
  · rfl

theorem merged_of_normal {targets : List IncidentAffectedComponent} (h : Normal targets) :
    merged targets = targets := by
  induction targets using List.reverseRecOn with
  | nil => rfl
  | append_singleton targets target ih =>
    obtain ⟨hnodup, hsorted⟩ := h
    rw [List.map_append, List.nodup_append] at hnodup
    have hrest : Normal targets :=
      ⟨hnodup.1, fun t ht => hsorted t (List.mem_append_left _ ht)⟩
    have hnew : ∀ t ∈ targets, t.componentID ≠ target.componentID := fun t ht =>
      hnodup.2.2 _ (List.mem_map_of_mem ht) _ (List.mem_singleton_self _)
    have hsubs : dedupeObjectIDs ([] ++ target.subComponentIDs) = target.subComponentIDs :=
      dedupeObjectIDs_of_nodup (nodup_of_sorted (hsorted target (by simp)))
    have hany : targets.any (·.componentID = target.componentID) = false :=
      List.any_eq_false.mpr fun t ht => by simpa using hnew t ht
    rw [merged_snoc, ih hrest, mergeParsed, mergeTarget, hany, if_neg (by simp), List.map_append,
      List.map_singleton, if_pos rfl, hsubs]
    congr 1
    exact (List.map_congr_left fun t ht => if_neg (hnew t ht)).trans (List.map_id' _)

theorem sortedTarget_of_sorted {target : IncidentAffectedComponent}
    (h : target.subComponentIDs.Pairwise (fun a b => a.toNat < b.toNat)) :
    sortedTarget target = target := by
  have hsort : sortByHex target.subComponentIDs = target.subComponentIDs :=
    (h.imp fun hlt => by simpa using hlt.le).insertionSort_eq
  rw [sortedTarget, hsort]

theorem normalizeIncidentTargets_of_normal {targets : List IncidentAffectedComponent}
    (h : Normal targets) {ids also : List ObjectID}
    (hids : ∀ id ∈ ids ++ also, id ∈ targets.map (·.componentID)) {allowEmpty : Bool}
    (hempty : allowEmpty = false → targets ≠ []) :
    normalizeIncidentTargets (targets.map inputOf) (ids.map ObjectID.hex)
        (also.map ObjectID.hex) allowEmpty = .ok (targets.map (·.componentID), targets) := by
  have hlegacy : ∀ ids : List ObjectID, (∀ id ∈ ids, id ∈ targets.map (·.componentID)) →
      (ids.map wholeComponent).foldl mergeParsed targets = targets := by
    intro ids hall
    induction ids with
    | nil => rfl
    | cons id ids ih =>
      rw [List.forall_mem_cons] at hall
      rw [List.map_cons, List.foldl_cons, mergeParsed_of_listed h hall.1]
      exact ih hall.2
  have hfirst : (targets.map inputOf).foldlM mergeInput [] = .ok targets := by
    rw [foldlM_mergeInput_inputOf, ← merged, merged_of_normal h]
  have hsecond : (ids.map ObjectID.hex ++ also.map ObjectID.hex).foldlM mergeLegacy targets =
      .ok targets := by
    rw [← List.map_append, foldlM_mergeLegacy_hex, hlegacy _ hids]
  have hsorted : targets.map sortedTarget = targets :=
    (List.map_congr_left fun t ht => sortedTarget_of_sorted (h.sorted t ht)).trans
      (List.map_id' _)
  have hsome : ¬ (!allowEmpty && decide ((targets.map (·.componentID)).length = 0)) = true := by
    cases allowEmpty with
    | true => simp
    | false => simpa using hempty rfl
  rw [normalizeIncidentTargets, hfirst]
  dsimp only [bind, Except.bind]
  rw [hsecond]
  dsimp only
  rw [dedupeObjectIDs_of_nodup h.nodup, if_neg hsome]
  exact congrArg (fun out => Except.ok (targets.map (·.componentID), out)) hsorted

theorem mem_scope_component {targets : List IncidentAffectedComponent} {id : ObjectID} :
    Place.component id ∈ scope targets ↔
      ∃ target ∈ targets, target.componentID = id ∧ target.subComponentIDs = [] := Iff.rfl

def Lists (targets : List IncidentAffectedComponent) (componentID subID : ObjectID) : Prop :=
  ∃ target ∈ targets, target.componentID = componentID ∧ subID ∈ target.subComponentIDs

theorem mem_scope_sub {targets : List IncidentAffectedComponent} {componentID subID : ObjectID} :
    Place.sub componentID subID ∈ scope targets ↔
      Place.component componentID ∈ scope targets ∨ Lists targets componentID subID := by
  rw [mem_scope_component, Lists, ← exists_or]
  refine exists_congr fun target => ?_
  rw [← and_or_left, ← and_or_left]
  exact Iff.rfl

theorem lists_append_whole {targets : List IncidentAffectedComponent} (ids : List ObjectID)
    {componentID subID : ObjectID} :
    Lists (targets ++ ids.map wholeComponent) componentID subID ↔
      Lists targets componentID subID := by
  constructor
  · rintro ⟨target, htarget, hsame, hsub⟩
    rcases List.mem_append.mp htarget with htarget | htarget
    · exact ⟨target, htarget, hsame, hsub⟩
    · obtain ⟨id, -, rfl⟩ := List.mem_map.mp htarget
      cases hsub
  · exact fun ⟨target, htarget, hlists⟩ => ⟨target, List.mem_append_left _ htarget, hlists⟩

theorem scope_map_sortedTarget (targets : List IncidentAffectedComponent) :
    scope (targets.map sortedTarget) = scope targets := by
  have hnil : ∀ ids : List ObjectID, sortByHex ids = [] ↔ ids = [] := fun ids => by
    rw [← List.length_eq_zero_iff, (sortByHex_perm ids).length_eq, List.length_eq_zero_iff]
  have hcovers : ∀ target place, Covers (sortedTarget target) place ↔ Covers target place := by
    intro target place
    cases place with
    | component id => exact and_congr_right fun _ => hnil _
    | sub componentID subID =>
      exact and_congr_right fun _ => or_congr (hnil _) (sortByHex_perm _).mem_iff
  ext place
  simp only [scope, Set.mem_ofPred_eq, List.mem_map, exists_exists_and_eq_and, hcovers]

theorem mem_scope_merged_component {targets : List IncidentAffectedComponent} {id : ObjectID} :
    Place.component id ∈ scope (merged targets) ↔
      id ∈ targets.map (·.componentID) ∧
        ∀ target ∈ targets, target.componentID = id → target.subComponentIDs = [] := by
  rw [mem_scope_component, ← mem_dedupeObjectIDs, ← map_componentID_merged]
  constructor
  · rintro ⟨entry, hentry, rfl, hempty⟩
    refine ⟨List.mem_map_of_mem hentry, fun target htarget hsame => ?_⟩
    refine List.eq_nil_iff_forall_not_mem.mpr fun subID hsub => ?_
    have hlisted := ((gathers_of_mem_merged hentry).mem_iff subID).mpr
      ⟨target, htarget, hsame, hsub⟩
    rw [hempty] at hlisted
    cases hlisted
  · rintro ⟨hid, hall⟩
    obtain ⟨entry, hentry, rfl⟩ := List.mem_map.mp hid
    refine ⟨entry, hentry, rfl, List.eq_nil_iff_forall_not_mem.mpr fun subID hsub => ?_⟩
    obtain ⟨target, htarget, hsame, hlisted⟩ :=
      ((gathers_of_mem_merged hentry).mem_iff subID).mp hsub
    rw [hall target htarget hsame] at hlisted
    cases hlisted

theorem lists_merged {targets : List IncidentAffectedComponent} {componentID subID : ObjectID} :
    Lists (merged targets) componentID subID ↔ Lists targets componentID subID := by
  constructor
  · rintro ⟨entry, hentry, rfl, hsub⟩
    exact ((gathers_of_mem_merged hentry).mem_iff subID).mp hsub
  · rintro ⟨target, htarget, rfl, hsub⟩
    have hid : target.componentID ∈ (merged targets).map (·.componentID) := by
      rw [map_componentID_merged, mem_dedupeObjectIDs]
      exact List.mem_map_of_mem htarget
    obtain ⟨entry, hentry, hkey⟩ := List.mem_map.mp hid
    exact ⟨entry, hentry, hkey,
      ((gathers_of_mem_merged hentry).mem_iff subID).mpr ⟨target, htarget, hkey.symm, hsub⟩⟩

namespace TargetRequest
variable {req : TargetRequest} {id componentID subID : ObjectID}

theorem mem_parsed {target : IncidentAffectedComponent} :
    target ∈ req.parsed ↔ target ∈ req.structured ∨
      ∃ id ∈ req.legacyIDs, wholeComponent id = target := by
  rw [parsed, List.mem_append, List.mem_map]

theorem mem_scope_component : Place.component id ∈ req.scope ↔
    (∃ target ∈ req.structured, target.componentID = id ∧ target.subComponentIDs = []) ∨
      (id ∈ req.legacyIDs ∧ ∀ target ∈ req.structured, target.componentID ≠ id) := by
  rw [scope, Incidents.mem_scope_component]
  simp only [List.mem_append, or_and_right, exists_or, List.mem_map, List.mem_filter,
    decide_eq_true_eq, exists_exists_and_eq_and, wholeComponent, and_true, exists_eq_right,
    not_exists, not_and]

theorem mem_scope_sub : Place.sub componentID subID ∈ req.scope ↔
    Place.component componentID ∈ req.scope ∨ Lists req.structured componentID subID :=
  Incidents.mem_scope_sub.trans (or_congr_right (lists_append_whole _))

theorem mem_merged_component (req : TargetRequest) :
    Place.component id ∈ Incidents.scope (merged req.parsed) ↔
      Place.component id ∈ req.scope ∧
        ∀ target ∈ req.structured, target.componentID = id → target.subComponentIDs = [] := by
  rw [mem_scope_merged_component, mem_scope_component]
  constructor
  · rintro ⟨hid, hall⟩
    have hstructured : ∀ target ∈ req.structured, target.componentID = id →
        target.subComponentIDs = [] := fun target ht => hall target (mem_parsed.mpr (Or.inl ht))
    refine ⟨?_, hstructured⟩
    by_cases hnamed : ∃ target ∈ req.structured, target.componentID = id
    · obtain ⟨target, ht, hsame⟩ := hnamed
      exact Or.inl ⟨target, ht, hsame, hstructured target ht hsame⟩
    · obtain ⟨target, ht, hsame⟩ := List.mem_map.mp hid
      rcases mem_parsed.mp ht with ht | ⟨legacyID, hlegacy, rfl⟩
      · exact absurd ⟨target, ht, hsame⟩ hnamed
      · obtain rfl : legacyID = id := hsame
        exact Or.inr ⟨hlegacy, fun target ht hsame => hnamed ⟨target, ht, hsame⟩⟩
  · rintro ⟨hcovered, hall⟩
    refine ⟨?_, fun target ht hsame => ?_⟩
    · rcases hcovered with ⟨target, ht, rfl, -⟩ | ⟨hlegacy, -⟩
      · exact List.mem_map_of_mem (mem_parsed.mpr (Or.inl ht))
      · exact List.mem_map.mpr ⟨wholeComponent id, mem_parsed.mpr (Or.inr ⟨id, hlegacy, rfl⟩), rfl⟩
    · rcases mem_parsed.mp ht with ht | ⟨legacyID, -, rfl⟩
      · exact hall target ht hsame
      · rfl

theorem mem_merged_sub (req : TargetRequest) :
    Place.sub componentID subID ∈ Incidents.scope (merged req.parsed) ↔
      Place.component componentID ∈ Incidents.scope (merged req.parsed) ∨
        Lists req.structured componentID subID :=
  Incidents.mem_scope_sub.trans (or_congr_right (lists_merged.trans (lists_append_whole _)))

/-- The merge covers what the request asks for unless a component is given as a whole and
in part. -/
theorem scope_merged_iff (req : TargetRequest) :
    Incidents.scope (merged req.parsed) = req.scope ↔ req.Unmixed := by
  constructor
  · intro heq whole hwhole target htarget hsame hempty
    have hcovered : Place.component whole.componentID ∈ req.scope :=
      mem_scope_component.mpr (Or.inl ⟨whole, hwhole, rfl, hempty⟩)
    rw [← heq] at hcovered
    exact (req.mem_merged_component.mp hcovered).2 target htarget hsame
  · intro hunmixed
    have hcomponent : ∀ id, Place.component id ∈ Incidents.scope (merged req.parsed) ↔
        Place.component id ∈ req.scope := fun id => by
      refine req.mem_merged_component.trans (and_iff_left_of_imp fun hcovered target ht hsame => ?_)
      rcases mem_scope_component.mp hcovered with ⟨whole, hwhole, rfl, hempty⟩ | ⟨-, hnone⟩
      · exact hunmixed whole hwhole target ht hsame hempty
      · exact absurd hsame (hnone target ht)
    ext place
    cases place with
    | component id => exact hcomponent id
    | sub componentID subID => rw [mem_merged_sub, mem_scope_sub, hcomponent]

end TargetRequest

structure FirstMentions (mentioned ids : List ObjectID) : Prop where
  mem_iff : ∀ id, id ∈ ids ↔ id ∈ mentioned
  ordered : ids.Pairwise (fun a b => mentioned.idxOf a < mentioned.idxOf b)

structure PreservesScope (req : TargetRequest) (allowEmpty : Bool) (ids : List ObjectID)
    (out : List IncidentAffectedComponent) : Prop where
  firstMentions : FirstMentions req.mentioned (out.map (·.componentID))
  affected : ids = out.map (·.componentID)
  sorted : ∀ target ∈ out, target.subComponentIDs.Pairwise (fun a b => a.hex < b.hex)
  scope : scope out = req.scope
  stable : ∀ legacy legacyAlias : List ObjectID, legacy ⊆ ids → legacyAlias ⊆ ids →
    normalizeIncidentTargets (out.map inputOf) (legacy.map ObjectID.hex)
      (legacyAlias.map ObjectID.hex) allowEmpty = .ok (ids, out)

theorem firstMentions_dedupe (ids : List ObjectID) :
    FirstMentions ids (dedupeObjectIDs ids) := by
  refine ⟨fun id => mem_dedupeObjectIDs, ?_⟩
  induction ids using List.reverseRecOn with
  | nil => exact List.Pairwise.nil
  | append_singleton ids last ih =>
    have hindex : ∀ id ∈ dedupeObjectIDs ids, (ids ++ [last]).idxOf id = ids.idxOf id :=
      fun id hid => List.idxOf_append_of_mem (mem_dedupeObjectIDs.mp hid)
    have hold : (dedupeObjectIDs ids).Pairwise
        (fun a b => (ids ++ [last]).idxOf a < (ids ++ [last]).idxOf b) :=
      ih.imp_of_mem fun ha hb hlt => by rwa [hindex _ ha, hindex _ hb]
    rw [dedupeObjectIDs_append]
    split_ifs with hlast
    · exact hold
    · refine List.pairwise_append.mpr ⟨hold, List.pairwise_singleton _ _, ?_⟩
      intro id hid last' hlast'
      rw [List.mem_singleton.mp hlast', hindex id hid, List.idxOf_append_of_notMem
        (mt mem_dedupeObjectIDs.mpr hlast)]
      exact (List.idxOf_lt_length_of_mem (mem_dedupeObjectIDs.mp hid)).trans_le
        (Nat.le_add_right _ _)

theorem normal_merged (targets : List IncidentAffectedComponent) :
    Normal ((merged targets).map sortedTarget) := by
  constructor
  · rw [List.map_map]
    exact nodup_map_componentID_merged targets
  · intro target htarget
    obtain ⟨entry, hentry, rfl⟩ := List.mem_map.mp htarget
    exact sortByHex_sorted (gathers_of_mem_merged hentry).nodup

/-- An accepted request keeps its scope exactly when no component is given both as a
whole and in part; all else that normalization is for always holds. -/
theorem normalizeIncidentTargets_preservesScope_iff (req : TargetRequest) (allowEmpty : Bool)
    (ids : List ObjectID) (out : List IncidentAffectedComponent)
    (h : normalizeIncidentTargets req.targets req.legacy req.legacyAlias allowEmpty =
      .ok (ids, out)) : PreservesScope req allowEmpty ids out ↔ req.Unmixed := by
  obtain ⟨hids, hout, hempty⟩ := normalizeIncidentTargets_eq_ok h
  have hscope : scope out = scope (merged req.parsed) := by
    rw [hout, scope_map_sortedTarget]
  have hmentioned : req.parsed.map (·.componentID) = req.mentioned := by
    rw [TargetRequest.parsed, List.map_append, List.map_map, TargetRequest.mentioned]
    exact congrArg (_ ++ ·) (List.map_id' _)
  have hnormal : Normal out := hout ▸ normal_merged req.parsed
  constructor
  · exact fun hpreserves => req.scope_merged_iff.mp (hscope.symm.trans hpreserves.scope)
  · intro hunmixed
    refine ⟨?_, hids, fun target htarget => (hnormal.sorted target htarget).imp hex_lt_hex,
      hscope.trans (req.scope_merged_iff.mpr hunmixed), fun legacy legacyAlias hlegacy halso => ?_⟩
    · have hfirst := firstMentions_dedupe (req.parsed.map (·.componentID))
      rw [← map_componentID_merged, hmentioned] at hfirst
      rw [hout, List.map_map]
      exact hfirst
    · rw [hids]
      refine normalizeIncidentTargets_of_normal hnormal (fun id hid => ?_) fun hall hnil => ?_
      · rw [← hids]
        exact (List.mem_append.mp hid).elim (fun hid => hlegacy hid) fun hid => halso hid
      · exact hempty hall (by rw [hids, hnil, List.map_nil])

def firstID : String := "000000000000000000000001"

def secondID : String := "0000000000000000000000a2"

def twoParts : TargetRequest :=
  ⟨[⟨firstID, ["0000000000000000000000A3"]⟩, ⟨firstID, [secondID, secondID]⟩], [firstID], []⟩

theorem normalizeIncidentTargets_preservesScope_iff_twoParts :
    PreservesScope twoParts false [1#96] [⟨1#96, [162#96, 163#96]⟩] ↔ twoParts.Unmixed :=
  normalizeIncidentTargets_preservesScope_iff twoParts false [1#96] [⟨1#96, [162#96, 163#96]⟩]
    (by rfl)

def wholeAndPart : TargetRequest := ⟨[⟨firstID, []⟩, ⟨firstID, [secondID]⟩], [], []⟩

theorem wholeAndPart_loses_whole :
    normalizeIncidentTargets wholeAndPart.targets wholeAndPart.legacy wholeAndPart.legacyAlias
        true = .ok ([1#96], [⟨1#96, [162#96]⟩]) ∧
      ¬ PreservesScope wholeAndPart true [1#96] [⟨1#96, [162#96]⟩] := by
  refine ⟨by rfl, fun hpreserves => ?_⟩
  have hwhole : Place.component 1#96 ∈ wholeAndPart.scope :=
    TargetRequest.mem_scope_component.mpr (Or.inl ⟨⟨1#96, []⟩, by decide +kernel, rfl, rfl⟩)
  rw [← hpreserves.scope] at hwhole
  obtain ⟨target, htarget, -, hempty⟩ := hwhole
  obtain rfl := List.mem_singleton.mp htarget
  cases hempty

end Statora.Incidents
