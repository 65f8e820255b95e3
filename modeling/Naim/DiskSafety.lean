import Naim.ExecutionPlan

/-!
# Disks under a plan

Disks are compared by key while their data lies under a path. A path that changes
hands between two disks of a node can therefore be removed after it was provided
for its new disk.
-/

namespace Naim.ExecutionPlan

open Assoc Checked InferRuntimeConfig List Planner Text

variable (operation : HostOperation) (operations : List HostOperation)

def HostOperation.Ensures (disk : DiskSpec) : Prop :=
  operation.kind = .ensureDisk ∧ operation.target = diskKey disk

def HostOperation.Removes (hostPath : String) : Prop :=
  operation.kind = .removeDisk ∧ operation.details = hostPath

instance (operation : HostOperation) (disk : DiskSpec) : Decidable (operation.Ensures disk) :=
  inferInstanceAs (Decidable (_ ∧ _))

instance (operation : HostOperation) (hostPath : String) : Decidable (operation.Removes hostPath) :=
  inferInstanceAs (Decidable (_ ∧ _))

/-- No operation behind the one that provides the disk removes its path. -/
def EnsuredLast (disk : DiskSpec) : Prop :=
  operations.Pairwise fun earlier later => earlier.Ensures disk → ¬ later.Removes disk.hostPath

def Untouched (disk : DiskSpec) : Prop := ∀ operation ∈ operations, ¬ operation.Removes disk.hostPath

/-- Operations that are carried out in order leave every wanted disk in place; `kept` says which disks are not
provided anew. -/
def KeepsDisks (disks : List DiskSpec) (kept : String → Prop) : Prop :=
  ∀ disk ∈ disks, EnsuredLast operations disk ∧ (kept (diskKey disk) → Untouched operations disk)

def Unchanged (current desired : List (String × DiskSpec)) (key : String) : Prop :=
  ∃ old disk, current.lookup key = some old ∧ desired.lookup key = some disk ∧
    diskSignature old = diskSignature disk

def HostOperation.isDisk : Bool := operation.kind = .ensureDisk || operation.kind = .removeDisk

open HostOperation

variable {operation : HostOperation} {disk : DiskSpec} {hostPath : String}

lemma HostOperation.Ensures.isDisk (h : operation.Ensures disk) : operation.isDisk = true := by
  simp [HostOperation.isDisk,h.1]

lemma HostOperation.Removes.isDisk (h : operation.Removes hostPath) : operation.isDisk = true := by
  simp [HostOperation.isDisk,h.1]

lemma ensuredLast_filter (disk : DiskSpec) :
    EnsuredLast (operations.filter isDisk) disk ↔ EnsuredLast operations disk := by
  rw [EnsuredLast,pairwise_filter,EnsuredLast]
  constructor
  · intro h
    exact h.imp fun hpair hensures hremoves => hpair hensures.isDisk hremoves.isDisk hensures hremoves
  · intro h
    exact h.imp fun hpair _ _ => hpair

lemma untouched_filter (disk : DiskSpec) :
    Untouched (operations.filter isDisk) disk ↔ Untouched operations disk := by
  constructor
  · intro h operation hmem hremoves
    exact h operation (mem_filter.2 ⟨hmem,hremoves.isDisk⟩) hremoves
  · intro h operation hmem
    exact h operation (mem_of_mem_filter hmem)

lemma keepsDisks_congr {operations operations' : List HostOperation}
    (h : operations.filter isDisk = operations'.filter isDisk) (disks : List DiskSpec)
    (kept : String → Prop) : KeepsDisks operations disks kept ↔ KeepsDisks operations' disks kept := by
  have hlast : ∀ disk, EnsuredLast operations disk ↔ EnsuredLast operations' disk := by
    intro disk
    rw [← ensuredLast_filter,h,ensuredLast_filter]
  have huntouched : ∀ disk, Untouched operations disk ↔ Untouched operations' disk := by
    intro disk
    rw [← untouched_filter,h,untouched_filter]
  simp only [KeepsDisks,hlast,huntouched]

lemma filter_isDisk_eq_nil {operations : List HostOperation} (h : ∀ operation ∈ operations, operation.isDisk = false) :
    operations.filter isDisk = [] := by
  rw [filter_eq_nil_iff]
  intro operation hmem
  simp [h operation hmem]

lemma filter_isDisk_applicationOrder : (applicationOrder operations).filter isDisk = operations.filter isDisk := by
  simp only [applicationOrder,filter_append,filter_filter]
  have hdown : operations.filter (fun operation => isDisk operation &&
      (operation.kind = .composeDown || operation.kind = .removeComposeFile)) = [] := by
    rw [filter_eq_nil_iff]
    rintro ⟨kind,target,details⟩ -
    cases kind <;> simp [isDisk]
  have hup : operations.filter (fun operation => isDisk operation &&
      decide (operation.kind = .composeUp)) = [] := by
    rw [filter_eq_nil_iff]
    rintro ⟨kind,target,details⟩ -
    cases kind <;> simp [isDisk]
  rw [hdown,hup,nil_append,append_nil]
  refine filter_congr ?_
  rintro ⟨kind,target,details⟩ -
  cases kind <;> simp [isDisk]

lemma isDisk_of_mem_diskOperations {current desired : List (String × DiskSpec)}
    (h : operation ∈ diskOperations current desired) : operation.isDisk = true := by
  rcases mem_append.1 h with h | h
  · obtain ⟨e,-,he⟩ := mem_flatMap.1 h
    split at he
    · rw [mem_singleton.1 he]
      rfl
    · split at he
      · simp only [mem_cons,not_mem_nil,or_false] at he
        rcases he with rfl | rfl <;> rfl
      · simp at he
  · obtain ⟨e,-,rfl⟩ := mem_map.1 h
    rfl

lemma filter_isDisk_addRuntimeConfigs (paths : StringMap) (operations : List HostOperation) :
    (addRuntimeConfigs paths operations).filter isDisk = operations.filter isDisk := by
  induction paths generalizing operations with
  | nil => rfl
  | cons e paths ih =>
    rw [addRuntimeConfigs,foldl_cons,← addRuntimeConfigs]
    split
    · exact ih operations
    · rw [ih,filter_append]
      exact append_nil _

lemma filter_isDisk_resourceOperations (current desired : NodeView) :
    (resourceOperations current desired).filter isDisk =
      diskOperations current.disks desired.disks := by
  have hdisks : (diskOperations current.disks desired.disks).filter isDisk =
      diskOperations current.disks desired.disks :=
    filter_eq_self.2 fun _ h => isDisk_of_mem_diskOperations h
  have hservices : (serviceOperations current.instances desired.instances).filter isDisk = [] := by
    refine filter_isDisk_eq_nil fun operation h => ?_
    rcases mem_append.1 h with h | h <;> obtain ⟨e,-,rfl⟩ := mem_map.1 h <;> rfl
  have hconfigs : (runtimeConfigOperations current.configs desired.configs).filter isDisk = [] := by
    refine filter_isDisk_eq_nil fun operation h => ?_
    rcases mem_append.1 h with h | h <;> obtain ⟨e,-,rfl⟩ := mem_map.1 h <;> rfl
  rw [resourceOperations,filter_append,filter_append,hdisks,hservices,hconfigs,append_nil,
    append_nil]

lemma filter_isDisk_nodeOperations (current desired : NodeView) :
    (nodeOperations current desired).filter isDisk = diskOperations current.disks desired.disks := by
  have hdown : (composeDownOperations current desired).filter isDisk = [] := by
    unfold composeDownOperations
    split <;> rfl
  have hbase : (resourceOperations current desired ++ composeDownOperations current desired).filter
      isDisk = diskOperations current.disks desired.disks := by
    rw [filter_append,filter_isDisk_resourceOperations,hdown,append_nil]
  unfold nodeOperations
  split
  · rw [filter_append,filter_isDisk_addRuntimeConfigs,hbase]
    exact append_nil _
  · exact hbase

section Paths

variable {current desired : List (String × DiskSpec)} {e : String × DiskSpec} {new old own : DiskSpec}

def keyOperations (current : List (String × DiskSpec)) (e : String × DiskSpec) : List HostOperation :=
  match current.lookup e.1 with
  | none => [⟨.ensureDisk,e.1,e.2.hostPath⟩]
  | some old =>
    if diskSignature old ≠ diskSignature e.2 then
      [⟨.removeDisk,e.1,old.hostPath⟩,⟨.ensureDisk,e.1,e.2.hostPath⟩]
    else []

def staleOperations (current desired : List (String × DiskSpec)) : List HostOperation :=
  (current.filter fun e => (desired.lookup e.1).isNone).map fun e => ⟨.removeDisk,e.1,e.2.hostPath⟩

lemma diskOperations_eq : diskOperations current desired =
    desired.flatMap (keyOperations current) ++ staleOperations current desired := rfl

lemma exists_removes_keyOperations :
    (∃ operation ∈ keyOperations current e, operation.Removes hostPath) ↔
      ∃ old, current.lookup e.1 = some old ∧ diskSignature old ≠ diskSignature e.2 ∧ old.hostPath = hostPath := by
  unfold keyOperations
  cases current.lookup e.1 with
  | none => simp [HostOperation.Removes]
  | some old =>
    by_cases hsig : diskSignature old = diskSignature e.2
    · simp [hsig]
    · simp [hsig,HostOperation.Removes]

lemma exists_ensures_keyOperations :
    (∃ operation ∈ keyOperations current e, operation.Ensures disk) ↔
      e.1 = diskKey disk ∧ ∀ old, current.lookup e.1 = some old → diskSignature old ≠ diskSignature e.2 := by
  unfold keyOperations
  cases current.lookup e.1 with
  | none => simp [HostOperation.Ensures]
  | some old =>
    by_cases hsig : diskSignature old = diskSignature e.2
    · simp [hsig]
    · simp [hsig,HostOperation.Ensures]

lemma ensuredLast_keyOperations (e : String × DiskSpec) (disk : DiskSpec) :
    EnsuredLast (keyOperations current e) disk := by
  unfold keyOperations EnsuredLast
  cases current.lookup e.1 with
  | none => simp
  | some old =>
    by_cases hsig : diskSignature old = diskSignature e.2
    · simp [hsig]
    · simp [hsig,HostOperation.Ensures]

lemma exists_removes_staleOperations :
    (∃ operation ∈ staleOperations current desired, operation.Removes hostPath) ↔
      ∃ e ∈ current, desired.lookup e.1 = none ∧ e.2.hostPath = hostPath := by
  simp only [staleOperations,mem_map,mem_filter,Option.isNone_iff_eq_none,HostOperation.Removes]
  constructor
  · rintro ⟨_,⟨e,⟨he,hnone⟩,rfl⟩,-,hpath⟩
    exact ⟨e,he,hnone,hpath⟩
  · rintro ⟨e,he,hnone,hpath⟩
    exact ⟨_,⟨e,⟨he,hnone⟩,rfl⟩,rfl,hpath⟩

lemma unchanged_iff {key : String} (hold : current.lookup key = some old) (hnew : desired.lookup key = some new) :
    Unchanged current desired key ↔ diskSignature old = diskSignature new := by simp [Unchanged,hold,hnew]

lemma exists_removes_of_changed {key : String} (hold : current.lookup key = some old)
    (hnew : desired.lookup key = some new) (hchanged : ¬ Unchanged current desired key)
    (hpath : old.hostPath = hostPath) : ∃ operation ∈ keyOperations current (key,new), operation.Removes hostPath :=
  exists_removes_keyOperations.2 ⟨old,hold,fun hsig => hchanged ((unchanged_iff hold hnew).2 hsig),hpath⟩

lemma exists_ensures_iff_changed (hown : desired.lookup (diskKey disk) = some own) :
    (∃ operation ∈ keyOperations current (diskKey disk,own), operation.Ensures disk) ↔
      ¬ Unchanged current desired (diskKey disk) := by
  rw [exists_ensures_keyOperations]
  constructor
  · rintro ⟨-,h⟩ ⟨old,new,hold,hnew,hsig⟩
    obtain rfl : own = new := Option.some.inj (hown.symm.trans hnew)
    exact h old hold hsig
  · intro h
    exact ⟨rfl,fun old hold hsig => h ⟨old,own,hold,hown,hsig⟩⟩

variable (hcurrent : Sorted current)

include hcurrent

lemma untouched_diskOperations_iff (hdesired : Sorted desired) (disk : DiskSpec) :
    Untouched (diskOperations current desired) disk ↔
      ∀ e ∈ current, e.2.hostPath = disk.hostPath → Unchanged current desired e.1 := by
  constructor
  · intro h e he hpath
    cases hlookup : desired.lookup e.1 with
    | none =>
      obtain ⟨operation,hmem,hremoves⟩ := exists_removes_staleOperations.2 ⟨e,he,hlookup,hpath⟩
      exact absurd hremoves (h operation (mem_append_right _ hmem))
    | some new =>
      by_contra hchanged
      obtain ⟨operation,hop,hremoves⟩ :=
        exists_removes_of_changed (hcurrent.lookup_of_mem he) hlookup hchanged hpath
      exact h operation (mem_append_left _
        (mem_flatMap.2 ⟨(e.1,new),mem_of_lookup hlookup,hop⟩)) hremoves
  · intro h operation hmem hremoves
    rcases mem_append.1 hmem with hmem | hmem
    · obtain ⟨new,hnew,hop⟩ := mem_flatMap.1 hmem
      obtain ⟨old,hold,hsig,hpath⟩ := exists_removes_keyOperations.1 ⟨operation,hop,hremoves⟩
      exact hsig ((unchanged_iff hold (hdesired.lookup_of_mem hnew)).1
        (h (new.1,old) (mem_of_lookup hold) hpath))
    · obtain ⟨e,he,hnone,hpath⟩ := exists_removes_staleOperations.1 ⟨operation,hmem,hremoves⟩
      obtain ⟨old,new,-,hnew,-⟩ := h e he hpath
      simp [hnone] at hnew

lemma ensuredLast_diskOperations_iff (hdesired : Sorted desired)
    (hdisk : (desired.lookup (diskKey disk)).isSome) :
    EnsuredLast (diskOperations current desired) disk ↔
      Unchanged current desired (diskKey disk) ∨ ∀ e ∈ current, e.2.hostPath = disk.hostPath →
        Unchanged current desired e.1 ∨ (desired.lookup e.1).isSome ∧ e.1 ≤ diskKey disk := by
  obtain ⟨own,hown⟩ := Option.isSome_iff_exists.1 hdisk
  have hmem : (diskKey disk,own) ∈ desired := mem_of_lookup hown
  rw [diskOperations_eq,EnsuredLast,pairwise_append,pairwise_flatMap,hdesired.pairwise_iff]
  constructor
  · rintro ⟨⟨-,hlater⟩,-,hstale⟩
    rw [or_iff_not_imp_left]
    intro hchanged e he hpath
    obtain ⟨ensure,hensure,hens⟩ := (exists_ensures_iff_changed hown).2 hchanged
    cases hlookup : desired.lookup e.1 with
    | none =>
      obtain ⟨operation,hop,hremoves⟩ := exists_removes_staleOperations.2 ⟨e,he,hlookup,hpath⟩
      exact absurd hremoves (hstale ensure (mem_flatMap.2 ⟨_,hmem,hensure⟩) operation hop hens)
    | some new =>
      rw [or_iff_not_imp_left]
      intro hchanged'
      refine ⟨rfl,not_lt.1 fun hlt => ?_⟩
      obtain ⟨operation,hop,hremoves⟩ :=
        exists_removes_of_changed (hcurrent.lookup_of_mem he) hlookup hchanged' hpath
      exact hlater _ hmem _ (mem_of_lookup hlookup) hlt ensure hensure operation hop hens hremoves
  · intro h
    have hensures : ∀ e ∈ desired, ∀ operation ∈ keyOperations current e, operation.Ensures disk →
        e.1 = diskKey disk ∧ ∀ e' ∈ current, e'.2.hostPath = disk.hostPath →
          Unchanged current desired e'.1 ∨ (desired.lookup e'.1).isSome ∧ e'.1 ≤ diskKey disk := by
      intro e he operation hop hens
      have hkey := (exists_ensures_keyOperations.1 ⟨operation,hop,hens⟩).1
      obtain rfl : e = (diskKey disk,own) := by
        have hlookup := hdesired.lookup_of_mem he
        rw [hkey,hown] at hlookup
        exact Prod.ext hkey (Option.some.inj hlookup).symm
      exact ⟨hkey,h.resolve_left ((exists_ensures_iff_changed hown).1 ⟨operation,hop,hens⟩)⟩
    refine ⟨⟨fun e _ => ensuredLast_keyOperations e disk,?_⟩,?_,?_⟩
    · intro e he e' he' hlt ensure hensure operation hop hens hremoves
      obtain ⟨hkey,hpaths⟩ := hensures e he ensure hensure hens
      obtain ⟨old,hold,hsig,hpath⟩ := exists_removes_keyOperations.1 ⟨operation,hop,hremoves⟩
      rcases hpaths (e'.1,old) (mem_of_lookup hold) hpath with hsame | ⟨-,hle⟩
      · exact hsig ((unchanged_iff hold (hdesired.lookup_of_mem he')).1 hsame)
      · exact absurd (hkey ▸ hlt) (not_lt.2 hle)
    · refine pairwise_map.2 (pairwise_of_forall fun e e' hens => ?_)
      cases hens.1
    · intro ensure hensure operation hop hens hremoves
      obtain ⟨e,he,hblock⟩ := mem_flatMap.1 hensure
      obtain ⟨-,hpaths⟩ := hensures e he ensure hblock hens
      obtain ⟨e',he',hnone,hpath⟩ := exists_removes_staleOperations.1 ⟨operation,hop,hremoves⟩
      rcases hpaths e' he' hpath with ⟨_,_,-,hsome,-⟩ | ⟨hsome,-⟩ <;> simp [hnone] at hsome

end Paths

def currentDisks (current : Option DesiredState) (nodeName : String) : List (String × DiskSpec) :=
  current.elim [] (buildDiskMapForNode · nodeName)

lemma sorted_currentDisks (current : Option DesiredState) (nodeName : String) :
    Sorted (currentDisks current nodeName) := by
  cases current with
  | none => exact Pairwise.nil
  | some s => exact Sorted.index _ _ _

section Plans

variable {dump : Json → String} {current : Option DesiredState} {desired : DesiredState}
  {artifactsRoot nodeName : String} {plan : NodeExecutionPlan} {plans : List NodeExecutionPlan}

lemma buildNodeExecutionPlan_nodeName
    (h : buildNodeExecutionPlan dump current desired artifactsRoot nodeName = .ok plan) :
    plan.nodeName = nodeName := by
  obtain ⟨old,-,new,-,hplan⟩ := by simpa only [buildNodeExecutionPlan,bind_eq_ok,pure_eq_ok] using h
  rw [← hplan]

lemma operationsOn_planned (h : buildNodeExecutionPlans dump current desired artifactsRoot = .ok plans)
    (hnode : nodeName ∈ plannedNodes current desired) :
    ∃ plan, buildNodeExecutionPlan dump current desired artifactsRoot nodeName = .ok plan ∧
      operationsOn plans nodeName = plan.operations := by
  obtain ⟨all,hall,rfl⟩ := map_eq_ok.1 h
  obtain ⟨plan,hmem,hplan⟩ := mapM_mem_left hall hnode
  refine ⟨plan,hplan,?_⟩
  unfold operationsOn
  cases hfind : (all.filter (·.operations ≠ [])).find? fun plan => plan.nodeName = nodeName with
  | none =>
    by_contra hne
    have hnone := List.find?_eq_none.1 hfind plan (mem_filter.2 ⟨hmem,decide_eq_true (Ne.symm hne)⟩)
    exact hnone (by simpa using buildNodeExecutionPlan_nodeName hplan)
  | some found =>
    obtain ⟨name,-,hfound⟩ := mapM_mem_right hall (mem_of_mem_filter (mem_of_find?_eq_some hfind))
    have hname : found.nodeName = nodeName := by simpa using List.find?_some hfind
    rw [buildNodeExecutionPlan_nodeName hfound] at hname
    subst hname
    rw [hfound] at hplan
    cases hplan
    rfl

lemma operationsOn_not_planned (h : buildNodeExecutionPlans dump current desired artifactsRoot = .ok plans)
    (hnode : nodeName ∉ plannedNodes current desired) : operationsOn plans nodeName = [] := by
  obtain ⟨all,hall,rfl⟩ := map_eq_ok.1 h
  unfold operationsOn
  cases hfind : (all.filter (·.operations ≠ [])).find? fun plan => plan.nodeName = nodeName with
  | none => rfl
  | some found =>
    obtain ⟨name,hmem,hfound⟩ := mapM_mem_right hall (mem_of_mem_filter (mem_of_find?_eq_some hfind))
    have hname : found.nodeName = nodeName := by simpa using List.find?_some hfind
    rw [buildNodeExecutionPlan_nodeName hfound] at hname
    exact absurd (hname ▸ hmem) hnode

lemma filter_isDisk_buildNodeExecutionPlan
    (h : buildNodeExecutionPlan dump current desired artifactsRoot nodeName = .ok plan) :
    plan.operations.filter isDisk =
      diskOperations (currentDisks current nodeName) (buildDiskMapForNode desired nodeName) := by
  obtain ⟨old,hold,new,hnew,rfl⟩ := by simpa only [buildNodeExecutionPlan,bind_eq_ok,pure_eq_ok] using h
  obtain ⟨configs,-,rfl⟩ := map_eq_ok.1 hnew
  have hdisks : old.disks = currentDisks current nodeName := by
    cases current with
    | none =>
      cases hold
      rfl
    | some s =>
      obtain ⟨configs,-,rfl⟩ := map_eq_ok.1 hold
      rfl
  rw [filter_isDisk_nodeOperations,hdisks]

end Plans

/-- A path of a wanted disk that another disk had: that disk is unchanged, or it is provided anew elsewhere before
the path goes to a disk that is new on the node. -/
def PathsHandedOver (current desired : List (String × DiskSpec)) (disks : List DiskSpec) : Prop :=
  ∀ disk ∈ disks, ∀ e ∈ current, e.2.hostPath = disk.hostPath → Unchanged current desired e.1 ∨
    current.lookup (diskKey disk) = none ∧ (desired.lookup e.1).isSome ∧ e.1 < diskKey disk

/-- As `PathsHandedOver`, where a disk with a new signature may also be provided anew in its own place. -/
def PathsReplaced (current desired : List (String × DiskSpec)) (disks : List DiskSpec) : Prop :=
  ∀ disk ∈ disks, ∀ e ∈ current, e.2.hostPath = disk.hostPath → Unchanged current desired e.1 ∨
    ¬ Unchanged current desired (diskKey disk) ∧ (desired.lookup e.1).isSome ∧ e.1 ≤ diskKey disk

section Readings

variable {disks : List DiskSpec}

lemma keepsDisks_iff_pathsHandedOver {current desired : List (String × DiskSpec)} (hcurrent : Sorted current)
    (hdesired : Sorted desired)
    (hdisks : ∀ disk ∈ disks, (desired.lookup (diskKey disk)).isSome) :
    KeepsDisks (diskOperations current desired) disks (fun key => (current.lookup key).isSome) ↔
      PathsHandedOver current desired disks := by
  refine forall₂_congr fun disk hdisk => ?_
  rw [ensuredLast_diskOperations_iff hcurrent hdesired (hdisks disk hdisk),
    untouched_diskOperations_iff hcurrent hdesired]
  constructor
  · rintro ⟨hlast,hkept⟩ e he hpath
    cases hlookup : current.lookup (diskKey disk) with
    | some old => exact .inl (hkept (Option.isSome_iff_exists.2 ⟨old,hlookup⟩) e he hpath)
    | none =>
      have hnew : ¬ Unchanged current desired (diskKey disk) := by
        rintro ⟨old,-,hold,-⟩
        simp [hlookup] at hold
      refine (hlast.resolve_left hnew e he hpath).imp_right fun ⟨hsome,hle⟩ => ⟨rfl,hsome,lt_of_le_of_ne hle ?_⟩
      intro hkey
      have hmem := hcurrent.lookup_of_mem he
      rw [hkey,hlookup] at hmem
      cases hmem
  · intro h
    refine ⟨or_iff_not_imp_left.2 fun _ e he hpath => ?_,fun hkept e he hpath => ?_⟩
    · exact (h e he hpath).imp_right fun ⟨_,hsome,hlt⟩ => ⟨hsome,hlt.le⟩
    · refine (h e he hpath).resolve_right fun ⟨hnone,_⟩ => ?_
      simp [hnone] at hkept

lemma keepsDisks_iff_pathsReplaced {current desired : List (String × DiskSpec)} (hcurrent : Sorted current)
    (hdesired : Sorted desired)
    (hdisks : ∀ disk ∈ disks, (desired.lookup (diskKey disk)).isSome) :
    KeepsDisks (diskOperations current desired) disks (Unchanged current desired) ↔
      PathsReplaced current desired disks := by
  refine forall₂_congr fun disk hdisk => ?_
  rw [ensuredLast_diskOperations_iff hcurrent hdesired (hdisks disk hdisk),
    untouched_diskOperations_iff hcurrent hdesired]
  by_cases hown : Unchanged current desired (diskKey disk)
  · simp [hown]
  · simp [hown]

end Readings

/-- A plan leaves the wanted disks of a node in place exactly when their paths come from disks that are unchanged or
are provided anew in time. `KeepsDisks` is read in two ways: the disks that are kept are those whose key the node has
already, or those of them with an equal signature. -/
theorem disks_kept_iff {dump : Json → String} {current : Option DesiredState} {desired : DesiredState}
    {artifactsRoot : String} {plans : List NodeExecutionPlan}
    (h : buildNodeExecutionPlans dump current desired artifactsRoot = .ok plans) (nodeName : String) :
    (KeepsDisks (applicationOrder (operationsOn plans nodeName)) (disksOn desired nodeName)
        (fun key => ((currentDisks current nodeName).lookup key).isSome) ↔
      (nodeName ∈ plannedNodes current desired → PathsHandedOver (currentDisks current nodeName)
        (buildDiskMapForNode desired nodeName) (disksOn desired nodeName))) ∧
    (KeepsDisks (applicationOrder (operationsOn plans nodeName)) (disksOn desired nodeName)
        (Unchanged (currentDisks current nodeName) (buildDiskMapForNode desired nodeName)) ↔
      (nodeName ∈ plannedNodes current desired → PathsReplaced (currentDisks current nodeName)
        (buildDiskMapForNode desired nodeName) (disksOn desired nodeName))) := by
  by_cases hnode : nodeName ∈ plannedNodes current desired
  · obtain ⟨plan,hplan,hoperations⟩ := operationsOn_planned h hnode
    have hdisks := filter_isDisk_buildNodeExecutionPlan hplan
    have hfilter : (applicationOrder plan.operations).filter isDisk =
        (diskOperations (currentDisks current nodeName) (buildDiskMapForNode desired nodeName)).filter
          isDisk := by
      rw [filter_isDisk_applicationOrder,hdisks,filter_eq_self.2 fun _ => isDisk_of_mem_diskOperations]
    simp only [hoperations,keepsDisks_congr hfilter,hnode,true_imp_iff]
    have hsorted := sorted_currentDisks current nodeName
    have hsorted' : Sorted (buildDiskMapForNode desired nodeName) := Sorted.index _ _ _
    exact ⟨keepsDisks_iff_pathsHandedOver hsorted hsorted' fun _ => isSome_lookup_index diskKey id,
      keepsDisks_iff_pathsReplaced hsorted hsorted' fun _ => isSome_lookup_index diskKey id⟩
  · have hnil : ∀ kept, KeepsDisks (applicationOrder (operationsOn plans nodeName))
      (disksOn desired nodeName) kept := by
      intro kept disk _
      rw [operationsOn_not_planned h hnode]
      exact ⟨Pairwise.nil,fun _ operation hmem => by simp [applicationOrder] at hmem⟩
    simp [hnode,hnil]

def dataDisk (name : String) (hostPath : String := "/srv/data") : DiskSpec where
  name
  kind := .workerPrivate
  planeName := "demo"
  ownerName := "worker-demo"
  nodeName := "n"
  hostPath
  containerPath := "/data"
  sizeGb := 10

def singleDisk (name : String) : DesiredState where
  planeName := "demo"
  nodes := [{name := "n"}]
  disks := [dataDisk name]

def renamingPlan : NodeExecutionPlan where
  planeName := "demo"
  nodeName := "n"
  composeFilePath := "/artifacts/demo/n/docker-compose.yml"
  operations := [⟨.ensureDisk,"data-b@n","/srv/data"⟩,⟨.removeDisk,"data-a@n","/srv/data"⟩]

lemma buildNodeExecutionPlans_renaming (dump : Json → String) :
    buildNodeExecutionPlans dump (some (singleDisk "data-a")) (singleDisk "data-b") "/artifacts" =
      .ok [renamingPlan] := rfl

/-- A disk that is only renamed is provided under its new name, and then its path is removed under the old one. -/
theorem renamed_disk_removed : ∃ plans,
    buildNodeExecutionPlans (fun _ => "") (some (singleDisk "data-a")) (singleDisk "data-b") "/artifacts" = .ok plans ∧
      ∀ kept, ¬ KeepsDisks (applicationOrder (operationsOn plans "n")) (disksOn (singleDisk "data-b") "n") kept := by
  refine ⟨_,buildNodeExecutionPlans_renaming _,fun kept h => ?_⟩
  have hdisk : dataDisk "data-b" ∈ disksOn (singleDisk "data-b") "n" := by decide
  have hlast : [⟨.ensureDisk,"data-b@n","/srv/data"⟩,⟨.removeDisk,"data-a@n","/srv/data"⟩].Pairwise
      fun earlier later : HostOperation => _ := (h _ hdisk).1
  rw [pairwise_pair] at hlast
  exact hlast ⟨rfl,rfl⟩ ⟨rfl,rfl⟩

def handedOver : DesiredState where
  planeName := "demo"
  nodes := [{name := "n"}]
  disks := [dataDisk "data-a" "/srv/moved",dataDisk "data-b"]

def handingPlan : NodeExecutionPlan where
  planeName := "demo"
  nodeName := "n"
  composeFilePath := "/artifacts/demo/n/docker-compose.yml"
  operations := [⟨.removeDisk,"data-a@n","/srv/data"⟩,⟨.ensureDisk,"data-a@n","/srv/moved"⟩,
    ⟨.ensureDisk,"data-b@n","/srv/data"⟩]

lemma buildNodeExecutionPlans_handing (dump : Json → String) :
    buildNodeExecutionPlans dump (some (singleDisk "data-a")) handedOver "/artifacts" = .ok [handingPlan] :=
  rfl

/-- A disk moves to another path and leaves its own to a new disk. -/
theorem handed_disk_kept : ∃ plans,
    buildNodeExecutionPlans (fun _ => "") (some (singleDisk "data-a")) handedOver "/artifacts" = .ok plans ∧
      KeepsDisks (applicationOrder (operationsOn plans "n")) (disksOn handedOver "n")
        (fun key => ((currentDisks (some (singleDisk "data-a")) "n").lookup key).isSome) := by
  refine ⟨_,buildNodeExecutionPlans_handing _,(disks_kept_iff (buildNodeExecutionPlans_handing fun _ => "") "n").1.2 ?_⟩
  intro _ disk hdisk e he hpath
  obtain rfl : e = ("data-a@n",dataDisk "data-a") := mem_singleton.1 he
  obtain rfl | rfl : disk = dataDisk "data-a" "/srv/moved" ∨ disk = dataDisk "data-b" := by
    simpa [disksOn,handedOver,dataDisk] using hdisk
  · exact absurd hpath (by decide)
  · exact .inr ⟨by decide +kernel,by decide +kernel,by decide +kernel⟩

end Naim.ExecutionPlan
