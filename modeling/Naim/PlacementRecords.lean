import Naim.RolloutPlan

/-!
# The records of a placement

A desired state says where a worker runs in six places: in the worker itself, its
environment, its labels, its entry of the runtime GPU nodes, its member of the worker
group and its private disk. The two edits of the scheduler write different ones of them.
-/

namespace Naim.SchedulerExecution

open Assoc Rows RolloutPlan List

def placeOf (i : InstanceSpec) : String × String := (i.nodeName,i.gpuDevice.getD "")

/-- The name has an entry, and all its entries say the same. -/
def Records {β : Type} (entries : List (String × β)) (name : String) (b : β) : Prop :=
  (∃ e ∈ entries, e.1 = name) ∧ ∀ e ∈ entries, e.1 = name → e.2 = b

def gpuEntry (g : RuntimeGpuNode) : String × String × String := (g.name,g.nodeName,g.gpuDevice)

def memberEntry (m : WorkerGroupMemberSpec) : String × String × String := (m.name,m.nodeName,m.gpuDevice)

def diskEntry (d : DiskSpec) : Option (String × String) :=
  if d.kind = .workerPrivate then some (d.ownerName,d.nodeName) else none

def gpuEntries (s : DesiredState) : List (String × String × String) := s.runtimeGpuNodes.map gpuEntry

def memberEntries (s : DesiredState) : List (String × String × String) := s.workerGroup.members.map memberEntry

def diskEntries (s : DesiredState) : List (String × String) := s.disks.filterMap diskEntry

/-- Everything that the state says about the place of the worker is its node and its device. -/
structure Agrees (s : DesiredState) (w : InstanceSpec) : Prop where
  nodeEnvironment : w.environment.lookup "NAIM_NODE_NAME" = some w.nodeName
  gpuEnvironment : w.environment.lookup "NAIM_GPU_DEVICE" = w.gpuDevice.filter (· ≠ "")
  label : w.labels.lookup "naim.node" = some w.nodeName
  gpuNode : Records (gpuEntries s) w.name (placeOf w)
  member : Records (memberEntries s) w.name (placeOf w)
  disk : Records (diskEntries s) w.name w.nodeName

instance {β : Type} [DecidableEq β] (entries : List (String × β)) (name : String) (b : β) :
    Decidable (Records entries name b) := inferInstanceAs (Decidable (_ ∧ _))

instance (s : DesiredState) (w : InstanceSpec) : Decidable (Agrees s w) :=
  decidable_of_iff
    (w.environment.lookup "NAIM_NODE_NAME" = some w.nodeName ∧
      w.environment.lookup "NAIM_GPU_DEVICE" = w.gpuDevice.filter (· ≠ "") ∧
      w.labels.lookup "naim.node" = some w.nodeName ∧ Records (gpuEntries s) w.name (placeOf w) ∧
      Records (memberEntries s) w.name (placeOf w) ∧ Records (diskEntries s) w.name w.nodeName)
    ⟨fun ⟨h₁,h₂,h₃,h₄,h₅,h₆⟩ => ⟨h₁,h₂,h₃,h₄,h₅,h₆⟩,fun ⟨h₁,h₂,h₃,h₄,h₅,h₆⟩ => ⟨h₁,h₂,h₃,h₄,h₅,h₆⟩⟩

def Consistent (s : DesiredState) : Prop := ∀ w ∈ s.instances, w.role = .worker → Agrees s w

instance (s : DesiredState) : Decidable (Consistent s) :=
  inferInstanceAs (Decidable (∀ w ∈ s.instances, w.role = .worker → Agrees s w))

def Traceless (s : DesiredState) (name : String) : Prop :=
  (∀ e ∈ gpuEntries s, e.1 ≠ name) ∧ (∀ e ∈ memberEntries s, e.1 ≠ name) ∧ ∀ e ∈ diskEntries s, e.1 ≠ name

instance (s : DesiredState) (name : String) : Decidable (Traceless s name) :=
  inferInstanceAs (Decidable (_ ∧ _ ∧ _))

def isWorkerName (s : DesiredState) (name : String) : Prop := ∃ w ∈ s.instances, w.role = .worker ∧ w.name = name

variable {s s' : DesiredState}

variable {name : String} {w : InstanceSpec} {victims : List String} {entry : RebalancePlanEntry}

lemma Records.unique {β : Type} {entries : List (String × β)} {b b' : β} (h : Records entries name b)
    (h' : Records entries name b') : b = b' := by
  obtain ⟨e,he,hn⟩ := h.1
  exact (h.2 e he hn).symm.trans (h'.2 e he hn)

lemma findWorker_spec (h : findWorker s name = some w) : w ∈ s.instances ∧ w.role = .worker ∧ w.name = name := by
  have hp := List.find?_some h
  simp only [isWorkerNamed,Bool.and_eq_true,decide_eq_true_eq] at hp
  exact ⟨mem_of_find?_eq_some h,hp⟩

@[simp] lemma lookup_placedLabels (labels : StringMap) (nodeName action : String) :
    (placedLabels labels nodeName action).lookup "naim.node" = some nodeName := by
  simp [placedLabels,lookup_set,lookup_erase]

def moveWorker (s : DesiredState) (name nodeName : String) (fi : InstanceSpec → InstanceSpec)
    (fg : RuntimeGpuNode → RuntimeGpuNode) : DesiredState :=
  {s with
    instances := updateFirst (isWorkerNamed name) fi s.instances
    runtimeGpuNodes := updateFirst (·.name = name) fg s.runtimeGpuNodes
    disks := updateFirst (isWorkerDiskOf name) (fun d => {d with nodeName}) s.disks}

section Move

variable {fi : InstanceSpec → InstanceSpec} {fg : RuntimeGpuNode → RuntimeGpuNode} {nodeName gpuDevice : String}

lemma diskEntries_moveWorker (h : Records (diskEntries s) name nodeName) :
    diskEntries (moveWorker s name nodeName fi fg) = diskEntries s := by
  have hmap : (moveWorker s name nodeName fi fg).disks.map diskEntry = s.disks.map diskEntry := by
    refine map_updateFirst fun d hd => ?_
    have hp := List.find?_some hd
    simp only [isWorkerDiskOf,Bool.and_eq_true,decide_eq_true_eq] at hp
    have hentry : diskEntry d = some (name,d.nodeName) := by simp [diskEntry,hp]
    have hnode : d.nodeName = nodeName :=
      h.2 (name,d.nodeName) (mem_filterMap.2 ⟨d,mem_of_find?_eq_some hd,hentry⟩) rfl
    simp [diskEntry,hp,hnode]
  simpa [diskEntries,filterMap_map] using congrArg (List.filterMap id) hmap

/-- The member of the worker group keeps its old place, so a move is consistent only where it
moves nothing. -/
lemma consistent_moveWorker_iff (hs : Consistent s) (hw : findWorker s name = some w)
    (hrole : (fi w).role = .worker) (hname : (fi w).name = name)
    (hnode : (fi w).nodeName = nodeName) (hgpu : (fi w).gpuDevice = some gpuDevice)
    (hfg : ∀ g, gpuEntry (fg g) = (g.name,nodeName,gpuDevice))
    (hlabel : (fi w).labels.lookup "naim.node" = some nodeName)
    (henv : placeOf w = (nodeName,gpuDevice) →
      (fi w).environment.lookup "NAIM_NODE_NAME" = some nodeName ∧
      (fi w).environment.lookup "NAIM_GPU_DEVICE" = (some gpuDevice).filter (· ≠ "")) :
    Consistent (moveWorker s name nodeName fi fg) ↔ placeOf w = (nodeName,gpuDevice) := by
  obtain ⟨hmem,hwrole,hwname⟩ := findWorker_spec hw
  have hagree := hs w hmem hwrole
  rw [← hwname] at hname
  have hplace : placeOf (fi w) = (nodeName,gpuDevice) := by simp [placeOf,hnode,hgpu]
  constructor
  · intro h
    have hmoved := h (fi w) (mem_updateFirst_of_find? hw) hrole
    have hmember := hmoved.member
    rw [hname,hplace] at hmember
    exact hagree.member.unique hmember
  · intro h
    have hgpuEntries : gpuEntries (moveWorker s name nodeName fi fg) = gpuEntries s := by
      refine map_updateFirst fun g hg => ?_
      have hname : g.name = w.name := (by simpa using List.find?_some hg : g.name = name).trans hwname.symm
      have hplace := hagree.gpuNode.2 (gpuEntry g) (mem_map_of_mem (mem_of_find?_eq_some hg)) hname
      rw [hfg g,← h,← hplace]
      rfl
    have hwnode : w.nodeName = nodeName := congrArg Prod.fst h
    have hdiskEntries : diskEntries (moveWorker s name nodeName fi fg) = diskEntries s :=
      diskEntries_moveWorker (by simpa [hwnode,hwname] using hagree.disk)
    intro v hv hvrole
    rcases mem_updateFirst hv with hv | ⟨w₀,hw₀,rfl⟩
    · have hold := hs v hv hvrole
      exact ⟨hold.nodeEnvironment,hold.gpuEnvironment,hold.label,hgpuEntries ▸ hold.gpuNode,hold.member,
        hdiskEntries ▸ hold.disk⟩
    · obtain rfl : w = w₀ := Option.some.inj (hw.symm.trans hw₀)
      obtain ⟨henvNode,henvGpu⟩ := henv h
      refine ⟨by rw [hnode]; exact henvNode,by rw [hgpu]; exact henvGpu,by rw [hnode]; exact hlabel,?_,?_,?_⟩
      · rw [hgpuEntries,hname,hplace,← h]
        exact hagree.gpuNode
      · rw [hname,hplace,← h]
        exact hagree.member
      · rw [hdiskEntries,hname,hnode,← hwnode]
        exact hagree.disk

end Move

lemma removeWorkers_gpuEntries (victims : List String) (s : DesiredState) :
    gpuEntries (victims.foldl removeWorkerFromDesiredState s) =
      (gpuEntries s).filter fun e => e.1 ∉ victims := by
  induction victims generalizing s with
  | nil => simp
  | cons v victims ih =>
    rw [foldl_cons,ih]
    simp only [gpuEntries,removeWorkerFromDesiredState,filter_map,filter_filter]
    refine congrArg _ (filter_congr fun g _ => ?_)
    by_cases hv : g.name = v <;> simp [gpuEntry,hv]

lemma removeWorkers_members (victims : List String) (s : DesiredState) :
    memberEntries (victims.foldl removeWorkerFromDesiredState s) = memberEntries s := by
  induction victims generalizing s with
  | nil => rfl
  | cons v victims ih =>
    rw [foldl_cons,ih]
    rfl

lemma removeWorkers_diskEntries (victims : List String) (s : DesiredState) :
    diskEntries (victims.foldl removeWorkerFromDesiredState s) =
      (diskEntries s).filter fun e => e.1 ∉ victims := by
  induction victims generalizing s with
  | nil => simp
  | cons v victims ih =>
    have hstep : diskEntries (removeWorkerFromDesiredState s v) = (diskEntries s).filter fun e => e.1 ≠ v := by
      simp only [diskEntries,removeWorkerFromDesiredState,filterMap_filter,filter_filterMap]
      refine filterMap_congr fun d _ => ?_
      by_cases hkind : d.kind = .workerPrivate <;> by_cases howner : d.ownerName = v <;>
        simp [isWorkerDiskOf,diskEntry,hkind,howner,Option.filter]
    rw [foldl_cons,ih,hstep,filter_filter]
    refine filter_congr fun e _ => ?_
    by_cases hv : e.1 = v <;> simp [hv]

lemma Records.filter {β : Type} {entries : List (String × β)} {b : β} (h : Records entries name b)
    (hname : name ∉ victims) : Records (entries.filter (·.1 ∉ victims)) name b := by
  obtain ⟨e,he,hn⟩ := h.1
  refine ⟨⟨e,mem_filter.2 ⟨he,by simpa [hn] using hname⟩,hn⟩,fun e he => h.2 e (mem_of_mem_filter he)⟩

lemma Consistent.removeWorkers (hs : Consistent s) (hv : ∀ v ∈ victims, ¬ isWorkerName s v) :
    Consistent (victims.foldl removeWorkerFromDesiredState s) := by
  intro w hw hrole
  rw [removeWorkers_instances] at hw
  obtain ⟨w₀,hw₀,rfl⟩ := mem_map.1 hw
  have hmem := mem_of_mem_filter hw₀
  have hname : w₀.name ∉ victims := fun h => hv _ h ⟨w₀,hmem,hrole,rfl⟩
  have h := hs w₀ hmem hrole
  refine ⟨h.nodeEnvironment,h.gpuEnvironment,h.label,?_,?_,?_⟩
  · rw [removeWorkers_gpuEntries]
    exact h.gpuNode.filter hname
  · rw [removeWorkers_members]
    exact h.member
  · rw [removeWorkers_diskEntries]
    exact h.disk.filter hname

def RunsAt (s : DesiredState) (name : String) (place : String × String) : Prop :=
  ∃ w ∈ s.instances, w.role = .worker ∧ w.name = name ∧ placeOf w = place

lemma Consistent.runsAt_iff (hs : Consistent s) (hw : w ∈ s.instances) (hrole : w.role = .worker)
    (place : String × String) : RunsAt s w.name place ↔ placeOf w = place := by
  constructor
  · rintro ⟨v,hv,hvrole,hname,rfl⟩
    have h := (hs v hv hvrole).member
    rw [hname] at h
    exact (hs w hw hrole).member.unique h
  · intro h
    exact ⟨w,hw,hrole,rfl,h⟩

lemma findWorker_of_isNone (h : (s.instances.find? (isWorkerNamed name)).isNone = false) :
    ∃ w, findWorker s name = some w := Option.isSome_iff_exists.1 (by simpa [findWorker] using h)

lemma rebalance_eq_ok (h : materializeRebalancePlanEntry s entry = .ok s') :
    ∃ w, findWorker s entry.workerName = some w ∧
      s' = moveWorker s entry.workerName entry.targetNodeName (rebalancedInstance entry)
        (rebalancedGpuNode entry) := by
  rw [materializeRebalancePlanEntry] at h
  split at h
  · simp at h
  next hsome =>
    obtain ⟨w,hw⟩ := findWorker_of_isNone (Bool.eq_false_iff.2 hsome)
    exact ⟨w,hw,(Except.ok.inj h).symm⟩

lemma consistent_rebalance_iff (hs : Consistent s) (hw : findWorker s entry.workerName = some w)
    (h : materializeRebalancePlanEntry s entry = .ok s') :
    Consistent s' ↔ placeOf w = (entry.targetNodeName,entry.targetGpuDevice) := by
  obtain ⟨-,hrole,hname⟩ := findWorker_spec hw
  obtain ⟨-,-,rfl⟩ := rebalance_eq_ok h
  refine consistent_moveWorker_iff hs hw hrole hname rfl rfl (fun _ => rfl) ?_ fun _ => ⟨?_,?_⟩
  · simp only [rebalancedInstance]
    split <;> simp [lookup_set,lookup_erase]
  · simp only [rebalancedInstance]
    split <;> simp [lookup_set,lookup_erase]
  · simp only [rebalancedInstance]
    split <;> simp_all [lookup_set,lookup_erase,Option.filter]

/-- The retry leaves the environment as it was, which names the target only where nothing moves. -/
lemma consistent_retry_iff (hs : Consistent s) (h : materializeRetryPlacementAction s action victims = .ok s') :
    (Consistent s' ∧ ∀ v ∈ victims, isWorkerName s v → Traceless s' v) ↔
      RunsAt s action.workerName (action.targetNodeName,action.targetGpuDevice) ∧
        ∀ v ∈ victims, ¬ isWorkerName s v := by
  rw [materializeRetryPlacementAction] at h
  split at h
  · simp at h
  rename_i hsome
  obtain ⟨w,hw⟩ := findWorker_of_isNone (Bool.eq_false_iff.2 hsome)
  obtain rfl : moveWorker (victims.foldl removeWorkerFromDesiredState s) action.workerName action.targetNodeName
      (retriedInstance action) (retriedGpuNode action) = s' := Except.ok.inj h
  have hmembers : memberEntries (moveWorker (victims.foldl removeWorkerFromDesiredState s) action.workerName
      action.targetNodeName (retriedInstance action) (retriedGpuNode action)) = memberEntries s :=
    removeWorkers_members victims s
  -- a victim that is a worker keeps its member of the worker group
  have hevicted : (∀ v ∈ victims, isWorkerName s v → Traceless (moveWorker
      (victims.foldl removeWorkerFromDesiredState s) action.workerName action.targetNodeName
      (retriedInstance action) (retriedGpuNode action)) v) ↔ ∀ v ∈ victims, ¬ isWorkerName s v := by
    refine forall_congr' fun v => forall_congr' fun _ => ⟨fun htrace hv => ?_,fun hv hname => absurd hname hv⟩
    obtain ⟨-,hmember,-⟩ := htrace hv
    obtain ⟨v,hmem,hrole,rfl⟩ := hv
    obtain ⟨e,he,hn⟩ := (hs v hmem hrole).member.1
    exact hmember e (hmembers ▸ he) hn
  rw [hevicted]
  refine and_congr_left fun hv => ?_
  have hs₁ := hs.removeWorkers hv
  obtain ⟨hmem,hrole,hname⟩ := findWorker_spec hw
  rw [removeWorkers_instances] at hmem
  obtain ⟨w₀,hw₀,rfl⟩ := mem_map.1 hmem
  rw [← hname]
  have hruns := hs.runsAt_iff (mem_of_mem_filter hw₀) hrole (action.targetNodeName,action.targetGpuDevice)
  refine Iff.trans ?_ hruns.symm
  rw [hname]
  show _ ↔ placeOf (dropDependencies victims w₀) = _
  refine consistent_moveWorker_iff hs₁ hw hrole hname rfl rfl (fun _ => rfl) ?_ fun hplace => ?_
  · simp [retriedInstance,lookup_erase]
  · have hagree := hs w₀ (mem_of_mem_filter hw₀) hrole
    have hnode : w₀.nodeName = action.targetNodeName := congrArg Prod.fst hplace
    have hgpu : w₀.gpuDevice.getD "" = action.targetGpuDevice := congrArg Prod.snd hplace
    refine ⟨hnode ▸ hagree.nodeEnvironment,?_⟩
    refine hagree.gpuEnvironment.trans ?_
    cases hdev : w₀.gpuDevice with
    | none => simp [← hgpu,hdev,Option.filter]
    | some device => simp [← hgpu,hdev]

/-- From a consistent state the edits keep the records of every worker consistent exactly when they
leave the worker where it runs, and the retry when it evicts no worker. -/
theorem materialize_consistent_iff (s : DesiredState) (hs : Consistent s) :
    (∀ entry s', materializeRebalancePlanEntry s entry = .ok s' →
      (Consistent s' ↔ RunsAt s entry.workerName (entry.targetNodeName,entry.targetGpuDevice))) ∧
    ∀ action victims s', materializeRetryPlacementAction s action victims = .ok s' →
      ((Consistent s' ∧ ∀ v ∈ victims, isWorkerName s v → Traceless s' v) ↔
        RunsAt s action.workerName (action.targetNodeName,action.targetGpuDevice) ∧
          ∀ v ∈ victims, ¬ isWorkerName s v) := by
  refine ⟨fun entry s' h => ?_,fun action victims s' h => consistent_retry_iff hs h⟩
  obtain ⟨w,hw,-⟩ := rebalance_eq_ok h
  obtain ⟨hmem,hrole,hname⟩ := findWorker_spec hw
  rw [consistent_rebalance_iff hs hw h,← hname,hs.runsAt_iff hmem hrole]

def recordedWorker (name nodeName gpuDevice : String) : InstanceSpec :=
  {name, role := .worker, nodeName, gpuDevice := some gpuDevice,
   environment := [("NAIM_GPU_DEVICE",gpuDevice),("NAIM_NODE_NAME",nodeName)],
   labels := [("naim.node",nodeName)]}

def recordedState (workers : List (String × String × String)) : DesiredState where
  planeName := "alpha"
  instances := workers.map fun w => recordedWorker w.1 w.2.1 w.2.2
  runtimeGpuNodes := workers.map fun w => {name := w.1, nodeName := w.2.1, gpuDevice := w.2.2}
  workerGroup := {members := workers.map fun w => {name := w.1, nodeName := w.2.1, gpuDevice := w.2.2}}
  disks := workers.map fun w =>
    {name := w.1 ++ "-private", kind := .workerPrivate, planeName := "alpha", ownerName := w.1, nodeName := w.2.1,
     hostPath := "", containerPath := ""}

/-- Two workers on two nodes. A rebalance of the first one leaves its member of the worker group
behind; a retry that evicts the second one also leaves the environment of the first one and the
member of the evicted one. -/
theorem recordedState_moves_inconsistent :
    Consistent (recordedState [("worker-a","node-a","0"),("worker-b","node-b","0")]) ∧
    (∃ s', materializeRebalancePlanEntry (recordedState [("worker-a","node-a","0"),("worker-b","node-b","0")])
        {workerName := "worker-a", targetNodeName := "node-b", targetGpuDevice := "1"} = .ok s' ∧
      ¬ Consistent s') ∧
    ∃ s', materializeRetryPlacementAction (recordedState [("worker-a","node-a","0"),("worker-b","node-b","0")])
        {workerName := "worker-a", targetNodeName := "node-b", targetGpuDevice := "0"} ["worker-b"] = .ok s' ∧
      ¬ Consistent s' ∧ ¬ Traceless s' "worker-b" :=
  ⟨by decide +kernel,⟨_,rfl,by decide +kernel⟩,_,rfl,by decide +kernel,by decide +kernel⟩

/-- A retry that leaves its worker in place and evicts nobody is consistent. -/
theorem materialize_consistent_in_place :
    Consistent (recordedState [("worker-a","node-a","0")]) ∧
      ∃ s', materializeRetryPlacementAction (recordedState [("worker-a","node-a","0")])
        {workerName := "worker-a", targetNodeName := "node-a", targetGpuDevice := "0"} [] = .ok s' ∧
        Consistent s' := by
  have hs : Consistent (recordedState [("worker-a","node-a","0")]) := by decide +kernel
  have hok : ∃ s', materializeRetryPlacementAction (recordedState [("worker-a","node-a","0")])
      {workerName := "worker-a", targetNodeName := "node-a", targetGpuDevice := "0"} [] = .ok s' := ⟨_,rfl⟩
  obtain ⟨s',h⟩ := hok
  have hruns : RunsAt (recordedState [("worker-a","node-a","0")]) "worker-a" ("node-a","0") :=
    ⟨recordedWorker "worker-a" "node-a" "0",by simp [recordedState],rfl,rfl,rfl⟩
  exact ⟨hs,s',h,(((materialize_consistent_iff _ hs).2 _ _ _ h).2 ⟨hruns,by simp⟩).1⟩

end Naim.SchedulerExecution
