import Naim.Planner
import Naim.StateJson

/-!
# Plans on the host

The controller sends each host the slice of its node as JSON, and the host plans
from what it reads. The plan is the one of the whole state when the settings are
as a reader leaves them and the placement target does not rename the node.
-/

namespace Naim.HostPlan

open Checked List Planner SchedulerExecution StateJson WorkerGroupTopology

/-- The settings that plans read are in the normal form of the reader, and the slice
of the node is accepted under its own name. -/
structure ReadsBack (s : DesiredState) (nodeName : String) : Prop where
  secured : s.securedConnection.any (·.enabled) = true → s.protectedPlane = true
  backend : s.inference.runtimeEngine = "llama.cpp" → s.inference.distributedBackend ≠ ""
  apiPort : 0 < s.inference.apiPort ∨ s.inference.apiPort = s.inference.llamaPort
  group : ∃ group, readWorkerGroup (nodeSlice s nodeName) = .ok group
  target : ∃ target, resolvePlacementTargetAliasValue s.placementTarget = .ok target ∧
    (target = "" ∨ target = nodeName ∨ 1 < (collectPlacementReferencedNodes (nodeSlice s nodeName)).length)

variable {s : DesiredState} {nodeName name target : String}

section Reading

variable {group g : WorkerGroupSpec}

lemma storedState_agreeOn (h : ReadsBack s nodeName) :
    AgreeOn nodeName (nodeSlice s nodeName) (storedState (nodeSlice s nodeName) group) where
  planeName := rfl
  protectedPlane := by
    have hsecured := h.secured
    show (s.protectedPlane || s.securedConnection.any (·.enabled)) = s.protectedPlane
    cases hany : s.securedConnection.any (·.enabled) <;> simp_all
  llamaRpc := by
    have hbackend := h.backend
    show (decide (s.inference.runtimeEngine = "llama.cpp") && decide (Renderer.orElse s.inference.distributedBackend
      (if s.inference.runtimeEngine = "llama.cpp" then "llama_rpc" else "local") = "llama_rpc")) = _
    by_cases hengine : s.inference.runtimeEngine = "llama.cpp"
    · simp only [Renderer.orElse,hbackend hengine,if_false]
      rfl
    · simp [hengine,usesLlamaRpcRuntime,nodeSlice]
  apiPort := by
    show (if s.inference.apiPort ≤ 0 then s.inference.llamaPort else s.inference.apiPort) = s.inference.apiPort
    rcases h.apiPort with hpos | heq
    · rw [if_neg (Int32.not_le.2 hpos)]
    · rw [← heq,ite_self]
  listenPort := rfl
  model := by
    show ((s.bootstrapModel.map StateJsonSettingsCodecs.storedModel).bind fun model =>
      if model.materializationMode = "reference" then model.localPath else none) = referencedModelPath s
    rw [Option.bind_map]
    rfl
  disks := rfl
  instances := rfl

lemma rankedMembers_nodeName (h : completeWorkerGroup i gpuNodes instances g = .ok group) (hne : g.members ≠ []) :
    group.members.map (·.nodeName) = g.members.map (·.nodeName) := by
  obtain ⟨members,hmembers,h⟩ := bind_eq_ok.1 h
  obtain ⟨-,-,h⟩ := bind_eq_ok.1 h
  rw [pure_eq_ok] at h
  have hown : members = g.members := by simpa [membersOrWorkers,hne] using hmembers.symm
  subst h hown
  simp [assignReplicaTopology,fillWorkerGroup,Function.comp_def]

lemma mem_collectPlacementReferencedNodes :
    name ∈ collectPlacementReferencedNodes s ↔ name ≠ "" ∧ (name = s.inference.primaryInferNode ∨
      name ∈ s.workerGroup.members.map (·.nodeName) ∨ name ∈ s.nodes.map (·.name) ∨
      name ∈ s.disks.map (·.nodeName) ∨ name ∈ s.instances.map (·.nodeName) ∨
      name ∈ s.runtimeGpuNodes.map (·.nodeName)) := by
  simp only [collectPlacementReferencedNodes,mem_dedup,mem_filter,mem_append,mem_cons,
    decide_not,Bool.not_eq_true',decide_eq_false_iff_not,or_assoc,and_comm]

lemma collectPlacementReferencedNodes_le (h : readWorkerGroup s = .ok group) :
    (collectPlacementReferencedNodes s).length ≤ (collectPlacementReferencedNodes (storedState s group)).length := by
  have hmembers : ∀ name ∈ s.workerGroup.members.map (·.nodeName), name ∈ group.members.map (·.nodeName) := by
    intro name hname
    by_cases hne : s.workerGroup.members = []
    · simp [hne] at hname
    · rwa [rankedMembers_nodeName h hne]
  refine (subperm_of_subset (nodup_dedup _) fun name hname => ?_).length_le
  have hname := mem_collectPlacementReferencedNodes.1 hname
  refine mem_collectPlacementReferencedNodes.2 ⟨hname.1,?_⟩
  have hnodes : (storedState s group).nodes.map (·.name) = s.nodes.map (·.name) := map_map
  rw [hnodes]
  exact hname.2.imp_right (Or.imp_left (hmembers name))

end Reading

section Resolving

lemma placedOn_agreeOn (hdisks : ∀ disk ∈ s.disks, disk.nodeName = nodeName)
    (hinstances : ∀ i ∈ s.instances, i.nodeName = nodeName) : AgreeOn nodeName s (placedOn s nodeName) where
  planeName := rfl
  protectedPlane := rfl
  llamaRpc := rfl
  apiPort := rfl
  listenPort := rfl
  model := rfl
  disks := by
    have hsame : (placedOn s nodeName).disks = s.disks :=
      (map_congr_left fun disk hdisk => by rw [← hdisks disk hdisk]).trans (map_id' _)
    rw [disksOn,hsame,disksOn]
  instances := by
    have hsame : (placedOn s nodeName).instances = s.instances :=
      (map_congr_left fun i hi => by rw [← hinstances i hi]).trans (map_id' _)
    rw [instancesOn,hsame,instancesOn]

lemma resolveOrDropTarget_cases (htarget : resolvePlacementTargetAliasValue s.placementTarget = .ok target) :
    target = "" ∧ resolveOrDropTarget s = .ok s ∨
    target ≠ "" ∧ (collectPlacementReferencedNodes s).length ≤ 1 ∧ resolveOrDropTarget s = .ok (placedOn s target) ∨
    target ≠ "" ∧ 1 < (collectPlacementReferencedNodes s).length ∧
      resolveOrDropTarget s = .ok {s with placementTarget := none} := by
  by_cases hempty : target = ""
  · refine Or.inl ⟨hempty,?_⟩
    simp [resolveOrDropTarget,resolvePlacementTargetAliases,htarget,ok_bind,hempty,pure,Except.pure]
  · refine Or.inr ?_
    by_cases hmany : 1 < (collectPlacementReferencedNodes s).length
    · refine Or.inr ⟨hempty,hmany,?_⟩
      have hsome : s.placementTarget.isSome = true := by
        cases hnone : s.placementTarget with
        | none => simp_all [resolvePlacementTargetAliasValue]
        | some _ => rfl
      simp [resolveOrDropTarget,resolvePlacementTargetAliases,htarget,hempty,throwIf,hmany,fail,hsome,bind,
        Except.bind]
    · refine Or.inl ⟨hempty,by omega,?_⟩
      simp [resolveOrDropTarget,resolvePlacementTargetAliases,htarget,ok_bind,hempty,throwIf,hmany,pure,
        Except.pure]

end Resolving

lemma deserialize_nodeSlice {Text : Type} (format : TextFormat Text) (dump : Json → String)
    (h : ReadsBack s nodeName) :
    ∃ t, deserializeDesiredStateJson format dump (serializeDesiredStateJson format (nodeSlice s nodeName)) = .ok t ∧
      AgreeOn nodeName (nodeSlice s nodeName) t ∧ t.nodes.map (·.name) = (nodeSlice s nodeName).nodes.map (·.name) := by
  obtain ⟨group,hgroup⟩ := h.group
  obtain ⟨target,htarget,hname⟩ := h.target
  have hagree : AgreeOn nodeName (nodeSlice s nodeName) (storedState (nodeSlice s nodeName) group) :=
    storedState_agreeOn h
  have hnodes : (storedState (nodeSlice s nodeName) group).nodes.map (·.name) =
      (nodeSlice s nodeName).nodes.map (·.name) := map_map
  have hread := deserializeDesiredStateJson_serialize format dump (nodeSlice s nodeName)
  rw [hgroup,ok_bind] at hread
  rw [hread]
  -- the target of the slice is the one of the state, so each way of resolving it keeps the name
  rcases resolveOrDropTarget_cases (s := storedState (nodeSlice s nodeName) group) htarget with
    ⟨-,hresolve⟩ | ⟨hne,hfew,hresolve⟩ | ⟨-,-,hresolve⟩
  · exact ⟨_,hresolve,hagree,hnodes⟩
  · have hsame : target = nodeName := by
      rcases hname with hempty | hsame | hmany
      · exact absurd hempty hne
      · exact hsame
      · have hle := collectPlacementReferencedNodes_le hgroup
        omega
    subst hsame
    refine ⟨_,hresolve,hagree.trans (placedOn_agreeOn ?_ ?_),?_⟩
    · intro disk hdisk
      simpa using (mem_filter.1 hdisk).2
    · intro i hi
      simpa using (mem_filter.1 hi).2
    · rw [← hnodes]
      refine map_map.trans (map_congr_left fun node hnode => ?_)
      obtain ⟨node₀,hnode₀,rfl⟩ := mem_map.1 hnode
      exact (nodeSlice_nodes_name s target node₀ hnode₀).symm
  · exact ⟨_,hresolve,⟨hagree.1,hagree.2,hagree.3,hagree.4,hagree.5,hagree.6,hagree.7,hagree.8⟩,hnodes⟩

/-- A plane with a secured connection that is not marked as protected. -/
def securedPlane : DesiredState where
  planeName := "voice"
  securedConnection := some {enabled := true}
  nodes := [{name := "node-a"}]
  instances := [{name := "app-voice", role := .app, planeName := "voice", nodeName := "node-a"}]

def spreadPlane : DesiredState where
  planeName := "chat"
  protectedPlane := true
  securedConnection := some {enabled := true}
  placementTarget := some "node:node-a"
  inference := {primaryInferNode := "node-a"}
  nodes := [{name := "node-a"},{name := "node-b"}]
  disks := [
    {name := "shared", kind := .planeShared, planeName := "chat", ownerName := "chat", nodeName := "node-b",
      hostPath := "/disks/chat", containerPath := "/naim/shared", sizeGb := 10}]
  instances := [
    {name := "infer-chat", role := .infer, planeName := "chat", nodeName := "node-a"},
    {name := "worker-chat", role := .worker, planeName := "chat", nodeName := "node-b", sharedDiskName := "shared",
      dependsOn := ["infer-chat"], gpuDevice := some "0"}]

end Naim.HostPlan
