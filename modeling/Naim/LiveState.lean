import Naim.HostPlan
import Naim.InstanceNames
import Naim.PlacementSoundness

/-!
# Live states

A live state is a rendered plane whose workers have been placed. Everything in it
is on one of its nodes, and its worker group has one enabled member per worker.
-/

namespace Naim.Storage

open Checked Json Renderer Rows Validator DynamicPlacement RuntimeSupport SchedulingPolicy WorkerGroupTopology List

variable {dump : Json → String} {s t : DesiredState} {host : VoiceGpuHost} {instances l placed : List InstanceSpec}
  {r : Sections} {p : Parts} {members : List WorkerGroupMemberSpec} {group : WorkerGroupSpec}
  {nodeName name node : String}

lemma foldl_least_mem {κ α : Type} {before : α → α → Bool} {l : List (κ × α)} {best : Option α} {a : α}
    (h : l.foldl (fun best e => if best.all fun b => before e.2 b then some e.2 else best) best = some a) :
    best = some a ∨ ∃ e ∈ l, e.2 = a := by
  induction l generalizing best with
  | nil => exact .inl h
  | cons e l ih =>
    rw [foldl_cons] at h
    rcases ih h with hbest | ⟨e',he',rfl⟩
    · split at hbest
      · exact .inr ⟨e,mem_cons_self,Option.some.inj hbest⟩
      · exact .inl hbest
    · exact .inr ⟨e',mem_cons_of_mem _ he',rfl⟩

lemma foldl_add_nodeName (hl : ∀ i ∈ l, i.nodeName = nodeName)
    (hhost : host.nodeName = "" ∧ l ≠ [] ∨ host.nodeName = nodeName) :
    (l.foldl VoiceGpuHost.add host).nodeName = nodeName := by
  induction l generalizing host with
  | nil => simpa using hhost
  | cons i l ih =>
    refine ih (fun j hj => hl j (mem_cons_of_mem _ hj)) (.inr ?_)
    have hi := hl i mem_cons_self
    by_cases hempty : host.nodeName = ""
    · simp [VoiceGpuHost.add,hempty,hi]
    · simpa [VoiceGpuHost.add,hempty] using hhost

lemma selectVoiceGpuHost_nodeName
    (h : selectVoiceGpuHost instances = some host) : ∃ i ∈ instances, host.nodeName = i.nodeName := by
  obtain hnone | ⟨⟨key,_⟩,hmem,rfl⟩ := foldl_least_mem h
  · simp at hnone
  · have hlookup := (Assoc.Sorted.accumulate _ _ _ _).lookup_of_mem hmem
    rw [Assoc.lookup_accumulate] at hlookup
    split at hlookup
    · simp at hlookup
    next hne =>
      obtain ⟨i,rest,hcons⟩ := exists_cons_of_ne_nil hne
      have hkeys : ∀ j ∈ (instances.filter hasGpu).filter (fun j => toLex (j.nodeName,j.gpuDevice.getD "") = key),
          j.nodeName = (ofLex key).1 := by
        intro j hj
        have hkey := of_decide_eq_true (mem_filter.1 hj).2
        rw [← hkey]
        rfl
      have hi : i ∈ (instances.filter hasGpu).filter (fun j => toLex (j.nodeName,j.gpuDevice.getD "") = key) := by
        rw [hcons]
        exact mem_cons_self
      refine ⟨i,(mem_filter.1 (mem_filter.1 hi).1).1,?_⟩
      rw [hkeys i hi]
      rw [← Option.some.inj hlookup]
      exact foldl_add_nodeName hkeys (.inl ⟨rfl,hne⟩)

lemma voiceNode_mem_nodes (hinstances : ∀ i ∈ instances, i.nodeName ∈ s.nodes.map (·.name))
    (h : VoiceAt r s instances v e) :
    e.1.nodeName ∈ s.nodes.map (·.name) := by
  obtain ⟨enabled,host,-,hselect,-,hnode,-⟩ := h.placed
  cases host with
  | none => exact appNode_mem_nodes hnode
  | some host =>
    cases enabled with
    | false => simp at hselect
    | true =>
      obtain ⟨i,hi,heq⟩ := selectVoiceGpuHost_nodeName hselect.symm
      have hsame : host.nodeName = e.1.nodeName := Except.ok.inj hnode
      rw [← hsame,heq]
      exact hinstances i hi

lemma serviceNode_mem_nodes
    (h : getOr (resolveLegacyServiceNodeName r s service name) (resolveAppNodeName r s) = .ok node) :
    node ∈ s.nodes.map (·.name) := by
  obtain h | ⟨-,h⟩ := getOr_eq_ok.1 h
  · exact requiredNode_mem_nodes h
  · exact appNode_mem_nodes h

namespace Renders

variable (h : Renders dump r p)

include h

lemma hosts_mem_nodes : ∀ i ∈ p.hosts, i.nodeName ∈ p.settings.nodes.map (·.name) := by
  intro i hi
  rw [Parts.hosts,mem_append,mem_append] at hi
  obtain (hi | hi) | hi := hi
  · obtain ⟨index,hat⟩ := mem_of_infers h.infers hi
    exact inferNode_mem_nodes hat.node
  · obtain ⟨total,-,hall⟩ := h.workerAt
    obtain ⟨w,hw,rfl⟩ := mem_map.1 hi
    obtain ⟨index,-,hat⟩ := forall₂_mem_right hall hw
    exact workerNode_mem_nodes hat.node
  · obtain ⟨e,he,rfl⟩ := mem_map.1 hi
    simp only [Parts.services,mem_append] at he
    obtain ((he | he) | he) | he := he
    · obtain ⟨app,index,-,-,hat⟩ := h.appAt he
      exact serviceNode_mem_nodes hat.node
    · exact serviceNode_mem_nodes (renderSkills_spec (h.skillsAt he).2.1).node
    · exact serviceNode_mem_nodes (renderWebGateway_spec (h.gatewayAt he).2.1).node
    · exact inferNode_mem_nodes (renderInteractionSpec_spec (h.interactionAt he).2.1).node

lemma modules_mem_nodes : ∀ i ∈ p.modules.map Prod.fst, i.nodeName ∈ p.settings.nodes.map (·.name) := by
  intro i hi
  obtain ⟨e,he,rfl⟩ := mem_map.1 hi
  obtain ⟨-,config,hrender⟩ := h.moduleAt he
  exact voiceNode_mem_nodes h.hosts_mem_nodes (renderVoice_spec hrender)

lemma instances_mem_nodes : ∀ i ∈ p.state.instances, i.nodeName ∈ p.settings.nodes.map (·.name) := by
  intro i hi
  have hi : i ∈ p.hosts ++ (p.modules ++ p.makers).map Prod.fst := hi
  rw [map_append,mem_append,mem_append] at hi
  obtain hi | hi | hi := hi
  · exact h.hosts_mem_nodes i hi
  · exact h.modules_mem_nodes i hi
  · obtain ⟨e,he,rfl⟩ := mem_map.1 hi
    obtain ⟨-,config,hrender⟩ := h.makerAt he
    refine voiceNode_mem_nodes (fun j hj => ?_) (renderVoice_spec hrender)
    rcases mem_append.1 hj with hj | hj
    · exact h.hosts_mem_nodes j hj
    · exact h.modules_mem_nodes j hj

lemma disks_mem_nodes : ∀ d ∈ p.state.disks, d.nodeName ∈ p.settings.nodes.map (·.name) := by
  intro d hd
  rw [disks_state] at hd
  obtain ⟨kind,-,hd⟩ := mem_flatMap.1 hd
  obtain ⟨-,size,node,hnode,rfl⟩ | ⟨-,role,i,hi,hown⟩ := h.ofKind_cases hd
  · exact hnode
  · have hmem : i ∈ p.state.instances := instances_state p ▸ mem_flatMap.2 ⟨role,mem_roleOrder role,hi⟩
    rw [hown.1]
    exact h.instances_mem_nodes i hmem

lemma primaryInferNode_mem_nodes : p.settings.inference.primaryInferNode ∈ p.settings.nodes.map (·.name) := by
  obtain ⟨s,-,hgroup⟩ := h.settings
  simp only [renderWorkerGroup,bind_eq_ok,pure_eq_ok] at hgroup
  obtain ⟨enabled,-,node,hnode,workers,-,hsettings⟩ := hgroup
  rw [← hsettings]
  exact sharedDiskNode_mem_nodes hnode

lemma gpuDevices_eq_nil : ∀ node ∈ p.settings.nodes, node.gpuDevices = [] := by
  have hnodes := h.settingsAt.nodes
  simp only [renderNodeTopology,bind_eq_ok,pure_eq_ok] at hnodes
  obtain ⟨listed,hlisted,hnodes⟩ := hnodes
  rw [← hnodes]
  intro node hnode
  split at hnode
  · obtain ⟨item,-,hitem⟩ := mapM_mem_right hlisted hnode
    simp only [renderNode,bind_eq_ok,pure_eq_ok] at hitem
    obtain ⟨_,-,_,-,_,-,_,-,_,-,rfl⟩ := hitem
    rfl
  · rw [mem_singleton.1 hnode]
    rfl

lemma dataParallelMode_eq (hv : validateRuntime r.doc = .ok ()) : p.settings.inference.dataParallelMode = "off" := by
  obtain ⟨s,hs,hgroup⟩ := h.settings
  simp only [renderSettings,bind_eq_ok,pure_eq_ok] at hs
  obtain ⟨_,-,_,-,_,-,_,-,_,-,_,-,_,-,_,-,_,-,_,-,_,-,_,-,_,-,_,-,_,-,_,-,_,-,runtime,hruntime,_,-,rfl⟩ := hs
  simp only [renderWorkerGroup,bind_eq_ok,pure_eq_ok] at hgroup
  obtain ⟨_,-,_,-,_,-,hsettings⟩ := hgroup
  rw [← hsettings]
  simp only [renderRuntime,bind_eq_ok,pure_eq_ok,member_eq_ok] at hruntime
  obtain ⟨block,hblock,_,-,mode,hmode,_,-,_,-,_,-,_,-,_,-,_,-,_,-,_,-,_,-,_,-,_,-,_,-,rfl⟩ := hruntime
  simp only [validateRuntime,bind_eq_ok,refuse_eq_ok,member_eq_ok] at hv
  obtain ⟨block',hblock',_,-,_,-,_,-,_,-,mode',hmode',_,-,_,-,_,-,_,hoff,-⟩ := hv
  obtain rfl := Option.mem_unique hblock hblock'
  obtain rfl := ok_unique hmode hmode'
  have hmode : mode = "off" := by simpa using hoff
  simp [normalizeInferenceSettings,hmode,orElse]

lemma expectedWorkers_eq (hv : validateRuntime r.doc = .ok ()) :
    p.settings.workerGroup.expectedWorkers = Int32.ofNat p.workers.length ∧ 0 < p.workers.length ∧
      p.workers.length < 2^31 := by
  obtain ⟨total,htotal,hall⟩ := h.workerAt
  obtain ⟨hpos,hlt⟩ := workerCount_positive hv htotal
  obtain ⟨s,-,hgroup⟩ := h.settings
  simp only [renderWorkerGroup,bind_eq_ok,pure_eq_ok] at hgroup
  obtain ⟨_,-,_,-,workers,hworkers,hsettings⟩ := hgroup
  obtain rfl := ok_unique htotal hworkers
  have hlength : p.workers.length = total := by rw [← hall.length_eq,length_range]
  rw [← hsettings,hlength]
  exact ⟨by rw [Nat.max_eq_right hpos],hpos,hlt⟩

end Renders

structure Hosted (s : DesiredState) : Prop where
  nodes : NodesReady s
  dataParallelMode : s.inference.dataParallelMode = "off"
  primaryInferNode : s.inference.primaryInferNode ∈ s.nodes.map (·.name)
  disks : ∀ d ∈ s.disks, d.nodeName ∈ s.nodes.map (·.name)
  instances : ∀ i ∈ s.instances, i.nodeName ∈ s.nodes.map (·.name)
  expectedWorkers : s.workerGroup.expectedWorkers = Int32.ofNat (workers s).length
  worker : 0 < (workers s).length
  count : (workers s).length < 2^31

structure Staffed (nodeNames : List String) (group : WorkerGroupSpec) : Prop where
  expectedWorkers : group.expectedWorkers = Int32.ofNat group.members.length
  member : 0 < group.members.length
  count : group.members.length < 2^31
  enabled : ∀ m ∈ group.members, m.enabled = true
  nodes : ∀ m ∈ group.members, m.nodeName ∈ nodeNames

structure Live (s : DesiredState) : Prop extends Hosted s where
  gpuNodes : ∀ n ∈ s.runtimeGpuNodes, n.nodeName ∈ s.nodes.map (·.name)
  group : ∃ group, Staffed (s.nodes.map (·.name)) group ∧ s.workerGroup = rankedGroup s group
  inferName : s.workerGroup.inferInstanceName = "" → ((findInferInstance s).map (·.name)).getD "" = ""

lemma Renders.hosted (h : Renders dump r p) (hv : validateOrThrow r.doc = .ok ()) : Hosted p.state := by
  obtain ⟨-,-,-,hruntime,-,htopology,-⟩ := validateOrThrow_eq_ok.1 hv
  have hready := nodes_ready htopology h.settingsAt
  have hlength : (SchedulingPolicy.workers p.state).length = p.workers.length := by
    have hworkers : SchedulingPolicy.workers p.state = p.workers.map (·.spec) := h.findInstances .worker
    rw [hworkers,length_map]
  obtain ⟨hexpected,hpos,hlt⟩ := h.expectedWorkers_eq hruntime
  exact ⟨⟨hready.target,hready.nonempty,hready.named,hready.nodup⟩,h.dataParallelMode_eq hruntime,
    h.primaryInferNode_mem_nodes,h.disks_mem_nodes,h.instances_mem_nodes,hlength.symm ▸ hexpected,hlength.symm ▸ hpos,
    hlength.symm ▸ hlt⟩

lemma Hosted.withPlaced (h : Hosted s) (telemetry : List (String × GpuTelemetrySnapshot))
    (hplaced : Forall₂ PlacedFrom s.instances placed) : Hosted (withPlaced s telemetry placed) := by
  have hnames : (DynamicPlacement.withPlaced s telemetry placed).nodes.map (·.name) = s.nodes.map (·.name) := by
    rw [DynamicPlacement.withPlaced,map_map]
    exact map_congr_left fun node _ => observeNode_name telemetry node
  have hroles : placed.map (·.role) = s.instances.map (·.role) := forall₂_map_eq hplaced fun _ _ hij => hij.role_eq
  have hlength : (workers (DynamicPlacement.withPlaced s telemetry placed)).length = (workers s).length := by
    have hcount := congrArg (List.countP fun role => role = InstanceRole.worker) hroles
    rwa [countP_map,countP_map,countP_eq_length_filter,countP_eq_length_filter] at hcount
  refine {
    nodes := ⟨h.nodes.target,map_eq_nil_iff.not.2 h.nodes.nonempty,?_,hnames ▸ h.nodes.nodup⟩
    dataParallelMode := h.dataParallelMode, primaryInferNode := hnames ▸ h.primaryInferNode
    disks := hnames ▸ h.disks
    instances := hnames ▸ fun j hj => ?_
    expectedWorkers := hlength ▸ h.expectedWorkers, worker := hlength ▸ h.worker, count := hlength ▸ h.count}
  · refine forall_mem_map.2 fun node hnode => ?_
    rw [observeNode_name]
    exact h.nodes.named node hnode
  · obtain ⟨i,hi,hij⟩ := forall₂_mem_right hplaced hj
    obtain ⟨node,hnode,hname⟩ := mem_map.1 (h.instances i hi)
    rw [hij.nodeName_eq (hname ▸ h.nodes.named node hnode)]
    exact h.instances i hi

lemma Hosted.staffed (h : Hosted s)
    (hmembers : Forall₂ (fun e member => derivedMember s e.1 e.2 = .ok member) (workers s).zipIdx members) :
    Staffed (s.nodes.map (·.name)) (derivedGroup s members) := by
  have hlength : members.length = (workers s).length := by rw [← hmembers.length_eq,length_zipIdx]
  have hmember : ∀ m ∈ members, m.enabled = true ∧ m.nodeName ∈ s.nodes.map (·.name) := by
    intro m hm
    obtain ⟨e,he,hderived⟩ := forall₂_mem_right hmembers hm
    simp only [derivedMember,bind_eq_ok,pure_eq_ok] at hderived
    obtain ⟨port,-,rfl⟩ := hderived
    have hworker : e.1 ∈ workers s := mem_of_getElem? (mem_zipIdx_iff_getElem?.1 he)
    exact ⟨rfl,h.instances e.1 (mem_filter.1 hworker).1⟩
  refine ⟨?_,hlength ▸ h.worker,hlength ▸ h.count,fun m hm => (hmember m hm).1,fun m hm => (hmember m hm).2⟩
  have hpos : ¬ Int32.ofNat (workers s).length ≤ 0 := by
    have := h.worker
    rw [Int32.le_iff_toInt_le,Int32.toInt_ofNat_of_lt h.count,Int32.toInt_zero]
    omega
  simp only [derivedGroup,h.expectedWorkers,hpos,if_false,hlength]

lemma Hosted.refreshed (h : Hosted s) (ht : refreshDerivedWorkerMetadata s = .ok t) : Live t := by
  obtain ⟨members,hmembers,rfl⟩ := refreshDerivedWorkerMetadata_eq_ok ht
  have hworkers : ∀ i ∈ workers s, i.nodeName ∈ s.nodes.map (·.name) :=
    fun i hi => h.instances i (mem_filter.1 hi).1
  have hstaffed := h.staffed hmembers
  have hlength : ((s.instances.map (refreshedInstance s)).filter (·.role = .worker)).length = (workers s).length := by
    rw [filter_map,length_map]
    congr 1
    exact filter_congr fun i _ => by simp only [Function.comp_apply,(refreshedInstance_same s i).role]
  refine {
    nodes := ⟨h.nodes.target,h.nodes.nonempty,h.nodes.named,h.nodes.nodup⟩
    dataParallelMode := h.dataParallelMode, primaryInferNode := h.primaryInferNode, disks := h.disks
    instances := ?_, expectedWorkers := ?_, worker := hlength.symm ▸ h.worker, count := hlength.symm ▸ h.count
    gpuNodes := forall_mem_map.2 hworkers, group := ⟨_,hstaffed,rfl⟩
    inferName := fun hempty => ?_}
  · refine forall_mem_map.2 fun i hi => ?_
    rw [(refreshedInstance_same s i).nodeName]
    exact h.instances i hi
  · have hmembers : members.length = (workers s).length := by rw [← hmembers.length_eq,length_zipIdx]
    rw [rankedGroup_expectedWorkers,hstaffed.expectedWorkers]
    exact congrArg Int32.ofNat (hmembers.trans hlength.symm)
  · rw [rankedGroup_inferInstanceName] at hempty
    refine (congrArg (Option.getD · "") (findInferInstance_refreshed s s.instances)).trans ?_
    by_cases hgroup : s.workerGroup.inferInstanceName = ""
    · simpa [derivedGroup,hgroup,findInferInstance] using hempty
    · simp [derivedGroup,hgroup] at hempty

lemma rankByInfer_places :
    (rankByInfer group names ranked members).map (fun m => (m.enabled,m.nodeName)) =
      members.map fun m => (m.enabled,m.nodeName) := by
  induction members generalizing ranked with
  | nil => rfl
  | cons m members ih => by_cases h : m.enabled <;> simp [rankByInfer,h,ih]

lemma rankMembers_places :
    (rankMembers inference group members index).map (fun m => (m.enabled,m.nodeName)) =
      members.map fun m => (m.enabled,m.nodeName) := by
  induction members generalizing index with
  | nil => rfl
  | cons m members ih => by_cases h : m.enabled <;> simp [rankMembers,h,ih,rankedMember,disabledMember]

lemma Staffed.ranked (h : Staffed nodeNames group) : Staffed nodeNames (rankedGroup s group) := by
  have hplaces : (rankedGroup s group).members.map (fun m => (m.enabled,m.nodeName)) =
      group.members.map fun m => (m.enabled,m.nodeName) := by
    unfold rankedGroup
    split
    · exact rankByInfer_places
    · exact rankMembers_places
  have hlength : (rankedGroup s group).members.length = group.members.length := by
    simpa using congrArg List.length hplaces
  have hmember : ∀ m ∈ (rankedGroup s group).members, ∃ m' ∈ group.members, m'.enabled = m.enabled ∧
      m'.nodeName = m.nodeName := by
    intro m hm
    have hmem := mem_map_of_mem (f := fun m : WorkerGroupMemberSpec => (m.enabled,m.nodeName)) hm
    rw [hplaces] at hmem
    obtain ⟨m',hm',heq⟩ := mem_map.1 hmem
    exact ⟨m',hm',Prod.mk.inj heq⟩
  refine ⟨?_,hlength ▸ h.member,hlength ▸ h.count,fun m hm => ?_,fun m hm => ?_⟩
  · rw [rankedGroup_expectedWorkers,h.expectedWorkers,hlength]
  · obtain ⟨m',hm',henabled,-⟩ := hmember m hm
    exact henabled ▸ h.enabled m' hm'
  · obtain ⟨m',hm',-,hnode⟩ := hmember m hm
    exact hnode ▸ h.nodes m' hm'

lemma Live.staffed (h : Live s) : Staffed (s.nodes.map (·.name)) s.workerGroup := by
  obtain ⟨group,hgroup,heq⟩ := h.group
  rw [heq]
  exact hgroup.ranked

section Placed

variable {doc : Json} {clock : Clock} {observations : List HostObservation} (h : render dump doc = .ok s)
variable (ht : resolveDesiredStateDynamicPlacements clock observations s = .ok t)

include h ht

lemma render_placed : ∃ telemetry placed, Forall₂ PlacedFrom s.instances placed ∧
    refreshDerivedWorkerMetadata (withPlaced s telemetry placed) = .ok t := by
  obtain ⟨r,p,-,rfl,-,hp,rfl⟩ := render_parts h
  refine resolveDesiredStateDynamicPlacements_eq_ok (fun node hnode => ?_) ht
  rw [hp.gpuDevices_eq_nil node hnode]
  exact not_mem_nil

/-- Dynamic placement makes a live state of a rendered one. -/
theorem render_live : Live t := by
  obtain ⟨telemetry,placed,hplaced,hrefresh⟩ := render_placed h ht
  obtain ⟨r,p,hv,rfl,-,hp,rfl⟩ := render_parts h
  exact ((hp.hosted hv).withPlaced telemetry hplaced).refreshed hrefresh

end Placed
end Naim.Storage
