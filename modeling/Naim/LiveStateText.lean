import Naim.LiveState

/-!
# Live states as text

The controller keeps a live state as a text, for a rollback and for its hosts. The
reader ranks the members of the worker group anew, in one order, and knows only the
devices whose memory the text gives. What comes back is the state that was planned
exactly when neither makes a difference.
-/

namespace Naim.LiveState

open Checked DynamicPlacement HostPlan Json List RuntimeSupport StateJson Storage WorkerGroupTopology Int32

variable {s t : DesiredState} {group : WorkerGroupSpec} {members ranked : List WorkerGroupMemberSpec}
  {inference : InferenceRuntimeSettings} {nodeNames names : List String} {infer node : String} {α : Type}

def nodeView (node : NodeInventory) : String × String × HostExecutionMode × List String × List (String × Int32) :=
  (node.name,node.platform,node.executionMode,effectiveNodeGpuDevices node,node.gpuMemoryMb)

lemma nodeView_storedNode_iff (node : NodeInventory) :
    nodeView (storedNode node) = nodeView node ↔ ∀ gpu ∈ node.gpuDevices, gpu ∈ node.gpuMemoryMb.map Prod.fst := by
  have hstored : effectiveNodeGpuDevices (storedNode node) = (node.gpuMemoryMb.map Prod.fst).insertionSort (· ≤ ·) :=
    congrArg _ (Rows.foldl_eq_self fun _ h => if_pos h)
  constructor
  · intro h gpu hgpu
    have hdevices : effectiveNodeGpuDevices (storedNode node) = effectiveNodeGpuDevices node := by
      simp only [nodeView,Prod.mk.injEq] at h
      exact h.2.2.2.1
    have hmem := mem_effectiveNodeGpuDevices hgpu
    rwa [← hdevices,hstored,mem_insertionSort] at hmem
  · intro h
    have hdevices : effectiveNodeGpuDevices node = (node.gpuMemoryMb.map Prod.fst).insertionSort (· ≤ ·) :=
      congrArg _ (Rows.foldl_eq_self fun gpu hgpu => if_pos (h gpu hgpu))
    simp only [nodeView,hstored,hdevices]
    rfl

def memberView (m : WorkerGroupMemberSpec) : WorkerGroupMemberSpec :=
  {m with
    replicaGroupId := "", dataParallelRank := 0, dataParallelSize := 0, dataParallelSizeLocal := 0
    dataParallelStartRank := 0, dataParallelApiEndpoint := false, dataParallelHeadAddress := ""
    dataParallelRpcPort := 0}

structure InOrder (size : Int32) (index : ℕ) (m : WorkerGroupMemberSpec) : Prop where
  rank : m.rank = Int32.ofNat index
  leader : m.leader = decide (Int32.ofNat index = 0)
  replicaIndex : m.replicaIndex = 0
  replicaSize : m.replicaSize = size
  replicaLeader : m.replicaLeader = decide (Int32.ofNat index = 0)

lemma rankMembers_eq (h : ∀ m ∈ members, m.enabled = true) (start : ℕ) :
    rankMembers inference group members (Int32.ofNat start) =
      (members.zipIdx start).map fun e => rankedMember inference group (Int32.ofNat e.2) e.1 := by
  induction members generalizing start with
  | nil => rfl
  | cons m members ih =>
    have hnext : Int32.ofNat start + 1 = Int32.ofNat (start + 1) := by
      rw [ofNat_add]
      rfl
    rw [rankMembers,if_pos (h m mem_cons_self),hnext,ih fun m hm => h m (mem_cons_of_mem _ hm)]
    rfl

lemma workersPerReplica_of_staffed (h : Staffed nodeNames group) :
    workersPerReplica group = Int32.ofNat group.members.length := by
  rw [workersPerReplica,h.expectedWorkers,max_one_ofNat h.count,Nat.max_eq_right h.member]

lemma rankMembers_inOrder (h : Staffed nodeNames group) (hmode : inference.dataParallelMode = "off") :
    ∀ e ∈ (rankMembers inference group group.members 0).zipIdx,
      InOrder (Int32.ofNat group.members.length) e.2 e.1 := by
  intro e he
  have hget := mem_zipIdx_iff_getElem?.1 he
  have hmembers : rankMembers inference group group.members 0 =
      group.members.zipIdx.map fun e => rankedMember inference group (Int32.ofNat e.2) e.1 := rankMembers_eq h.enabled 0
  rw [hmembers,List.getElem?_map,Option.map_eq_some_iff] at hget
  obtain ⟨e',he',hranked⟩ := hget
  have hindex : e'.2 = e.2 := by
    rw [List.getElem?_zipIdx,Option.map_eq_some_iff] at he'
    obtain ⟨m,-,rfl⟩ := he'
    simp
  rw [← hranked,← workersPerReplica_of_staffed h,hindex]
  have hoff : dataParallelEnabled inference = false := by simp [dataParallelEnabled,canonicalDataParallelMode,hmode]
  constructor <;> simp [rankedMember,hoff]

lemma memberView_rankedMember_iff (h : inference.dataParallelMode = "off") (index : ℕ) (m : WorkerGroupMemberSpec)
    (name : String) :
    memberView (rankedMember inference group (Int32.ofNat index) {m with inferInstanceName := name}) = memberView m ↔
      InOrder (workersPerReplica group) index m ∧ name = m.inferInstanceName := by
  have hoff : dataParallelEnabled inference = false := by simp [dataParallelEnabled,canonicalDataParallelMode,h]
  simp only [memberView,rankedMember,hoff,WorkerGroupMemberSpec.mk.injEq,Bool.false_eq_true,if_false]
  constructor
  · rintro ⟨-,hname,-,-,-,hrank,-,hindex,hsize,hreplica,-,-,-,-,-,-,-,-,-,-,-,-,-,hleader⟩
    exact ⟨⟨hrank.symm,hleader.symm,hindex.symm,hsize.symm,hreplica.symm⟩,hname⟩
  · rintro ⟨⟨hrank,hleader,hindex,hsize,hreplica⟩,hname⟩
    simp [hrank,hleader,hindex,hsize,hreplica,hname]

lemma replicaIndexByInfer_of_forall_eq (h : ∀ name ∈ names, name = infer) :
    ((replicaIndexByInfer names).lookup infer).getD 0 = 0 := by
  have hfold : ∀ names : List String, (∀ name ∈ names, name = infer) →
      names.foldl (fun m name => Assoc.insert m name (Int32.ofNat m.length)) [(infer,(0 : Int32))] = [(infer,0)] := by
    intro names h
    induction names with
    | nil => rfl
    | cons name names ih =>
      have hname := h name mem_cons_self
      have hkeep : Assoc.insert [(infer,(0 : Int32))] name (Int32.ofNat 1) = [(infer,0)] := by simp [Assoc.insert,hname]
      rw [foldl_cons,length_singleton,hkeep]
      exact ih fun n hn => h n (mem_cons_of_mem _ hn)
  cases names with
  | nil => rfl
  | cons name names =>
    obtain rfl := h name mem_cons_self
    have hfirst : Assoc.insert ([] : List (String × Int32)) name (Int32.ofNat 0) = [(name,0)] := rfl
    rw [replicaIndexByInfer,foldl_cons,length_nil,hfirst,hfold names fun n hn => h n (mem_cons_of_mem _ hn)]
    simp

section ByInfer

lemma rankByInfer_inferInstanceName (h : ∀ m ∈ members, m.enabled = true) (ranked : List String) :
    (rankByInfer group names ranked members).map (·.inferInstanceName) = members.map (servedInfer group) := by
  induction members generalizing ranked with
  | nil => rfl
  | cons m members ih =>
    have henabled := h m mem_cons_self
    simp [rankByInfer,henabled,ih fun m hm => h m (mem_cons_of_mem _ hm)]

lemma rankByInfer_replicaSize (h : ∀ m ∈ members, m.enabled = true) (ranked : List String) :
    ∀ m ∈ rankByInfer group names ranked members, m.replicaSize = Int32.ofNat (names.count m.inferInstanceName) := by
  induction members generalizing ranked with
  | nil => simp [rankByInfer]
  | cons m members ih =>
    have henabled := h m mem_cons_self
    intro m' hm'
    simp only [rankByInfer,henabled,Bool.not_true,Bool.false_eq_true,if_false,mem_cons] at hm'
    obtain rfl | hm' := hm'
    · rfl
    · exact ih (fun m hm => h m (mem_cons_of_mem _ hm)) _ m' hm'

lemma rankByInfer_inOrder (h : ∀ m ∈ members, m.enabled = true) (hsame : ∀ m ∈ members, servedInfer group m = infer)
    (hnames : ∀ name ∈ names, name = infer) (start : ℕ) :
    ∀ e ∈ (rankByInfer group names (List.replicate start infer) members).zipIdx start,
      InOrder (Int32.ofNat (names.count infer)) e.2 e.1 := by
  induction members generalizing start with
  | nil => simp [rankByInfer]
  | cons m members ih =>
    have henabled := h m mem_cons_self
    have hserved := hsame m mem_cons_self
    intro e he
    simp only [rankByInfer,henabled,Bool.not_true,Bool.false_eq_true,if_false,hserved,zipIdx_cons,
      mem_cons] at he
    obtain rfl | he := he
    · have hindex := replicaIndexByInfer_of_forall_eq hnames
      constructor <;> simp [hindex]
    · rw [← replicate_succ] at he
      exact ih (fun m hm => h m (mem_cons_of_mem _ hm)) (fun m hm => hsame m (mem_cons_of_mem _ hm)) _ e he

end ByInfer

lemma rankByInfer_inOrder_iff (h : Staffed nodeNames group)
    (hranked : ranked = rankByInfer group ((group.members.filter (·.enabled)).map (servedInfer group)) []
      group.members) :
    (∀ e ∈ ranked.zipIdx, InOrder (Int32.ofNat group.members.length) e.2 e.1) ↔
      ∀ m ∈ ranked, ∀ m' ∈ ranked, m.inferInstanceName = m'.inferInstanceName := by
  rw [filter_eq_self.2 h.enabled] at hranked
  have hnames : ranked.map (·.inferInstanceName) = group.members.map (servedInfer group) := by
    rw [hranked,rankByInfer_inferInstanceName h.enabled]
  have hlength : (group.members.map (servedInfer group)).length = group.members.length := length_map ..
  constructor
  · intro hall m hm m' hm'
    obtain ⟨k,hk⟩ := mem_iff_getElem?.1 hm
    have hsize := (hall (m,k) (mem_zipIdx_iff_getElem?.2 hk)).replicaSize
    have hcount := rankByInfer_replicaSize h.enabled [] m (hranked ▸ hm)
    have hle : (group.members.map (servedInfer group)).count m.inferInstanceName ≤ group.members.length :=
      hlength ▸ count_le_length
    have heq : (group.members.map (servedInfer group)).count m.inferInstanceName = group.members.length := by
      have hlt := h.count
      have hints := congrArg Int32.toInt (hcount.symm.trans hsize)
      rw [toInt_ofNat_of_lt (by omega),toInt_ofNat_of_lt hlt] at hints
      omega
    have hone := count_eq_length.1 (heq.trans hlength.symm)
    exact hone _ (hnames ▸ mem_map_of_mem hm')
  · intro hsame
    obtain ⟨first,rest,hcons⟩ := exists_cons_of_length_pos h.member
    have hserved : ∀ name ∈ group.members.map (servedInfer group), name = servedInfer group first := by
      have hfirst : servedInfer group first ∈ ranked.map (·.inferInstanceName) := by simp [hnames,hcons]
      obtain ⟨m,hm,hfirst⟩ := mem_map.1 hfirst
      intro name hname
      rw [← hnames] at hname
      obtain ⟨m',hm',rfl⟩ := mem_map.1 hname
      rw [← hfirst]
      exact hsame m' hm' m hm
    have hcount := count_eq_length.2 fun name hname => (hserved name hname).symm
    have horder := rankByInfer_inOrder h.enabled
      (fun m hm => hserved _ (mem_map_of_mem hm)) hserved 0
    rw [hcount,hlength] at horder
    rw [hranked]
    exact horder

lemma map_zipIdx_eq_map_iff {β : Type} {l : List α} {f : α × ℕ → β} {g : α → β} :
    l.zipIdx.map f = l.map g ↔ ∀ e ∈ l.zipIdx, f e = g e.1 := by
  have hmap : l.map g = l.zipIdx.map fun e => g e.1 := by
    rw [show (fun e : α × ℕ => g e.1) = g ∘ Prod.fst from rfl,← map_map,zipIdx_map_fst]
  rw [hmap,map_inj_left]

def readInference (s : DesiredState) : InferenceRuntimeSettings := Renderer.normalizeInferenceSettings s.inference

def filledGroup (s : DesiredState) : WorkerGroupSpec :=
  fillWorkerGroup s.instances (workerGroupDefaults s.planeName (readInference s) s.workerGroup)

lemma readInference_dataParallelMode (h : Live s) : (readInference s).dataParallelMode = "off" := by
  simp [readInference,Renderer.normalizeInferenceSettings,Renderer.orElse,h.dataParallelMode]

lemma readWorkerGroup_eq (h : Live s) :
    readWorkerGroup s = .ok (assignReplicaTopology (readInference s) (filledGroup s)) := by
  have hne : s.workerGroup.members ≠ [] := ne_nil_of_length_pos h.staffed.member
  have hmembers : membersOrWorkers s.runtimeGpuNodes s.instances s.workerGroup.members =
      .ok s.workerGroup.members := by
    simp [membersOrWorkers,hne]
  have hpacking : validateReplicaPacking (readInference s) (filledGroup s) = .ok () := by
    simp [validateReplicaPacking,dataParallelEnabled,canonicalDataParallelMode,readInference_dataParallelMode h]
  unfold readWorkerGroup completeWorkerGroup
  simp only [workerGroupDefaults] at hmembers ⊢
  rw [hmembers,ok_bind]
  exact (congrArg (· >>= _) hpacking).trans rfl

lemma filledGroup_inferInstanceName (h : Live s) :
    (filledGroup s).inferInstanceName = s.workerGroup.inferInstanceName := by
  by_cases hempty : s.workerGroup.inferInstanceName = ""
  · have hfind := h.inferName hempty
    simpa [filledGroup,fillWorkerGroup,workerGroupDefaults,hempty,findInferInstance] using hfind
  · simp [filledGroup,fillWorkerGroup,workerGroupDefaults,hempty]

lemma workersPerReplica_filledGroup (h : Live s) :
    workersPerReplica (filledGroup s) = Int32.ofNat s.workerGroup.members.length := by
  have hpos : ¬ s.workerGroup.expectedWorkers ≤ 0 := by
    have := h.staffed.member
    rw [h.staffed.expectedWorkers,le_iff_toInt_le,toInt_ofNat_of_lt h.staffed.count,toInt_zero]
    omega
  have hexpected : (filledGroup s).expectedWorkers = s.workerGroup.expectedWorkers := by
    simp [filledGroup,fillWorkerGroup,workerGroupDefaults,hpos]
  rw [← workersPerReplica_of_staffed h.staffed,workersPerReplica,hexpected,workersPerReplica]

lemma readMembers_eq (h : Live s) : (assignReplicaTopology (readInference s) (filledGroup s)).members =
    s.workerGroup.members.zipIdx.map fun e => rankedMember (readInference s) (filledGroup s) (Int32.ofNat e.2)
      {e.1 with inferInstanceName := Renderer.orElse e.1.inferInstanceName s.workerGroup.inferInstanceName} := by
  have hfilled : (filledGroup s).members = s.workerGroup.members.map fun m =>
      {m with inferInstanceName := Renderer.orElse m.inferInstanceName s.workerGroup.inferInstanceName} := by
    rw [← filledGroup_inferInstanceName h]
    rfl
  have henabled : ∀ m ∈ (filledGroup s).members, m.enabled = true := by
    exact forall_mem_map.2 h.staffed.enabled
  refine (rankMembers_eq henabled 0).trans ?_
  rw [hfilled,zipIdx_map,map_map]
  rfl

lemma readMembers_iff (h : Live s) :
    (assignReplicaTopology (readInference s) (filledGroup s)).members.map memberView =
        s.workerGroup.members.map memberView ↔
      ∀ e ∈ s.workerGroup.members.zipIdx, InOrder (Int32.ofNat s.workerGroup.members.length) e.2 e.1 ∧
        (e.1.inferInstanceName = "" → s.workerGroup.inferInstanceName = "") := by
  rw [readMembers_eq h,map_map,map_zipIdx_eq_map_iff]
  refine forall₂_congr fun e _ => ?_
  rw [Function.comp_apply,memberView_rankedMember_iff (readInference_dataParallelMode h),
    workersPerReplica_filledGroup h]
  by_cases hempty : e.1.inferInstanceName = "" <;> simp [Renderer.orElse,hempty]

lemma inOrder_iff_of_live (h : Live s) :
    (∀ e ∈ s.workerGroup.members.zipIdx, InOrder (Int32.ofNat s.workerGroup.members.length) e.2 e.1 ∧
        (e.1.inferInstanceName = "" → s.workerGroup.inferInstanceName = "")) ↔
      (Planner.usesLlamaRpcRuntime s = true → ∀ m ∈ s.workerGroup.members, ∀ m' ∈ s.workerGroup.members,
        m.inferInstanceName = m'.inferInstanceName) ∧
      (Planner.usesLlamaRpcRuntime s = false → ∀ m ∈ s.workerGroup.members,
        m.inferInstanceName = "" → s.workerGroup.inferInstanceName = "") := by
  obtain ⟨group,hgroup,heq⟩ := h.group
  have hlength : s.workerGroup.members.length = group.members.length := by
    have hints := h.staffed.expectedWorkers
    rw [heq,rankedGroup_expectedWorkers,hgroup.expectedWorkers,← heq,← toInt_inj,
      toInt_ofNat_of_lt hgroup.count,toInt_ofNat_of_lt h.staffed.count] at hints
    omega
  have hname : s.workerGroup.inferInstanceName = group.inferInstanceName := by rw [heq,rankedGroup_inferInstanceName]
  have hmem : ∀ {P : WorkerGroupMemberSpec → Prop},
      (∀ e ∈ s.workerGroup.members.zipIdx, P e.1) ↔ ∀ m ∈ s.workerGroup.members, P m := by
    intro P
    constructor
    · intro hall m hm
      obtain ⟨k,hk⟩ := mem_iff_getElem?.1 hm
      exact hall (m,k) (mem_zipIdx_iff_getElem?.2 hk)
    · intro hall e he
      exact hall e.1 (mem_of_getElem? (mem_zipIdx_iff_getElem?.1 he))
  simp only [forall₂_and]
  rw [hlength,hmem (P := fun m => m.inferInstanceName = "" → s.workerGroup.inferInstanceName = "")]
  cases hrpc : Planner.usesLlamaRpcRuntime s with
  | true =>
    have hmembers : s.workerGroup.members =
        rankByInfer group ((group.members.filter (·.enabled)).map (servedInfer group)) [] group.members := by
      rw [heq,rankedGroup,if_pos hrpc]
    rw [rankByInfer_inOrder_iff hgroup hmembers]
    have hserved : ∀ m ∈ s.workerGroup.members, m.inferInstanceName = "" → s.workerGroup.inferInstanceName = "" := by
      intro m hm hempty
      have hinfer : m.inferInstanceName ∈ s.workerGroup.members.map (·.inferInstanceName) := mem_map_of_mem hm
      rw [hmembers,rankByInfer_inferInstanceName hgroup.enabled,hempty] at hinfer
      obtain ⟨m',-,hm'⟩ := mem_map.1 hinfer
      rw [hname]
      unfold servedInfer at hm'
      split at hm'
      · exact hm'
      · contradiction
    exact ⟨fun hall => ⟨fun _ => hall.1,fun hfalse => absurd hfalse (by decide)⟩,fun hall => ⟨hall.1 rfl,hserved⟩⟩
  | false =>
    have hmembers : s.workerGroup.members = rankMembers s.inference group group.members 0 := by
      rw [heq,rankedGroup,if_neg (by simp [hrpc])]
      rfl
    have horder := rankMembers_inOrder hgroup h.dataParallelMode
    rw [← hmembers] at horder
    exact ⟨fun hall => ⟨fun htrue => absurd htrue (by decide),fun _ => hall.2⟩,fun hall => ⟨horder,hall.2 rfl⟩⟩

lemma resolvePlacementTargetAliasValue_node (h : node ≠ "") :
    resolvePlacementTargetAliasValue (some ("node:" ++ node)) = .ok node := by
  have hstart := prefix_append_text "node:" node
  have hempty : "node:" ++ node ≠ "" := by
    intro heq
    rw [heq] at hstart
    exact absurd hstart (by decide)
  have hlocal : "node:" ++ node ≠ "local" := by
    intro heq
    rw [heq] at hstart
    exact absurd hstart (by decide)
  simp only [resolvePlacementTargetAliasValue,hempty,hlocal,if_false,hstart,if_true,nodeTarget_drop,h]

lemma collectPlacementReferencedNodes_of_live (h : Live s) (hgroup : readWorkerGroup s = .ok group) :
    (collectPlacementReferencedNodes (storedState s group)).length = s.nodes.length := by
  have hmembers : group.members.map (·.nodeName) = s.workerGroup.members.map (·.nodeName) :=
    rankedMembers_nodeName (g := workerGroupDefaults _ _ s.workerGroup) hgroup
      (ne_nil_of_length_pos h.staffed.member)
  have hnodes : (storedState s group).nodes.map (·.name) = s.nodes.map (·.name) := map_map
  rw [← length_map (f := fun node : NodeInventory => node.name)]
  refine ((perm_ext_iff_of_nodup (nodup_dedup _) h.nodes.nodup).2 fun name => ?_).length_eq
  refine mem_collectPlacementReferencedNodes.trans ?_
  rw [hnodes]
  constructor
  · rintro ⟨-,rfl | hname | hname | hname | hname | hname⟩
    · exact h.primaryInferNode
    · have hname : name ∈ group.members.map (·.nodeName) := hname
      rw [hmembers] at hname
      obtain ⟨m,hm,rfl⟩ := mem_map.1 hname
      exact h.staffed.nodes m hm
    · exact hname
    · obtain ⟨d,hd,rfl⟩ := mem_map.1 hname
      exact h.disks d hd
    · obtain ⟨i,hi,rfl⟩ := mem_map.1 hname
      exact h.instances i hi
    · obtain ⟨n,hn,rfl⟩ := mem_map.1 hname
      exact h.gpuNodes n hn
  · intro hname
    obtain ⟨node,hnode,rfl⟩ := mem_map.1 hname
    exact ⟨h.nodes.named node hnode,.inr (.inr (.inl hname))⟩

/-- A target keeps the plane where it is when there are several nodes or when it names the only one. -/
def TargetKept (s : DesiredState) : Prop :=
  ∀ node name, s.nodes = [node] → s.placementTarget = some ("node:" ++ name) → node.name = name

lemma map_eq_self_of_forall {l : List α} {f : α → α} (h : ∀ a ∈ l, f a = a) : l.map f = l :=
  (map_congr_left h).trans (map_id' l)

lemma placedOn_of_live (h : Live s) (hgroup : readWorkerGroup s = .ok group) {node : NodeInventory}
    (hnode : s.nodes = [node]) :
    let t := placedOn (storedState s group) node.name
    t.nodes = s.nodes.map storedNode ∧ t.disks = s.disks ∧ t.instances = s.instances ∧
      t.workerGroup.members = group.members := by
  have hone : ∀ name ∈ s.nodes.map (·.name), name = node.name := by simp [hnode]
  have hmembers : group.members.map (·.nodeName) = s.workerGroup.members.map (·.nodeName) :=
    rankedMembers_nodeName (g := workerGroupDefaults _ _ s.workerGroup) hgroup
      (ne_nil_of_length_pos h.staffed.member)
  refine ⟨?_,map_eq_self_of_forall fun d hd => ?_,map_eq_self_of_forall fun i hi => ?_,
    map_eq_self_of_forall fun m hm => ?_⟩
  · refine map_eq_self_of_forall fun stored hstored => ?_
    have hstored : stored ∈ s.nodes.map storedNode := hstored
    rw [hnode] at hstored
    rw [mem_singleton.1 hstored]
    rfl
  · rw [← hone d.nodeName (h.disks d hd)]
  · rw [← hone i.nodeName (h.instances i hi)]
  · have hname : m.nodeName ∈ s.workerGroup.members.map (·.nodeName) := hmembers ▸ mem_map_of_mem hm
    obtain ⟨m',hm',heq⟩ := mem_map.1 hname
    rw [← hone m.nodeName (heq ▸ h.staffed.nodes m' hm')]

lemma resolveOrDropTarget_of_live (h : Live s) (hgroup : readWorkerGroup s = .ok group) :
    ∃ t, resolveOrDropTarget (storedState s group) = .ok t ∧
      (TargetKept s ∧ t.nodes = s.nodes.map storedNode ∧ t.disks = s.disks ∧ t.instances = s.instances ∧
          t.workerGroup.members = group.members ∨
        ¬ TargetKept s ∧ t.nodes.map (·.name) ≠ s.nodes.map (·.name)) := by
  have hcount := collectPlacementReferencedNodes_of_live h hgroup
  cases htarget : s.placementTarget with
  | none =>
    have hkept : TargetKept s := fun node name _ hsome => by simp [htarget] at hsome
    have hvalue : resolvePlacementTargetAliasValue (storedState s group).placementTarget = .ok "" := by
      rw [show (storedState s group).placementTarget = none from htarget]
      rfl
    rcases resolveOrDropTarget_cases hvalue with ⟨-,hresolve⟩ | ⟨hne,-⟩ | ⟨hne,-⟩
    · exact ⟨_,hresolve,.inl ⟨hkept,rfl,rfl,rfl,rfl⟩⟩
    · exact absurd rfl hne
    · exact absurd rfl hne
  | some target =>
    obtain ⟨name,rfl,hname⟩ := h.nodes.target target htarget
    have hvalue : resolvePlacementTargetAliasValue (storedState s group).placementTarget = .ok name := by
      rw [show (storedState s group).placementTarget = some ("node:" ++ name) from htarget]
      exact resolvePlacementTargetAliasValue_node hname
    rcases resolveOrDropTarget_cases hvalue with ⟨hempty,-⟩ | ⟨-,hfew,hresolve⟩ | ⟨-,hmany,hresolve⟩
    · exact absurd hempty hname
    · -- all that the state mentions is its one node
      have hpos := length_pos_iff.2 h.nodes.nonempty
      obtain ⟨node,hnode⟩ := length_eq_one_iff.1 (show s.nodes.length = 1 by omega)
      refine ⟨_,hresolve,?_⟩
      by_cases hsame : node.name = name
      · subst hsame
        refine .inl ⟨fun node' name' hnode' hsome => ?_,placedOn_of_live h hgroup hnode⟩
        rw [hnode,singleton_inj] at hnode'
        rw [htarget,Option.some.injEq,String.append_right_inj] at hsome
        rw [← hnode',hsome]
      · refine .inr ⟨fun hkept => hsame (hkept node name hnode htarget),fun hnames => hsame ?_⟩
        have hnames : [name] = [node.name] := by simpa [placedOn,storedState,hnode] using hnames
        simpa using hnames.symm
    · refine ⟨_,hresolve,.inl ⟨fun node name' hnode _ => ?_,rfl,rfl,rfl,rfl⟩⟩
      rw [hcount,hnode,length_singleton] at hmany
      omega

structure Lossless (s : DesiredState) : Prop where
  devices : ∀ node ∈ s.nodes, ∀ gpu ∈ node.gpuDevices, gpu ∈ node.gpuMemoryMb.map Prod.fst
  target : TargetKept s
  replicas : Planner.usesLlamaRpcRuntime s = true → ∀ m ∈ s.workerGroup.members, ∀ m' ∈ s.workerGroup.members,
    m.inferInstanceName = m'.inferInstanceName
  named : Planner.usesLlamaRpcRuntime s = false → ∀ m ∈ s.workerGroup.members, m.inferInstanceName = "" →
    s.workerGroup.inferInstanceName = ""

structure SameParts (s t : DesiredState) : Prop where
  nodes : t.nodes.map nodeView = s.nodes.map nodeView
  disks : t.disks = s.disks
  instances : t.instances = s.instances
  members : t.workerGroup.members.map memberView = s.workerGroup.members.map memberView

def pairPlane (engine : String) (replicas : Option Int32) : Json := ofFields [
  field "version" (some (2 : Int32)),field "plane_name" (some "demo"),field "plane_mode" (some "compute"),
  ("runtime",some (ofFields [field "engine" (some engine),field "workers" (some (2 : Int32))])),
  ("infer",replicas.map fun n => ofFields [field "replicas" (some n)]),
  ("worker",some (ofFields [field "gpu_device" (some "0")]))]

def onLive {α : Type} (doc : Json) (f : DesiredState → Checked α) : Checked α := do
  let rendered ← Renderer.render (fun _ => "") doc
  let s ← resolveDesiredStateDynamicPlacements (reportingClock {}) [] rendered
  f s

lemma onLive_eq_ok {doc : Json} {f : DesiredState → Checked α} {a : α} (h : onLive doc f = .ok a) :
    ∃ rendered s, Renderer.render (fun _ => "") doc = .ok rendered ∧
      resolveDesiredStateDynamicPlacements (reportingClock {}) [] rendered = .ok s ∧ f s = .ok a := by
  simp only [onLive,bind_eq_ok] at h
  obtain ⟨rendered,hrender,s,hplace,hf⟩ := h
  exact ⟨rendered,s,hrender,hplace,hf⟩

def ranksOf (s : DesiredState) : List (Int32 × Bool × Int32 × Int32) :=
  s.workerGroup.members.map fun m => (m.rank,m.leader,m.replicaIndex,m.replicaSize)

end Naim.LiveState
