import Naim.StoredSections

/-!
# Reloading a plane

The renderer on a stored document. Workers come back where they were; a service
whose node was the default one comes back where the renderer puts a service
without a node.
-/

namespace Naim.Storage

open Checked Json List Projector Rows
open Renderer hiding defaultNodeName inferReplicaCount

variable {s t : DesiredState} {α : Type} {node defaultCommand fallback defaultImage : String} {service j block : Json}
  {w : InstanceSpec} {custom m : StringMap}

lemma getOr_ok (o : Option α) (a : α) : getOr (.ok o) (.ok a) = .ok (o.getD a) := by cases o <;> rfl

/-- Where a service comes back: the default node is not written, so a service there takes the fallback. -/
def reloadedHome (s : DesiredState) (node fallback : String) : String :=
  (elide (defaultNodeName s) node).getD fallback

variable {i : InstanceSpec} {index : ℕ}

lemma reloadedHome_eq_self : reloadedHome s node fallback = node ↔
    (node = defaultNodeName s → fallback = defaultNodeName s) := by
  unfold reloadedHome elide
  split
  next h => simp [h]
  next h => simp [h]

def freeNode (s : DesiredState) : String :=
  ((reloadedNodes s).find? (·.executionMode ≠ .workerOnly)).elim (defaultNodeName s) (·.name)

lemma legacyTopology_stored :
    Validator.legacyTopologyPlacementEnabled (storedSections s).doc = shouldEmitTopology s :=
  legacyTopologyPlacementEnabled_project

variable (hs : Settled s) (hstore : Storable s) (ht : Reloaded s t)

section Nodes

include ht in
lemma requireNode_project (htopo : shouldEmitTopology s = true) (hnode : ∃ n ∈ s.nodes, n.name = node)
    (context : String) : requireNode t node context = .ok node := by
  obtain ⟨n,hn,hname⟩ := hnode
  have hany : t.nodes.any (·.name = node) = true := by
    rw [ht.nodes,reloadedNodes,if_pos htopo,any_map,any_eq_true]
    exact ⟨n,hn,decide_eq_true hname⟩
  rw [requireNode,if_pos hany]
  rfl

include ht in
lemma serviceNode_project (hget : service.get? "node" = (elide (defaultNodeName s) node).map toJson)
    (hplace : Placeable s reserved node) (serviceName : String) :
    resolveLegacyServiceNodeName (storedSections s) t service serviceName =
      .ok (elide (defaultNodeName s) node) := by
  rw [resolveLegacyServiceNodeName,legacyTopology_stored]
  by_cases htopo : shouldEmitTopology s = true
  · rw [if_pos htopo,string?,hget,bind_asString?_map]
    unfold elide
    split
    · rfl
    next hne =>
      obtain ⟨-,n,hn,hname,-⟩ := hplace.resolve_left hne
      rw [mapOption,requireNode_project ht htopo ⟨n,hn,hname⟩,map_ok]
  · rw [if_neg htopo,hplace.resolve_right fun h => htopo h.1,elide,if_pos rfl]
    rfl

lemma missingService_project (r : Sections) (t : DesiredState) (serviceName : String) :
    resolveLegacyServiceNodeName r t (.obj []) serviceName = .ok none := by
  unfold resolveLegacyServiceNodeName
  split <;> rfl

include hs ht

lemma defaultNodeName_project : Renderer.defaultNodeName t = .ok (defaultNodeName s) := by
  rw [Renderer.defaultNodeName,ht.nodes,reloadedNodes]
  by_cases htopo : shouldEmitTopology s = true
  · rcases defaultNodeName_cases hs.nodes with ⟨node,-,-,hexec,-⟩ | ⟨-,-,n,nodes,hcons,hname⟩
    · simp [shouldEmitTopology,hexec] at htopo
    · rw [if_pos htopo,hcons,hname]
      rfl
  · rw [if_neg htopo]
    rfl

lemma firstInferNode_project : firstInferNode t = .ok (freeNode s) := by
  rw [firstInferNode,ht.nodes,freeNode]
  cases (reloadedNodes s).find? fun n => n.executionMode ≠ .workerOnly with
  | none => exact defaultNodeName_project hs ht
  | some n => rfl

end Nodes

lemma worker_project {first : InstanceSpec} (h : (findInstances s .worker).head? = some first) :
    (storedSections s).worker = workerBlock s first := by simp [storedSections,h]

lemma workerCount_project (hs : Settled s) : workerCount (storedSections s) = .ok (findInstances s .worker).length := by
  have hruntime : (storedSections s).doc.member "runtime" = .ok (projectRuntime s) := member_eq_ok.2 (get?_runtime s)
  have hlt := hs.workers.length
  have hpos := length_pos_iff.2 hs.workers.nonempty
  rw [workerCount,hruntime,ok_bind,value_eq (isObject_projectRuntime s),get?_workers,readOr_some,
    Codec.get_toJson,ok_bind,max_one_ofNat hlt,Nat.max_eq_right hpos,Int32.toInt_ofNat_of_lt hlt,Int.toNat_natCast]
  rfl

section Workers

variable (hw : (findInstances s .worker)[index]? = some w)

include hs hstore ht hw

lemma workerNode_project : resolveWorkerNodeName (storedSections s) t index = .ok w.nodeName := by
  obtain ⟨first,hfirst,-⟩ := exists_firstWorker hs.workers.nonempty
  have hmem : w ∈ findInstances s .worker := mem_of_getElem? hw
  have hplace := (workersPlaceable_iff hfirst).1 hstore.workers
  rw [resolveWorkerNodeName,resolveLegacyWorkerAssignmentNodeName,assignment?,legacyTopology_stored,
    worker_project hfirst,defaultNodeName_project hs ht,arrayAt,workerBlock_assignments]
  cases htogether : placedTogether first (findInstances s .worker) with
  | true =>
    rw [if_pos htogether] at hplace
    have hnode : (workerBlock s first).get? "node" =
        (elide (defaultNodeName s) first.nodeName).map toJson := by
      rw [workerBlock_node,if_pos htogether]
    rw [serviceNode_project ht hnode hplace,getOr_ok,getD_elide,(placedTogether_iff.1 htogether w hmem).1]
    simp [items,mapOption]
    rfl
  | false =>
    rw [if_neg (by simp [htogether])] at hplace
    obtain ⟨n,hn,hname,-⟩ := hplace.2 w hmem
    have hrequire := requireNode_project ht hplace.1 ⟨n,hn,hname⟩ "worker assignment"
    simp [hplace.1,hw,projectAssignment,string?,mapOption,hrequire]
    rfl

omit ht in
theorem workerGpu_project : resolveWorkerGpuDevice (storedSections s) index = nonEmpty w.gpuDevice := by
  obtain ⟨first,hfirst,-⟩ := exists_firstWorker hs.workers.nonempty
  have hmem : w ∈ findInstances s .worker := mem_of_getElem? hw
  have hplace := (workersPlaceable_iff hfirst).1 hstore.workers
  rw [resolveWorkerGpuDevice,assignment?,legacyTopology_stored,worker_project hfirst,arrayAt,
    workerBlock_assignments,string?,workerBlock_gpuDevice]
  cases htogether : placedTogether first (findInstances s .worker) with
  | true => simp [items,(placedTogether_iff.1 htogether w hmem).2]
  | false =>
    rw [if_neg (by simp [htogether])] at hplace
    simp [hplace.1,hw,projectAssignment,string?]

end Workers

section

variable (s : DesiredState)

def storedReplicas : ℕ := if s.planeMode = .llm then max 1 (inferReplicaCount s) else 1

def inferOn : Bool := decide (s.planeMode = .llm) || decide (s.inference.runtimeEngine = "llama.cpp")

def storedInferCount : ℕ :=
  if inferOn s then (if usesLlamaRpc s then storedReplicas s + 1 else 1) else 0

def replicaLeader (index : ℕ) : Option InstanceSpec :=
  let workers := findInstances s .worker
  workers[min (workers.length - 1) ((index - 1) * max 1 (workers.length / storedReplicas s))]?

def reloadedInfer (index : ℕ) : String :=
  if index = 0 then (findInstance s .infer).elim (freeNode s) fun i => reloadedHome s i.nodeName (freeNode s)
  else if storedReplicas s > 1 then (replicaLeader s index).elim (freeNode s) (·.nodeName)
  else freeNode s

def reloadedApp : String :=
  (storedPrimary s).elim (reloadedInfer s 0) fun i => reloadedHome s i.nodeName (reloadedInfer s 0)

lemma infer_project :
    (storedSections s).infer = (findInstance s .infer).elim (.obj []) (inferBlock s) := by
  cases hi : findInstance s .infer <;> simp [storedSections,hi]

end

lemma inferSection_value [Codec α] (key : String) (default : α) :
    (storedSections s).infer.value key default = readOr ((storedSections s).infer.get? key) default := by
  refine value_eq ?_ default
  rw [infer_project]
  cases findInstance s .infer with
  | none => rfl
  | some i => exact isObject_inferBlock s i

lemma usesLlamaRpc_project (ht : Reloaded s t) : usesLlamaRpc t = usesLlamaRpc s := by
  rw [usesLlamaRpc,usesLlamaRpc,ht.runtimeEngine,ht.distributedBackend]

lemma inferEnabled_project (ht : Reloaded s t) : inferEnabled (storedSections s) t = .ok (inferOn s) := by
  have hnone : (storedSections s).infer.get? "enabled" = none := by
    cases hi : findInstance s .infer <;> simp [storedSections,hi,inferBlock]
  rw [inferEnabled,inferSection_value,hnone,readOr_none,ht.planeMode,ht.runtimeEngine,inferOn]

lemma inferReplicaCount_project (hs : Settled s) (hstore : Storable s) (ht : Reloaded s t) :
    Renderer.inferReplicaCount (storedSections s) t = .ok (storedReplicas s) := by
  have hlt : max 1 (inferReplicaCount s) < 2^31 := by
    have := inferReplicaCount_le (s := s)
    have := hs.workers.length
    omega
  rw [Renderer.inferReplicaCount,usesLlamaRpc_project ht,storedReplicas,inferSection_value]
  by_cases hllm : s.planeMode = .llm
  · obtain ⟨i,hi⟩ := hstore.inferred hllm
    have hrpc : usesLlamaRpc s = true := by simp [usesLlamaRpc,hs.llm hllm]
    have hget : (storedSections s).infer.get? "replicas" =
        some (toJson (Int32.ofNat (max 1 (inferReplicaCount s)))) := by
      simp [storedSections,hi,projectReplicas_llm hs.workers hs.llm,hllm]
    rw [if_pos hrpc,hget,readOr_some,Codec.get_toJson,ok_bind,if_pos hllm,Int32.toInt_ofNat_of_lt hlt,Int.toNat_natCast]
    exact congrArg _ (Nat.max_eq_right (le_max_left _ _))
  · have hnone : (storedSections s).infer.get? "replicas" = none := by
      cases hi : findInstance s .infer <;> simp [storedSections,hi,projectReplicas,hllm]
    rw [hnone,readOr_none,if_neg hllm]
    split <;> rfl

lemma inferInstanceCount_project (hs : Settled s) (hstore : Storable s) (ht : Reloaded s t) :
    inferInstanceCount (storedSections s) t = .ok (if usesLlamaRpc s then storedReplicas s + 1 else 1) := by
  rw [inferInstanceCount,usesLlamaRpc_project ht,inferReplicaCount_project hs hstore ht]
  split <;> rfl

section Homes

include hs hstore ht

lemma inferNode_project (index : ℕ) :
    resolveInferNodeName (storedSections s) t index = .ok (reloadedInfer s index) := by
  rw [resolveInferNodeName,inferReplicaCount_project hs hstore ht,ok_bind,reloadedInfer]
  by_cases hzero : index = 0
  · rw [if_pos hzero,if_pos hzero,if_neg (by omega),firstInferNode_project hs ht]
    rw [infer_project]
    cases hi : findInstance s .infer with
    | none =>
      rw [Option.elim_none,missingService_project,getOr_ok]
      rfl
    | some i =>
      rw [Option.elim_some,serviceNode_project ht (inferBlock_node s i) (hstore.infer i hi),getOr_ok]
      rfl
  · rw [if_neg hzero,if_neg hzero,missingService_project]
    by_cases hseveral : storedReplicas s > 1
    · have hpos := length_pos_iff.2 hs.workers.nonempty
      have hlt : min ((findInstances s .worker).length - 1)
          ((index - 1) * max 1 ((findInstances s .worker).length / storedReplicas s)) <
            (findInstances s .worker).length := by
        omega
      have hleader := getElem?_eq_getElem hlt
      rw [if_pos ⟨hseveral,by omega⟩,if_pos hseveral,resolveReplicaNodeName,workerCount_project hs,ok_bind,
        workerNode_project hs hstore ht hleader,replicaLeader,hleader]
      rfl
    · rw [if_neg fun h => hseveral h.1,if_neg hseveral,firstInferNode_project hs ht]
      rfl

lemma appNode_project : resolveAppNodeName (storedSections s) t = .ok (reloadedApp s) := by
  rw [resolveAppNodeName,inferNode_project hs hstore ht,reloadedApp]
  cases hi : storedPrimary s with
  | none =>
    have hblock : (storedSections s).app = appOff := by simp [storedSections,hi]
    have hnone : resolveLegacyServiceNodeName (storedSections s) t appOff "app" = .ok none := by
      unfold resolveLegacyServiceNodeName
      split <;> simp [string?,appOff,mapOption]
    rw [hblock,hnone,getOr_ok]
    rfl
  | some i =>
    have hblock : (storedSections s).app = storedApp s i true := by simp [storedSections,hi]
    rw [hblock,storedApp,serviceNode_project ht (app_node s _ true i) (hstore.apps i (mem_of_getElem? hi)),getOr_ok]
    rfl

lemma serviceHome_project (hget : service.get? "node" = (elide (defaultNodeName s) node).map toJson)
    (hplace : Placeable s .workerOnly node) (serviceName : String) :
    getOr (resolveLegacyServiceNodeName (storedSections s) t service serviceName)
      (resolveAppNodeName (storedSections s) t) = .ok (reloadedHome s node (reloadedApp s)) := by
  rw [serviceNode_project ht hget hplace,appNode_project hs hstore ht,getOr_ok]
  rfl

end Homes

lemma lookup_assignAll {key : String} (h : ∀ e ∈ custom, e.1 ≠ key) :
    (assignAll m custom).lookup key = m.lookup key := by
  induction custom generalizing m with
  | nil => rfl
  | cons e custom ih =>
    have hrest := ih (m := Assoc.set m e.1 e.2) fun e' he' => h e' (mem_cons_of_mem _ he')
    refine hrest.trans ?_
    rw [Assoc.lookup_set,if_neg (h e (by simp)).symm]

structure Readable (defaultImage defaultCommand : String) (j : Json) : Prop where
  image : ∃ image, j.value "image" defaultImage = .ok image
  command : ∃ command, serviceCommand j defaultCommand = .ok command
  env : ∃ env : StringMap, j.mapAs "env" = .ok env ∧ ∀ e ∈ env, isNaimVariable e.1 = false
  ports : ∃ ports, renderPublishedPorts j = .ok ports

lemma ServiceBlock.readable (h : ServiceBlock defaultImage defaultCommand i j) :
    Readable defaultImage defaultCommand j where
  image := ⟨i.image,by rw [value_eq h.object,h.image,readOr_map,getD_elide]⟩
  command := serviceCommand_project h.object h.start
  env := ⟨_,mapAs_elide h.env,fun e he => by simpa using (mem_filter.1 he).2⟩
  ports := ⟨_,renderPublishedPorts_project h.publish⟩

lemma lookup_naimVariable {key : String} (hkey : isNaimVariable key = true)
    (h : ∀ e ∈ custom, isNaimVariable e.1 = false) : (assignAll m custom).lookup key = m.lookup key := by
  refine lookup_assignAll fun e he heq => ?_
  simp [← heq,h e he] at hkey

lemma infer_readable (s : DesiredState) :
    Readable "naim/infer-runtime:dev" "/runtime/bin/naim-inferctl container-boot" (storedSections s).infer := by
  rw [infer_project]
  cases findInstance s .infer with
  | none => exact ⟨⟨_,rfl⟩,⟨_,rfl⟩,⟨[],rfl,by simp⟩,⟨_,rfl⟩⟩
  | some i => exact (inferBlock_service s i).readable

lemma inferDiskSizeGb_project (s : DesiredState) : ∃ size, inferDiskSizeGb (storedSections s).infer = .ok size := by
  unfold inferDiskSizeGb
  split
  · rw [infer_project]
    cases findInstance s .infer with
    | none => exact ⟨_,rfl⟩
    | some i =>
      have hstorage : (inferBlock s i).get? "storage" = projectServiceStorage (findDiskByName s i.privateDiskName) := by
        simp [inferBlock]
      have hvolumes : (inferBlock s i).get? "volumes" = none := by
        simp [inferBlock]
      exact ⟨_,(extractPrivateDisk_project hstorage (.inr hvolumes) 12).1⟩
  · exact ⟨0,rfl⟩

section Reading

include hs hstore ht

lemma renderInfer_project (count index : ℕ) : ∃ i, renderInfer (storedSections s) t count index = .ok i ∧
    ∃ port : Int32, i.environment.lookup "NAIM_GATEWAY_PORT" = some (toString port) := by
  obtain ⟨⟨image,himage⟩,⟨command,hcommand⟩,⟨env,henv,hcustom⟩,ports,hports⟩ := infer_readable s
  obtain ⟨size,hsize⟩ := inferDiskSizeGb_project s
  have hnode := inferNode_project hs hstore ht index
  simp only [renderInfer,bind_eq_ok,pure_eq_ok]
  refine ⟨_,⟨_,hnode,_,himage,_,hcommand,_,hsize,_,henv,_,hports,rfl⟩,t.gateway.listenPort + Int32.ofNat index,?_⟩
  have hplain : instanceNeedsPrivateDisk .infer = false := rfl
  rw [lookup_naimVariable (by decide) hcustom,hplain,Bool.and_false,if_neg (by simp),inferEnvironment,
    Assoc.lookup_ofList]
  rfl

lemma renderInferInstance_project : ∃ infers, renderInferInstance (storedSections s) t = .ok infers := by
  rw [renderInferInstance,inferEnabled_project ht,ok_bind]
  split
  · rw [inferInstanceCount_project hs hstore ht,ok_bind]
    obtain ⟨infers,hinfers⟩ := mapM_succeeds (l := List.range (if usesLlamaRpc s then storedReplicas s + 1 else 1))
      fun index _ => (renderInfer_project hs hstore ht _ index).imp fun i hi => hi.1
    rw [hinfers,ok_bind]
    unfold withReplicaUpstreams
    split
    · exact ⟨_,rfl⟩
    · exact ⟨_,rfl⟩
    next first rest hne =>
      split
      · exact ⟨_,rfl⟩
      · obtain ⟨upstreams,hup⟩ := mapM_succeeds (f := replicaUpstream t first.nodeName) (l := rest) fun i hi => by
          obtain ⟨index,-,hindex⟩ := forall₂_mem_right (mapM_eq_ok.1 hinfers) (mem_cons_of_mem first hi)
          obtain ⟨i',hi',port,hport⟩ := renderInfer_project hs hstore ht _ index
          obtain rfl := ok_unique hi' hindex
          rw [replicaUpstream,gatewayPortOf,hport]
          simp [Text.stoi_toString]
        rw [hup]
        exact ⟨_,rfl⟩
  · exact ⟨[],rfl⟩

end Reading

lemma workerResources_project {first : InstanceSpec} (h : (findInstances s .worker).head? = some first) :
    (storedSections s).workerResources = projectWorkerResources first := by simp [storedSections,h]

section WorkerResources

variable (i : InstanceSpec)

lemma resources_shareMode : (projectWorkerResources i).value "share_mode" "exclusive" = .ok i.shareMode.text := by
  simp [projectWorkerResources]

lemma resources_gpuFraction : (projectWorkerResources i).value "gpu_fraction" 1 = .ok i.gpuFraction := by
  simp [projectWorkerResources]

lemma resources_memoryCapMb : (projectWorkerResources i).present "memory_cap_mb" = .ok i.memoryCapMb := by
  simp [projectWorkerResources,present]

end WorkerResources

section Reading

include hs hstore ht

variable (inferNames : List String)

lemma inferInstanceNameForWorker_project (index : ℕ) :
    ∃ name, Renderer.inferInstanceNameForWorker (storedSections s) t inferNames index = .ok name := by
  unfold Renderer.inferInstanceNameForWorker
  split
  · exact ⟨_,rfl⟩
  · rw [workerCount_project hs,inferReplicaCount_project hs hstore ht]
    exact ⟨_,rfl⟩

lemma renderWorker_project (hw : (findInstances s .worker)[index]? = some w) (total : ℕ) :
    ∃ i, renderWorker (storedSections s) t inferNames total index = .ok i ∧
      (t.inference.distributedBackend = "llama_rpc" →
        ∃ port : Int32, i.environment.lookup "NAIM_WORKER_RPC_PORT" = some (toString port)) := by
  obtain ⟨first,hfirst,-⟩ := exists_firstWorker hs.workers.nonempty
  obtain ⟨⟨image,himage⟩,⟨command,hcommand⟩,⟨env,henv,hcustom⟩,ports,hports⟩ := (workerBlock_service s first).readable
  obtain ⟨name,hname⟩ := inferInstanceNameForWorker_project hs hstore ht inferNames index
  have hnode := workerNode_project hs hstore ht hw
  have hsize := (extractPrivateDisk_project (workerBlock_storage s first) (.inr (workerBlock_volumes s first)) 2).1
  rw [← worker_project hfirst] at himage hcommand henv hports hsize
  simp only [renderWorker,bind_eq_ok,pure_eq_ok,workerResources_project hfirst]
  refine ⟨_,⟨_,hnode,_,himage,_,hcommand,first.placementMode.text,by simp [projectWorkerResources],_,
    parsePlacementMode_text _,_,resources_shareMode first,_,parseGpuShareMode_text _,_,resources_gpuFraction first,_,
    resources_memoryCapMb first,_,hsize,_,hname,_,henv,_,hports,rfl⟩,fun hrpc => ⟨stableLlamaRpcWorkerPort t.planeName
      (buildWorkerName t.planeName index total),?_⟩⟩
  rw [lookup_naimVariable (by decide) hcustom,workerEnvironment,if_pos hrpc]
  simp [assignAll,Assoc.lookup_set]

lemma renderWorkerEntry_project (hw : (findInstances s .worker)[index]? = some w)
    (total : ℕ) : ∃ e, renderWorkerEntry (storedSections s) t inferNames total index = .ok e := by
  obtain ⟨first,hfirst,-⟩ := exists_firstWorker hs.workers.nonempty
  have hpath := (extractPrivateDisk_project (workerBlock_storage s first) (.inr (workerBlock_volumes s first)) 2).2
  obtain ⟨i,hi,hport⟩ := renderWorker_project hs hstore ht inferNames hw total
  obtain ⟨name,hname⟩ := inferInstanceNameForWorker_project hs hstore ht inferNames index
  obtain ⟨member,hmember⟩ : ∃ member, mapOption (if t.inference.distributedBackend = "llama_rpc" then some i else none)
      (renderMember (storedSections s) t inferNames total index) = .ok member := by
    refine mapOption_succeeds fun j hj => ?_
    obtain ⟨hrpc,rfl⟩ : t.inference.distributedBackend = "llama_rpc" ∧ i = j := by simpa using hj
    obtain ⟨port,hport⟩ := hport hrpc
    simp only [renderMember,rpcPortOf,hname,hport,Text.stoi_toString,inferReplicaCount_project hs hstore ht,ok_bind]
    exact ⟨_,rfl⟩
  rw [← worker_project hfirst] at hpath
  rw [renderWorkerEntry,hi,ok_bind,hmember,ok_bind,hpath]
  exact ⟨_,rfl⟩

lemma renderWorkerInstances_project :
    ∃ workers, renderWorkerInstances (storedSections s) t inferNames = .ok workers := by
  rw [renderWorkerInstances,workerCount_project hs,ok_bind]
  refine mapM_succeeds fun index hindex => ?_
  exact renderWorkerEntry_project hs hstore ht inferNames (getElem?_eq_getElem (mem_range.1 hindex)) _

end Reading

def storedAppDisk (disk : Option DiskSpec) : Int32 × String :=
  disk.elim (8,"/naim/private") fun d => (d.sizeGb,d.containerPath)

/-- The app at a position comes back as primary when it is the stored primary one or the first. -/
def reloadedAppName (s : DesiredState) (index : ℕ) (i : InstanceSpec) : String :=
  buildAppInstanceName s.planeName (storedAppName i)
    (decide (index = primaryAppIndex (findInstances s .app)) || decide (index = 0))

lemma extractAppDisk_project (s : DesiredState) (multiApp primary : Bool) (i : InstanceSpec) :
    extractPrivateDiskSizeGb (projectAppInstance s multiApp primary i) 8 "volumes" =
      .ok (storedAppDisk (findDiskByName s i.privateDiskName)).1 ∧
    extractPrivateMountPath (projectAppInstance s multiApp primary i) "/naim/private" "volumes" =
      .ok (storedAppDisk (findDiskByName s i.privateDiskName)).2 := by
  have hblock : storageBlock? (projectAppInstance s multiApp primary i) "volumes" =
      (((projectAppVolumes (findDiskByName s i.privateDiskName)).getD .null).items).head? := by
    rw [storageBlock?,object?,app_storage,arrayAt,app_volumes]
    rfl
  unfold extractPrivateDiskSizeGb extractPrivateMountPath
  rw [hblock]
  cases findDiskByName s i.privateDiskName with
  | none => exact ⟨rfl,rfl⟩
  | some d => simp [projectAppVolumes,items,storedAppDisk]

lemma renderAppModelMount_project (t : DesiredState) (name : String) (m : AppModelMountSpec) :
    ∃ m', renderAppModelMount t name (projectAppModel m) = .ok m' := by
  have hsource : (projectAppModel m).member "source" = .ok (projectMountSource m) := by
    simp [projectAppModel]
  obtain ⟨paths,hpaths⟩ : ∃ paths : List String, (projectMountSource m).arrayAs "paths" = .ok paths := by
    simp [projectMountSource,arrayAs]
  rw [renderAppModelMount,hsource,ok_bind]
  simp only [hpaths]
  simp [projectAppModel,projectMountSource]

lemma appName_project (s : DesiredState) (hi : (findInstances s .app)[index]? = some i) (planeName : String) :
    ∃ marked appName,
    (storedApp s i (decide (index = primaryAppIndex (findInstances s .app)))).value "primary" false = .ok marked ∧
    (storedApp s i (decide (index = primaryAppIndex (findInstances s .app)))).value "name"
      (if marked || decide (index = 0) then "primary" else "app-" ++ toString index) = .ok appName ∧
    buildAppInstanceName planeName appName (marked || decide (index = 0)) =
      buildAppInstanceName planeName (storedAppName i)
        (decide (index = primaryAppIndex (findInstances s .app)) || decide (index = 0)) := by
  have hlt : index < (findInstances s .app).length := (List.getElem?_eq_some_iff.1 hi).1
  rw [storedApp,value_eq (isObject_projectAppInstance s _ _ _),app_primary]
  simp only [value_eq (isObject_projectAppInstance s _ _ _),app_name]
  by_cases hseveral : (findInstances s .app).length > 1
  · simp [hseveral]
  · -- a single app is stored without a name and a flag, and comes back as the first
    have hzero : index = 0 := by omega
    have hprimary : primaryAppIndex (findInstances s .app) = 0 := by
      have := primaryAppIndex_lt (findInstances s .app) fun h => by simp [h] at hlt
      omega
    simp [hseveral,hzero,hprimary,buildAppInstanceName]

section Apps

include hs hstore ht

lemma renderEnabledApp_project (inferNames : List String) (hi : (findInstances s .app)[index]? = some i) :
    ∃ e, renderEnabledApp (storedSections s) t inferNames index
      (storedApp s i (decide (index = primaryAppIndex (findInstances s .app)))) = .ok e := by
  obtain ⟨marked,appName,hmarked,hname,-⟩ := appName_project s hi t.planeName
  set several := decide ((findInstances s .app).length > 1)
  set primary := decide (index = primaryAppIndex (findInstances s .app))
  set app := projectAppInstance s several primary i with happ
  have hnode := serviceHome_project hs hstore ht (app_node s several primary i)
    (hstore.apps i (mem_of_getElem? hi)) "app"
  have himage : app.value "image" "" = .ok i.image := by
    rw [happ,value_eq (isObject_projectAppInstance s _ _ _),app_image,readOr_some,Codec.get_toJson]
  obtain ⟨command,hcommand⟩ : ∃ command, appCommand app = .ok command := by
    rw [appCommand,object?,app_start,projectServiceStart]
    by_cases hnone : i.command = "" ∨ i.command = ""
    · rw [if_pos hnone]
      exact ⟨"",rfl⟩
    · rw [if_neg hnone]
      simp
  have henv : app.mapAs "env" = .ok (projectAppEnv i) := mapAs_elide (app_env s _ _ i)
  obtain ⟨mounts,hmounts⟩ : ∃ mounts, (app.arrayAt "models").mapM (renderAppModelMount t
      (buildAppInstanceName t.planeName appName (marked || decide (index = 0)))) = .ok mounts := by
    rw [happ,app_arrayAt_models]
    refine mapM_succeeds fun model hmodel => ?_
    obtain ⟨m,-,rfl⟩ := mem_map.1 hmodel
    exact renderAppModelMount_project t _ m
  have hports : renderPublishedPorts app = .ok i.publishedPorts := renderPublishedPorts_project (app_publish s _ _ i)
  obtain ⟨hsize,hpath⟩ := extractAppDisk_project s several primary i
  have hvolumes : throwIf ((app.arrayAt "volumes").length > 1)
      "desired-state v2 currently supports at most one app volume" = .ok () := by
    simpa using (app_volumes_accepted s several primary i).2
  simp only [renderEnabledApp,bind_eq_ok,pure_eq_ok]
  exact ⟨_,_,hmarked,_,hname,_,hnode,_,himage,_,hcommand,_,henv,_,hmounts,_,hports,_,hsize,_,hpath,_,hvolumes,rfl⟩

lemma renderAppInstance_project (inferNames : List String) :
    ∃ apps, renderAppInstance (storedSections s) t inferNames = .ok apps := by
  obtain ⟨entries,hentries⟩ : ∃ entries, (storedSections s).apps.zipIdx.mapM
      (renderAppEntry (storedSections s) t inferNames) = .ok entries := by
    refine mapM_succeeds fun entry hentry => ?_
    have hget := mem_zipIdx_iff_getElem?.1 hentry
    by_cases hnil : findInstances s .app = []
    · have hone : (storedSections s).apps = [appOff] := by simp [storedSections,hnil]
      obtain ⟨-,happ⟩ : entry.2 = 0 ∧ appOff = entry.1 := by simpa [hone,getElem?_singleton] using hget
      have hoff : entry.1.value "enabled" true = .ok false := by simp [← happ,appOff]
      rw [renderAppEntry,hoff]
      exact ⟨none,rfl⟩
    · have happs : (storedSections s).apps = projectApps s := by simp [storedSections,hnil]
      rw [happs,projectApps,getElem?_map,Option.map_eq_some_iff] at hget
      obtain ⟨e,he,happ⟩ := hget
      obtain ⟨i,hi,rfl⟩ : ∃ i, (findInstances s .app)[entry.2]? = some i ∧ e = (i,entry.2) := by
        simpa [getElem?_zipIdx,eq_comm] using he
      obtain ⟨r,hr⟩ := renderEnabledApp_project hs hstore ht inferNames hi
      have hon : entry.1.value "enabled" true = .ok true := by
        rw [← happ,value_eq (isObject_projectAppInstance s _ _ _),app_enabled,readOr_some,Codec.get_toJson]
      rw [renderAppEntry,hon,ok_bind,if_pos rfl]
      refine mapOption_succeeds fun app happ' => ?_
      obtain rfl := Option.some.inj happ'
      rw [← happ]
      exact ⟨r,hr⟩
  rw [renderAppInstance,hentries]
  exact ⟨_,rfl⟩

end Apps

section Services

lemma skills_project (hi : findInstance s .skills = some i) : (storedSections s).skills = skillsBlock s i := by
  simp [storedSections,projectSkills,hi]

lemma browsing_project (hi : findInstance s .browsing = some i) :
    (storedSections s).browsing = browsingBlock s i := by simp [storedSections,projectBrowsing,hi]

lemma service_project {rendered : Checked (InstanceSpec × DiskSpec)}
    (henabled : block.value "enabled" false = .ok (findInstance s role).isSome)
    (h : ∀ i, findInstance s role = some i → ∃ e, rendered = .ok e) : ∃ l, whenEnabled block rendered = .ok l := by
  cases hi : findInstance s role with
  | none => exact ⟨[],whenEnabled_eq_ok.2 (.inl ⟨by simpa [hi] using henabled,rfl⟩)⟩
  | some i =>
    obtain ⟨e,he⟩ := h i hi
    exact ⟨[e],whenEnabled_eq_ok.2 (.inr ⟨by simpa [hi] using henabled,e,he,rfl⟩)⟩

include hs hstore ht

lemma renderSkillsInstance_project : ∃ skills, renderSkillsInstance (storedSections s) t = .ok skills := by
  refine service_project (skills_enabled hs.skills) fun i hi => ?_
  obtain ⟨⟨image,himage⟩,⟨command,hcommand⟩,⟨env,henv,-⟩,ports,hports⟩ := (skillsBlock_service s i).readable
  have hnode := serviceHome_project hs hstore ht (skillsBlock_node s i) (hstore.skills i hi) "skills"
  obtain ⟨hsize,hpath⟩ := extractPrivateDisk_project (skillsBlock_storage s i) (.inr (skillsBlock_volumes s i)) 1
  simp only [renderSkills,skills_project hi,bind_eq_ok,pure_eq_ok]
  exact ⟨_,_,hnode,_,himage,_,hcommand,_,hsize,_,henv,_,hports,_,hpath,rfl⟩

lemma renderWebGatewayInstance_project (dump : Json → String) :
    ∃ gateways, renderWebGatewayInstance dump (storedSections s) t = .ok gateways := by
  refine service_project (browsing_enabled hs.browsing) fun i hi => ?_
  obtain ⟨⟨image,himage⟩,⟨command,hcommand⟩,⟨env,henv,-⟩,ports,hports⟩ := (browsingBlock_service s i).readable
  have hnode := serviceHome_project hs hstore ht (browsingBlock_node s i) (hstore.browsing i hi) "webgateway"
  obtain ⟨hsize,hpath⟩ := extractPrivateDisk_project (browsingBlock_storage s i) (.inl (Eq.refl "storage")) 1
  simp only [renderWebGateway,browsing_project hi,bind_eq_ok,pure_eq_ok]
  exact ⟨_,_,hnode,_,himage,_,hcommand,_,hsize,_,henv,_,hports,_,hpath,rfl⟩

lemma renderInteractionInstance_project :
    ∃ interactions, renderInteractionInstance (storedSections s) t = .ok interactions := by
  unfold renderInteractionInstance
  split
  · have hbrowsing : (storedSections s).browsing.value "enabled" false = .ok (findInstance s .browsing).isSome :=
      browsing_enabled hs.browsing
    rw [renderInteractionSpec,inferNode_project hs hstore ht,ok_bind,hbrowsing]
    exact ⟨_,rfl⟩
  · exact ⟨[],rfl⟩

lemma sharedDiskNodeName_project : sharedDiskNodeName (storedSections s) t =
    .ok (if inferOn s then reloadedInfer s 0 else defaultNodeName s) := by
  rw [sharedDiskNodeName,inferEnabled_project ht,ok_bind,inferNode_project hs hstore ht,defaultNodeName_project hs ht]
  split <;> rfl

end Services

def storedSharedGb (s : DesiredState) : Int32 := ((findSharedDisk s).map (·.sizeGb)).getD 40

lemma sharedDiskGb_project (s : DesiredState) :
    (storedSections s).resources.value "shared_disk_gb" 40 = .ok (storedSharedGb s) := by
  simp [storedSections,projectResources,storedSharedGb]

lemma foldl_least_isSome {κ : Type} (before : α → α → Bool) (l : List (κ × α)) (best : Option α) :
    (l.foldl (fun best e => if best.all fun b => before e.2 b then some e.2 else best) best).isSome =
      (best.isSome || !l.isEmpty) := by
  induction l generalizing best with
  | nil => simp
  | cons a l ih =>
    rw [foldl_cons,ih]
    cases best with
    | none => simp
    | some b =>
      split <;> simp

lemma accumulate_eq_nil {κ β : Type} [LinearOrder κ] [BEq κ] [LawfulBEq κ] {key : β → κ} {add : α → β → α} {init : α}
    {xs : List β} : Assoc.accumulate key add init xs = [] ↔ xs = [] := by
  constructor
  · intro h
    by_contra hne
    obtain ⟨x,rest,rfl⟩ := exists_cons_of_ne_nil hne
    have := Assoc.lookup_accumulate key add init (x::rest) (key x)
    simp [h] at this
  · rintro rfl
    rfl

lemma selectVoiceGpuHost_isSome (instances : List InstanceSpec) :
    (selectVoiceGpuHost instances).isSome = instances.any hasGpu := by
  have hempty : (Assoc.accumulate (fun i : InstanceSpec => toLex (i.nodeName,i.gpuDevice.getD "")) VoiceGpuHost.add {}
      (instances.filter hasGpu)).isEmpty = (instances.filter hasGpu).isEmpty := by
    rw [Bool.eq_iff_iff,List.isEmpty_iff,List.isEmpty_iff,accumulate_eq_nil]
  rw [selectVoiceGpuHost,foldl_least_isSome,hempty,Option.isSome_none,Bool.false_or,Bool.eq_iff_iff]
  simp

structure VoiceBlock (s : DesiredState) (i : Option InstanceSpec) (defaultCommand modelEnv : String)
    (j : Json) : Prop where
  object : j.isObject = true
  start : j.get? "start" = i.bind (projectServiceStart · defaultCommand)
  env : j.get? "env" = (i.bind fun i => elide [] (Assoc.erase (projectCustomEnv i) modelEnv)).map toJson
  publish : j.get? "publish" = i.bind projectPublishedPorts
  storage : j.get? "storage" = projectServiceStorage (i.bind fun i => findDiskByName s i.privateDiskName)

lemma voiceListener_block (s : DesiredState) (v : VoiceListenerFeatureSpec) :
    VoiceBlock s (findInstance s .voiceModule) "/runtime/bin/naim-voice-moduled" "WHISPER_MODEL_PATH"
      (projectVoiceListener s v) := by
  cases hi : findInstance s .voiceModule <;> refine ⟨?_,?_,?_,?_,?_⟩ <;>
    simp [projectVoiceListener,hi,voiceInstanceFields,projectServiceStorage]

lemma voiceMaker_block (s : DesiredState) (v : VoiceMakerFeatureSpec) :
    VoiceBlock s (findInstance s .voiceMaker) "python3 /runtime/voice-maker/server.py" "OMNIVOICE_MODEL_PATH"
      (projectVoiceMaker s v) := by
  cases hi : findInstance s .voiceMaker <;> refine ⟨?_,?_,?_,?_,?_⟩ <;>
    simp [projectVoiceMaker,hi,voiceInstanceFields,projectServiceStorage]

/-- A voice service as the stored document describes it. -/
structure StoredVoice (s : DesiredState) (v : VoiceService) : Prop where
  block : ∃ modelEnv, VoiceBlock s (findInstance s v.role) v.command modelEnv v.block
  resources : v.resources =
    ((voiceGpuInstance s v.role).map (projectVoiceResources v.gpuFraction v.priority)).getD (.obj [])

lemma voiceModule_stored {config : VoiceListenerFeatureSpec} (h : s.voiceListener.any (·.enabled) = true) :
    StoredVoice s (voiceModule (storedSections s) t config) := by
  obtain ⟨v,hv,-⟩ := (Option.any_eq_true _ _).1 h
  have hblock : (storedSections s).features.objectAt "voice_listener" = projectVoiceListener s v := by
    simp [features_project,objectAt,object?,hv,(voiceListener_block s v).object]
  exact ⟨⟨_,hblock ▸ voiceListener_block s v⟩,rfl⟩

lemma voiceMaker_stored {config : VoiceMakerFeatureSpec} (h : s.voiceMaker.any (·.enabled) = true) :
    StoredVoice s (voiceMaker (storedSections s) t config) := by
  obtain ⟨v,hv,-⟩ := (Option.any_eq_true _ _).1 h
  have hblock : (storedSections s).features.objectAt "voice_maker" = projectVoiceMaker s v := by
    simp [features_project,objectAt,object?,hv,(voiceMaker_block s v).object]
  exact ⟨⟨_,hblock ▸ voiceMaker_block s v⟩,rfl⟩

section VoiceBlock

variable {i : Option InstanceSpec} {modelEnv : String}

lemma VoiceBlock.readable (h : VoiceBlock s i defaultCommand modelEnv j) :
    (∃ command, serviceCommand j defaultCommand = .ok command) ∧ (∃ env : StringMap, j.mapAs "env" = .ok env) ∧
      ∃ ports, renderPublishedPorts j = .ok ports := by
  have henv : ∃ env : StringMap, j.mapAs "env" = .ok env := by
    rw [mapAs,h.env,mapOf_map]
    exact ⟨_,rfl⟩
  cases i with
  | none =>
    rw [serviceCommand,value_eq h.object,h.start,renderPublishedPorts,arrayAt,h.publish]
    exact ⟨⟨_,rfl⟩,henv,[],rfl⟩
  | some i => exact ⟨serviceCommand_project h.object h.start,henv,_,renderPublishedPorts_project h.publish⟩

lemma VoiceBlock.disk (h : VoiceBlock s i defaultCommand modelEnv j) (size : Int32) :
    extractPrivateDiskSizeGb j size "storage" =
      .ok (storedDisk (i.bind fun i => findDiskByName s i.privateDiskName) size).1 ∧
    extractPrivateMountPath j "/naim/private" "storage" =
      .ok (storedDisk (i.bind fun i => findDiskByName s i.privateDiskName) size).2 :=
  extractPrivateDisk_project h.storage (.inl (Eq.refl "storage")) size

end VoiceBlock

lemma voiceGpuEnabled_project (o : Option InstanceSpec) (fraction : ℚ) (priority : Int32) :
    voiceGpuEnabled ((o.map (projectVoiceResources fraction priority)).getD (.obj [])) = .ok o.isSome := by
  cases o with
  | none => rfl
  | some i =>
    have hget : (projectVoiceResources fraction priority i).get? "gpu_enabled" = some (toJson true) := by
      unfold projectVoiceResources
      split <;> simp
    have hempty : (projectVoiceResources fraction priority i).isEmpty = false := by
      rw [Bool.eq_false_iff]
      intro h
      simp [eq_obj_nil_of_isEmpty (isObject_projectVoiceResources _ _ _) h] at hget
    simp [voiceGpuEnabled,hempty,Json.contains,hget,value_eq (isObject_projectVoiceResources _ _ _)]

lemma withVoiceGpu_project (o : Option InstanceSpec) (fraction : ℚ) (priority : Int32) (host : Option VoiceGpuHost)
    (spec : InstanceSpec) (d : ℚ) (e : Int32) :
    ∃ i, withVoiceGpu ((o.map (projectVoiceResources fraction priority)).getD (.obj [])) d e host spec = .ok i := by
  cases host with
  | none => exact ⟨spec,rfl⟩
  | some host =>
    cases o with
    | none => exact ⟨_,rfl⟩
    | some i =>
      have hshared : parseGpuShareMode "shared" = .ok .shared := rfl
      have habsent : (presentOf none : Checked (Option Int32)) = .ok none := rfl
      simp only [Option.map_some,Option.getD_some,projectVoiceResources]
      split <;> simp [withVoiceGpu,present,habsent,hshared]

lemma voiceGpuHost_project {o : Option InstanceSpec} {instances : List InstanceSpec}
    (hhost : o.isSome = true → instances.any hasGpu = true) (fraction : ℚ) (priority : Int32) (fieldName : String) :
    ∃ host, voiceGpuHost ((o.map (projectVoiceResources fraction priority)).getD (.obj [])) instances fieldName =
      .ok host := by
  refine ⟨_,voiceGpuHost_eq_ok.2 ⟨_,voiceGpuEnabled_project _ _ _,rfl,?_⟩⟩
  split
  next hgpu => rw [selectVoiceGpuHost_isSome,hgpu,hhost hgpu]
  next hgpu => simpa using hgpu

def voiceHome (s : DesiredState) (host : Option VoiceGpuHost) : String := host.elim (reloadedApp s) (·.nodeName)

section Voices

include hs hstore ht

lemma voiceNodeName_project (host : Option VoiceGpuHost) :
    voiceNodeName (storedSections s) t host = .ok (voiceHome s host) := by
  cases host with
  | none => exact appNode_project hs hstore ht
  | some host => rfl

lemma renderVoice_project {v : VoiceService} {instances : List InstanceSpec} (hv : StoredVoice s v)
    (hhost : (voiceGpuInstance s v.role).isSome = true → instances.any hasGpu = true) :
    ∃ e, renderVoice (storedSections s) t instances v = .ok e := by
  obtain ⟨modelEnv,hread⟩ := hv.block
  obtain ⟨⟨command,hcommand⟩,⟨env,henv⟩,ports,hports⟩ := hread.readable
  obtain ⟨hsize,hpath⟩ := hread.disk v.sizeGb
  obtain ⟨host,hgpu⟩ := voiceGpuHost_project hhost v.gpuFraction v.priority v.fieldName
  have hnode := voiceNodeName_project hs hstore ht host
  choose base hbase using fun spec =>
    withVoiceGpu_project (voiceGpuInstance s v.role) v.gpuFraction v.priority host spec v.gpuFraction v.priority
  simp only [renderVoice,hv.resources,bind_eq_ok,pure_eq_ok]
  exact ⟨_,_,hgpu,_,hnode,_,hcommand,_,hsize,_,hbase _,_,henv,_,hports,_,hpath,rfl⟩

lemma renderVoiceModuleInstance_project (instances : List InstanceSpec)
    (hhost : s.voiceListener.any (·.enabled) = true → (voiceGpuInstance s .voiceModule).isSome = true →
      instances.any hasGpu = true) :
    ∃ modules, renderVoiceModuleInstance (storedSections s) t instances = .ok modules := by
  refine optional_succeeds fun config hon => ?_
  rw [ht.voiceListener] at hon
  exact renderVoice_project hs hstore ht (voiceModule_stored hon) (hhost hon)

lemma renderVoiceMakerInstance_project (instances : List InstanceSpec)
    (hhost : s.voiceMaker.any (·.enabled) = true → (voiceGpuInstance s .voiceMaker).isSome = true →
      instances.any hasGpu = true) :
    ∃ makers, renderVoiceMakerInstance (storedSections s) t instances = .ok makers := by
  refine optional_succeeds fun config hon => ?_
  rw [ht.voiceMaker] at hon
  exact renderVoice_project hs hstore ht (voiceMaker_stored hon) (hhost hon)

end Voices
end Naim.Storage
