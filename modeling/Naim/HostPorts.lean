import Naim.PlaneCollisions
import Naim.Planner

/-!
# The host ports of a plane

The services of a node publish ports from four sources: what the document asks
for, the gateway and API ports of the infer replicas, the rpc ports of the workers
and the ports that services have by default. The compose plan of a node publishes
no port twice exactly when the four sources keep clear of each other there.
-/

namespace Naim.HostPorts

open Checked Json List Planner Renderer Storage Text Validator Except Assoc

variable {dump : Json → String} {r : Sections} {s : DesiredState} {p : Parts} {i : InstanceSpec}

def distinct (ports : List PublishedPort) : List PublishedPort := ports.foldl appendUniquePublishedPort []

variable {ports init : List PublishedPort} {t : DesiredState} {e : InstanceSpec × DiskSpec}
variable {index : ℕ} {inferNames : List String} {w : RenderedWorker} {instances : List InstanceSpec}
  {apiPort gatewayPort hostPort containerPort base total : Int32} {block app resources infer : Json}
  {fieldName node nodeName : String}

lemma foldl_appendUnique (h : ∀ port ∈ ports, port ∉ init) :
    ports.foldl appendUniquePublishedPort init = init ++ distinct ports := by
  have hgeneral : ∀ (ports seen : List PublishedPort), (∀ port ∈ ports, port ∉ init) →
      ports.foldl appendUniquePublishedPort (init ++ seen) = init ++ ports.foldl appendUniquePublishedPort seen := by
    intro ports
    induction ports with
    | nil => exact fun _ _ => rfl
    | cons port ports ih =>
      intro seen h
      have hport : appendUniquePublishedPort (init ++ seen) port = init ++ appendUniquePublishedPort seen port := by
        unfold appendUniquePublishedPort
        by_cases hmem : port ∈ seen
        · rw [if_pos hmem,if_pos (mem_append_right _ hmem)]
        · rw [if_neg hmem,if_neg (by simp [hmem,h port (by simp)]),append_assoc]
      rw [foldl_cons,foldl_cons,hport]
      exact ih _ fun port' hport' => h port' (mem_cons_of_mem _ hport')
  simpa [distinct] using hgeneral ports [] h

lemma distinct_perm (ports : List PublishedPort) : (distinct ports).Perm ports.dedup := by
  refine (perm_ext_iff_of_nodup (Rows.nodup_foldl_addNew nodup_nil) (nodup_dedup _)).2 fun port => ?_
  rw [mem_dedup]
  exact Rows.mem_foldl_addNew.trans (or_iff_right not_mem_nil)

lemma foldlM_unmanaged (managed : PublishedPort → Bool) {step : List PublishedPort → PublishedPort →
    Checked (List PublishedPort)} (hstep : ∀ ports port, step ports port =
      .ok (if managed port then ports else appendUniquePublishedPort ports port)) (ports init : List PublishedPort) :
    ports.foldlM step init = .ok ((ports.filter fun port => !managed port).foldl appendUniquePublishedPort init) := by
  induction ports generalizing init with
  | nil => rfl
  | cons port ports ih =>
    rw [foldlM_cons,hstep,ok_bind,ih]
    cases hport : managed port <;> simp [hport]

def portOn (hostIp : String) (port : Int32) : PublishedPort := ⟨hostIp,port,port⟩

lemma servicePorts_service (hinfer : i.role ≠ .infer) (hworker : i.role ≠ .worker) :
    servicePorts s i = .ok (distinct i.publishedPorts) := by
  have hown : appendOwnPorts s i [] = .ok (distinct i.publishedPorts) := by
    rw [appendOwnPorts,foldlM_unmanaged fun _ => false]
    · simp [distinct]
    · intro ports port
      simp [isManagedInferPublishedPort,isManagedLlamaRpcWorkerPublishedPort,hinfer,hworker]
  simp [servicePorts,workerPorts,appendInferPorts,hinfer,hworker,hown]

def managedBy (managed : List Int32) (port : PublishedPort) : Bool :=
  port.hostPort = port.containerPort && decide (port.hostPort ∈ managed)

lemma servicePorts_worker (hrole : i.role = .worker) :
    servicePorts s i = .ok (if usesLlamaRpcRuntime s then
      let rpcPort := stableLlamaRpcWorkerPort s.planeName i.name
      portOn "0.0.0.0" rpcPort::distinct (i.publishedPorts.filter fun port => !managedBy [rpcPort,50052] port)
      else distinct i.publishedPorts) := by
  by_cases hrpc : usesLlamaRpcRuntime s = true
  · have hmanaged : ∀ port, isManagedLlamaRpcWorkerPublishedPort s i (findWorkerGroupMember s i.name) port =
        managedBy [stableLlamaRpcWorkerPort s.planeName i.name,50052] port := by
      intro port
      by_cases heq : port.hostPort = port.containerPort <;>
        simp [isManagedLlamaRpcWorkerPublishedPort,managedLlamaRpcWorkerPort,managedBy,hrpc,hrole,heq]
    rw [servicePorts,appendOwnPorts,if_pos hrole,
      foldlM_unmanaged (managedBy [stableLlamaRpcWorkerPort s.planeName i.name,50052]),ok_bind,foldl_appendUnique]
    · simp [appendInferPorts,hrole,workerPorts,hrpc,managedLlamaRpcWorkerPort,portOn]
    · intro port hport
      have hkept := (mem_filter.1 hport).2
      simp only [workerPorts,hrpc,hrole,managedLlamaRpcWorkerPort,decide_true,Bool.and_true,if_true,mem_singleton]
      rintro rfl
      simp [managedBy] at hkept
    · intro ports port
      simp [isManagedInferPublishedPort,hrole,hmanaged]
  · rw [servicePorts,appendOwnPorts,if_pos hrole,foldlM_unmanaged fun _ => false]
    · simp [appendInferPorts,hrole,workerPorts,hrpc,distinct]
    · intro ports port
      simp [isManagedInferPublishedPort,isManagedLlamaRpcWorkerPublishedPort,hrole,hrpc]

lemma servicePorts_infer (hrole : i.role = .infer) (hapi : inferApiPort s i = .ok apiPort)
    (hgateway : inferGatewayPort s i = .ok gatewayPort) :
    servicePorts s i = .ok (distinct (i.publishedPorts.filter fun port =>
        !managedBy [apiPort,gatewayPort,s.inference.apiPort,s.gateway.listenPort] port) ++
      portOn "127.0.0.1" apiPort::if gatewayPort = apiPort then [] else [portOn "127.0.0.1" gatewayPort]) := by
  have hown : appendOwnPorts s i [] = .ok (distinct (i.publishedPorts.filter fun port =>
      !managedBy [apiPort,gatewayPort,s.inference.apiPort,s.gateway.listenPort] port)) := by
    rw [appendOwnPorts,foldlM_unmanaged (managedBy [apiPort,gatewayPort,s.inference.apiPort,s.gateway.listenPort])]
    · rfl
    · intro ports port
      by_cases heq : port.hostPort = port.containerPort <;> simp [isManagedInferPublishedPort,
        isManagedLlamaRpcWorkerPublishedPort,managedBy,hrole,hapi,hgateway,heq,or_assoc]
  have hfresh : ∀ port ∈ [apiPort,gatewayPort], portOn "127.0.0.1" port ∉ distinct (i.publishedPorts.filter fun port =>
      !managedBy [apiPort,gatewayPort,s.inference.apiPort,s.gateway.listenPort] port) := by
    intro port hport hmem
    have hkept := (mem_filter.1 (mem_dedup.1 ((distinct_perm _).mem_iff.1 hmem))).2
    rcases mem_pair.1 hport with rfl | rfl <;> simp [portOn,managedBy] at hkept
  rw [servicePorts,show workerPorts s i = [] by simp [workerPorts,hrole],hown,ok_bind,appendInferPorts,
    if_pos hrole,hapi,hgateway,ok_bind,ok_bind]
  generalize distinct _ = own at hfresh
  have h₁ := hfresh apiPort (by simp)
  have h₂ := hfresh gatewayPort (by simp)
  simp only [portOn] at h₁ h₂ ⊢
  by_cases heq : gatewayPort = apiPort <;> simp [appendUniquePublishedPort,h₁,h₂,heq]

inductive Slot where
  | infer (index : ℕ)
  | worker (index : ℕ)
  | app (entry : Json × ℕ)
  | skills
  | browsing
  | interaction
  | voiceModule
  | voiceMaker

section

variable (r : Sections) (s : DesiredState)

def slotsOf : Checked (List Slot) := do
  let infers ← infersOf r.doc
  let workers ← workersOf r.doc
  let skills ← r.skills.value "enabled" false
  let browsing ← r.browsing.value "enabled" false
  pure ((List.range infers).map .infer ++ (List.range workers.toInt.toNat).map .worker ++
    (enabledApps r.doc).map .app ++ (if skills then [.skills] else []) ++ (if browsing then [.browsing] else []) ++
    (if s.planeMode = .llm then [.interaction] else []) ++
    (if s.voiceListener.any (·.enabled) then [.voiceModule] else []) ++
    (if s.voiceMaker.any (·.enabled) then [.voiceMaker] else []))

def workerShare (total index : ℕ) : Checked InstanceSpec := do
  let nodeName ← resolveWorkerNodeName r s index
  let gpuFraction ← r.workerResources.value "gpu_fraction" 1
  let memoryCapMb ← r.workerResources.present "memory_cap_mb"
  pure {
    name := buildWorkerName s.planeName index total, role := .worker, planeName := s.planeName, nodeName
    gpuDevice := resolveWorkerGpuDevice r index
    gpuFraction, memoryCapMb}

def voiceNode (resources : Json) (fieldName : String) : Checked String := do
  let total ← workersOf r.doc
  let workers ← (List.range total.toInt.toNat).mapM (workerShare r s total.toInt.toNat)
  let host ← voiceGpuHost resources workers fieldName
  voiceNodeName r s host

def nodeOf : Slot → Checked String
  | .infer index => resolveInferNodeName r s index
  | .worker index => resolveWorkerNodeName r s index
  | .app entry => getOr (resolveLegacyServiceNodeName r s entry.1 "app") (resolveAppNodeName r s)
  | .skills => getOr (resolveLegacyServiceNodeName r s r.skills "skills") (resolveAppNodeName r s)
  | .browsing => getOr (resolveLegacyServiceNodeName r s r.browsing "webgateway") (resolveAppNodeName r s)
  | .interaction => resolveInferNodeName r s 0
  | .voiceModule => voiceNode r s r.voiceModuleResources "voice_module"
  | .voiceMaker => voiceNode r s r.voiceMakerResources "voice_maker"

/-- The host ports of a service, by where they come from. -/
structure Claim where
  (requested replica rpc standard : List Int32 := [])
  deriving DecidableEq

def Claim.all (c : Claim) : List Int32 := c.requested ++ c.replica ++ c.rpc ++ c.standard

def requestedPorts (ports : List PublishedPort) (managed : List Int32) : List Int32 :=
  (ports.filter fun port => !(port.hostPort = port.containerPort && decide (port.hostPort ∈ managed))).dedup.map
    (·.hostPort)

def serviceClaim (block : Json) (hostPort : Int32) : Checked Claim := do
  let ports ← renderPublishedPorts block
  pure (if ports = [] then {standard := [hostPort]} else {requested := requestedPorts ports []})

/-- A port that counts up with the replicas unless the document sets the variable. -/
def variablePort (infer : Json) (key : String) (base : Int32) (index : ℕ) : Checked Int32 := do
  let custom ← infer.mapAs "env"
  match (assignAll [] custom).lookup key with
  | none => pure (base + Int32.ofNat index)
  | some text => if text = "" then pure base else stoi text

def claimOf : Slot → Checked Claim
  | .infer index => do
    let apiPort ← variablePort r.infer "NAIM_INFERENCE_PORT" s.inference.apiPort index
    let gatewayPort ← variablePort r.infer "NAIM_GATEWAY_PORT" s.gateway.listenPort index
    let ports ← renderPublishedPorts r.infer
    pure {
      requested := requestedPorts ports [apiPort,gatewayPort,s.inference.apiPort,s.gateway.listenPort]
      replica := apiPort::if gatewayPort = apiPort then [] else [gatewayPort]}
  | .worker index => do
    let total ← workersOf r.doc
    let ports ← renderPublishedPorts r.worker
    let rpcPort := stableLlamaRpcWorkerPort s.planeName (buildWorkerName s.planeName index total.toInt.toNat)
    pure (if usesLlamaRpc s then {requested := requestedPorts ports [rpcPort,50052], rpc := [rpcPort]}
      else {requested := requestedPorts ports []})
  | .app entry => do
    let ports ← renderPublishedPorts entry.1
    pure {requested := requestedPorts ports []}
  | .skills => serviceClaim r.skills (serviceHostPort s.planeName (skillsInstanceName s.planeName) 24000)
  | .browsing => serviceClaim r.browsing (serviceHostPort s.planeName (webGatewayInstanceName s.planeName) 34000)
  | .interaction => pure {standard := [serviceHostPort s.planeName (interactionInstanceName s.planeName) 44000]}
  | .voiceModule => serviceClaim (r.features.objectAt "voice_listener")
      (serviceHostPort s.planeName (voiceModuleInstanceName s.planeName) 54000)
  | .voiceMaker => serviceClaim (r.features.objectAt "voice_maker")
      (serviceHostPort s.planeName (voiceMakerInstanceName s.planeName) 55000)

def claimsOn (nodeName : String) : Checked (List Claim) := do
  let slots ← slotsOf r s
  let placed ← slots.mapM fun slot => (slot,·) <$> nodeOf r s slot
  (placed.filter (·.2 = nodeName)).mapM fun e => claimOf r s e.1

/-- Claims of which no two name the same port, source by source. -/
structure ClaimsApart (claims : List Claim) : Prop where
  requested : (claims.flatMap (·.requested)).Nodup
  replicas : (claims.flatMap (·.replica)).Nodup
  workers : (claims.flatMap (·.rpc)).Nodup
  services : (claims.flatMap (·.standard)).Nodup
  requestedClear : ∀ port ∈ claims.flatMap (·.requested), port ∉ claims.flatMap (·.replica) ∧
    port ∉ claims.flatMap (·.rpc) ∧ port ∉ claims.flatMap (·.standard)
  replicasClear : ∀ port ∈ claims.flatMap (·.replica), port ∉ claims.flatMap (·.rpc) ∧
    port ∉ claims.flatMap (·.standard)
  workersClear : ∀ port ∈ claims.flatMap (·.rpc), port ∉ claims.flatMap (·.standard)

lemma claimsApart_iff : (claims.flatMap Claim.all).Nodup ↔ ClaimsApart claims := by
  have hperm : (claims.flatMap Claim.all).Perm (claims.flatMap (·.requested) ++ (claims.flatMap (·.replica) ++
      (claims.flatMap (·.rpc) ++ claims.flatMap (·.standard)))) := by
    refine Perm.symm ?_
    refine (Perm.append_left _ ((Perm.append_left _ (flatMap_append_perm _ _ _)).trans
      (flatMap_append_perm _ _ _))).trans ((flatMap_append_perm _ _ _).trans ?_)
    exact .of_eq (flatMap_congr fun c _ => by simp only [Claim.all,append_assoc])
  rw [hperm.nodup_iff,nodup_append',nodup_append',nodup_append']
  simp only [disjoint_left,mem_append,not_or]
  exact ⟨fun ⟨h₁,⟨h₂,⟨h₃,h₄,h₅⟩,h₆⟩,h₇⟩ => ⟨h₁,h₂,h₃,h₄,h₇,h₆,h₅⟩,
    fun h => ⟨h.requested,⟨h.replicas,⟨h.workers,h.services,h.workersClear⟩,h.replicasClear⟩,h.requestedClear⟩⟩

structure At (r : Sections) (s t : DesiredState) (slot : Slot) (i : InstanceSpec) : Prop where
  node : nodeOf r s slot = .ok i.nodeName
  ports : ∀ ports, servicePorts t i = .ok ports →
    ∃ claim, claimOf r s slot = .ok claim ∧ (ports.map (·.hostPort)).Perm claim.all

end

lemma perm_requested : ((distinct ports).map (·.hostPort)).Perm (requestedPorts ports []) := by
  simpa [requestedPorts] using (distinct_perm ports).map _

lemma service_claim (hinfer : i.role ≠ .infer) (hworker : i.role ≠ .worker)
    (hports : renderPublishedPorts block = .ok ports) (hi : i.publishedPorts = portsOr ports hostPort containerPort)
    (published : List PublishedPort) (hpublished : servicePorts t i = .ok published) :
    ∃ claim, serviceClaim block hostPort = .ok claim ∧
      (published.map (·.hostPort)).Perm claim.all := by
  rw [servicePorts_service hinfer hworker,ok.injEq] at hpublished
  simp only [serviceClaim,hports,ok_bind]
  rw [← hpublished,hi,portsOr]
  split
  · simp [distinct,appendUniquePublishedPort,Claim.all]
  · simpa [Claim.all] using perm_requested

lemma skillsAt (h : renderSkills r s = .ok e) : At r s t .skills e.1 := by
  have hat := renderSkills_spec h
  refine ⟨hat.node,fun published hpublished => ?_⟩
  simp only [renderSkills,bind_eq_ok,pure_eq_ok] at h
  obtain ⟨node,-,image,-,command,-,size,-,custom,-,ports,hports,path,-,rfl⟩ := h
  exact service_claim (by simp) (by simp) hports (by simp; rfl) published hpublished

lemma gatewayAt (h : renderWebGateway dump r s = .ok e) : At r s t .browsing e.1 := by
  have hat := renderWebGateway_spec h
  refine ⟨hat.node,fun published hpublished => ?_⟩
  simp only [renderWebGateway,bind_eq_ok,pure_eq_ok] at h
  obtain ⟨node,-,image,-,command,-,size,-,custom,-,ports,hports,path,-,rfl⟩ := h
  exact service_claim (by simp) (by simp) hports rfl published hpublished

lemma interactionAt (h : renderInteractionSpec r s = .ok e) : At r s t .interaction e.1 := by
  have hat := renderInteractionSpec_spec h
  refine ⟨hat.node,fun published hpublished => ⟨_,rfl,?_⟩⟩
  rw [servicePorts_service (by simp [hat.withDisk.role]) (by simp [hat.withDisk.role]),ok.injEq] at hpublished
  simp only [renderInteractionSpec,bind_eq_ok,pure_eq_ok] at h
  obtain ⟨node,-,browsing,-,rfl⟩ := h
  simp [← hpublished,distinct,appendUniquePublishedPort,Claim.all]

lemma appAt (h : renderEnabledApp r s inferNames index app = .ok e) : At r s t (.app (app,index)) e.1 := by
  have hat := renderEnabledApp_spec h
  refine ⟨hat.node,fun published hpublished => ?_⟩
  have hrole := hat.withDisk.role
  rw [servicePorts_service (by simp [hrole]) (by simp [hrole]),ok.injEq] at hpublished
  simp only [renderEnabledApp,bind_eq_ok,pure_eq_ok] at h
  obtain ⟨marked,-,appName,-,node,-,image,-,command,-,custom,-,mounts,-,ports,hports,size,-,path,-,_,-,rfl⟩ := h
  simp only [claimOf,hports,ok_bind]
  rw [← hpublished]
  split <;> simpa [Claim.all] using perm_requested

lemma workerAt (hplane : t.planeName = s.planeName) (hrpc : usesLlamaRpcRuntime t = usesLlamaRpc s)
    (htotal : workersOf r.doc = .ok total) (h : renderWorkerEntry r s inferNames total.toInt.toNat index = .ok w) :
    At r s t (.worker index) w.spec := by
  have hat := renderWorkerEntry_spec h
  refine ⟨hat.node,fun published hpublished => ?_⟩
  rw [servicePorts_worker hat.role,hplane,hat.name,hrpc,ok.injEq] at hpublished
  simp only [renderWorkerEntry,bind_eq_ok,pure_eq_ok] at h
  obtain ⟨i,hi,member,-,mountPath,-,rfl⟩ := h
  simp only [renderWorker,bind_eq_ok,pure_eq_ok] at hi
  obtain ⟨_,-,_,-,_,-,_,-,_,-,_,-,_,-,_,-,_,-,_,-,_,-,_,-,ports,hports,rfl⟩ := hi
  simp only [claimOf,htotal,hports,ok_bind]
  refine ⟨_,rfl,?_⟩
  rw [← hpublished]
  split
  · simp only [map_cons,portOn,Claim.all,append_nil]
    refine (perm_append_singleton _ _).symm.trans (Perm.append_right _ ?_)
    exact (distinct_perm _).map _
  · simpa [Claim.all] using perm_requested

lemma workerShare_of_rendered {total : ℕ} (h : renderWorkerEntry r s inferNames total index = .ok w) :
    ∃ i, workerShare r s total index = .ok i ∧ loadOf i = loadOf w.spec := by
  have hat := renderWorkerEntry_spec h
  simp only [workerShare,hat.node,hat.gpuFraction,hat.memoryCapMb,ok_bind]
  exact ⟨_,rfl,by simp [loadOf,hat.name,hat.role,hat.gpuDevice]⟩

lemma voiceNode_of_rendered (h : Renders dump r p)
    (hinstances : selectVoiceGpuHost instances = selectVoiceGpuHost (p.workers.map (·.spec)))
    (hhost : voiceGpuHost resources instances fieldName = .ok host)
    (hnode : voiceNodeName r p.settings host = .ok node) :
    voiceNode r p.settings resources fieldName = .ok node := by
  have hworkers := h.workers
  simp only [renderWorkerInstances,bind_eq_ok] at hworkers
  obtain ⟨total,htotal,hmap⟩ := hworkers
  rw [workerCount_eq,map_eq_ok] at htotal
  obtain ⟨n,hn,rfl⟩ := htotal
  obtain ⟨shares,hshares,hloads⟩ : ∃ shares,
      Forall₂ (fun index i => workerShare r p.settings n.toInt.toNat index = .ok i) (List.range n.toInt.toNat) shares ∧
      shares.map loadOf = (p.workers.map (·.spec)).map loadOf := by
    have hall := mapM_eq_ok.1 hmap
    generalize List.range n.toInt.toNat = indices at hall
    generalize p.workers = workers at hall
    induction hall with
    | nil => exact ⟨[],.nil,rfl⟩
    | cons hw _ ih =>
      obtain ⟨shares,hshares,hloads⟩ := ih
      obtain ⟨i,hi,hload⟩ := workerShare_of_rendered hw
      exact ⟨i::shares,.cons hi hshares,by simp only [map_cons,hload,hloads]⟩
  rw [voiceGpuHost,hinstances,← selectVoiceGpuHost_loadOf,← hloads,selectVoiceGpuHost_loadOf] at hhost
  simp only [voiceNode,hn,ok_bind,mapM_eq_ok.2 hshares]
  rw [voiceGpuHost,hhost,ok_bind,hnode]

lemma voiceAt {v : VoiceService} {slot : Slot} (h : Renders dump r p)
    (hrender : renderVoice r p.settings instances v = .ok e)
    (hrole : v.role ≠ .infer ∧ v.role ≠ .worker)
    (hinstances : selectVoiceGpuHost instances = selectVoiceGpuHost (p.workers.map (·.spec)))
    (hslot : nodeOf r p.settings slot = voiceNode r p.settings v.resources v.fieldName)
    (hclaim : claimOf r p.settings slot =
      serviceClaim v.block (serviceHostPort p.settings.planeName v.name v.portBase)) : At r p.settings t slot e.1 := by
  rw [← (renderVoice_spec hrender).withDisk.role] at hrole
  simp only [renderVoice,bind_eq_ok,pure_eq_ok] at hrender
  obtain ⟨host,hhost,node,hnode,command,-,size,-,base,hbase,custom,-,ports,hports,path,-,rfl⟩ := hrender
  obtain ⟨hsame,-,-⟩ := withVoiceGpu_spec rfl hbase
  refine ⟨?_,hclaim ▸ service_claim hrole.1 hrole.2 hports rfl⟩
  rw [hslot,voiceNode_of_rendered h hinstances hhost hnode]
  exact congrArg _ hsame.nodeName.symm

lemma moduleAt (h : Renders dump r p) (he : e ∈ p.modules) : At r p.settings t .voiceModule e.1 := by
  obtain ⟨-,config,hrender⟩ := h.moduleAt he
  exact voiceAt h hrender ⟨nofun,nofun⟩ (selectVoiceGpuHost_hosts h).1 rfl rfl

lemma makerAt (h : Renders dump r p) (he : e ∈ p.makers) : At r p.settings t .voiceMaker e.1 := by
  obtain ⟨-,config,hrender⟩ := h.makerAt he
  exact voiceAt h hrender ⟨nofun,nofun⟩ (selectVoiceGpuHost_hosts h).2 rfl rfl

lemma lookup_assignAll_or (m custom : StringMap) (key : String) :
    (assignAll m custom).lookup key = ((assignAll [] custom).lookup key).or (m.lookup key) := by
  induction custom generalizing m with
  | nil => simp [assignAll]
  | cons e custom ih =>
    have hcons : ∀ m, assignAll m (e::custom) = assignAll (Assoc.set m e.1 e.2) custom := fun _ => rfl
    rw [hcons,hcons,ih (Assoc.set m e.1 e.2),ih (Assoc.set [] e.1 e.2),lookup_set,lookup_set]
    by_cases hkey : key = e.1 <;> simp [hkey]

structure InferPorts (r : Sections) (s : DesiredState) (index : ℕ) (i : InstanceSpec) : Prop where
  ports : renderPublishedPorts r.infer = .ok i.publishedPorts
  env : ∃ custom, r.infer.mapAs "env" = .ok custom ∧
    i.environment.lookup "NAIM_INFERENCE_PORT" = ((assignAll [] custom).lookup "NAIM_INFERENCE_PORT").or
      (some (toString (s.inference.apiPort + Int32.ofNat index))) ∧
    i.environment.lookup "NAIM_GATEWAY_PORT" = ((assignAll [] custom).lookup "NAIM_GATEWAY_PORT").or
      (some (toString (s.gateway.listenPort + Int32.ofNat index)))

lemma renderInfer_ports {count : ℕ} (h : renderInfer r s count index = .ok i) : InferPorts r s index i := by
  simp only [renderInfer,bind_eq_ok,pure_eq_ok] at h
  obtain ⟨node,-,image,-,command,-,size,-,custom,hcustom,ports,hports,rfl⟩ := h
  refine ⟨hports,custom,hcustom,?_,?_⟩ <;> dsimp only <;> rw [lookup_assignAll_or] <;>
    simp [instanceNeedsPrivateDisk,inferEnvironment,lookup_ofList,lookup_cons_eq]

lemma intEnvValue_eq {key : String} (hcustom : infer.mapAs "env" = .ok custom)
    (hlookup : environment.lookup key = ((assignAll [] custom).lookup key).or
      (some (toString (base + Int32.ofNat index)))) :
    (·.getD base) <$> intEnvValue environment key = variablePort infer key base index := by
  simp only [intEnvValue,variablePort,hcustom,ok_bind,hlookup]
  cases (assignAll [] custom).lookup key with
  | none =>
    have hread := stoi_toString (base + Int32.ofNat index)
    have hne : toString (base + Int32.ofNat index) ≠ "" := by
      intro hempty
      rw [hempty] at hread
      simp [stoi,signedDigits] at hread
    simp [hne,hread]
    rfl
  | some text =>
    by_cases htext : text = ""
    · simp [htext]
      rfl
    · simp only [Option.some_or,if_neg htext]
      cases stoi text <;> rfl

lemma inferAt (hapi : t.inference.apiPort = s.inference.apiPort)
    (hgateway : t.gateway.listenPort = s.gateway.listenPort) (hat : InferAt r s index i)
    (h : InferPorts r s index i) : At r s t (.infer index) i := by
  refine ⟨hat.node,fun published hpublished => ?_⟩
  obtain ⟨custom,hcustom,hinference,hlisten⟩ := h.env
  have hapi' : inferApiPort t i = variablePort r.infer "NAIM_INFERENCE_PORT" s.inference.apiPort index := by
    rw [inferApiPort,hapi]
    exact intEnvValue_eq hcustom hinference
  have hgateway' : inferGatewayPort t i = variablePort r.infer "NAIM_GATEWAY_PORT" s.gateway.listenPort index := by
    rw [inferGatewayPort,hgateway]
    exact intEnvValue_eq hcustom hlisten
  obtain ⟨apiPort,gatewayPort,hreads⟩ : ∃ apiPort gatewayPort, inferApiPort t i = .ok apiPort ∧
      inferGatewayPort t i = .ok gatewayPort := by
    simp only [servicePorts,appendInferPorts,if_pos hat.role,bind_eq_ok] at hpublished
    obtain ⟨_,-,apiPort,hreadApi,gatewayPort,hreadGateway,-⟩ := hpublished
    exact ⟨apiPort,gatewayPort,hreadApi,hreadGateway⟩
  rw [servicePorts_infer hat.role hreads.1 hreads.2,ok.injEq,hapi,hgateway] at hpublished
  rw [hapi'] at hreads
  rw [hgateway'] at hreads
  simp only [claimOf,hreads.1,hreads.2,h.ports,ok_bind]
  refine ⟨_,rfl,?_⟩
  rw [← hpublished,map_append]
  simp only [Claim.all,append_nil]
  refine Perm.append ((distinct_perm _).map _) ?_
  split <;> exact .of_eq rfl

lemma infers_at (h : Renders dump r p) :
    Forall₂ (At r p.settings p.state) ((List.range p.infers.length).map .infer) p.infers := by
  rw [forall₂_map_left_iff]
  have hspec := renderInferInstance_forall₂
    (R := fun index i => InferAt r p.settings index i ∧ InferPorts r p.settings index i) h.infers
    (fun h => ⟨renderInfer_spec h,renderInfer_ports h⟩) (by
      rintro index i upstreams ⟨hat,hports,custom,hcustom,hapi,hgateway⟩
      refine ⟨⟨hat.name,hat.role,hat.node,hat.gpuDevice,hat.privateDiskName⟩,hports,custom,hcustom,?_,?_⟩ <;>
        dsimp only <;> rwa [lookup_set,if_neg (by decide)])
  rcases hspec with ⟨-,hnil⟩ | ⟨-,count,-,hall⟩
  · rw [hnil]
    exact .nil
  · rw [← hall.length_eq,length_range]
    exact hall.imp fun _ _ h => inferAt (s := p.settings) (t := p.state) rfl rfl h.1 h.2

lemma workers_at (h : Renders dump r p) : ∃ total, workersOf r.doc = .ok total ∧
    Forall₂ (At r p.settings p.state) ((List.range total.toInt.toNat).map .worker) (p.workers.map (·.spec)) := by
  have hworkers := h.workers
  simp only [renderWorkerInstances,bind_eq_ok] at hworkers
  obtain ⟨total,htotal,hmap⟩ := hworkers
  rw [workerCount_eq,map_eq_ok] at htotal
  obtain ⟨n,hn,rfl⟩ := htotal
  refine ⟨n,hn,?_⟩
  rw [forall₂_map_left_iff,forall₂_map_right_iff]
  exact (mapM_eq_ok.1 hmap).imp fun index w hw => workerAt (s := p.settings) (t := p.state) rfl rfl hn hw

lemma apps_at (h : Renders dump r p) (hr : BlocksOf r) :
    Forall₂ (At r p.settings p.state) ((enabledApps r.doc).map .app) (p.apps.map Prod.fst) := by
  have happs := h.apps
  simp only [renderAppInstance,bind_eq_ok,pure_eq_ok] at happs
  obtain ⟨entries,hmap,happs⟩ := happs
  rw [enabledApps,← hr.apps,← happs]
  have hall := mapM_eq_ok.1 hmap
  clear hmap happs
  generalize r.apps.zipIdx = apps at hall
  induction hall with
  | nil => exact .nil
  | @cons app o apps entries hhead _ ih =>
    obtain ⟨henabled,rfl⟩ | ⟨henabled,e,he,rfl⟩ := mapOption_if_eq_ok.1 hhead
    · rw [filter_cons_of_neg (by simp [henabled])]
      exact ih
    · rw [filter_cons_of_pos (by simp [henabled])]
      exact .cons (appAt he) ih

lemma slots_of_rendered (h : Renders dump r p) (hr : BlocksOf r) : ∃ slots, slotsOf r p.settings = .ok slots ∧
    Forall₂ (At r p.settings p.state) slots p.state.instances := by
  have hone : ∀ {slot : Slot} {l : List (InstanceSpec × DiskSpec)} {enabled : Bool},
      (l.length = if enabled then 1 else 0) → (∀ e ∈ l, At r p.settings p.state slot e.1) →
      Forall₂ (At r p.settings p.state) (if enabled then [slot] else []) (l.map Prod.fst) := by
    intro slot l enabled hlength hall
    cases enabled with
    | false =>
      obtain rfl : l = [] := by simpa using hlength
      exact .nil
    | true =>
      obtain ⟨e,rfl⟩ : ∃ e, l = [e] := length_eq_one_iff.1 (by simpa using hlength)
      exact .cons (hall e (by simp)) .nil
  have hwhen : ∀ {block : Json} {render : Checked (InstanceSpec × DiskSpec)} {l : List (InstanceSpec × DiskSpec)},
      whenEnabled block render = .ok l → ∃ enabled, block.value "enabled" false = .ok enabled ∧
        l.length = if enabled then 1 else 0 := by
    intro block render l hl
    rcases whenEnabled_eq_ok.1 hl with ⟨hoff,rfl⟩ | ⟨hon,a,-,rfl⟩
    · exact ⟨false,hoff,rfl⟩
    · exact ⟨true,hon,rfl⟩
  have hvoice : ∀ {α : Type} {o : Option α} {f : α → Bool} {render : α → Checked (InstanceSpec × DiskSpec)}
      {l : List (InstanceSpec × DiskSpec)}, Option.toList <$> mapOption (o.filter f) render = .ok l →
      l.length = if o.any f then 1 else 0 := by
    intro α o f render l hl
    rw [← Option.isSome_filter]
    rcases optional_spec hl with ⟨hoff,rfl⟩ | ⟨hon,b,-,rfl⟩
    · simp [hoff]
    · simp [hon]
  obtain ⟨total,htotal,hworkers⟩ := workers_at h
  obtain ⟨skills,hskills,hskillsOne⟩ := hwhen h.skills
  obtain ⟨browsing,hbrowsing,hbrowsingOne⟩ := hwhen h.gateways
  have hinteraction : p.interactions.length = if decide (p.settings.planeMode = .llm) then 1 else 0 := by
    rcases renderInteractionInstance_spec h.interactions with ⟨hmode,hnil⟩ | ⟨hmode,e,-,hone⟩
    · simp [hmode,hnil]
    · simp [hmode,hone]
  have hinstances : p.state.instances = p.infers ++ p.workers.map (·.spec) ++ p.apps.map Prod.fst ++
      p.skills.map Prod.fst ++ p.gateways.map Prod.fst ++ p.interactions.map Prod.fst ++ p.modules.map Prod.fst ++
      p.makers.map Prod.fst := by
    simp [Parts.state,Parts.hosts,Parts.services]
  simp only [slotsOf,h.infers_length hr,htotal,hskills,hbrowsing,ok_bind]
  refine ⟨_,rfl,?_⟩
  rw [hinstances]
  refine rel_append (rel_append (rel_append (rel_append (rel_append (rel_append
    (rel_append (infers_at h) hworkers) (apps_at h hr)) ?_) ?_) ?_) ?_) ?_
  · exact hone hskillsOne fun e he => skillsAt (h.skillsAt he).2.1
  · exact hone hbrowsingOne fun e he => gatewayAt (h.gatewayAt he).2.1
  · simpa using hone hinteraction fun e he => interactionAt (h.interactionAt he).2.1
  · exact hone (hvoice h.modules) fun e he => moduleAt h he
  · exact hone (hvoice h.makers) fun e he => makerAt h he

def hostPorts (plan : NodeComposePlan) : List Int32 := plan.services.flatMap fun service =>
  service.publishedPorts.map (·.hostPort)

lemma claimsOn_of_rendered (hslots : slotsOf r s = .ok slots) (hall : Forall₂ (At r s t) slots t.instances)
    (hplan : buildNodeComposePlan internalHost t nodeName = .ok plan) :
    ∃ claims, claimsOn r s nodeName = .ok claims ∧ (hostPorts plan).Perm (claims.flatMap Claim.all) := by
  have hplaced : slots.mapM (fun slot => (slot,·) <$> nodeOf r s slot) =
      .ok (slots.zip (t.instances.map (·.nodeName))) := by
    refine mapM_eq_ok.2 ?_
    clear hslots hplan
    generalize t.instances = instances at hall
    induction hall with
    | nil => exact .nil
    | cons hat _ ih => exact .cons (by rw [hat.node]; rfl) ih
  simp only [buildNodeComposePlan,bind_eq_ok,pure_eq_ok] at hplan
  obtain ⟨services,hmap,rfl⟩ := hplan
  have hservices := (mapM_eq_ok.1 hmap).imp (S := fun i service => servicePorts t i = .ok service.publishedPorts)
    fun i service hservice => by
      simp only [buildComposeService,bind_eq_ok,pure_eq_ok] at hservice
      obtain ⟨ports,hports,_,-,_,-,rfl⟩ := hservice
      exact hports
  simp only [claimsOn,hslots,hplaced,ok_bind,hostPorts]
  clear hslots hplaced hmap
  -- the services of the node are taken from the instances in order, as the claims are from the slots
  unfold instancesOn at hservices
  generalize t.instances = instances at hall hservices
  induction hall generalizing services with
  | nil =>
    obtain rfl : services = [] := by simpa using hservices
    exact ⟨[],rfl,.refl _⟩
  | @cons slot i slots instances hat _ ih =>
    rw [map_cons,zip_cons_cons]
    by_cases hnode : i.nodeName = nodeName
    · rw [filter_cons_of_pos (by simpa using hnode)] at hservices
      obtain ⟨service,rest,hservice,hrest,rfl⟩ := forall₂_cons_left_iff.1 hservices
      obtain ⟨claims,hclaims,hperm⟩ := ih rest hrest
      obtain ⟨claim,hclaim,hports⟩ := hat.ports _ hservice
      refine ⟨claim::claims,?_,?_⟩
      · rw [filter_cons_of_pos (by simpa using hnode)]
        rw [mapM_cons,hclaim,ok_bind,hclaims]
        rfl
      · rw [flatMap_cons,flatMap_cons]
        exact hports.append hperm
    · rw [filter_cons_of_neg (by simpa using hnode)] at hservices
      rw [filter_cons_of_neg (by simpa using hnode)]
      exact ih services hservices

def settingsOf (r : Sections) : Checked DesiredState := do
  let settings ← renderSettings r
  renderWorkerGroup r settings

/-- On every node of the document the claims of its services keep clear of each other. -/
def PortsApart (doc : Json) : Prop :=
  ∀ r settings, sections doc = .ok r → settingsOf r = .ok settings → ∀ node ∈ settings.nodes, ∀ claims,
    claimsOn r settings node.name = .ok claims → ClaimsApart claims

def replicaPlane (gatewayPort inferencePort : Int32) : Json := ofFields [
  field "version" (some (2 : Int32)),field "plane_name" (some "demo"),field "plane_mode" (some "compute"),
  ("topology",some (ofFields [field "nodes" (some (Json.arr [ofFields [field "name" (some "node-a")]]))])),
  ("runtime",some (ofFields [field "engine" (some "llama.cpp"),field "workers" (some (1 : Int32))])),
  ("network",some (ofFields [field "gateway_port" (some gatewayPort),field "inference_port" (some inferencePort)]))]

def plannedPorts (dump : Json → String) (doc : Json) : Checked (List (List Int32)) := do
  let s ← render dump doc
  let plans ← buildNodeComposePlans none s
  pure (plans.map hostPorts)

end Naim.HostPorts
