import Naim.StoredDocument

/-!
# What the renderer makes of a document

A rendered state lists its instances by role, each with the name, the node and
the disk that its block of the document determines, and its settings are the
ones that the validator asked for.
-/

namespace Naim.Storage

open Checked Json Renderer Option List

variable {dump : Json → String} {r : Sections} {s : DesiredState} {index total : ℕ} {i spec base : InstanceSpec}
  {inferNames : List String} {α : Type} {resources app block : Json} {host : Option VoiceGpuHost}

structure Parts where
  settings : DesiredState
  sharedDisks : List DiskSpec
  infers : List InstanceSpec
  workers : List RenderedWorker
  (apps skills gateways interactions modules makers : List (InstanceSpec × DiskSpec))

namespace Parts

variable (p : Parts)

def services : List (InstanceSpec × DiskSpec) := p.apps ++ p.skills ++ p.gateways ++ p.interactions

def hosts : List InstanceSpec := p.infers ++ p.workers.map (·.spec) ++ p.services.map Prod.fst

def state : DesiredState :=
  {p.settings with
    workerGroup := {p.settings.workerGroup with members := p.workers.filterMap (·.member)}
    instances := p.hosts ++ (p.modules ++ p.makers).map Prod.fst
    disks := p.sharedDisks ++ p.workers.map (·.disk) ++ (p.services ++ p.modules ++ p.makers).map Prod.snd}

end Parts

structure Renders (dump : Json → String) (r : Sections) (p : Parts) : Prop where
  settings : ∃ s, renderSettings r = .ok s ∧ renderWorkerGroup r s = .ok p.settings
  sharedDisks : renderSharedDisk r p.settings = .ok p.sharedDisks
  infers : renderInferInstance r p.settings = .ok p.infers
  workers : renderWorkerInstances r p.settings (p.infers.map (·.name)) = .ok p.workers
  apps : renderAppInstance r p.settings (p.infers.map (·.name)) = .ok p.apps
  skills : renderSkillsInstance r p.settings = .ok p.skills
  gateways : renderWebGatewayInstance dump r p.settings = .ok p.gateways
  interactions : renderInteractionInstance r p.settings = .ok p.interactions
  modules : renderVoiceModuleInstance r p.settings p.hosts = .ok p.modules
  makers : renderVoiceMakerInstance r p.settings (p.hosts ++ p.modules.map Prod.fst) = .ok p.makers

structure InferAt (r : Sections) (s : DesiredState) (index : ℕ) (i : InstanceSpec) : Prop where
  name : i.name = buildInferInstanceName s.planeName index
  role : i.role = .infer
  node : resolveInferNodeName r s index = .ok i.nodeName
  gpuDevice : i.gpuDevice = none
  privateDiskName : i.privateDiskName = ""

lemma renderInfer_spec {count : ℕ} (h : renderInfer r s count index = .ok i) : InferAt r s index i := by
  simp only [renderInfer,bind_eq_ok,pure_eq_ok] at h
  obtain ⟨node,hnode,image,-,command,-,size,-,custom,-,ports,-,rfl⟩ := h
  exact ⟨rfl,rfl,hnode,rfl,by simp [instanceNeedsPrivateDisk]⟩

variable {infers instances : List InstanceSpec} {e : InstanceSpec × DiskSpec}

section Infers

variable (h : renderInferInstance r s = .ok infers)

include h

lemma renderInferInstance_forall₂ {R : ℕ → InstanceSpec → Prop}
    (hrender : ∀ {count index i}, renderInfer r s count index = .ok i → R index i)
    (hupstreams : ∀ {index i upstreams}, R index i →
      R index {i with environment := Assoc.set i.environment "NAIM_REPLICA_UPSTREAMS" upstreams}) :
    inferEnabled r s = .ok false ∧ infers = [] ∨
    inferEnabled r s = .ok true ∧ ∃ count, inferInstanceCount r s = .ok count ∧
      List.Forall₂ R (List.range count) infers := by
  simp only [renderInferInstance,bind_eq_ok] at h
  obtain ⟨enabled,henabled,h⟩ := h
  cases enabled with
  | false =>
    simp only [Bool.false_eq_true,if_false,pure_eq_ok] at h
    exact .inl ⟨henabled,h.symm⟩
  | true =>
    simp only [if_true,bind_eq_ok] at h
    obtain ⟨count,hcount,infers',hmap,h⟩ := h
    refine .inr ⟨henabled,count,hcount,?_⟩
    have hinfers := (mapM_eq_ok.1 hmap).imp fun _ _ => hrender
    unfold withReplicaUpstreams at h
    split at h
    · rwa [pure_eq_ok.1 h] at hinfers
    · rwa [pure_eq_ok.1 h] at hinfers
    · split at h
      · rwa [pure_eq_ok.1 h] at hinfers
      · simp only [bind_eq_ok,pure_eq_ok] at h
        obtain ⟨upstreams,-,rfl⟩ := h
        obtain ⟨index,indices,hfirst,hrest,heq⟩ := forall₂_cons_right_iff.1 hinfers
        exact heq ▸ .cons (hupstreams hfirst) hrest

lemma renderInferInstance_spec :
    inferEnabled r s = .ok false ∧ infers = [] ∨
    inferEnabled r s = .ok true ∧ ∃ count, inferInstanceCount r s = .ok count ∧
      List.Forall₂ (InferAt r s) (List.range count) infers :=
  renderInferInstance_forall₂ h renderInfer_spec fun h => ⟨h.name,h.role,h.node,h.gpuDevice,h.privateDiskName⟩

lemma mem_of_infers (hi : i ∈ infers) : ∃ index, InferAt r s index i := by
  rcases renderInferInstance_spec h with ⟨-,rfl⟩ | ⟨-,count,-,hall⟩
  · simp at hi
  · obtain ⟨index,-,hat⟩ := forall₂_mem_right hall hi
    exact ⟨index,hat⟩

lemma inferDisks_eq : inferDisks r infers = .ok [] := by
  have hnone : infers.filter (·.privateDiskName ≠ "") = [] := by
    refine filter_eq_nil_iff.2 fun i hi => ?_
    obtain ⟨index,hat⟩ := mem_of_infers h hi
    simp [hat.privateDiskName]
  rw [inferDisks,hnone]
  rfl

end Infers

/-- A worker as the renderer makes it; only its node and its device depend on its place. -/
structure WorkerAt (r : Sections) (s : DesiredState) (total index : ℕ) (w : RenderedWorker) : Prop where
  name : w.spec.name = buildWorkerName s.planeName index total
  role : w.spec.role = .worker
  planeName : w.spec.planeName = s.planeName
  node : resolveWorkerNodeName r s index = .ok w.spec.nodeName
  gpuDevice : w.spec.gpuDevice = resolveWorkerGpuDevice r index
  privateDiskName : w.spec.privateDiskName = w.spec.name ++ "-private"
  shareMode : (r.workerResources.value "share_mode" "exclusive" >>= parseGpuShareMode) = .ok w.spec.shareMode
  gpuFraction : r.workerResources.value "gpu_fraction" 1 = .ok w.spec.gpuFraction
  memoryCapMb : r.workerResources.present "memory_cap_mb" = .ok w.spec.memoryCapMb
  sizeGb : extractPrivateDiskSizeGb r.worker 2 "volumes" = .ok w.spec.privateDiskSizeGb
  disk : ∃ mountPath, extractPrivateMountPath r.worker "/naim/private" "volumes" = .ok mountPath ∧
    w.disk = privateDisk .workerPrivate w.spec mountPath

lemma renderWorkerEntry_spec (h : renderWorkerEntry r s inferNames total index = .ok w) :
    WorkerAt r s total index w := by
  simp only [renderWorkerEntry,bind_eq_ok,pure_eq_ok] at h
  obtain ⟨i,hi,member,-,mountPath,hmount,rfl⟩ := h
  simp only [renderWorker,bind_eq_ok,pure_eq_ok] at hi
  obtain ⟨node,hnode,image,-,command,-,placementText,-,placementMode,-,shareText,htext,shareMode,hshare,fraction,
    hfraction,cap,hcap,size,hsize,inferName,-,custom,-,ports,-,rfl⟩ := hi
  exact ⟨rfl,rfl,rfl,hnode,rfl,rfl,bind_eq_ok.2 ⟨_,htext,hshare⟩,hfraction,hcap,hsize,mountPath,hmount,rfl⟩

lemma renderWorkerInstances_spec (h : renderWorkerInstances r s inferNames = .ok workers) :
    ∃ total, workerCount r = .ok total ∧ List.Forall₂ (WorkerAt r s total) (List.range total) workers := by
  simp only [renderWorkerInstances,bind_eq_ok] at h
  obtain ⟨total,htotal,hmap⟩ := h
  exact ⟨total,htotal,(mapM_eq_ok.1 hmap).imp fun _ _ => renderWorkerEntry_spec⟩

structure WithDisk (s : DesiredState) (role : InstanceRole) (kind : DiskKind) (sizeGb : Checked Int32)
    (mountPath : Checked String) (e : InstanceSpec × DiskSpec) : Prop where
  role : e.1.role = role
  planeName : e.1.planeName = s.planeName
  privateDiskName : e.1.privateDiskName = e.1.name ++ "-private"
  sizeGb : sizeGb = .ok e.1.privateDiskSizeGb
  disk : ∃ path, mountPath = .ok path ∧ e.2 = privateDisk kind e.1 path

@[simp] lemma external_same (s : DesiredState) (binding : String) (i : InstanceSpec) :
    (applyExternalAppHostMetadata s binding i).name = i.name ∧
    (applyExternalAppHostMetadata s binding i).role = i.role ∧
    (applyExternalAppHostMetadata s binding i).planeName = i.planeName ∧
    (applyExternalAppHostMetadata s binding i).nodeName = i.nodeName ∧
    (applyExternalAppHostMetadata s binding i).image = i.image ∧
    (applyExternalAppHostMetadata s binding i).privateDiskName = i.privateDiskName ∧
    (applyExternalAppHostMetadata s binding i).gpuDevice = i.gpuDevice ∧
    (applyExternalAppHostMetadata s binding i).privateDiskSizeGb = i.privateDiskSizeGb ∧
    (applyExternalAppHostMetadata s binding i).appModelMounts = i.appModelMounts ∧
    (applyExternalAppHostMetadata s binding i).publishedPorts = i.publishedPorts := by
  unfold applyExternalAppHostMetadata
  split <;> simp

structure AppAt (r : Sections) (s : DesiredState) (index : ℕ) (app : Json) (e : InstanceSpec × DiskSpec) : Prop where
  withDisk : WithDisk s .app .appPrivate (extractPrivateDiskSizeGb app 8 "volumes")
    (extractPrivateMountPath app "/naim/private" "volumes") e
  name : ∃ marked appName, app.value "primary" false = .ok marked ∧
    app.value "name" (if marked || decide (index = 0) then "primary" else "app-" ++ toString index) = .ok appName ∧
    e.1.name = buildAppInstanceName s.planeName appName (marked || decide (index = 0))
  node : getOr (resolveLegacyServiceNodeName r s app "app") (resolveAppNodeName r s) = .ok e.1.nodeName
  gpuDevice : e.1.gpuDevice = none
  image : app.value "image" "" = .ok e.1.image
  mounts : (app.arrayAt "models").mapM (renderAppModelMount s e.1.name) = .ok e.1.appModelMounts

lemma renderEnabledApp_spec (h : renderEnabledApp r s inferNames index app = .ok e) : AppAt r s index app e := by
  simp only [renderEnabledApp,bind_eq_ok,pure_eq_ok] at h
  obtain ⟨marked,hmarked,appName,hname,node,hnode,image,himage,command,-,custom,-,mounts,hmounts,ports,-,size,hsize,
    path,hpath,_,-,rfl⟩ := h
  refine ⟨⟨?_,?_,?_,?_,path,hpath,rfl⟩,⟨marked,appName,hmarked,hname,?_⟩,?_,?_,?_,?_⟩ <;> dsimp only <;> split <;>
    simp [hnode,himage,hmounts,hsize]

lemma renderAppInstance_spec (h : renderAppInstance r s inferNames = .ok apps) :
    ∃ entries : List (Option (InstanceSpec × DiskSpec)), apps = entries.filterMap id ∧
      List.Forall₂ (fun app o => app.1.value "enabled" true = .ok o.isSome ∧ ∀ e, o = some e → AppAt r s app.2 app.1 e)
        r.apps.zipIdx entries := by
  simp only [renderAppInstance,bind_eq_ok,pure_eq_ok] at h
  obtain ⟨entries,hmap,rfl⟩ := h
  refine ⟨entries,rfl,(mapM_eq_ok.1 hmap).imp fun app o ho => ?_⟩
  obtain ⟨henabled,rfl⟩ | ⟨henabled,e,he,rfl⟩ := mapOption_if_eq_ok.1 ho
  · exact ⟨henabled,fun e h => by cases h⟩
  · exact ⟨henabled,fun e' h => some.inj h ▸ renderEnabledApp_spec he⟩

structure ServiceAt (s : DesiredState) (role : InstanceRole) (kind : DiskKind) (name : String)
    (node : Checked String) (sizeGb : Checked Int32) (mountPath : Checked String) (e : InstanceSpec × DiskSpec) :
    Prop where
  withDisk : WithDisk s role kind sizeGb mountPath e
  name : e.1.name = name
  node : node = .ok e.1.nodeName
  gpuDevice : e.1.gpuDevice = none

lemma renderSkills_spec (h : renderSkills r s = .ok e) :
    ServiceAt s .skills .skillsPrivate (skillsInstanceName s.planeName)
      (getOr (resolveLegacyServiceNodeName r s r.skills "skills") (resolveAppNodeName r s))
      (extractPrivateDiskSizeGb r.skills 1 "volumes")
      (extractPrivateMountPath r.skills "/naim/private" "volumes") e := by
  simp only [renderSkills,bind_eq_ok,pure_eq_ok] at h
  obtain ⟨node,hnode,image,-,command,-,size,hsize,custom,-,ports,-,path,hpath,rfl⟩ := h
  exact ⟨⟨by simp,by simp,by simp,by simp [hsize],path,hpath,rfl⟩,by simp,by simp [hnode],by simp⟩

lemma renderWebGateway_spec (h : renderWebGateway dump r s = .ok e) :
    ServiceAt s .browsing .browsingPrivate (webGatewayInstanceName s.planeName)
      (getOr (resolveLegacyServiceNodeName r s r.browsing "webgateway") (resolveAppNodeName r s))
      (extractPrivateDiskSizeGb r.browsing 1 "storage")
      (extractPrivateMountPath r.browsing "/naim/private" "storage") e := by
  simp only [renderWebGateway,bind_eq_ok,pure_eq_ok] at h
  obtain ⟨node,hnode,image,-,command,-,size,hsize,custom,-,ports,-,path,hpath,rfl⟩ := h
  exact ⟨⟨rfl,rfl,rfl,hsize,path,hpath,rfl⟩,rfl,hnode,rfl⟩

lemma renderInteractionSpec_spec (h : renderInteractionSpec r s = .ok e) :
    ServiceAt s .interaction .interactionPrivate (interactionInstanceName s.planeName)
      (resolveInferNodeName r s 0) (.ok 1) (.ok "/naim/private") e := by
  simp only [renderInteractionSpec,bind_eq_ok,pure_eq_ok] at h
  obtain ⟨node,hnode,browsing,-,rfl⟩ := h
  exact ⟨⟨rfl,rfl,rfl,rfl,_,rfl,rfl⟩,rfl,hnode,rfl⟩

lemma whenEnabled_eq_ok {render : Checked α} {l : List α} :
    whenEnabled block render = .ok l ↔
      block.value "enabled" false = .ok false ∧ l = [] ∨
      block.value "enabled" false = .ok true ∧ ∃ a, render = .ok a ∧ l = [a] := by
  simp only [whenEnabled,bind_eq_ok]
  constructor
  · rintro ⟨_ | _,henabled,h⟩
    · exact .inl ⟨henabled,(pure_eq_ok.1 h).symm⟩
    · obtain ⟨a,ha,rfl⟩ := by simpa using h
      exact .inr ⟨henabled,a,ha,rfl⟩
  · rintro (⟨henabled,rfl⟩ | ⟨henabled,a,ha,rfl⟩)
    · exact ⟨false,henabled,by simp⟩
    · exact ⟨true,henabled,by simp [ha]⟩

lemma optional_spec {β : Type} {o : Option α} {on : α → Bool} {render : α → Checked β} {l : List β}
    (h : Option.toList <$> mapOption (o.filter on) render = .ok l) : (o.filter on).isSome = false ∧ l = [] ∨
      (o.filter on).isSome = true ∧ ∃ b, (∃ a, o = some a ∧ on a = true ∧ render a = .ok b) ∧ l = [b] := by
  simp only [map_eq_ok,mapOption_eq_ok,filter_eq_some_iff] at h
  obtain ⟨_,⟨hnone,rfl⟩ | ⟨a,b,⟨ha,hon⟩,hb,rfl⟩,rfl⟩ := h
  · exact .inl ⟨by rw [hnone,isSome_none],rfl⟩
  · exact .inr ⟨by simp [ha,hon],b,⟨a,ha,hon,hb⟩,rfl⟩

lemma optional_succeeds {β : Type} {o : Option α} {on : α → Bool} {render : α → Checked β}
    (h : ∀ a, (o.filter on).isSome = true → ∃ b, render a = .ok b) :
    ∃ l, Option.toList <$> mapOption (o.filter on) render = .ok l := by
  obtain ⟨b,hb⟩ := mapOption_succeeds (o := o.filter on) fun a ha => h a (isSome_of_eq_some ha)
  exact ⟨_,map_eq_ok.2 ⟨b,hb,rfl⟩⟩

lemma mem_single {off on : Prop} {R : α → Prop} {l : List α}
    (h : off ∧ l = [] ∨ on ∧ ∃ a, R a ∧ l = [a]) {a : α} (ha : a ∈ l) : on ∧ R a ∧ l = [a] := by
  rcases h with ⟨-,rfl⟩ | ⟨hon,b,hb,rfl⟩
  · cases ha
  · obtain rfl := mem_singleton.1 ha
    exact ⟨hon,hb,rfl⟩

lemma renderInteractionInstance_spec (h : renderInteractionInstance r s = .ok l) :
    s.planeMode ≠ .llm ∧ l = [] ∨ s.planeMode = .llm ∧ ∃ e, renderInteractionSpec r s = .ok e ∧ l = [e] := by
  unfold renderInteractionInstance at h
  split at h
  next hmode =>
    simp only [bind_eq_ok,pure_eq_ok] at h
    obtain ⟨e,he,rfl⟩ := h
    exact .inr ⟨hmode,e,he,rfl⟩
  next hmode => exact .inl ⟨hmode,(pure_eq_ok.1 h).symm⟩

/-- The share of a device as the block of the resources gives it. -/
structure ShareOf (resources : Json) (defaultFraction : ℚ) (defaultPriority : Int32) (i : InstanceSpec) : Prop where
  shareMode : (resources.value "share_mode" "shared" >>= parseGpuShareMode) = .ok i.shareMode
  gpuFraction : resources.value "gpu_fraction" defaultFraction = .ok i.gpuFraction
  priority : resources.value "priority" defaultPriority = .ok i.priority
  memoryCapMb : resources.present "memory_cap_mb" = .ok i.memoryCapMb

structure SameService (i i' : InstanceSpec) : Prop where
  name : i'.name = i.name
  role : i'.role = i.role
  planeName : i'.planeName = i.planeName
  nodeName : i'.nodeName = i.nodeName
  privateDiskName : i'.privateDiskName = i.privateDiskName
  privateDiskSizeGb : i'.privateDiskSizeGb = i.privateDiskSizeGb

lemma withVoiceGpu_spec (hspec : spec.gpuDevice = none)
    (h : withVoiceGpu resources defaultFraction defaultPriority host spec = .ok base) :
    SameService spec base ∧ base.gpuDevice = host.map (·.gpuDevice) ∧
      (host.isSome → ShareOf resources defaultFraction defaultPriority base) := by
  cases host with
  | none =>
    obtain rfl := pure_eq_ok.1 h
    exact ⟨⟨rfl,rfl,rfl,rfl,rfl,rfl⟩,hspec,by simp⟩
  | some host =>
    simp only [withVoiceGpu,bind_eq_ok,pure_eq_ok] at h
    obtain ⟨text,htext,mode,hmode,fraction,hfraction,priority,hpriority,preemptible,-,cap,hcap,rfl⟩ := h
    exact ⟨⟨rfl,rfl,rfl,rfl,rfl,rfl⟩,rfl,fun _ => ⟨bind_eq_ok.2 ⟨_,htext,hmode⟩,hfraction,hpriority,hcap⟩⟩

/-- A voice service sits with the device that it shares, else with the app. -/
structure VoiceAt (r : Sections) (s : DesiredState) (instances : List InstanceSpec) (v : VoiceService)
    (e : InstanceSpec × DiskSpec) : Prop where
  withDisk : WithDisk s v.role v.kind (extractPrivateDiskSizeGb v.block v.sizeGb "storage")
    (extractPrivateMountPath v.block "/naim/private" "storage") e
  name : e.1.name = v.name
  placed : ∃ enabled host, voiceGpuEnabled v.resources = .ok enabled ∧
    host = (if enabled then selectVoiceGpuHost instances else none) ∧ enabled = host.isSome ∧
    voiceNodeName r s host = .ok e.1.nodeName ∧ e.1.gpuDevice = host.map (·.gpuDevice)
  share : e.1.gpuDevice.isSome → ShareOf v.resources v.gpuFraction v.priority e.1

lemma voiceGpuHost_eq_ok :
    voiceGpuHost resources instances fieldName = .ok host ↔
      ∃ enabled, voiceGpuEnabled resources = .ok enabled ∧
        host = (if enabled then selectVoiceGpuHost instances else none) ∧ enabled = host.isSome := by
  simp only [voiceGpuHost,bind_eq_ok,throwIf_eq_ok,pure_eq_ok]
  constructor
  · rintro ⟨enabled,henabled,-,hhost,rfl⟩
    refine ⟨enabled,henabled,rfl,?_⟩
    cases enabled with
    | false => rfl
    | true => simpa using hhost.symm
  · rintro ⟨enabled,henabled,rfl,hhost⟩
    refine ⟨enabled,henabled,(),?_,rfl⟩
    cases enabled with
    | false => rfl
    | true => simpa using hhost.symm

lemma renderVoice_spec (h : renderVoice r s instances v = .ok e) : VoiceAt r s instances v e := by
  simp only [renderVoice,bind_eq_ok,pure_eq_ok] at h
  obtain ⟨host,hhost,node,hnode,command,-,size,hsize,base,hbase,custom,-,ports,-,path,hpath,rfl⟩ := h
  obtain ⟨enabled,henabled,hselect,hsome⟩ := voiceGpuHost_eq_ok.1 hhost
  obtain ⟨hsame,hgpu,hshare⟩ := withVoiceGpu_spec rfl hbase
  refine ⟨⟨hsame.role,hsame.planeName,?_,?_,path,hpath,rfl⟩,hsame.name,
    ⟨enabled,host,henabled,hselect,hsome,?_,hgpu⟩,fun hdevice => ?_⟩
  · exact hsame.privateDiskName.trans (congrArg (· ++ "-private") hsame.name.symm)
  · exact hsize.trans (congrArg _ hsame.privateDiskSizeGb.symm)
  · exact hnode.trans (congrArg _ hsame.nodeName.symm)
  · have hh := hshare (by simpa [hgpu] using hdevice)
    exact ⟨hh.shareMode,hh.gpuFraction,hh.priority,hh.memoryCapMb⟩

lemma renderState_eq_ok : renderState dump r = .ok s ↔ ∃ p, Renders dump r p ∧ s = p.state := by
  constructor
  · intro h
    simp only [renderState,bind_eq_ok,pure_eq_ok] at h
    obtain ⟨s₀,h₀,s₁,h₁,sharedDisks,h₂,infers,h₃,diskless,h₄,workers,h₅,apps,h₆,skills,h₇,gateways,h₈,
      interactions,h₉,modules,h₁₀,makers,h₁₁,rfl⟩ := h
    rw [inferDisks_eq h₃] at h₄
    obtain rfl : [] = diskless := by simpa using h₄
    refine ⟨⟨s₁,sharedDisks,infers,workers,apps,skills,gateways,interactions,modules,makers⟩,
      ⟨⟨s₀,h₀,h₁⟩,h₂,h₃,h₅,h₆,h₇,h₈,h₉,h₁₀,h₁₁⟩,?_⟩
    simp [Parts.state,Parts.hosts,Parts.services]
  · rintro ⟨p,⟨⟨s₀,h₀,h₁⟩,h₂,h₃,h₅,h₆,h₇,h₈,h₉,h₁₀,h₁₁⟩,rfl⟩
    simp only [renderState,bind_eq_ok,pure_eq_ok]
    exact ⟨s₀,h₀,p.settings,h₁,p.sharedDisks,h₂,p.infers,h₃,[],inferDisks_eq h₃,p.workers,h₅,p.apps,h₆,p.skills,h₇,
      p.gateways,h₈,p.interactions,h₉,p.modules,h₁₀,p.makers,h₁₁,by simp [Parts.state,Parts.hosts,Parts.services]⟩

def privateKind : InstanceRole → DiskKind
  | .infer => .inferPrivate
  | .worker => .workerPrivate
  | .app => .appPrivate
  | .skills => .skillsPrivate
  | .browsing => .browsingPrivate
  | .interaction => .interactionPrivate
  | .voiceModule => .voiceModulePrivate
  | .voiceMaker => .voiceMakerPrivate

def kindStart : DiskKind → String
  | .planeShared => "plane-"
  | .inferPrivate => "infer-"
  | .workerPrivate => "worker-"
  | .appPrivate => "app-"
  | .skillsPrivate => "skills-"
  | .browsingPrivate => "webgateway-"
  | .interactionPrivate => "interaction-"
  | .voiceModulePrivate => "voice-module-"
  | .voiceMakerPrivate => "voice-maker-"

def roleStart (role : InstanceRole) : String := kindStart (privateKind role)

def Parts.single (p : Parts) : InstanceRole → List (InstanceSpec × DiskSpec)
  | .skills => p.skills
  | .browsing => p.gateways
  | .interaction => p.interactions
  | .voiceModule => p.modules
  | .voiceMaker => p.makers
  | _ => []

namespace Renders

variable {p : Parts} (h : Renders dump r p)

include h

lemma role_infers : ∀ i ∈ p.infers, i.role = .infer := by
  intro i hi
  obtain ⟨index,hat⟩ := mem_of_infers h.infers hi
  exact hat.role

lemma workerAt : ∃ total, workerCount r = .ok total ∧
    List.Forall₂ (WorkerAt r p.settings total) (List.range total) p.workers :=
  renderWorkerInstances_spec h.workers

lemma role_workers : ∀ i ∈ p.workers.map (·.spec), i.role = .worker := by
  obtain ⟨total,-,hall⟩ := h.workerAt
  intro i hi
  obtain ⟨w,hw,rfl⟩ := mem_map.1 hi
  obtain ⟨index,-,hat⟩ := forall₂_mem_right hall hw
  exact hat.role

lemma appAt (he : e ∈ p.apps) :
    ∃ app index, (app,index) ∈ r.apps.zipIdx ∧ app.value "enabled" true = .ok true ∧
      AppAt r p.settings index app e := by
  obtain ⟨entries,hentries,hall⟩ := renderAppInstance_spec h.apps
  rw [hentries] at he
  obtain ⟨o,ho,hsome⟩ := mem_filterMap.1 he
  obtain rfl : o = some e := hsome
  obtain ⟨app,happ,henabled,hat⟩ := forall₂_mem_right hall ho
  exact ⟨app.1,app.2,happ,henabled,hat e rfl⟩

lemma role_apps : ∀ i ∈ p.apps.map Prod.fst, i.role = .app := by
  intro i hi
  obtain ⟨e,he,rfl⟩ := mem_map.1 hi
  obtain ⟨app,index,-,-,hat⟩ := h.appAt he
  exact hat.withDisk.role

lemma skillsAt (he : e ∈ p.skills) :
    r.skills.value "enabled" false = .ok true ∧ renderSkills r p.settings = .ok e ∧ p.skills = [e] :=
  mem_single (whenEnabled_eq_ok.1 h.skills) he

lemma gatewayAt (he : e ∈ p.gateways) :
    r.browsing.value "enabled" false = .ok true ∧ renderWebGateway dump r p.settings = .ok e ∧ p.gateways = [e] :=
  mem_single (whenEnabled_eq_ok.1 h.gateways) he

lemma interactionAt (he : e ∈ p.interactions) :
    p.settings.planeMode = .llm ∧ renderInteractionSpec r p.settings = .ok e ∧ p.interactions = [e] :=
  mem_single (renderInteractionInstance_spec h.interactions) he

lemma moduleAt (he : e ∈ p.modules) : p.modules = [e] ∧ ∃ config,
    renderVoice r p.settings p.hosts (voiceModule r p.settings config) = .ok e := by
  obtain ⟨-,⟨config,-,-,hrender⟩,hone⟩ := mem_single (optional_spec h.modules) he
  exact ⟨hone,config,hrender⟩

lemma makerAt (he : e ∈ p.makers) : p.makers = [e] ∧ ∃ config,
    renderVoice r p.settings (p.hosts ++ p.modules.map Prod.fst) (voiceMaker r p.settings config) = .ok e := by
  obtain ⟨-,⟨config,-,-,hrender⟩,hone⟩ := mem_single (optional_spec h.makers) he
  exact ⟨hone,config,hrender⟩

lemma single (he : e ∈ p.single role) :
    p.single role = [e] ∧ e.1.name = roleStart role ++ p.settings.planeName ∧
      ∃ sizeGb mountPath, WithDisk p.settings role (privateKind role) sizeGb mountPath e := by
  cases role with
  | infer => cases he
  | worker => cases he
  | app => cases he
  | skills =>
    obtain ⟨-,hrender,hone⟩ := h.skillsAt he
    exact ⟨hone,(renderSkills_spec hrender).name,_,_,(renderSkills_spec hrender).withDisk⟩
  | browsing =>
    obtain ⟨-,hrender,hone⟩ := h.gatewayAt he
    exact ⟨hone,(renderWebGateway_spec hrender).name,_,_,(renderWebGateway_spec hrender).withDisk⟩
  | interaction =>
    obtain ⟨-,hrender,hone⟩ := h.interactionAt he
    exact ⟨hone,(renderInteractionSpec_spec hrender).name,_,_,(renderInteractionSpec_spec hrender).withDisk⟩
  | voiceModule =>
    obtain ⟨hone,config,hrender⟩ := h.moduleAt he
    exact ⟨hone,(renderVoice_spec hrender).name,_,_,(renderVoice_spec hrender).withDisk⟩
  | voiceMaker =>
    obtain ⟨hone,config,hrender⟩ := h.makerAt he
    exact ⟨hone,(renderVoice_spec hrender).name,_,_,(renderVoice_spec hrender).withDisk⟩

end Renders
end Naim.Storage
