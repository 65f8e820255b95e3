import Naim.PlaneReload

/-!
# The storage round trip

A settled plane whose document is accepted is rendered again. The instances and
the disks that come back are a function of the stored state, so that what a round
trip changes can be read off the state.
-/

namespace Naim.Storage

open Checked Json List Projector Rows Except
open Renderer hiding defaultNodeName

variable {dump : Json → String} {s t t' s' : DesiredState} {r : Sections} {p : Parts} {disk : Int32 × String}
  {instances : List InstanceSpec} {α : Type} {doc block : Json}

/-- A voice service that shares a device needs a worker with one. -/
structure VoicesHosted (s : DesiredState) : Prop where
  listener : s.voiceListener.any (·.enabled) = true → (voiceGpuInstance s .voiceModule).isSome = true →
    (findInstances s .worker).any hasGpu = true
  maker : s.voiceMaker.any (·.enabled) = true → (voiceGpuInstance s .voiceMaker).isSome = true →
    (findInstances s .worker).any hasGpu = true

lemma renderWorkerGroup_spec (ht : Reloaded s t) (h : renderWorkerGroup r t = .ok t') : Reloaded s t' := by
  simp only [renderWorkerGroup,bind_eq_ok,pure_eq_ok] at h
  obtain ⟨enabled,-,node,-,workers,-,rfl⟩ := h
  exact ⟨ht.planeName,ht.planeMode,ht.runtimeEngine,ht.distributedBackend,ht.nodes,ht.planeSharedDiskName,
    ht.placementTarget,ht.voiceListener,ht.voiceMaker⟩

lemma Renders.reloaded (h : Renders dump (storedSections s) p) (hs : Settled s)
    (hbackend : s.inference.distributedBackend ≠ "") : Reloaded s p.settings := by
  obtain ⟨t,ht,hgroup⟩ := h.settings
  obtain ⟨t',ht',hreloaded⟩ := renderSettings_project hs hbackend
  obtain rfl := ok_unique ht' ht
  exact renderWorkerGroup_spec hreloaded hgroup

/-- What a reload makes of a worker at a position; its device share is the one of the first worker. -/
structure WorkerReload (s : DesiredState) (first : InstanceSpec) (e : InstanceSpec × ℕ)
    (w : RenderedWorker) : Prop where
  name : w.spec.name = buildWorkerName s.planeName e.2 (findInstances s .worker).length
  role : w.spec.role = .worker
  node : w.spec.nodeName = e.1.nodeName
  gpuDevice : w.spec.gpuDevice = nonEmpty e.1.gpuDevice
  shareMode : w.spec.shareMode = first.shareMode
  gpuFraction : w.spec.gpuFraction = first.gpuFraction
  memoryCapMb : w.spec.memoryCapMb = first.memoryCapMb
  sizeGb : w.spec.privateDiskSizeGb = (storedDisk (findDiskByName s first.privateDiskName) 2).1
  disk : w.disk = privateDisk .workerPrivate w.spec (storedDisk (findDiskByName s first.privateDiskName) 2).2
  planeName : w.spec.planeName = s.planeName
  privateDiskName : w.spec.privateDiskName = w.spec.name ++ "-private"

variable {first i : InstanceSpec} {workers : List RenderedWorker} {role : InstanceRole} {kind : DiskKind}
variable {name nodeName : String} {e : InstanceSpec × DiskSpec} {l : List (InstanceSpec × DiskSpec)}

section Reload

variable (hs : Settled s) (hstore : Storable s)

include hs hstore

lemma workers_reload (ht : Reloaded s t) (hfirst : (findInstances s .worker).head? = some first)
    (h : renderWorkerInstances (storedSections s) t inferNames = .ok workers) :
    Forall₂ (WorkerReload s first) (findInstances s .worker).zipIdx workers := by
  obtain ⟨total,htotal,hall⟩ := renderWorkerInstances_spec h
  obtain rfl := ok_unique (workerCount_project hs) htotal
  have hrange : List.range (findInstances s .worker).length = (findInstances s .worker).zipIdx.map Prod.snd := by
    rw [zipIdx_map_snd,range_eq_range']
  rw [hrange,forall₂_map_left_iff] at hall
  refine forall₂_imp_mem hall fun e he w hat => ?_
  have hw : (findInstances s .worker)[e.2]? = some e.1 := mem_zipIdx_iff_getElem?.1 he
  have hresources := workerResources_project hfirst
  obtain ⟨hsize,hpath⟩ := extractPrivateDisk_project (workerBlock_storage s first)
    (.inr (workerBlock_volumes s first)) 2
  rw [← worker_project hfirst] at hsize hpath
  obtain ⟨path,hpath',hdisk⟩ := hat.disk
  obtain rfl := ok_unique hpath hpath'
  exact {
    name := by rw [hat.name,ht.planeName]
    role := hat.role, node := (ok_unique (workerNode_project hs hstore ht hw) hat.node).symm
    gpuDevice := hat.gpuDevice.trans (workerGpu_project hs hstore hw)
    shareMode := by
      have hmode := hat.shareMode
      rw [hresources,resources_shareMode,ok_bind,parseGpuShareMode_text] at hmode
      exact (ok.inj hmode).symm
    gpuFraction := (ok_unique (resources_gpuFraction first) (hresources ▸ hat.gpuFraction)).symm
    memoryCapMb := (ok_unique (resources_memoryCapMb first) (hresources ▸ hat.memoryCapMb)).symm
    sizeGb := (ok_unique hsize hat.sizeGb).symm, disk := hdisk, planeName := hat.planeName.trans ht.planeName
    privateDiskName := hat.privateDiskName}

omit hs hstore in
lemma hasGpu_reload {e : InstanceSpec × ℕ} {w : RenderedWorker} (h : WorkerReload s first e w)
    (hrole : e.1.role = .worker) : hasGpu w.spec = hasGpu e.1 := by
  simp only [hasGpu,h.role,h.gpuDevice,hrole,decide_true,Bool.true_and]
  cases e.1.gpuDevice with
  | none => rfl
  | some gpu => by_cases hgpu : gpu = "" <;> simp [nonEmpty,Option.filter,hgpu]

omit hs hstore in
lemma any_hasGpu_reload (h : Forall₂ (WorkerReload s first) (findInstances s .worker).zipIdx workers) :
    (workers.map (·.spec)).any hasGpu = (findInstances s .worker).any hasGpu := by
  have hrole : ∀ e ∈ (findInstances s .worker).zipIdx, e.1 ∈ findInstances s .worker ∧ e.1.role = .worker := by
    intro e he
    have hmem := mem_of_getElem? (mem_zipIdx_iff_getElem?.1 he)
    exact ⟨hmem,by simpa using (mem_filter.1 hmem).2⟩
  rw [Bool.eq_iff_iff,any_map,any_eq_true,any_eq_true]
  constructor
  · rintro ⟨w,hw,hgpu⟩
    obtain ⟨e,he,hat⟩ := forall₂_mem_right h hw
    exact ⟨e.1,(hrole e he).1,(hasGpu_reload hat (hrole e he).2) ▸ hgpu⟩
  · rintro ⟨i,hi,hgpu⟩
    obtain ⟨k,hk⟩ := mem_iff_getElem?.1 hi
    have he : (i,k) ∈ (findInstances s .worker).zipIdx := mem_zipIdx_iff_getElem?.2 hk
    obtain ⟨w,hw,hat⟩ := forall₂_mem_left h he
    exact ⟨w,hw,(hasGpu_reload hat (hrole _ he).2).trans hgpu⟩

lemma renders_project (dump : Json → String) (hbackend : s.inference.distributedBackend ≠ "")
    (hvoices : VoicesHosted s) :
    ∃ p, Renders dump (storedSections s) p := by
  obtain ⟨t₀,ht₀,hreloaded₀⟩ := renderSettings_project hs hbackend
  obtain ⟨t,hgroup⟩ : ∃ t, renderWorkerGroup (storedSections s) t₀ = .ok t := by
    rw [renderWorkerGroup,inferEnabled_project hreloaded₀,ok_bind,sharedDiskNodeName_project hs hstore hreloaded₀,
      ok_bind,workerCount_project hs]
    exact ⟨_,rfl⟩
  have ht := renderWorkerGroup_spec hreloaded₀ hgroup
  obtain ⟨sharedDisks,hshared⟩ : ∃ disks, renderSharedDisk (storedSections s) t = .ok disks := by
    rw [renderSharedDisk,sharedDiskNodeName_project hs hstore ht,ok_bind,sharedDiskGb_project]
    exact ⟨_,rfl⟩
  obtain ⟨infers,hinfers⟩ := renderInferInstance_project hs hstore ht
  obtain ⟨workers,hworkers⟩ := renderWorkerInstances_project hs hstore ht (infers.map (·.name))
  obtain ⟨apps,happs⟩ := renderAppInstance_project hs hstore ht (infers.map (·.name))
  obtain ⟨skills,hskills⟩ := renderSkillsInstance_project hs hstore ht
  obtain ⟨gateways,hgateways⟩ := renderWebGatewayInstance_project hs hstore ht dump
  obtain ⟨interactions,hinteractions⟩ := renderInteractionInstance_project hs hstore ht
  obtain ⟨first,hfirst,-⟩ := exists_firstWorker hs.workers.nonempty
  have hany := any_hasGpu_reload (workers_reload hs hstore ht hfirst hworkers)
  have hhosts : ∀ rest, (findInstances s .worker).any hasGpu = true →
      (infers ++ workers.map (·.spec) ++ rest).any hasGpu = true := by
    intro rest h
    rw [any_append,any_append,hany,h,Bool.or_true,Bool.true_or]
  obtain ⟨modules,hmodules⟩ := renderVoiceModuleInstance_project hs hstore ht
    (infers ++ workers.map (·.spec) ++ (apps ++ skills ++ gateways ++ interactions).map Prod.fst)
    fun hon hgpu => hhosts _ (hvoices.listener hon hgpu)
  obtain ⟨makers,hmakers⟩ := renderVoiceMakerInstance_project hs hstore ht
    (infers ++ workers.map (·.spec) ++ (apps ++ skills ++ gateways ++ interactions).map Prod.fst ++
      modules.map Prod.fst)
    fun hon hgpu => by rw [any_append,hhosts _ (hvoices.maker hon hgpu),Bool.true_or]
  exact ⟨⟨t,sharedDisks,infers,workers,apps,skills,gateways,interactions,modules,makers⟩,⟨t₀,ht₀,hgroup⟩,
    hshared,hinfers,hworkers,happs,hskills,hgateways,hinteractions,hmodules,hmakers⟩

end Reload

lemma render_project_eq_ok (hs : Settled s) : render dump (project s) = .ok s' ↔
    Storable s ∧ ∃ p, Renders dump (storedSections s) p ∧ s' = p.state := by
  simp only [render,bind_eq_ok,sections_project,ok.injEq,exists_eq_left',renderState_eq_ok,
    ← validateOrThrow_project hs]
  exact ⟨fun h => h.elim fun _ h => h,fun h => ⟨(),h⟩⟩

lemma selectVoiceGpuHost_hosts (h : Renders dump r p) :
    selectVoiceGpuHost p.hosts = selectVoiceGpuHost (p.workers.map (·.spec)) ∧
    selectVoiceGpuHost (p.hosts ++ p.modules.map Prod.fst) = selectVoiceGpuHost (p.workers.map (·.spec)) := by
  have hnone : ∀ role, role ≠ .worker → (p.ofRole role).filter hasGpu = [] :=
    fun role hne => filter_eq_nil_iff.2 fun i hi => by simp [hasGpu,h.role_ofRole role i hi,hne]
  have hinfers := hnone .infer (by decide)
  have happs := hnone .app (by decide)
  have hskills := hnone .skills (by decide)
  have hgateways := hnone .browsing (by decide)
  have hinteractions := hnone .interaction (by decide)
  have hmodules := hnone .voiceModule (by decide)
  simp only [Parts.ofRole] at hinfers happs hskills hgateways hinteractions hmodules
  have hhosts : p.hosts.filter hasGpu = (p.workers.map (·.spec)).filter hasGpu := by
    simp only [Parts.hosts,Parts.services,map_append,filter_append,hinfers,happs,hskills,hgateways,hinteractions,
      nil_append,append_nil]
  have hall : (p.hosts ++ p.modules.map Prod.fst).filter hasGpu = (p.workers.map (·.spec)).filter hasGpu := by
    rw [filter_append,hmodules,append_nil,hhosts]
  unfold selectVoiceGpuHost
  rw [hhosts,hall]
  exact ⟨rfl,rfl⟩

def sharedHost (s : DesiredState) (role : InstanceRole) (workers : List RenderedWorker) : Option VoiceGpuHost :=
  if (voiceGpuInstance s role).isSome then selectVoiceGpuHost (workers.map (·.spec)) else none

structure View where
  name : String
  role : InstanceRole
  nodeName : String
  gpuDevice : Option String
  deriving DecidableEq

def viewOf (i : InstanceSpec) : View := ⟨i.name,i.role,i.nodeName,i.gpuDevice⟩

def diskOf (s : DesiredState) (kind : DiskKind) (name nodeName : String) (disk : Int32 × String) : DiskSpec where
  name := name ++ "-private"
  kind
  planeName := s.planeName
  ownerName := name
  nodeName
  hostPath := instancePrivateHostPath name
  containerPath := disk.2
  sizeGb := disk.1

def seen (e : InstanceSpec × DiskSpec) : View × DiskSpec := (viewOf e.1,e.2)

lemma views_seen (l : List (InstanceSpec × DiskSpec)) : (l.map Prod.fst).map viewOf = (l.map seen).map Prod.fst := by
  rw [map_map,map_map]
  rfl

lemma disks_seen (l : List (InstanceSpec × DiskSpec)) : l.map Prod.snd = (l.map seen).map Prod.snd := by
  rw [map_map]
  rfl

def serviceOn (s : DesiredState) (role : InstanceRole) (kind : DiskKind) (name nodeName : String)
    (gpuDevice : Option String) (disk : Int32 × String) : View × DiskSpec :=
  (⟨name,role,nodeName,gpuDevice⟩,diskOf s kind name nodeName disk)

lemma WithDisk.seen_eq (h : WithDisk t role kind (.ok disk.1) (.ok disk.2) e)
    (hplane : t.planeName = s.planeName) :
    seen e = serviceOn s role kind e.1.name e.1.nodeName e.1.gpuDevice disk := by
  obtain ⟨path,hpath,hdisk⟩ := h.disk
  have hsize := ok.inj h.sizeGb
  obtain rfl := ok.inj hpath
  simp only [seen,viewOf,serviceOn,diskOf,hdisk,privateDisk,h.role,h.planeName,h.privateDiskName,hsize,hplane]

section

variable (s : DesiredState)

def reloadedInfers : List View :=
  (List.range (storedInferCount s)).map fun k => ⟨buildInferInstanceName s.planeName k,.infer,reloadedInfer s k,none⟩

def reloadedWorker (e : InstanceSpec × ℕ) : View :=
  ⟨buildWorkerName s.planeName e.2 (findInstances s .worker).length,.worker,e.1.nodeName,nonEmpty e.1.gpuDevice⟩

def reloadedApps : List (View × DiskSpec) :=
  (findInstances s .app).zipIdx.map fun e => serviceOn s .app .appPrivate (reloadedAppName s e.2 e.1)
    (reloadedHome s e.1.nodeName (reloadedApp s)) none (storedAppDisk (findDiskByName s e.1.privateDiskName))

def reloadedService (role : InstanceRole) (kind : DiskKind) (name : String) : List (View × DiskSpec) :=
  (findInstance s role).toList.map fun i => serviceOn s role kind name (reloadedHome s i.nodeName (reloadedApp s)) none
    (storedDisk (findDiskByName s i.privateDiskName) 1)

def reloadedInteraction : List (View × DiskSpec) :=
  if s.planeMode = .llm then [serviceOn s .interaction .interactionPrivate (interactionInstanceName s.planeName)
    (reloadedInfer s 0) none (1,"/naim/private")] else []

def reloadedVoice (role : InstanceRole) (kind : DiskKind) (name : String) (host : Option VoiceGpuHost)
    (size : Int32) : View × DiskSpec :=
  serviceOn s role kind name (voiceHome s host) (host.map (·.gpuDevice))
    (storedDisk ((findInstance s role).bind fun i => findDiskByName s i.privateDiskName) size)

end

section Reload

variable (h : Renders dump (storedSections s) p) (hs : Settled s) (hstore : Storable s) (ht : Reloaded s p.settings)

include h hs hstore ht

lemma infers_reload : p.infers.map viewOf = reloadedInfers s := by
  have hat : ∀ count, Forall₂ (InferAt (storedSections s) p.settings) (List.range count) p.infers →
      p.infers.map viewOf = (List.range count).map fun k =>
        ⟨buildInferInstanceName s.planeName k,.infer,reloadedInfer s k,none⟩ := by
    intro count hall
    refine forall₂_map_eq hall fun k i hi => ?_
    have hnode := ok_unique (inferNode_project hs hstore ht k) hi.node
    simp only [viewOf,hi.name,hi.role,hi.gpuDevice,← hnode,ht.planeName]
  rcases renderInferInstance_spec h.infers with ⟨hoff,hnil⟩ | ⟨hon,count,hcount,hall⟩
  · have hoff := ok_unique (inferEnabled_project ht) hoff
    simp [reloadedInfers,storedInferCount,hoff,hnil]
  · have hon := ok_unique (inferEnabled_project ht) hon
    have hcount := ok_unique (inferInstanceCount_project hs hstore ht) hcount
    rw [hat count hall,reloadedInfers,storedInferCount,if_pos hon,hcount]

lemma workerViews_reload :
    p.workers.map (fun w => viewOf w.spec) = (findInstances s .worker).zipIdx.map (reloadedWorker s) := by
  obtain ⟨first,hfirst,-⟩ := exists_firstWorker hs.workers.nonempty
  refine forall₂_map_eq (workers_reload hs hstore ht hfirst h.workers) fun e w hw => ?_
  simp only [viewOf,reloadedWorker,hw.name,hw.role,hw.node,hw.gpuDevice]

lemma apps_reload : p.apps.map seen = reloadedApps s := by
  obtain ⟨entries,hentries,hall⟩ := renderAppInstance_spec h.apps
  by_cases hnil : findInstances s .app = []
  · have hone : (storedSections s).apps = [appOff] := by simp [storedSections,hnil]
    rw [hone] at hall
    obtain ⟨o,rest,⟨henabled,-⟩,hrest,rfl⟩ := forall₂_cons_left_iff.1 hall
    obtain rfl := forall₂_nil_left_iff.1 hrest
    have hnone : o = none := by
      simpa using (ok.inj henabled).symm
    simp [hentries,hnone,reloadedApps,hnil]
  · have happs : (storedSections s).apps.zipIdx = (findInstances s .app).zipIdx.map fun e =>
        (storedApp s e.1 (decide (e.2 = primaryAppIndex (findInstances s .app))),e.2) := by
      have hblocks : (storedSections s).apps = projectApps s := by simp [storedSections,hnil]
      refine ext_getElem? fun k => ?_
      cases hk : (findInstances s .app)[k]? <;>
        simp [hblocks,projectApps,List.getElem?_zipIdx,hk,storedApp]
    rw [happs,forall₂_map_left_iff] at hall
    have hseen : entries.map (Option.map seen) = (reloadedApps s).map some := by
      rw [reloadedApps,map_map]
      have hmem : Forall₂ (fun (e : InstanceSpec × ℕ) o => e ∈ (findInstances s .app).zipIdx ∧ _)
          (findInstances s .app).zipIdx entries := forall₂_imp_mem hall fun e he o ho => ⟨he,ho⟩
      refine forall₂_map_eq hmem fun e o ho => ?_
      obtain ⟨he,henabled,hat⟩ := ho
      have hi : (findInstances s .app)[e.2]? = some e.1 := mem_zipIdx_iff_getElem?.1 he
      obtain ⟨a,rfl⟩ : ∃ a, o = some a := by
        have hon : (storedApp s e.1 (decide (e.2 = primaryAppIndex (findInstances s .app)))).value "enabled" true =
            .ok true := by
          rw [storedApp,value_eq (isObject_projectAppInstance s _ _ _),app_enabled,readOr_some,Codec.get_toJson]
        exact Option.isSome_iff_exists.1 (ok_unique hon henabled).symm
      have hat := hat a rfl
      obtain ⟨hsize,hpath⟩ := extractAppDisk_project s (decide ((findInstances s .app).length > 1))
        (decide (e.2 = primaryAppIndex (findInstances s .app))) e.1
      have hdisk := hat.withDisk
      rw [storedApp,hsize,hpath] at hdisk
      have hnode := serviceHome_project hs hstore ht (app_node s (decide ((findInstances s .app).length > 1))
        (decide (e.2 = primaryAppIndex (findInstances s .app))) e.1) (hstore.apps e.1 (mem_of_getElem? hi)) "app"
      have hnode := ok_unique hnode hat.node
      obtain ⟨marked,appName,hmarked,hname,heq⟩ := appName_project s hi p.settings.planeName
      obtain ⟨marked',appName',hmarked',hname',heq'⟩ := hat.name
      obtain rfl := ok_unique hmarked hmarked'
      obtain rfl := ok_unique hname hname'
      rw [Option.map_some,hdisk.seen_eq ht.planeName,← hnode,hat.gpuDevice,heq',heq,ht.planeName]
      rfl
    have hmap : p.apps.map seen = (entries.map (Option.map seen)).filterMap id := by
      rw [hentries,filterMap_map,map_filterMap]
      rfl
    rw [hmap,hseen,filterMap_map]
    simp

omit h hs hstore in
lemma ServiceAt.seen_eq (hat : ServiceAt p.settings role kind name (.ok nodeName) (.ok disk.1) (.ok disk.2) e) :
    seen e = serviceOn s role kind name nodeName none disk := by
  rw [hat.withDisk.seen_eq ht.planeName,hat.name,← ok.inj hat.node,hat.gpuDevice]

omit h hs hstore in
lemma service_reload (henabled : block.value "enabled" false = .ok (findInstance s role).isSome)
    (hl : whenEnabled block rendered = .ok l)
    (hat : ∀ i e, findInstance s role = some i → rendered = .ok e → ServiceAt p.settings role kind name
      (.ok (reloadedHome s i.nodeName (reloadedApp s))) (.ok (storedDisk (findDiskByName s i.privateDiskName) 1).1)
      (.ok (storedDisk (findDiskByName s i.privateDiskName) 1).2) e) :
    l.map seen = reloadedService s role kind name := by
  rcases whenEnabled_eq_ok.1 hl with ⟨hoff,rfl⟩ | ⟨hon,e,he,rfl⟩
  · have hnone : findInstance s role = none := by simpa using ok_unique henabled hoff
    simp [reloadedService,hnone]
  · obtain ⟨i,hi⟩ := Option.isSome_iff_exists.1 (ok_unique henabled hon)
    simp [reloadedService,hi,ServiceAt.seen_eq ht (hat i e hi he)]

lemma skills_reload :
    p.skills.map seen = reloadedService s .skills .skillsPrivate (skillsInstanceName s.planeName) := by
  refine service_reload ht (skills_enabled hs.skills) h.skills fun i e hi he => ?_
  have hat := renderSkills_spec he
  obtain ⟨hsize,hpath⟩ := extractPrivateDisk_project (skillsBlock_storage s i) (.inr (skillsBlock_volumes s i)) 1
  rwa [skills_project hi,hsize,hpath,ht.planeName,
    serviceHome_project hs hstore ht (skillsBlock_node s i) (hstore.skills i hi) "skills"] at hat

lemma gateways_reload :
    p.gateways.map seen = reloadedService s .browsing .browsingPrivate (webGatewayInstanceName s.planeName) := by
  refine service_reload ht (browsing_enabled hs.browsing) h.gateways fun i e hi he => ?_
  have hat := renderWebGateway_spec he
  obtain ⟨hsize,hpath⟩ := extractPrivateDisk_project (browsingBlock_storage s i) (.inl (Eq.refl "storage")) 1
  rwa [browsing_project hi,hsize,hpath,ht.planeName,
    serviceHome_project hs hstore ht (browsingBlock_node s i) (hstore.browsing i hi) "webgateway"] at hat

lemma interactions_reload : p.interactions.map seen = reloadedInteraction s := by
  rcases renderInteractionInstance_spec h.interactions with ⟨hmode,hnil⟩ | ⟨hmode,e,he,hone⟩ <;>
    rw [ht.planeMode] at hmode
  · simp [hnil,reloadedInteraction,hmode]
  · have hat := renderInteractionSpec_spec he
    rw [ht.planeName,inferNode_project hs hstore ht 0] at hat
    have hseen : seen e = serviceOn s .interaction .interactionPrivate (interactionInstanceName s.planeName)
        (reloadedInfer s 0) none (1,"/naim/private") := ServiceAt.seen_eq ht hat
    rw [hone,map_cons,map_nil,reloadedInteraction,if_pos hmode,hseen]

omit h in
lemma voice_seen {v : VoiceService} (hv : StoredVoice s v) (hat : VoiceAt (storedSections s) p.settings instances v e)
    (hinstances : selectVoiceGpuHost instances = selectVoiceGpuHost (p.workers.map (·.spec))) :
    seen e = reloadedVoice s v.role v.kind v.name (sharedHost s v.role p.workers) v.sizeGb := by
  obtain ⟨modelEnv,hread⟩ := hv.block
  obtain ⟨hsize,hpath⟩ := hread.disk v.sizeGb
  have hdisk := hat.withDisk
  rw [hsize,hpath] at hdisk
  obtain ⟨enabled,host,henabled,hselect,-,hnode,hgpu⟩ := hat.placed
  rw [hv.resources] at henabled
  obtain rfl := ok_unique (voiceGpuEnabled_project _ _ _) henabled
  have hhome := ok_unique (voiceNodeName_project hs hstore ht host) hnode
  rw [hdisk.seen_eq ht.planeName,hat.name,← hhome,hgpu,hselect,hinstances]
  rfl

omit h hs hstore ht in
lemma voice_reload {o : Option α} {on : α → Bool} {render : α → Checked (InstanceSpec × DiskSpec)}
    {stored : Bool} {x : View × DiskSpec} (hl : Option.toList <$> mapOption (o.filter on) render = .ok l)
    (hon : (o.filter on).isSome = stored) (hx : stored = true → ∀ a e, render a = .ok e → seen e = x) :
    l.map seen = if stored then [x] else [] := by
  rcases optional_spec hl with ⟨hoff,rfl⟩ | ⟨hany,e,⟨a,-,-,he⟩,rfl⟩
  · simp [← hon,hoff]
  · rw [if_pos (hon.symm.trans hany),map_singleton,hx (hon.symm.trans hany) a e he]

lemma modules_reload : p.modules.map seen = if s.voiceListener.any (·.enabled) then
    [reloadedVoice s .voiceModule .voiceModulePrivate (voiceModuleInstanceName s.planeName)
      (sharedHost s .voiceModule p.workers) 1] else [] := by
  refine voice_reload h.modules ht.voiceListener fun hon config e he => ?_
  rw [voice_seen hs hstore ht (voiceModule_stored hon) (renderVoice_spec he) (selectVoiceGpuHost_hosts h).1,
    ← ht.planeName]
  rfl

lemma makers_reload : p.makers.map seen = if s.voiceMaker.any (·.enabled) then
    [reloadedVoice s .voiceMaker .voiceMakerPrivate (voiceMakerInstanceName s.planeName)
      (sharedHost s .voiceMaker p.workers) 8] else [] := by
  refine voice_reload h.makers ht.voiceMaker fun hon config e he => ?_
  rw [voice_seen hs hstore ht (voiceMaker_stored hon) (renderVoice_spec he) (selectVoiceGpuHost_hosts h).2,
    ← ht.planeName]
  rfl

lemma workerDisks_reload (hfirst : (findInstances s .worker).head? = some first) :
    p.workers.map (·.disk) = (findInstances s .worker).zipIdx.map fun e =>
      diskOf s .workerPrivate (reloadedWorker s e).name e.1.nodeName
        (storedDisk (findDiskByName s first.privateDiskName) 2) := by
  refine forall₂_map_eq (workers_reload hs hstore ht hfirst h.workers) fun e w hw => ?_
  simp only [hw.disk,privateDisk,diskOf,reloadedWorker,hw.privateDiskName,hw.name,hw.node,hw.planeName,hw.sizeGb]

end Reload

structure OneNamed (s : DesiredState) (role : InstanceRole) (name : String) : Prop where
  count : (findInstances s role).length ≤ 1
  name : ∀ i ∈ findInstances s role, i.name = name

/-- A voice service runs on the device that the workers leave it, if it has one. -/
structure VoiceOn (s : DesiredState) (role : InstanceRole) (on : Bool) : Prop where
  enabled : (findInstance s role).isSome = on
  placed : ∀ i ∈ findInstances s role, i.gpuDevice.isSome = true →
    ∃ host, selectVoiceGpuHost (findInstances s .worker) = some host ∧ i.nodeName = host.nodeName ∧
      i.gpuDevice = some host.gpuDevice

/-- How the renderer names the instances of a plane, and what it gives the workers alike. -/
structure Identity (s : DesiredState) : Prop where
  order : s.instances = roleOrder.flatMap (findInstances s)
  infers : ∀ k i, (findInstances s .infer)[k]? = some i → i.name = buildInferInstanceName s.planeName k
  workers : ∀ k i, (findInstances s .worker)[k]? = some i →
    i.name = buildWorkerName s.planeName k (findInstances s .worker).length
  alike : ∀ i ∈ findInstances s .worker, ∀ j ∈ findInstances s .worker,
    i.shareMode = j.shareMode ∧ i.gpuFraction = j.gpuFraction ∧ i.memoryCapMb = j.memoryCapMb
  noDevice : ∀ i ∈ s.instances, i.role ≠ .worker → i.role ≠ .voiceModule → i.role ≠ .voiceMaker → i.gpuDevice = none
  skills : OneNamed s .skills (skillsInstanceName s.planeName)
  browsing : OneNamed s .browsing (webGatewayInstanceName s.planeName)
  interaction : OneNamed s .interaction (interactionInstanceName s.planeName)
  interacts : (findInstance s .interaction).isSome = decide (s.planeMode = .llm)
  voiceModule : OneNamed s .voiceModule (voiceModuleInstanceName s.planeName)
  listens : VoiceOn s .voiceModule (s.voiceListener.any (·.enabled))
  voiceMaker : OneNamed s .voiceMaker (voiceMakerInstanceName s.planeName)
  speaks : VoiceOn s .voiceMaker (s.voiceMaker.any (·.enabled))

lemma oneNamed_of (hl : findInstances s role = l.map Prod.fst) (h : ∀ e ∈ l, l = [e] ∧ e.1.name = name) :
    OneNamed s role name := by
  constructor
  · rw [hl,length_map]
    cases l with
    | nil => exact Nat.zero_le 1
    | cons e l => exact (congrArg List.length (h e (by simp)).1).le
  · intro i hi
    rw [hl] at hi
    obtain ⟨e,he,rfl⟩ := mem_map.1 hi
    exact (h e he).2

namespace Renders

variable (h : Renders dump r p)

include h

lemma voiceOn_of {o : Option α} {on : α → Bool} {voice : α → VoiceService}
    (hl : Option.toList <$> mapOption (o.filter on) (fun a => renderVoice r p.settings instances (voice a)) = .ok l)
    (hrole : p.ofRole role = l.map Prod.fst)
    (hhosts : selectVoiceGpuHost instances = selectVoiceGpuHost (p.workers.map (·.spec))) :
    VoiceOn p.state role (o.any on) := by
  constructor
  · rw [findInstance_eq_head?,h.findInstances,hrole,← Option.isSome_filter]
    rcases optional_spec hl with ⟨hoff,rfl⟩ | ⟨hon,e,-,rfl⟩
    · simp [hoff]
    · simp [hon]
  · intro i hi hgpu
    rw [h.findInstances,hrole] at hi
    obtain ⟨e,he,rfl⟩ := mem_map.1 hi
    obtain ⟨-,⟨a,-,-,hrender⟩,-⟩ := mem_single (optional_spec hl) he
    obtain ⟨enabled,host,-,hselect,henabled,hnode,hdevice⟩ := (renderVoice_spec hrender).placed
    rw [hdevice,Option.isSome_map] at hgpu
    obtain ⟨host,rfl⟩ := Option.isSome_iff_exists.1 hgpu
    rw [henabled,Option.isSome_some,if_pos rfl,hhosts] at hselect
    exact ⟨host,by rw [h.findInstances,Parts.ofRole,← hselect],(ok.inj hnode).symm,hdevice⟩

lemma listens : VoiceOn p.state .voiceModule (p.state.voiceListener.any (·.enabled)) :=
  h.voiceOn_of h.modules rfl (selectVoiceGpuHost_hosts h).1

lemma speaks : VoiceOn p.state .voiceMaker (p.state.voiceMaker.any (·.enabled)) :=
  h.voiceOn_of h.makers rfl (selectVoiceGpuHost_hosts h).2

lemma noDevice (hi : i ∈ p.state.instances) (hworker : i.role ≠ .worker) (hmodule : i.role ≠ .voiceModule)
    (hmaker : i.role ≠ .voiceMaker) : i.gpuDevice = none := by
  have hmem : i ∈ p.ofRole i.role := by
    rw [← h.findInstances]
    exact mem_filter.2 ⟨hi,by simp⟩
  cases hrole : i.role <;> rw [hrole] at hmem
  case infer =>
    obtain ⟨k,hat⟩ := mem_of_infers h.infers hmem
    exact hat.gpuDevice
  case worker => exact absurd hrole hworker
  case app =>
    obtain ⟨e,he,rfl⟩ := mem_map.1 hmem
    obtain ⟨app,k,-,-,hat⟩ := h.appAt he
    exact hat.gpuDevice
  case skills =>
    obtain ⟨e,he,rfl⟩ := mem_map.1 hmem
    exact (renderSkills_spec (h.skillsAt he).2.1).gpuDevice
  case browsing =>
    obtain ⟨e,he,rfl⟩ := mem_map.1 hmem
    exact (renderWebGateway_spec (h.gatewayAt he).2.1).gpuDevice
  case interaction =>
    obtain ⟨e,he,rfl⟩ := mem_map.1 hmem
    exact (renderInteractionSpec_spec (h.interactionAt he).2.1).gpuDevice
  case voiceModule => exact absurd hrole hmodule
  case voiceMaker => exact absurd hrole hmaker

lemma interacts : (findInstance p.state .interaction).isSome = decide (p.state.planeMode = .llm) := by
  rw [findInstance_eq_head?,h.findInstances,Parts.ofRole]
  change _ = decide (p.settings.planeMode = .llm)
  rcases renderInteractionInstance_spec h.interactions with ⟨hmode,hnil⟩ | ⟨hmode,e,-,hone⟩
  · simp [hnil,hmode]
  · simp [hone,hmode]

lemma workerAt_of_mem {total : ℕ} (hall : Forall₂ (WorkerAt r p.settings total) (List.range total) p.workers)
    (hi : i ∈ Projector.findInstances p.state .worker) : ∃ k w, WorkerAt r p.settings total k w ∧ w.spec = i := by
  rw [h.findInstances,Parts.ofRole] at hi
  obtain ⟨w,hw,rfl⟩ := mem_map.1 hi
  obtain ⟨k,-,hat⟩ := forall₂_mem_right hall hw
  exact ⟨k,w,hat,rfl⟩

lemma identity : Identity p.state := by
  have hfind : Projector.findInstances p.state = p.ofRole := funext h.findInstances
  obtain ⟨total,htotal,hworkers⟩ := h.workerAt
  have hone : ∀ role, Projector.findInstances p.state role = (p.single role).map Prod.fst →
      OneNamed p.state role (roleStart role ++ p.settings.planeName) :=
    fun role hfind => oneNamed_of hfind fun e he => ⟨(h.single he).1,(h.single he).2.1⟩
  have hlength : (Projector.findInstances p.state .worker).length = total := by
    rw [hfind,Parts.ofRole,length_map,← hworkers.length_eq,length_range]
  refine {
    order := by rw [hfind,instances_state]
    infers := ?_, workers := ?_, alike := ?_
    noDevice := fun i => h.noDevice
    skills := hone .skills (h.findInstances .skills), browsing := hone .browsing (h.findInstances .browsing)
    interaction := hone .interaction (h.findInstances .interaction), interacts := h.interacts
    voiceModule := hone .voiceModule (h.findInstances .voiceModule), listens := h.listens
    voiceMaker := hone .voiceMaker (h.findInstances .voiceMaker), speaks := h.speaks}
  · intro k i hi
    rw [hfind,Parts.ofRole] at hi
    rcases renderInferInstance_spec h.infers with ⟨-,hnil⟩ | ⟨-,count,-,hall⟩
    · simp [hnil] at hi
    · exact (forall₂_range_getElem? hall hi).name
  · intro k i hi
    rw [hlength]
    rw [hfind,Parts.ofRole,List.getElem?_map,Option.map_eq_some_iff] at hi
    obtain ⟨w,hw,rfl⟩ := hi
    exact (forall₂_range_getElem? hworkers hw).name
  · intro i hi j hj
    obtain ⟨k,w,hw,rfl⟩ := h.workerAt_of_mem hworkers hi
    obtain ⟨l,v,hv,rfl⟩ := h.workerAt_of_mem hworkers hj
    exact ⟨ok_unique hw.shareMode hv.shareMode,ok_unique hw.gpuFraction hv.gpuFraction,
      ok_unique hw.memoryCapMb hv.memoryCapMb⟩

end Renders

def loadOf (i : InstanceSpec) : InstanceSpec where
  name := i.name
  role := i.role
  nodeName := i.nodeName
  gpuDevice := nonEmpty i.gpuDevice
  gpuFraction := i.gpuFraction
  memoryCapMb := i.memoryCapMb

lemma hasGpu_loadOf (i : InstanceSpec) : hasGpu (loadOf i) = hasGpu i := by
  cases hgpu : i.gpuDevice with
  | none => simp [hasGpu,loadOf,hgpu,nonEmpty]
  | some gpu => by_cases hempty : gpu = "" <;> simp [hasGpu,loadOf,hgpu,nonEmpty,Option.filter,hempty]

lemma getD_nonEmpty_gpu (o : Option String) : (nonEmpty o).getD "" = o.getD "" := by
  cases o with
  | none => rfl
  | some gpu => by_cases hempty : gpu = "" <;> simp [nonEmpty,Option.filter,hempty]

lemma selectVoiceGpuHost_loadOf (instances : List InstanceSpec) :
    selectVoiceGpuHost (instances.map loadOf) = selectVoiceGpuHost instances := by
  have hfilter : (instances.map loadOf).filter hasGpu = (instances.filter hasGpu).map loadOf := by
    rw [filter_map]
    exact congrArg _ (filter_congr fun i _ => hasGpu_loadOf i)
  have hadd : ∀ host i, VoiceGpuHost.add host (loadOf i) = VoiceGpuHost.add host i := by
    intro host i
    simp only [VoiceGpuHost.add,loadOf,getD_nonEmpty_gpu]
  have hkey : ∀ i, toLex ((loadOf i).nodeName,(loadOf i).gpuDevice.getD "") =
      toLex (i.nodeName,i.gpuDevice.getD "") := by
    intro i
    simp only [loadOf,getD_nonEmpty_gpu]
  simp only [selectVoiceGpuHost,hfilter,Assoc.accumulate,foldl_map,hadd,hkey]

lemma selectVoiceGpuHost_reload (hid : Identity s) (hfirst : (findInstances s .worker).head? = some first)
    (h : Forall₂ (WorkerReload s first) (findInstances s .worker).zipIdx workers) :
    selectVoiceGpuHost (workers.map (·.spec)) = selectVoiceGpuHost (findInstances s .worker) := by
  have hmem : first ∈ findInstances s .worker := mem_of_mem_head? hfirst
  have hload : workers.map (fun w => loadOf w.spec) = (findInstances s .worker).zipIdx.map fun e => loadOf e.1 := by
    have hall := forall₂_imp_mem (S := fun e w => loadOf w.spec = loadOf e.1) h fun e he w hw => by
      have hi : (findInstances s .worker)[e.2]? = some e.1 := mem_zipIdx_iff_getElem?.1 he
      have hrole : e.1.role = .worker := by simpa using (mem_filter.1 (mem_of_getElem? hi)).2
      obtain ⟨-,hfraction,hcap⟩ := hid.alike e.1 (mem_of_getElem? hi) first hmem
      simp only [loadOf,hw.name,hw.role,hw.node,hw.gpuDevice,hw.gpuFraction,hw.memoryCapMb,hid.workers e.2 e.1 hi,hrole,
        hfraction,hcap,nonEmpty,Option.filter_filter,Bool.and_self]
    exact forall₂_map_eq hall fun _ _ h => h
  have hspecs : (workers.map (·.spec)).map loadOf = (findInstances s .worker).map loadOf := by
    have hfst : (findInstances s .worker).zipIdx.map (fun e => loadOf e.1) = (findInstances s .worker).map loadOf := by
      change (findInstances s .worker).zipIdx.map (loadOf ∘ Prod.fst) = _
      rw [← map_map,zipIdx_map_fst]
    rw [map_map,← hfst,← hload]
    rfl
  rw [← selectVoiceGpuHost_loadOf (workers.map _),hspecs,selectVoiceGpuHost_loadOf]

lemma Identity.voicesHosted (h : Identity s) : VoicesHosted s := by
  have hhosted : ∀ role on, VoiceOn s role on → (voiceGpuInstance s role).isSome = true →
      (findInstances s .worker).any hasGpu = true := by
    intro role on hon hgpu
    obtain ⟨i,hi⟩ := Option.isSome_iff_exists.1 hgpu
    obtain ⟨hmem,hdevice⟩ := voiceGpuInstance_mem hi
    obtain ⟨host,hhost,-⟩ := hon.placed i hmem hdevice
    rw [← selectVoiceGpuHost_isSome,hhost,Option.isSome_some]
  exact ⟨fun _ => hhosted _ _ h.listens,fun _ => hhosted _ _ h.speaks⟩

lemma OneNamed.eq_toList (h : OneNamed s role name) : findInstances s role = (findInstance s role).toList := by
  rw [findInstance_eq_head?]
  match hl : findInstances s role with
  | [] => rfl
  | [i] => rfl
  | i::j::l =>
    have := h.count
    simp [hl] at this

lemma key_views {f : InstanceRole → List InstanceSpec} (h : ∀ role, ∀ i ∈ f role, i.role = role) (role : InstanceRole) :
    ∀ v ∈ (f role).map viewOf, v.role = role := by
  intro v hv
  obtain ⟨i,hi,rfl⟩ := mem_map.1 hv
  exact h role i hi

section Instances

variable (hid : Identity s) (h : Renders dump (storedSections s) p) (hs : Settled s) (hstore : Storable s)
variable (ht : Reloaded s p.settings) {on : Bool}

lemma role_of_mem (hi : i ∈ findInstances s role) : i ∈ s.instances ∧ i.role = role := by
  simpa [findInstances] using hi

include hid h hs hstore ht

lemma sameInfers_iff : p.infers.map viewOf = (findInstances s .infer).map viewOf ↔
    (findInstances s .infer).length = storedInferCount s ∧
      ∀ k i, (findInstances s .infer)[k]? = some i → i.nodeName = reloadedInfer s k := by
  rw [infers_reload h hs hstore ht,reloadedInfers,map_range_eq_map_iff]
  refine and_congr_right' (forall₃_congr fun k i hi => ?_)
  obtain ⟨hmem,hrole⟩ := role_of_mem (mem_of_getElem? hi)
  have hdevice := hid.noDevice i hmem (by simp [hrole]) (by simp [hrole]) (by simp [hrole])
  simp [viewOf,hid.infers k i hi,hrole,hdevice,eq_comm]

lemma sameWorkers_iff : (p.workers.map (·.spec)).map viewOf = (findInstances s .worker).map viewOf ↔
    ∀ i ∈ findInstances s .worker, i.gpuDevice ≠ some "" := by
  have hworkers : (p.workers.map (·.spec)).map viewOf = p.workers.map fun w => viewOf w.spec := by rw [map_map]; rfl
  have hdevice : ∀ o : Option String, nonEmpty o = o ↔ o ≠ some "" := by
    intro o
    cases o with
    | none => simp [nonEmpty]
    | some gpu => by_cases hempty : gpu = "" <;> simp [nonEmpty,Option.filter,hempty]
  rw [hworkers,workerViews_reload h hs hstore ht,zipIdx_map_eq_map_iff]
  have hview : ∀ k i, (findInstances s .worker)[k]? = some i →
      (reloadedWorker s (i,k) = viewOf i ↔ i.gpuDevice ≠ some "") := by
    intro k i hi
    have hrole := (role_of_mem (mem_of_getElem? hi)).2
    simp [reloadedWorker,viewOf,hid.workers k i hi,hrole,hdevice]
  constructor
  · intro hall i hi
    obtain ⟨k,hk⟩ := mem_iff_getElem?.1 hi
    exact (hview k i hk).1 (hall k i hk)
  · exact fun hall k i hi => (hview k i hi).2 (hall i (mem_of_getElem? hi))

lemma sameApps_iff : (p.apps.map Prod.fst).map viewOf = (findInstances s .app).map viewOf ↔
    ∀ k i, (findInstances s .app)[k]? = some i → i.name = reloadedAppName s k i ∧
      (i.nodeName = defaultNodeName s → reloadedApp s = defaultNodeName s) := by
  rw [views_seen,apps_reload h hs hstore ht,reloadedApps,map_map,zipIdx_map_eq_map_iff]
  refine forall₃_congr fun k i hi => ?_
  obtain ⟨hmem,hrole⟩ := role_of_mem (mem_of_getElem? hi)
  have hdevice := hid.noDevice i hmem (by simp [hrole]) (by simp [hrole]) (by simp [hrole])
  rw [← reloadedHome_eq_self]
  simp [serviceOn,viewOf,hrole,hdevice,eq_comm]

omit hs hstore ht h in
/-- A service that follows the app keeps its node unless the default one is written by leaving it out. -/
lemma sameService_iff (hone : OneNamed s role name)
    (hrole : role ≠ .worker ∧ role ≠ .voiceModule ∧ role ≠ .voiceMaker)
    (hl : l.map seen = reloadedService s role kind name) :
    (l.map Prod.fst).map viewOf = (findInstances s role).map viewOf ↔ ∀ i ∈ findInstances s role,
      i.nodeName = defaultNodeName s → reloadedApp s = defaultNodeName s := by
  have heq := hone.eq_toList
  rw [views_seen,hl,reloadedService,map_map,heq]
  cases hi : findInstance s role with
  | none => simp
  | some i =>
    have hmem : i ∈ findInstances s role := by simp [heq,hi]
    obtain ⟨hmem',hrole'⟩ := role_of_mem hmem
    have hdevice := hid.noDevice i hmem' (hrole' ▸ hrole.1) (hrole' ▸ hrole.2.1) (hrole' ▸ hrole.2.2)
    simp only [Option.toList_some,map_cons,map_nil,mem_singleton,forall_eq,← reloadedHome_eq_self]
    simp [serviceOn,viewOf,hone.name i hmem,hrole',hdevice]

lemma sameInteraction_iff : (p.interactions.map Prod.fst).map viewOf = (findInstances s .interaction).map viewOf ↔
    ∀ i ∈ findInstances s .interaction, i.nodeName = reloadedInfer s 0 := by
  have heq := hid.interaction.eq_toList
  have hon := hid.interacts
  rw [views_seen,interactions_reload h hs hstore ht,reloadedInteraction,heq]
  cases hi : findInstance s .interaction with
  | none =>
    have hmode : s.planeMode ≠ .llm := by simpa [hi,eq_comm] using hon
    simp [hmode]
  | some i =>
    have hmode : s.planeMode = .llm := by simpa [hi,eq_comm] using hon
    have hmem : i ∈ findInstances s .interaction := by simp [heq,hi]
    obtain ⟨hmem',hrole⟩ := role_of_mem hmem
    have hdevice := hid.noDevice i hmem' (by simp [hrole]) (by simp [hrole]) (by simp [hrole])
    simp [hmode,serviceOn,viewOf,hid.interaction.name i hmem,hrole,hdevice,eq_comm]

/-- The home and the device that a voice service comes back with are its own, unless it only followed the app. -/
lemma voiceHome_reload (hon : VoiceOn s role on) (hi : findInstance s role = some i) :
    (voiceHome s (sharedHost s role p.workers) = i.nodeName ↔ (i.gpuDevice = none → i.nodeName = reloadedApp s)) ∧
      (sharedHost s role p.workers).map (·.gpuDevice) = i.gpuDevice := by
  obtain ⟨first,hfirst,-⟩ := exists_firstWorker hs.workers.nonempty
  have hselect := selectVoiceGpuHost_reload hid hfirst (workers_reload hs hstore ht hfirst h.workers)
  have hmem : i ∈ findInstances s role := by
    rw [findInstance_eq_head?] at hi
    exact mem_of_mem_head? hi
  cases hgpu : i.gpuDevice with
  | none =>
    have hnone : voiceGpuInstance s role = none := by simp [voiceGpuInstance,hi,Option.filter,hgpu]
    simp [sharedHost,hnone,voiceHome,eq_comm]
  | some gpu =>
    have hsome : voiceGpuInstance s role = some i := by simp [voiceGpuInstance,hi,Option.filter,hgpu]
    obtain ⟨host,hhost,hnode,hdevice⟩ := hon.placed i hmem (by simp [hgpu])
    rw [hgpu] at hdevice
    simp [sharedHost,hsome,hselect,hhost,voiceHome,hnode,hdevice]

lemma sameVoice_iff (hon : VoiceOn s role on) (hone : OneNamed s role name)
    (hl : l.map seen = if on then [reloadedVoice s role kind name (sharedHost s role p.workers) size] else []) :
    (l.map Prod.fst).map viewOf = (findInstances s role).map viewOf ↔
      ∀ i ∈ findInstances s role, i.gpuDevice = none → i.nodeName = reloadedApp s := by
  have heq := hone.eq_toList
  rw [views_seen,hl,← hon.enabled,heq]
  cases hi : findInstance s role with
  | none => simp
  | some i =>
    obtain ⟨hhome,hdevice⟩ := voiceHome_reload hid h hs hstore ht hon hi
    have hmem : i ∈ findInstances s role := by simp [heq,hi]
    simp only [Option.isSome_some,if_true,Option.toList_some,map_cons,map_nil,mem_singleton,forall_eq,
      ← hhome,reloadedVoice,serviceOn,viewOf,hdevice,hone.name i hmem,(role_of_mem hmem).2]
    simp

end Instances

/-- The planes whose instances a reload leaves as they are. Only the first infer instance, the apps and the services
that have a node write it, and not when it is the default one; all others come back where the renderer puts them. -/
structure SameInstances (s : DesiredState) : Prop where
  storable : Storable s
  inferCount : (findInstances s .infer).length = storedInferCount s
  inferNodes : ∀ k i, (findInstances s .infer)[k]? = some i → i.nodeName = reloadedInfer s k
  devices : ∀ i ∈ findInstances s .worker, i.gpuDevice ≠ some ""
  appNames : ∀ k i, (findInstances s .app)[k]? = some i → i.name = reloadedAppName s k i
  followers : ∀ role, role = .app ∨ role = .skills ∨ role = .browsing → ∀ i ∈ findInstances s role,
    i.nodeName = defaultNodeName s → reloadedApp s = defaultNodeName s
  interaction : ∀ i ∈ findInstances s .interaction, i.nodeName = reloadedInfer s 0
  voices : ∀ role, role = .voiceModule ∨ role = .voiceMaker → ∀ i ∈ findInstances s role,
    i.gpuDevice = none → i.nodeName = reloadedApp s

lemma reload_iff (hvoices : VoicesHosted s) (hs : Settled s) (hbackend : s.inference.distributedBackend ≠ "")
    {P : DesiredState → Prop} {Same : Prop} (hstorable : Same → Storable s)
    (hparts : ∀ p, Renders dump (storedSections s) p → Storable s →
      Reloaded s p.settings → (P p.state ↔ Same)) :
    (∃ s', render dump (project s) = .ok s' ∧ P s') ↔ Same := by
  constructor
  · rintro ⟨s',h,heq⟩
    obtain ⟨hstore,p,hp,rfl⟩ := (render_project_eq_ok hs).1 h
    exact (hparts p hp hstore (hp.reloaded hs hbackend)).1 heq
  · intro hsame
    have hstore := hstorable hsame
    obtain ⟨p,hp⟩ := renders_project hs hstore dump hbackend hvoices
    exact ⟨p.state,(render_project_eq_ok hs).2 ⟨hstore,p,hp,rfl⟩,(hparts p hp hstore (hp.reloaded hs hbackend)).2 hsame⟩

lemma reload_instances_iff (hid : Identity s) (hs : Settled s) (hbackend : s.inference.distributedBackend ≠ "") :
    (∃ s', render dump (project s) = .ok s' ∧ s'.instances.map viewOf = s.instances.map viewOf) ↔ SameInstances s := by
  -- role by role, for every reload
  refine reload_iff hid.voicesHosted hs hbackend SameInstances.storable fun p h hstore ht => ?_
  have hinfers := sameInfers_iff hid h hs hstore ht
  have hworkers := sameWorkers_iff hid h hs hstore ht
  have happs := sameApps_iff hid h hs hstore ht
  have hskills := sameService_iff hid hid.skills (by decide) (skills_reload h hs hstore ht)
  have hgateways := sameService_iff hid hid.browsing (by decide) (gateways_reload h hs hstore ht)
  have hinteractions := sameInteraction_iff hid h hs hstore ht
  have hmodules := sameVoice_iff hid h hs hstore ht hid.listens hid.voiceModule (modules_reload h hs hstore ht)
  have hmakers := sameVoice_iff hid h hs hstore ht hid.speaks hid.voiceMaker (makers_reload h hs hstore ht)
  rw [instances_state,hid.order,map_flatMap,map_flatMap,
    flatMap_eq_iff_of_key (by decide) (key_views h.role_ofRole) (key_views fun role i hi => (role_of_mem hi).2)]
  constructor
  · intro hall
    have hall := fun role => hall role (mem_roleOrder role)
    obtain ⟨hcount,hnodes⟩ := hinfers.1 (hall .infer)
    have happs := happs.1 (hall .app)
    refine ⟨hstore,hcount,hnodes,hworkers.1 (hall .worker),fun k i hi => (happs k i hi).1,?_,
      hinteractions.1 (hall .interaction),?_⟩
    · rintro role (rfl | rfl | rfl)
      · intro i hi
        obtain ⟨k,hk⟩ := mem_iff_getElem?.1 hi
        exact (happs k i hk).2
      · exact hskills.1 (hall .skills)
      · exact hgateways.1 (hall .browsing)
    · rintro role (rfl | rfl)
      · exact hmodules.1 (hall .voiceModule)
      · exact hmakers.1 (hall .voiceMaker)
  · intro hsame role _
    cases role with
    | infer => exact hinfers.2 ⟨hsame.inferCount,hsame.inferNodes⟩
    | worker => exact hworkers.2 hsame.devices
    | app => exact happs.2 fun k i hi =>
        ⟨hsame.appNames k i hi,hsame.followers .app (.inl rfl) i (mem_of_getElem? hi)⟩
    | skills => exact hskills.2 (hsame.followers .skills (.inr (.inl rfl)))
    | browsing => exact hgateways.2 (hsame.followers .browsing (.inr (.inr rfl)))
    | interaction => exact hinteractions.2 hsame.interaction
    | voiceModule => exact hmodules.2 (hsame.voices .voiceModule (.inl rfl))
    | voiceMaker => exact hmakers.2 (hsame.voices .voiceMaker (.inr rfl))

lemma render_spec (h : render dump doc = .ok s) :
    ∃ r p, Renders dump r p ∧ s = p.state ∧ Settled s ∧ s.inference.distributedBackend ≠ "" ∧ Identity s := by
  simp only [render,bind_eq_ok] at h
  obtain ⟨_,hvalid,r,hr,hstate⟩ := h
  obtain ⟨p,hp,rfl⟩ := renderState_eq_ok.1 hstate
  obtain ⟨rfl,hblocks⟩ := sections_spec hr
  have hruntime := (Validator.validateOrThrow_eq_ok.1 hvalid).2.2.2.1
  exact ⟨r,p,hp,rfl,hp.settled hblocks hvalid,(runtime_ready hruntime hp.settingsAt).2.1,hp.identity⟩

/-- A rendered plane has the same instances after a reload exactly when `SameInstances` holds of it. -/
theorem storedInstances_eq_iff (dump : Json → String) (doc : Json) (s : DesiredState) (h : render dump doc = .ok s) :
    (∃ s', render dump (project s) = .ok s' ∧ s'.instances.map viewOf = s.instances.map viewOf) ↔ SameInstances s := by
  obtain ⟨-,-,-,-,hs,hbackend,hid⟩ := render_spec h
  exact reload_instances_iff hid hs hbackend

def onReload {α : Type} (dump : Json → String) (doc : Json) (f : DesiredState → DesiredState → α) : Checked α := do
  let s ← render dump doc
  let s' ← render dump (project s)
  pure (f s s')

lemma onReload_eq_ok {f : DesiredState → DesiredState → α} {a : α} (h : onReload dump doc f = .ok a) :
    ∃ s s', render dump doc = .ok s ∧ render dump (project s) = .ok s' ∧ f s s' = a := by
  simp only [onReload,bind_eq_ok,pure_eq_ok] at h
  obtain ⟨s,hs,s',hs',hf⟩ := h
  exact ⟨s,s',hs,hs',hf⟩

def twoApps (node : String) : Json := ofFields [
  field "version" (some (2 : Int32)),field "plane_name" (some "demo"),field "plane_mode" (some "compute"),
  ("topology",some (ofFields [field "nodes" (some (Json.arr [
    ofFields [field "name" (some "node-a")],ofFields [field "name" (some "node-b")]]))])),
  ("runtime",some (ofFields [field "engine" (some "custom"),field "workers" (some (1 : Int32))])),
  field "apps" (some (Json.arr [
    ofFields [field "name" (some "web"),field "primary" (some true),field "image" (some "web:1"),
      field "node" (some "node-b")],
    ofFields [field "name" (some "cron"),field "image" (some "cron:1"),field "node" (some node)]]))]

theorem storedInstances_eq_twoApps : ∃ s, render (fun _ => "") (twoApps "node-b") = .ok s ∧ SameInstances s := by
  have h : onReload (fun _ => "") (twoApps "node-b")
      (fun s s' => decide (s'.instances.map viewOf = s.instances.map viewOf)) = .ok true := by decide +kernel
  obtain ⟨s,s',hs,hs',hviews⟩ := onReload_eq_ok h
  exact ⟨s,hs,(storedInstances_eq_iff _ _ s hs).1 ⟨s',hs',of_decide_eq_true hviews⟩⟩

/-- The second app is on the default node, so it comes back on the node of the primary one. -/
theorem storedInstances_ne_twoApps : ∃ s s', render (fun _ => "") (twoApps "node-a") = .ok s ∧
    render (fun _ => "") (project s) = .ok s' ∧
    s.instances.map viewOf = [⟨"worker-demo",.worker,"node-a",none⟩,⟨"app-demo",.app,"node-b",none⟩,
      ⟨"app-demo-cron",.app,"node-a",none⟩] ∧
    s'.instances.map viewOf = [⟨"worker-demo",.worker,"node-a",none⟩,⟨"app-demo",.app,"node-b",none⟩,
      ⟨"app-demo-cron",.app,"node-b",none⟩] := by
  decide +kernel

end Naim.Storage
