import Naim.SettledState

/-!
# The blocks of a stored document

What the renderer finds in the document that the projector wrote: the blocks of
the services with their images, commands, variables, ports and disks, and the
settings of the plane.
-/

namespace Naim.Storage

open Checked Json Projector Renderer Option
open List hiding sections

variable {s : DesiredState} {key k defaultCommand : String} {α : Type} {v f voice app : Json}

def appOff : Json := ofFields [field "enabled" (some false)]

def storedPrimary (s : DesiredState) : Option InstanceSpec :=
  (findInstances s .app)[primaryAppIndex (findInstances s .app)]?

def storedApp (s : DesiredState) (i : InstanceSpec) (primary : Bool) : Json :=
  projectAppInstance s (decide ((findInstances s .app).length > 1)) primary i

def storedSections (s : DesiredState) : Sections where
  doc := project s
  infer := ((findInstance s .infer).map (inferBlock s)).getD (.obj [])
  worker := ((findInstances s .worker).head?.map (workerBlock s)).getD (.obj [])
  resources := projectResources s
  workerResources := ((findInstances s .worker).head?.map projectWorkerResources).getD (.obj [])
  voiceModuleResources := ((voiceGpuInstance s .voiceModule).map (projectVoiceResources (1/5) 50)).getD (.obj [])
  voiceMakerResources := ((voiceGpuInstance s .voiceMaker).map (projectVoiceResources (1/4) 45)).getD (.obj [])
  app := ((storedPrimary s).map (storedApp s · true)).getD appOff
  apps := if findInstances s .app = [] then [appOff] else projectApps s
  skills := (projectSkills s).getD (.obj [])
  browsing := (projectBrowsing s).getD (.obj [])
  knowledge := (projectKnowledge s).getD (.obj [])
  features := (projectFeatures s).getD (.obj [])

section Members

variable {j : Json} {o : Option Json}

lemma object?_eq (hget : j.get? key = o) (hobj : ∀ v, o = some v → v.isObject = true) : j.object? key = o := by
  rw [object?,hget]
  cases o with
  | none => rfl
  | some v => simp [hobj v rfl]

lemma objectAt_eq (hget : j.get? key = o) (hobj : ∀ v, o = some v → v.isObject = true) :
    j.objectAt key = o.getD (.obj []) := by rw [objectAt,object?_eq hget hobj]

lemma object?_map {o : Option α} {f : α → Json} (hget : j.get? key = o.map f)
    (hobj : ∀ a, (f a).isObject = true) : j.object? key = o.map f := by cases o <;> simp [object?,hget,hobj]

end Members

lemma isObject_of_nonEmptyObject {j : Json} (hobj : j.isObject = true) (h : nonEmptyObject j = some v) :
    v.isObject = true := by
  rw [nonEmptyObject,ite_none_left_eq_some,some.injEq] at h
  exact h.2 ▸ hobj

lemma isObject_projectApps (h : app ∈ projectApps s) : app.isObject = true := by
  obtain ⟨e,-,rfl⟩ := mem_map.1 h
  simp

lemma primaryAppIndex_lt (apps : List InstanceSpec) (h : apps ≠ []) : primaryAppIndex apps < apps.length := by
  unfold primaryAppIndex
  cases hfind : apps.findIdx? isPrimaryApp with
  | none => exact length_pos_iff.2 h
  | some k => exact (findIdx?_eq_some_iff_findIdx_eq.1 hfind).1

lemma appsOf_project (s : DesiredState) :
    appsOf (project s) = if findInstances s .app = [] then [appOff] else projectApps s := by
  unfold appsOf object?
  rw [get?_apps,get?_app]
  match happs : findInstances s .app with
  | [] =>
    have hnil : projectApps s = [] := by simp [projectApps,happs]
    simp [projectAppList,projectApp,hnil,appOff]
  | [i] =>
    obtain ⟨app,hone⟩ : ∃ app, projectApps s = [app] := by simp [projectApps,happs]
    have hobj : app.isObject = true := isObject_projectApps (s := s) (by simp [hone])
    simp [projectAppList,projectApp,hone,hobj]
  | i::j::rest =>
    have hlength : (findInstances s .app).length > 1 := by simp [happs]
    obtain ⟨happ,hlist⟩ := projectApp_several hlength
    rw [hlist]
    exact filter_eq_self.2 fun app h => isObject_projectApps h

lemma findPrimary_several (apps : List InstanceSpec) (start primary : ℕ) (hle : start ≤ primary) :
    findPrimary ((apps.zipIdx start).map fun e => projectAppInstance s true (decide (e.2 = primary)) e.1) =
      .ok (apps[primary - start]?.map (projectAppInstance s true true)) := by
  induction apps generalizing start with
  | nil => rfl
  | cons i apps ih =>
    rw [zipIdx_cons,map_cons,findPrimary,value_eq (isObject_projectAppInstance s _ _ _),app_primary]
    by_cases heq : start = primary
    · subst heq
      simp [ok_bind]
    · have hlt : start + 1 ≤ primary := by omega
      have hsub : primary - start = primary - (start + 1) + 1 := by omega
      simp only [heq,decide_false,Bool.true_or,if_true,readOr_some,Codec.get_toJson,ok_bind,Bool.false_eq_true,if_false,
        ih _ hlt]
      rw [hsub,getElem?_cons_succ]

lemma primary_project (s : DesiredState) : ∃ primary, findPrimary (appsOf (project s)) = .ok primary ∧
    (primary.or (appsOf (project s)).head?).getD (.obj []) =
      ((storedPrimary s).map (storedApp s · true)).getD appOff := by
  rw [appsOf_project]
  match happs : findInstances s .app with
  | [] =>
    refine ⟨none,?_,?_⟩
    · simp [findPrimary,appOff]
    · simp [storedPrimary,happs]
  | [i] =>
    have hindex : primaryAppIndex [i] = 0 := by
      have := primaryAppIndex_lt [i] (by simp)
      simpa using this
    have hone : projectApps s = [projectAppInstance s false true i] := by simp [projectApps,happs,hindex]
    refine ⟨none,?_,?_⟩
    · simp [hone,findPrimary,value_eq]
    · simp [hone,storedPrimary,storedApp,happs,hindex]
  | i::j::rest =>
    have hprojected : projectApps s = (findInstances s .app).zipIdx.map fun e =>
        projectAppInstance s true (decide (e.2 = primaryAppIndex (findInstances s .app))) e.1 := by
      simp [projectApps,happs]
    obtain ⟨app,happ⟩ : ∃ app, storedPrimary s = some app :=
      ⟨_,getElem?_eq_getElem (primaryAppIndex_lt (findInstances s .app) (by simp [happs]))⟩
    refine ⟨some (projectAppInstance s true true app),?_,?_⟩
    · rw [if_neg (by simp),hprojected,findPrimary_several _ _ _ (Nat.zero_le _),Nat.sub_zero]
      exact congrArg _ (congrArg _ happ)
    · simp [happ,storedApp,happs]

lemma isObject_projectSkills (h : projectSkills s = some v) : v.isObject = true := by
  unfold projectSkills at h
  split at h
  · cases hk : s.skills <;> simp_all
    rw [← h]
    simp
  · rw [← some.inj h]
    simp

lemma isObject_projectBrowsing (h : projectBrowsing s = some v) : v.isObject = true := by
  unfold projectBrowsing at h
  split at h
  · cases hb : s.browsing <;> simp_all
    rw [← h]
    simp
  · rw [← some.inj h]
    simp

lemma isObject_projectVoiceResources (fraction : ℚ) (priority : Int32) (i : InstanceSpec) :
    (projectVoiceResources fraction priority i).isObject = true := by
  unfold projectVoiceResources
  split <;> simp

lemma sections_project (s : DesiredState) : sections (project s) = .ok (storedSections s) := by
  obtain ⟨primary,hprimary,happ⟩ := primary_project s
  have hresources : (project s).objectAt "resources" = projectResources s := by
    rw [objectAt_eq (get?_resources s) (by simp),getD_some]
  have hinfer : (project s).objectAt "infer" = ((findInstance s .infer).map (inferBlock s)).getD (.obj []) := by
    rw [objectAt_eq (get?_infer s) fun v h => ?_,projectInfer]
    · cases findInstance s .infer with
      | none => rfl
      | some i => exact getD_nonEmptyObject (isObject_inferBlock s i)
    · obtain ⟨i,-,hi⟩ := bind_eq_some_iff.1 h
      exact isObject_of_nonEmptyObject (isObject_inferBlock s i) hi
  have hworker : (project s).objectAt "worker" =
      ((findInstances s .worker).head?.map (workerBlock s)).getD (.obj []) := by
    rw [objectAt_eq (get?_worker s) fun v h => ?_,projectWorker]
    · cases (findInstances s .worker).head? with
      | none => rfl
      | some i => exact getD_nonEmptyObject (isObject_workerBlock s i)
    · obtain ⟨i,-,hi⟩ := bind_eq_some_iff.1 h
      exact isObject_of_nonEmptyObject (isObject_workerBlock s i) hi
  have hworkerResources : (projectResources s).objectAt "worker" =
      ((findInstances s .worker).head?.map projectWorkerResources).getD (.obj []) := by
    rw [objectAt,object?_map (resources_worker s) (by simp [projectWorkerResources])]
  have hmodule : (projectResources s).object? "voice_module" =
      (voiceGpuInstance s .voiceModule).map (projectVoiceResources (1/5) 50) :=
    object?_map (resources_voiceModule s) (isObject_projectVoiceResources _ _)
  have hlistener : (projectResources s).object? "voice_listener" = none := by simp [object?]
  have hmaker : (projectResources s).objectAt "voice_maker" =
      ((voiceGpuInstance s .voiceMaker).map (projectVoiceResources (1/4) 45)).getD (.obj []) := by
    rw [objectAt,object?_map (resources_voiceMaker s) (isObject_projectVoiceResources _ _)]
  have hgateway : (project s).object? "webgateway" = projectBrowsing s :=
    object?_eq (get?_webgateway s) fun v h => isObject_projectBrowsing h
  have hbrowsing : (project s).object? "browsing" = none := by simp [object?]
  rw [sections]
  simp only [hresources,hinfer,hworker,hworkerResources,hmodule,hlistener,hmaker,hgateway,hbrowsing,hprimary,
    ok_bind,happ,or_none,objectAt_eq (get?_skills s) fun v h => isObject_projectSkills h,
    objectAt_eq (get?_knowledge s) fun v h => by
      obtain ⟨k,-,rfl⟩ := map_eq_some_iff.1 h
      simp,
    objectAt_eq (get?_features s) fun v h => isObject_of_nonEmptyObject (isObject_ofFields _) h]
  rw [appsOf_project]
  rfl

structure ServiceBlock (defaultImage defaultCommand : String) (i : InstanceSpec) (j : Json) : Prop where
  object : j.isObject = true
  image : j.get? "image" = (elide defaultImage i.image).map toJson
  start : j.get? "start" = projectServiceStart i defaultCommand
  env : j.get? "env" = (elide [] (projectCustomEnv i)).map toJson
  publish : j.get? "publish" = projectPublishedPorts i

section ServiceBlock

variable {j : Json} {i : InstanceSpec}

lemma serviceCommand_project (hobj : j.isObject = true)
    (hstart : j.get? "start" = projectServiceStart i defaultCommand) :
    ∃ command, serviceCommand j defaultCommand = .ok command := by
  rw [serviceCommand,value_eq hobj,hstart,projectServiceStart]
  split
  · exact ⟨defaultCommand,rfl⟩
  next hne =>
    rw [not_or] at hne
    simp [buildCommandFromStartSpec,hne.1,ok_bind]

lemma mapAs_elide {m : StringMap} (h : j.get? key = (elide [] m).map toJson) :
    j.mapAs key = .ok m := by rw [mapAs,h,mapOf_map,getD_elide]

lemma renderPublishedPorts_project (h : j.get? "publish" = projectPublishedPorts i) :
    renderPublishedPorts j = .ok i.publishedPorts := by
  have hread : ∀ p : PublishedPort, renderPublishedPort (projectPublishedPort p) = .ok p := by
    intro p
    simp [renderPublishedPort,projectPublishedPort,ok_bind]
  have hall : ∀ ports : List PublishedPort, (ports.map projectPublishedPort).mapM renderPublishedPort = .ok ports := by
    intro ports
    rw [mapM_eq_ok,forall₂_map_left_iff,forall₂_same]
    exact fun p _ => hread p
  rw [renderPublishedPorts,arrayAt,h,projectPublishedPorts]
  split
  next hnil =>
    rw [hnil]
    rfl
  · exact hall i.publishedPorts

end ServiceBlock

def storedDisk (disk : Option DiskSpec) (size : Int32) : Int32 × String :=
  match disk with
  | none => (size,"/naim/private")
  | some d => if d.sizeGb = defaultDiskSizeGb d.kind ∧ d.containerPath = "/naim/private" then (size,"/naim/private")
      else (d.sizeGb,d.containerPath)

section Storage

section StorageBlock

variable {disk : Option DiskSpec} {legacyVolumeKey : String} {j : Json}
  (hget : j.get? "storage" = projectServiceStorage disk)
  (hlegacy : legacyVolumeKey = "storage" ∨ j.get? legacyVolumeKey = none)

include hget hlegacy

lemma storageBlock?_project : storageBlock? j legacyVolumeKey = projectServiceStorage disk := by
  have hobj : ∀ v, projectServiceStorage disk = some v → v.isObject = true := by
    intro v h
    obtain ⟨d,-,h⟩ := bind_eq_some_iff.1 h
    rw [ite_none_left_eq_some,some.injEq] at h
    rw [← h.2]
    simp
  rw [storageBlock?,object?_eq hget hobj,arrayAt]
  cases hstorage : projectServiceStorage disk with
  | some v => rfl
  | none =>
    rcases hlegacy with rfl | hlegacy
    · simp [hget,hstorage,items]
    · simp [hlegacy,items]

lemma extractPrivateDisk_project (size : Int32) :
    extractPrivateDiskSizeGb j size legacyVolumeKey = .ok (storedDisk disk size).1 ∧
    extractPrivateMountPath j "/naim/private" legacyVolumeKey = .ok (storedDisk disk size).2 := by
  unfold extractPrivateDiskSizeGb extractPrivateMountPath
  rw [storageBlock?_project hget hlegacy]
  cases disk with
  | none => exact ⟨rfl,rfl⟩
  | some d =>
    simp only [projectServiceStorage,bind_some,storedDisk]
    by_cases hdefault : d.sizeGb = defaultDiskSizeGb d.kind ∧ d.containerPath = "/naim/private"
    · simp only [if_pos hdefault]
      exact ⟨rfl,rfl⟩
    · simp [if_neg hdefault]

end StorageBlock

end Storage

section Blocks

variable (s : DesiredState) (i : InstanceSpec)

lemma inferBlock_service : ServiceBlock "naim/infer-runtime:dev" "/runtime/bin/naim-inferctl container-boot" i
    (inferBlock s i) := by constructor <;> simp [inferBlock]

lemma workerBlock_service : ServiceBlock "naim/worker-runtime:dev" "/runtime/bin/naim-workerd" i (workerBlock s i) := by
  constructor <;> simp [workerBlock,get?_placementFields]

lemma workerBlock_storage : (workerBlock s i).get? "storage" =
    projectServiceStorage (findDiskByName s i.privateDiskName) := by simp [workerBlock,get?_placementFields]

lemma workerBlock_volumes : (workerBlock s i).get? "volumes" = none := by
  simp [workerBlock,get?_placementFields]

lemma skillsBlock_service : ServiceBlock "naim/skills-runtime:dev" "/runtime/bin/naim-skillsd" i (skillsBlock s i) := by
  constructor <;> simp [skillsBlock]

lemma skillsBlock_storage : (skillsBlock s i).get? "storage" =
    projectServiceStorage (findDiskByName s i.privateDiskName) := by simp [skillsBlock]

lemma skillsBlock_volumes : (skillsBlock s i).get? "volumes" = none := by simp [skillsBlock]

lemma browsingBlock_service :
    ServiceBlock "naim/webgateway-runtime:dev" "/runtime/bin/naim-webgatewayd" i (browsingBlock s i) := by
  constructor <;> simp [browsingBlock]

lemma browsingBlock_storage : (browsingBlock s i).get? "storage" =
    projectServiceStorage (findDiskByName s i.privateDiskName) := by simp [browsingBlock]

end Blocks

def reloadedNode (n : NodeInventory) : NodeInventory :=
  {n with platform := (elide "" n.platform).getD "linux", gpuDevices := []}

def reloadedNodes (s : DesiredState) : List NodeInventory :=
  if shouldEmitTopology s then s.nodes.map reloadedNode else [mixedNode (Projector.defaultNodeName s)]

lemma renderNode_project (n : NodeInventory) : renderNode (projectNode n) = .ok (reloadedNode n) := by
  have hname : (projectNode n).atAs "name" = .ok n.name := by
    rw [atAs_eq_ok]
    exact ⟨toJson n.name,by simp [projectNode],by simp⟩
  have hmemory : (projectNode n).mapAs "gpu_memory_mb" = .ok n.gpuMemoryMb := by
    rw [mapAs,show (projectNode n).get? "gpu_memory_mb" = (elide [] n.gpuMemoryMb).map toJson by simp [projectNode],
      mapOf_map,getD_elide]
  rw [renderNode,hname,hmemory]
  simp [projectNode,ok_bind,reloadedNode]

lemma renderNodeTopology_project (hnodes : NodesReady s)
    (htarget : target = some ("node:" ++ Projector.defaultNodeName s)) :
    renderNodeTopology (project s) target = .ok (reloadedNodes s) := by
  have hread : (s.nodes.map projectNode).mapM renderNode = .ok (s.nodes.map reloadedNode) := by
    rw [mapM_eq_ok,forall₂_map_left_iff,forall₂_map_right_iff,forall₂_same]
    exact fun n _ => renderNode_project n
  have hempty : ([] : List Json).mapM renderNode = .ok [] := rfl
  have hnode : targetNode? target = some (Projector.defaultNodeName s) := by
    simp [htarget,targetNode?]
  rw [renderNodeTopology,objectAt,object?_topology,projectTopology,reloadedNodes]
  split
  · simp [arrayAt,hread,hnodes.nonempty]
  · simp [arrayAt,items,hempty,hnode]

lemma skills_enabled (hskills : SkillsReady s) :
    ((projectSkills s).getD (.obj [])).value "enabled" false = .ok (findInstance s .skills).isSome := by
  cases hi : findInstance s .skills with
  | none =>
    cases hk : s.skills with
    | none => simp [projectSkills,hi,hk,value]
    | some k => simp [projectSkills,hi,hk]
  | some i =>
    obtain ⟨k,hk⟩ := hskills.instances i hi
    simp [projectSkills,hi,hk,value_eq,(hskills.settings k hk).2.1]

lemma browsing_enabled (hbrowsing : BrowsingReady s) :
    ((projectBrowsing s).getD (.obj [])).value "enabled" false = .ok (findInstance s .browsing).isSome := by
  cases hi : findInstance s .browsing with
  | none =>
    cases hb : s.browsing with
    | none => simp [projectBrowsing,hi,hb,value]
    | some b => simp [projectBrowsing,hi,hb]
  | some i =>
    obtain ⟨⟨b,hb⟩,-⟩ := hbrowsing.instances i hi
    simp [projectBrowsing,hi,hb,value_eq,(hbrowsing.settings b hb).2.1]

lemma renderBrowsingSettings_project (hbrowsing : BrowsingReady s) :
    ∃ o, renderBrowsingSettings ((projectBrowsing s).getD (.obj [])) = .ok o := by
  rw [renderBrowsingSettings,browsing_enabled hbrowsing,ok_bind]
  refine mapOption_succeeds fun block hblock => ?_
  cases hi : findInstance s .browsing with
  | none => simp [hi] at hblock
  | some i =>
    obtain rfl : browsingBlock s i = block := by simpa [hi,projectBrowsing] using hblock
    obtain ⟨policy,hpolicy⟩ : ∃ policy,
        mapOption ((browsingBlock s i).object? "policy") renderBrowsingPolicy = .ok policy := by
      rw [object?_map (f := projectBrowsingPolicy) (o := s.browsing.bind (·.policy)) (by simp)
        (by simp [projectBrowsingPolicy])]
      refine mapOption_succeeds fun v hv => ?_
      obtain ⟨p,-,rfl⟩ := map_eq_some_iff.1 hv
      simp [renderBrowsingPolicy,projectBrowsingPolicy]
    rw [hpolicy]
    exact ⟨_,rfl⟩

lemma renderKnowledgeSettings_project (s : DesiredState) :
    ∃ o, renderKnowledgeSettings ((projectKnowledge s).getD (.obj [])) = .ok o := by
  unfold projectKnowledge
  cases hk : s.knowledge.filter (·.enabled) with
  | none => exact ⟨none,rfl⟩
  | some k =>
    have henabled := (filter_eq_some_iff.1 hk).2
    simp [renderKnowledgeSettings,henabled,mapOption,object?,projectContextPolicy,renderContextPolicy]

lemma renderPlacementTarget_project (hnodes : NodesReady s) :
    renderPlacementTarget (project s) = .ok (some ("node:" ++ Projector.defaultNodeName s)) := by
  obtain ⟨p,hp,hnode⟩ := object?_placement hnodes
  simp only [Validator.placementExecutionNodeName,bind_eq_ok,pure_eq_ok] at hnode
  obtain ⟨node,hexec,legacy,hlegacy,_,-,hnode⟩ := hnode
  have hne := defaultNodeName_ne_empty hnodes
  have hread : Renderer.placementExecutionNodeName p = .ok (Projector.defaultNodeName s) := by
    rw [Renderer.placementExecutionNodeName,hexec,ok_bind]
    split
    next h =>
      rw [if_pos h] at hnode
      exact congrArg _ (some.inj hnode)
    next h =>
      rw [if_neg h,ite_none_right_eq_some] at hnode
      rw [hlegacy,some.inj hnode.2]
  rw [renderPlacementTarget,hp]
  simp [hread,hne]

section

variable (s : DesiredState)

lemma renderPlacementAppHost_project : ∃ o, renderPlacementAppHost (project s) = .ok o := by
  have hplacement : (project s).objectAt "placement" = ofFields [
      field "execution_node" (projectExecutionNode s),field "app_host" (s.appHost.map projectAppHost)] := by
    rw [objectAt_eq (get?_placement s) fun v h => isObject_of_nonEmptyObject (isObject_ofFields _) h]
    exact getD_nonEmptyObject (isObject_ofFields _)
  rw [renderPlacementAppHost,hplacement]
  refine mapOption_succeeds fun v hv => ?_
  have hget := (object?_eq_some.1 hv).1
  obtain ⟨a,-,rfl⟩ : ∃ a, s.appHost = some a ∧ projectAppHost a = v := by simpa using hget
  simp [renderAppHost,projectAppHost]

lemma features_project : (storedSections s).features = ofFields [
    field "turboquant" (s.turboquant.map projectTurboquant),
    field "context_compression" (s.contextCompression.map projectContextCompression),
    field "voice_listener" (s.voiceListener.map (projectVoiceListener s)),
    field "voice_maker" (s.voiceMaker.map (projectVoiceMaker s)),
    field "secured_connection" (s.securedConnection.map projectSecuredConnection)] :=
  getD_nonEmptyObject (isObject_ofFields _)

lemma enabledFeature_project {β : Type} {r : Json → Checked β} {o : Option α} {w : α → Json} {b : α → Bool}
    (hget : f.get? k = o.map w) (hw : ∀ a, (w a).isObject = true ∧ (w a).value "enabled" false = .ok (b a))
    (hrender : ∀ a, ∃ c, r (w a) = .ok c) :
    ∃ o', enabledFeature f k r = .ok o' ∧ o'.isSome = o.any b := by
  rw [enabledFeature,object?_map hget fun a => (hw a).1]
  cases o with
  | none => exact ⟨none,rfl,rfl⟩
  | some a =>
    obtain ⟨c,hc⟩ := hrender a
    simp only [map_some,hw,ok_bind,any_some]
    cases b a with
    | false => exact ⟨none,rfl,rfl⟩
    | true => exact ⟨some c,by simp [mapOption,hc],rfl⟩

lemma renderVoiceModel_project (defaultName defaultMountPath defaultEnv name env : String) (m : AppModelMountSpec) :
    ∃ m', renderVoiceModel defaultName defaultMountPath defaultEnv (projectVoiceModel name env m) = .ok m' := by
  have hsource : (projectVoiceModel name env m).objectAt "source" = projectMountSource m := by
    simp [objectAt,object?,projectVoiceModel]
  obtain ⟨paths,hpaths⟩ : ∃ paths : List String, (projectMountSource m).arrayAs "paths" = .ok paths := by
    simp [projectMountSource,arrayAs]
  rw [renderVoiceModel]
  simp only [hsource,hpaths]
  simp [projectVoiceModel,projectMountSource]

lemma voiceListener_project : ∃ o,
    enabledFeature (storedSections s).features "voice_listener" renderVoiceListener = .ok o ∧
      o.isSome = s.voiceListener.any (·.enabled) := by
  refine enabledFeature_project (w := projectVoiceListener s) ?_ ?_ ?_
  · simp [features_project]
  · simp [projectVoiceListener]
  · intro v
    have hmodel : (projectVoiceListener s v).object? "model" =
        some (projectVoiceModel "whisper" "WHISPER_MODEL_PATH" v.model) := by
      simp [object?,projectVoiceListener,projectVoiceModel]
    obtain ⟨m,hm⟩ := renderVoiceModel_project "whisper" "/models/whisper/model.bin" "WHISPER_MODEL_PATH" "whisper"
      "WHISPER_MODEL_PATH" v.model
    rw [renderVoiceListener,hmodel]
    simp only [mapOption,hm]
    simp [projectVoiceListener]

lemma voiceMaker_project : ∃ o, enabledFeature (storedSections s).features "voice_maker" renderVoiceMaker = .ok o ∧
      o.isSome = s.voiceMaker.any (·.enabled) := by
  refine enabledFeature_project (w := projectVoiceMaker s) ?_ ?_ ?_
  · simp [features_project]
  · simp [projectVoiceMaker]
  · intro v
    have hmodel : (projectVoiceMaker s v).object? "model" =
        some (projectVoiceModel "omnivoice" "OMNIVOICE_MODEL_PATH" v.model) := by
      simp [object?,projectVoiceMaker,projectVoiceModel]
    obtain ⟨m,hm⟩ := renderVoiceModel_project "omnivoice" "/models/omnivoice" "OMNIVOICE_MODEL_PATH" "omnivoice"
      "OMNIVOICE_MODEL_PATH" v.model
    rw [renderVoiceMaker,hmodel]
    simp only [mapOption,hm]
    simp [projectVoiceMaker]

lemma turboquant_project : ∃ o, enabledFeature (storedSections s).features "turboquant" renderTurboquant = .ok o ∧
      o.isSome = s.turboquant.any (·.enabled) := by
  refine enabledFeature_project (w := projectTurboquant) ?_ ?_ ?_
  · simp [features_project]
  · simp [projectTurboquant]
  · simp [renderTurboquant,projectTurboquant]

lemma contextCompression_project : ∃ o,
    enabledFeature (storedSections s).features "context_compression" renderContextCompression = .ok o ∧
      o.isSome = s.contextCompression.any (·.enabled) := by
  refine enabledFeature_project (w := projectContextCompression) ?_ ?_ ?_
  · simp [features_project]
  · simp [projectContextCompression]
  · simp [renderContextCompression,projectContextCompression]

lemma securedConnection_project : ∃ o,
    enabledFeature (storedSections s).features "secured_connection" renderSecuredConnection = .ok o ∧
      o.isSome = s.securedConnection.any (·.enabled) := by
  refine enabledFeature_project (w := projectSecuredConnection) ?_ ?_ ?_
  · simp [features_project]
  · simp [projectSecuredConnection]
  · intro c
    have hget : (projectSecuredConnection c).get? "user_ids" = (some c.userIds).map toJson := by
      simp [projectSecuredConnection]
    have hids : (projectSecuredConnection c).arrayAs "user_ids" = .ok c.userIds := by
      rw [arrayAs,hget,arrayOf_map,getD_some]
    rw [renderSecuredConnection,hids]
    exact ⟨_,rfl⟩

lemma renderHooks_project : ∃ o, renderHooks (project s) = .ok o := by
  rw [renderHooks,objectAt,object?_map (get?_hooks s) (by simp)]
  cases nonEmpty s.postDeployScript with
  | none => exact ⟨none,rfl⟩
  | some script => exact ⟨_,rfl⟩

lemma renderModelSource_project (m : BootstrapModelSpec) : ∃ m', renderModelSource (projectModelSource m) = .ok m' := by
  obtain ⟨urls,hurls⟩ : ∃ urls : List String, (projectModelSource m).arrayAs "urls" = .ok urls := by
    simp [arrayAs,projectModelSource]
  have htype : (projectModelSource m).value "type" "" = .ok (preferredModelSourceType m) := by
    simp [projectModelSource]
  have href : ∀ default : String, ∃ ref, (projectModelSource m).value "ref" default = .ok ref := by
    simp [projectModelSource]
  obtain ⟨path,hpath⟩ : ∃ path, (projectModelSource m).value "path" "" = .ok path := by
    simp [projectModelSource]
  obtain ⟨ref,href₀⟩ := href ""
  obtain ⟨ref',href₁⟩ := href path
  rw [renderModelSource,htype,ok_bind]
  split
  · simp [href₀]
  · split
    · simp [hpath,href₁]
    · split
      · simp [href₀,hurls]
      · exact ⟨_,rfl⟩

lemma renderMaterialization_project (m base : BootstrapModelSpec) :
    ∃ m', renderMaterialization base (projectMaterialization m) = .ok m' := by
  obtain ⟨paths,hpaths⟩ : ∃ paths : List String, (projectMaterialization m).arrayAs "source_paths" = .ok paths := by
    simp [arrayAs,projectMaterialization]
  have hmode : ∀ default, (projectMaterialization m).value "mode" default = .ok m.materializationMode := by
    simp [projectMaterialization]
  obtain ⟨keep,hkeep⟩ : ∃ keep, (projectMaterialization m).value "keep_source" base.keepSource = .ok keep := by
    simp [projectMaterialization]
  rw [renderMaterialization]
  simp only [hmode,hpaths,hkeep,ok_bind]
  split
  · exact ⟨_,rfl⟩
  next writeback hwriteback =>
    have hget := (object?_eq_some.1 hwriteback).1
    obtain ⟨-,rfl⟩ : m.writebackEnabled = true ∧ projectWriteback m = writeback := by
      simpa [projectMaterialization] using hget
    simp [renderWriteback,projectWriteback]

lemma renderModel_project : ∃ o, renderModel (project s) = .ok o := by
  refine mapOption_succeeds fun v hv => ?_
  have hget := (object?_eq_some.1 hv).1
  rw [get?_model] at hget
  obtain ⟨m,-,rfl⟩ := map_eq_some_iff.1 hget
  have hsource : (projectModel m).object? "source" = some (projectModelSource m) := by
    simp [object?,projectModel,projectModelSource]
  have hmaterialization : (projectModel m).object? "materialization" = some (projectMaterialization m) := by
    simp [object?,projectModel,projectMaterialization]
  obtain ⟨m₀,hm₀⟩ := renderModelSource_project m
  obtain ⟨m₁,hm₁⟩ := renderMaterialization_project m m₀
  rw [renderModelObject,hsource,hmaterialization]
  simp only [mapOption,hm₀,map_ok,ok_bind,getD_some,hm₁]
  simp [projectModel]

lemma renderInteraction_project : ∃ o, renderInteraction (project s) = .ok o := by
  refine mapOption_succeeds fun v hv => ?_
  have hget := (object?_eq_some.1 hv).1
  rw [get?_interaction] at hget
  obtain ⟨i,-,rfl⟩ := map_eq_some_iff.1 hget
  rw [renderInteractionObject,StateJsonSettingsCodecs.interactionSettingsFromJson_toJson]
  exact ⟨_,rfl⟩

end

lemma renderRuntime_project (hbackend : s.inference.distributedBackend ≠ "") :
    ∃ runtime, renderRuntime (project s) = .ok runtime ∧
    runtime.1.runtimeEngine = s.inference.runtimeEngine ∧
      runtime.1.distributedBackend = s.inference.distributedBackend := by
  have hruntime : (project s).member "runtime" = .ok (projectRuntime s) := member_eq_ok.2 (get?_runtime s)
  have hnetwork : (project s).objectAt "network" = projectNetwork s := by
    rw [objectAt_eq (get?_network s) (by simp [projectNetwork]),getD_some]
  obtain ⟨runtime,hrender⟩ : ∃ runtime, renderRuntime (project s) = .ok runtime := by
    rw [renderRuntime,hruntime,hnetwork]
    cases heager : s.inference.enforceEager <;>
      simp [projectRuntime,projectNetwork,Validator.distributedBackendOf,renderGateway,heager]
  obtain ⟨block,engine,backend,hblock,hengine,hbackend',h₁,h₂⟩ := renderRuntime_spec hrender
  obtain rfl : projectRuntime s = block := by simpa using hblock
  have hvalue : s.inference.runtimeEngine = engine := by simpa [value_eq] using hengine
  have hvalue' : s.inference.distributedBackend = backend := by
    simpa [Validator.distributedBackendOf,value_eq] using hbackend'
  refine ⟨runtime,hrender,h₁.trans hvalue.symm,?_⟩
  rw [h₂,← hvalue',orElse,if_neg hbackend]

/-- What the settings of a reloaded plane keep of the stored ones. -/
structure Reloaded (s t : DesiredState) : Prop where
  planeName : t.planeName = s.planeName
  planeMode : t.planeMode = s.planeMode
  runtimeEngine : t.inference.runtimeEngine = s.inference.runtimeEngine
  distributedBackend : t.inference.distributedBackend = s.inference.distributedBackend
  nodes : t.nodes = reloadedNodes s
  planeSharedDiskName : t.planeSharedDiskName = "plane-" ++ s.planeName ++ "-shared"
  placementTarget : t.placementTarget = some ("node:" ++ Projector.defaultNodeName s)
  voiceListener : (t.voiceListener.filter (·.enabled)).isSome = s.voiceListener.any (·.enabled)
  voiceMaker : (t.voiceMaker.filter (·.enabled)).isSome = s.voiceMaker.any (·.enabled)

lemma feature_on {r : Json → Checked α} {o : Option α} {b : α → Bool} (h : enabledFeature f k r = .ok o)
    (hon : ∀ j a, r j = .ok a → b a = true) : o.filter b = o := by
  cases o with
  | none => rfl
  | some a =>
    obtain ⟨block,-,-,ha⟩ := enabledFeature_spec h
    simp [Option.filter,hon block a ha]

lemma renderVoiceListener_enabled {v : VoiceListenerFeatureSpec} (h : renderVoiceListener voice = .ok v) :
    v.enabled = true := by
  simp only [renderVoiceListener,bind_eq_ok,pure_eq_ok] at h
  obtain ⟨phrase,-,language,-,model,-,rfl⟩ := h
  rfl

lemma renderVoiceMaker_enabled {v : VoiceMakerFeatureSpec} (h : renderVoiceMaker voice = .ok v) :
    v.enabled = true := by
  simp only [renderVoiceMaker,bind_eq_ok,pure_eq_ok] at h
  obtain ⟨language,-,mode,-,instruct,-,format,-,model,-,rfl⟩ := h
  rfl

lemma renderSettings_project (hs : Settled s) (hbackend : s.inference.distributedBackend ≠ "") :
    ∃ t, renderSettings (storedSections s) = .ok t ∧ Reloaded s t := by
  have hname : (project s).atAs "plane_name" = .ok s.planeName := by
    rw [atAs_eq_ok]
    exact ⟨_,get?_planeName s,by simp⟩
  obtain ⟨protectedPlane,hprotected⟩ : ∃ b, (project s).value "protected" false = .ok b := by
    rw [value_eq (isObject_project s),get?_protected,readOr_map]
    exact ⟨_,rfl⟩
  obtain ⟨skills,hskills⟩ : ∃ o, renderSkillsSettings ((projectSkills s).getD (.obj [])) = .ok o := by
    rw [renderSkillsSettings,skills_enabled hs.skills]
    exact ⟨_,rfl⟩
  obtain ⟨browsing,hbrowsing⟩ := renderBrowsingSettings_project hs.browsing
  obtain ⟨knowledge,hknowledge⟩ := renderKnowledgeSettings_project s
  obtain ⟨appHost,happHost⟩ := renderPlacementAppHost_project s
  obtain ⟨turboquant,hturbo,-⟩ := turboquant_project s
  obtain ⟨compression,hcompression,-⟩ := contextCompression_project s
  obtain ⟨listener,hlistener,hon⟩ := voiceListener_project s
  obtain ⟨maker,hmaker,hon'⟩ := voiceMaker_project s
  obtain ⟨secured,hsecured,-⟩ := securedConnection_project s
  obtain ⟨script,hscript⟩ := renderHooks_project s
  obtain ⟨model,hmodel⟩ := renderModel_project s
  obtain ⟨interaction,hinteraction⟩ := renderInteraction_project s
  obtain ⟨runtime,hruntime,hengine,hrpc⟩ := renderRuntime_project hbackend
  have htarget := renderPlacementTarget_project hs.nodes
  have hnodes := renderNodeTopology_project hs.nodes rfl
  simp only [renderSettings,bind_eq_ok,pure_eq_ok]
  refine ⟨_,⟨_,hname,_,planeModeOf_project,_,parsePlaneMode_text _,_,hprotected,_,hskills,_,hbrowsing,_,
    hknowledge,_,htarget,_,happHost,_,hturbo,_,hcompression,_,hlistener,_,hmaker,_,hsecured,_,hscript,_,hmodel,_,
    hinteraction,_,hruntime,_,hnodes,rfl⟩,⟨rfl,rfl,hengine,hrpc,rfl,rfl,rfl,?_,?_⟩⟩
  · rw [feature_on hlistener fun _ _ => renderVoiceListener_enabled,hon]
  · rw [feature_on hmaker fun _ _ => renderVoiceMaker_enabled,hon']

end Naim.Storage
