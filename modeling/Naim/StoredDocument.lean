import Naim.DesiredStateV2Renderer
import Naim.DesiredStateV2Projector

/-!
# Which desired states can be stored

The validator on the document that the projector writes. The settings of a
rendered state always pass; what can fail is where its instances sit, how many
there are and how they share devices.
-/

namespace Naim.Storage

open Checked Json Validator Projector Int32
open List hiding contains
open Renderer hiding defaultNodeName inferReplicaCount

variable {s : DesiredState} {n a b : ℕ}

section Lookups

variable (s : DesiredState)

@[simp] lemma isObject_project : (project s).isObject = true := by simp [project]

@[simp] lemma get?_planeName : (project s).get? "plane_name" = some (toJson s.planeName) := by simp [project]

@[simp] lemma get?_protected :
    (project s).get? "protected" = (elide false (isProtected s)).map toJson := by simp [project]

@[simp] lemma get?_placement : (project s).get? "placement" = projectPlacement s := by simp [project]

@[simp] lemma get?_features : (project s).get? "features" = projectFeatures s := by simp [project]

@[simp] lemma get?_hooks : (project s).get? "hooks" = projectHooks s := by simp [project]

@[simp] lemma get?_model : (project s).get? "model" = s.bootstrapModel.map projectModel := by simp [project]

@[simp] lemma get?_topology : (project s).get? "topology" = projectTopology s := by simp [project]

@[simp] lemma get?_interaction : (project s).get? "interaction" =
    s.interaction.map StateJsonSettingsCodecs.interactionSettingsToJson := by simp [project]

@[simp] lemma get?_runtime : (project s).get? "runtime" = some (projectRuntime s) := by simp [project]

@[simp] lemma get?_network : (project s).get? "network" = some (projectNetwork s) := by simp [project]

@[simp] lemma get?_infer : (project s).get? "infer" = projectInfer s := by simp [project]

@[simp] lemma get?_worker : (project s).get? "worker" = projectWorker s := by simp [project]

@[simp] lemma get?_app : (project s).get? "app" = projectApp s := by simp [project]

@[simp] lemma get?_apps : (project s).get? "apps" = projectAppList s := by simp [project]

@[simp] lemma get?_skills : (project s).get? "skills" = projectSkills s := by simp [project]

@[simp] lemma get?_webgateway : (project s).get? "webgateway" = projectBrowsing s := by simp [project]

@[simp] lemma get?_knowledge : (project s).get? "knowledge" = projectKnowledge s := by simp [project]

@[simp] lemma get?_resources : (project s).get? "resources" = some (projectResources s) := by simp [project]

@[simp] lemma get?_rest : (project s).get? "version" = some (toJson (2 : Int32)) ∧
    (project s).get? "plane_mode" = some (toJson s.planeMode.text) ∧ (project s).get? "browsing" = none := by
  simp [project]

end Lookups

section Runtime

variable (s : DesiredState)

@[simp] lemma isObject_projectRuntime : (projectRuntime s).isObject = true := by simp [projectRuntime]

@[simp] lemma get?_backend : (projectRuntime s).get? "engine" = some (toJson s.inference.runtimeEngine) ∧
    (projectRuntime s).get? "distributed_backend" = some (toJson s.inference.distributedBackend) := by
  simp [projectRuntime]

@[simp] lemma get?_workers : (projectRuntime s).get? "workers" =
    some (toJson (max 1 (Int32.ofNat (findInstances s .worker).length))) := by simp [projectRuntime]

end Runtime

@[simp] lemma planeModeOf_project : planeModeOf (project s) = .ok s.planeMode.text := by
  simp [planeModeOf,value_eq]

@[simp] lemma text_eq_llm (m : PlaneMode) : m.text = "llm" ↔ m = .llm := by cases m <;> decide

lemma validateHooks_project : validateHooks (project s) = .ok () := by
  unfold validateHooks wrongType
  rw [get?_hooks,projectHooks]
  cases nonEmpty s.postDeployScript <;> simp

lemma max_one_pos (n : Int32) : 0 < max 1 n := by
  show 0 < if 1 ≤ n then n else 1
  split
  next h => exact Int32.lt_of_lt_of_le (by decide) h
  · decide

lemma max_one_ofNat (h : n < 2^31) : max 1 (Int32.ofNat n) = Int32.ofNat (max 1 n) := by
  show (if 1 ≤ Int32.ofNat n then Int32.ofNat n else 1) = _
  have hle : 1 ≤ Int32.ofNat n ↔ 1 ≤ n := by
    rw [le_iff_toInt_le,toInt_ofNat_of_lt h,toInt_one]
    omega
  simp only [hle]
  split
  · rw [max_eq_right (by omega)]
  · rw [max_eq_left (by omega)]
    rfl

/-- A language model is served by the workers of llama.cpp. -/
def LlmServed (s : DesiredState) : Prop :=
  s.planeMode = .llm → s.inference.runtimeEngine = "llama.cpp" ∧ s.inference.distributedBackend = "llama_rpc"

lemma validateRuntime_project (hengine : s.inference.runtimeEngine ≠ "") (hllm : LlmServed s) :
    validateRuntime (project s) = .ok () := by
  simp [validateRuntime,projectRuntime,distributedBackendOf,value_eq,contains]
  exact ⟨hengine,max_one_pos _,fun h => (hllm h).1,fun h => (hllm h).2⟩

structure ModelReady (m : BootstrapModelSpec) : Prop where
  url : m.sourceUrl.isSome ∨ m.sourceUrls ≠ [] → isText m.sourceUrl = true ∨ m.sourceUrls ≠ []
  prepared : m.materializationMode = "prepare_on_worker" →
    m.sourceUrl = none ∧ m.sourceUrls = [] ∧ isText m.sourceNodeName = true ∧ m.sourcePaths ≠ []

structure StorableModel (m : BootstrapModelSpec) : Prop where
  reference : m.materializationMode = "reference" → isText m.localPath = true
  named : m.sourceUrl = none → m.sourceUrls = [] → m.materializationMode ≠ "reference" → m.modelId ≠ ""

@[simp] lemma getD_nonEmpty (o : Option String) : (nonEmpty o).getD "" = "" ↔ isText o = false := by
  cases o with
  | none => simp [nonEmpty,isText]
  | some x => by_cases hx : x = "" <;> simp [nonEmpty,isText,Option.filter,hx]

@[simp] lemma any_not_isObject_ite (c : Prop) [Decidable c] (fields : List (String × Option Json)) :
    (if c then some (ofFields fields) else none).any (fun v => !v.isObject) = false := by split <;> simp

lemma validateModelObject_project (hm : ModelReady m) (hllm : mode = "llm" → isText m.servedModelName = true) :
    validateModelObject mode (projectModel m) = .ok () ↔ StorableModel m := by
  simp [validateModelObject,projectModel,validateModelSource,projectModelSource,validateMaterialization,
    projectMaterialization,object?,arrayAt,projectWriteback]
  -- the kind of the stored source decides which of the checks matter
  by_cases hurl : m.sourceUrl.isSome ∨ m.sourceUrls ≠ []
  · have htype : preferredModelSourceType m = "url" := if_pos hurl
    have hnot : ¬(m.sourceUrl = none ∧ m.sourceUrls = []) := by
      rintro ⟨h₁,h₂⟩
      simp [h₁,h₂] at hurl
    simp [htype]
    constructor
    · rintro ⟨-,-,href,-⟩
      exact ⟨href,fun h₁ h₂ _ => (hnot ⟨h₁,h₂⟩).elim⟩
    · intro h
      refine ⟨fun h₁ => (hm.url hurl).resolve_left (by simp [h₁]),hllm,h.reference,fun h₁ => hnot ?_⟩
      exact ⟨(hm.prepared h₁).1,(hm.prepared h₁).2.1⟩
  · have hnone : m.sourceUrl = none ∧ m.sourceUrls = [] := by simpa using hurl
    by_cases href : m.materializationMode = "reference"
    · by_cases hlocal : m.localPath.isSome
      · have htype : preferredModelSourceType m = "local" := by simp [preferredModelSourceType,hnone,href,hlocal]
        simp [htype,href]
        constructor
        · rintro ⟨-,-,htext⟩
          refine ⟨fun _ => ?_,fun _ _ h => (h href).elim⟩
          by_contra hfalse
          exact hfalse (htext (by simpa using hfalse))
        · intro h
          have htext := h.reference href
          exact ⟨by simp [htext],hllm,fun _ => htext⟩
      · have htype : preferredModelSourceType m = "huggingface" := by
          simp [preferredModelSourceType,hnone,href,hlocal]
        have htext : isText m.localPath = false := by simp_all [isText]
        simp only [htype,href,htext]
        simp
        intro h
        simpa [htext] using h.reference href
    · have hiff : StorableModel m ↔ m.modelId ≠ "" :=
        ⟨fun h => h.named hnone.1 hnone.2 href,fun h => ⟨fun h₁ => (href h₁).elim,fun _ _ _ => h⟩⟩
      rw [hiff]
      by_cases hprepared : m.materializationMode = "prepare_on_worker"
      · have htype : preferredModelSourceType m = "library" := by
          simp [preferredModelSourceType,hnone,hprepared]
        simp [htype,hprepared,hm.prepared hprepared]
        exact fun _ => hllm
      · have htype : preferredModelSourceType m = "huggingface" := by
          simp [preferredModelSourceType,hnone,href,hprepared]
        simp [htype,href,hprepared]
        exact fun _ => hllm

lemma validateModel_project (hm : ∀ m, s.bootstrapModel = some m → ModelReady m)
    (hllm : s.planeMode = .llm → ∃ m, s.bootstrapModel = some m ∧ isText m.servedModelName = true) :
    validateModel (project s) = .ok () ↔ ∀ m, s.bootstrapModel = some m → StorableModel m := by
  unfold validateModel
  cases hmodel : s.bootstrapModel with
  | none =>
    have hmode : s.planeMode ≠ .llm := by
      intro h
      obtain ⟨m,h₁,-⟩ := hllm h
      simp [hmodel] at h₁
    simp [hmodel,hmode]
  | some m =>
    have hserved : s.planeMode.text = "llm" → isText m.servedModelName = true := by
      intro h
      obtain ⟨m',h₁,h₂⟩ := hllm (text_eq_llm _ |>.1 h)
      rw [hmodel,Option.some.injEq] at h₁
      exact h₁ ▸ h₂
    simp [hmodel,validateModelObject_project (hm m hmodel) hserved]

def DistinctTexts (xs : List String) : Prop := (∀ x ∈ xs, x ≠ "") ∧ xs.Nodup

variable {fieldName node serviceName role item written validated defaultName defaultCommand : String}
  {m : AppModelMountSpec} {service j : Json} {i first : InstanceSpec}

lemma validateUniqueStrings_toJson (h : DistinctTexts xs) :
    validateUniqueStrings fieldName item (xs.map toJson) [] = .ok xs.reverse :=
  validateUniqueStrings_eq_ok.2 ⟨xs,by simp [Function.comp_def],fun x hx => ⟨h.1 x hx,by simp⟩,h.2,by simp⟩

structure KnowledgeReady (k : KnowledgeSettings) : Prop where
  selectionMode : k.selectionMode = "latest"
  maxGraphDepth : 0 ≤ k.contextPolicy.maxGraphDepth ∧ k.contextPolicy.maxGraphDepth ≤ 2
  tokenBudget : 0 < k.contextPolicy.tokenBudget

structure MountReady (m : AppModelMountSpec) : Prop where
  sourcePath : isAbsolutePath m.sourcePath = true
  sourcePaths : ∀ p ∈ m.sourcePaths, isAbsolutePath p = true
  mountPath : isAbsolutePath m.mountPath = true
  envVar : m.envVar ≠ "" → isValidEnvName m.envVar = true

@[simp] lemma isObject_projectMountSource (m : AppModelMountSpec) : (projectMountSource m).isObject = true := by
  simp [projectMountSource]

lemma validateLibrarySource_project (hm : MountReady m) :
    validateLibrarySource fieldName (projectMountSource m) = .ok () := by
  simp [validateLibrarySource,projectMountSource,arrayAt,isAbsolutePathItem,Option.any_map,
    hm.sourcePath]
  split
  · simp
  · exact hm.sourcePaths

lemma validateVoiceModel_project (hm : MountReady m) (hwritten : isValidEnvName written = true) :
    validateVoiceModel fieldName validated (projectVoiceModel defaultName written m) = .ok () := by
  simp [validateVoiceModel,projectVoiceModel,validateModelEnv,object?,hm.mountPath,
    validateLibrarySource_project hm]
  split
  · exact fun _ => hwritten
  · exact hm.envVar

lemma get?_image_voiceInstanceFields (o : Option InstanceSpec) (command env : String) :
    (ofFields ((o.map fun i => voiceInstanceFields s i command env).getD [])).get? "image" = none := by
  cases o <;> simp [voiceInstanceFields]

/-- What the validator asks of the features of a plane; the renderer keeps only enabled ones. -/
structure FeaturesReady (s : DesiredState) : Prop where
  knowledge : ∀ k, s.knowledge = some k → s.planeMode = .llm ∧ KnowledgeReady k
  turboquant : ∀ t, s.turboquant = some t → s.planeMode = .llm ∧
    isSupportedTurboQuantCacheType (t.cacheTypeK.getD "turbo4") = true ∧
    isSupportedTurboQuantCacheType (t.cacheTypeV.getD "turbo4") = true
  contextCompression : ∀ c, s.contextCompression = some c → s.planeMode = .llm ∧
    c.mode = "auto" ∧ c.target = "dialog_and_knowledge" ∧ c.memoryPriority = "balanced"
  voiceListener : ∀ v, s.voiceListener = some v → s.planeMode = .llm ∧ v.wakePhrase ≠ "" ∧ MountReady v.model
  voiceMaker : ∀ v, s.voiceMaker = some v → s.planeMode = .llm ∧ MountReady v.model
  securedConnection : ∀ c, s.securedConnection = some c → DistinctTexts c.userIds ∧ c.userIds ≠ []

lemma validateFeatures_project (h : FeaturesReady s) (hllm : LlmServed s) :
    validateFeatures (project s) = .ok () := by
  have hknowledge : onSome (projectKnowledge s) (validateKnowledge (project s)) = .ok () := by
    cases hk : s.knowledge with
    | none => simp [projectKnowledge,hk]
    | some k =>
      obtain ⟨hmode,hready⟩ := h.knowledge k hk
      simp [projectKnowledge,hk,validateKnowledge,validateContextPolicy,projectContextPolicy,arrayAt,
        hmode,hready.selectionMode,hready.maxGraphDepth,hready.tokenBudget]
  have hfeatures : onSome (projectFeatures s) (validateFeatureBlocks (project s)) = .ok () := by
    simp only [onSome_eq_ok,projectFeatures,nonEmptyObject,Option.ite_none_left_eq_some,Option.some.injEq]
    rintro _ ⟨-,rfl⟩
    simp [validateFeatureBlocks]
    refine ⟨fun v hv => ?_,fun t ht => ?_,fun c hc => ?_,fun c hc => ?_,fun v hv => ?_⟩
    · obtain ⟨hmode,hwake,hm⟩ := h.voiceListener v hv
      simp [validateVoiceListener,projectVoiceListener,contains,get?_image_voiceInstanceFields,
        Option.any_map,hmode,hwake]
      exact validateVoiceModel_project hm (by decide)
    · obtain ⟨hmode,hk,hv⟩ := h.turboquant t ht
      simp [validateTurboquant,projectTurboquant,distributedBackendOf,projectRuntime,isStringOrNull,
        Option.any_map,hmode,hllm hmode,hk,hv]
    · obtain ⟨hmode,hc⟩ := h.contextCompression c hc
      simp [validateContextCompression,projectContextCompression,isStringOrNull,hmode,hc]
    · obtain ⟨hids,hne⟩ := h.securedConnection c hc
      simp [validateSecuredConnection,projectSecuredConnection,arrayAt,
        validateUniqueStrings_toJson hids,hne]
    · obtain ⟨hmode,hm⟩ := h.voiceMaker v hv
      simp [validateVoiceMaker,projectVoiceMaker,contains,get?_image_voiceInstanceFields,
        Option.any_map,hmode]
      exact validateVoiceModel_project hm (by decide)
  rw [validateFeatures,get?_knowledge,get?_features,hknowledge,hfeatures]
  rfl

structure AppHostReady (h : ExternalAppHostConfig) : Prop where
  address : h.address ≠ ""
  credentials : isText h.sshKeyPath = true ∧ isText h.username = false ∧ isText h.password = false ∨
    isText h.sshKeyPath = false ∧ isText h.username = true ∧ isText h.password = true

@[simp] lemma any_nonEmpty (o : Option String) : (nonEmpty o).any (fun x => !decide (x = "")) = isText o := by
  cases o with
  | none => rfl
  | some x => by_cases hx : x = "" <;> simp [nonEmpty,isText,Option.filter,hx]

/-- The nodes of a plane are named and distinct; a target names a node. -/
structure NodesReady (s : DesiredState) : Prop where
  target : ∀ t, s.placementTarget = some t → ∃ node, t = "node:" ++ node ∧ node ≠ ""
  nonempty : s.nodes ≠ []
  named : ∀ n ∈ s.nodes, n.name ≠ ""
  nodup : (s.nodes.map (·.name)).Nodup

lemma prefix_append_text (a b : String) : a.toList <+: (a ++ b).toList := by
  rw [String.toList_append]
  exact prefix_append _ _

lemma nodeTarget_drop (node : String) : String.ofList (("node:" ++ node).toList.drop 5) = node := by
  rw [String.toList_append,show (5 : ℕ) = "node:".toList.length by decide,drop_left,String.ofList_toList]

lemma executionNodeName_of_target (h : s.placementTarget = some ("node:" ++ node)) (hnode : node ≠ "") :
    executionNodeName s = some node := by
  have hne : "node:" ++ node ≠ "node:" := by simpa using hnode
  simp only [executionNodeName,h]
  rw [if_pos ⟨prefix_append_text _ node,hne⟩,nodeTarget_drop]

lemma defaultNodeName_cases (hnodes : NodesReady s) :
    (∃ node, s.placementTarget = some ("node:" ++ node) ∧ node ≠ "" ∧ executionNodeName s = some node ∧
      defaultNodeName s = node) ∨
    s.placementTarget = none ∧ executionNodeName s = none ∧
      ∃ n nodes, s.nodes = n::nodes ∧ defaultNodeName s = n.name := by
  cases htarget : s.placementTarget with
  | none =>
    right
    have hexec : executionNodeName s = none := by simp [executionNodeName,htarget]
    obtain ⟨n,nodes,hcons⟩ := exists_cons_of_ne_nil hnodes.nonempty
    exact ⟨rfl,hexec,n,nodes,hcons,by simp [defaultNodeName,hexec,hcons]⟩
  | some t =>
    left
    obtain ⟨node,rfl,hnode⟩ := hnodes.target t htarget
    have hexec := executionNodeName_of_target htarget hnode
    exact ⟨node,rfl,hnode,hexec,by simp [defaultNodeName,hexec]⟩

lemma defaultNodeName_ne_empty (hnodes : NodesReady s) : defaultNodeName s ≠ "" := by
  rcases defaultNodeName_cases hnodes with ⟨node,-,hnode,-,h⟩ | ⟨-,-,n,nodes,hcons,h⟩
  · exact h ▸ hnode
  · exact h ▸ hnodes.named n (by simp [hcons])

lemma projectExecutionNode_eq (hnodes : NodesReady s) :
    projectExecutionNode s = some (defaultNodeName s) := by
  rcases defaultNodeName_cases hnodes with ⟨node,htarget,-,-,h⟩ | ⟨htarget,-,n,nodes,hcons,h⟩
  · have hne : "node:" ++ node ≠ "" := by simp
    have hsome : nonEmpty s.placementTarget = some ("node:" ++ node) := by
      simp only [htarget,nonEmpty,Option.filter,decide_eq_true hne,if_true]
    simp only [projectExecutionNode,hsome,h]
    rw [if_pos (prefix_append_text _ node),nodeTarget_drop]
  · simp [projectExecutionNode,htarget,hcons,nonEmpty]

lemma validatePlacement_project (hnodes : NodesReady s) (ha : ∀ a, s.appHost = some a → AppHostReady a) :
    validatePlacement (project s) = .ok () := by
  simp only [validatePlacement,get?_placement,onSome_eq_ok,projectPlacement,nonEmptyObject,
    Option.ite_none_left_eq_some,Option.some.injEq]
  rintro _ ⟨-,rfl⟩
  simp [Validator.placementExecutionNodeName,projectExecutionNode_eq hnodes,
    defaultNodeName_ne_empty hnodes]
  intro a h
  simp [validateAppHost,projectAppHost,hasText,string?,(ha a h).address]
  rcases (ha a h).credentials with ⟨h₁,h₂,h₃⟩ | ⟨h₁,h₂,h₃⟩ <;> simp [h₁,h₂,h₃]

lemma validateTopology_project (hnodes : NodesReady s) : validateTopology (project s) = .ok () := by
  simp [validateTopology,projectTopology,contains,arrayAt]
  intro _
  refine ⟨hnodes.nonempty,validateTopologyNodes_eq_ok.2 ⟨s.nodes.map (·.name),?_,?_,hnodes.nodup⟩⟩
  · rw [forall₂_map_left_iff,forall₂_map_right_iff,forall₂_same]
    intro n _
    simp [projectNode]
  · simpa using hnodes.named

def storedMode (s : DesiredState) (node : String) : Option HostExecutionMode :=
  if shouldEmitTopology s then (s.nodes.find? (·.name = node)).map (·.executionMode)
  else if node = defaultNodeName s then some .mixed else none

lemma object?_placement (hnodes : NodesReady s) :
    ∃ p, (project s).object? "placement" = some p ∧
      Validator.placementExecutionNodeName p = .ok (some (defaultNodeName s)) := by
  refine ⟨ofFields [field "execution_node" (projectExecutionNode s),field "app_host" (s.appHost.map projectAppHost)],
    ?_,?_⟩
  · have hnode : (ofFields [field "execution_node" (projectExecutionNode s),
        field "app_host" (s.appHost.map projectAppHost)]).get? "execution_node" =
        some (toJson (defaultNodeName s)) := by
      simp [projectExecutionNode_eq hnodes]
    rw [object?,get?_placement,projectPlacement,nonEmptyObject,isEmpty_of_get? hnode]
    simp
  · simp [Validator.placementExecutionNodeName,projectExecutionNode_eq hnodes,
      defaultNodeName_ne_empty hnodes]

lemma object?_topology : (project s).object? "topology" = projectTopology s := by
  rw [object?,get?_topology,projectTopology]
  split <;> simp

@[simp] lemma legacyTopologyPlacementEnabled_project :
    legacyTopologyPlacementEnabled (project s) = shouldEmitTopology s := by
  rw [legacyTopologyPlacementEnabled,object?_topology,projectTopology]
  split <;> simp_all

lemma listedMode_project (nodes : List NodeInventory) (node : String) :
    listedMode node (nodes.map projectNode) = .ok ((nodes.find? (·.name = node)).map (·.executionMode.text)) := by
  induction nodes with
  | nil => rfl
  | cons n nodes ih =>
    by_cases hn : n.name = node
    · simp [listedMode,projectNode,hn]
    · simpa [listedMode,projectNode,hn] using ih

lemma knownNodeExecutionMode_project (hnodes : NodesReady s) (node : String) :
    knownNodeExecutionMode (project s) node = .ok ((storedMode s node).map (·.text)) := by
  obtain ⟨p,hp,hexec⟩ := object?_placement hnodes
  have hplacement : placementMode (project s) node =
      .ok (if defaultNodeName s = node then some "mixed" else none) := by
    simp [placementMode,hp,hexec]
  unfold knownNodeExecutionMode storedMode
  rw [object?_topology,projectTopology]
  by_cases htopo : shouldEmitTopology s = true
  · simp [htopo,arrayAt,listedMode_project,hplacement]
    by_cases hmem : ∃ n ∈ s.nodes, n.name = node
    · rw [if_pos hmem]
      rfl
    · have hnone : s.nodes.find? (fun n => decide (n.name = node)) = none := by simpa using hmem
      have hdefault : defaultNodeName s ≠ node := by
        rintro rfl
        rcases defaultNodeName_cases hnodes with ⟨node,-,-,hexec,-⟩ | ⟨-,-,n,nodes,hcons,h⟩
        · simp [shouldEmitTopology,hexec] at htopo
        · exact hmem ⟨n,by simp [hcons],h.symm⟩
      simp [hmem,hdefault,hnone]
  · simp [htopo,hplacement,eq_comm,HostExecutionMode.text]

@[simp] lemma text_eq_workerOnly (m : HostExecutionMode) : m.text = "worker-only" ↔ m = .workerOnly := by
  cases m <;> decide

@[simp] lemma text_eq_inferOnly (m : HostExecutionMode) : m.text = "infer-only" ↔ m = .inferOnly := by
  cases m <;> decide

def reservedMode (role : String) : HostExecutionMode := if role = "worker" then .inferOnly else .workerOnly

lemma validateNodeRoleCompatibility_project (hnodes : NodesReady s) :
    validateNodeRoleCompatibility (project s) node serviceName role = .ok () ↔
      ∃ m, storedMode s node = some m ∧ m ≠ reservedMode role := by
  simp [validateNodeRoleCompatibility,knownNodeExecutionMode_project hnodes,reservedMode]
  cases storedMode s node with
  | none => simp
  | some m => by_cases hrole : role = "worker" <;> simp [hrole]

lemma storedMode_of_topology (hnodes : NodesReady s) (htopo : shouldEmitTopology s = true) {m : HostExecutionMode} :
    storedMode s node = some m ↔ ∃ n ∈ s.nodes, n.name = node ∧ n.executionMode = m := by
  rw [storedMode,if_pos htopo,Option.map_eq_some_iff]
  constructor
  · rintro ⟨n,hn,rfl⟩
    exact ⟨n,mem_of_find?_eq_some hn,by simpa using find?_some hn,rfl⟩
  · rintro ⟨n,hn,rfl,rfl⟩
    cases hfind : s.nodes.find? (·.name = n.name) with
    | none => simpa using find?_eq_none.1 hfind n hn
    | some n' =>
      have hname : n'.name = n.name := by simpa using find?_some hfind
      have := inj_on_of_nodup_map hnodes.nodup (mem_of_find?_eq_some hfind) hn hname
      exact ⟨n',rfl,by rw [this]⟩

/-- A node that is the default one, or one that the stored topology offers to the service. -/
def Placeable (s : DesiredState) (reserved : HostExecutionMode) (node : String) : Prop :=
  node = defaultNodeName s ∨
    shouldEmitTopology s = true ∧ ∃ n ∈ s.nodes, n.name = node ∧ n.executionMode ≠ reserved

lemma listed_iff (hnodes : NodesReady s) (htopo : shouldEmitTopology s = true) :
    validateNodeRoleCompatibility (project s) node serviceName role = .ok () ↔
      ∃ n ∈ s.nodes, n.name = node ∧ n.executionMode ≠ reservedMode role := by
  rw [validateNodeRoleCompatibility_project hnodes]
  simp only [storedMode_of_topology hnodes htopo]
  constructor
  · rintro ⟨m,⟨n,hn,hname,rfl⟩,hm⟩
    exact ⟨n,hn,hname,hm⟩
  · rintro ⟨n,hn,hname,hm⟩
    exact ⟨_,⟨n,hn,hname,rfl⟩,hm⟩

lemma writtenNode_iff (hnodes : NodesReady s) (node serviceName role : String) :
    (∀ n, elide (defaultNodeName s) node = some n →
        validateNodeRoleCompatibility (project s) n serviceName role = .ok ()) ↔
    Placeable s (reservedMode role) node := by
  unfold Placeable
  by_cases hdefault : node = defaultNodeName s
  · simp [hdefault,elide]
  · cases htopo : shouldEmitTopology s with
    | false => simp [hdefault,elide,validateNodeRoleCompatibility_project hnodes,storedMode,htopo]
    | true => simp [hdefault,elide,listed_iff hnodes htopo]

lemma serviceNode_iff (hnodes : NodesReady s)
    (hnode : service.get? "node" = (elide (defaultNodeName s) node).map toJson)
    (fieldName serviceName role : String) :
    validateServiceNode (project s) service fieldName serviceName role = .ok () ↔
      Placeable s (reservedMode role) node := by
  rw [← writtenNode_iff hnodes node serviceName role]
  simp [validateServiceNode,string?,hnode,Option.any_map]

/-- Without a topology, a service that passes its own check writes no node. -/
lemma contains_node_eq_false (hnode : service.get? "node" = (elide (defaultNodeName s) node).map toJson)
    (hplace : Placeable s reserved node) (htopo : shouldEmitTopology s = false) :
    service.contains "node" = false := by
  have hdefault : node = defaultNodeName s := hplace.resolve_right (by simp [htopo])
  simp [contains,hnode,hdefault,elide]

lemma eq_obj_nil_of_isEmpty (hobj : j.isObject = true) (h : j.isEmpty = true) : j = .obj [] := by
  cases j with
  | obj fields => rw [isEmpty_iff.1 h]
  | _ => simp [isObject] at hobj

/-- A block without members is left out, and a missing block has no members. -/
theorem getD_nonEmptyObject (hobj : j.isObject = true) : (nonEmptyObject j).getD (.obj []) = j := by
  unfold nonEmptyObject
  split
  next h => exact (eq_obj_nil_of_isEmpty hobj h).symm
  · rfl

lemma any_contains_nonEmptyObject (hobj : j.isObject = true) (key : String) :
    (nonEmptyObject j).any (·.contains key) = j.contains key := by
  unfold nonEmptyObject
  split
  next h =>
    rw [eq_obj_nil_of_isEmpty hobj h]
    rfl
  · rfl

lemma onSome_nonEmptyObject {check : Json → Checked Unit} (h : check (.obj []) = .ok ()) (hobj : j.isObject = true) :
    onSome (nonEmptyObject j) check = .ok () ↔ check j = .ok () := by
  unfold nonEmptyObject
  split
  next hempty =>
    rw [eq_obj_nil_of_isEmpty hobj hempty,h]
    simp
  · simp

lemma validateStartBlock_project (h : service.get? "start" = projectServiceStart i defaultCommand) :
    validateStartBlock service serviceName = .ok () := by
  simp only [validateStartBlock,onSome_eq_ok,h,projectServiceStart,Option.ite_none_left_eq_some,
    Option.some.injEq,not_or]
  rintro _ ⟨⟨hcommand,-⟩,rfl⟩
  simp [hcommand]

/-- A device share in range; the first one that is checked is exclusive only as a whole. -/
structure ShareReady (i : InstanceSpec) : Prop where
  fraction : 0 < i.gpuFraction ∧ i.gpuFraction ≤ 1
  memoryCapMb : ∀ cap, i.memoryCapMb = some cap → 0 < cap

/-- The number of workers fits an `int`. -/
structure WorkersReady (s : DesiredState) : Prop where
  nonempty : findInstances s .worker ≠ []
  length : (findInstances s .worker).length < 2^31
  share : ∀ i ∈ findInstances s .worker, ShareReady i

section InferBlock

variable (s : DesiredState) (i : InstanceSpec)

@[simp] lemma isObject_inferBlock : (inferBlock s i).isObject = true := by simp [inferBlock]

@[simp] lemma inferBlock_start : (inferBlock s i).get? "start" =
    projectServiceStart i "/runtime/bin/naim-inferctl container-boot" := by simp [inferBlock]

@[simp] lemma inferBlock_node : (inferBlock s i).get? "node" =
    (elide (defaultNodeName s) i.nodeName).map toJson := by simp [inferBlock]

@[simp] lemma inferBlock_replicas : (inferBlock s i).get? "replicas" = (projectReplicas s).map toJson := by
  simp [inferBlock]

end InferBlock

lemma ofNat_mod_eq_zero (ha : a < 2^31) (hb : b < 2^31) : Int32.ofNat a % Int32.ofNat b = 0 ↔ b ∣ a := by
  rw [← toInt_inj,toInt_mod,toInt_ofNat_of_lt ha,toInt_ofNat_of_lt hb,toInt_zero,
    ← Int.dvd_iff_tmod_eq_zero,Int.natCast_dvd_natCast]

/-- The replicas that the stored document of a language model asks for share its workers evenly. -/
def ReplicasDivide (s : DesiredState) : Prop :=
  s.planeMode = .llm → max 1 (inferReplicaCount s) ∣ (findInstances s .worker).length

lemma inferReplicaCount_le : inferReplicaCount s ≤ (findInstances s .worker).length :=
  calc inferReplicaCount s
      ≤ _ := (dedup_sublist _).length_le
    _ ≤ _ := length_filter_le _ _
    _ ≤ _ := length_filterMap_le _ _

lemma projectReplicas_llm (hworkers : WorkersReady s) (hllm : LlmServed s) :
    projectReplicas s = if s.planeMode = .llm then some (Int32.ofNat (max 1 (inferReplicaCount s)))
      else none := by
  by_cases hmode : s.planeMode = .llm
  · rw [projectReplicas,if_pos ⟨hmode,hllm hmode⟩,if_pos hmode,
      max_one_ofNat (inferReplicaCount_le.trans_lt hworkers.length)]
  · simp [projectReplicas,hmode]

lemma replicasDivide_iff (hworkers : WorkersReady s) (hllm : LlmServed s) :
    (∀ n, projectReplicas s = some n → max 1 (Int32.ofNat (findInstances s .worker).length) % n = 0) ↔
      ReplicasDivide s := by
  have hpos := length_pos_iff.2 hworkers.nonempty
  have hle : inferReplicaCount s ≤ (findInstances s .worker).length := inferReplicaCount_le
  have hlt := hworkers.length
  rw [projectReplicas_llm hworkers hllm,max_one_ofNat hlt,Nat.max_eq_right hpos,ReplicasDivide]
  by_cases hmode : s.planeMode = .llm
  · simp [hmode,ofNat_mod_eq_zero hlt (show max 1 (inferReplicaCount s) < 2^31 by omega)]
  · simp [hmode]

lemma validateInferBlock_project (i : InstanceSpec) :
    validateInferBlock (project s) (projectRuntime s) s.inference.runtimeEngine s.inference.distributedBackend
      (inferBlock s i) = .ok () ↔
    validateServiceNode (project s) (inferBlock s i) "infer" "infer" "infer" = .ok () ∧
      ∀ n, projectReplicas s = some n → max 1 (Int32.ofNat (findInstances s .worker).length) % n = 0 := by
  have hstart : validateStartBlock (inferBlock s i) "infer" = .ok () :=
    validateStartBlock_project (inferBlock_start s i)
  simp [validateInferBlock,hstart,validateReplicas]
  intro _
  refine forall₂_congr fun n hn => ?_
  rw [projectReplicas,Option.ite_none_right_eq_some,Option.some.injEq] at hn
  obtain ⟨⟨-,hengine,hbackend⟩,rfl⟩ := hn
  simp [max_one_pos,hengine,hbackend]

lemma validateInfer_project (hnodes : NodesReady s) (hworkers : WorkersReady s) (hllm : LlmServed s) :
    validateInfer (project s) = .ok () ↔
    (s.planeMode = .llm → ∃ i, findInstance s .infer = some i) ∧
      (∀ i, findInstance s .infer = some i → Placeable s .workerOnly i.nodeName) ∧ ReplicasDivide s := by
  cases hinfer : findInstance s .infer with
  | none =>
    simp [validateInfer,value_eq,distributedBackendOf,object?,projectInfer,hinfer,ReplicasDivide]
    exact fun h => ⟨fun _ h' => (h h').elim,fun _ h' => (h h').elim⟩
  | some i =>
    have hblock : projectInfer s = nonEmptyObject (inferBlock s i) := by simp [projectInfer,hinfer]
    have hempty : validateInferBlock (project s) (projectRuntime s) s.inference.runtimeEngine
        s.inference.distributedBackend (.obj []) = .ok () := by
      simp [validateInferBlock,validateServiceNode,validateStartBlock,string?,isObject]
    -- a language model always writes its replicas, so its block is there
    have hwritten : s.planeMode = .llm → nonEmptyObject (inferBlock s i) = some (inferBlock s i) ∧
        (projectReplicas s).isSome := by
      intro hmode
      have hsome : projectReplicas s = some (max 1 (Int32.ofNat (inferReplicaCount s))) := by
        simp [projectReplicas,hmode,hllm hmode]
      have hget := inferBlock_replicas s i
      rw [hsome,Option.map_some] at hget
      simp [nonEmptyObject,isEmpty_of_get? hget,hsome]
    have hcheck : validateInfer (project s) = .ok () ↔ validateInferBlock (project s) (projectRuntime s)
        s.inference.runtimeEngine s.inference.distributedBackend (inferBlock s i) = .ok () := by
      rw [← onSome_nonEmptyObject hempty (isObject_inferBlock s i)]
      by_cases hmode : s.planeMode = .llm
      · obtain ⟨hsome,hreplicas⟩ := hwritten hmode
        simp [validateInfer,value_eq,distributedBackendOf,object?,objectAt,contains,hblock,hsome,hmode,hreplicas]
      · simp [validateInfer,value_eq,distributedBackendOf,hmode,hblock]
    rw [hcheck,validateInferBlock_project,serviceNode_iff hnodes (inferBlock_node s i) _ _ _,
      replicasDivide_iff hworkers hllm]
    simp [reservedMode]

/-- The workers share one node that is `Placeable`, or the stored topology offers each of them its node. -/
def WorkersPlaceable (s : DesiredState) : Prop :=
  (∃ node gpu, (∀ i ∈ findInstances s .worker, i.nodeName = node ∧ i.gpuDevice = gpu) ∧
    Placeable s .inferOnly node) ∨
  shouldEmitTopology s = true ∧
    ∀ i ∈ findInstances s .worker, ∃ n ∈ s.nodes, n.name = i.nodeName ∧ n.executionMode ≠ .inferOnly

section WorkerBlock

variable (s : DesiredState) (first : InstanceSpec)

@[simp] lemma isObject_workerBlock : (workerBlock s first).isObject = true := by simp [workerBlock]

lemma get?_placementFields (workers : List InstanceSpec) (rest : List (String × Option Json)) {key : String}
    (h : key ∉ ["node","gpu_device","assignments"]) :
    (ofFields (placementFields s first workers ++ rest)).get? key = (ofFields rest).get? key := by
  simp only [mem_cons,not_mem_nil,or_false,not_or] at h
  unfold placementFields
  split <;> simp [h]

@[simp] lemma workerBlock_start : (workerBlock s first).get? "start" =
    projectServiceStart first "/runtime/bin/naim-workerd" := by simp [workerBlock,get?_placementFields]

@[simp] lemma workerBlock_node : (workerBlock s first).get? "node" =
    if placedTogether first (findInstances s .worker) then
      (elide (defaultNodeName s) first.nodeName).map toJson else none := by
  simp [workerBlock,placementFields]
  split <;> simp

@[simp] lemma workerBlock_gpuDevice : (workerBlock s first).get? "gpu_device" =
    if placedTogether first (findInstances s .worker) then (nonEmpty first.gpuDevice).map toJson else none := by
  simp [workerBlock,placementFields]
  split <;> simp

@[simp] lemma workerBlock_assignments : (workerBlock s first).get? "assignments" =
    if placedTogether first (findInstances s .worker) then none
    else some (.arr ((findInstances s .worker).map projectAssignment)) := by
  simp [workerBlock,placementFields]
  split <;> simp

end WorkerBlock

lemma placedTogether_iff :
    placedTogether first workers = true ↔ ∀ i ∈ workers, i.nodeName = first.nodeName ∧
      i.gpuDevice = first.gpuDevice := by
  simp [placedTogether]

lemma workersPlaceable_iff (hfirst : (findInstances s .worker).head? = some first) :
    WorkersPlaceable s ↔ if placedTogether first (findInstances s .worker) then Placeable s .inferOnly first.nodeName
      else shouldEmitTopology s = true ∧ ∀ i ∈ findInstances s .worker,
        ∃ n ∈ s.nodes, n.name = i.nodeName ∧ n.executionMode ≠ .inferOnly := by
  have hmem : first ∈ findInstances s .worker := mem_of_mem_head? hfirst
  split
  next htogether =>
    constructor
    · rintro (⟨node,gpu,hall,hplace⟩ | ⟨htopo,hall⟩)
      · exact (hall first hmem).1 ▸ hplace
      · exact .inr ⟨htopo,hall first hmem⟩
    · exact fun h => .inl ⟨_,_,placedTogether_iff.1 htogether,h⟩
  next htogether =>
    refine ⟨fun h => h.resolve_left ?_,.inr⟩
    rintro ⟨node,gpu,hall,-⟩
    refine htogether (placedTogether_iff.2 fun i hi => ?_)
    rw [(hall i hi).1,(hall i hi).2,(hall first hmem).1,(hall first hmem).2]
    exact ⟨rfl,rfl⟩

lemma validateWorkerBlock_project (hnodes : NodesReady s) (hworkers : WorkersReady s)
    (hfirst : (findInstances s .worker).head? = some first) :
    (shouldEmitTopology s = false → (workerBlock s first).contains "assignments" = false) ∧
      validateWorkerBlock (project s) (workerBlock s first) = .ok () ↔ WorkersPlaceable s := by
  have hstart : validateStartBlock (workerBlock s first) "worker" = .ok () :=
    validateStartBlock_project (workerBlock_start s first)
  rw [workersPlaceable_iff hfirst]
  unfold validateWorkerBlock contains wrongType string?
  cases htogether : placedTogether first (findInstances s .worker) with
  | true =>
    have hnode := writtenNode_iff hnodes first.nodeName "worker" "worker"
    simpa [hstart,htogether,Option.any_map,reservedMode] using hnode
  | false =>
    have hlength := max_one_ofNat hworkers.length
    rw [Nat.max_eq_right (length_pos_iff.2 hworkers.nonempty)] at hlength
    simp [hstart,htogether]
    intro htopo
    simp [validateAssignments,validateAssignment,projectAssignment,string?,Option.any_map,hlength,
      listed_iff hnodes htopo,reservedMode]

/-- An exclusive share is the whole device, up to the tolerance of the validator. -/
def WholeIfExclusive (i : InstanceSpec) : Prop := i.shareMode = .exclusive → |i.gpuFraction - 1| ≤ 1/1000000000

@[simp] lemma text_eq_exclusive (m : GpuShareMode) : m.text = "exclusive" ↔ m = .exclusive := by
  cases m <;> decide

lemma shareMode_supported (m : GpuShareMode) : m ≠ .exclusive → m.text ≠ "shared" → m.text = "best-effort" := by
  cases m <;> decide

section Resources

variable (s : DesiredState)

@[simp] lemma isObject_projectResources : (projectResources s).isObject = true ∧
    (projectResources s).get? "voice_listener" = none := by simp [projectResources]

@[simp] lemma resources_worker : (projectResources s).get? "worker" =
    (findInstances s .worker).head?.map projectWorkerResources := by simp [projectResources]

@[simp] lemma resources_voiceModule : (projectResources s).get? "voice_module" =
    (voiceGpuInstance s .voiceModule).map (projectVoiceResources (1/5) 50) := by simp [projectResources]

@[simp] lemma resources_voiceMaker : (projectResources s).get? "voice_maker" =
    (voiceGpuInstance s .voiceMaker).map (projectVoiceResources (1/4) 45) := by simp [projectResources]

end Resources

lemma memoryCap_accepted (hi : ShareReady i) : i.memoryCapMb.any (fun cap => decide (cap ≤ 0)) = false := by
  cases hcap : i.memoryCapMb with
  | none => rfl
  | some cap =>
    have hpos := hi.memoryCapMb cap hcap
    rw [Option.any_some,decide_eq_false_iff_not]
    exact Int32.not_le.2 hpos

lemma validateGpuResourceBlock_worker (hi : ShareReady i) (fieldName : String) :
    validateGpuResourceBlock (projectWorkerResources i) fieldName false = .ok () ↔ WholeIfExclusive i := by
  simp [validateGpuResourceBlock,projectWorkerResources,validateShareMode,validateGpuFraction,
    validateExclusiveFraction,Option.any_map,WholeIfExclusive,hi.fraction,memoryCap_accepted hi]
  exact fun _ => shareMode_supported i.shareMode

lemma validateGpuResourceBlock_voice (hi : ShareReady i) (hpriority : 0 ≤ i.priority) (fieldName : String)
    (defaultFraction : ℚ) (defaultPriority : Int32) :
    validateGpuResourceBlock (projectVoiceResources defaultFraction defaultPriority i) fieldName true = .ok () ↔
      WholeIfExclusive i := by
  have hpriority : (elide defaultPriority i.priority).any (fun n => decide (n < 0)) = false := by
    unfold elide
    split
    · rfl
    · simpa using hpriority
  unfold projectVoiceResources
  split
  next h => simp [validateGpuResourceBlock,WholeIfExclusive,h]
  · simp [validateGpuResourceBlock,validateShareMode,validateGpuFraction,
      validateExclusiveFraction,Option.any_map,WholeIfExclusive,hi.fraction,memoryCap_accepted hi,hpriority]
    exact fun _ => shareMode_supported i.shareMode

lemma exists_firstWorker (h : findInstances s .worker ≠ []) : ∃ first,
    (findInstances s .worker).head? = some first ∧ projectWorker s = nonEmptyObject (workerBlock s first) := by
  obtain ⟨first,rest,hcons⟩ := exists_cons_of_ne_nil h
  exact ⟨first,by rw [hcons,head?_cons],by simp [projectWorker,hcons]⟩

lemma validateWorker_project (hnodes : NodesReady s) (hworkers : WorkersReady s) :
    (shouldEmitTopology s = false → (projectWorker s).any (·.contains "assignments") = false) ∧
      validateWorker (project s) = .ok () ↔
    WorkersPlaceable s ∧ ∀ first, (findInstances s .worker).head? = some first → WholeIfExclusive first := by
  obtain ⟨first,hfirst,hblock⟩ := exists_firstWorker hworkers.nonempty
  have hempty : validateWorkerBlock (project s) (.obj []) = .ok () := by
    simp [validateWorkerBlock,validateStartBlock,string?,isObject]
  have hshare := hworkers.share first (mem_of_mem_head? hfirst)
  rw [hblock,any_contains_nonEmptyObject (isObject_workerBlock s first),
    ← validateWorkerBlock_project hnodes hworkers hfirst,and_assoc,
    ← onSome_nonEmptyObject hempty (isObject_workerBlock s first),← hblock]
  simp [validateWorker,validateWorkerResources,hfirst,validateGpuResourceBlock_worker hshare]

lemma validateVoiceModuleResources_project
    (hmodule : ∀ i, voiceGpuInstance s .voiceModule = some i → ShareReady i ∧ 0 ≤ i.priority)
    (hmaker : ∀ i, voiceGpuInstance s .voiceMaker = some i → ShareReady i ∧ 0 ≤ i.priority) :
    validateVoiceModuleResources (project s) = .ok () ↔
      (∀ i, voiceGpuInstance s .voiceModule = some i → WholeIfExclusive i) ∧
      ∀ i, voiceGpuInstance s .voiceMaker = some i → WholeIfExclusive i := by
  simp [validateVoiceModuleResources]
  refine and_congr (forall₂_congr fun i hi => ?_) (forall₂_congr fun i hi => ?_)
  · exact validateGpuResourceBlock_voice (hmodule i hi).1 (hmodule i hi).2 _ _ _
  · exact validateGpuResourceBlock_voice (hmaker i hi).1 (hmaker i hi).2 _ _ _

structure AppReady (i : InstanceSpec) : Prop where
  image : i.image ≠ ""
  mounts : ∀ m ∈ i.appModelMounts, MountReady m ∧ m.name ≠ ""
  names : (i.appModelMounts.map (·.name)).Nodup
  mountPaths : (i.appModelMounts.map (·.mountPath)).Nodup

def storedAppName (i : InstanceSpec) : String := (i.environment.lookup "NAIM_APP_NAME").getD i.name

lemma appModelOk_project (hm : MountReady m) (hname : m.name ≠ "") :
    AppModelOk fieldName (projectAppModel m) (m.name,m.mountPath) where
  object := by simp [projectAppModel]
  name := by simp [projectAppModel]
  named := hname
  source := ⟨projectMountSource m,by simp [projectAppModel,object?],validateLibrarySource_project hm⟩
  mountPath := by simp [projectAppModel]
  absolute := hm.mountPath
  env := by
    simp [validateModelEnv,projectAppModel,Option.any_map]
    exact hm.envVar

lemma validateAppModels_project (hi : AppReady i) (fieldName : String) :
    validateAppModels fieldName (i.appModelMounts.map projectAppModel) [] [] = .ok () := by
  refine validateAppModels_eq_ok.2 ⟨i.appModelMounts.map fun m => (m.name,m.mountPath),?_,by simp,?_,?_⟩
  · rw [forall₂_map_left_iff,forall₂_map_right_iff,forall₂_same]
    exact fun m hm => appModelOk_project (hi.mounts m hm).1 (hi.mounts m hm).2
  · simpa [Function.comp_def] using hi.names
  · simpa [Function.comp_def] using hi.mountPaths

section AppBlock

variable (s : DesiredState) (multiApp primary : Bool) (i : InstanceSpec)

@[simp] lemma isObject_projectAppInstance : (projectAppInstance s multiApp primary i).isObject = true := by
  simp [projectAppInstance]

@[simp] lemma app_enabled : (projectAppInstance s multiApp primary i).get? "enabled" = some (toJson true) := by
  simp [projectAppInstance]

@[simp] lemma app_image : (projectAppInstance s multiApp primary i).get? "image" = some (toJson i.image) := by
  simp [projectAppInstance]

@[simp] lemma app_name : (projectAppInstance s multiApp primary i).get? "name" =
    if multiApp || !primary then some (toJson (storedAppName i)) else none := by
  simp [projectAppInstance,storedAppName]

@[simp] lemma app_primary : (projectAppInstance s multiApp primary i).get? "primary" =
    if multiApp || !primary then some (toJson primary) else none := by simp [projectAppInstance]

@[simp] lemma app_start : (projectAppInstance s multiApp primary i).get? "start" = projectServiceStart i "" := by
  simp [projectAppInstance]

@[simp] lemma app_env : (projectAppInstance s multiApp primary i).get? "env" =
    (elide [] (projectAppEnv i)).map toJson := by simp [projectAppInstance]

@[simp] lemma app_models : (projectAppInstance s multiApp primary i).get? "models" =
    if i.appModelMounts = [] then none else some (.arr (i.appModelMounts.map projectAppModel)) := by
  simp [projectAppInstance]

@[simp] lemma app_publish : (projectAppInstance s multiApp primary i).get? "publish" = projectPublishedPorts i := by
  simp [projectAppInstance]

@[simp] lemma app_node : (projectAppInstance s multiApp primary i).get? "node" =
    (elide (defaultNodeName s) i.nodeName).map toJson := by simp [projectAppInstance]

@[simp] lemma app_volumes : (projectAppInstance s multiApp primary i).get? "volumes" =
    projectAppVolumes (findDiskByName s i.privateDiskName) := by simp [projectAppInstance]

@[simp] lemma app_storage : (projectAppInstance s multiApp primary i).get? "storage" = none := by
  simp [projectAppInstance]

lemma app_wrongType_models : (projectAppInstance s multiApp primary i).wrongType "models" isArray = false := by
  rw [wrongType,app_models]
  split <;> simp

lemma app_arrayAt_models : (projectAppInstance s multiApp primary i).arrayAt "models" =
    i.appModelMounts.map projectAppModel := by
  rw [arrayAt,app_models]
  split
  next h =>
    rw [h]
    rfl
  · simp

lemma app_volumes_accepted : (projectAppInstance s multiApp primary i).wrongType "volumes" isArray = false ∧
    ((projectAppInstance s multiApp primary i).arrayAt "volumes").length ≤ 1 := by
  rw [wrongType,arrayAt,app_volumes,projectAppVolumes]
  cases findDiskByName s i.privateDiskName <;> simp [items]

end AppBlock

lemma validateSingleAppSpec_project (hnodes : NodesReady s) {multiApp primary requireName : Bool}
    (hi : AppReady i) (hname : requireName = true → multiApp = true) :
    validateSingleAppSpec (project s) (projectAppInstance s multiApp primary i) fieldName requireName = .ok () ↔
      (requireName = true → storedAppName i ≠ "") ∧ Placeable s .workerOnly i.nodeName := by
  have hstart : validateStartBlock (projectAppInstance s multiApp primary i) "app" = .ok () :=
    validateStartBlock_project (app_start s multiApp primary i)
  have hnode := serviceNode_iff hnodes (app_node s multiApp primary i) fieldName "app" "app"
  simp [-wrongType,validateSingleAppSpec,fieldEnabledByDefault,validateEnabledApp,value_eq,hstart,hnode,hi.image,
    app_wrongType_models,app_arrayAt_models,app_volumes_accepted,validateAppModels_project hi,reservedMode]
  intro _
  refine imp_congr_right fun h => ?_
  simp [hname h]

lemma appEntryOk_project (hnodes : NodesReady s) {primary : Bool} (hi : AppReady i) (e : Bool × String) :
    AppEntryOk (project s) (projectAppInstance s true primary i) e ↔
      e = (primary,storedAppName i) ∧ storedAppName i ≠ "" ∧ Placeable s .workerOnly i.nodeName := by
  have hspec : validateSingleAppSpec (project s) (projectAppInstance s true primary i) "apps[]" true = .ok () ↔ _ :=
    validateSingleAppSpec_project hnodes hi fun _ => rfl
  constructor
  · rintro ⟨-,h,hprimary,hname⟩
    simp [value_eq] at hprimary hname
    simp [hspec] at h
    exact ⟨Prod.ext hprimary.symm hname.symm,h⟩
  · rintro ⟨rfl,h⟩
    exact ⟨by simp,hspec.2 (by simpa using h),by simp [value_eq],by simp [value_eq]⟩

def AppNamesStorable (s : DesiredState) : Prop :=
  (findInstances s .app).length > 1 → DistinctTexts ((findInstances s .app).map storedAppName)

lemma length_primary_le_one (apps : List InstanceSpec) (primary : ℕ) :
    ((apps.zipIdx.map fun e => (decide (e.2 = primary),storedAppName e.1)).filter Prod.fst).length ≤ 1 := by
  have hcount : ((apps.zipIdx.map fun e => (decide (e.2 = primary),storedAppName e.1)).filter Prod.fst).length =
      (apps.zipIdx.map Prod.snd).count primary := by
    rw [filter_map,length_map,← countP_eq_length_filter,List.count,countP_map]
    rfl
  rw [hcount,zipIdx_map_snd]
  exact nodup_iff_count_le_one.1 nodup_range' primary

lemma projectApp_several (h : (findInstances s .app).length > 1) :
    projectApp s = none ∧ projectAppList s = some (.arr (projectApps s)) := by
  have hlength : (projectApps s).length > 1 := by simpa [projectApps] using h
  constructor
  · unfold projectApp
    match happs : projectApps s with
    | [] => simp [happs] at hlength
    | [_] => simp [happs] at hlength
    | _::_::_ => rfl
  · rw [projectAppList,if_pos hlength]

section Apps

variable (hnodes : NodesReady s) (happs : ∀ i ∈ findInstances s .app, AppReady i)

include hnodes happs

lemma appEntries_project (h : (findInstances s .app).length > 1) (entries : List (Bool × String)) :
    List.Forall₂ (AppEntryOk (project s)) (projectApps s) entries ↔
      entries = (findInstances s .app).zipIdx.map
        (fun e => (decide (e.2 = primaryAppIndex (findInstances s .app)),storedAppName e.1)) ∧
      ∀ i ∈ findInstances s .app, storedAppName i ≠ "" ∧ Placeable s .workerOnly i.nodeName := by
  have hall : (∀ i ∈ findInstances s .app, storedAppName i ≠ "" ∧ Placeable s .workerOnly i.nodeName) ↔
      ∀ e ∈ (findInstances s .app).zipIdx, storedAppName e.1 ≠ "" ∧ Placeable s .workerOnly e.1.nodeName := by
    conv_lhs => rw [← zipIdx_map_fst 0 (findInstances s .app)]
    exact forall_mem_map
  rw [hall,projectApps]
  simp only [h,decide_true]
  exact forall₂_map_iff fun e he c => appEntryOk_project hnodes (happs e.1 (fst_mem_of_mem_zipIdx he)) c

lemma validateApp_several (h : (findInstances s .app).length > 1) :
    validateApp (project s) = .ok () ↔
      (∀ i ∈ findInstances s .app, Placeable s .workerOnly i.nodeName) ∧
        DistinctTexts ((findInstances s .app).map storedAppName) := by
  obtain ⟨happ,hlist⟩ := projectApp_several h
  have hcheck : validateApp (project s) = .ok () ↔ validateApps (project s) (.arr (projectApps s)) = .ok () := by
    simp only [validateApp,contains,get?_app,get?_apps,happ,hlist]
    rfl
  have hne : projectApps s ≠ [] := by
    intro hnil
    have hlength := congrArg List.length hnil
    simp [projectApps] at hlength
    simp [hlength] at h
  have hnames : ((findInstances s .app).zipIdx.map
      (fun e => (decide (e.2 = primaryAppIndex (findInstances s .app)),storedAppName e.1))).map Prod.snd =
      (findInstances s .app).map storedAppName := by
    rw [map_map,← zipIdx_map_fst 0 (findInstances s .app),map_map,zipIdx_map_fst]
    rfl
  rw [hcheck,validateApps_eq_ok,items_arr]
  simp only [appEntries_project hnodes happs h]
  constructor
  · rintro ⟨-,_,⟨rfl,hall⟩,hnodup,-⟩
    rw [hnames,filter_eq_self.2 (by simpa using fun i hi => (hall i hi).1)] at hnodup
    exact ⟨fun i hi => (hall i hi).2,by simpa using fun i hi => (hall i hi).1,hnodup⟩
  · rintro ⟨hplace,htexts,hnodup⟩
    refine ⟨hne,_,⟨rfl,fun i hi => ⟨htexts _ (mem_map_of_mem hi),hplace i hi⟩⟩,?_,length_primary_le_one _ _⟩
    rw [hnames]
    exact hnodup.filter _

lemma validateApp_project :
    validateApp (project s) = .ok () ↔
      (∀ i ∈ findInstances s .app, Placeable s .workerOnly i.nodeName) ∧ AppNamesStorable s := by
  match happ : findInstances s .app with
  | [] =>
    simp [validateApp,validateLegacyApp,validateSingleAppSpec,fieldEnabledByDefault,AppNamesStorable,happ,
      projectApp,projectAppList,projectApps,contains]
  | [i] =>
    have hi := happs i (by simp [happ])
    simp [validateApp,validateLegacyApp,validateSingleAppSpec_project hnodes hi,AppNamesStorable,happ,
      projectApp,projectAppList,projectApps,contains]
  | i::j::rest =>
    have hlength : (findInstances s .app).length > 1 := by simp [happ]
    rw [validateApp_several hnodes happs hlength,AppNamesStorable,← happ]
    simp only [hlength,true_imp_iff]

end Apps

structure SkillsReady (s : DesiredState) : Prop where
  settings : ∀ k, s.skills = some k → s.planeMode = .llm ∧ k.enabled = true ∧ DistinctTexts k.factorySkillIds
  instances : ∀ i, findInstance s .skills = some i → ∃ k, s.skills = some k

section SkillsBlock

variable (s : DesiredState) (i : InstanceSpec)

@[simp] lemma isObject_skillsBlock : (skillsBlock s i).isObject = true ∧
    (skillsBlock s i).get? "enabled" = some (toJson (s.skills.getD {}).enabled) := by simp [skillsBlock]

@[simp] lemma skillsBlock_factorySkillIds : (skillsBlock s i).get? "factory_skill_ids" =
    (s.skills.bind fun skills => elide [] skills.factorySkillIds).map toJson := by simp [skillsBlock]

@[simp] lemma skillsBlock_start : (skillsBlock s i).get? "start" =
    projectServiceStart i "/runtime/bin/naim-skillsd" := by simp [skillsBlock]

@[simp] lemma skillsBlock_node : (skillsBlock s i).get? "node" =
    (elide (defaultNodeName s) i.nodeName).map toJson := by simp [skillsBlock]

end SkillsBlock

lemma validateSkills_project (hnodes : NodesReady s) (hskills : SkillsReady s) :
    validateSkills (project s) = .ok () ↔
      ∀ i, findInstance s .skills = some i → Placeable s .workerOnly i.nodeName := by
  cases hi : findInstance s .skills with
  | none =>
    cases hk : s.skills with
    | none => simp [validateSkills,projectSkills,hi,hk]
    | some k => simp [validateSkills,projectSkills,hi,hk,fieldEnabledByDefault,contains,(hskills.settings k hk).1]
  | some i =>
    obtain ⟨k,hk⟩ := hskills.instances i hi
    obtain ⟨hmode,henabled,hids⟩ := hskills.settings k hk
    have hstart : validateStartBlock (skillsBlock s i) "skills" = .ok () :=
      validateStartBlock_project (skillsBlock_start s i)
    have hnode := serviceNode_iff hnodes (skillsBlock_node s i) "skills" "skills" "skills"
    have hunique : validateUniqueStrings "skills.factory_skill_ids" "items"
      ((skillsBlock s i).arrayAt "factory_skill_ids")
        [] = .ok k.factorySkillIds.reverse := by
      rw [arrayAt,skillsBlock_factorySkillIds,items_getD_map,hk]
      simpa using validateUniqueStrings_toJson hids
    simp [validateSkills,validateEnabledSkills,projectSkills,hi,hk,fieldEnabledByDefault,value_eq,hmode,henabled,
      Option.any_map,hunique,hnode,hstart,reservedMode]

structure BrowsingPolicyReady (p : BrowsingPolicySettings) : Prop where
  allowedDomains : DistinctTexts p.allowedDomains
  blockedDomains : DistinctTexts p.blockedDomains
  blockedTargets : DistinctTexts p.blockedTargets
  maxSearchResults : 0 < p.maxSearchResults
  maxFetchBytes : 0 < p.maxFetchBytes

def isLoopback (ip : String) : Prop := ip = "" ∨ ip = "127.0.0.1" ∨ ip = "::1"

/-- The web gateway is on and publishes on loopback; an instance comes only with the settings. -/
structure BrowsingReady (s : DesiredState) : Prop where
  settings : ∀ b, s.browsing = some b → s.planeMode = .llm ∧ b.enabled = true ∧
    ∀ p, b.policy = some p → BrowsingPolicyReady p
  instances : ∀ i, findInstance s .browsing = some i → (∃ b, s.browsing = some b) ∧
    ∀ p ∈ i.publishedPorts, isLoopback p.hostIp

section BrowsingBlock

variable (s : DesiredState) (i : InstanceSpec)

@[simp] lemma isObject_browsingBlock : (browsingBlock s i).isObject = true ∧
    (browsingBlock s i).get? "enabled" = some (toJson (s.browsing.getD {}).enabled) ∧
    (browsingBlock s i).get? "policy" = (s.browsing.bind (·.policy)).map projectBrowsingPolicy := by
  simp [browsingBlock]

@[simp] lemma browsingBlock_start : (browsingBlock s i).get? "start" =
    projectServiceStart i "/runtime/bin/naim-webgatewayd" := by simp [browsingBlock]

@[simp] lemma browsingBlock_publish : (browsingBlock s i).get? "publish" = projectPublishedPorts i := by
  simp [browsingBlock]

@[simp] lemma browsingBlock_node : (browsingBlock s i).get? "node" =
    (elide (defaultNodeName s) i.nodeName).map toJson := by simp [browsingBlock]

end BrowsingBlock

lemma validatePublish_project (h : service.get? "publish" = projectPublishedPorts i)
    (hports : ∀ p ∈ i.publishedPorts, isLoopback p.hostIp) :
    service.wrongType "publish" isArray = false ∧ each (service.arrayAt "publish") validatePublishEntry = .ok () := by
  rw [wrongType,arrayAt,h,projectPublishedPorts]
  split
  · simp [items]
  · simp [validatePublishEntry,projectPublishedPort,string?]
    intro p hp hempty hlocal
    exact ((hports p hp).resolve_left hempty).resolve_left hlocal

lemma validateBrowsing_project (hnodes : NodesReady s) (hbrowsing : BrowsingReady s) :
    validateBrowsing (project s) = .ok () ↔
      ∀ i, findInstance s .browsing = some i → Placeable s .workerOnly i.nodeName := by
  cases hi : findInstance s .browsing with
  | none =>
    cases hb : s.browsing with
    | none => simp [validateBrowsing,projectBrowsing,object?,hi,hb]
    | some b =>
      simp [validateBrowsing,projectBrowsing,object?,hi,hb,fieldEnabledByDefault,(hbrowsing.settings b hb).1]
  | some i =>
    obtain ⟨⟨b,hb⟩,hports⟩ := hbrowsing.instances i hi
    obtain ⟨hmode,henabled,hpolicy⟩ := hbrowsing.settings b hb
    have hstart : validateStartBlock (browsingBlock s i) "webgateway" = .ok () :=
      validateStartBlock_project (browsingBlock_start s i)
    have hnode := serviceNode_iff hnodes (browsingBlock_node s i) "webgateway" "webgateway" "webgateway"
    obtain ⟨hpublish,hentries⟩ := validatePublish_project (browsingBlock_publish s i) hports
    simp [-wrongType,validateBrowsing,validateEnabledBrowsing,projectBrowsing,object?,hi,hb,fieldEnabledByDefault,
      value_eq,hmode,henabled,hpublish,hnode,hstart,reservedMode]
    refine fun _ => ⟨each_eq_ok.1 hentries,fun p hp => ?_⟩
    have hready := hpolicy p hp
    simp [validateBrowsingPolicy,validatePolicyFlag,validateDomainList,validatePolicyLimit,projectBrowsingPolicy,
      Option.any_map,arrayAt,validateUniqueStrings_toJson,hready.allowedDomains,hready.blockedDomains,
      hready.blockedTargets,hready.maxSearchResults,hready.maxFetchBytes]

structure Settled (s : DesiredState) : Prop where
  planeName : s.planeName ≠ ""
  engine : s.inference.runtimeEngine ≠ ""
  llm : s.planeMode = .llm →
    s.inference.runtimeEngine = "llama.cpp" ∧ s.inference.distributedBackend = "llama_rpc"
  model : ∀ m, s.bootstrapModel = some m → ModelReady m
  served : s.planeMode = .llm → ∃ m, s.bootstrapModel = some m ∧ isText m.servedModelName = true
  features : FeaturesReady s
  appHost : ∀ a, s.appHost = some a → AppHostReady a
  nodes : NodesReady s
  workers : WorkersReady s
  voiceModule : ∀ i, voiceGpuInstance s .voiceModule = some i → ShareReady i ∧ 0 ≤ i.priority
  voiceMaker : ∀ i, voiceGpuInstance s .voiceMaker = some i → ShareReady i ∧ 0 ≤ i.priority
  apps : ∀ i ∈ findInstances s .app, AppReady i
  skills : SkillsReady s
  browsing : BrowsingReady s

structure Storable (s : DesiredState) : Prop where
  model : ∀ m, s.bootstrapModel = some m → StorableModel m
  inferred : s.planeMode = .llm → ∃ i, findInstance s .infer = some i
  infer : ∀ i, findInstance s .infer = some i → Placeable s .workerOnly i.nodeName
  replicas : ReplicasDivide s
  workers : WorkersPlaceable s
  workerShare : ∀ i, (findInstances s .worker).head? = some i → WholeIfExclusive i
  voiceModuleShare : ∀ i, voiceGpuInstance s .voiceModule = some i → WholeIfExclusive i
  voiceMakerShare : ∀ i, voiceGpuInstance s .voiceMaker = some i → WholeIfExclusive i
  apps : ∀ i ∈ findInstances s .app, Placeable s .workerOnly i.nodeName
  appNames : AppNamesStorable s
  skills : ∀ i, findInstance s .skills = some i → Placeable s .workerOnly i.nodeName
  browsing : ∀ i, findInstance s .browsing = some i → Placeable s .workerOnly i.nodeName

def WritesNoNode (s : DesiredState) : Prop :=
  (projectInfer s).any (·.contains "node") = false ∧ (projectWorker s).any (·.contains "node") = false ∧
  (projectApp s).any (·.contains "node") = false ∧ (projectSkills s).any (·.contains "node") = false ∧
  (projectBrowsing s).any (·.contains "node") = false

lemma services_without_node (h : Storable s) (hworkers : findInstances s .worker ≠ [])
    (htopo : shouldEmitTopology s = false) : WritesNoNode s := by
  refine ⟨?_,?_,?_,?_,?_⟩
  · cases hi : findInstance s .infer with
    | none => simp [projectInfer,hi]
    | some i =>
      have hblock : projectInfer s = nonEmptyObject (inferBlock s i) := by simp [projectInfer,hi]
      rw [hblock,any_contains_nonEmptyObject (isObject_inferBlock s i)]
      exact contains_node_eq_false (inferBlock_node s i) (h.infer i hi) htopo
  · obtain ⟨first,hfirst,hblock⟩ := exists_firstWorker hworkers
    have hplace := (workersPlaceable_iff hfirst).1 h.workers
    rw [hblock,any_contains_nonEmptyObject (isObject_workerBlock s first),contains,workerBlock_node]
    split at hplace
    · have hdefault := hplace.resolve_right (by simp [htopo])
      simp [hdefault,elide]
    · simp [htopo] at hplace
  · match happ : findInstances s .app with
    | [] => simp [projectApp,projectApps,happ,contains]
    | [i] =>
      have hplace := h.apps i (by simp [happ])
      simpa [projectApp,projectApps,happ] using contains_node_eq_false (app_node s false _ i) hplace htopo
    | i::j::rest =>
      rw [(projectApp_several (by simp [happ])).1]
      rfl
  · cases hi : findInstance s .skills with
    | none => cases hk : s.skills <;> simp [projectSkills,hi,hk,contains]
    | some i =>
      simpa [projectSkills,hi] using contains_node_eq_false (skillsBlock_node s i) (h.skills i hi) htopo
  · cases hi : findInstance s .browsing with
    | none => cases hb : s.browsing <;> simp [projectBrowsing,hi,hb,contains]
    | some i =>
      simpa [projectBrowsing,hi] using contains_node_eq_false (browsingBlock_node s i) (h.browsing i hi) htopo

lemma validateLegacyPlacementCompatibility_project :
    validateLegacyPlacementCompatibility (project s) = .ok () ↔ (shouldEmitTopology s = false →
      WritesNoNode s ∧ (projectWorker s).any (·.contains "assignments") = false) := by
  simp [validateLegacyPlacementCompatibility,rejectLegacyServiceNode,WritesNoNode,and_assoc]

/-- The validator accepts what is stored of a settled state exactly when the state is storable. -/
theorem validateOrThrow_project (hs : Settled s) : validateOrThrow (project s) = .ok () ↔ Storable s := by
  rw [validateOrThrow_eq_ok,validateModel_project hs.model hs.served,validateInfer_project hs.nodes hs.workers hs.llm,
    validateVoiceModuleResources_project hs.voiceModule hs.voiceMaker,validateApp_project hs.nodes hs.apps,
    validateSkills_project hs.nodes hs.skills,validateBrowsing_project hs.nodes hs.browsing,
    validateLegacyPlacementCompatibility_project]
  have hworker := validateWorker_project hs.nodes hs.workers
  constructor
  · rintro ⟨-,hmodel,-,-,-,-,hlegacy,⟨hinferred,hinfer,hreplicas⟩,hw,⟨hmodule,hmaker⟩,⟨happs,hnames⟩,hskills,
      hbrowsing,-⟩
    obtain ⟨hplace,hshare⟩ := hworker.1 ⟨fun htopo => (hlegacy htopo).2,hw⟩
    exact ⟨hmodel,hinferred,hinfer,hreplicas,hplace,hshare,hmodule,hmaker,happs,hnames,hskills,hbrowsing⟩
  · intro h
    obtain ⟨hassignments,hw⟩ := hworker.2 ⟨h.workers,h.workerShare⟩
    exact ⟨by simp [validateTopLevel,value_eq,hs.planeName,object?,projectRuntime],h.model,
      validateFeatures_project hs.features hs.llm,validateRuntime_project hs.engine hs.llm,
      validatePlacement_project hs.nodes hs.appHost,validateTopology_project hs.nodes,fun htopo =>
        ⟨services_without_node h hs.workers.nonempty htopo,hassignments htopo⟩,
      ⟨h.inferred,h.infer,h.replicas⟩,hw,⟨h.voiceModuleShare,h.voiceMakerShare⟩,
      ⟨h.apps,h.appNames⟩,h.skills,h.browsing,validateHooks_project⟩

end Naim.Storage
