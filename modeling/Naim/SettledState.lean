import Naim.RenderedState

/-!
# Rendered states are settled

What the validator asks of a document holds of the state that is rendered from
it: the settings are complete, the nodes are named, the workers have shares of
devices and the apps have images and mounts.
-/

namespace Naim.Storage

open Checked Json Validator Projector Renderer List Option Except
open Bool hiding not_not

variable {dump : Json → String} {doc : Json} {r : Sections} {s : DesiredState} {p : Parts}

variable {block model j v source policy resources app features node browsing entry : Json}
  {key text fieldName defaultEnv defaultName defaultMountPath instanceName path env : String}
  {m m' : BootstrapModelSpec} {i : InstanceSpec} {role : InstanceRole} {flags requireName : Bool}
  {paths xs : List String} {total index : ℕ}

section Members

variable {α : Type} [Codec α] {a default : α}

lemma value_cases (h : j.value key default = .ok a) :
    (∃ v, j.get? key = some v ∧ Codec.get v = .ok a) ∨ j.get? key = none ∧ a = default := by
  rw [value_eq (isObject_of_value h)] at h
  cases hget : j.get? key with
  | none =>
    rw [hget,readOr_none,ok.injEq] at h
    exact .inr ⟨rfl,h.symm⟩
  | some v =>
    rw [hget,readOr_some] at h
    exact .inl ⟨v,rfl,h⟩

lemma value_of_get? (hget : j.get? key = some v) (hv : Codec.get v = .ok a) (default : α) :
    j.value key default = .ok a := by
  cases j with
  | obj fields => rw [value_eq rfl,hget,readOr_some,hv]
  | _ => simp [get?] at hget

lemma value_of_atAs (h : j.atAs key = .ok a) (default : α) : j.value key default = .ok a := by
  obtain ⟨v,hget,hv⟩ := atAs_eq_ok.1 h
  exact value_of_get? hget hv default

lemma value_of_ne (h : j.value key default = .ok a) (hne : a ≠ default) (default' : α) :
    j.value key default' = .ok a := by
  rcases value_cases h with ⟨v,hget,hv⟩ | ⟨-,heq⟩
  · exact value_of_get? hget hv default'
  · exact absurd heq hne

lemma get_string (h : Codec.get v = .ok text) : v.asString? = some text := by
  cases v <;> simp_all [Codec.get,asString?,typeError]

lemma string?_getD {default : String} (h : j.value key default = .ok text) :
    (j.string? key).getD default = text := by
  rcases value_cases h with ⟨v,hget,hv⟩ | ⟨hget,rfl⟩
  · simp [string?,hget,get_string hv]
  · simp [string?,hget]

lemma isText_string? (h : j.value key "" = .ok text) : isText (j.string? key) = true ↔ text ≠ "" := by
  rw [← string?_getD h]
  cases j.string? key <;> simp [isText]

lemma arrayAs_eq : (j.arrayAs key : Checked (List α)) = (j.arrayAt key).mapM Codec.get := by
  unfold arrayAs arrayAt
  cases j.get? key with
  | none => rfl
  | some v => cases v <;> rfl

lemma arrayAs_ne_nil {xs : List α} (h : j.arrayAs key = .ok xs) (hne : (j.arrayAt key).isEmpty = false) : xs ≠ [] := by
  rintro rfl
  rw [arrayAs_eq,mapM_eq_ok,forall₂_nil_right_iff] at h
  simp [h] at hne

end Members

structure BlocksOf (r : Sections) : Prop where
  infer : r.infer = r.doc.objectAt "infer"
  worker : r.worker = r.doc.objectAt "worker"
  resources : r.resources = r.doc.objectAt "resources"
  workerResources : r.workerResources = r.resources.objectAt "worker"
  voiceModuleResources : r.voiceModuleResources =
    ((r.resources.object? "voice_module").or (r.resources.object? "voice_listener")).getD (.obj [])
  voiceMakerResources : r.voiceMakerResources = r.resources.objectAt "voice_maker"
  app : ∃ primary, findPrimary r.apps = .ok primary ∧ r.app = (primary.or r.apps.head?).getD (.obj [])
  apps : r.apps = appsOf r.doc
  skills : r.skills = r.doc.objectAt "skills"
  browsing : r.browsing = ((r.doc.object? "webgateway").or (r.doc.object? "browsing")).getD (.obj [])
  knowledge : r.knowledge = r.doc.objectAt "knowledge"
  features : r.features = r.doc.objectAt "features"

lemma sections_spec (h : sections doc = .ok r) : r.doc = doc ∧ BlocksOf r := by
  simp only [Renderer.sections,bind_eq_ok,pure_eq_ok] at h
  obtain ⟨primary,hprimary,rfl⟩ := h
  exact ⟨rfl,rfl,rfl,rfl,rfl,rfl,rfl,⟨primary,hprimary,rfl⟩,rfl,rfl,rfl,rfl,rfl⟩

structure SettingsAt (r : Sections) (s : DesiredState) : Prop where
  planeName : r.doc.atAs "plane_name" = .ok s.planeName
  planeMode : (planeModeOf r.doc >>= parsePlaneMode) = .ok s.planeMode
  skills : renderSkillsSettings r.skills = .ok s.skills
  browsing : renderBrowsingSettings r.browsing = .ok s.browsing
  knowledge : renderKnowledgeSettings r.knowledge = .ok s.knowledge
  placementTarget : renderPlacementTarget r.doc = .ok s.placementTarget
  appHost : renderPlacementAppHost r.doc = .ok s.appHost
  turboquant : enabledFeature r.features "turboquant" renderTurboquant = .ok s.turboquant
  contextCompression : enabledFeature r.features "context_compression" renderContextCompression =
    .ok s.contextCompression
  voiceListener : enabledFeature r.features "voice_listener" renderVoiceListener = .ok s.voiceListener
  voiceMaker : enabledFeature r.features "voice_maker" renderVoiceMaker = .ok s.voiceMaker
  securedConnection : enabledFeature r.features "secured_connection" renderSecuredConnection = .ok s.securedConnection
  bootstrapModel : renderModel r.doc = .ok s.bootstrapModel
  runtime : ∃ runtime, renderRuntime r.doc = .ok runtime ∧ s.inference.runtimeEngine = runtime.1.runtimeEngine ∧
    s.inference.distributedBackend = runtime.1.distributedBackend
  nodes : renderNodeTopology r.doc s.placementTarget = .ok s.nodes
  planeSharedDiskName : s.planeSharedDiskName = "plane-" ++ s.planeName ++ "-shared"

lemma Renders.settingsAt (h : Renders dump r p) : SettingsAt r p.settings := by
  obtain ⟨s,hs,hgroup⟩ := h.settings
  simp only [renderSettings,bind_eq_ok,pure_eq_ok] at hs
  obtain ⟨planeName,h₁,modeText,h₂,planeMode,h₃,protectedPlane,-,skills,h₄,browsing,h₅,knowledge,h₆,target,h₇,
    appHost,h₈,turboquant,h₉,compression,h₁₀,listener,h₁₁,maker,h₁₂,secured,h₁₃,script,-,model,h₁₄,interaction,-,
    runtime,h₁₅,nodes,h₁₆,rfl⟩ := hs
  simp only [renderWorkerGroup,bind_eq_ok,pure_eq_ok] at hgroup
  obtain ⟨enabled,-,primaryNode,-,workers,-,hsettings⟩ := hgroup
  rw [← hsettings]
  exact ⟨h₁,bind_eq_ok.2 ⟨_,h₂,h₃⟩,h₄,h₅,h₆,h₇,h₈,h₉,h₁₀,h₁₁,h₁₂,h₁₃,h₁₄,⟨runtime,h₁₅,rfl,rfl⟩,h₁₆,rfl⟩

lemma planeName_ne_empty (hv : validateTopLevel doc = .ok ()) (hs : doc.atAs "plane_name" = .ok s.planeName) :
    s.planeName ≠ "" := by
  simp only [validateTopLevel,bind_eq_ok,refuse_eq_ok,throwIf_eq_ok] at hv
  obtain ⟨-,-,version,-,-,-,name,hname,-,hne,-⟩ := hv
  obtain rfl := ok_unique (value_of_atAs hs _) hname
  simpa using hne

lemma parsePlaneMode_eq_llm : parsePlaneMode text = .ok .llm ↔ text = "llm" := by
  unfold parsePlaneMode
  split
  next h =>
    rcases h with rfl | rfl <;> simp
  · split <;> simp_all

lemma planeMode_eq_llm (hs : (planeModeOf doc >>= parsePlaneMode) = .ok s.planeMode)
    (htext : planeModeOf doc = .ok text) : s.planeMode = .llm ↔ text = "llm" := by
  obtain ⟨text',htext',hmode⟩ := bind_eq_ok.1 hs
  obtain rfl := ok_unique htext htext'
  rw [← parsePlaneMode_eq_llm,hmode,ok.injEq]

lemma renderRuntime_spec (h : renderRuntime doc = .ok runtime) :
    ∃ block engine backend, doc.get? "runtime" = some block ∧
      block.value "engine" "llama.cpp" = .ok engine ∧ distributedBackendOf block engine = .ok backend ∧
      runtime.1.runtimeEngine = engine ∧
      runtime.1.distributedBackend = orElse backend (if engine = "llama.cpp" then "llama_rpc" else "local") := by
  simp only [renderRuntime,bind_eq_ok,pure_eq_ok] at h
  obtain ⟨block,hblock,engine,hengine,mode,-,lbMode,-,backend,hbackend,maxLen,-,ctx,-,seqs,-,utilization,-,tensor,-,
    pipeline,-,eager,-,gateway,-,apiPort,-,rendezvous,-,rfl⟩ := h
  exact ⟨block,engine,backend,member_eq_ok.1 hblock,hengine,hbackend,rfl,rfl⟩

lemma runtime_ready (hv : validateRuntime r.doc = .ok ()) (hs : SettingsAt r s) :
    s.inference.runtimeEngine ≠ "" ∧ s.inference.distributedBackend ≠ "" ∧ LlmServed s := by
  obtain ⟨runtime,hruntime,hengine,hbackend⟩ := hs.runtime
  obtain ⟨block,engine,backend,hblock,he,hb,hre,hrb⟩ := renderRuntime_spec hruntime
  simp only [validateRuntime,bind_eq_ok,refuse_eq_ok,member_eq_ok] at hv
  obtain ⟨block',hblock',mode,hmode,engine',he',-,hne,-,-,dp,-,backend',hb',-,hllm,-,hrpc,-⟩ := hv
  obtain rfl := mem_unique hblock hblock'
  have hne : engine' ≠ "" := by simpa using hne
  obtain rfl := ok_unique (value_of_ne he' hne _) he
  refine ⟨by rwa [hengine,hre],?_,fun hplane => ?_⟩
  · rw [hbackend,hrb,orElse]
    split
    · split <;> decide
    · assumption
  · rw [planeMode_eq_llm hs.planeMode hmode] at hplane
    simp_all [orElse]

lemma renderModelSource_spec (h : renderModelSource source = .ok m) :
    m.materializationMode = "copy" ∧ (m.sourceUrl = none ∧ m.sourceUrls = [] ∨
      source.value "type" "" = .ok "url" ∧ m.sourceUrl = source.string? "url" ∧
      source.arrayAs "urls" = .ok m.sourceUrls) := by
  simp only [renderModelSource,bind_eq_ok] at h
  obtain ⟨sourceType,htype,h⟩ := h
  split at h
  · simp only [bind_eq_ok,pure_eq_ok] at h
    obtain ⟨modelId,-,rfl⟩ := h
    exact ⟨rfl,.inl ⟨rfl,rfl⟩⟩
  · split at h
    · simp only [bind_eq_ok,pure_eq_ok] at h
      obtain ⟨path,-,modelId,-,rfl⟩ := h
      exact ⟨rfl,.inl ⟨rfl,rfl⟩⟩
    · split at h
      next hurl =>
        simp only [bind_eq_ok,pure_eq_ok] at h
        obtain ⟨modelId,-,urls,hurls,rfl⟩ := h
        exact ⟨rfl,.inr ⟨hurl ▸ htype,rfl,hurls⟩⟩
      · obtain rfl := pure_eq_ok.1 h
        exact ⟨rfl,.inl ⟨rfl,rfl⟩⟩

lemma renderMaterialization_spec (h : renderMaterialization m block = .ok m') :
    m'.sourceUrl = m.sourceUrl ∧ m'.sourceUrls = m.sourceUrls ∧
      block.value "mode" (if m.localPath.isSome then "reference" else "copy") = .ok m'.materializationMode ∧
      m'.sourceNodeName = block.string? "source_node_name" ∧ block.arrayAs "source_paths" = .ok m'.sourcePaths := by
  simp only [renderMaterialization,bind_eq_ok] at h
  obtain ⟨mode,hmode,paths,hpaths,keepSource,-,h⟩ := h
  split at h
  · obtain rfl := pure_eq_ok.1 h
    exact ⟨rfl,rfl,hmode,rfl,hpaths⟩
  · simp only [renderWriteback,bind_eq_ok,pure_eq_ok] at h
    obtain ⟨enabled,-,ifMissing,-,rfl⟩ := h
    exact ⟨rfl,rfl,hmode,rfl,hpaths⟩

lemma renderModelObject_spec (hsource : model.object? "source" = some source) (h : renderModelObject model = .ok m) :
    ∃ m₀ served, renderModelSource source = .ok m₀ ∧
      m.sourceUrl = m₀.sourceUrl ∧ m.sourceUrls = m₀.sourceUrls ∧ model.value "served_model_name" "" = .ok served ∧
      m.servedModelName = (if served ≠ "" then some served else none) ∧
      (m.materializationMode = "prepare_on_worker" → ∃ block, model.object? "materialization" = some block ∧
        block.value "mode" "" = .ok "prepare_on_worker" ∧ m.sourceNodeName = block.string? "source_node_name" ∧
        block.arrayAs "source_paths" = .ok m.sourcePaths) := by
  simp only [renderModelObject,bind_eq_ok,pure_eq_ok,mapOption_eq_ok,hsource] at h
  obtain ⟨_,⟨hnone,-⟩ | ⟨_,m₀,hsome,hm₀,rfl⟩,materialized,hmat,served,hserved,rfl⟩ := h
  · simp at hnone
  · obtain rfl := some.inj hsome
    refine ⟨m₀,served,hm₀,?_⟩
    rcases hmat with ⟨-,rfl⟩ | ⟨block,m₁,hblock,hm₁,rfl⟩
    · refine ⟨rfl,rfl,hserved,rfl,fun hmode => ?_⟩
      -- without a materialization block the mode is the one of a fresh record
      simp [(renderModelSource_spec hm₀).1] at hmode
    · obtain ⟨hurl,hurls,hmode,hnode,hpaths⟩ := renderMaterialization_spec hm₁
      refine ⟨hurl,hurls,hserved,rfl,fun hprepare => ⟨block,hblock,?_,hnode,hpaths⟩⟩
      simp only [getD_some] at hprepare
      rw [hprepare] at hmode
      refine value_of_ne hmode ?_ ""
      split <;> decide

lemma model_ready (hv : validateModel doc = .ok ()) (htext : planeModeOf doc = .ok text)
    {o : Option BootstrapModelSpec} (hs : renderModel doc = .ok o) :
    (∀ m, o = some m → ModelReady m) ∧ (text = "llm" → ∃ m, o = some m ∧ isText m.servedModelName = true) := by
  simp only [validateModel,bind_eq_ok,htext,ok.injEq,exists_eq_left'] at hv
  cases hmodel : doc.get? "model" with
  | none =>
    simp only [hmodel,refuse_eq_ok,decide_eq_false_iff_not] at hv
    rw [renderModel,object?,hmodel,filter_none,mapOption,ok.injEq] at hs
    simp [← hs,hv]
  | some model =>
    simp only [hmodel,validateModelObject,bind_eq_ok,refuse_eq_ok,not_eq_false'] at hv
    obtain ⟨-,hobj,hv⟩ := hv
    cases hsource : model.object? "source" with
    | none => simp [hsource] at hv
    | some source =>
      simp only [hsource,bind_eq_ok,refuse_eq_ok,when_eq_ok,onSome_eq_ok,decide_eq_true_eq] at hv
      obtain ⟨sourceType,htype,-,-,_,hcheck,_,hserved,hmat⟩ := hv
      rw [renderModel,object?,hmodel,filter_isObject_some,hobj,if_pos rfl,mapOption,map_eq_ok] at hs
      obtain ⟨m,hm,rfl⟩ := hs
      obtain ⟨m₀,served,hm₀,hurl,hurls,hname,hservedName,hprepare⟩ := renderModelObject_spec hsource hm
      refine ⟨fun m' hm' => ?_,fun hllm => ⟨m,rfl,?_⟩⟩
      · obtain rfl := some.inj hm'
        refine ⟨fun hsome => ?_,fun hmode => ?_⟩
        · rcases (renderModelSource_spec hm₀).2 with ⟨h₁,h₂⟩ | ⟨htype',hu,hus⟩
          · simp [hurl,hurls,h₁,h₂] at hsome
          · obtain rfl := ok_unique htype htype'
            simp only [validateModelSource,bind_eq_ok,when_eq_ok,refuse_eq_ok] at hcheck
            obtain ⟨_,-,_,hcheck,-⟩ := hcheck
            obtain ⟨url,hvalue,hne⟩ := hcheck rfl
            rw [hurl,hu,hurls]
            by_cases hempty : url = ""
            · exact .inr (arrayAs_ne_nil hus (by simpa [hempty] using hne))
            · exact .inl ((isText_string? hvalue).2 hempty)
        · obtain ⟨block,hblock,hmode',hnode,hpaths⟩ := hprepare hmode
          have hcheck' := hmat block hblock
          simp only [validateMaterialization,bind_eq_ok,when_eq_ok,refuse_eq_ok,hmode',ok.injEq,
            exists_eq_left'] at hcheck'
          obtain ⟨_,-,_,hcheck',-⟩ := hcheck'
          obtain ⟨-,htypes,node,hvalue,-,hne,hsome⟩ := hcheck' rfl
          have hnone : m.sourceUrl = none ∧ m.sourceUrls = [] := by
            rcases (renderModelSource_spec hm₀).2 with ⟨h₁,h₂⟩ | ⟨htype',-⟩
            · exact ⟨hurl.trans h₁,hurls.trans h₂⟩
            · obtain rfl := ok_unique htype htype'
              simp at htypes
          refine ⟨hnone.1,hnone.2,?_,arrayAs_ne_nil hpaths hsome⟩
          rw [hnode,isText_string? hvalue]
          simpa using hne
      · obtain ⟨served',hserved',hne⟩ := hserved hllm
        obtain rfl := ok_unique hname hserved'
        have hne : served ≠ "" := by simpa using hne
        simp [hservedName,hne,isText]

lemma get?_of_objectAt {member : String} (h : (j.objectAt key).get? member = some v) :
    j.get? key = some (j.objectAt key) ∧ (j.objectAt key).isObject = true := by
  unfold objectAt object? at *
  cases hget : j.get? key with
  | none => simp [hget] at h
  | some w =>
    by_cases hobj : w.isObject = true
    · simp [hobj]
    · simp [hget,hobj] at h

lemma get?_of_enabled (h : (j.objectAt key).value "enabled" false = .ok true) :
    j.get? key = some (j.objectAt key) := by
  rcases value_cases h with ⟨v,hget,-⟩ | ⟨-,hfalse⟩
  · exact (get?_of_objectAt hget).1
  · simp at hfalse

lemma enabledFeature_spec {α : Type} {render : Json → Checked α} {a : α}
    (h : enabledFeature features key render = .ok (some a)) : ∃ block, features.object? key = some block ∧
      block.value "enabled" false = .ok true ∧ render block = .ok a := by
  unfold enabledFeature at h
  split at h
  · simp at h
  next block hblock =>
    obtain ⟨-,hnone⟩ | ⟨henabled,b,hb,hab⟩ := mapOption_if_eq_ok.1 h
    · cases hnone
    · obtain rfl := some.inj hab
      exact ⟨block,hblock,henabled,hb⟩

lemma object?_eq_some : j.object? key = some v ↔ j.get? key = some v ∧ v.isObject = true := by
  simp [object?,filter_eq_some_iff]

lemma feature_checked {α : Type} {render : Json → Checked α} {check : Json → Checked Unit} {o : Option α} {a : α}
    {P : Prop} (h : enabledFeature (doc.objectAt "features") key render = .ok o) (ho : o = some a)
    (hv : ∀ features, doc.get? "features" = some features → onSome (features.get? key) check = .ok ())
    (hP : ∀ block, check block = .ok () → block.value "enabled" false = .ok true → render block = .ok a → P) : P := by
  subst ho
  obtain ⟨block,hblock,henabled,hrender⟩ := enabledFeature_spec h
  have hget := (object?_eq_some.1 hblock).1
  exact hP block (onSome_eq_ok.1 (hv _ (get?_of_objectAt hget).1) block hget) henabled hrender

lemma library_paths (hv : validateLibrarySource fieldName source = .ok ())
    (hpath : source.value "path" "" = .ok path) (hpaths : source.arrayAs "paths" = .ok paths) :
    isAbsolutePath path = true ∧ ∀ q ∈ paths, isAbsolutePath q = true := by
  simp only [validateLibrarySource,bind_eq_ok,refuse_eq_ok,not_eq_false'] at hv
  obtain ⟨sourceType,-,-,-,path',hpath',-,habs,-,-,-,hall,-⟩ := hv
  obtain rfl := ok_unique hpath hpath'
  refine ⟨habs,fun q hq => ?_⟩
  rw [arrayAs_eq] at hpaths
  obtain ⟨item,hitem,hget⟩ := mapM_mem_right hpaths hq
  have := all_eq_true.1 hall item hitem
  simpa [isAbsolutePathItem,get_string hget] using this

lemma env_valid (hv : validateModelEnv fieldName defaultEnv model = .ok ())
    (henv : model.value "env" defaultEnv = .ok env) (hne : env ≠ "") : isValidEnvName env = true := by
  simp only [validateModelEnv,bind_eq_ok,refuse_eq_ok] at hv
  obtain ⟨-,-,env',henv',-,hvalid,-⟩ := hv
  obtain rfl := ok_unique henv henv'
  simpa [hne] using hvalid

lemma voiceModel_ready {m : AppModelMountSpec} (hv : validateVoiceModel fieldName defaultEnv model = .ok ())
    (hm : renderVoiceModel defaultName defaultMountPath defaultEnv model = .ok m) : MountReady m := by
  simp only [validateVoiceModel,bind_eq_ok,refuse_eq_ok] at hv
  obtain ⟨-,-,hv⟩ := hv
  cases hsource : model.object? "source" with
  | none => simp [hsource] at hv
  | some source =>
    simp only [hsource,bind_eq_ok,refuse_eq_ok,not_eq_false'] at hv
    obtain ⟨_,hlibrary,mountPath',hmount',-,habs,henv⟩ := hv
    simp only [renderVoiceModel,objectAt,hsource,getD_some,bind_eq_ok,pure_eq_ok] at hm
    obtain ⟨name,-,path,hpath,node,-,paths,hpaths,mountPath,hmount,env,henv',required,-,rfl⟩ := hm
    obtain ⟨hpath',hpaths'⟩ := library_paths hlibrary hpath hpaths
    obtain rfl := ok_unique (value_of_ne hmount' (by rintro rfl; simp [isAbsolutePath] at habs) _) hmount
    refine ⟨hpath',?_,habs,fun hne => env_valid henv henv' hne⟩
    split
    · simpa using hpath'
    · exact hpaths'

lemma integer_accepted {default n : Int32} {refused : Int32 → Bool}
    (hv : ((j.get? key).any (·.badInteger refused)) = false) (hdefault : refused default = false)
    (h : j.value key default = .ok n) : refused n = false := by
  rcases value_cases h with ⟨v,hget,hn⟩ | ⟨-,rfl⟩
  · cases v <;> simp_all [badInteger,Codec.get]
  · exact hdefault

lemma contextPolicy_ready (hv : validateContextPolicy policy = .ok ()) (hq : renderContextPolicy policy = .ok q) :
    0 ≤ q.maxGraphDepth ∧ q.maxGraphDepth ≤ 2 ∧ 0 < q.tokenBudget := by
  simp only [validateContextPolicy,bind_eq_ok,refuse_eq_ok] at hv
  obtain ⟨-,-,-,-,-,hdepth,hbudget⟩ := hv
  simp only [renderContextPolicy,bind_eq_ok,pure_eq_ok] at hq
  obtain ⟨graph,-,depth,hdepth',budget,hbudget',rfl⟩ := hq
  have h₁ := integer_accepted hdepth (by decide) hdepth'
  have h₂ := integer_accepted hbudget (by decide) hbudget'
  simp only [or_eq_false_iff,decide_eq_false_iff_not,Int32.not_lt,Int32.not_le] at h₁ h₂
  exact ⟨h₁.1,h₁.2,h₂⟩

lemma knowledge_ready (htext : planeModeOf doc = .ok text)
    (hv : onSome (doc.get? "knowledge") (validateKnowledge doc) = .ok ())
    (h : renderKnowledgeSettings (doc.objectAt "knowledge") = .ok (some k)) : text = "llm" ∧ KnowledgeReady k := by
  obtain ⟨-,hnone⟩ | ⟨henabled,k',h,hk'⟩ := mapOption_if_eq_ok.1 h
  · cases hnone
  · obtain rfl := some.inj hk'
    have hcheck := onSome_eq_ok.1 hv _ (get?_of_enabled henabled)
    simp only [validateKnowledge,bind_eq_ok,refuse_eq_ok,when_eq_ok,onSome_eq_ok,henabled,htext,ok.injEq,
      exists_eq_left',forall_const] at hcheck
    obtain ⟨_,-,_,-,_,-,_,-,mode,hmode,_,hlatest,_,-,_,-,_,hpolicy,hllm⟩ := hcheck
    simp only [bind_eq_ok,mapOption_eq_ok,pure_eq_ok] at h
    obtain ⟨serviceId,-,mode',hmode',policy,hpolicy',rfl⟩ := h
    obtain rfl := ok_unique hmode hmode'
    have hready : 0 ≤ (policy.getD {}).maxGraphDepth ∧ (policy.getD {}).maxGraphDepth ≤ 2 ∧
        0 < (policy.getD {}).tokenBudget := by
      rcases hpolicy' with ⟨-,rfl⟩ | ⟨block,q,hblock,hq,rfl⟩
      · decide
      · exact contextPolicy_ready (hpolicy block (object?_eq_some.1 hblock).1) hq
    exact ⟨by simpa using hllm,by simpa using hlatest,⟨hready.1,hready.2.1⟩,hready.2.2⟩

lemma turboquant_ready (hv : validateTurboquant doc text block = .ok ())
    (henabled : block.value "enabled" false = .ok true) (h : renderTurboquant block = .ok t) :
    text = "llm" ∧ isSupportedTurboQuantCacheType (t.cacheTypeK.getD "turbo4") = true ∧
      isSupportedTurboQuantCacheType (t.cacheTypeV.getD "turbo4") = true := by
  simp only [validateTurboquant,bind_eq_ok,refuse_eq_ok,when_eq_ok,henabled,ok.injEq,exists_eq_left',forall_const,
    or_eq_false_iff,decide_eq_false_iff_not,not_not,not_eq_false'] at hv
  obtain ⟨_,-,_,-,_,-,runtime,-,engine,-,backend,-,_,⟨⟨hllm,-⟩,-⟩,cacheK,hk,cacheV,hv,_,hk',hv'⟩ := hv
  simp only [renderTurboquant,bind_eq_ok,hk,hv,ok.injEq,exists_eq_left',pure_eq_ok] at h
  rw [← h]
  exact ⟨hllm,hk',hv'⟩

lemma contextCompression_ready (hv : validateContextCompression text block = .ok ())
    (henabled : block.value "enabled" false = .ok true) (h : renderContextCompression block = .ok c) : text = "llm" ∧
      c.mode = "auto" ∧ c.target = "dialog_and_knowledge" ∧ c.memoryPriority = "balanced" := by
  simp only [validateContextCompression,bind_eq_ok,refuse_eq_ok,henabled,ok.injEq,exists_eq_left',
    Bool.true_and,decide_eq_false_iff_not,not_not] at hv
  obtain ⟨_,-,_,-,_,-,_,-,_,hllm,mode,hmode,target,htarget,priority,hpriority,_,rfl,_,rfl,rfl⟩ := hv
  simp only [renderContextCompression,bind_eq_ok,hmode,htarget,hpriority,ok.injEq,exists_eq_left',pure_eq_ok] at h
  rw [← h]
  exact ⟨hllm,rfl,rfl,rfl⟩

lemma voice_model_ready {voice : Json} (hcontains : voice.contains "model" = true)
    (hv : onSome (voice.get? "model") (validateVoiceModel fieldName defaultEnv) = .ok ())
    {o : Option AppModelMountSpec}
    (h : mapOption (voice.object? "model") (renderVoiceModel defaultName defaultMountPath defaultEnv) = .ok o) :
    MountReady (o.getD {}) := by
  obtain ⟨model,hmodel⟩ := isSome_iff_exists.1 hcontains
  have hcheck := onSome_eq_ok.1 hv model hmodel
  have hobj : model.isObject = true := by
    simp only [validateVoiceModel,bind_eq_ok,refuse_eq_ok,not_eq_false'] at hcheck
    exact hcheck.choose_spec.1
  rw [object?_eq_some.2 ⟨hmodel,hobj⟩,mapOption,map_eq_ok] at h
  obtain ⟨m,hm,rfl⟩ := h
  exact voiceModel_ready hcheck hm

lemma voiceListener_ready (hv : validateVoiceListener text block = .ok ())
    (henabled : block.value "enabled" false = .ok true) {v : VoiceListenerFeatureSpec}
    (h : renderVoiceListener block = .ok v) : text = "llm" ∧ v.wakePhrase ≠ "" ∧ MountReady v.model := by
  simp only [validateVoiceListener,bind_eq_ok,refuse_eq_ok,when_eq_ok,henabled,ok.injEq,exists_eq_left',forall_const,
    decide_eq_false_iff_not,not_not,not_eq_false'] at hv
  obtain ⟨_,-,_,-,_,-,_,-,_,-,_,⟨_,hllm,phrase,hphrase,_,hne,hcontains⟩,hmodel⟩ := hv
  simp only [renderVoiceListener,bind_eq_ok,hphrase,ok.injEq,exists_eq_left',pure_eq_ok] at h
  obtain ⟨language,-,model,hmodel',rfl⟩ := h
  exact ⟨hllm,hne,voice_model_ready hcontains hmodel hmodel'⟩

lemma voiceMaker_ready (hv : validateVoiceMaker text block = .ok ())
    (henabled : block.value "enabled" false = .ok true) {v : VoiceMakerFeatureSpec}
    (h : renderVoiceMaker block = .ok v) : text = "llm" ∧ MountReady v.model := by
  simp only [validateVoiceMaker,bind_eq_ok,refuse_eq_ok,when_eq_ok,henabled,ok.injEq,exists_eq_left',forall_const,
    decide_eq_false_iff_not,not_not,not_eq_false'] at hv
  obtain ⟨_,-,_,-,_,-,_,-,_,-,_,-,_,-,_,⟨_,hllm,hcontains⟩,hmodel⟩ := hv
  simp only [renderVoiceMaker,bind_eq_ok,pure_eq_ok] at h
  obtain ⟨language,-,mode,-,instruct,-,format,-,model,hmodel',rfl⟩ := h
  exact ⟨hllm,voice_model_ready hcontains hmodel hmodel'⟩

lemma texts_of_items (hxs : (j.arrayAt key).map asString? = xs.map some) :
    j.stringsAt key = xs ∧ ∀ ids, j.arrayAs key = .ok ids → ids = xs := by
  constructor
  · calc j.stringsAt key
        = ((j.arrayAt key).map asString?).filterMap id := by rw [stringsAt,filterMap_map,Function.id_comp]
      _ = xs := by rw [hxs,filterMap_map,Function.id_comp,filterMap_some]
  · intro ids hids
    rw [arrayAs_eq] at hids
    rw [← mapM_map (fun a text h => (get_string h).symm) hids] at hxs
    exact map_injective_iff.2 (some_injective _) hxs

lemma securedConnection_ready (hv : validateSecuredConnection block = .ok ())
    (henabled : block.value "enabled" false = .ok true) (h : renderSecuredConnection block = .ok c) :
    DistinctTexts c.userIds ∧ c.userIds ≠ [] := by
  simp only [validateSecuredConnection,bind_eq_ok,refuse_eq_ok,henabled,ok.injEq,exists_eq_left',
    Bool.true_and,validateUniqueStrings_eq_ok] at hv
  obtain ⟨_,-,_,-,_,-,ids,⟨xs,hxs,hne,hnodup,rfl⟩,hsome⟩ := hv
  simp only [renderSecuredConnection,bind_eq_ok,pure_eq_ok] at h
  obtain ⟨ids,hids,rfl⟩ := h
  obtain rfl := (texts_of_items hxs).2 ids hids
  exact ⟨⟨fun x hx => (hne x hx).1,hnodup⟩,by simpa using hsome⟩

lemma features_ready (hv : validateFeatures r.doc = .ok ()) (hs : SettingsAt r s) (hr : BlocksOf r) :
    FeaturesReady s := by
  simp only [validateFeatures,bind_eq_ok] at hv
  obtain ⟨_,hknowledge,hfeatures⟩ := hv
  obtain ⟨text,htext,-⟩ := bind_eq_ok.1 hs.planeMode
  have hllm := planeMode_eq_llm (s := s) hs.planeMode htext
  -- each block is checked with the mode of the plane
  have hblocks : ∀ features, r.doc.get? "features" = some features →
      onSome (features.get? "voice_listener") (validateVoiceListener text) = .ok () ∧
      onSome (features.get? "turboquant") (validateTurboquant r.doc text) = .ok () ∧
      onSome (features.get? "context_compression") (validateContextCompression text) = .ok () ∧
      onSome (features.get? "secured_connection") validateSecuredConnection = .ok () ∧
      onSome (features.get? "voice_maker") (validateVoiceMaker text) = .ok () := by
    intro features hget
    have hcheck := onSome_eq_ok.1 hfeatures features hget
    simp only [validateFeatureBlocks,bind_eq_ok,htext,ok.injEq,exists_eq_left'] at hcheck
    obtain ⟨_,-,_,h₁,_,h₂,_,h₃,_,h₄,h₅⟩ := hcheck
    exact ⟨h₁,h₂,h₃,h₄,h₅⟩
  refine ⟨fun k hk => ?_,fun t ht => ?_,fun c hc => ?_,fun v hv => ?_,fun v hv => ?_,fun c hc => ?_⟩
  · rw [hllm]
    exact knowledge_ready htext hknowledge (by rw [← hr.knowledge,hs.knowledge,hk])
  · rw [hllm]
    exact feature_checked (hr.features ▸ hs.turboquant) ht (fun b hb => (hblocks b hb).2.1) fun _ hv he =>
      turboquant_ready hv he
  · rw [hllm]
    exact feature_checked (hr.features ▸ hs.contextCompression) hc (fun b hb => (hblocks b hb).2.2.1)
      fun _ hv he => contextCompression_ready hv he
  · rw [hllm]
    exact feature_checked (hr.features ▸ hs.voiceListener) hv (fun b hb => (hblocks b hb).1) fun _ hv he =>
      voiceListener_ready hv he
  · rw [hllm]
    exact feature_checked (hr.features ▸ hs.voiceMaker) hv (fun b hb => (hblocks b hb).2.2.2.2) fun _ hv he =>
      voiceMaker_ready hv he
  · exact feature_checked (hr.features ▸ hs.securedConnection) hc (fun b hb => (hblocks b hb).2.2.2.1)
      fun _ hv he => securedConnection_ready hv he

lemma appHost_ready (hv : validatePlacement doc = .ok ()) (h : renderPlacementAppHost doc = .ok (some a)) :
    AppHostReady a := by
  simp only [renderPlacementAppHost,mapOption_eq_ok] at h
  obtain ⟨-,hnone⟩ | ⟨block,_,hblock,h,ha⟩ := h
  · simp at hnone
  · obtain rfl := some.inj ha
    have hget := (object?_eq_some.1 hblock).1
    have hcheck := onSome_eq_ok.1 hv _ (get?_of_objectAt hget).1
    simp only [bind_eq_ok,refuse_eq_ok,onSome_eq_ok] at hcheck
    obtain ⟨_,-,_,-,_,-,node,-,_,-,hhost⟩ := hcheck
    have hhost := hhost block hget
    simp only [validateAppHost,bind_eq_ok,refuse_eq_ok,decide_eq_false_iff_not] at hhost
    obtain ⟨_,-,address,haddress,_,hne,_,h₁,_,h₂,h₃⟩ := hhost
    simp only [renderAppHost,bind_eq_ok,haddress,ok.injEq,exists_eq_left',pure_eq_ok] at h
    rw [← h]
    refine ⟨hne,?_⟩
    simp only [hasText,isText,and_eq_false_iff,not_eq_false',or_eq_false_iff,or_eq_true,
      and_eq_true] at h₁ h₂ h₃ ⊢
    cases hk : (block.string? "ssh_key_path").any (· ≠ "") <;> cases hu : (block.string? "username").any (· ≠ "") <;>
      cases hp : (block.string? "password").any (· ≠ "") <;> simp_all

lemma renderPlacementTarget_spec {t : String} (h : renderPlacementTarget doc = .ok (some t)) :
    ∃ node, t = "node:" ++ node ∧ node ≠ "" := by
  unfold renderPlacementTarget at h
  split at h
  · simp at h
  · simp only [bind_eq_ok,pure_eq_ok] at h
    obtain ⟨node,-,h⟩ := h
    split at h
    next hne => exact ⟨node,(some.inj h).symm,hne⟩
    · simp at h

lemma renderNode_name (h : renderNode node = .ok n) : node.atAs "name" = .ok n.name := by
  simp only [renderNode,bind_eq_ok,pure_eq_ok] at h
  obtain ⟨name,hname,platform,-,text,-,mode,-,memory,-,rfl⟩ := h
  exact hname

lemma rendered_names {items : List Json} {listed : List NodeInventory} {names : List String}
    (h : Forall₂ (fun node n => renderNode node = .ok n) items listed)
    (hnames : Forall₂ (fun node name => node.isObject = true ∧ node.value "name" "" = .ok name) items names) :
    listed.map (·.name) = names := by
  induction h generalizing names with
  | nil => simpa using (forall₂_nil_left_iff.1 hnames).symm
  | cons hnode _ ih =>
    obtain ⟨name,names,⟨-,hname⟩,hrest,rfl⟩ := forall₂_cons_left_iff.1 hnames
    rw [map_cons,ih hrest,ok_unique (value_of_atAs (renderNode_name hnode) _) hname]

lemma listed_names (hv : validateTopology doc = .ok ()) {listed : List NodeInventory}
    (h : ((doc.objectAt "topology").arrayAt "nodes").mapM renderNode = .ok listed) :
    DistinctTexts (listed.map (·.name)) := by
  cases hget : doc.get? "topology" with
  | none =>
    have hempty : (doc.objectAt "topology").arrayAt "nodes" = [] := by simp [objectAt,object?,hget,arrayAt,items]
    rw [hempty,mapM_eq_ok,forall₂_nil_left_iff] at h
    simp [h,DistinctTexts]
  | some topology =>
    have hcheck := onSome_eq_ok.1 hv topology hget
    simp only [bind_eq_ok,refuse_eq_ok,not_eq_false'] at hcheck
    obtain ⟨_,hobj,_,-,_,-,hnodes⟩ := hcheck
    obtain ⟨names,hnames,hall,hnodup⟩ := validateTopologyNodes_eq_ok.1 hnodes
    have hblock : doc.objectAt "topology" = topology := by simp [objectAt,object?,hget,hobj]
    rw [hblock] at h
    rw [rendered_names (mapM_eq_ok.1 h) hnames]
    exact ⟨fun name hname => (hall name hname).1,hnodup⟩

lemma nodes_ready (hv : validateTopology r.doc = .ok ()) (hs : SettingsAt r s) : NodesReady s := by
  have htarget : ∀ t, s.placementTarget = some t → ∃ node, t = "node:" ++ node ∧ node ≠ "" :=
    fun t ht => renderPlacementTarget_spec (hs.placementTarget.trans (congrArg _ ht))
  have hnodes := hs.nodes
  simp only [renderNodeTopology,bind_eq_ok,pure_eq_ok] at hnodes
  obtain ⟨listed,hlisted,hnodes⟩ := hnodes
  obtain ⟨hnamed,hnodup⟩ := listed_names hv hlisted
  split at hnodes
  next hne =>
    subst hnodes
    exact ⟨htarget,hne,fun n hn => hnamed _ (mem_map_of_mem hn),hnodup⟩
  · have hname : (targetNode? s.placementTarget).getD "local-hostd" ≠ "" := by
      cases ht : s.placementTarget with
      | none => decide
      | some t =>
        obtain ⟨node,rfl,hne⟩ := htarget t ht
        simpa [targetNode?,prefix_append_text,nodeTarget_drop] using hne
    refine ⟨htarget,?_,?_,?_⟩ <;> simp [← hnodes,mixedNode,hname]

lemma findInstance_eq_head? (s : DesiredState) (role : InstanceRole) :
    findInstance s role = (findInstances s role).head? :=
  List.head?_filter.symm

def Parts.ofRole (p : Parts) : InstanceRole → List InstanceSpec
  | .infer => p.infers
  | .worker => p.workers.map (·.spec)
  | .app => p.apps.map Prod.fst
  | .skills => p.skills.map Prod.fst
  | .browsing => p.gateways.map Prod.fst
  | .interaction => p.interactions.map Prod.fst
  | .voiceModule => p.modules.map Prod.fst
  | .voiceMaker => p.makers.map Prod.fst

lemma Parts.ofRole_cases (hi : i ∈ p.ofRole role) :
    role = .infer ∧ i ∈ p.infers ∨ role = .worker ∧ i ∈ p.workers.map (·.spec) ∨
      role = .app ∧ i ∈ p.apps.map Prod.fst ∨ ∃ e ∈ p.single role, e.1 = i := by
  cases role with
  | infer => exact .inl ⟨rfl,hi⟩
  | worker => exact .inr (.inl ⟨rfl,hi⟩)
  | app => exact .inr (.inr (.inl ⟨rfl,hi⟩))
  | skills | browsing | interaction | voiceModule | voiceMaker => exact .inr (.inr (.inr (mem_map.1 hi)))

lemma Renders.role_ofRole (h : Renders dump r p) (role : InstanceRole) : ∀ i ∈ p.ofRole role, i.role = role := by
  intro i hi
  rcases Parts.ofRole_cases hi with ⟨rfl,hi⟩ | ⟨rfl,hi⟩ | ⟨rfl,hi⟩ | ⟨e,he,rfl⟩
  · exact h.role_infers i hi
  · exact h.role_workers i hi
  · exact h.role_apps i hi
  · obtain ⟨-,-,_,_,hdisk⟩ := h.single he
    exact hdisk.role

def roleOrder : List InstanceRole :=
  [.infer,.worker,.app,.skills,.browsing,.interaction,.voiceModule,.voiceMaker]

lemma mem_roleOrder (role : InstanceRole) : role ∈ roleOrder := by cases role <;> decide

lemma instances_state (p : Parts) : p.state.instances = roleOrder.flatMap p.ofRole := by
  simp [Parts.state,Parts.hosts,Parts.services,roleOrder,Parts.ofRole]

lemma Renders.findInstances (h : Renders dump r p) (role : InstanceRole) :
    Projector.findInstances p.state role = p.ofRole role := by
  unfold Projector.findInstances
  rw [instances_state,Rows.filter_flatMap_key (by decide) h.role_ofRole (mem_roleOrder role)]

lemma share_checked (h : ∀ v, j.get? key = some v → validateGpuResourceBlock v fieldName flags = .ok ()) :
    validateGpuResourceBlock (j.objectAt key) fieldName flags = .ok () := by
  unfold objectAt
  cases hobj : j.object? key with
  | none => simp [validateGpuResourceBlock,isObject,value]
  | some v => exact h v (object?_eq_some.1 hobj).1

section Shares

variable (hv : validateGpuResourceBlock resources fieldName flags = .ok ())

include hv

lemma fraction_accepted {default fraction : ℚ}
    (hdefault : 0 < default ∧ default ≤ 1) (h : resources.value "gpu_fraction" default = .ok fraction) :
    0 < fraction ∧ fraction ≤ 1 := by
  simp only [validateGpuResourceBlock,bind_eq_ok,onSome_eq_ok] at hv
  obtain ⟨_,-,_,-,_,-,_,-,_,hcheck,-⟩ := hv
  rcases value_cases h with ⟨v,hget,hv⟩ | ⟨-,rfl⟩
  · have := hcheck v hget
    simp only [validateGpuFraction,bind_eq_ok,refuse_eq_ok,hv,ok.injEq,exists_eq_left',or_eq_false_iff,
      decide_eq_false_iff_not,not_le,gt_iff_lt,not_lt] at this
    exact this.choose_spec.2
  · exact hdefault

lemma memoryCap_positive {o : Option Int32} (h : resources.present "memory_cap_mb" = .ok o) :
    ∀ cap, o = some cap → 0 < cap := by
  simp only [validateGpuResourceBlock,bind_eq_ok,refuse_eq_ok] at hv
  obtain ⟨_,-,_,-,_,-,_,-,_,-,mode,-,_,-,_,hcap,-⟩ := hv
  rintro cap rfl
  unfold present at h
  cases hget : resources.get? "memory_cap_mb" with
  | none => simp [hget,presentOf] at h
  | some v =>
    cases v <;> simp_all [presentOf,badInteger,Codec.get]

lemma priority_accepted {default priority : Int32} (hdefault : 0 ≤ default)
    (h : resources.value "priority" default = .ok priority) : 0 ≤ priority := by
  simp only [validateGpuResourceBlock,bind_eq_ok,refuse_eq_ok] at hv
  obtain ⟨_,-,_,-,_,-,_,-,_,-,mode,-,_,-,_,-,_,hpriority,-⟩ := hv
  simpa using integer_accepted hpriority (by simpa using hdefault) h

end Shares

lemma voiceResources_checked (hv : validateVoiceModuleResources r.doc = .ok ()) (hr : BlocksOf r) :
    (∃ fieldName, validateGpuResourceBlock r.voiceModuleResources fieldName true = .ok ()) ∧
    validateGpuResourceBlock r.voiceMakerResources "resources.voice_maker" true = .ok () := by
  simp only [validateVoiceModuleResources,bind_eq_ok,onSome_eq_ok] at hv
  rw [hr.voiceModuleResources,hr.voiceMakerResources,hr.resources]
  constructor
  · cases hmodule : (r.doc.objectAt "resources").object? "voice_module" with
    | some v =>
      have hget := (object?_eq_some.1 hmodule).1
      obtain ⟨_,-,_,hcheck,-⟩ := hv _ (get?_of_objectAt hget).1
      exact ⟨_,hcheck v hget⟩
    | none =>
      refine ⟨"resources.voice_listener",?_⟩
      refine share_checked fun v hget => ?_
      obtain ⟨_,-,_,-,_,hcheck,-⟩ := hv _ (get?_of_objectAt hget).1
      exact hcheck v hget
  · refine share_checked fun v hget => ?_
    obtain ⟨_,-,_,-,_,-,hcheck⟩ := hv _ (get?_of_objectAt hget).1
    exact hcheck v hget

lemma workerCount_positive (hv : validateRuntime r.doc = .ok ()) (h : workerCount r = .ok total) :
    0 < total ∧ total < 2^31 := by
  simp only [workerCount,bind_eq_ok,pure_eq_ok,member_eq_ok] at h
  obtain ⟨runtime,hruntime,workers,hworkers,rfl⟩ := h
  simp only [validateRuntime,bind_eq_ok,refuse_eq_ok,member_eq_ok] at hv
  obtain ⟨runtime',hruntime',mode,-,engine,-,_,-,_,hpositive,-⟩ := hv
  obtain rfl := mem_unique hruntime hruntime'
  have hpos : 0 < workers := by
    rcases value_cases hworkers with ⟨v,hget,hv⟩ | ⟨hget,-⟩
    · rw [hget] at hpositive
      cases v <;> simp_all [badInteger,Codec.get]
    · simp [hget] at hpositive
  have hlt := Int32.toInt_lt workers
  rw [Int32.lt_iff_toInt_lt,Int32.toInt_zero] at hpos
  omega

lemma Renders.workers_ready (h : Renders dump r p) (hr : BlocksOf r) (hruntime : validateRuntime r.doc = .ok ())
    (hworker : validateWorker r.doc = .ok ()) : WorkersReady p.state := by
  obtain ⟨total,htotal,hall⟩ := h.workerAt
  obtain ⟨hpos,hlt⟩ := workerCount_positive hruntime htotal
  have hlength : (Projector.findInstances p.state .worker).length = total := by
    rw [h.findInstances,Parts.ofRole,length_map,← hall.length_eq,length_range]
  have hresources : validateGpuResourceBlock r.workerResources "resources.worker" false = .ok () := by
    simp only [validateWorker,validateWorkerResources,bind_eq_ok,onSome_eq_ok] at hworker
    obtain ⟨_,-,hresources⟩ := hworker
    rw [hr.workerResources,hr.resources]
    refine share_checked fun v hget => ?_
    obtain ⟨_,-,hworker⟩ := hresources _ (get?_of_objectAt hget).1
    exact hworker v hget
  refine ⟨fun hnil => ?_,hlength ▸ hlt,fun i hi => ?_⟩
  · simp [hnil] at hlength
    omega
  · rw [h.findInstances] at hi
    obtain ⟨w,hw,rfl⟩ := mem_map.1 hi
    obtain ⟨index,-,hat⟩ := forall₂_mem_right hall hw
    exact ⟨fraction_accepted hresources (by norm_num) hat.gpuFraction,memoryCap_positive hresources hat.memoryCapMb⟩

lemma voice_ready (hv : validateGpuResourceBlock resources fieldName flags = .ok ())
    (hfraction : 0 < defaultFraction ∧ defaultFraction ≤ 1) (hpriority : 0 ≤ defaultPriority)
    (h : ShareOf resources defaultFraction defaultPriority i) : ShareReady i ∧ 0 ≤ i.priority :=
  ⟨⟨fraction_accepted hv hfraction h.gpuFraction,memoryCap_positive hv h.memoryCapMb⟩,
    priority_accepted hv hpriority h.priority⟩

lemma voiceGpuInstance_mem (h : voiceGpuInstance s role = some i) :
    i ∈ Projector.findInstances s role ∧ i.gpuDevice.isSome := by
  rw [voiceGpuInstance,filter_eq_some_iff,findInstance_eq_head?] at h
  exact ⟨mem_of_mem_head? h.1,h.2⟩

lemma Renders.voices_ready (h : Renders dump r p) (hr : BlocksOf r) (hv : validateVoiceModuleResources r.doc = .ok ()) :
    (∀ i, voiceGpuInstance p.state .voiceModule = some i → ShareReady i ∧ 0 ≤ i.priority) ∧
    ∀ i, voiceGpuInstance p.state .voiceMaker = some i → ShareReady i ∧ 0 ≤ i.priority := by
  obtain ⟨⟨fieldName,hmodule⟩,hmaker⟩ := voiceResources_checked hv hr
  have hone {role i} (hi : voiceGpuInstance p.state role = some i) : i ∈ p.ofRole role ∧ i.gpuDevice.isSome :=
    h.findInstances role ▸ voiceGpuInstance_mem hi
  constructor
  · intro i hi
    obtain ⟨hmem,hgpu⟩ := hone hi
    obtain ⟨e,he,rfl⟩ := mem_map.1 hmem
    obtain ⟨-,config,hrender⟩ := h.moduleAt he
    exact voice_ready hmodule (by norm_num [voiceModule]) (by decide : (0 : Int32) ≤ 50)
      ((renderVoice_spec hrender).share hgpu)
  · intro i hi
    obtain ⟨hmem,hgpu⟩ := hone hi
    obtain ⟨e,he,rfl⟩ := mem_map.1 hmem
    obtain ⟨-,config,hrender⟩ := h.makerAt he
    exact voice_ready hmaker (by norm_num [voiceMaker]) (by decide : (0 : Int32) ≤ 45)
      ((renderVoice_spec hrender).share hgpu)

lemma app_checked (hv : validateApp doc = .ok ()) (happ : app ∈ appsOf doc) :
    ∃ fieldName requireName, validateSingleAppSpec doc app fieldName requireName = .ok () := by
  simp only [validateApp,bind_eq_ok,onSome_eq_ok] at hv
  obtain ⟨_,-,_,hlegacy,happs⟩ := hv
  unfold appsOf at happ
  split at happ
  next items hget =>
    obtain ⟨-,entries,hall,-⟩ := validateApps_eq_ok.1 (happs _ hget)
    obtain ⟨e,-,hok⟩ := forall₂_mem_left hall (by simpa using mem_of_mem_filter happ)
    exact ⟨_,_,hok.spec⟩
  · have hget := (object?_eq_some.1 (mem_toList.1 happ)).1
    have hcheck := hlegacy app hget
    simp only [validateLegacyApp,bind_eq_ok] at hcheck
    exact ⟨_,_,hcheck.choose_spec.2⟩

lemma appMount_ready {m : AppModelMountSpec} (hv : AppModelOk fieldName model e)
    (hm : renderAppModelMount s instanceName model = .ok m) :
    MountReady m ∧ m.name = e.1 ∧ m.mountPath = e.2 := by
  obtain ⟨source,hsource,hlibrary⟩ := hv.source
  simp only [renderAppModelMount,bind_eq_ok,pure_eq_ok,member_eq_ok,(object?_eq_some.1 hsource).1,some.injEq,
    exists_eq_left',hv.name,hv.mountPath,ok.injEq] at hm
  obtain ⟨path,hpath,node,-,paths,hpaths,env,henv,required,-,rfl⟩ := hm
  obtain ⟨hpath',hpaths'⟩ := library_paths hlibrary hpath hpaths
  refine ⟨⟨hpath',?_,hv.absolute,fun hne => env_valid hv.env henv hne⟩,rfl,rfl⟩
  split
  · simpa using hpath'
  · exact hpaths'

lemma appMounts_ready (hv : Forall₂ (AppModelOk fieldName) models entries)
    (hm : Forall₂ (fun model m => renderAppModelMount s instanceName model = .ok m) models mounts) :
    (∀ m ∈ mounts, MountReady m ∧ m.name ≠ "") ∧ mounts.map (·.name) = entries.map Prod.fst ∧
      mounts.map (·.mountPath) = entries.map Prod.snd := by
  induction hm generalizing entries with
  | nil => simp [forall₂_nil_left_iff.1 hv]
  | cons hfirst _ ih =>
    obtain ⟨e,entries,hok,hrest,rfl⟩ := forall₂_cons_left_iff.1 hv
    obtain ⟨hready,hname,hpath⟩ := appMount_ready hok hfirst
    obtain ⟨hall,hnames,hpaths⟩ := ih hrest
    refine ⟨forall_mem_cons.2 ⟨⟨hready,hname ▸ hok.named⟩,hall⟩,?_,?_⟩
    · rw [map_cons,map_cons,hname,hnames]
    · rw [map_cons,map_cons,hpath,hpaths]

lemma AppAt.ready (h : AppAt r s index app e) (hv : validateSingleAppSpec doc app fieldName requireName = .ok ())
    (henabled : app.value "enabled" true = .ok true) : AppReady e.1 := by
  simp only [validateSingleAppSpec,fieldEnabledByDefault,bind_eq_ok,when_eq_ok,henabled,ok.injEq,exists_eq_left',
    forall_const,validateEnabledApp,refuse_eq_ok,decide_eq_false_iff_not] at hv
  obtain ⟨_,-,_,-,image,himage,_,hne,_,-,_,-,_,-,_,-,hmodels⟩ := hv
  obtain rfl := ok_unique h.image himage
  obtain ⟨entries,hall,-,hnames,hpaths⟩ := validateAppModels_eq_ok.1 hmodels
  obtain ⟨hready,hnames',hpaths'⟩ := appMounts_ready hall (mapM_eq_ok.1 h.mounts)
  exact ⟨hne,hready,hnames' ▸ hnames,hpaths' ▸ hpaths⟩

lemma Renders.skills_ready (h : Renders dump r p) (hr : BlocksOf r) (hv : validateSkills r.doc = .ok ()) :
    SkillsReady p.state := by
  have hs := h.settingsAt
  obtain ⟨enabled,henabled,hskills⟩ := bind_eq_ok.1 hs.skills
  replace hskills := (pure_eq_ok.1 hskills).symm
  constructor
  · intro k hk
    change p.settings.skills = some k at hk
    rw [hskills] at hk
    cases enabled with
    | false => simp at hk
    | true =>
      obtain rfl := some.inj hk
      rw [hr.skills] at henabled
      have hcheck := onSome_eq_ok.1 hv _ (get?_of_enabled henabled)
      simp only [bind_eq_ok,refuse_eq_ok,fieldEnabledByDefault,henabled,ok.injEq,exists_eq_left',when_eq_ok,
        forall_const,validateEnabledSkills,decide_eq_false_iff_not,not_not,validateUniqueStrings_eq_ok] at hcheck
      obtain ⟨_,-,text,htext,_,hllm,_,-,_,-,ids,⟨xs,hxs,hne,hnodup,rfl⟩,-⟩ := hcheck
      refine ⟨(planeMode_eq_llm hs.planeMode htext).2 hllm,rfl,?_⟩
      rw [hr.skills,(texts_of_items hxs).1]
      exact ⟨fun x hx => (hne x hx).1,hnodup⟩
  · intro i hi
    rw [findInstance_eq_head?,h.findInstances] at hi
    obtain ⟨e,he,rfl⟩ := mem_map.1 (mem_of_mem_head? hi)
    obtain rfl := ok_unique (h.skillsAt he).1 henabled
    exact ⟨_,hskills.trans (if_pos rfl)⟩

lemma domains_ready (hv : validateDomainList policy fieldName = .ok ()) :
    DistinctTexts (policy.stringsAt fieldName) := by
  simp only [validateDomainList,bind_eq_ok,validateUniqueStrings_eq_ok] at hv
  obtain ⟨_,-,ids,⟨xs,hxs,hne,hnodup,-⟩,-⟩ := hv
  rw [(texts_of_items hxs).1]
  exact ⟨fun x hx => (hne x hx).1,hnodup⟩

lemma browsingPolicy_ready (hv : validateBrowsingPolicy policy = .ok ()) (hq : renderBrowsingPolicy policy = .ok q) :
    BrowsingPolicyReady q := by
  simp only [validateBrowsingPolicy,bind_eq_ok] at hv
  obtain ⟨_,-,_,-,_,-,_,-,_,-,_,-,_,-,_,hallowed,_,hblocked,_,htargets,_,hresults,hbytes⟩ := hv
  simp only [renderBrowsingPolicy,bind_eq_ok,pure_eq_ok] at hq
  obtain ⟨cef,-,session,-,rendered,-,login,-,review,-,version,-,results,hresults',bytes,hbytes',rfl⟩ := hq
  have h₁ := integer_accepted (refuse_eq_ok.1 hresults) (by decide) hresults'
  have h₂ := integer_accepted (refuse_eq_ok.1 hbytes) (by decide) hbytes'
  exact ⟨domains_ready hallowed,domains_ready hblocked,domains_ready htargets,by simpa using h₁,by simpa using h₂⟩

lemma renderBrowsingSettings_spec (h : renderBrowsingSettings browsing = .ok o) :
    browsing.value "enabled" false = .ok false ∧ o = none ∨
    browsing.value "enabled" false = .ok true ∧ ∃ policy,
      mapOption (browsing.object? "policy") renderBrowsingPolicy = .ok policy ∧ o = some {enabled := true, policy} := by
  refine (mapOption_if_eq_ok.1 h).imp_right fun ⟨henabled,_,hpolicy,ho⟩ => ⟨henabled,?_⟩
  simp only [bind_eq_ok,pure_eq_ok] at hpolicy
  obtain ⟨policy,hpolicy,rfl⟩ := hpolicy
  exact ⟨policy,hpolicy,ho⟩

lemma browsing_checked (hv : validateBrowsing r.doc = .ok ()) (hr : BlocksOf r)
    (henabled : r.browsing.value "enabled" false = .ok true) :
    planeModeOf r.doc = .ok "llm" ∧ validateEnabledBrowsing r.doc r.browsing = .ok () := by
  cases hblock : (r.doc.object? "webgateway").or (r.doc.object? "browsing") with
  | none =>
    rw [hr.browsing,hblock] at henabled
    simp [value] at henabled
  | some browsing =>
    obtain hbrowsing : r.browsing = browsing := by rw [hr.browsing,hblock,getD_some]
    rw [hbrowsing] at henabled ⊢
    have hcheck := onSome_eq_ok.1 hv browsing hblock
    simp only [bind_eq_ok,refuse_eq_ok,fieldEnabledByDefault,henabled,ok.injEq,exists_eq_left',when_eq_ok,
      forall_const,decide_eq_false_iff_not,not_not] at hcheck
    obtain ⟨text,htext,_,rfl,hcheck⟩ := hcheck
    exact ⟨htext,hcheck⟩

lemma port_loopback (hv : validatePublishEntry entry = .ok ()) (h : renderPublishedPort entry = .ok port) :
    isLoopback port.hostIp := by
  simp only [validatePublishEntry,bind_eq_ok,refuse_eq_ok] at hv
  obtain ⟨_,-,_,-,hip⟩ := hv
  simp only [renderPublishedPort,bind_eq_ok,pure_eq_ok] at h
  obtain ⟨ip,hvalue,hostPort,-,containerPort,-,rfl⟩ := h
  have hget := string?_getD hvalue
  cases hstring : entry.string? "host_ip" with
  | none =>
    rw [hstring,getD_none] at hget
    exact .inr (.inl hget.symm)
  | some text =>
    rw [hstring,getD_some] at hget
    rw [hstring,hget] at hip
    simp only [any_some,and_eq_false_iff,decide_eq_false_iff_not,not_not] at hip
    rcases hip with (hip | hip) | hip
    · exact .inl hip
    · exact .inr (.inl hip)
    · exact .inr (.inr hip)

lemma Renders.browsing_ready (h : Renders dump r p) (hr : BlocksOf r) (hv : validateBrowsing r.doc = .ok ()) :
    BrowsingReady p.state := by
  have hs := h.settingsAt
  constructor
  · intro b hb
    change p.settings.browsing = some b at hb
    rcases renderBrowsingSettings_spec hs.browsing with ⟨-,hnone⟩ | ⟨henabled,policy,hpolicy,hsome⟩
    · simp [hnone] at hb
    · obtain rfl := some.inj (hb.symm.trans hsome)
      obtain ⟨htext,hcheck⟩ := browsing_checked hv hr henabled
      refine ⟨(planeMode_eq_llm hs.planeMode htext).2 rfl,rfl,fun q hq => ?_⟩
      obtain rfl : policy = some q := hq
      rcases mapOption_eq_ok.1 hpolicy with ⟨-,hnone⟩ | ⟨block,_,hblock,hq,hsome⟩
      · simp at hnone
      · obtain rfl := some.inj hsome
        simp only [validateEnabledBrowsing,bind_eq_ok,onSome_eq_ok] at hcheck
        obtain ⟨_,-,_,-,_,-,_,hpolicies,-⟩ := hcheck
        exact browsingPolicy_ready (hpolicies block (object?_eq_some.1 hblock).1) hq
  · intro i hi
    rw [findInstance_eq_head?,h.findInstances] at hi
    obtain ⟨e,he,rfl⟩ := mem_map.1 (mem_of_mem_head? hi)
    obtain ⟨henabled,hrender,-⟩ := h.gatewayAt he
    constructor
    · rcases renderBrowsingSettings_spec hs.browsing with ⟨hfalse,-⟩ | ⟨-,policy,-,hsome⟩
      · simp [henabled] at hfalse
      · exact ⟨_,hsome⟩
    · obtain ⟨-,hcheck⟩ := browsing_checked hv hr henabled
      simp only [validateEnabledBrowsing,bind_eq_ok,each_eq_ok] at hcheck
      obtain ⟨_,-,_,-,_,hpublish,-⟩ := hcheck
      simp only [renderWebGateway,bind_eq_ok,pure_eq_ok] at hrender
      obtain ⟨node,-,image,-,command,-,size,-,custom,-,ports,hports,path,-,rfl⟩ := hrender
      intro port hport
      change port ∈ portsOr ports _ _ at hport
      unfold portsOr at hport
      split at hport
      · obtain rfl := mem_singleton.1 hport
        exact .inr (.inl rfl)
      · obtain ⟨entry,hentry,hrender⟩ := mapM_mem_right hports hport
        exact port_loopback (hpublish entry hentry) hrender

lemma Renders.settled (h : Renders dump r p) (hr : BlocksOf r) (hv : validateOrThrow r.doc = .ok ()) :
    Settled p.state := by
  obtain ⟨htop,hmodel,hfeatures,hruntime,hplacement,htopology,-,-,hworker,hvoices,happ,hskills,hbrowsing,-⟩ :=
    validateOrThrow_eq_ok.1 hv
  have hs := h.settingsAt
  obtain ⟨text,htext,-⟩ := bind_eq_ok.1 hs.planeMode
  have hllm := planeMode_eq_llm hs.planeMode htext
  obtain ⟨hengine,-,hrpc⟩ := runtime_ready hruntime hs
  obtain ⟨hmodels,hserved⟩ := model_ready hmodel htext hs.bootstrapModel
  have hfeatures' := features_ready hfeatures hs hr
  have hnodes := nodes_ready htopology hs
  obtain ⟨hmodule,hmaker⟩ := h.voices_ready hr hvoices
  exact {
    planeName := planeName_ne_empty htop hs.planeName, engine := hengine, llm := hrpc, model := hmodels
    served := fun hmode => hserved (hllm.1 hmode)
    features := ⟨hfeatures'.knowledge,hfeatures'.turboquant,hfeatures'.contextCompression,hfeatures'.voiceListener,
      hfeatures'.voiceMaker,hfeatures'.securedConnection⟩
    appHost := fun a ha => appHost_ready hplacement (hs.appHost.trans (congrArg _ ha))
    nodes := ⟨hnodes.target,hnodes.nonempty,hnodes.named,hnodes.nodup⟩
    workers := h.workers_ready hr hruntime hworker, voiceModule := hmodule, voiceMaker := hmaker
    apps := by
      intro i hi
      rw [h.findInstances] at hi
      obtain ⟨e,he,rfl⟩ := mem_map.1 hi
      obtain ⟨app,index,hmem,henabled,hat⟩ := h.appAt he
      rw [hr.apps] at hmem
      obtain ⟨fieldName,requireName,hcheck⟩ := app_checked happ (fst_mem_of_mem_zipIdx hmem)
      exact hat.ready hcheck henabled
    skills := h.skills_ready hr hskills, browsing := h.browsing_ready hr hbrowsing}

end Naim.Storage
