import Naim.Json
import Naim.Models

/-!
# The settings of a plane as JSON

`StateJsonSettingsCodecs`: what is written of the settings of a plane and how
they are read back. Only the writeback settings of a model that is not written
back are lost.
-/

namespace Naim.StateJsonSettingsCodecs

open Json

variable (m : BootstrapModelSpec) (j : Json)

def completionPolicyToJson (p : CompletionPolicy) : Json :=
  ofFields [
    field "response_mode" (some p.responseMode),field "max_tokens" (some p.maxTokens),
    field "max_continuations" (some p.maxContinuations),
    field "max_total_completion_tokens" (some p.maxTotalCompletionTokens),
    field "max_elapsed_time_ms" (some p.maxElapsedTimeMs),
    field "target_completion_tokens" p.targetCompletionTokens,field "semantic_goal" p.semanticGoal]

def completionPolicyOf : Checked CompletionPolicy := do
  let dflt : CompletionPolicy := {}
  let responseMode ← j.value "response_mode" dflt.responseMode
  let maxTokens ← j.value "max_tokens" dflt.maxTokens
  let targetCompletionTokens ← j.optional "target_completion_tokens"
  let maxContinuations ← j.value "max_continuations" dflt.maxContinuations
  let maxTotalCompletionTokens ← j.value "max_total_completion_tokens" dflt.maxTotalCompletionTokens
  let maxElapsedTimeMs ← j.value "max_elapsed_time_ms" dflt.maxElapsedTimeMs
  let semanticGoal ← j.optional "semantic_goal"
  pure {
    responseMode, maxTokens, targetCompletionTokens, maxContinuations, maxTotalCompletionTokens, maxElapsedTimeMs
    semanticGoal}

def completionPolicyFromJson (fieldName : String) : Checked (Option CompletionPolicy) :=
  match j.object? fieldName with
  | none => .ok none
  | some policy => some <$> completionPolicyOf policy

def interactionSettingsToJson (i : InteractionSettings) : Json :=
  ofFields [
    field "thinking_enabled" (some i.thinkingEnabled),
    field "default_response_language" (some i.defaultResponseLanguage),
    field "supported_response_languages" (some i.supportedResponseLanguages),
    field "follow_user_language" (some i.followUserLanguage),field "image" i.image,
    field "system_prompt" i.systemPrompt,field "analysis_system_prompt" i.analysisSystemPrompt,
    field "default_temperature" i.defaultTemperature,field "default_top_p" i.defaultTopP,
    field "completion_policy" (i.completionPolicy.map completionPolicyToJson),
    field "long_completion_policy" (i.longCompletionPolicy.map completionPolicyToJson),
    field "analysis_completion_policy" (i.analysisCompletionPolicy.map completionPolicyToJson),
    field "analysis_long_completion_policy" (i.analysisLongCompletionPolicy.map completionPolicyToJson)]

def interactionSettingsFromJson : Checked InteractionSettings := do
  let dflt : InteractionSettings := {}
  let image ← j.optional "image"
  let systemPrompt ← j.optional "system_prompt"
  let analysisSystemPrompt ← j.optional "analysis_system_prompt"
  let thinkingEnabled ← j.value "thinking_enabled" dflt.thinkingEnabled
  let defaultTemperature ← j.optional "default_temperature"
  let defaultTopP ← j.optional "default_top_p"
  let defaultResponseLanguage ← j.value "default_response_language" dflt.defaultResponseLanguage
  let supportedResponseLanguages ← j.value "supported_response_languages" []
  let followUserLanguage ← j.value "follow_user_language" dflt.followUserLanguage
  let completionPolicy ← completionPolicyFromJson j "completion_policy"
  let longCompletionPolicy ← completionPolicyFromJson j "long_completion_policy"
  let analysisCompletionPolicy ← completionPolicyFromJson j "analysis_completion_policy"
  let analysisLongCompletionPolicy ← completionPolicyFromJson j "analysis_long_completion_policy"
  pure {
    image, systemPrompt, analysisSystemPrompt, thinkingEnabled, defaultTemperature, defaultTopP
    defaultResponseLanguage, supportedResponseLanguages, followUserLanguage, completionPolicy, longCompletionPolicy
    analysisCompletionPolicy, analysisLongCompletionPolicy}

@[simp] lemma completionPolicyOf_toJson (p : CompletionPolicy) :
    completionPolicyOf (completionPolicyToJson p) = .ok p := by
  simp [completionPolicyOf,completionPolicyToJson,Json.optional]

lemma completionPolicyFromJson_eq {j : Json} {key : String} (h : j.get? key = policy.map completionPolicyToJson) :
    completionPolicyFromJson j key = .ok policy := by
  have hobject : j.object? key = policy.map completionPolicyToJson := by
    rw [object?,h]
    exact filter_isObject_map (fun _ => isObject_ofFields _) policy
  unfold completionPolicyFromJson
  rw [hobject]
  cases policy <;> simp

lemma interactionSettingsFromJson_toJson (i : InteractionSettings) :
    interactionSettingsFromJson (interactionSettingsToJson i) = .ok i := by
  have h₁ : completionPolicyFromJson (interactionSettingsToJson i) "completion_policy" =
      .ok i.completionPolicy := completionPolicyFromJson_eq (by simp [interactionSettingsToJson])
  have h₂ : completionPolicyFromJson (interactionSettingsToJson i) "long_completion_policy" =
      .ok i.longCompletionPolicy := completionPolicyFromJson_eq (by simp [interactionSettingsToJson])
  have h₃ : completionPolicyFromJson (interactionSettingsToJson i) "analysis_completion_policy" =
      .ok i.analysisCompletionPolicy := completionPolicyFromJson_eq (by simp [interactionSettingsToJson])
  have h₄ : completionPolicyFromJson (interactionSettingsToJson i) "analysis_long_completion_policy" =
      .ok i.analysisLongCompletionPolicy :=
    completionPolicyFromJson_eq (by simp [interactionSettingsToJson])
  unfold interactionSettingsFromJson
  rw [h₁,h₂,h₃,h₄]
  simp [interactionSettingsToJson,Json.optional]

def nonEmptyList (items : List String) : Option (List String) := elide [] items

def writebackToJson : Json :=
  ofFields [
    field "enabled" (some m.writebackEnabled),field "if_missing" (some m.writebackIfMissing),
    field "target_node_name" m.writebackTargetNodeName]

def bootstrapModelToJson : Json :=
  ofFields [
    field "model_id" (some m.modelId),field "materialization_mode" (some m.materializationMode),
    field "served_model_name" m.servedModelName,field "local_path" m.localPath,
    field "source_node_name" m.sourceNodeName,field "source_paths" (nonEmptyList m.sourcePaths),
    field "source_format" m.sourceFormat,field "source_quantization" m.sourceQuantization,
    field "desired_output_format" m.desiredOutputFormat,field "quantization" m.quantization,
    field "keep_source" (elide true m.keepSource),
    field "writeback" (if m.writebackEnabled then some (writebackToJson m) else none),
    field "source_url" m.sourceUrl,field "source_urls" (nonEmptyList m.sourceUrls),
    field "target_filename" m.targetFilename,field "sha256" m.sha256]

structure Writeback where
  enabled : Bool := false
  ifMissing : Bool := true
  targetNodeName : Option String := none

def writebackFromJson : Option Json → Checked Writeback
  | none => .ok {}
  | some j => do
    let dflt : Writeback := {}
    let enabled ← j.value "enabled" dflt.enabled
    let ifMissing ← j.value "if_missing" dflt.ifMissing
    let targetNodeName ← j.optional "target_node_name"
    pure {enabled, ifMissing, targetNodeName}

def bootstrapModelFromJson : Checked BootstrapModelSpec := do
  let dflt : BootstrapModelSpec := {}
  let modelId ← j.value "model_id" ""
  let materializationMode ← j.value "materialization_mode" dflt.materializationMode
  let servedModelName ← j.optional "served_model_name"
  let localPath ← j.optional "local_path"
  let sourceNodeName ← j.optional "source_node_name"
  let sourcePaths ← j.arrayAs "source_paths"
  let sourceFormat ← j.optional "source_format"
  let sourceQuantization ← j.optional "source_quantization"
  let desiredOutputFormat ← j.optional "desired_output_format"
  let quantization ← j.optional "quantization"
  let keepSource ← j.value "keep_source" dflt.keepSource
  let writeback ← writebackFromJson (j.object? "writeback")
  let sourceUrl ← j.optional "source_url"
  let sourceUrls ← j.arrayAs "source_urls"
  let targetFilename ← j.optional "target_filename"
  let sha256 ← j.optional "sha256"
  pure {
    modelId, servedModelName, materializationMode, localPath, sourceNodeName, sourcePaths, sourceFormat
    sourceQuantization, desiredOutputFormat, quantization, keepSource, writebackEnabled := writeback.enabled
    writebackIfMissing := writeback.ifMissing, writebackTargetNodeName := writeback.targetNodeName
    sourceUrl, sourceUrls, targetFilename, sha256}

/-- The writeback settings count only when it is enabled. -/
def storedModel : BootstrapModelSpec :=
  {m with
    writebackIfMissing := !m.writebackEnabled || m.writebackIfMissing
    writebackTargetNodeName := if m.writebackEnabled then m.writebackTargetNodeName else none}

@[simp] lemma getD_nonEmptyList (items : List String) : (nonEmptyList items).getD [] = items :=
  getD_elide [] items

lemma bootstrapModelFromJson_toJson : bootstrapModelFromJson (bootstrapModelToJson m) = .ok (storedModel m) := by
  have hwriteback : writebackFromJson ((bootstrapModelToJson m).object? "writeback") =
      .ok ⟨m.writebackEnabled,(storedModel m).writebackIfMissing,(storedModel m).writebackTargetNodeName⟩ := by
    have hget : (bootstrapModelToJson m).object? "writeback" =
        if m.writebackEnabled then some (writebackToJson m) else none := by
      cases h : m.writebackEnabled <;> simp [bootstrapModelToJson,object?,h,writebackToJson]
    rw [hget]
    cases h : m.writebackEnabled <;>
      simp [writebackFromJson,writebackToJson,Json.optional,storedModel,h]
  unfold bootstrapModelFromJson
  rw [hwriteback]
  simp [bootstrapModelToJson,Json.optional,arrayAs,storedModel]

def skillsSettingsToJson (skills : SkillsSettings) : Json :=
  ofFields [
    field "enabled" (some skills.enabled),field "factory_skill_ids" (nonEmptyList skills.factorySkillIds)]

def skillsSettingsFromJson : Checked SkillsSettings := do
  let enabled ← j.value "enabled" false
  pure {enabled, factorySkillIds := j.stringsAt "factory_skill_ids"}

lemma stringsAt_eq {j : Json} {key : String} {items : List String}
    (h : j.get? key = (nonEmptyList items).map toJson) : j.stringsAt key = items := by
  rw [stringsAt,arrayAt,h,items_getD_map,getD_nonEmptyList,List.filterMap_map]
  simp

lemma skillsSettingsFromJson_toJson (skills : SkillsSettings) :
    skillsSettingsFromJson (skillsSettingsToJson skills) = .ok skills := by
  have hids : (skillsSettingsToJson skills).stringsAt "factory_skill_ids" = skills.factorySkillIds :=
    stringsAt_eq (by simp [skillsSettingsToJson])
  unfold skillsSettingsFromJson
  rw [hids]
  simp [skillsSettingsToJson]

def browsingPolicyToJson (p : BrowsingPolicySettings) : Json :=
  ofFields [
    field "browser_session_enabled" (some p.browserSessionEnabled),
    field "rendered_browser_enabled" (some p.renderedBrowserEnabled),
    field "login_enabled" (some p.loginEnabled),field "max_search_results" (some p.maxSearchResults),
    field "max_fetch_bytes" (some p.maxFetchBytes),field "cef_enabled" (elide true p.cefEnabled),
    field "allowed_domains" (nonEmptyList p.allowedDomains),
    field "blocked_domains" (nonEmptyList p.blockedDomains),
    field "blocked_targets" (nonEmptyList p.blockedTargets),
    field "response_review_enabled" (elide true p.responseReviewEnabled),
    field "policy_version" (elide "webgateway-v1" p.policyVersion)]

def browsingSettingsToJson (browsing : BrowsingSettings) : Json :=
  ofFields [
    field "enabled" (some browsing.enabled),field "policy" (browsing.policy.map browsingPolicyToJson)]

def browsingPolicyFromJson : Checked BrowsingPolicySettings := do
  let dflt : BrowsingPolicySettings := {}
  let cefEnabled ← j.value "cef_enabled" dflt.cefEnabled
  let browserSessionEnabled ← j.value "browser_session_enabled" dflt.browserSessionEnabled
  let renderedBrowserEnabled ← j.value "rendered_browser_enabled" dflt.renderedBrowserEnabled
  let loginEnabled ← j.value "login_enabled" dflt.loginEnabled
  let responseReviewEnabled ← j.value "response_review_enabled" dflt.responseReviewEnabled
  let policyVersion ← j.value "policy_version" dflt.policyVersion
  let maxSearchResults ← j.value "max_search_results" dflt.maxSearchResults
  let maxFetchBytes ← j.value "max_fetch_bytes" dflt.maxFetchBytes
  pure {
    cefEnabled, browserSessionEnabled, renderedBrowserEnabled, loginEnabled
    allowedDomains := j.stringsAt "allowed_domains", blockedDomains := j.stringsAt "blocked_domains"
    blockedTargets := j.stringsAt "blocked_targets"
    responseReviewEnabled, policyVersion, maxSearchResults, maxFetchBytes}

lemma browsingPolicyFromJson_toJson (p : BrowsingPolicySettings) :
    browsingPolicyFromJson (browsingPolicyToJson p) = .ok p := by
  have hallowed : (browsingPolicyToJson p).stringsAt "allowed_domains" = p.allowedDomains :=
    stringsAt_eq (by simp [browsingPolicyToJson])
  have hblocked : (browsingPolicyToJson p).stringsAt "blocked_domains" = p.blockedDomains :=
    stringsAt_eq (by simp [browsingPolicyToJson])
  have htargets : (browsingPolicyToJson p).stringsAt "blocked_targets" = p.blockedTargets :=
    stringsAt_eq (by simp [browsingPolicyToJson])
  unfold browsingPolicyFromJson
  rw [hallowed,hblocked,htargets]
  simp [browsingPolicyToJson]

def browsingSettingsFromJson : Checked BrowsingSettings := do
  let enabled ← j.value "enabled" false
  let policy ← Checked.mapOption (j.object? "policy") browsingPolicyFromJson
  pure {enabled, policy}

lemma mapOption_map_ok {α β : Type} {read : Json → Checked β} {write : α → Json} {g : α → β}
    (h : ∀ a, read (write a) = .ok (g a)) (o : Option α) :
    Checked.mapOption (o.map write) read = .ok (o.map g) := by cases o <;> simp [Checked.mapOption,h]

lemma browsingSettingsFromJson_toJson (browsing : BrowsingSettings) :
    browsingSettingsFromJson (browsingSettingsToJson browsing) = .ok browsing := by
  have hpolicy : (browsingSettingsToJson browsing).object? "policy" = browsing.policy.map browsingPolicyToJson := by
    simp only [browsingSettingsToJson,object?]
    simp [filter_isObject_map (f := browsingPolicyToJson) fun _ => isObject_ofFields _]
  unfold browsingSettingsFromJson
  rw [hpolicy,mapOption_map_ok (g := id) browsingPolicyFromJson_toJson]
  simp [browsingSettingsToJson]

def knowledgeContextPolicyToJson (p : KnowledgeContextPolicySettings) : Json :=
  ofFields [
    field "include_graph" (some p.includeGraph),field "max_graph_depth" (some p.maxGraphDepth),
    field "token_budget" (some p.tokenBudget)]

def knowledgeSettingsToJson (k : KnowledgeSettings) : Json :=
  ofFields [
    field "enabled" (some k.enabled),field "service_id" (some k.serviceId),
    field "selection_mode" (some k.selectionMode),field "selected_knowledge_ids" (some k.selectedKnowledgeIds),
    field "context_policy" (some (knowledgeContextPolicyToJson k.contextPolicy))]

def knowledgeContextPolicyFromJson : Option Json → Checked KnowledgeContextPolicySettings
  | none => .ok {}
  | some j => do
    let dflt : KnowledgeContextPolicySettings := {}
    let includeGraph ← j.value "include_graph" dflt.includeGraph
    let maxGraphDepth ← j.value "max_graph_depth" dflt.maxGraphDepth
    let tokenBudget ← j.value "token_budget" dflt.tokenBudget
    pure {includeGraph, maxGraphDepth, tokenBudget}

def knowledgeSettingsFromJson : Checked KnowledgeSettings := do
  let dflt : KnowledgeSettings := {}
  let enabled ← j.value "enabled" dflt.enabled
  let serviceId ← j.value "service_id" dflt.serviceId
  let selectionMode ← j.value "selection_mode" dflt.selectionMode
  let contextPolicy ← knowledgeContextPolicyFromJson (j.object? "context_policy")
  pure {
    enabled, serviceId, selectionMode, selectedKnowledgeIds := j.stringsAt "selected_knowledge_ids"
    contextPolicy}

lemma knowledgeSettingsFromJson_toJson (k : KnowledgeSettings) :
    knowledgeSettingsFromJson (knowledgeSettingsToJson k) = .ok k := by
  have hids : (knowledgeSettingsToJson k).stringsAt "selected_knowledge_ids" = k.selectedKnowledgeIds := by
    simp [knowledgeSettingsToJson,stringsAt,arrayAt]
  have hpolicy : (knowledgeSettingsToJson k).object? "context_policy" =
      some (knowledgeContextPolicyToJson k.contextPolicy) := by
    simp [knowledgeSettingsToJson,object?,knowledgeContextPolicyToJson]
  unfold knowledgeSettingsFromJson
  rw [hids,hpolicy]
  simp [knowledgeSettingsToJson,knowledgeContextPolicyFromJson,knowledgeContextPolicyToJson]

def externalAppHostToJson (host : ExternalAppHostConfig) : Json :=
  ofFields [
    field "address" (some host.address),field "ssh_key_path" host.sshKeyPath,field "username" host.username,
    field "password" host.password]

def externalAppHostFromJson : Checked ExternalAppHostConfig := do
  let address ← j.value "address" ""
  let sshKeyPath ← j.optional "ssh_key_path"
  let username ← j.optional "username"
  let password ← j.optional "password"
  pure {address, sshKeyPath, username, password}

end Naim.StateJsonSettingsCodecs
