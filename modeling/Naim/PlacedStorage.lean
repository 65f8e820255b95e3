import Naim.LiveState

/-!
# Placed planes in storage

Dynamic placement keeps what makes a rendered plane settled, so that a placed plane
comes back from storage exactly when its document is accepted.
-/

namespace Naim.Storage

open Checked DynamicPlacement Json List Projector Renderer RuntimeSupport

variable {s t u : DesiredState} {i j : InstanceSpec}

lemma placed_worker (h : PlacedFrom i j) (hrole : i.role = .worker) (hi : ShareReady i) :
    ShareReady (refreshedInstance u j) ∧ hasGpu (refreshedInstance u j) = true := by
  have hsame := refreshedInstance_same u j
  refine ⟨⟨?_,fun cap hcap => ?_⟩,?_⟩
  · rw [hsame.gpuFraction]
    cases h with
    | kept => exact hi.fraction
    | placed c =>
      rw [placedInstance]
      split
      · norm_num
      · exact hi.fraction
  · rw [hsame.memoryCapMb] at hcap
    cases h <;> exact hi.memoryCapMb cap hcap
  · rw [hasGpu,hsame.role,hsame.gpuDevice]
    exact h.pinned (h.role_eq.trans hrole)

lemma filter_placed (h : Forall₂ PlacedFrom l placed) (hrole : role ≠ .worker) :
    (placed.map (refreshedInstance u)).filter (·.role = role) = l.filter (·.role = role) := by
  induction h with
  | nil => rfl
  | cons hij _ ih =>
    rw [map_cons,filter_cons,filter_cons,ih,(refreshedInstance_same u _).role,hij.role_eq]
    split
    · next hi =>
      have hworker := (of_decide_eq_true hi).trans_ne hrole
      cases hij with
      | kept => rw [refreshedInstance,if_neg (by simp [hworker])]
      | placed _ h => exact absurd h hworker
    · rfl

lemma Settled.of_workers (hs : Settled s) (hrest : ∀ role, role ≠ .worker → findInstances t role = findInstances s role)
    (hnodes : NodesReady t) (hworkers : WorkersReady t)
    (ht : t = {s with
      nodes := t.nodes, instances := t.instances, runtimeGpuNodes := t.runtimeGpuNodes, workerGroup := t.workerGroup}) :
    Settled t := by
  have hfind : ∀ role, role ≠ .worker → findInstance t role = findInstance s role := fun role hrole => by
    rw [findInstance_eq_head?,hrest role hrole,findInstance_eq_head?]
  have hf := hs.features
  cases t
  cases ht
  refine {
    hs with
    features := ⟨hf.knowledge,hf.turboquant,hf.contextCompression,hf.voiceListener,hf.voiceMaker,hf.securedConnection⟩
    nodes := hnodes, workers := hworkers, voiceModule := ?_, voiceMaker := ?_, apps := ?_
    skills := ⟨hs.skills.settings,?_⟩, browsing := ⟨hs.browsing.settings,?_⟩}
  · rw [voiceGpuInstance,hfind _ (by decide)]
    exact hs.voiceModule
  · rw [voiceGpuInstance,hfind _ (by decide)]
    exact hs.voiceMaker
  · rw [hrest _ (by decide)]
    exact hs.apps
  · rw [hfind _ (by decide)]
    exact hs.skills.instances
  · rw [hfind _ (by decide)]
    exact hs.browsing.instances

/-- A rendered plane whose workers are placed is read back after it was stored exactly if it is storable. -/
theorem placed_reload_iff (dump : Json → String) (clock : Clock) (observations : List HostObservation) (doc : Json)
    (s t : DesiredState) (h : render dump doc = .ok s)
    (ht : resolveDesiredStateDynamicPlacements clock observations s = .ok t) :
    (∃ t', render dump (project t) = .ok t') ↔ Storable t := by
  have hlive := render_live h ht
  obtain ⟨telemetry,placed,hplaced,hrefresh⟩ := render_placed h ht
  obtain ⟨-,-,-,-,hs,hbackend,-⟩ := render_spec h
  obtain ⟨members,-,rfl⟩ := refreshDerivedWorkerMetadata_eq_ok hrefresh
  have hworker : ∀ i ∈ (placed.map (refreshedInstance (withPlaced s telemetry placed))).filter (·.role = .worker),
      ShareReady i ∧ hasGpu i = true := fun i hi => by
    obtain ⟨hi,hrole⟩ := mem_filter.1 hi
    obtain ⟨j,hj,rfl⟩ := mem_map.1 hi
    obtain ⟨i,hmem,hij⟩ := forall₂_mem_right hplaced hj
    rw [(refreshedInstance_same _ _).role,hij.role_eq] at hrole
    exact placed_worker hij (of_decide_eq_true hrole) (hs.workers.share i (mem_filter.2 ⟨hmem,hrole⟩))
  have hne := length_pos_iff.1 hlive.worker
  obtain ⟨i,hi⟩ := exists_mem_of_ne_nil _ hne
  have hgpu := any_eq_true.2 ⟨i,hi,(hworker i hi).2⟩
  have hsettled := hs.of_workers (fun role => filter_placed hplaced) hlive.nodes
    ⟨hne,hlive.count,fun i hi => (hworker i hi).1⟩ rfl
  simpa using reload_iff (P := fun _ => True) ⟨fun _ _ => hgpu,fun _ _ => hgpu⟩ hsettled hbackend id
    fun _ _ hstore _ => ⟨fun _ => hstore,fun _ => trivial⟩

def pinnedPlane (workers : Int32) : Json := ofFields [
  field "version" (some (2 : Int32)),field "plane_name" (some "demo"),field "plane_mode" (some "compute"),
  ("placement",some (ofFields [field "execution_node" (some "node-a")])),
  ("runtime",some (ofFields [field "engine" (some "custom"),field "workers" (some workers)])),
  ("app",some (ofFields [field "enabled" (some false)]))]

def twoReported : Clock :=
  reportingClock {devices := ["0","1"].map fun gpuDevice => {gpuDevice, totalVramMb := 16384, freeVramMb := 16000}}

theorem placed_reload_single : ∃ s t, render (fun _ => "") (pinnedPlane 1) = .ok s ∧
    resolveDesiredStateDynamicPlacements twoReported reportingNode s = .ok t ∧ Storable t := by
  obtain ⟨s,t,hs,ht,t',ht',-⟩ : ∃ s t, render (fun _ => "") (pinnedPlane 1) = .ok s ∧
      resolveDesiredStateDynamicPlacements twoReported reportingNode s = .ok t ∧
      ∃ t', render (fun _ => "") (project t) = .ok t' ∧ True := by decide +kernel
  exact ⟨s,t,hs,ht,(placed_reload_iff _ _ _ _ s t hs ht).1 ⟨t',ht'⟩⟩

/-- Each worker gets a GPU of its own, and a plane without a topology cannot store that. -/
theorem placed_pair_refused : ∃ s t, render (fun _ => "") (pinnedPlane 2) = .ok s ∧
    resolveDesiredStateDynamicPlacements twoReported reportingNode s = .ok t ∧
    (render (fun _ => "") (project t)).isOk = false := by decide +kernel

end Naim.Storage
