import Naim.SchedulingPolicy
import Mathlib.Algebra.Order.BigOperators.Group.List

/-!
# What admission guarantees

`RequireSchedulingPolicy` adds up the workers of every GPU. This module says what an
accepted state guarantees for a GPU as a whole: its fractions, its exclusive
workers and its memory, which is added in 32-bit integers.
-/

namespace Naim.SchedulingPolicy

open List Int32

def reservationsOn (state : DesiredState) (nodeName gpuDevice : String) : List InstanceSpec :=
  state.instances.filter fun i => isOn nodeName gpuDevice i && 0 < i.gpuFraction

def isWorker (i : InstanceSpec) : Bool := i.role = .worker

variable {state u t : DesiredState}

lemma accepted_iff : requireSchedulingPolicy state = .ok () ↔
    (∀ i ∈ workers state, ∃ gpu node, Admissible state.nodes i gpu node) ∧
      ∀ n g, workersOn state n g ≠ [] → LoadAdmissible (workersOn state n g) (capacityMb state.nodes n g) := by
  rw [requireSchedulingPolicy_eq_ok,errors_eq_nil_iff]

variable {nodes : List NodeInventory} {ws ws' l : List InstanceSpec} {node : NodeInventory} {c : Option Int32}
  {i j : InstanceSpec} {gpu n g : String}

lemma findNode_of_nodup (h : (nodes.map (·.name)).Nodup) (hnode : node ∈ nodes) :
    findNode nodes node.name = some node := by
  cases hfind : findNode nodes node.name with
  | none => simpa using List.find?_eq_none.1 hfind node hnode
  | some found =>
    have hname : found.name = node.name := by simpa using List.find?_some hfind
    rw [inj_on_of_nodup_map h (mem_of_find?_eq_some hfind) hnode hname]

lemma memorySum_perm (h : ws.Perm ws') : memorySum ws = memorySum ws' := by
  refine h.foldl_eq' (fun i _ j _ m => ?_) 0
  rw [Int32.add_assoc,Int32.add_comm (i.memoryCapMb.getD 0),Int32.add_assoc]

lemma LoadAdmissible.perm (h : LoadAdmissible ws c) (hperm : ws.Perm ws') : LoadAdmissible ws' c where
  alone := fun i hi hs => hperm.length_eq ▸ h.alone i (hperm.mem_iff.2 hi) hs
  fraction := (hperm.map (·.gpuFraction)).sum_eq ▸ h.fraction
  memory := fun m hm => memorySum_perm hperm ▸ h.memory m hm

def shareOf (i : InstanceSpec) : GpuShareMode × ℚ × Option Int32 := (i.shareMode,i.gpuFraction,i.memoryCapMb)

lemma loadAdmissible_congr (h : ws.map shareOf = l.map shareOf) : LoadAdmissible ws c ↔ LoadAdmissible l c := by
  have hread : ∀ ws, LoadAdmissible ws c ↔
      (∀ e ∈ ws.map shareOf, e.1 = .exclusive → (ws.map shareOf).length ≤ 1) ∧
      ((ws.map shareOf).map (·.2.1)).sum ≤ 1 + kFractionEpsilon ∧
      ∀ m ∈ c, (ws.map shareOf).foldl (fun m e => m + e.2.2.getD 0) 0 ≤ m := by
    intro ws
    rw [forall_mem_map,length_map,map_map,foldl_map]
    exact ⟨fun h => ⟨h.alone,h.fraction,h.memory⟩,fun ⟨h₁,h₂,h₃⟩ => ⟨h₁,h₂,h₃⟩⟩
  rw [hread,hread,h]

/-- Fewer workers never share worse; only the memory sum can wrap around. -/
theorem loadAdmissible_sublist (h : LoadAdmissible ws c) (hpos : ∀ i ∈ ws, 0 < i.gpuFraction) (hl : l.Sublist ws) :
    LoadAdmissible l c ↔ ∀ m ∈ c, memorySum l ≤ m := by
  refine ⟨fun h' => h'.memory,fun hmemory => ⟨fun i hi hs => ?_,le_trans ?_ h.fraction,hmemory⟩⟩
  · exact hl.length_le.trans (h.alone i (hl.subset hi) hs)
  · exact List.Sublist.sum_le_sum (hl.map _) fun q hq => by
      obtain ⟨i,hi,rfl⟩ := mem_map.1 hq
      exact (hpos i hi).le

/-- A worker that owns its GPU is alone there, so that only its memory counts. -/
theorem loadAdmissible_exclusive (hs : i.shareMode = .exclusive) (hfraction : i.gpuFraction ≤ 1 + kFractionEpsilon) :
    LoadAdmissible (i::ws) c ↔ ws = [] ∧ ∀ m ∈ c, i.memoryCapMb.getD 0 ≤ m := by
  constructor
  · intro h
    have hnil : ws = [] := by simpa using h.alone i mem_cons_self hs
    subst hnil
    exact ⟨rfl,fun m hm => memorySum_singleton i ▸ h.memory m hm⟩
  · rintro ⟨rfl,hmemory⟩
    exact ⟨fun _ _ _ => le_rfl,by simpa using hfraction,fun m hm => (memorySum_singleton i).symm ▸ hmemory m hm⟩

structure SamePlacement (i j : InstanceSpec) : Prop where
  role : j.role = i.role
  nodeName : j.nodeName = i.nodeName
  gpuDevice : j.gpuDevice = i.gpuDevice
  shareMode : j.shareMode = i.shareMode
  gpuFraction : j.gpuFraction = i.gpuFraction
  priority : j.priority = i.priority
  preemptible : j.preemptible = i.preemptible
  memoryCapMb : j.memoryCapMb = i.memoryCapMb

lemma SamePlacement.admissible (hij : SamePlacement i j) (h : Admissible nodes i gpu node) :
    Admissible nodes j gpu node where
  pinned := hij.gpuDevice.trans h.pinned
  gpu_ne := h.gpu_ne
  priority := hij.priority ▸ h.priority
  fraction_pos := hij.gpuFraction ▸ h.fraction_pos
  fraction_le := hij.gpuFraction ▸ h.fraction_le
  memory := hij.memoryCapMb ▸ h.memory
  exclusive := fun hs => hij.gpuFraction ▸ h.exclusive (hij.shareMode ▸ hs)
  bestEffort := fun hs => hij.preemptible ▸ h.bestEffort (hij.shareMode ▸ hs)
  found := hij.nodeName ▸ h.found
  supported := h.supported
  present := h.present

lemma SamePlacement.isOn (h : SamePlacement i j) (n g : String) : isOn n g j = isOn n g i := by
  rw [SchedulingPolicy.isOn,h.nodeName,h.gpuDevice]
  rfl

lemma SamePlacement.shareOf (h : SamePlacement i j) : shareOf j = shareOf i := by
  rw [SchedulingPolicy.shareOf,h.shareMode,h.gpuFraction,h.memoryCapMb]
  rfl

section Map

variable {f : InstanceSpec → InstanceSpec} (hf : ∀ i, SamePlacement i (f i))
include hf

theorem accepted_of_map (hnodes : t.nodes = u.nodes) (hinstances : t.instances = u.instances.map f)
    (h : requireSchedulingPolicy u = .ok ()) : requireSchedulingPolicy t = .ok () := by
  obtain ⟨hadmissible,hload⟩ := accepted_iff.1 h
  rw [accepted_iff,hnodes]
  constructor
  · intro j hj
    obtain ⟨hj,hrole⟩ := mem_filter.1 hj
    rw [hinstances] at hj
    obtain ⟨i,hi,rfl⟩ := mem_map.1 hj
    rw [(hf i).role] at hrole
    obtain ⟨gpu,node,hi⟩ := hadmissible i (mem_filter.2 ⟨hi,hrole⟩)
    exact ⟨gpu,node,(hf i).admissible hi⟩
  · intro n g hne
    have hmap : workersOn t n g = (workersOn u n g).map f := by
      simp only [workersOn,workers,hinstances,filter_map,Function.comp_def,(hf _).role,(hf _).isOn]
    rw [hmap] at hne ⊢
    refine (loadAdmissible_congr ?_).2 (hload n g fun hnil => hne (by rw [hnil,map_nil]))
    simp [(hf _).shareOf]

end Map

lemma reservingWorkers_eq (h : ∀ i ∈ workers state, ∃ gpu node, Admissible state.nodes i gpu node)
    (n g : String) : (reservationsOn state n g).filter isWorker = workersOn state n g := by
  rw [reservationsOn,workersOn,workers,filter_filter,filter_filter]
  refine filter_congr fun i hi => ?_
  by_cases hw : i.role = .worker
  · obtain ⟨gpu,node,hadm⟩ := h i (mem_filter.2 ⟨hi,by simpa using hw⟩)
    simp [isWorker,hw,hadm.fraction_pos]
  · simp [isWorker,hw]

/-- The workers of an accepted state reserve at most a whole GPU, and an exclusive one is alone on it. -/
theorem accepted_workers_fit (state : DesiredState) (h : requireSchedulingPolicy state = .ok ())
    (n g : String) :
    (((reservationsOn state n g).filter isWorker).map (·.gpuFraction)).sum ≤ 1 + kFractionEpsilon ∧
      ∀ i ∈ (reservationsOn state n g).filter isWorker, i.shareMode = .exclusive →
        (reservationsOn state n g).filter isWorker = [i] := by
  obtain ⟨hadm,hload⟩ := accepted_iff.1 h
  rw [reservingWorkers_eq hadm]
  by_cases hne : workersOn state n g = []
  · rw [hne]
    exact ⟨by decide +kernel,by simp⟩
  · have hfit := hload n g hne
    refine ⟨hfit.fraction,fun i hi hs => ?_⟩
    obtain ⟨j,hj⟩ := length_eq_one_iff.1
      (le_antisymm (hfit.alone i hi hs) (length_pos_of_mem hi))
    rw [hj] at hi ⊢
    rw [mem_singleton.1 hi]

def voiceBesideWorker : DesiredState where
  planeName := "voice-maker-plane"
  nodes := [{name := "local-hostd", platform := "linux", gpuMemoryMb := [("0",24576)]}]
  instances := [
    {name := "worker-voice-maker-plane", role := .worker, nodeName := "local-hostd", gpuDevice := some "0",
     shareMode := .exclusive, gpuFraction := 1},
    {name := "voice-maker-voice-maker-plane", role := .voiceMaker, nodeName := "local-hostd",
     gpuDevice := some "0", shareMode := .shared, gpuFraction := 1/4, memoryCapMb := some 4096}]

/-- The policy accepts the state, though the GPU is reserved for more than a whole and the exclusive
worker shares it. -/
theorem voiceBesideWorker_accepted :
    requireSchedulingPolicy voiceBesideWorker = .ok () ∧
      1 + kFractionEpsilon <
        ((reservationsOn voiceBesideWorker "local-hostd" "0").map (·.gpuFraction)).sum ∧
      ∃ i ∈ reservationsOn voiceBesideWorker "local-hostd" "0", i.role = .worker ∧ i.shareMode = .exclusive ∧
        ∃ j ∈ reservationsOn voiceBesideWorker "local-hostd" "0", j.name ≠ i.name := by
  decide +kernel

def exclusiveWorker : InstanceSpec where
  name := "worker-a"
  role := .worker
  nodeName := "local-hostd"
  gpuDevice := some "0"
  shareMode := .exclusive
  gpuFraction := 1

def mixedWorkers : DesiredState where
  nodes := [{name := "local-hostd", platform := "linux", gpuMemoryMb := [("0",24576),("1",24576)]}]
  instances := [exclusiveWorker,
    {name := "worker-b", role := .worker, nodeName := "local-hostd", gpuDevice := some "1", shareMode := .shared
     gpuFraction := 2/3},
    {name := "worker-c", role := .worker, nodeName := "local-hostd", gpuDevice := some "1", shareMode := .bestEffort
     gpuFraction := 1/3, preemptible := true}]

/-- Two workers share the second GPU, and the first one is owned. -/
theorem accepted_workers_fit_mixed :
    requireSchedulingPolicy mixedWorkers = .ok () ∧
      (((reservationsOn mixedWorkers "local-hostd" "1").filter isWorker).map (·.gpuFraction)).sum ≤
        1 + kFractionEpsilon ∧
      (reservationsOn mixedWorkers "local-hostd" "0").filter isWorker = [exclusiveWorker] := by
  have h : requireSchedulingPolicy mixedWorkers = .ok () := by decide +kernel
  exact ⟨h,(accepted_workers_fit _ h "local-hostd" "1").1,
    (accepted_workers_fit _ h "local-hostd" "0").2 exclusiveWorker (by decide +kernel) rfl⟩

lemma max_zero_eq (a : Int32) : max 0 a = if 0 ≤ a then a else 0 := rfl

lemma zero_le_max_zero (a : Int32) : 0 ≤ max 0 a := by
  rw [max_zero_eq]
  split
  · assumption
  · exact Int32.le_refl 0

lemma le_of_le_max_zero {a b : Int32} (ha : 0 < a) (h : a ≤ max 0 b) : a ≤ b := by
  rw [max_zero_eq] at h
  split at h
  · exact h
  · exact absurd h (Int32.not_le.2 ha)

def memoryTotal (ws : List InstanceSpec) : ℤ := (ws.map fun i => (i.memoryCapMb.getD 0).toInt).sum

lemma toInt_foldl_add {α : Type} (f : α → Int32) (l : List α) :
    (l.foldl (fun m a => m + f a) 0).toInt = (l.map fun a => (f a).toInt).sum.bmod (2^32) := by
  induction l using List.reverseRecOn with
  | nil => rfl
  | append_singleton l a ih =>
    rw [foldl_append,foldl_cons,foldl_nil,toInt_add,ih,map_append,sum_append]
    simp

lemma toInt_memorySum (ws : List InstanceSpec) : (memorySum ws).toInt = (memoryTotal ws).bmod (2^32) :=
  toInt_foldl_add (fun i : InstanceSpec => i.memoryCapMb.getD 0) ws

lemma memoryTotal_nonneg (h : ∀ i ∈ ws, ∀ cap ∈ i.memoryCapMb, 0 < cap) : 0 ≤ memoryTotal ws := by
  refine sum_nonneg ?_
  intro x hx
  obtain ⟨i,hi,rfl⟩ := mem_map.1 hx
  cases hm : i.memoryCapMb with
  | none => simp
  | some cap =>
    have := lt_iff_toInt_lt.1 (h i hi cap hm)
    simpa using this.le

lemma toInt_memorySum_of_lt (h : ∀ i ∈ ws, ∀ cap ∈ i.memoryCapMb, 0 < cap) (hlt : memoryTotal ws < 2^31) :
    (memorySum ws).toInt = memoryTotal ws := by
  have hnonneg := memoryTotal_nonneg h
  rw [toInt_memorySum]
  exact Int.bmod_eq_of_le (by omega) (by omega)

lemma capacityMb_mem {c : Int32} (h : capacityMb nodes n g = some c) : ∃ node ∈ nodes, (g,c) ∈ node.gpuMemoryMb := by
  obtain ⟨node,hnode,hc⟩ := Option.bind_eq_some_iff.1 h
  exact ⟨node,mem_of_find?_eq_some hnode,Assoc.mem_of_lookup hc⟩

/-- What the checks ask of a state, with the memory of every GPU added in 32 bits. -/
def PassesChecks (state : DesiredState) : Prop :=
  (∀ i ∈ workers state, ∃ gpu node, Admissible state.nodes i gpu node) ∧
    ∀ n g, workersOn state n g ≠ [] → LoadAdmissible (workersOn state n g) (capacityMb state.nodes n g)

/-- Acceptance means that the memory caps fit every GPU exactly when, if the checks pass, the caps
on every GPU with a known capacity add up to less than `2^31`. -/
theorem accepted_memory_fits_iff (state : DesiredState)
    (hcapacity : ∀ node ∈ state.nodes, ∀ e ∈ node.gpuMemoryMb, 0 < e.2) :
    (requireSchedulingPolicy state = .ok () →
      ∀ n g c, capacityMb state.nodes n g = some c → memoryTotal (workersOn state n g) ≤ c.toInt) ↔
    (PassesChecks state →
      ∀ n g c, capacityMb state.nodes n g = some c → memoryTotal (workersOn state n g) < 2^31) := by
  rw [accepted_iff]
  refine forall_congr' fun hpass => forall_congr' fun n => forall_congr' fun g => forall_congr' fun c =>
    forall_congr' fun hc => ?_
  have hcaps : ∀ i ∈ workersOn state n g, ∀ cap ∈ i.memoryCapMb, 0 < cap := by
    intro i hi
    obtain ⟨gpu,node,hadm⟩ := hpass.1 i (mem_of_mem_filter hi)
    exact hadm.memory
  constructor
  · intro hle
    have := toInt_lt c
    omega
  · intro hlt
    by_cases hne : workersOn state n g = []
    · obtain ⟨node,hnode,hmem⟩ := capacityMb_mem hc
      have := lt_iff_toInt_lt.1 (hcapacity node hnode _ hmem)
      simpa [hne,memoryTotal] using this.le
    · rw [← toInt_memorySum_of_lt hcaps hlt]
      exact le_iff_toInt_le.1 ((hpass.2 n g hne).memory c hc)

/-- Two workers share a GPU of 24576 MB; their caps add up to `cap` and one. -/
def sharedMemory (cap : Int32) : DesiredState where
  nodes := [{name := "node-a", platform := "linux", gpuMemoryMb := [("0",24576)]}]
  instances := [
    {name := "worker-a", role := .worker, nodeName := "node-a", gpuDevice := some "0", shareMode := .shared,
     gpuFraction := 1/2, memoryCapMb := some cap},
    {name := "worker-b", role := .worker, nodeName := "node-a", gpuDevice := some "0", shareMode := .shared,
     gpuFraction := 1/2, memoryCapMb := some 1}]

/-- The sum `2^31` of the caps wraps to a negative number and is accepted. -/
theorem sharedMemory_wraps :
    requireSchedulingPolicy (sharedMemory 2147483647) = .ok () ∧
      ∃ c, capacityMb (sharedMemory 2147483647).nodes "node-a" "0" = some c ∧
        c.toInt < memoryTotal (workersOn (sharedMemory 2147483647) "node-a" "0") := by
  refine ⟨by decide +kernel,24576,by decide +kernel,by decide +kernel⟩

/-- Caps of 8193 MB stay below the bound, so acceptance means that they fit. -/
theorem accepted_memory_fits_small :
    (∀ node ∈ (sharedMemory 8192).nodes, ∀ e ∈ node.gpuMemoryMb, 0 < e.2) ∧
      (requireSchedulingPolicy (sharedMemory 8192) = .ok () → ∀ n g c,
        capacityMb (sharedMemory 8192).nodes n g = some c →
          memoryTotal (workersOn (sharedMemory 8192) n g) ≤ c.toInt) := by
  have hcapacity : ∀ node ∈ (sharedMemory 8192).nodes, ∀ e ∈ node.gpuMemoryMb, 0 < e.2 := by decide +kernel
  refine ⟨hcapacity,(accepted_memory_fits_iff _ hcapacity).2 fun _ n g c _ => ?_⟩
  by_cases h : n = "node-a" ∧ g = "0"
  · obtain ⟨rfl,rfl⟩ := h
    decide +kernel
  · have hnone : workersOn (sharedMemory 8192) n g = [] := by
      simp only [workersOn,filter_eq_nil_iff,isOn_iff]
      rintro i hi ⟨hn,hg⟩
      have hplace : i.nodeName = "node-a" ∧ i.gpuDevice = some "0" := by
        simp [workers,sharedMemory] at hi
        rcases hi with rfl | rfl <;> exact ⟨rfl,rfl⟩
      exact h ⟨hn.symm.trans hplace.1,Option.some.inj (hg.symm.trans hplace.2)⟩
    simp [hnone,memoryTotal]

end Naim.SchedulingPolicy
