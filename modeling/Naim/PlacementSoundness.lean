import Naim.DynamicPlacement
import Naim.GpuAdmission

/-!
# Dynamic placement is sound

Every worker is placed on a GPU that can take it beside the workers that are already
there. The loop keeps two facts: the placed workers pass the scheduling policy, and
the usage map holds their sums.
-/

namespace Naim.DynamicPlacement

open Rows Checked SchedulingPolicy RuntimeSupport List
open Int32 hiding not_not

variable {nodes : List NodeInventory} {usage : UsageMap} {i : InstanceSpec} {c : AutoPlacementDecision}
variable {node : NodeInventory} {ws ws' : List InstanceSpec}

structure Feasible (nodes : List NodeInventory) (usage : UsageMap) (worker : InstanceSpec)
    (requestedNodeName : Option String) (c : AutoPlacementDecision) (node : NodeInventory) : Prop where
  mem : node ∈ nodes
  name : c.nodeName = node.name
  device : c.gpuDevice ∈ node.gpuDevices
  role : nodeAllowsInstanceRole node.executionMode worker.role
  requested : ∀ n ∈ requestedNodeName, c.nodeName = n
  fraction : worker.gpuFraction ≤ 1 - (usageOn usage c.nodeName c.gpuDevice).allocatedFraction + kFractionEpsilon
  memory : ∀ cap ∈ worker.memoryCapMb, cap ≤ freeCapacityMb node c.gpuDevice (usageOn usage c.nodeName c.gpuDevice)
  upgrade : c.upgradeToExclusive = true ↔
    (usageOn usage c.nodeName c.gpuDevice).allocatedFraction ≤ kFractionEpsilon ∧
      (worker.shareMode ≠ .exclusive ∨ worker.gpuFraction < 1 - kFractionEpsilon)

lemma Feasible.nodeName_of_requested (h : Feasible nodes usage i (requestedNode i) c node)
    (hne : i.nodeName ≠ "") : c.nodeName = i.nodeName := h.requested _ (by simp [requestedNode,hne])

lemma foldl_keepBetter {l : List AutoPlacementDecision} {best : Option AutoPlacementDecision}
    (h : l.foldl keepBetter best = some c) : best = some c ∨ c ∈ l := by
  induction l generalizing best with
  | nil => exact Or.inl h
  | cons candidate l ih =>
    rcases ih h with hkeep | hmem
    · cases best with
      | none => exact Or.inr (by simp [Option.some.inj hkeep])
      | some b =>
        by_cases hbetter : betterPlacement candidate b
        · rw [keepBetter,if_pos hbetter] at hkeep
          exact Or.inr (by simp [Option.some.inj hkeep])
        · rw [keepBetter,if_neg hbetter] at hkeep
          exact Or.inl hkeep
    · exact Or.inr (mem_cons_of_mem _ hmem)

variable {s t : DesiredState} {j : InstanceSpec} {node : NodeInventory} {headroom : HeadroomMap}
  {requestedNodeName : Option String} {done rest result : List InstanceSpec} {gpu n g : String}

lemma selectAutoPlacement_feasible {requestedGpuDevice : Option String}
    (h : selectAutoPlacement s usage headroom i requestedNodeName requestedGpuDevice = some c) :
    ∃ node, Feasible s.nodes usage i requestedNodeName c node := by
  have hmem := (foldl_keepBetter h).resolve_left (by simp)
  obtain ⟨⟨node,order⟩,hnode,hmem⟩ := mem_flatMap.1 hmem
  have hnode : node ∈ s.nodes := mem_of_getElem? (mem_zipIdx_iff_getElem?.1 hnode)
  dsimp only at hmem
  unfold nodeCandidates at hmem
  split at hmem
  · simp at hmem
  rename_i hrole
  split at hmem
  · simp at hmem
  rename_i hrequested
  obtain ⟨⟨gpu,gpuOrder⟩,hgpu,hc⟩ := mem_filterMap.1 hmem
  have hgpu : gpu ∈ node.gpuDevices := mem_of_getElem? (mem_zipIdx_iff_getElem?.1 hgpu)
  dsimp only [autoPlacementCandidate] at hc
  split at hc
  · cases hc
  split at hc
  · cases hc
  split at hc
  · cases hc
  rename_i hfraction
  split at hc
  · cases hc
  rename_i hmemory
  obtain rfl := Option.some.inj hc
  refine ⟨node,hnode,rfl,hgpu,by simpa using hrole,?_,not_lt.1 hfraction,?_,by simp⟩
  · intro n hn
    rw [Option.mem_def] at hn
    simpa [hn] using hrequested
  · intro cap hcap
    rw [Option.mem_def] at hcap
    simp only [fitsMemory,hcap,Option.all_some,Bool.not_eq_false,Bool.not_eq_eq_eq_not,Bool.not_true,
      Bool.and_eq_true,decide_eq_true_eq] at hmemory
    exact hmemory.1

lemma placeInstances_cons (h : placeInstances s headroom done usage (i::rest) = .ok result) :
    ((i.role = .worker → hasGpuDevice i = true) ∧ placeInstances s headroom (done ++ [i]) usage rest = .ok result) ∨
    ∃ c node, i.role = .worker ∧ hasGpuDevice i = false ∧ Feasible s.nodes usage i (requestedNode i) c node ∧
      placeInstances s headroom (done ++ [placedInstance i c]) (reservePlacement usage (placedInstance i c)) rest =
        .ok result := by
  unfold placeInstances at h
  split at h
  next hrole => exact Or.inl ⟨fun hworker => absurd hworker hrole,h⟩
  rename_i hrole
  rw [not_not] at hrole
  split at h
  · cases h
  split at h
  next hgpu => exact Or.inl ⟨fun _ => hgpu,h⟩
  rename_i hgpu
  split at h
  · cases h
  rename_i c hselect
  obtain ⟨node,hfeasible⟩ := selectAutoPlacement_feasible hselect
  exact Or.inr ⟨c,node,hrole,by simpa using hgpu,hfeasible,h⟩

/-- The usage map holds the sums of these workers for every GPU. -/
def Tracks (usage : UsageMap) (ws : List InstanceSpec) : Prop :=
  ∀ n g, usageOn usage n g =
    ⟨((ws.filter (isOn n g)).map (·.gpuFraction)).sum,memorySum (ws.filter (isOn n g))⟩

lemma tracks_nil : Tracks [] [] := fun _ _ => rfl

lemma Tracks.perm (h : Tracks usage ws) (hperm : ws.Perm ws') : Tracks usage ws' := by
  intro n g
  have hfilter := hperm.filter (isOn n g)
  rw [h n g,(hfilter.map (·.gpuFraction)).sum_eq,memorySum_perm hfilter]

lemma Tracks.reserve (h : Tracks usage ws) (hi : hasGpuDevice i) : Tracks (reservePlacement usage i) (ws ++ [i]) := by
  obtain ⟨gpu,hgpu,hne⟩ : ∃ gpu, i.gpuDevice = some gpu ∧ gpu ≠ "" := by
    simpa [hasGpuDevice,Option.any_eq_true] using hi
  intro n g
  rw [reservePlacement,hgpu]
  dsimp only
  rw [if_neg hne,usageOn,Assoc.lookup_set,filter_append]
  by_cases hkey : gpuKey n g = gpuKey i.nodeName gpu
  · obtain ⟨rfl,rfl⟩ := gpuKey_inj.1 hkey
    have hon : isOn i.nodeName g i = true := by simp [isOn,hgpu]
    rw [if_pos rfl,Option.getD_some,h]
    simp [hon,memorySum_concat]
  · have hon : isOn n g i = false := by
      rw [gpuKey_inj] at hkey
      rw [Bool.eq_false_iff,Ne,isOn_iff,hgpu,Option.some.injEq]
      exact fun hon => hkey ⟨hon.1.symm,hon.2.symm⟩
    rw [if_neg hkey,filter_cons_of_neg (by simp [hon]),filter_nil,append_nil,← h n g,usageOn]

lemma Tracks.foldl_reserve (h : Tracks usage ws) (l : List InstanceSpec) :
    Tracks (l.foldl reservePlacement usage) (ws ++ l.filter hasGpuDevice) := by
  induction l generalizing usage ws with
  | nil => simpa using h
  | cons i l ih =>
    rw [foldl_cons,filter_cons]
    by_cases hi : hasGpuDevice i
    · rw [if_pos hi,append_cons]
      exact ih (h.reserve hi)
    · have hsame : reservePlacement usage i = usage := by
        cases hg : i.gpuDevice with
        | none => simp [reservePlacement,hg]
        | some gpu =>
          have hempty : gpu = "" := by simpa [hasGpuDevice,hg] using hi
          simp [reservePlacement,hg,hempty]
      rw [if_neg hi,hsame]
      exact ih h

/-- The placed workers pass the policy; each reserves a part that counts, and an exclusive one all of its GPU. -/
structure Sound (nodes : List NodeInventory) (ws : List InstanceSpec) : Prop where
  admissible : ∀ i ∈ ws, ∃ gpu node, Admissible nodes i gpu node
  load : ∀ n g, ws.filter (isOn n g) ≠ [] → LoadAdmissible (ws.filter (isOn n g)) (capacityMb nodes n g)
  notable : ∀ i ∈ ws, kFractionEpsilon < i.gpuFraction
  whole : ∀ i ∈ ws, i.shareMode = .exclusive → 1 ≤ i.gpuFraction

lemma Sound.perm (h : Sound nodes ws) (hperm : ws.Perm ws') : Sound nodes ws' where
  admissible := fun i hi => h.admissible i (hperm.mem_iff.2 hi)
  load := fun n g hne => by
    have hfilter := hperm.filter (isOn n g)
    exact (h.load n g fun hnil => hne (nil_perm.1 (hnil ▸ hfilter))).perm hfilter
  notable := fun i hi => h.notable i (hperm.mem_iff.2 hi)
  whole := fun i hi => h.whole i (hperm.mem_iff.2 hi)

/-- A worker that may be placed: its own request passes the checks of the policy. -/
structure Requestable (i : InstanceSpec) : Prop where
  priority : 0 ≤ i.priority
  fraction_gt : kFractionEpsilon < i.gpuFraction
  fraction_le : i.gpuFraction ≤ 1
  memory : ∀ cap ∈ i.memoryCapMb, 0 < cap
  exclusive : i.shareMode = .exclusive → i.gpuFraction = 1
  bestEffort : i.shareMode = .bestEffort → i.preemptible

instance (i : InstanceSpec) : Decidable (Requestable i) :=
  decidable_of_iff (0 ≤ i.priority ∧ kFractionEpsilon < i.gpuFraction ∧ i.gpuFraction ≤ 1 ∧
      i.memoryCapMb.all (0 < ·) ∧ (i.shareMode = .exclusive → i.gpuFraction = 1) ∧
      (i.shareMode = .bestEffort → i.preemptible))
    ⟨fun ⟨h₁,h₂,h₃,h₄,h₅,h₆⟩ => ⟨h₁,h₂,h₃,by simpa [Option.all_eq_true] using h₄,h₅,h₆⟩,
      fun h => ⟨h.1,h.2,h.3,by simpa [Option.all_eq_true] using h.4,h.5,h.6⟩⟩

/-- An inventory with distinct names, named devices and no negative memory size. -/
structure Inventory (nodes : List NodeInventory) : Prop where
  names : (nodes.map (·.name)).Nodup
  devices : ∀ node ∈ nodes, "" ∉ node.gpuDevices
  sizes : ∀ node ∈ nodes, ∀ g size, node.gpuMemoryMb.lookup g = some size → 0 ≤ size

lemma Inventory.find_eq (h : Inventory nodes) (hnode : node ∈ nodes) : findNode nodes node.name = some node :=
  findNode_of_nodup h.names hnode

lemma add_le_of_le_free {size used cap : Int32} (hused : used ≤ size) (hcap : 0 < cap)
    (h : cap ≤ max 0 (size - used)) : used + cap ≤ size := by
  have hfree := le_of_le_max_zero hcap h
  rw [le_iff_toInt_le,toInt_sub] at hfree
  rw [le_iff_toInt_le] at hused ⊢
  rw [lt_iff_toInt_lt] at hcap
  have := le_toInt used
  rw [toInt_add]
  rw [Int.bmod_def] at hfree ⊢
  simp only [toInt_zero] at *
  omega

lemma fraction_le_sum (h : ∀ j ∈ ws, 0 ≤ j.gpuFraction) (hi : i ∈ ws) :
    i.gpuFraction ≤ (ws.map (·.gpuFraction)).sum := by
  refine single_le_sum ?_ _ (mem_map_of_mem hi)
  intro x hx
  obtain ⟨j,hj,rfl⟩ := mem_map.1 hx
  exact h j hj

lemma mem_effectiveNodeGpuDevices (h : gpu ∈ node.gpuDevices) : gpu ∈ effectiveNodeGpuDevices node := by
  rw [effectiveNodeGpuDevices,mem_insertionSort]
  exact mem_foldl_addNew.2 (Or.inr h)

lemma nodeAllows_worker : nodeAllowsInstanceRole node.executionMode .worker = nodeSupportsWorkerExecutionMode node := by
  cases h : node.executionMode <;> simp [nodeAllowsInstanceRole,nodeSupportsWorkerExecutionMode,h]

section Step

lemma admissible_placedInstance (hinv : Inventory nodes) (hi : Requestable i) (hrole : i.role = .worker)
    (hc : Feasible nodes usage i requestedNodeName c node) :
    Admissible nodes (placedInstance i c) c.gpuDevice node := by
  have heps := kFractionEpsilon_pos
  have hfraction := hi.fraction_gt
  have hle := hi.fraction_le
  refine {
    pinned := rfl
    gpu_ne := fun hempty => hinv.devices node hc.mem (hempty ▸ hc.device)
    priority := hi.priority, fraction_pos := ?_, fraction_le := ?_, memory := hi.memory, exclusive := ?_
    bestEffort := ?_, found := ?_, supported := nodeAllows_worker ▸ hrole ▸ hc.role
    present := mem_effectiveNodeGpuDevices hc.device}
  · show 0 < if c.upgradeToExclusive then 1 else i.gpuFraction
    split
    · exact one_pos
    · linarith
  · show (if c.upgradeToExclusive then 1 else i.gpuFraction) ≤ 1 + kFractionEpsilon
    split <;> linarith
  · show (if c.upgradeToExclusive then GpuShareMode.exclusive else i.shareMode) = .exclusive →
      |(if c.upgradeToExclusive then 1 else i.gpuFraction) - 1| ≤ kFractionEpsilon
    split
    · intro _
      simpa using heps.le
    · intro hs
      simpa [hi.exclusive hs] using heps.le
  · show (if c.upgradeToExclusive then GpuShareMode.exclusive else i.shareMode) = .bestEffort → _
    split
    · intro hs
      cases hs
    · exact hi.bestEffort
  · show findNode nodes c.nodeName = some node
    rw [hc.name]
    exact hinv.find_eq hc.mem

lemma Tracks.idle (htracks : Tracks usage ws) (hnotable : ∀ i ∈ ws, kFractionEpsilon < i.gpuFraction)
    (hidle : (usageOn usage n g).allocatedFraction ≤ kFractionEpsilon) : ws.filter (isOn n g) = [] := by
  rw [eq_nil_iff_forall_not_mem]
  intro j hj
  have hle : j.gpuFraction ≤ (usageOn usage n g).allocatedFraction := by
    rw [htracks n g]
    exact fraction_le_sum (fun j hj => (kFractionEpsilon_pos.trans (hnotable j (mem_of_mem_filter hj))).le) hj
  have := hnotable j (mem_of_mem_filter hj)
  linarith

section Placing

variable (hinv : Inventory nodes) (h : Sound nodes ws) (htracks : Tracks usage ws) (hi : Requestable i)

include hinv h htracks hi

lemma memory_of_feasible (hc : Feasible nodes usage i requestedNodeName c node) :
    ∀ size ∈ node.gpuMemoryMb.lookup c.gpuDevice,
      memorySum (ws.filter (isOn c.nodeName c.gpuDevice)) + i.memoryCapMb.getD 0 ≤ size := by
  intro size hsize
  have hused : memorySum (ws.filter (isOn c.nodeName c.gpuDevice)) ≤ size := by
    by_cases hne : ws.filter (isOn c.nodeName c.gpuDevice) = []
    · rw [hne]
      exact hinv.sizes node hc.mem _ _ hsize
    · refine (h.load _ _ hne).memory size ?_
      rw [Option.mem_def,capacityMb,hc.name,hinv.find_eq hc.mem]
      exact hsize
  cases hcap : i.memoryCapMb with
  | none => simpa using hused
  | some cap =>
    have hfree := hc.memory cap hcap
    rw [freeCapacityMb,hsize,htracks] at hfree
    exact add_le_of_le_free hused (hi.memory cap hcap) hfree

lemma loadAdmissible_placedInstance (hc : Feasible nodes usage i requestedNodeName c node) :
    LoadAdmissible (ws.filter (isOn c.nodeName c.gpuDevice) ++ [placedInstance i c])
      (node.gpuMemoryMb.lookup c.gpuDevice) := by
  have hgt := hi.fraction_gt
  have hle := hi.fraction_le
  have heps := kFractionEpsilon_pos
  have hmemory : ∀ size ∈ node.gpuMemoryMb.lookup c.gpuDevice,
      memorySum (ws.filter (isOn c.nodeName c.gpuDevice) ++ [placedInstance i c]) ≤ size := fun size hsize =>
    (memorySum_concat _ _).symm ▸ memory_of_feasible hinv h htracks hi hc size hsize
  have hfraction := hc.fraction
  have hupgrade := hc.upgrade
  by_cases hidle : (usageOn usage c.nodeName c.gpuDevice).allocatedFraction ≤ kFractionEpsilon
  · -- nobody is on the GPU, and the worker reserves at most all of it
    have hnil := htracks.idle h.notable hidle
    rw [hnil] at hmemory ⊢
    refine ⟨fun _ _ _ => le_rfl,?_,hmemory⟩
    have hplaced : (placedInstance i c).gpuFraction ≤ 1 := by
      show (if c.upgradeToExclusive then 1 else i.gpuFraction) ≤ 1
      split
      · exact le_rfl
      · exact hle
    simpa using hplaced.trans (by linarith)
  · -- the worker keeps its request, and neither it nor anyone on the GPU is exclusive
    have hkeep : c.upgradeToExclusive = false := by
      rw [Bool.eq_false_iff,Ne,hupgrade]
      exact fun hup => hidle hup.1
    have hshare : (placedInstance i c).shareMode = i.shareMode := by simp [placedInstance,hkeep]
    have hpart : (placedInstance i c).gpuFraction = i.gpuFraction := by simp [placedInstance,hkeep]
    rw [htracks] at hfraction hidle
    refine ⟨?_,?_,hmemory⟩
    · intro j hj hs
      rcases mem_append.1 hj with hj | hj
      · have hwhole := h.whole j (mem_of_mem_filter hj) hs
        have hsum := fraction_le_sum (fun j hj => (heps.trans (h.notable j (mem_of_mem_filter hj))).le) hj
        linarith
      · rw [mem_singleton.1 hj,hshare] at hs
        have hone := hi.exclusive hs
        linarith
    · rw [map_append,sum_append,map_singleton,sum_singleton,hpart]
      linarith

lemma Sound.place (hrole : i.role = .worker) (hc : Feasible nodes usage i requestedNodeName c node) :
    Sound nodes (ws ++ [placedInstance i c]) := by
  have hadmissible := admissible_placedInstance hinv hi hrole hc
  refine ⟨forall_mem_append.2 ⟨h.admissible,forall_mem_singleton.2 ⟨_,_,hadmissible⟩⟩,?_,
    forall_mem_append.2 ⟨h.notable,forall_mem_singleton.2 ?_⟩,
    forall_mem_append.2 ⟨h.whole,forall_mem_singleton.2 fun hs => ?_⟩⟩
  · intro n g hne
    rw [filter_append] at hne ⊢
    by_cases hon : isOn n g (placedInstance i c)
    · obtain ⟨rfl,hg⟩ := isOn_iff.1 hon
      obtain rfl : c.gpuDevice = g := Option.some.inj hg
      rw [filter_cons_of_pos hon,filter_nil]
      have hcapacity : capacityMb nodes c.nodeName c.gpuDevice = node.gpuMemoryMb.lookup c.gpuDevice := by
        rw [capacityMb,hc.name,hinv.find_eq hc.mem]
        rfl
      show LoadAdmissible _ (capacityMb nodes c.nodeName c.gpuDevice)
      rw [hcapacity]
      exact loadAdmissible_placedInstance hinv h htracks hi hc
    · rw [filter_cons_of_neg hon,filter_nil,append_nil] at hne ⊢
      exact h.load n g hne
  · show kFractionEpsilon < if c.upgradeToExclusive then 1 else i.gpuFraction
    split
    · norm_num [kFractionEpsilon]
    · exact hi.fraction_gt
  · by_cases hup : c.upgradeToExclusive
    · simp [placedInstance,hup]
    · have hshare : i.shareMode = .exclusive := by simpa [placedInstance,hup] using hs
      simp [placedInstance,hup,hi.exclusive hshare]

end Placing

end Step

section Run

inductive PlacedFrom : InstanceSpec → InstanceSpec → Prop
  | kept {i : InstanceSpec} (h : i.role = .worker → hasGpuDevice i = true) : PlacedFrom i i
  | placed {i : InstanceSpec} (c : AutoPlacementDecision) (hrole : i.role = .worker) (hgpu : hasGpuDevice i = false)
      (hdevice : c.gpuDevice ≠ "") (hnode : i.nodeName ≠ "" → c.nodeName = i.nodeName) :
      PlacedFrom i (placedInstance i c)

lemma Feasible.gpuDevice_ne (hdevices : ∀ node ∈ nodes, "" ∉ node.gpuDevices)
    (hc : Feasible nodes usage i requestedNodeName c node) : c.gpuDevice ≠ "" :=
  fun hempty => hdevices node hc.mem (hempty ▸ hc.device)

lemma placeInstances_placedFrom (hdevices : ∀ node ∈ s.nodes, "" ∉ node.gpuDevices)
    (h : placeInstances s headroom done usage rest = .ok result) :
    ∃ tail, result = done ++ tail ∧ Forall₂ PlacedFrom rest tail := by
  induction rest generalizing done usage with
  | nil => exact ⟨[],by simpa [placeInstances] using h.symm,.nil⟩
  | cons i rest ih =>
    rcases placeInstances_cons h with ⟨hkept,h⟩ | ⟨c,node,hrole,hgpu,hc,h⟩
    · obtain ⟨tail,rfl,hrest⟩ := ih h
      exact ⟨i::tail,append_cons .. |>.symm,.cons (.kept hkept) hrest⟩
    · obtain ⟨tail,rfl,hrest⟩ := ih h
      refine ⟨placedInstance i c::tail,append_cons .. |>.symm,
        .cons (.placed c hrole hgpu (hc.gpuDevice_ne hdevices) ?_) hrest⟩
      exact hc.nodeName_of_requested

lemma PlacedFrom.role_eq (h : PlacedFrom i j) : j.role = i.role := by cases h <;> rfl

lemma PlacedFrom.nodeName_eq (h : PlacedFrom i j) (hne : i.nodeName ≠ "") : j.nodeName = i.nodeName := by
  cases h with
  | kept => rfl
  | placed c _ _ _ hnode => exact hnode hne

lemma PlacedFrom.pinned (h : PlacedFrom i j) (hrole : j.role = .worker) : isPinned j := by
  cases h with
  | kept h => simp [isPinned,hrole,h hrole]
  | placed c hworker _ hdevice _ => simp [isPinned,placedInstance,hasGpuDevice,hdevice,hworker]

/-- The invariant along the loop: the pinned workers so far pass the policy and the usage map tracks them. -/
lemma placeInstances_sound (hinv : Inventory s.nodes)
    (h : placeInstances s headroom done usage rest = .ok result)
    (hsound : Sound s.nodes ((done ++ rest).filter isPinned)) (htracks : Tracks usage ((done ++ rest).filter isPinned))
    (hrequests : ∀ i ∈ rest, i.role = .worker → hasGpuDevice i = false → Requestable i) :
    Sound s.nodes (result.filter isPinned) := by
  induction rest generalizing done usage with
  | nil =>
    obtain rfl : done = result := by simpa [placeInstances] using h
    simpa using hsound
  | cons i rest ih =>
    rw [forall_mem_cons] at hrequests
    rcases placeInstances_cons h with ⟨-,h⟩ | ⟨c,node,hrole,hgpu,hc,h⟩
    · rw [append_cons] at hsound htracks
      exact ih h hsound htracks hrequests.2
    · -- the placed worker joins the pinned ones, in the middle of the list
      have hplaced : isPinned (placedInstance i c) :=
        (PlacedFrom.placed c hrole hgpu (hc.gpuDevice_ne hinv.devices) hc.nodeName_of_requested).pinned hrole
      have hunpinned : isPinned i = false := by simp [isPinned,hgpu]
      have hold : (done ++ i::rest).filter isPinned = done.filter isPinned ++ rest.filter isPinned := by
        rw [filter_append,filter_cons_of_neg (by simp [hunpinned])]
      have hperm : (done.filter isPinned ++ rest.filter isPinned ++ [placedInstance i c]).Perm
          ((done ++ [placedInstance i c] ++ rest).filter isPinned) := by
        rw [filter_append,filter_append,filter_cons_of_pos hplaced,filter_nil,append_assoc,
          append_assoc]
        exact perm_append_comm.append_left _
      rw [hold] at hsound htracks
      refine ih h ((hsound.place hinv htracks (hrequests.1 hrole hgpu) hrole hc).perm hperm)
        ((htracks.reserve ?_).perm hperm) hrequests.2
      exact (Bool.and_eq_true_iff.1 hplaced).2

end Run

section

variable (s : DesiredState) (group : WorkerGroupSpec)

lemma refreshedInstance_same (i : InstanceSpec) : SamePlacement i (refreshedInstance s i) := by
  unfold refreshedInstance
  split <;> constructor <;> rfl

lemma refreshedInstance_name (i : InstanceSpec) : (refreshedInstance s i).name = i.name := by
  unfold refreshedInstance
  split <;> rfl

def rankedGroup : WorkerGroupSpec :=
  if Planner.usesLlamaRpcRuntime s then
    {group with
      members := rankByInfer group ((group.members.filter (·.enabled)).map (servedInfer group)) [] group.members}
  else WorkerGroupTopology.assignReplicaTopology s.inference group

lemma findInferInstance_refreshed (instances : List InstanceSpec) :
    ((instances.map (refreshedInstance s)).find? (·.role = .infer)).map (·.name) =
      (instances.find? (·.role = .infer)).map (·.name) := by
  have hrole : ((fun i : InstanceSpec => decide (i.role = .infer)) ∘ refreshedInstance s) =
      fun i => decide (i.role = .infer) := by
    funext i
    simp only [Function.comp_apply,(refreshedInstance_same s i).role]
  rw [List.find?_map,hrole,Option.map_map]
  congr 1
  funext i
  exact refreshedInstance_name s i

lemma rankedGroup_inferInstanceName : (rankedGroup s group).inferInstanceName = group.inferInstanceName := by
  unfold rankedGroup
  split <;> rfl

lemma rankedGroup_expectedWorkers : (rankedGroup s group).expectedWorkers = group.expectedWorkers := by
  unfold rankedGroup
  split <;> rfl

end

lemma refreshDerivedWorkerMetadata_eq_ok (h : refreshDerivedWorkerMetadata s = .ok t) :
    ∃ members, Forall₂ (fun e member => derivedMember s e.1 e.2 = .ok member) (workers s).zipIdx members ∧
      t = {s with
        instances := s.instances.map (refreshedInstance s), runtimeGpuNodes := (workers s).map runtimeGpuNode
        workerGroup := rankedGroup s (derivedGroup s members)} := by
  simp only [refreshDerivedWorkerMetadata,bind_eq_ok] at h
  obtain ⟨members,hmembers,h⟩ := h
  refine ⟨members,mapM_eq_ok.1 hmembers,?_⟩
  unfold rankedGroup
  split at h
  next hrpc =>
    have hrpc : Planner.usesLlamaRpcRuntime s = true := hrpc
    rw [if_pos hrpc]
    exact (pure_eq_ok.1 h).symm
  next hrpc =>
    have hrpc : ¬ Planner.usesLlamaRpcRuntime s = true := hrpc
    simp only [bind_eq_ok] at h
    obtain ⟨_,-,h⟩ := h
    rw [if_neg hrpc]
    exact (pure_eq_ok.1 h).symm

section Observing

variable (telemetry : List (String × GpuTelemetrySnapshot))

lemma observeNode_induction {P : NodeInventory → Prop} (hnode : P node)
    (hstep : ∀ n device, device.gpuDevice ≠ "" → P n → P (observeDevice n device)) :
    P (observeNode telemetry node) := by
  unfold observeNode
  cases telemetry.lookup node.name with
  | none => exact hnode
  | some snapshot =>
    dsimp only
    induction snapshot.devices generalizing node with
    | nil => exact hnode
    | cons device devices ih =>
      rw [foldl_cons]
      by_cases hname : device.gpuDevice = ""
      · rw [observeDevice,if_pos hname]
        exact ih hnode
      · exact ih (hstep node device hname hnode)

@[simp] lemma observeNode_name (node : NodeInventory) : (observeNode telemetry node).name = node.name := by
  refine observeNode_induction (P := fun n => n.name = node.name) telemetry rfl fun n device hname hn => ?_
  rw [observeDevice,if_neg hname]
  exact hn

lemma observeNode_devices (hdevices : "" ∉ node.gpuDevices) : "" ∉ (observeNode telemetry node).gpuDevices := by
  refine observeNode_induction (P := fun n => "" ∉ n.gpuDevices) telemetry hdevices fun n device hname hn => ?_
  rw [observeDevice,if_neg hname]
  split
  · exact hn
  · simp [hn,Ne.symm hname]

lemma observeNode_sizes (hsizes : ∀ g size, node.gpuMemoryMb.lookup g = some size → 0 ≤ size) :
    ∀ g size, (observeNode telemetry node).gpuMemoryMb.lookup g = some size → 0 ≤ size := by
  refine observeNode_induction (P := fun n => ∀ g size, n.gpuMemoryMb.lookup g = some size → 0 ≤ size) telemetry hsizes
    fun n device hname hn g size => ?_
  rw [observeDevice,if_neg hname]
  dsimp only
  split
  next hpos =>
    rw [Assoc.lookup_set]
    split
    · rintro ⟨⟩
      exact Int32.le_of_lt hpos
    · exact hn g size
  · exact hn g size

end Observing

lemma Inventory.observe (h : Inventory nodes) (telemetry : List (String × GpuTelemetrySnapshot)) :
    Inventory (nodes.map (observeNode telemetry)) := by
  refine ⟨?_,?_,?_⟩
  · have hnames : nodes.map ((·.name) ∘ observeNode telemetry) = nodes.map (·.name) :=
      map_congr_left fun node _ => observeNode_name telemetry node
    rw [map_map,hnames]
    exact h.names
  · exact forall_mem_map.2 fun node hnode => observeNode_devices telemetry (h.devices node hnode)
  · exact forall_mem_map.2 fun node hnode => observeNode_sizes telemetry (h.sizes node hnode)

def withPlaced (s : DesiredState) (telemetry : List (String × GpuTelemetrySnapshot)) (placed : List InstanceSpec) :
    DesiredState :=
  {s with nodes := s.nodes.map (observeNode telemetry), instances := placed}

theorem resolveDesiredStateDynamicPlacements_eq_ok (hdevices : ∀ node ∈ s.nodes, "" ∉ node.gpuDevices)
    (h : resolveDesiredStateDynamicPlacements clock observations s = .ok t) :
    ∃ telemetry placed, Forall₂ PlacedFrom s.instances placed ∧
      refreshDerivedWorkerMetadata (withPlaced s telemetry placed) = .ok t := by
  simp only [resolveDesiredStateDynamicPlacements,applyObservedHostGpuInventory,bind_eq_ok,pure_eq_ok] at h
  obtain ⟨merged,⟨telemetry,-,rfl⟩,reports,-,placed,hplaced,hrefresh⟩ := h
  obtain ⟨tail,htail,hfrom⟩ := placeInstances_placedFrom
    (by exact forall_mem_map.2 fun node hnode => observeNode_devices _ (hdevices node hnode)) hplaced
  exact ⟨_,placed,htail ▸ hfrom,hrefresh⟩

def pinnedOnly (s : DesiredState) : DesiredState :=
  {s with instances := s.instances.filter fun i => i.role ≠ .worker || hasGpuDevice i}

lemma workers_pinnedOnly (s : DesiredState) : workers (pinnedOnly s) = s.instances.filter isPinned := by
  rw [workers,pinnedOnly,filter_filter]
  refine filter_congr fun i _ => ?_
  by_cases hrole : i.role = .worker <;> simp [isPinned,hrole]

/-- What dynamic placement promises about an instance and what became of it. -/
structure Kept (i j : InstanceSpec) : Prop where
  name : j.name = i.name
  role : j.role = i.role
  pinned : isPinned i → j.nodeName = i.nodeName ∧ j.gpuDevice = i.gpuDevice ∧ j.shareMode = i.shareMode ∧
    j.gpuFraction = i.gpuFraction
  requested : i.role = .worker → i.nodeName ≠ "" → j.nodeName = i.nodeName

lemma PlacedFrom.kept_refreshed (s : DesiredState) (h : PlacedFrom i j) : Kept i (refreshedInstance s j) := by
  have hsame := refreshedInstance_same s j
  refine ⟨(refreshedInstance_name s j).trans ?_,hsame.role.trans ?_,?_,?_⟩
  · cases h <;> rfl
  · exact h.role_eq
  · intro hpinned
    cases h with
    | kept => exact ⟨hsame.nodeName,hsame.gpuDevice,hsame.shareMode,hsame.gpuFraction⟩
    | placed c _ hgpu => simp [isPinned,hgpu] at hpinned
  · intro _ hne
    exact hsame.nodeName.trans (h.nodeName_eq hne)

/-- Dynamic placement is sound: on an inventory with distinct names, named devices and no negative size, on which
the pinned workers pass the policy, the state with all workers placed passes it. -/
theorem resolveDesiredStateDynamicPlacements_sound (clock : Clock) (observations : List HostObservation)
    (s merged t : DesiredState) (hinv : Inventory s.nodes)
    (hmerged : applyObservedHostGpuInventory clock observations s = .ok merged)
    (haccepted : requireSchedulingPolicy (pinnedOnly merged) = .ok ())
    (hpinned : ∀ i ∈ s.instances, isPinned i →
      kFractionEpsilon < i.gpuFraction ∧ (i.shareMode = .exclusive → 1 ≤ i.gpuFraction))
    (hrequests : ∀ i ∈ s.instances, i.role = .worker → hasGpuDevice i = false → Requestable i)
    (h : resolveDesiredStateDynamicPlacements clock observations s = .ok t) :
    requireSchedulingPolicy t = .ok () ∧ List.Forall₂ Kept s.instances t.instances := by
  simp only [resolveDesiredStateDynamicPlacements,hmerged,ok_bind,bind_eq_ok] at h
  obtain ⟨reports,-,placed,hplaced,hrefresh⟩ := h
  obtain ⟨telemetry,-,hmerged⟩ := bind_eq_ok.1 hmerged
  have hinstances : merged.instances = s.instances := pure_eq_ok.1 hmerged ▸ rfl
  have hinv : Inventory merged.nodes := (pure_eq_ok.1 hmerged) ▸ hinv.observe _
  obtain ⟨hadmissible,hload⟩ := accepted_iff.1 haccepted
  have hworkers := workers_pinnedOnly merged
  have hsound : Sound merged.nodes (merged.instances.filter isPinned) := by
    rw [hworkers] at hadmissible
    refine ⟨hadmissible,fun n g hne => ?_,?_,?_⟩
    · have := hload n g
      rw [workersOn,hworkers] at this
      exact this hne
    · intro i hi
      obtain ⟨hi,hpin⟩ := mem_filter.1 hi
      exact (hpinned i (hinstances ▸ hi) hpin).1
    · intro i hi
      obtain ⟨hi,hpin⟩ := mem_filter.1 hi
      exact (hpinned i (hinstances ▸ hi) hpin).2
  have htracks : Tracks ((workers merged).foldl reservePlacement []) (merged.instances.filter isPinned) := by
    have hall := tracks_nil.foldl_reserve (workers merged)
    rw [nil_append,workers,filter_filter] at hall
    have hfilter : merged.instances.filter isPinned =
        merged.instances.filter fun i => hasGpuDevice i && decide (i.role = .worker) :=
      filter_congr fun i _ => Bool.and_comm _ _
    rw [hfilter]
    exact hall
  have hplacedSound := placeInstances_sound hinv hplaced hsound htracks (hinstances ▸ hrequests)
  obtain ⟨tail,htail,hfrom⟩ := placeInstances_placedFrom hinv.devices hplaced
  subst htail
  obtain ⟨members,-,ht⟩ := refreshDerivedWorkerMetadata_eq_ok hrefresh
  have hnodes' : t.nodes = {merged with instances := placed}.nodes := by rw [ht]
  have hinstances' : t.instances = placed.map (refreshedInstance {merged with instances := placed}) := by rw [ht]
  constructor
  · refine accepted_of_map (refreshedInstance_same _) hnodes' hinstances' (accepted_iff.2 ?_)
    have hall : workers {merged with instances := placed} = placed.filter isPinned := by
      refine filter_congr fun j hj => ?_
      obtain ⟨i,-,hij⟩ := forall₂_mem_right hfrom hj
      by_cases hrole : j.role = .worker
      · simp [hrole,hij.pinned hrole]
      · simp [isPinned,hrole]
    rw [hall]
    refine ⟨hplacedSound.admissible,fun n g hne => ?_⟩
    rw [workersOn,hall] at hne ⊢
    exact hplacedSound.load n g hne
  · rw [hinstances',← hinstances,forall₂_map_right_iff]
    exact hfrom.imp fun i j hij => hij.kept_refreshed _

def reportingClock (telemetry : GpuTelemetrySnapshot) : Clock where
  now := 0
  utcTime := fun _ => none
  deserializeRuntimeStatusJson := fun _ => .ok {}
  deserializeGpuTelemetryJson := fun _ => .ok telemetry

def reportingNode : List HostObservation := [{nodeName := "node-a", gpuTelemetryJson := "gpu"}]

/-- One node; a worker is pinned to its first GPU, and one that shares is to be placed. -/
def placementPlane (node : NodeInventory) (pinnedFraction requestedFraction : ℚ) : DesiredState where
  planeName := "chat"
  nodes := [node]
  instances := [
    {name := "worker-a", role := .worker, nodeName := "node-a", gpuDevice := some "0", shareMode := .exclusive,
      gpuFraction := pinnedFraction, memoryCapMb := some 4096},
    {name := "worker-b", role := .worker, nodeName := "node-a", placementMode := .auto, shareMode := .shared,
      gpuFraction := requestedFraction}]

def twoGpus : NodeInventory where
  name := "node-a"
  gpuDevices := ["0","1"]
  gpuMemoryMb := [("0",8192),("1",8192)]

/-- Distinct names, pinned workers that pass the policy, and valid requests of the others. -/
def WellRequested (s : DesiredState) : Prop :=
  (s.nodes.map (·.name)).Nodup ∧ ((workers s).map (·.name)).Nodup ∧
    requireSchedulingPolicy (pinnedOnly s) = .ok () ∧
    (∀ i ∈ s.instances, isPinned i → kFractionEpsilon < i.gpuFraction) ∧
    ∀ i ∈ s.instances, i.role = .worker → hasGpuDevice i = false → Requestable i

instance (s : DesiredState) : Decidable (WellRequested s) := inferInstanceAs (Decidable (_ ∧ _))

def RejectedAfterPlacement (clock : Clock) (observations : List HostObservation) (s : DesiredState) : Prop :=
  ∃ t, resolveDesiredStateDynamicPlacements clock observations s = .ok t ∧ requireSchedulingPolicy t ≠ .ok ()

instance (clock : Clock) (observations : List HostObservation) (s : DesiredState) :
    Decidable (RejectedAfterPlacement clock observations s) :=
  match h : resolveDesiredStateDynamicPlacements clock observations s with
  | .error _ => .isFalse (by simp [RejectedAfterPlacement,h])
  | .ok t => decidable_of_iff (requireSchedulingPolicy t ≠ .ok ()) (by simp [RejectedAfterPlacement,h])

/-- The host reports less memory than the pinned worker was admitted with. -/
theorem smallerTelemetry_rejected :
    WellRequested (placementPlane twoGpus 1 (1/2)) ∧
      RejectedAfterPlacement (reportingClock {devices := [{gpuDevice := "0", totalVramMb := 2048}]}) reportingNode
        (placementPlane twoGpus 1 (1/2)) := by
  decide +kernel

def reportedGpu : GpuTelemetrySnapshot where
  devices := [{gpuDevice := "1", totalVramMb := 16384, freeVramMb := 16000}]

theorem resolve_placementPlane_sound :
    ∃ t, resolveDesiredStateDynamicPlacements (reportingClock reportedGpu) reportingNode
        (placementPlane twoGpus 1 (1/2)) = .ok t ∧ requireSchedulingPolicy t = .ok () := by
  obtain ⟨t,h,-⟩ : ∃ t, resolveDesiredStateDynamicPlacements (reportingClock reportedGpu) reportingNode
      (placementPlane twoGpus 1 (1/2)) = .ok t ∧ True := by decide +kernel
  have hinv : Inventory (placementPlane twoGpus 1 (1/2)).nodes := {
    names := by decide
    devices := by decide
    sizes := by
      intro node hnode g size hsize
      obtain rfl : node = twoGpus := by simpa [placementPlane] using hnode
      have hmem := Assoc.mem_of_lookup hsize
      simp only [twoGpus,mem_cons,Prod.mk.injEq,not_mem_nil,or_false] at hmem
      rcases hmem with ⟨-,rfl⟩ | ⟨-,rfl⟩ <;> decide}
  exact ⟨t,h,(resolveDesiredStateDynamicPlacements_sound _ _ _ _ t hinv rfl (by decide +kernel)
    (by decide +kernel) (by decide +kernel) h).1⟩

end Naim.DynamicPlacement
