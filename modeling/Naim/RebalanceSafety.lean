import Naim.RebalancePlan
import Naim.RolloutPlan

/-!
# Proposed rebalances

When a proposed direct move can be carried out: what the score of a candidate says
about its GPU, and what the policy says about the state with the worker moved.
-/

namespace Naim.RebalancePlan

open Rows Checked Assignments SchedulerExecution SchedulingPolicy RuntimeSupport RolloutPlan List Int32

variable {s s' : DesiredState} {required : ℚ} {gpu n g nodeName : String}

lemma capacitySummary_place (allocated : List (GpuKey × AllocationAccumulator)) (node : NodeInventory) (gpu : String) :
    (capacitySummary allocated node gpu).nodeName = node.name ∧
      (capacitySummary allocated node gpu).gpuDevice = gpu := by
  unfold capacitySummary
  cases allocated.lookup (gpuKey node.name gpu) <;> cases node.gpuMemoryMb.lookup gpu <;> exact ⟨rfl,rfl⟩

structure Summarizes (c : GpuCapacitySummary) (node : NodeInventory) (gpu : String) (ws : List InstanceSpec) :
    Prop where
  nodeName : c.nodeName = node.name
  gpuDevice : c.gpuDevice = gpu
  isIdle : c.isIdle = decide (ws = [])
  workerCount : c.workerCount = Int32.ofNat ws.length
  freeFraction : c.freeFraction = max 0 (1 - (ws.map (·.gpuFraction)).sum)
  freeMemoryMb : c.freeMemoryMb = (node.gpuMemoryMb.lookup gpu).map fun m => max 0 (m - memorySum ws)

lemma capacitySummary_summarizes (hclean : workerErrors s = []) (node : NodeInventory) (gpu : String) :
    Summarizes (capacitySummary (allocations (admittedWorkers s)) node gpu) node gpu (workersOn s node.name gpu) := by
  have hspecs := admittedOn_specs hclean node.name gpu
  have hl := loaded_accumulate (admittedOn s node.name gpu)
  rw [capacitySummary,lookup_allocations,← hspecs]
  by_cases hnil : admittedOn s node.name gpu = []
  · rw [if_pos hnil,hnil]
    cases hm : node.gpuMemoryMb.lookup gpu <;> constructor <;> simp [memorySum,hm]
  · rw [if_neg hnil]
    generalize (admittedOn s node.name gpu).foldl accumulateWorker {} = a at hl
    have hlength : a.sorted.workerNames.length = (admittedOn s node.name gpu).length := by
      show (sortNames a.workerNames).length = _
      rw [sortNames,length_sortBy,hl.workerNames,length_map]
    have hne : a.sorted.workerNames ≠ [] := by
      rw [← length_pos_iff,hlength,length_pos_iff]
      exact hnil
    have hfraction : a.sorted.totalFraction = _ := hl.totalFraction
    have hmemory : a.sorted.totalMemoryCapMb = _ := hl.totalMemoryCapMb
    cases hm : node.gpuMemoryMb.lookup gpu <;> constructor <;>
      simp [hnil,hne,hlength,hfraction,hmemory,hm,Function.comp_def]

lemma victimOrder_eq_nil_iff (hclean : workerErrors s = []) (n g : String) :
    buildBestEffortVictimOrder (reportRecords s) n g = [] ↔ ∀ i ∈ workersOn s n g, i.shareMode ≠ .bestEffort := by
  rw [buildBestEffortVictimOrder,← length_eq_zero_iff,length_sortBy,length_eq_zero_iff,
    filter_eq_nil_iff]
  constructor
  · intro h i hi hs
    obtain ⟨hi,hon⟩ := mem_filter.1 hi
    obtain ⟨hnode,hgpu⟩ := isOn_iff.1 hon
    obtain ⟨gpu,node,hadm⟩ := workerErrors_eq_nil.1 hclean i hi
    have hw : (⟨i,gpu,node⟩ : AdmittedWorker) ∈ admittedWorkers s := mem_admittedWorkers.2 ⟨hi,hadm⟩
    have hg : gpu = g := Option.some.inj (hadm.pinned.symm.trans hgpu)
    exact h _ (mem_map_of_mem (mem_map_of_mem hw)) (by simp [workerRecord,hnode,hg,hs,hadm.bestEffort hs])
  · intro h r hr hvictim
    simp only [Bool.and_eq_true,decide_eq_true_eq] at hvictim
    obtain ⟨⟨⟨hn,hg⟩,hs⟩,-⟩ := hvictim
    obtain ⟨i,hi,_,hadm,-,hnode,hshare,-⟩ := mem_reportRecords hr
    refine h i (mem_filter.2 ⟨hi,isOn_iff.2 ⟨hnode.trans hn,?_⟩⟩) (hshare.trans hs)
    rw [hadm.pinned,hg]

lemma length_victimOrder_le (hclean : workerErrors s = []) (n g : String) :
    (buildBestEffortVictimOrder (reportRecords s) n g).length ≤ (workersOn s n g).length := by
  rw [buildBestEffortVictimOrder,length_sortBy,← admittedOn_specs hclean,length_map,reportRecords,workerRecords,map_map,
    filter_map,length_map,admittedOn,← countP_eq_length_filter,← countP_eq_length_filter]
  refine countP_mono_left fun w _ hw => ?_
  simp only [Function.comp_apply,workerRecord,Bool.and_eq_true] at hw
  exact decide_eq_true (gpuKey_inj.2 ⟨of_decide_eq_true hw.1.1.1,of_decide_eq_true hw.1.1.2⟩)

lemma selectMinimalVictims_eq_nil_iff :
    (selectMinimalVictims worker c order required).workerNames = [] ↔
      max 0 (required - c.freeFraction) ≤ kFractionEpsilon ∧ neededMemoryMb worker c ≤ 0 ∨ order = [] := by
  obtain ⟨victims,hfirst,hnames,-⟩ := @selectMinimalVictims_first worker c required order
  rw [hnames,map_eq_nil_iff,← suffices_nil]
  constructor
  · rintro rfl
    exact or_iff_not_imp_left.2 fun h => (hfirst.all h).symm
  · rintro (h | rfl)
    · exact by_contra fun hne => hfirst.least [] nil_prefix (Ne.symm hne) h
    · exact prefix_nil.1 hfirst.le_order

lemma toInt_max_zero (a : Int32) : (max 0 a).toInt = max 0 a.toInt := by
  rw [max_zero_eq]
  split
  next h => exact (max_eq_right (le_iff_toInt_le.1 h)).symm
  next h => exact (max_eq_left (le_of_not_ge (le_iff_toInt_le.not.1 h))).symm

lemma toInt_sub_of_nonneg {a b : Int32} (ha : 0 ≤ a) (hb : 0 ≤ b) : (a - b).toInt = a.toInt - b.toInt := by
  have ha' := toInt_lt a
  have hb' := toInt_lt b
  rw [le_iff_toInt_le,toInt_zero] at ha hb
  rw [toInt_sub]
  exact Int.bmod_eq_of_le (by omega) (by omega)

lemma max_zero_sub_le_zero {a b : Int32} (ha : 0 ≤ a) (hb : 0 ≤ b) : max 0 (a - b) ≤ 0 ↔ a ≤ b := by
  rw [le_iff_toInt_le,le_iff_toInt_le,toInt_max_zero,toInt_sub_of_nonneg ha hb]
  simp

section Candidate

variable {r : WorkerAllocationRecord} {c : GpuCapacitySummary} {records : List WorkerAllocationRecord}

def MemoryFits (r : WorkerAllocationRecord) (c : GpuCapacitySummary) : Prop :=
  ∀ cap ∈ r.memoryCapMb, ∀ free ∈ c.freeMemoryMb, cap ≤ free

lemma neededMemoryMb_le_zero (hcap : ∀ cap ∈ r.memoryCapMb, 0 < cap) (hfree : ∀ free ∈ c.freeMemoryMb, 0 ≤ free) :
    neededMemoryMb r c ≤ 0 ↔ MemoryFits r c := by
  unfold neededMemoryMb MemoryFits
  cases hr : r.memoryCapMb with
  | none => simp
  | some cap =>
    cases hc : c.freeMemoryMb with
    | none => simp
    | some free =>
      simpa using max_zero_sub_le_zero (Int32.le_of_lt (hcap cap hr)) (hfree free hc)

lemma tenths_le {a : ℚ} (h₀ : 0 ≤ a) (h₁ : a ≤ 1) :
    0 ≤ Int.tdiv (a * 10).num (a * 10).den ∧ Int.tdiv (a * 10).num (a * 10).den ≤ 10 := by
  rw [Int.tdiv_eq_ediv_of_nonneg (Rat.num_nonneg.2 (by positivity)),← Rat.floor_def']
  exact ⟨Int.floor_nonneg.2 (by positivity),Int.floor_le_iff.2 (by norm_num; linarith)⟩

lemma length_preemptionVictims_le : (placementCandidate records r c).preemptionVictims.length ≤
    (buildBestEffortVictimOrder records c.nodeName c.gpuDevice).length := by
  have hnames : ∀ required, (selectMinimalVictims r c (buildBestEffortVictimOrder records c.nodeName c.gpuDevice)
      required).workerNames.length ≤ (buildBestEffortVictimOrder records c.nodeName c.gpuDevice).length := by
    intro required
    obtain ⟨victims,hfirst,hnames,-⟩ :=
      @selectMinimalVictims_first r c required (buildBestEffortVictimOrder records c.nodeName c.gpuDevice)
    rw [hnames,length_map]
    exact hfirst.le_order.length_le
  unfold placementCandidate
  dsimp only
  split <;> exact hnames _

/-- As long as ten times the number of workers is an `int`, a busy GPU scores at most 90. -/
lemma score_busy_lt {n : ℕ} (hidle : c.isIdle = false) (hpos : 0 < n) (hn : n ≤ 10^8)
    (hcount : c.workerCount = Int32.ofNat n) (hfree : 0 ≤ c.freeFraction) (hle : c.freeFraction ≤ 1)
    (hvictims : (placementCandidate records r c).preemptionVictims.length ≤ n) :
    (placementCandidate records r c).score < 100 := by
  obtain ⟨h₀,h₁⟩ := tenths_le hfree hle
  generalize hk : (placementCandidate records r c).preemptionVictims.length = k at hvictims
  obtain ⟨bonus,hlow,hhigh,hscore⟩ : ∃ bonus : Int32, -70 ≤ bonus.toInt ∧ bonus.toInt ≤ 90 ∧
      (placementCandidate records r c).score = bonus + Int32.ofInt (Int.tdiv (c.freeFraction * 10).num
        (c.freeFraction * 10).den) - c.workerCount * 10 - Int32.ofNat k * 5 := by
    subst hk
    refine ⟨_,?_,?_,rfl⟩ <;> simp only [hidle,Bool.false_and,Bool.false_eq_true,if_false] <;> split_ifs <;> decide
  have hsum : (placementCandidate records r c).score = Int32.ofInt (bonus.toInt +
      Int.tdiv (c.freeFraction * 10).num (c.freeFraction * 10).den - n * 10 - k * 5) := by
    rw [hscore,hcount]
    simp only [Int32.ofInt_add,Int32.ofInt_sub,Int32.ofInt_mul,Int32.ofInt_eq_ofNat,Int32.ofInt_toInt]
    rfl
  rw [hsum,lt_iff_toInt_lt,Int32.toInt_ofInt_of_le (by omega) (by omega)]
  show _ < (100 : ℤ)
  omega

lemma busy_candidate (hidle : c.isIdle = false)
    (hdirect : (placementCandidate records r c).preemptionRequired = false) :
    (placementCandidate records r c).action ≠ "upgrade-to-exclusive" ∧
      (placementCandidate records r c).preemptionVictims = (selectMinimalVictims r c
        (buildBestEffortVictimOrder records c.nodeName c.gpuDevice) r.gpuFraction).workerNames := by
  simp only [placementCandidate,hidle,Bool.false_and,Bool.not_false,Bool.true_and,Bool.and_true,
    Bool.or_eq_false_iff] at hdirect ⊢
  rw [hdirect.1]
  unfold placementAction
  simp only [Bool.false_eq_true,if_false]
  split
  · simp
  · split
    · simp
    · split <;> simp

/-- Of the three actions of a direct move, a busy GPU is only given the one for which the fraction fits. -/
lemma busy_fits (hidle : c.isIdle = false) (haction : (placementCandidate records r c).action ∈
      ["upgrade-to-exclusive","move-equivalent","move-with-current-fraction"]) :
    r.gpuFraction ≤ c.freeFraction + kFractionEpsilon := by
  by_contra hfits
  revert haction
  simp only [placementCandidate,placementAction,hidle,Bool.false_and,Bool.false_eq_true,if_false,ge_iff_le,hfits,
    decide_false]
  split_ifs <;> simp

lemma selectMinimalVictims_nil (hfree : c.freeFraction = 1) (hrequired : required ≤ 1 + kFractionEpsilon) :
    selectMinimalVictims r c [] required = if neededMemoryMb r c ≤ 0 then {satisfies := true} else {} := by
  have hfraction : max 0 (required - c.freeFraction) ≤ kFractionEpsilon := by
    rw [hfree,max_le_iff]
    exact ⟨kFractionEpsilon_pos.le,by linarith⟩
  unfold selectMinimalVictims
  simp only [hfraction,true_and]
  rfl

lemma idle_upgrades (hidle : c.isIdle = true) (hfree : c.freeFraction = 1) (hneeds : needsRecommendation r)
    (hfits : (placementCandidate records r c).action ≠ "insufficient-memory") :
    (placementCandidate records r c).action = "upgrade-to-exclusive" := by
  have hwhole : (c.isIdle && decide (c.freeFraction + kFractionEpsilon ≥ 1)) = true := by
    simp [hidle,hfree,kFractionEpsilon_pos.le]
  simp only [needsRecommendation,Bool.or_eq_true,decide_eq_true_eq,or_assoc] at hneeds
  simp only [placementCandidate,placementAction,hwhole,if_true,if_pos hneeds] at hfits ⊢
  exact if_neg (ite_ne_left_iff.1 hfits).1

lemma idle_candidate (hidle : c.isIdle = true) (hfree : c.freeFraction = 1) (hcount : c.workerCount = 0)
    (horder : buildBestEffortVictimOrder records c.nodeName c.gpuDevice = [])
    (hfraction : r.gpuFraction ≤ 1 + kFractionEpsilon) (hneeds : needsRecommendation r)
    (hcap : ∀ cap ∈ r.memoryCapMb, 0 < cap) (hmemory : ∀ free ∈ c.freeMemoryMb, 0 ≤ free)
    (hscore : 100 ≤ (placementCandidate records r c).score)
    (hplace : (placementCandidate records r c).sameNode = true →
      (placementCandidate records r c).action = "upgrade-to-exclusive") :
    (placementCandidate records r c).action = "upgrade-to-exclusive" ∧
      (placementCandidate records r c).preemptionVictims = [] ∧ MemoryFits r c := by
  have heps := kFractionEpsilon_pos.le
  have hselect := selectMinimalVictims_nil (r := r) hfree hfraction
  have hselectWhole := selectMinimalVictims_nil (r := r) hfree (le_add_of_nonneg_right heps)
  by_cases hneed : neededMemoryMb r c ≤ 0
  · rw [if_pos hneed] at hselect hselectWhole
    refine ⟨?_,?_,(neededMemoryMb_le_zero hcap hmemory).1 hneed⟩
    · simp only [needsRecommendation,Bool.or_eq_true,decide_eq_true_eq,or_assoc] at hneeds
      simp [placementCandidate,placementAction,horder,hselect,hselectWhole,hidle,hfree,heps,if_pos hneeds]
    · simp [placementCandidate,horder,hselect,hselectWhole]
  · -- without the memory the score is 80 on another node, and on the same node the action is not an upgrade
    rw [if_neg hneed] at hselect hselectWhole
    have hunfit : ¬ MemoryFits r c := mt (neededMemoryMb_le_zero hcap hmemory).2 hneed
    unfold MemoryFits at hunfit
    cases hr : r.memoryCapMb with
    | none => simp [hr] at hunfit
    | some cap =>
      cases hc : c.freeMemoryMb with
      | none => simp [hc] at hunfit
      | some free =>
        have hlt : ¬ cap ≤ free := by simpa [hr,hc] using hunfit
        by_cases hsame : c.nodeName = r.nodeName
        · have haction := hplace (by simp [placementCandidate,hsame])
          simp [placementCandidate,placementAction,horder,hselect,hselectWhole] at haction
        · simp [placementCandidate,scorePlacementCandidate,horder,hselect,hselectWhole,hidle,hfree,hcount,hr,hc,hlt,
            heps,hfraction,hsame] at hscore

end Candidate

section Move

variable {mover after : InstanceSpec} {e : RebalancePlanEntry}

lemma accepted_direct_iff (hclean : (evaluateSchedulingPolicy s).errors = [])
    (hbefore : (workers s).Perm (mover::others)) (hworkers : (workers s').Perm (after::others))
    (hnodes : s'.nodes = s.nodes) (hgpu : mover.gpuDevice = some gpu) (hafter : isOn n g after)
    (hoff : isOn n g mover = false) :
    requireSchedulingPolicy s' = .ok () ↔
      (∃ gpu node, Admissible s.nodes after gpu node) ∧
      LoadAdmissible (after::workersOn s n g) (capacityMb s.nodes n g) ∧
      ((workersOn s mover.nodeName gpu).erase mover ≠ [] → ∀ c ∈ capacityMb s.nodes mover.nodeName gpu,
        memorySum ((workersOn s mover.nodeName gpu).erase mover) ≤ c) := by
  rw [accepted_moved_iff (k := fun _ => true) (f := id) hclean hbefore (by simpa using hworkers) hnodes
    (fun _ => ⟨rfl,rfl,rfl,rfl,rfl,rfl,rfl,rfl⟩) hgpu hafter hoff (by simp),filter_true]

lemma materialize_workers (hnames : (s.instances.map (·.name)).Nodup) (hmover : mover ∈ workers s)
    (hname : e.workerName = mover.name) :
    ∃ s', materializeRebalancePlanEntry s e = .ok s' ∧ s'.nodes = s.nodes ∧
      workers s' = updateWhere (isWorkerNamed e.workerName) (rebalancedInstance e) (workers s) := by
  have hcount : s.instances.countP (isWorkerNamed e.workerName) ≤ 1 := by
    refine countP_key_le_one (g := fun i => i.name) hnames e.workerName ?_
    intro i hi
    simpa [isWorkerNamed] using And.right (by simpa [isWorkerNamed] using hi)
  obtain ⟨hinst,hrole⟩ := mem_filter.1 hmover
  unfold materializeRebalancePlanEntry
  rw [if_neg]
  · refine ⟨_,rfl,rfl,?_⟩
    rw [workers,updateFirst_eq_updateWhere hcount,updateWhere,updateWhere,workers,filter_map]
    refine congrArg _ (filter_congr fun i _ => ?_)
    by_cases hi : isWorkerNamed e.workerName i <;> simp [hi,rebalancedInstance]
  · rw [Option.isNone_iff_eq_none,List.find?_eq_none]
    intro hnone
    exact hnone mover hinst (by simpa [isWorkerNamed,hname] using hrole)

/-- The state with the mover on the target is accepted exactly if the mover passes its own checks there, the target
takes it, and the memory of those it leaves behind fits. -/
lemma materialize_accepted_iff (hclean : (evaluateSchedulingPolicy s).errors = [])
    (hnames : (s.instances.map (·.name)).Nodup) (hmover : mover ∈ workers s) (hname : e.workerName = mover.name)
    (hoff : isOn e.targetNodeName e.targetGpuDevice mover = false) (hgpu : mover.gpuDevice = some gpu) :
    (∃ s', materializeRebalancePlanEntry s e = .ok s' ∧ requireSchedulingPolicy s' = .ok ()) ↔
      (∃ gpu node, Admissible s.nodes (rebalancedInstance e mover) gpu node) ∧
      LoadAdmissible (rebalancedInstance e mover::workersOn s e.targetNodeName e.targetGpuDevice)
        (capacityMb s.nodes e.targetNodeName e.targetGpuDevice) ∧
      (left s mover ≠ [] → ∀ c ∈ capacityMb s.nodes mover.nodeName gpu, memorySum (left s mover) ≤ c) := by
  obtain ⟨s',hok,hnodes,hworkers⟩ := materialize_workers hnames hmover hname
  obtain ⟨others,hperm,hothers⟩ := exists_others hnames hmover
  have hmoved : (workers s').Perm (rebalancedInstance e mover::others) := by
    rw [hworkers]
    refine (hperm.map _).trans (.of_eq ?_)
    rw [map_cons,if_pos (by simp [isWorkerNamed,hname,role_of_mem_workers hmover])]
    exact congrArg _ ((map_congr_left fun i hi => by simp [isWorkerNamed,hname,hothers i hi]).trans (map_id others))
  have haccepted : (∃ s', materializeRebalancePlanEntry s e = .ok s' ∧ requireSchedulingPolicy s' = .ok ()) ↔
      requireSchedulingPolicy s' = .ok () := by simp [hok]
  have hon : isOn e.targetNodeName e.targetGpuDevice (rebalancedInstance e mover) := isOn_iff.2 ⟨rfl,rfl⟩
  rw [haccepted,accepted_direct_iff hclean hperm hmoved hnodes hgpu hon hoff,← left_eq hnames hmover hgpu]

end Move

def candidateFor (s : DesiredState) (r : WorkerAllocationRecord) (node : NodeInventory) (gpu : String) :
    PlacementCandidate :=
  placementCandidate (reportRecords s) r (capacitySummary (allocations (admittedWorkers s)) node gpu)

lemma candidateFor_place (s : DesiredState) (r : WorkerAllocationRecord) (node : NodeInventory) (gpu : String) :
    (candidateFor s r node gpu).nodeName = node.name ∧ (candidateFor s r node gpu).gpuDevice = gpu :=
  capacitySummary_place _ node gpu

/-- A recommendation is made for a worker that does not own its GPU, and its candidates are other GPUs. -/
structure Recommended (s : DesiredState) (mover : InstanceSpec) (r : WorkerAllocationRecord) (node : NodeInventory)
    (gpu : String) : Prop where
  record : r ∈ reportRecords s
  worker : mover ∈ workers s
  source : ∃ home, Admissible s.nodes mover r.gpuDevice home
  name : mover.name = r.workerName
  nodeName : mover.nodeName = r.nodeName
  shareMode : mover.shareMode = r.shareMode
  gpuFraction : mover.gpuFraction = r.gpuFraction
  memoryCapMb : mover.memoryCapMb = r.memoryCapMb
  needs : needsRecommendation r = true
  node_mem : node ∈ s.nodes
  supported : nodeSupportsWorkerExecutionMode node = true
  device : gpu ∈ effectiveNodeGpuDevices node
  elsewhere : isOn node.name gpu mover = false

lemma recommended_of_mem {recommendation : WorkerPlacementRecommendation}
    (h : recommendation ∈ (evaluateSchedulingPolicy s).placementRecommendations) {p : PlacementCandidate}
    (hp : p ∈ recommendation.candidates) :
    ∃ mover r node gpu, Recommended s mover r node gpu ∧ recommendation.workerName = r.workerName ∧
      recommendation.currentNodeName = r.nodeName ∧ recommendation.currentGpuDevice = r.gpuDevice ∧
      recommendation.currentFraction = r.gpuFraction ∧ p = candidateFor s r node gpu := by
  obtain ⟨hrec,-⟩ := mem_filter.1 (mem_sortBy.1 h)
  obtain ⟨r,hr,rfl⟩ := mem_map.1 hrec
  obtain ⟨hr,hneeds⟩ := mem_filter.1 hr
  obtain ⟨c,hc,rfl⟩ := mem_map.1 (mem_sortBy.1 hp)
  obtain ⟨hc,helse⟩ := mem_filter.1 hc
  obtain ⟨node,hnode,hc⟩ := mem_flatMap.1 (mem_sortBy.1 hc)
  obtain ⟨hnode,hsupported⟩ := mem_filter.1 hnode
  obtain ⟨gpu,hgpu,rfl⟩ := mem_map.1 hc
  obtain ⟨mover,hmover,home,hadm,hname,hmnode,hshare,hfraction,hcap,-⟩ := mem_reportRecords hr
  refine ⟨mover,r,node,gpu,⟨hr,hmover,⟨home,hadm⟩,hname,hmnode,hshare,hfraction,hcap,hneeds,hnode,hsupported,hgpu,?_⟩,
    rfl,rfl,rfl,rfl,rfl⟩
  obtain ⟨hcnode,hcgpu⟩ := capacitySummary_place (allocations (admittedWorkers s)) node gpu
  rw [Bool.not_eq_true',isCurrentGpu,hcnode,hcgpu,Bool.and_eq_false_iff] at helse
  rw [isOn,hmnode,hadm.pinned,Bool.and_eq_false_iff]
  simp only [decide_eq_false_iff_not,Option.some.injEq] at helse ⊢
  exact helse.imp Ne.symm Ne.symm

section Target

variable {mover : InstanceSpec} {node home : NodeInventory}
variable {e : RebalancePlanEntry} {r : WorkerAllocationRecord}

structure Dispatchable (overrides : List NodeAvailabilityOverride) (assignments : List HostAssignment)
    (s : DesiredState) (mover : InstanceSpec) (e : RebalancePlanEntry) : Prop where
  schedulable :
    isNodeSchedulable (resolveNodeAvailability (buildAvailabilityOverrideMap overrides) e.targetNodeName) = true
  elsewhere : isOn e.targetNodeName e.targetGpuDevice mover = false
  free : ∀ a ∈ assignments, a.nodeName = mover.nodeName ∨ a.nodeName = e.targetNodeName → a.isLive = false
  victims : e.victimWorkerNames = []
  accepted : ∃ s', materializeRebalancePlanEntry s e = .ok s' ∧ requireSchedulingPolicy s' = .ok ()

/-- The state in which the worker can be moved to the GPU: the device has a name, the memory of those left behind
fits, an idle GPU has no negative size, and one with more workers than ten times an `int` can count, the only busy
one that is proposed, takes the worker as it is and needs no victim. -/
structure DirectMove (s : DesiredState) (mover : InstanceSpec) (n g : String) : Prop where
  named : g ≠ ""
  remaining : left s mover ≠ [] → ∀ c ∈ mover.gpuDevice.bind (capacityMb s.nodes mover.nodeName),
    memorySum (left s mover) ≤ c
  idle : workersOn s n g = [] → mover.memoryCapMb = none → ∀ c ∈ capacityMb s.nodes n g, 0 ≤ c
  crowded : 10^8 < (workersOn s n g).length →
    LoadAdmissible (workersOn s n g ++ [mover]) (capacityMb s.nodes n g) ∧
    ((∀ i ∈ workersOn s n g, i.shareMode ≠ .bestEffort) ∨
      ∀ cap ∈ mover.memoryCapMb, ∀ c ∈ capacityMb s.nodes n g, cap ≤ max 0 (c - memorySum (workersOn s n g)))

lemma Recommended.capacityMb (h : Recommended s mover r node gpu) (hnodes : (s.nodes.map (·.name)).Nodup) :
    capacityMb s.nodes node.name gpu = node.gpuMemoryMb.lookup gpu := by
  rw [SchedulingPolicy.capacityMb,findNode_of_nodup hnodes h.node_mem]
  rfl

def Offers (nodes : List NodeInventory) (n g : String) : Prop :=
  g ≠ "" ∧ ∃ node, findNode nodes n = some node ∧ nodeSupportsWorkerExecutionMode node = true ∧
    g ∈ effectiveNodeGpuDevices node

lemma admissible_rebalanced_iff (hadm : Admissible s.nodes mover gpu home) :
    (∃ gpu node, Admissible s.nodes (rebalancedInstance e mover) gpu node) ↔
      Offers s.nodes e.targetNodeName e.targetGpuDevice := by
  constructor
  · rintro ⟨gpu',node',h⟩
    obtain rfl : e.targetGpuDevice = gpu' := Option.some.inj h.pinned
    exact ⟨h.gpu_ne,node',h.found,h.supported,h.present⟩
  · rintro ⟨hne,node,hfound,hsupported,hpresent⟩
    have hone : |(1 : ℚ) - 1| ≤ kFractionEpsilon := by simpa using kFractionEpsilon_pos.le
    have hle : (1 : ℚ) ≤ 1 + kFractionEpsilon := le_add_of_nonneg_right kFractionEpsilon_pos.le
    refine ⟨e.targetGpuDevice,node,rfl,hne,hadm.priority,?_,?_,hadm.memory,?_,?_,hfound,hsupported,hpresent⟩
    all_goals simp only [rebalancedInstance]
    · split
      · exact one_pos
      · exact hadm.fraction_pos
    · split
      · exact hle
      · exact hadm.fraction_le
    · split
      · exact fun _ => hone
      · exact hadm.exclusive
    · split
      · intro hs
        cases hs
      · exact hadm.bestEffort

lemma Recommended.memoryFits_iff (h : Recommended s mover r node gpu) (hclean : workerErrors s = [])
    (hnodes : (s.nodes.map (·.name)).Nodup) :
    MemoryFits r (capacitySummary (allocations (admittedWorkers s)) node gpu) ↔
      ∀ cap ∈ mover.memoryCapMb, ∀ c ∈ SchedulingPolicy.capacityMb s.nodes node.name gpu,
        cap ≤ max 0 (c - memorySum (workersOn s node.name gpu)) := by
  rw [MemoryFits,(capacitySummary_summarizes hclean node gpu).freeMemoryMb,h.memoryCapMb,h.capacityMb hnodes]
  simp

lemma freeMemoryMb_nonneg (hclean : workerErrors s = []) (node : NodeInventory) (gpu : String) :
    ∀ free ∈ (capacitySummary (allocations (admittedWorkers s)) node gpu).freeMemoryMb, 0 ≤ free := by
  rw [(capacitySummary_summarizes hclean node gpu).freeMemoryMb]
  intro free hfree
  obtain ⟨m,-,rfl⟩ := Option.map_eq_some_iff.1 hfree
  exact zero_le_max_zero _

/-- A busy GPU passes the threshold only once ten times the number of its workers is no `int`. -/
lemma crowded_of_score (hclean : workerErrors s = []) (hbusy : workersOn s node.name gpu ≠ [])
    (hscore : 100 ≤ (candidateFor s r node gpu).score) : 10^8 < (workersOn s node.name gpu).length := by
  have hsum := capacitySummary_summarizes hclean node gpu
  have hsummed : 0 ≤ ((workersOn s node.name gpu).map (·.gpuFraction)).sum := by
    refine sum_nonneg fun x hx => ?_
    obtain ⟨i,hi,rfl⟩ := mem_map.1 hx
    obtain ⟨_,_,hadm⟩ := workerErrors_eq_nil.1 hclean i (mem_of_mem_filter hi)
    exact hadm.fraction_pos.le
  by_contra hfew
  have hvictims : (candidateFor s r node gpu).preemptionVictims.length ≤ (workersOn s node.name gpu).length := by
    refine length_preemptionVictims_le.trans ?_
    rw [hsum.nodeName,hsum.gpuDevice]
    exact length_victimOrder_le hclean node.name gpu
  have hlt : (candidateFor s r node gpu).score < 100 := score_busy_lt (by simpa [hsum.isIdle] using hbusy)
    (length_pos_iff.2 hbusy) (not_lt.1 hfew) hsum.workerCount (by simp [hsum.freeFraction])
    (by simp [hsum.freeFraction,hsummed]) hvictims
  exact absurd hscore (Int32.not_le.2 hlt)

section Targets

variable (h : Recommended s mover r node gpu) (hclean : workerErrors s = []) (hnodes : (s.nodes.map (·.name)).Nodup)

include h hclean hnodes

lemma Recommended.idle (hempty : workersOn s node.name gpu = []) (hscore : 100 ≤ (candidateFor s r node gpu).score)
    (hplace : (candidateFor s r node gpu).sameNode = true →
      (candidateFor s r node gpu).action = "upgrade-to-exclusive") :
    (candidateFor s r node gpu).action = "upgrade-to-exclusive" ∧
      (candidateFor s r node gpu).preemptionVictims = [] ∧
      ((∀ c ∈ SchedulingPolicy.capacityMb s.nodes node.name gpu, mover.memoryCapMb.getD 0 ≤ c) ↔
        (mover.memoryCapMb = none → ∀ c ∈ SchedulingPolicy.capacityMb s.nodes node.name gpu, 0 ≤ c)) := by
  have hsum := capacitySummary_summarizes hclean node gpu
  obtain ⟨home,hadm⟩ := h.source
  rw [hempty] at hsum
  have horder : buildBestEffortVictimOrder (reportRecords s) (capacitySummary (allocations (admittedWorkers s)) node
      gpu).nodeName (capacitySummary (allocations (admittedWorkers s)) node gpu).gpuDevice = [] := by
    rw [hsum.nodeName,hsum.gpuDevice,victimOrder_eq_nil_iff hclean,hempty]
    simp
  obtain ⟨haction,hvictims,hfits⟩ := idle_candidate (by simp [hsum.isIdle]) (by simp [hsum.freeFraction])
    (by simp [hsum.workerCount]) horder (h.gpuFraction ▸ hadm.fraction_le) h.needs (h.memoryCapMb ▸ hadm.memory)
    (freeMemoryMb_nonneg hclean node gpu) hscore hplace
  refine ⟨haction,hvictims,?_⟩
  rw [h.memoryFits_iff hclean hnodes,hempty] at hfits
  cases hcap : mover.memoryCapMb with
  | none => simp
  | some cap =>
    refine iff_of_true (fun c hc => ?_) (by simp)
    have hmax := hfits cap hcap c hc
    rw [show memorySum [] = 0 from rfl,Int32.sub_zero] at hmax
    exact le_of_le_max_zero (hadm.memory cap hcap) hmax

lemma Recommended.busy (hbusy : workersOn s node.name gpu ≠ [])
    (hdirect : (candidateFor s r node gpu).preemptionRequired = false)
    (hfits : LoadAdmissible (workersOn s node.name gpu ++ [mover])
      (SchedulingPolicy.capacityMb s.nodes node.name gpu)) :
    (candidateFor s r node gpu).preemptionVictims = [] ↔
      (∀ i ∈ workersOn s node.name gpu, i.shareMode ≠ .bestEffort) ∨
        ∀ cap ∈ mover.memoryCapMb, ∀ c ∈ SchedulingPolicy.capacityMb s.nodes node.name gpu,
          cap ≤ max 0 (c - memorySum (workersOn s node.name gpu)) := by
  have hsum := capacitySummary_summarizes hclean node gpu
  have hidle : (capacitySummary (allocations (admittedWorkers s)) node gpu).isIdle = false := by
    rw [hsum.isIdle]
    simpa using hbusy
  have hneeded : max 0 (r.gpuFraction - (capacitySummary (allocations (admittedWorkers s)) node gpu).freeFraction) ≤
      kFractionEpsilon := by
    have hload := hfits.fraction
    rw [map_append,sum_append,map_singleton,sum_singleton,h.gpuFraction] at hload
    rw [hsum.freeFraction,max_le_iff]
    refine ⟨kFractionEpsilon_pos.le,?_⟩
    have := le_max_right 0 (1 - ((workersOn s node.name gpu).map (·.gpuFraction)).sum)
    linarith
  obtain ⟨home,hadm⟩ := h.source
  rw [candidateFor,(busy_candidate hidle hdirect).2,selectMinimalVictims_eq_nil_iff,hsum.nodeName,hsum.gpuDevice,
    victimOrder_eq_nil_iff hclean,neededMemoryMb_le_zero (h.memoryCapMb ▸ hadm.memory)
      (freeMemoryMb_nonneg hclean node gpu),h.memoryFits_iff hclean hnodes,or_comm]
  simp [hneeded]

end Targets

lemma isLive_of_not_blocking (h : nodeHasBlockingHostAssignment assignments nodeName = false) (ha : a ∈ assignments)
    (hnode : a.nodeName = nodeName) : a.isLive = false := by
  rw [nodeHasBlockingHostAssignment,any_eq_false] at h
  have hfree : hostAssignmentBlocksRebalance a = false := by simpa [hnode] using h a ha
  exact hfree

lemma load_rebalanced_iff (hclean : workerErrors s = [])
    (haction : e.action = (candidateFor s r node gpu).action)
    (hdirect : (candidateFor s r node gpu).preemptionRequired = false)
    (hidle : workersOn s node.name gpu = [] → (candidateFor s r node gpu).action = "upgrade-to-exclusive")
    (c : Option Int32) :
    LoadAdmissible (rebalancedInstance e mover::workersOn s node.name gpu) c ↔
      (workersOn s node.name gpu = [] → ∀ m ∈ c, mover.memoryCapMb.getD 0 ≤ m) ∧
      (workersOn s node.name gpu ≠ [] → LoadAdmissible (workersOn s node.name gpu ++ [mover]) c) := by
  by_cases hempty : workersOn s node.name gpu = []
  · have hexclusive := haction.trans (hidle hempty)
    rw [hempty,loadAdmissible_exclusive (by simp [rebalancedInstance,hexclusive])
      (by simp [rebalancedInstance,hexclusive,kFractionEpsilon])]
    simp [rebalancedInstance]
  · have hbusy : (capacitySummary (allocations (admittedWorkers s)) node gpu).isIdle = false := by
      rw [(capacitySummary_summarizes hclean node gpu).isIdle]
      simpa using hempty
    have hkeep : e.action ≠ "upgrade-to-exclusive" := haction ▸ (busy_candidate hbusy hdirect).1
    rw [loadAdmissible_congr (l := mover::workersOn s node.name gpu) (by simp [shareOf,rebalancedInstance,hkeep])]
    simp only [hempty,false_imp_iff,true_and,ne_eq,not_false_eq_true,true_imp_iff]
    exact ⟨fun h => h.perm (perm_append_singleton _ _).symm,fun h => h.perm (perm_append_singleton _ _)⟩

lemma Recommended.accepted_iff (h : Recommended s mover r node gpu) (hclean : (evaluateSchedulingPolicy s).errors = [])
    (hnodes : (s.nodes.map (·.name)).Nodup) (hnames : (s.instances.map (·.name)).Nodup)
    (hworker : e.workerName = mover.name) (hnode : e.targetNodeName = node.name) (hgpu : e.targetGpuDevice = gpu)
    (haction : e.action = (candidateFor s r node gpu).action)
    (hdirect : (candidateFor s r node gpu).preemptionRequired = false)
    (hscore : 100 ≤ (candidateFor s r node gpu).score)
    (hplace : (candidateFor s r node gpu).sameNode = true →
      (candidateFor s r node gpu).action = "upgrade-to-exclusive") :
    ((candidateFor s r node gpu).preemptionVictims = [] ∧
        ∃ s', materializeRebalancePlanEntry s e = .ok s' ∧ requireSchedulingPolicy s' = .ok ()) ↔
      DirectMove s mover node.name gpu := by
  have herrors := workerErrors_eq_nil.2 ((errors_eq_nil_iff s).1 hclean).1
  obtain ⟨home,hadm⟩ := h.source
  have hidle := fun hempty => h.idle herrors hnodes hempty hscore hplace
  have hoff : isOn e.targetNodeName e.targetGpuDevice mover = false := by
    rw [hnode,hgpu]
    exact h.elsewhere
  have hoffers : Offers s.nodes node.name gpu ↔ gpu ≠ "" :=
    and_iff_left ⟨node,findNode_of_nodup hnodes h.node_mem,h.supported,h.device⟩
  rw [materialize_accepted_iff hclean hnames h.worker hworker hoff hadm.pinned,admissible_rebalanced_iff hadm,hnode,
    hgpu,hoffers,load_rebalanced_iff herrors haction hdirect fun hempty => (hidle hempty).1]
  constructor
  · rintro ⟨hvictims,hnamed,⟨hfree,hfits⟩,hremaining⟩
    refine ⟨hnamed,hadm.pinned ▸ hremaining,fun hempty => (hidle hempty).2.2.1 (hfree hempty),fun hcrowded => ?_⟩
    have hbusy : workersOn s node.name gpu ≠ [] := fun hempty => by simp [hempty] at hcrowded
    exact ⟨hfits hbusy,(h.busy herrors hnodes hbusy hdirect (hfits hbusy)).1 hvictims⟩
  · intro hmove
    have hcrowded := fun hbusy => hmove.crowded (crowded_of_score herrors hbusy hscore)
    refine ⟨?_,hmove.named,⟨fun hempty => (hidle hempty).2.2.2 (hmove.idle hempty),fun hbusy => (hcrowded hbusy).1⟩,
      by simpa [hadm.pinned] using hmove.remaining⟩
    by_cases hempty : workersOn s node.name gpu = []
    · exact (hidle hempty).2.1
    · obtain ⟨hfits,hfree⟩ := hcrowded hempty
      exact (h.busy herrors hnodes hempty hdirect hfits).2 hfree

end Target

/-- A proposed rebalance can be dispatched exactly if its target takes the worker: the target node is schedulable,
the GPU another one and both nodes are free in any case. -/
theorem proposal_dispatchable_iff (clock : Clock) (s : DesiredState) (overrides : List NodeAvailabilityOverride)
    (lifecycle : List RolloutLifecycleEntry) (assignments : List HostAssignment) (view : SchedulerRuntimeView)
    (observations : List HostObservation) (staleAfterSeconds : ℤ) (nodeNameFilter : Option String)
    (entries : List PlannedRebalance) (entry : PlannedRebalance) (hnodes : (s.nodes.map (·.name)).Nodup)
    (hnames : (s.instances.map (·.name)).Nodup) (hclean : (evaluateSchedulingPolicy s).errors = [])
    (h : buildRebalancePlanEntries clock {} s (evaluateSchedulingPolicy s) overrides lifecycle assignments view
      observations staleAfterSeconds nodeNameFilter = .ok entries) (hentry : entry ∈ entries)
    (hpropose : entry.decision = "propose") :
    ∃ mover ∈ workers s, mover.name = entry.workerName ∧ mover.nodeName = entry.currentNodeName ∧
      mover.gpuDevice = some entry.currentGpuDevice ∧
      (Dispatchable overrides assignments s mover entry.toRebalancePlanEntry ↔
        DirectMove s mover entry.targetNodeName entry.targetGpuDevice) := by
  obtain ⟨recommendation,hrec,p,hp⟩ := mem_rebalancePlan_propose h hentry hpropose
  obtain ⟨mover,r,node,gpu,hr,hworker,hsource,hsourceGpu,-,rfl⟩ := recommended_of_mem hrec hp.candidate
  obtain ⟨hcnode,hcgpu⟩ := candidateFor_place s r node gpu
  obtain ⟨home,hadm⟩ := hr.source
  have hname : entry.workerName = mover.name := by
    rw [hp.target,hr.name]
    exact hworker
  have hnode : entry.targetNodeName = node.name := by
    rw [hp.target,hcnode]
  have hgpu : entry.targetGpuDevice = gpu := by
    rw [hp.target,hcgpu]
  have hvictims : entry.victimWorkerNames = (candidateFor s r node gpu).preemptionVictims := by
    rw [hp.target]
  have haction : entry.action = (candidateFor s r node gpu).action := by
    rw [hp.target]
  refine ⟨mover,hr.worker,hname.symm,?_,?_,?_⟩
  · rw [hr.nodeName,hp.currentNodeName,hsource]
  · rw [hadm.pinned,hp.currentGpuDevice,hsourceGpu]
  · rw [hnode,hgpu,← hr.accepted_iff hclean hnodes hnames hname hnode hgpu haction hp.direct hp.score hp.inPlace,
      ← hvictims]
    constructor
    · exact fun hdispatch => ⟨hdispatch.victims,hdispatch.accepted⟩
    · rintro ⟨hempty,haccepted⟩
      refine ⟨?_,?_,?_,hempty,haccepted⟩
      · rw [hnode,← hcnode]
        exact hp.schedulable
      · rw [hnode,hgpu]
        exact hr.elsewhere
      · intro a ha hbusy
        rcases hbusy with hbusy | hbusy
        · exact isLive_of_not_blocking hp.sourceFree ha (by rw [hbusy,hr.nodeName,hsource])
        · exact isLive_of_not_blocking hp.targetFree ha (by rw [hbusy,hnode]; exact hcnode.symm)

def silentClock : Clock where
  now := 0
  utcTime := fun _ => none
  deserializeRuntimeStatusJson := fun _ => .ok {}
  deserializeGpuTelemetryJson := fun _ => .ok {}

def pairedWorker (cap : Int32) (name : String) : InstanceSpec where
  name
  role := .worker
  nodeName := "node-a"
  gpuDevice := some "0"
  placementMode := .movable
  shareMode := .shared
  gpuFraction := 1/2
  memoryCapMb := some cap

def pairedPlane (cap : Int32) : DesiredState where
  planeName := "chat"
  nodes := [{name := "node-a", gpuDevices := ["0","1"], gpuMemoryMb := [("0",24576)]}]
  instances := [pairedWorker cap "worker-a",pairedWorker cap "worker-b"]

def pairedProposal (workerName : String) : PlannedRebalance where
  workerName
  targetNodeName := "node-a"
  targetGpuDevice := "1"
  action := "upgrade-to-exclusive"
  score := 185
  placementMode := .movable
  currentNodeName := "node-a"
  currentGpuDevice := "0"
  rebalanceClass := "safe-direct"
  decision := "propose"
  state := "ready-in-place-upgrade"

/-- The two caps add up to a negative `int` and the state is accepted; with one of them moved away the other alone
exceeds the first GPU. -/
theorem pairedPlane_proposal_rejected :
    ((pairedPlane 2147483647).nodes.map (·.name)).Nodup ∧
    ((pairedPlane 2147483647).instances.map (·.name)).Nodup ∧
    (evaluateSchedulingPolicy (pairedPlane 2147483647)).errors = [] ∧
    ∃ entries entry, buildRebalancePlanEntries silentClock {} (pairedPlane 2147483647)
        (evaluateSchedulingPolicy (pairedPlane 2147483647)) [] [] [] {} [] 300 none = .ok entries ∧
      entry ∈ entries ∧ entry.decision = "propose" ∧
      ¬ ∃ s', materializeRebalancePlanEntry (pairedPlane 2147483647) entry.toRebalancePlanEntry = .ok s' ∧
        requireSchedulingPolicy s' = .ok () := by
  have hplan : buildRebalancePlanEntries silentClock {} (pairedPlane 2147483647)
      (evaluateSchedulingPolicy (pairedPlane 2147483647)) [] [] [] {} [] 300 none =
        .ok [pairedProposal "worker-a",pairedProposal "worker-b"] := by decide +kernel
  exact ⟨by decide,by decide,by decide +kernel,_,_,hplan,mem_cons_self,rfl,by decide +kernel⟩

theorem pairedPlane_dispatchable :
    ∃ mover ∈ workers (pairedPlane 4096),
      Dispatchable [] [] (pairedPlane 4096) mover (pairedProposal "worker-a").toRebalancePlanEntry := by
  have hplan : buildRebalancePlanEntries silentClock {} (pairedPlane 4096)
      (evaluateSchedulingPolicy (pairedPlane 4096)) [] [] [] {} [] 300 none =
        .ok [pairedProposal "worker-a",pairedProposal "worker-b"] := by decide +kernel
  obtain ⟨mover,hmover,hname,-,-,hiff⟩ := proposal_dispatchable_iff silentClock (pairedPlane 4096) [] [] [] {} [] 300
    none _ (pairedProposal "worker-a") (by decide) (by decide) (by decide +kernel) hplan mem_cons_self rfl
  obtain rfl : mover = pairedWorker 4096 "worker-a" := by
    rcases mem_pair.1 hmover with rfl | rfl
    · rfl
    · exact absurd hname (by decide)
  refine ⟨_,hmover,hiff.2 ⟨by decide,fun _ c hc => ?_,?_,?_⟩⟩
  · obtain rfl : 24576 = c := Option.some.inj hc
    decide
  · intro _ hnone
    cases hnone
  · intro hcrowded
    exact absurd hcrowded (by decide)

structure Concerns (recommendation : WorkerPlacementRecommendation) (i : InstanceSpec) : Prop where
  role : i.role = .worker
  name : i.name = recommendation.workerName
  nodeName : i.nodeName = recommendation.currentNodeName
  gpuDevice : i.gpuDevice = some recommendation.currentGpuDevice
  shareMode : i.shareMode = recommendation.currentShareMode
  gpuFraction : i.gpuFraction = recommendation.currentFraction
  memoryCapMb : i.memoryCapMb = recommendation.currentMemoryCapMb

/-- The target is offered, and the memory of those left behind and of those on the target with the worker fits. The
flags of the candidate settle the fractions and the exclusive workers, except where a fraction is lost in the
tolerance. -/
structure TakesAsIs (s : DesiredState) (mover : InstanceSpec) (home n g : String) : Prop where
  offers : Offers s.nodes n g
  remaining : (workersOn s mover.nodeName home).erase mover ≠ [] → ∀ c ∈ capacityMb s.nodes mover.nodeName home,
    memorySum ((workersOn s mover.nodeName home).erase mover) ≤ c
  idle : workersOn s n g = [] → ∀ c ∈ capacityMb s.nodes n g, mover.memoryCapMb.getD 0 ≤ c
  busy : workersOn s n g ≠ [] → ∀ c ∈ capacityMb s.nodes n g, memorySum (workersOn s n g ++ [mover]) ≤ c
  tiny : workersOn s n g ≠ [] → ∀ i ∈ workersOn s n g ++ [mover], i.gpuFraction ≤ 2 * kFractionEpsilon →
    (∀ j ∈ workersOn s n g ++ [mover], j.shareMode ≠ .exclusive) ∧
      ((workersOn s n g ++ [mover]).map (·.gpuFraction)).sum ≤ 1 + kFractionEpsilon

/-- A worker whose fraction fits beside the others of a GPU only needs the memory there. -/
lemma loadAdmissible_beside_iff {ws : List InstanceSpec} {mover : InstanceSpec} (hne : ws ≠ [])
    (hpos : ∀ i ∈ ws, 0 < i.gpuFraction)
    (hexclusive : ∀ i ∈ ws ++ [mover], i.shareMode = .exclusive → |i.gpuFraction - 1| ≤ kFractionEpsilon)
    (hfits : mover.gpuFraction ≤ max 0 (1 - (ws.map (·.gpuFraction)).sum) + kFractionEpsilon) (c : Option Int32) :
    LoadAdmissible (ws ++ [mover]) c ↔ (∀ m ∈ c, memorySum (ws ++ [mover]) ≤ m) ∧
      ∀ i ∈ ws ++ [mover], i.gpuFraction ≤ 2 * kFractionEpsilon →
        (∀ j ∈ ws ++ [mover], j.shareMode ≠ .exclusive) ∧
          ((ws ++ [mover]).map (·.gpuFraction)).sum ≤ 1 + kFractionEpsilon := by
  have hmany : ¬ (ws ++ [mover]).length ≤ 1 := by
    have := length_pos_iff.2 hne
    simp only [length_append,length_singleton]
    omega
  have hle : ∀ i ∈ ws, i.gpuFraction ≤ (ws.map (·.gpuFraction)).sum := fun i hi =>
    single_le_sum (by simpa using fun j hj => (hpos j hj).le) _ (mem_map_of_mem hi)
  constructor
  · exact fun h => ⟨h.memory,fun _ _ _ => ⟨fun j hj hs => hmany (h.alone j hj hs),h.fraction⟩⟩
  · rintro ⟨hmemory,htiny⟩
    by_cases hall : ∀ i ∈ ws ++ [mover], 2 * kFractionEpsilon < i.gpuFraction
    · -- something is free on the GPU, and less than a whole one
      have hmover : 2 * kFractionEpsilon < mover.gpuFraction := hall mover (by simp)
      have heps := kFractionEpsilon_pos
      have hfree : mover.gpuFraction ≤ 1 - (ws.map (·.gpuFraction)).sum + kFractionEpsilon := by
        rcases max_choice 0 (1 - (ws.map (·.gpuFraction)).sum) with hmax | hmax
        · rw [hmax] at hfits
          linarith
        · rwa [hmax] at hfits
      refine ⟨fun i hi hs => ?_,by simp only [map_append,sum_append,map_singleton,sum_singleton]; linarith,hmemory⟩
      have hwhole := abs_le.1 (hexclusive i hi hs)
      rcases mem_append.1 hi with hi | hi
      · have := hle i hi
        linarith
      · obtain rfl := mem_singleton.1 hi
        obtain ⟨j,hj⟩ := exists_mem_of_ne_nil ws hne
        have hj' := hall j (mem_append_left _ hj)
        have := hle j hj
        linarith
    · push Not at hall
      obtain ⟨i,hi,hsmall⟩ := hall
      obtain ⟨hshared,hsum⟩ := htiny i hi hsmall
      exact ⟨fun j hj hs => absurd hs (hshared j hj),hsum,hmemory⟩

def directEntry (recommendation : WorkerPlacementRecommendation) (p : PlacementCandidate) : RebalancePlanEntry where
  workerName := recommendation.workerName
  targetNodeName := p.nodeName
  targetGpuDevice := p.gpuDevice
  action := p.action
  score := p.score

/-- On the second GPU half of the fraction is free, and with the larger cap the memory only once the best-effort
worker is evicted. -/
def crowdedPlane (cap : Int32 := 6144) : DesiredState where
  planeName := "chat"
  nodes := [{name := "node-a", gpuDevices := ["0","1"], gpuMemoryMb := [("1",8192)]}]
  instances := [pairedWorker 4096 "worker-a",
    {pairedWorker 1024 "worker-b" with gpuDevice := some "1", gpuFraction := 1/4},
    {pairedWorker cap "worker-c" with
      gpuDevice := some "1", gpuFraction := 1/4, shareMode := .bestEffort, preemptible := true}]

end Naim.RebalancePlan
