import Mathlib.Algebra.Order.Monoid.Prod
import Naim.RebalanceSafety

/-!
# The smallest selection of victims

The greedy loop of the policy against the fractions and the memory on the GPU: what
it selects is the shortest part of the victim order that makes room for the worker.
-/

namespace Naim.RebalancePlan

open Rows SchedulingPolicy RolloutPlan List Int32

def recordsOn (s : DesiredState) (nodeName gpuDevice : String) : List WorkerAllocationRecord :=
  (reportRecords s).filter fun r => r.nodeName = nodeName && r.gpuDevice = gpuDevice

def total (rs : List WorkerAllocationRecord) : ℚ × ℤ :=
  (rs.map fun r => (r.gpuFraction,(r.memoryCapMb.getD 0).toInt)).sum

/-- Beside the workers that are left there is room for the worker, up to the tolerance. -/
structure Enough (node : NodeInventory) (gpu : String) (worker : WorkerAllocationRecord) (required : ℚ)
    (left : List WorkerAllocationRecord) : Prop where
  fraction : required ≤ 1 - (total left).1 + kFractionEpsilon
  memory : ∀ cap ∈ worker.memoryCapMb, ∀ m ∈ node.gpuMemoryMb.lookup gpu, cap.toInt ≤ m.toInt - (total left).2

/-- The workers keep the limits of the GPU without the tolerance, and their caps can be added. -/
structure Within (node : NodeInventory) (gpu : String) (rs : List WorkerAllocationRecord) : Prop where
  fraction : (total rs).1 ≤ 1
  sum : (total rs).2 < 2^31
  memory : ∀ m ∈ node.gpuMemoryMb.lookup gpu, (total rs).2 ≤ m.toInt

/-- The selection names these victims, and no smaller part of the victim order would do. -/
structure Minimal (s : DesiredState) (node : NodeInventory) (gpu : String) (worker : WorkerAllocationRecord)
    (required : ℚ) (selection : VictimSelection) (victims : List WorkerAllocationRecord) : Prop where
  names : selection.workerNames = victims.map (·.workerName)
  le_order : victims <+: buildBestEffortVictimOrder (reportRecords s) node.name gpu
  satisfies_iff : selection.satisfies = true ↔
    Enough node gpu worker required ((recordsOn s node.name gpu).filter (·.shareMode ≠ .bestEffort))
  enough : selection.satisfies = true → Enough node gpu worker required ((recordsOn s node.name gpu).diff victims)
  least : ∀ fewer, fewer <+: victims → fewer ≠ victims →
    ¬ Enough node gpu worker required ((recordsOn s node.name gpu).diff fewer)

variable {s : DesiredState} {node : NodeInventory} {gpu : String} {worker : WorkerAllocationRecord} {required : ℚ}
  {rs rs' rs'' : List WorkerAllocationRecord}

lemma sum_pairs {α : Type} (f : α → ℚ) (g : α → ℤ) (l : List α) :
    (l.map fun a => (f a,g a)).sum = ((l.map f).sum,(l.map g).sum) := by
  induction l with
  | nil => rfl
  | cons a l ih => simp [ih]

lemma total_of_perm (h : rs.Perm (rs' ++ rs'')) : total rs = total rs' + total rs'' := by
  rw [total,(h.map _).sum_eq,map_append,sum_append]
  rfl

lemma total_nonneg (h : ∀ r ∈ rs, r ∈ reportRecords s) : 0 ≤ total rs := by
  refine sum_nonneg fun x hx => ?_
  obtain ⟨r,hr,rfl⟩ := mem_map.1 hx
  obtain ⟨i,-,_,hadm,-,-,-,hfraction,hcap,-⟩ := mem_reportRecords (h r hr)
  refine ⟨hfraction ▸ hadm.fraction_pos.le,?_⟩
  rw [← hcap]
  cases hm : i.memoryCapMb with
  | none => simp
  | some cap => simpa using (lt_iff_toInt_lt.1 (hadm.memory cap hm)).le

lemma total_recordsOn (hclean : workerErrors s = []) (n g : String) : total (recordsOn s n g) =
    (((workersOn s n g).map (·.gpuFraction)).sum,memoryTotal (workersOn s n g)) := by
  have hpairs : total (recordsOn s n g) = ((workersOn s n g).map fun i =>
      (i.gpuFraction,(i.memoryCapMb.getD 0).toInt)).sum := by
    rw [total,← admittedOn_specs hclean,recordsOn,reportRecords,workerRecords,map_map,filter_map,map_map,map_map]
    refine congrArg (fun l : List AdmittedWorker => (l.map _).sum) (filter_congr fun w _ => ?_)
    show (decide (w.spec.nodeName = n) && decide (w.gpuDevice = g)) = _
    simp [gpuKey,Bool.decide_and]
  rw [hpairs,sum_pairs,memoryTotal]

lemma Enough.of_perm {left left' rest : List WorkerAllocationRecord} (h : Enough node gpu worker required left)
    (hperm : left.Perm (rest ++ left')) (hrest : ∀ r ∈ rest, r ∈ reportRecords s) :
    Enough node gpu worker required left' := by
  obtain ⟨hfraction,hmemory⟩ := total_nonneg hrest
  obtain ⟨h₁,h₂⟩ := Prod.ext_iff.1 (total_of_perm hperm)
  simp only [Prod.fst_zero,Prod.snd_zero,Prod.fst_add,Prod.snd_add] at hfraction hmemory h₁ h₂
  refine ⟨?_,fun cap hcap m hm => ?_⟩
  · have := h.fraction
    linarith
  · have := h.memory cap hcap m hm
    omega

/-- On a GPU that keeps its limits nothing is lost where the loop cuts its differences off at zero. -/
lemma suffices_iff_enough (hclean : workerErrors s = []) (hworker : worker ∈ reportRecords s)
    (hw : Within node gpu (recordsOn s node.name gpu)) {victims left : List WorkerAllocationRecord}
    (hperm : (recordsOn s node.name gpu).Perm (victims ++ left)) :
    Suffices worker (capacitySummary (allocations (admittedWorkers s)) node gpu) required victims ↔
      Enough node gpu worker required left := by
  have hsum := capacitySummary_summarizes hclean node gpu
  have hrecorded : ∀ r ∈ victims ++ left, r ∈ reportRecords s := fun r hr => mem_of_mem_filter (hperm.mem_iff.2 hr)
  obtain ⟨hvictims,hvictims'⟩ := total_nonneg fun r hr => hrecorded r (mem_append_left left hr)
  obtain ⟨hleft,hleft'⟩ := total_nonneg fun r hr => hrecorded r (mem_append_right victims hr)
  obtain ⟨hfraction,hmemory⟩ := Prod.ext_iff.1 (total_of_perm hperm)
  obtain ⟨hfull,hlt,hcapacity⟩ := hw
  simp only [total_recordsOn hclean,Prod.fst_zero,Prod.snd_zero,Prod.fst_add,Prod.snd_add] at *
  have hreleased : (victims.foldl takeVictim {}).releasedFraction = (total victims).1 := by
    rw [total,sum_pairs,sum_eq_foldl,foldl_map]
    exact (foldl_hom VictimSelection.releasedFraction fun _ _ => rfl).symm
  have hreleased' : (victims.foldl takeVictim {}).releasedMemoryCapMb.toInt = (total victims).2 := by
    have hfold : (victims.foldl takeVictim {}).releasedMemoryCapMb =
        victims.foldl (fun m r => m + r.memoryCapMb.getD 0) 0 :=
      (foldl_hom VictimSelection.releasedMemoryCapMb fun _ _ => rfl).symm
    have hsmall : (total victims).2.bmod (2^32) = (total victims).2 := Int.bmod_eq_of_le (by omega) (by omega)
    rw [hfold,toInt_foldl_add,← hsmall,total,sum_pairs]
  have hneeded : neededMemoryMb worker (capacitySummary (allocations (admittedWorkers s)) node gpu) ≤
      (victims.foldl takeVictim {}).releasedMemoryCapMb ↔
        ∀ cap ∈ worker.memoryCapMb, ∀ m ∈ node.gpuMemoryMb.lookup gpu, cap.toInt ≤ m.toInt - (total left).2 := by
    rw [le_iff_toInt_le,hreleased',neededMemoryMb,hsum.freeMemoryMb]
    cases hcap : worker.memoryCapMb with
    | none => simpa using hvictims'
    | some cap =>
      cases hm : node.gpuMemoryMb.lookup gpu with
      | none => simpa using hvictims'
      | some m =>
        have hle := hcapacity m hm
        have hused : (memorySum (workersOn s node.name gpu)).toInt = memoryTotal (workersOn s node.name gpu) :=
          toInt_memorySum_of_lt (fun i hi => by
            obtain ⟨_,_,hadm⟩ := workerErrors_eq_nil.1 hclean i (mem_of_mem_filter hi)
            exact hadm.memory) hlt
        have hm₀ : 0 ≤ m := le_iff_toInt_le.2 (by rw [toInt_zero]; omega)
        have hused₀ : 0 ≤ memorySum (workersOn s node.name gpu) := le_iff_toInt_le.2 (by
          rw [toInt_zero,hused]
          omega)
        obtain ⟨i,-,_,hadm,-,-,-,-,hcap',-⟩ := mem_reportRecords hworker
        simp only [Option.map_some,Option.mem_some,forall_eq']
        rw [toInt_max_zero,toInt_sub_of_nonneg (Int32.le_of_lt (hadm.memory cap (hcap'.trans hcap)))
          (zero_le_max_zero _),toInt_max_zero,toInt_sub_of_nonneg hm₀ hused₀,hused]
        omega
  have hspare : max 0 (required - (capacitySummary (allocations (admittedWorkers s)) node gpu).freeFraction) ≤
      (total victims).1 + kFractionEpsilon ↔ required ≤ 1 - (total left).1 + kFractionEpsilon := by
    have := kFractionEpsilon_pos
    rw [hsum.freeFraction,max_eq_right (sub_nonneg.2 hfull),max_le_iff]
    constructor
    · rintro ⟨-,h⟩
      linarith
    · intro h
      constructor <;> linarith
  rw [Suffices,Covers,hreleased]
  exact ⟨fun h => ⟨hspare.1 h.1,hneeded.1 h.2⟩,fun h => ⟨hspare.2 h.fraction,hneeded.2 h.memory⟩⟩

lemma recordsOn_perm (s : DesiredState) (n g : String) : (recordsOn s n g).Perm
    (buildBestEffortVictimOrder (reportRecords s) n g ++ (recordsOn s n g).filter (·.shareMode ≠ .bestEffort)) := by
  have horder : (buildBestEffortVictimOrder (reportRecords s) n g).Perm
      ((recordsOn s n g).filter (·.shareMode = .bestEffort)) := by
    refine (sortBy_perm _ _).trans (.of_eq ?_)
    rw [recordsOn,filter_filter]
    refine filter_congr fun r hr => ?_
    obtain ⟨i,-,_,hadm,-,-,hshare,-,-,hpre⟩ := mem_reportRecords hr
    by_cases hs : r.shareMode = .bestEffort
    · simp [hs,← hpre,hadm.bestEffort (hshare.trans hs)]
    · simp [hs]
  have hsplit := filter_append_perm (fun r : WorkerAllocationRecord => decide (r.shareMode = .bestEffort))
    (recordsOn s n g)
  refine ((horder.append_right _).trans ?_).symm
  simpa using hsplit

/-- Of a GPU that keeps its limits the policy selects the shortest part of the victim order that makes room. -/
theorem minimal_victims (s : DesiredState) (hclean : (evaluateSchedulingPolicy s).errors = [])
    (worker : WorkerAllocationRecord) (hworker : worker ∈ reportRecords s) (node : NodeInventory) (gpu : String)
    (hw : Within node gpu (recordsOn s node.name gpu)) (required : ℚ) :
    ∃ victims, Minimal s node gpu worker required (selectMinimalVictims worker
      (capacitySummary (allocations (admittedWorkers s)) node gpu)
      (buildBestEffortVictimOrder (reportRecords s) node.name gpu) required) victims := by
  have herrors := workerErrors_eq_nil.2 ((errors_eq_nil_iff s).1 hclean).1
  obtain ⟨victims,hfirst,hnames,hsatisfies⟩ := @selectMinimalVictims_first worker
    (capacitySummary (allocations (admittedWorkers s)) node gpu) required
    (buildBestEffortVictimOrder (reportRecords s) node.name gpu)
  have hall := recordsOn_perm s node.name gpu
  have hperm : ∀ l, l <+: buildBestEffortVictimOrder (reportRecords s) node.name gpu →
      (recordsOn s node.name gpu).Perm (l ++ (recordsOn s node.name gpu).diff l) := by
    intro l hl
    have hsub : l <+~ recordsOn s node.name gpu :=
      (hl.sublist.trans (sublist_append_left _ _)).subperm.trans hall.symm.subperm
    exact (subperm_append_diff_self_of_count_le fun r _ => hsub.count_le r).symm
  have hiff : ∀ l, l <+: buildBestEffortVictimOrder (reportRecords s) node.name gpu → _ := fun l hl =>
    @suffices_iff_enough s node gpu worker required herrors hworker hw l _ (hperm l hl)
  refine ⟨victims,hnames,hfirst.le_order,?_,fun h => (hiff _ hfirst.le_order).1 (hsatisfies.1 h),fun fewer hle hne h =>
    hfirst.least fewer hle hne ((hiff fewer (hle.trans hfirst.le_order)).2 h)⟩
  rw [hsatisfies]
  constructor
  · intro h
    obtain ⟨rest,hrest⟩ := hfirst.le_order
    have hdiff : ((recordsOn s node.name gpu).diff victims).Perm
        (rest ++ (recordsOn s node.name gpu).filter (·.shareMode ≠ .bestEffort)) := by
      rw [← perm_append_left_iff victims,← append_assoc,hrest]
      exact (hperm victims hfirst.le_order).symm.trans hall
    exact ((hiff victims hfirst.le_order).1 h).of_perm hdiff fun r hr =>
      mem_of_mem_filter (mem_sortBy.1 (hrest ▸ mem_append_right victims hr))
  · intro h
    by_contra hnot
    exact hnot (hfirst.all hnot ▸ (suffices_iff_enough herrors hworker hw hall).2 h)

/-- On the second GPU the fractions add up to more than one, within the tolerance. -/
def overfullPlane : DesiredState :=
  {crowdedPlane with
    instances := [{pairedWorker 1024 "worker-a" with gpuFraction := 1/2 + 4/5000000000},
      {pairedWorker 1024 "worker-b" with gpuDevice := some "1", gpuFraction := 1/2 + 1/2000000000},
      {pairedWorker 1024 "worker-c" with gpuDevice := some "1", shareMode := .bestEffort, preemptible := true}]}

/-- The victim is taken to be enough, and without it the first worker exceeds the GPU by more than the tolerance. -/
theorem overfullPlane_victims_short :
    (evaluateSchedulingPolicy overfullPlane).errors = [] ∧
    ∃ node ∈ overfullPlane.nodes, ∃ worker ∈ reportRecords overfullPlane,
      (selectMinimalVictims worker (capacitySummary (allocations (admittedWorkers overfullPlane)) node "1")
        (buildBestEffortVictimOrder (reportRecords overfullPlane) node.name "1") worker.gpuFraction).satisfies = true ∧
      1 - (total ((recordsOn overfullPlane node.name "1").filter (·.shareMode ≠ .bestEffort))).1 + kFractionEpsilon <
        worker.gpuFraction := by
  decide +kernel

theorem crowdedPlane_minimal : ∃ node ∈ crowdedPlane.nodes, ∃ worker ∈ reportRecords crowdedPlane, ∃ victims,
    Minimal crowdedPlane node "1" worker (1/2) (selectMinimalVictims worker
      (capacitySummary (allocations (admittedWorkers crowdedPlane)) node "1")
      (buildBestEffortVictimOrder (reportRecords crowdedPlane) node.name "1") (1/2)) victims := by
  obtain ⟨worker,hworker⟩ := exists_mem_of_ne_nil (reportRecords crowdedPlane) (by decide +kernel)
  refine ⟨_,mem_cons_self,worker,hworker,minimal_victims crowdedPlane (by decide +kernel) worker hworker _ "1" ?_ _⟩
  refine ⟨by decide +kernel,by decide +kernel,fun m hm => ?_⟩
  obtain rfl : 8192 = m := Option.some.inj hm
  decide +kernel

end Naim.RebalancePlan
