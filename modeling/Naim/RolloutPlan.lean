import Naim.GpuAdmission
import Mathlib.Algebra.Order.Ring.Rat

/-!
# The rollout actions of a report

Where the evictions of a report come from, how the actions of different workers
relate, and when a retried placement is accepted by the policy.
-/

namespace Naim.RolloutPlan

open List Rows SchedulerExecution SchedulingPolicy

def takeVictim (selection : VictimSelection) (victim : WorkerAllocationRecord) : VictimSelection :=
  {selection with
    workerNames := selection.workerNames ++ [victim.workerName]
    releasedFraction := selection.releasedFraction + victim.gpuFraction
    releasedMemoryCapMb := selection.releasedMemoryCapMb + victim.memoryCapMb.getD 0}

def Covers (f : ℚ) (m : Int32) (selection : VictimSelection) (victims : List WorkerAllocationRecord) : Prop :=
  (victims.foldl takeVictim selection).releasedFraction + kFractionEpsilon ≥ f ∧
    (victims.foldl takeVictim selection).releasedMemoryCapMb ≥ m

structure First (meets : List WorkerAllocationRecord → Prop) (order victims : List WorkerAllocationRecord) : Prop where
  le_order : victims <+: order
  least : ∀ fewer, fewer <+: victims → fewer ≠ victims → ¬ meets fewer
  all : ¬ meets victims → victims = order

variable {m step : Int32}

lemma collectVictims_first (order : List WorkerAllocationRecord) (hneeds : ¬ Covers f m selection [])
    (hopen : selection.satisfies = false) :
    ∃ victims, First (Covers f m selection) order victims ∧
      (collectVictims f m selection order).workerNames = selection.workerNames ++ victims.map (·.workerName) ∧
      ((collectVictims f m selection order).satisfies = true ↔ Covers f m selection victims) := by
  induction order generalizing selection with
  | nil =>
    exact ⟨[],⟨prefix_rfl,fun _ h hne => absurd (prefix_nil.1 h) hne,fun _ => rfl⟩,(append_nil _).symm,
      by simp [collectVictims,hopen,hneeds]⟩
  | cons v order ih =>
    have hfewer : ∀ victims, (∀ fewer, fewer <+: victims → fewer ≠ victims →
      ¬ Covers f m (takeVictim selection v) fewer) →
        ∀ fewer, fewer <+: v::victims → fewer ≠ v::victims → ¬ Covers f m selection fewer := by
      intro victims h fewer hle hne
      cases fewer with
      | nil => exact hneeds
      | cons w fewer =>
        obtain ⟨rfl,hrest⟩ := cons_prefix_cons.1 hle
        exact h fewer hrest fun heq => hne (heq ▸ rfl)
    rw [collectVictims]
    split
    next hcovers =>
      exact ⟨[v],⟨⟨order,rfl⟩,hfewer [] fun _ h hne => absurd (prefix_nil.1 h) hne,fun h => absurd hcovers h⟩,rfl,
        iff_of_true rfl hcovers⟩
    next hshort =>
      obtain ⟨victims,hfirst,hnames,hsatisfies⟩ := @ih (takeVictim selection v) hshort hopen
      refine ⟨v::victims,⟨cons_prefix_cons.2 ⟨rfl,hfirst.le_order⟩,hfewer victims hfirst.least,fun h =>
        congrArg _ (hfirst.all h)⟩,hnames.trans ?_,hsatisfies⟩
      simp [takeVictim]

section selection

variable {worker : WorkerAllocationRecord} {capacity : GpuCapacitySummary} {required : ℚ}

def Suffices (worker : WorkerAllocationRecord) (capacity : GpuCapacitySummary) (required : ℚ) :
    List WorkerAllocationRecord → Prop :=
  Covers (max 0 (required - capacity.freeFraction)) (neededMemoryMb worker capacity) {}

lemma suffices_nil : Suffices worker capacity required [] ↔
    max 0 (required - capacity.freeFraction) ≤ kFractionEpsilon ∧ neededMemoryMb worker capacity ≤ 0 := by
  simp [Suffices,Covers]

lemma selectMinimalVictims_first (order : List WorkerAllocationRecord) :
    ∃ victims, First (Suffices worker capacity required) order victims ∧
      (selectMinimalVictims worker capacity order required).workerNames = victims.map (·.workerName) ∧
      ((selectMinimalVictims worker capacity order required).satisfies = true ↔
        Suffices worker capacity required victims) := by
  unfold selectMinimalVictims
  by_cases h : Suffices worker capacity required []
  · rw [if_pos (suffices_nil.1 h)]
    exact ⟨[],⟨ nil_prefix,fun _ hle hne => absurd (prefix_nil.1 hle) hne,fun hnot => absurd h hnot⟩,rfl,
      iff_of_true rfl h⟩
  · rw [if_neg (suffices_nil.not.1 h)]
    exact collectVictims_first order h rfl

lemma selectMinimalVictims_le_order (order : List WorkerAllocationRecord) :
    (selectMinimalVictims worker capacity order required).workerNames <+: order.map fun r => r.workerName := by
  obtain ⟨victims,hfirst,hnames,-⟩ := @selectMinimalVictims_first worker capacity required order
  exact hnames ▸ hfirst.le_order.map _

end selection

lemma preemptionVictims_le_order (records : List WorkerAllocationRecord) (worker : WorkerAllocationRecord)
    (capacity : GpuCapacitySummary) :
    (placementCandidate records worker capacity).preemptionVictims <+:
      (buildBestEffortVictimOrder records capacity.nodeName capacity.gpuDevice).map fun r => r.workerName := by
  unfold placementCandidate
  dsimp only
  split <;> exact selectMinimalVictims_le_order _

def reportRecords (s : DesiredState) : List WorkerAllocationRecord :=
  workerRecords (admittedWorkers s) (allocations (admittedWorkers s))

variable {s s' : DesiredState} {i j mover : InstanceSpec} {r : WorkerAllocationRecord}
  {a e evict retry : SchedulerRolloutAction}

lemma mem_reportRecords (h : r ∈ reportRecords s) :
    ∃ i ∈ workers s, ∃ node, Admissible s.nodes i r.gpuDevice node ∧ i.name = r.workerName ∧
      i.nodeName = r.nodeName ∧ i.shareMode = r.shareMode ∧ i.gpuFraction = r.gpuFraction ∧
      i.memoryCapMb = r.memoryCapMb ∧ i.preemptible = r.preemptible := by
  simp only [reportRecords,workerRecords,mem_map] at h
  obtain ⟨_,⟨w,hw,rfl⟩,rfl⟩ := h
  obtain ⟨hi,hadm⟩ := mem_admittedWorkers.1 hw
  exact ⟨w.spec,hi,w.node,hadm,rfl,rfl,rfl,rfl,rfl,rfl⟩

/-- The worker `r` is proposed to move to the GPU of `c`, which has victims. -/
structure Proposal (s : DesiredState) (r : WorkerAllocationRecord) (c : GpuCapacitySummary) : Prop where
  record : r ∈ reportRecords s
  capacity : c ∈ (evaluateSchedulingPolicy s).capacities
  elsewhere : isCurrentGpu r c = false
  required : (placementCandidate (reportRecords s) r c).preemptionRequired
  victims : (placementCandidate (reportRecords s) r c).preemptionVictims ≠ []
  best : (recommendation (effectiveWorkerSelectionPolicy s) (reportRecords s)
    (evaluateSchedulingPolicy s).capacities r).candidates.head? =
      some (placementCandidate (reportRecords s) r c)

lemma mem_rolloutActions (h : a ∈ rolloutActions step recs) :
    ∃ r ∈ recs, ∃ c, r.candidates.head? = some c ∧ c.preemptionRequired ∧ c.preemptionVictims ≠ [] ∧
      ∃ k, a = evictAction k r.workerName c ∨ a = retryAction k r.workerName c := by
  induction recs generalizing step with
  | nil => simp [rolloutActions] at h
  | cons r recs ih =>
    rw [rolloutActions] at h
    split at h
    · obtain ⟨r',hr',hrest⟩ := ih h
      exact ⟨r',by simp [hr'],hrest⟩
    next c cs hc =>
      split at h
      · obtain ⟨r',hr',hrest⟩ := ih h
        exact ⟨r',by simp [hr'],hrest⟩
      · rename_i hnot
        rw [not_or] at hnot
        have hhead : r.candidates.head? = some c := by rw [hc]; rfl
        have hrequired : c.preemptionRequired := by simpa using hnot.1
        rcases mem_cons.1 h with rfl | h
        · exact ⟨r,by simp,c,hhead,hrequired,hnot.2,step,.inl rfl⟩
        rcases mem_cons.1 h with rfl | h
        · exact ⟨r,by simp,c,hhead,hrequired,hnot.2,step + 1,.inr rfl⟩
        · obtain ⟨r',hr',hrest⟩ := ih h
          exact ⟨r',by simp [hr'],hrest⟩

lemma proposal_of_action (h : a ∈ (evaluateSchedulingPolicy s).rolloutActions) :
    ∃ r c, Proposal s r c ∧ ∃ k,
      a = evictAction k r.workerName (placementCandidate (reportRecords s) r c) ∨
      a = retryAction k r.workerName (placementCandidate (reportRecords s) r c) := by
  obtain ⟨rec,hrec,c,hhead,hrequired,hvictims,k,ha⟩ := mem_rolloutActions h
  have hrec := mem_filter.1 (mem_sortBy.1 hrec)
  obtain ⟨r,hr,rfl⟩ := mem_map.1 hrec.1
  obtain ⟨d,hd,rfl⟩ := mem_map.1 (mem_sortBy.1 (mem_of_mem_head? hhead))
  obtain ⟨hd,helse⟩ := mem_filter.1 hd
  exact ⟨r,d,⟨(mem_filter.1 hr).1,hd,by simpa using helse,hrequired,hvictims,hhead⟩,k,ha⟩

def evictions (s : DesiredState) : List SchedulerRolloutAction :=
  (evaluateSchedulingPolicy s).rolloutActions.filter (·.action = "evict-best-effort")

def target (a : SchedulerRolloutAction) : String × String := (a.targetNodeName,a.targetGpuDevice)

lemma evictions_names_sublist (step : Int32) (recs : List WorkerPlacementRecommendation) :
    (((rolloutActions step recs).filter (·.action = "evict-best-effort")).map
      fun a => a.workerName).Sublist (recs.map (·.workerName)) := by
  induction recs generalizing step with
  | nil => exact List.Sublist.slnil
  | cons r recs ih =>
    rw [rolloutActions,map_cons]
    split
    · exact (ih step).cons _
    · split
      · exact (ih step).cons _
      · exact (ih (step + 2)).cons_cons _

section Names

variable (h : (s.instances.map (·.name)).Nodup)

include h

lemma workers_names_nodup : ((workers s).map (·.name)).Nodup := h.sublist (filter_sublist.map _)

lemma worker_unique (hi : i ∈ workers s) (hj : j ∈ workers s) (hname : i.name = j.name) : i = j :=
  inj_on_of_nodup_map (workers_names_nodup h) hi hj hname

lemma reportRecords_names_nodup : ((reportRecords s).map (·.workerName)).Nodup := by
  have hspecs : ((admittedWorkers s).map (·.spec)).Sublist (workers s) := by
    unfold admittedWorkers
    generalize workers s = is
    induction is with
    | nil => exact List.Sublist.slnil
    | cons i is ih =>
      cases ha : admitWorker s.nodes i with
      | error message => simpa [ha,Except.toOption] using ih.cons i
      | ok w => simpa [ha,Except.toOption,(admitWorker_eq_ok.1 ha).1] using ih
  have heq : (reportRecords s).map (·.workerName) =
      ((admittedWorkers s).map (·.spec)).map fun i => i.name := by
    simp [reportRecords,workerRecords,workerRecord]
  rw [heq]
  exact (workers_names_nodup h).sublist (hspecs.map _)

lemma evictions_names_nodup : ((evictions s).map (·.workerName)).Nodup := by
  refine Nodup.sublist (evictions_names_sublist _ _) ?_
  refine ((sortBy_perm _ _).map _).nodup_iff.2 ?_
  refine Nodup.sublist (filter_sublist.map _) ?_
  rw [map_map]
  exact (reportRecords_names_nodup h).sublist (filter_sublist.map _)

end Names

lemma proposal_of_eviction (h : e ∈ evictions s) :
    ∃ r c, Proposal s r c ∧ e.workerName = r.workerName ∧ target e = (c.nodeName,c.gpuDevice) ∧
      e.victimWorkerNames = (placementCandidate (reportRecords s) r c).preemptionVictims := by
  obtain ⟨h,haction⟩ := mem_filter.1 h
  obtain ⟨r,c,hp,k,rfl | rfl⟩ := proposal_of_action h
  · exact ⟨r,c,hp,rfl,rfl,rfl⟩
  · have hne : "retry-placement" ≠ "evict-best-effort" := by decide
    exact absurd (of_decide_eq_true haction) hne

lemma victim_on_target (h : v ∈ (placementCandidate (reportRecords s) r c).preemptionVictims) :
    ∃ i ∈ workers s, i.name = v ∧ isOn c.nodeName c.gpuDevice i ∧ i.shareMode = .bestEffort ∧
      i.preemptible := by
  obtain ⟨q,hq,rfl⟩ := mem_map.1 ((preemptionVictims_le_order _ _ _).subset h)
  obtain ⟨hq,hon⟩ := mem_filter.1 (mem_sortBy.1 hq)
  obtain ⟨i,hi,node,hadm,hname,hnode,hshare,-,-,hpre⟩ := mem_reportRecords hq
  simp only [Bool.and_eq_true,decide_eq_true_eq] at hon
  obtain ⟨⟨⟨h₁,h₂⟩,h₃⟩,h₄⟩ := hon
  exact ⟨i,hi,hname,by simp [isOn,hadm.pinned,hnode,h₁,h₂],hshare.trans h₃,hpre.trans h₄⟩

/-- The evictions of one report. Each worker moves at most once and is not evicted for its own move;
a worker is evicted for two moves only if they have the same target, and then the victims of one
are the first victims of the other. -/
theorem evictions_agree (s : DesiredState) (hnames : (s.instances.map (·.name)).Nodup) :
    ((evictions s).map (·.workerName)).Nodup ∧
    (∀ e ∈ evictions s, e.workerName ∉ e.victimWorkerNames ∧ ∀ v ∈ e.victimWorkerNames,
      ∃ i ∈ workers s, i.name = v ∧ isOn e.targetNodeName e.targetGpuDevice i ∧
        i.shareMode = .bestEffort ∧ i.preemptible) ∧
    ∀ e ∈ evictions s, ∀ f ∈ evictions s,
      (target e ≠ target f → ∀ v ∈ e.victimWorkerNames, v ∉ f.victimWorkerNames) ∧
      (target e = target f → e.victimWorkerNames <+: f.victimWorkerNames ∨
        f.victimWorkerNames <+: e.victimWorkerNames) := by
  refine ⟨evictions_names_nodup hnames,?_,?_⟩
  · intro e he
    obtain ⟨r,c,hp,hworker,htarget,hvictims⟩ := proposal_of_eviction he
    obtain ⟨hn,hg⟩ := Prod.mk.inj htarget
    rw [hvictims,hworker,hn,hg]
    refine ⟨fun hmem => ?_,fun v hv => victim_on_target hv⟩
    obtain ⟨i,hi,hname,hon,-,-⟩ := victim_on_target hmem
    obtain ⟨j,hj,node,hadm,hjname,hnode,-⟩ := mem_reportRecords hp.record
    obtain rfl := worker_unique hnames hi hj (hname.trans hjname.symm)
    have helse := hp.elsewhere
    simp_all [isOn,isCurrentGpu,hadm.pinned]
  · intro e he f hf
    obtain ⟨r,c,hp,-,htarget,hvictims⟩ := proposal_of_eviction he
    obtain ⟨r',c',hp',-,htarget',hvictims'⟩ := proposal_of_eviction hf
    rw [hvictims,hvictims',htarget,htarget']
    constructor
    · intro hne v hv hv'
      obtain ⟨i,hi,hname,hon,-,-⟩ := victim_on_target hv
      obtain ⟨j,hj,hname',hon',-,-⟩ := victim_on_target hv'
      obtain rfl := worker_unique hnames hi hj (hname.trans hname'.symm)
      simp_all [isOn]
    · intro heq
      obtain ⟨hn,hg⟩ := Prod.mk.inj heq
      have h₁ := preemptionVictims_le_order (reportRecords s) r c
      have h₂ := preemptionVictims_le_order (reportRecords s) r' c'
      rw [← hn,← hg] at h₂
      exact prefix_or_prefix_of_prefix h₁ h₂

/-- Three best-effort workers, each alone on a GPU that another one would take. -/
def contendedState : DesiredState where
  nodes := [{name := "n",gpuDevices := ["a","b","c"]}]
  instances := ["a","b","c"].map fun gpu =>
    { name := "worker-" ++ gpu,role := .worker,nodeName := "n",gpuDevice := some gpu
      shareMode := .bestEffort,gpuFraction := 3/5,preemptible := true }

/-- Movers are victims, a worker is evicted twice, and two moves have one target. -/
theorem contendedState_contradicts :
    (evaluateSchedulingPolicy contendedState).errors = [] ∧
    (∃ e ∈ evictions contendedState, ∃ f ∈ evictions contendedState,
      e.workerName ∈ f.victimWorkerNames) ∧
    ¬ (evictions contendedState).Pairwise (fun e f => ∀ v ∈ e.victimWorkerNames, v ∉ f.victimWorkerNames) ∧
    ¬ (evictions contendedState).Pairwise (fun e f => target e ≠ target f) := by decide +kernel

theorem evictions_agree_contended :
    ((evictions contendedState).map (·.workerName)).Nodup ∧
    ∀ e ∈ evictions contendedState, e.workerName ∉ e.victimWorkerNames :=
  have h := evictions_agree contendedState (by decide)
  ⟨h.1,fun e he => (h.2.1 e he).1⟩

def dropDependencies (names : List String) (i : InstanceSpec) : InstanceSpec :=
  {i with dependsOn := i.dependsOn.filter fun n => n ∉ names}

lemma removeWorkers_nodes (victims : List String) (s : DesiredState) :
    (victims.foldl removeWorkerFromDesiredState s).nodes = s.nodes := by
  induction victims generalizing s with
  | nil => rfl
  | cons v victims ih => exact ih _

lemma dropDependencies_nil : dropDependencies [] = id := by
  funext i
  simp [dropDependencies]

lemma removeWorkers_instances (victims : List String) (s : DesiredState) :
    (victims.foldl removeWorkerFromDesiredState s).instances =
      (s.instances.filter (·.name ∉ victims)).map (dropDependencies victims) := by
  induction victims generalizing s with
  | nil => simp [dropDependencies_nil]
  | cons v victims ih =>
    rw [foldl_cons,ih]
    simp only [removeWorkerFromDesiredState,filter_map,map_map,filter_filter]
    refine congrArg₂ _ (funext fun i => ?_) (filter_congr fun i _ => ?_)
    · simp [dropDependencies,filter_filter,Bool.and_comm]
    · simp [Bool.and_comm]

def left (s : DesiredState) (mover : InstanceSpec) : List InstanceSpec :=
  (workers s).filter fun i =>
    i.nodeName = mover.nodeName && i.gpuDevice = mover.gpuDevice && i.name ≠ mover.name

section Accepted

variable {mover after : InstanceSpec}
variable {k : InstanceSpec → Bool} {f : InstanceSpec → InstanceSpec} {gpu n g : String}

lemma left_eq (hnames : (s.instances.map (·.name)).Nodup) (hmover : mover ∈ workers s)
    (hgpu : mover.gpuDevice = some gpu) : left s mover = (workersOn s mover.nodeName gpu).erase mover := by
  have hnodup : (workersOn s mover.nodeName gpu).Nodup := (Nodup.of_map _ (workers_names_nodup hnames)).filter _
  rw [hnodup.erase_eq_filter,left,workersOn,filter_filter,hgpu]
  refine filter_congr fun i hi => ?_
  have hiff : i.name = mover.name ↔ i = mover := ⟨worker_unique hnames hi hmover,fun h => h ▸ rfl⟩
  rw [Bool.and_comm,decide_not,decide_eq_decide.2 hiff,← Bool.beq_eq_decide_eq]
  rfl

lemma exists_others (hnames : (s.instances.map (·.name)).Nodup) (hmover : mover ∈ workers s) :
    ∃ others, (workers s).Perm (mover::others) ∧ ∀ i ∈ others, i.name ≠ mover.name := by
  have hperm := perm_cons_erase hmover
  have hnodup := (hperm.map (·.name)).nodup_iff.1 (workers_names_nodup hnames)
  rw [map_cons,nodup_cons] at hnodup
  exact ⟨_,hperm,fun i hi hname => hnodup.1 (hname ▸ mem_map_of_mem hi)⟩

/-- A state in which `mover` has gone to another GPU as `after` and some workers there are gone is accepted exactly if
`after` passes its own checks, the target takes it, and the memory of those it leaves behind fits. -/
lemma accepted_moved_iff (hclean : (evaluateSchedulingPolicy s).errors = [])
    (hbefore : (workers s).Perm (mover::others)) (hworkers : (workers s').Perm (after::(others.filter k).map f))
    (hnodes : s'.nodes = s.nodes) (hf : ∀ i, SamePlacement i (f i)) (hgpu : mover.gpuDevice = some gpu)
    (hafter : isOn n g after)
    (hoff : isOn n g mover = false) (hgone : ∀ i ∈ others, k i = false → isOn n g i) :
    requireSchedulingPolicy s' = .ok () ↔
      (∃ gpu node, Admissible s.nodes after gpu node) ∧
      LoadAdmissible (after::(workersOn s n g).filter k) (capacityMb s.nodes n g) ∧
      ((workersOn s mover.nodeName gpu).erase mover ≠ [] → ∀ c ∈ capacityMb s.nodes mover.nodeName gpu,
        memorySum ((workersOn s mover.nodeName gpu).erase mover) ≤ c) := by
  obtain ⟨hadm,hload⟩ := (errors_eq_nil_iff s).1 hclean
  have hkeep : ∀ n' g', (((others.filter k).map f).filter (isOn n' g')) =
      ((others.filter (isOn n' g')).filter k).map f := by
    simp [filter_map,Function.comp_def,(hf _).isOn,Bool.and_comm]
  have htarget : (workersOn s' n g).Perm (after::((workersOn s n g).filter k).map f) := by
    have hon : (workersOn s n g).Perm (others.filter (isOn n g)) := by
      simpa [workersOn,hoff] using hbefore.filter (isOn n g)
    refine (hworkers.filter _).trans ?_
    rw [filter_cons_of_pos hafter,hkeep]
    exact ((hon.symm.filter _).map _).cons _
  -- elsewhere only the mover is gone
  have hother : ∀ n' g', ¬ (n = n' ∧ g = g') → (workersOn s' n' g').Perm (((workersOn s n' g').erase mover).map f) := by
    intro n' g' hne
    have haway : ¬ isOn n' g' after := fun hon => hne (isOn_unique hafter hon)
    have hrest : ((workersOn s n' g').erase mover).Perm (others.filter (isOn n' g')) := by
      refine ((hbefore.filter _).erase mover).trans (.of_eq ?_)
      by_cases hon : isOn n' g' mover
      · rw [filter_cons_of_pos hon,erase_cons_head]
      · rw [filter_cons_of_neg hon,erase_of_not_mem fun h => hon (mem_filter.1 h).2]
    have hall : (others.filter (isOn n' g')).filter k = others.filter (isOn n' g') :=
      filter_eq_self.2 fun i hi => by
        obtain ⟨hi,hon⟩ := mem_filter.1 hi
        by_contra hgo
        exact hne (isOn_unique (hgone i hi (by simpa using hgo)) hon)
    refine (hworkers.filter _).trans ?_
    rw [filter_cons_of_neg haway,hkeep,hall]
    exact hrest.symm.map _
  rw [accepted_iff,hnodes]
  constructor
  · rintro ⟨hadm',hload'⟩
    have hsource : ¬ (n = mover.nodeName ∧ g = gpu) := by
      rintro ⟨rfl,rfl⟩
      simp [isOn,hgpu] at hoff
    have hperm := hother _ _ hsource
    refine ⟨hadm' after (hworkers.mem_iff.2 mem_cons_self),?_,fun hne => ?_⟩
    · have hne : workersOn s' n g ≠ [] := ne_nil_of_mem (htarget.mem_iff.2 mem_cons_self)
      exact (loadAdmissible_congr (by simp [(hf _).shareOf])).1 ((hload' n g hne).perm htarget)
    · have hne' : workersOn s' mover.nodeName gpu ≠ [] := fun hnil =>
        hne (map_eq_nil_iff.1 (nil_perm.1 (hnil ▸ hperm)))
      exact ((loadAdmissible_congr (by simp [(hf _).shareOf])).1 ((hload' _ _ hne').perm hperm)).memory
  · rintro ⟨hmoved,hfits,hmemory⟩
    refine ⟨fun i hi => ?_,fun n' g' hne => ?_⟩
    · rcases mem_cons.1 (hworkers.mem_iff.1 hi) with rfl | hi
      · exact hmoved
      · obtain ⟨j,hj,rfl⟩ := mem_map.1 hi
        obtain ⟨gpu,node,ha⟩ := hadm j (hbefore.mem_iff.2 (mem_cons_of_mem _ (mem_of_mem_filter hj)))
        exact ⟨gpu,node,(hf j).admissible ha⟩
    · by_cases hn : n = n' ∧ g = g'
      · obtain ⟨rfl,rfl⟩ := hn
        exact ((loadAdmissible_congr (by simp [(hf _).shareOf])).2 hfits).perm htarget.symm
      · have hperm := hother n' g' hn
        have hrest : (workersOn s n' g').erase mover ≠ [] := fun hnil => hne (by simpa [hnil] using hperm)
        have hload' := hload n' g' (by rintro hnil; simp [hnil] at hrest)
        have hpos : ∀ i ∈ workersOn s n' g', 0 < i.gpuFraction := by
          intro i hi
          obtain ⟨_,_,ha⟩ := hadm i (mem_of_mem_filter hi)
          exact ha.fraction_pos
        suffices h : ∀ c ∈ capacityMb s.nodes n' g', memorySum ((workersOn s n' g').erase mover) ≤ c from
          ((loadAdmissible_congr (by simp [(hf _).shareOf])).2
            ((loadAdmissible_sublist hload' hpos erase_sublist).2 h)).perm hperm.symm
        by_cases hsrc : isOn n' g' mover
        · obtain ⟨rfl,hg⟩ := isOn_iff.1 hsrc
          obtain rfl : gpu = g' := Option.some.inj (hgpu.symm.trans hg)
          exact hmemory hrest
        · have hnot : mover ∉ workersOn s n' g' := fun h => hsrc (mem_filter.1 h).2
          rw [erase_of_not_mem hnot]
          exact hload'.memory

end Accepted

def moved (action : RolloutActionRecord) (victims : List String) (i : InstanceSpec) : InstanceSpec :=
  if isWorkerNamed action.workerName i then retriedInstance action (dropDependencies victims i)
  else dropDependencies victims i

@[simp] lemma moved_role (action : RolloutActionRecord) (victims : List String) (i : InstanceSpec) :
    (moved action victims i).role = i.role := by
  unfold moved
  split <;> rfl

/-- The worker `mover` is sent to another GPU, on which some workers give way. -/
structure Move (s : DesiredState) (mover : InstanceSpec) (n g : String) (victims : List String) : Prop where
  names : (s.instances.map (·.name)).Nodup
  clean : (evaluateSchedulingPolicy s).errors = []
  worker : mover ∈ workers s
  elsewhere : isOn n g mover = false
  occupied : workersOn s n g ≠ []
  victims : ∀ v ∈ victims, ∃ i ∈ workersOn s n g, i.name = v

section Move

variable {mover : InstanceSpec} {action : RolloutActionRecord} {victims : List String}

variable (h : Move s mover action.targetNodeName action.targetGpuDevice victims)
variable (hname : action.workerName = mover.name)

include h

lemma Move.name_ne (hi : i ∈ workersOn s action.targetNodeName action.targetGpuDevice) : i.name ≠ mover.name := by
  intro hm
  obtain ⟨hi,hon⟩ := mem_filter.1 hi
  obtain rfl := worker_unique h.names hi h.worker hm
  rw [h.elsewhere] at hon
  cases hon

lemma Move.not_victim : mover.name ∉ victims := by
  intro hv
  obtain ⟨i,hi,hname⟩ := h.victims _ hv
  exact h.name_ne hi hname

lemma admissible_retried :
    ∃ gpu node, Admissible s.nodes (retriedInstance action (dropDependencies victims mover)) gpu node := by
  have hadm := ((errors_eq_nil_iff s).1 h.clean).1
  obtain ⟨_,_,ha⟩ := hadm mover h.worker
  obtain ⟨j,hj⟩ := exists_mem_of_ne_nil _ h.occupied
  obtain ⟨hj,hon⟩ := mem_filter.1 hj
  obtain ⟨gpu,node,hb⟩ := hadm j hj
  simp only [isOn,hb.pinned,Bool.and_eq_true,decide_eq_true_eq,Option.some.injEq] at hon
  obtain ⟨hnode,rfl⟩ := hon
  refine ⟨_,node,rfl,hb.gpu_ne,ha.priority,one_pos,?_,ha.memory,fun _ => ?_,fun hs => ?_,?_,hb.supported,hb.present⟩
  · simp [retriedInstance,kFractionEpsilon]
  · simp [retriedInstance,kFractionEpsilon]
  · cases hs
  · show findNode s.nodes action.targetNodeName = some node
    rw [← hnode]
    exact hb.found

include hname

lemma materialize_of_move :
    ∃ s', materializeRetryPlacementAction s action victims = .ok s' ∧ s'.nodes = s.nodes ∧
      workers s' = ((workers s).filter (·.name ∉ victims)).map (moved action victims) := by
  have hcount : ((s.instances.filter (·.name ∉ victims)).map (dropDependencies victims)).countP
      (isWorkerNamed action.workerName) ≤ 1 := by
    refine countP_key_le_one (g := fun i => i.name) ?_ action.workerName ?_
    · rw [map_map]
      exact h.names.sublist (filter_sublist.map _)
    · intro i hi
      simpa [isWorkerNamed] using And.right (by simpa [isWorkerNamed] using hi)
  obtain ⟨hinst,hrole⟩ := mem_filter.1 h.worker
  unfold materializeRetryPlacementAction
  rw [if_neg]
  · refine ⟨_,rfl,removeWorkers_nodes _ _,?_⟩
    have hmoved : (fun j => if isWorkerNamed action.workerName j then retriedInstance action j else j) ∘
        dropDependencies victims = moved action victims := rfl
    rw [workers,removeWorkers_instances,updateFirst_eq_updateWhere hcount,updateWhere,map_map,hmoved,
      filter_map,filter_filter,workers,filter_filter]
    simp [moved_role,Bool.and_comm]
  · rw [removeWorkers_instances,Option.isNone_iff_eq_none,List.find?_eq_none]
    intro hnone
    refine hnone (dropDependencies victims mover) (mem_map_of_mem ?_) ?_
    · exact mem_filter.2 ⟨hinst,by simpa using h.not_victim⟩
    · simpa [isWorkerNamed,dropDependencies,hname] using hrole

/-- A retried placement is accepted exactly when it empties the target and the memory caps, added as
`int`s, fit on the target and on the GPU that the worker leaves. -/
lemma move_accepted_iff :
    (∃ s', materializeRetryPlacementAction s action victims = .ok s' ∧
        requireSchedulingPolicy s' = .ok ()) ↔
      (∀ i ∈ workersOn s action.targetNodeName action.targetGpuDevice, i.name ∈ victims) ∧
      (∀ c ∈ capacityMb s.nodes action.targetNodeName action.targetGpuDevice,
        mover.memoryCapMb.getD 0 ≤ c) ∧
      (left s mover ≠ [] → ∀ c ∈ mover.gpuDevice.bind (capacityMb s.nodes mover.nodeName),
        memorySum (left s mover) ≤ c) := by
  obtain ⟨s',hok,hnodes,hs'⟩ := materialize_of_move h hname
  obtain ⟨gpu,node,hmover⟩ := ((errors_eq_nil_iff s).1 h.clean).1 mover h.worker
  obtain ⟨others,hperm,hothers⟩ := exists_others h.names h.worker
  have hworkers : (workers s').Perm (retriedInstance action (dropDependencies victims mover)::
      (others.filter (·.name ∉ victims)).map (dropDependencies victims)) := by
    rw [hs']
    refine ((hperm.filter _).map _).trans (.of_eq ?_)
    rw [filter_cons_of_pos (by simpa using h.not_victim),map_cons,moved,
      if_pos (by simp [isWorkerNamed,role_of_mem_workers h.worker,hname])]
    exact congrArg _ (map_congr_left fun i hi =>
      if_neg (by simp [isWorkerNamed,hname ▸ hothers i (mem_of_mem_filter hi)]))
  have hgone : ∀ i ∈ others, decide (i.name ∉ victims) = false →
      isOn action.targetNodeName action.targetGpuDevice i := by
    intro i hi hv
    obtain ⟨j,hj,hjname⟩ := h.victims i.name (by simpa using hv)
    obtain ⟨hj,hon⟩ := mem_filter.1 hj
    obtain rfl := worker_unique h.names hj (hperm.mem_iff.2 (mem_cons_of_mem _ hi)) hjname
    exact hon
  have haccepted : (∃ s', materializeRetryPlacementAction s action victims = .ok s' ∧
      requireSchedulingPolicy s' = .ok ()) ↔ requireSchedulingPolicy s' = .ok () := by simp [hok]
  rw [haccepted,accepted_moved_iff h.clean hperm hworkers hnodes (fun _ => by constructor <;> rfl) hmover.pinned
    (isOn_iff.2 ⟨rfl,rfl⟩) h.elsewhere hgone,← left_eq h.names h.worker hmover.pinned,
    and_iff_right (admissible_retried h),
    loadAdmissible_exclusive rfl (by simp [retriedInstance,kFractionEpsilon]),hmover.pinned,filter_eq_nil_iff,and_assoc]
  simp [retriedInstance,dropDependencies]

end Move

def rolloutActionRecord (planeName : String) (generation : ℤ) (id : ℕ) (a : SchedulerRolloutAction) :
    RolloutActionRecord where
  id
  planeName
  desiredGeneration := generation
  step := a.step.toInt
  workerName := a.workerName
  action := a.action
  targetNodeName := a.targetNodeName
  targetGpuDevice := a.targetGpuDevice
  victimWorkerNames := a.victimWorkerNames
  reason := a.reason

lemma move_of_pair (hnames : (s.instances.map (·.name)).Nodup) (hclean : (evaluateSchedulingPolicy s).errors = [])
    (he : evict ∈ evictions s) (hr : retry ∈ (evaluateSchedulingPolicy s).rolloutActions)
    (hpair : evict.workerName = retry.workerName) (hm : mover ∈ workers s) (hname : mover.name = retry.workerName) :
    Move s mover retry.targetNodeName retry.targetGpuDevice evict.victimWorkerNames := by
  obtain ⟨r,c,hp,hworker,htarget,hvictims⟩ := proposal_of_eviction he
  obtain ⟨r',c',hp',k,hretry⟩ := proposal_of_action hr
  have hrname : retry.workerName = r'.workerName := by rcases hretry with rfl | rfl <;> rfl
  have hrtarget : target retry = target evict := by
    have hsame : r = r' := inj_on_of_nodup_map (reportRecords_names_nodup hnames) hp.record
      hp'.record (hworker.symm.trans (hpair.trans hrname))
    subst hsame
    have hcand := Option.some.inj (hp.best.symm.trans hp'.best)
    have hn : c.nodeName = c'.nodeName := congrArg PlacementCandidate.nodeName hcand
    have hg : c.gpuDevice = c'.gpuDevice := congrArg PlacementCandidate.gpuDevice hcand
    rw [htarget,hn,hg]
    rcases hretry with rfl | rfl <;> rfl
  obtain ⟨hn,hg⟩ := Prod.mk.inj (hrtarget.trans htarget)
  obtain ⟨i,hi,node,hadm,hiname,hnode,-⟩ := mem_reportRecords hp.record
  obtain rfl := worker_unique hnames hm hi (hname.trans (hpair.symm.trans (hworker.trans hiname.symm)))
  have hvictim : ∀ v ∈ evict.victimWorkerNames, ∃ j ∈ workersOn s retry.targetNodeName
      retry.targetGpuDevice, j.name = v := by
    intro v hv
    rw [hvictims] at hv
    obtain ⟨j,hj,hjname,hon,-,-⟩ := victim_on_target hv
    exact ⟨j,mem_filter.2 ⟨hj,by rw [hn,hg]; exact hon⟩,hjname⟩
  refine ⟨hnames,hclean,hm,?_,?_,hvictim⟩
  · rw [hn,hg,Bool.eq_false_iff]
    intro hon
    obtain ⟨hon,hgpu⟩ := isOn_iff.1 hon
    have hcurrent : isCurrentGpu r c = true := by
      simp [isCurrentGpu,← hon,hnode,Option.some.inj (hadm.pinned.symm.trans hgpu)]
    rw [hp.elsewhere] at hcurrent
    cases hcurrent
  · obtain ⟨v,hv⟩ := exists_mem_of_ne_nil _ hp.victims
    obtain ⟨j,hj,-⟩ := hvictim v (hvictims ▸ hv)
    exact ne_nil_of_mem hj

/-- The retry of a pair is accepted exactly when its eviction leaves nobody on the target GPU, and the
memory caps, added as `int`s, fit on the target and on the GPU that the worker leaves. -/
theorem retry_accepted_iff (s : DesiredState) (hnames : (s.instances.map (·.name)).Nodup)
    (hclean : (evaluateSchedulingPolicy s).errors = []) (evict retry : SchedulerRolloutAction)
    (he : evict ∈ (evaluateSchedulingPolicy s).rolloutActions) (hevict : evict.action = "evict-best-effort")
    (hr : retry ∈ (evaluateSchedulingPolicy s).rolloutActions) (_hretry : retry.action = "retry-placement")
    (hpair : evict.workerName = retry.workerName) (mover : InstanceSpec) (hm : mover ∈ workers s)
    (hname : mover.name = retry.workerName) (planeName : String) (generation : ℤ) (id : ℕ) :
    (∃ s', materializeRetryPlacementAction s (rolloutActionRecord planeName generation id retry)
        evict.victimWorkerNames = .ok s' ∧ requireSchedulingPolicy s' = .ok ()) ↔
      (∀ i ∈ workersOn s retry.targetNodeName retry.targetGpuDevice, i.name ∈ evict.victimWorkerNames) ∧
      (∀ c ∈ capacityMb s.nodes retry.targetNodeName retry.targetGpuDevice,
        mover.memoryCapMb.getD 0 ≤ c) ∧
      (left s mover ≠ [] → ∀ c ∈ mover.gpuDevice.bind (capacityMb s.nodes mover.nodeName),
        memorySum (left s mover) ≤ c) := by
  have hmove := move_of_pair hnames hclean (mem_filter.2 ⟨he,by simpa using hevict⟩) hr hpair hm hname
  exact @move_accepted_iff s mover (rolloutActionRecord planeName generation id retry)
    evict.victimWorkerNames hmove hname.symm

def sharedTargetState : DesiredState where
  nodes := [{name := "n",gpuDevices := ["a","b"]}]
  instances := [
    { name := "mover",role := .worker,nodeName := "n",gpuDevice := some "a"
      shareMode := .shared,gpuFraction := 1/2 },
    { name := "shared",role := .worker,nodeName := "n",gpuDevice := some "b"
      shareMode := .shared,gpuFraction := 2/5 },
    { name := "victim",role := .worker,nodeName := "n",gpuDevice := some "b"
      shareMode := .bestEffort,gpuFraction := 1/2,preemptible := true }]

def sharedTargetEviction : SchedulerRolloutAction where
  step := 1
  workerName := "mover"
  action := "evict-best-effort"
  targetNodeName := "n"
  targetGpuDevice := "b"
  victimWorkerNames := ["victim"]
  reason := "free target capacity before retrying placement for worker 'mover'"

def sharedTargetRetry : SchedulerRolloutAction where
  step := 2
  workerName := "mover"
  action := "retry-placement"
  targetNodeName := "n"
  targetGpuDevice := "b"
  reason := "apply deferred scheduler decision after eviction completes"

/-- The pair was proposed for the current half of a GPU, but the retry takes a whole one. -/
theorem sharedTarget_retry_rejected :
    (sharedTargetState.nodes.map (·.name)).Nodup ∧
    (sharedTargetState.instances.map (·.name)).Nodup ∧
    (evaluateSchedulingPolicy sharedTargetState).errors = [] ∧
    (evaluateSchedulingPolicy sharedTargetState).rolloutActions =
      [sharedTargetEviction,sharedTargetRetry] ∧
    ¬ ∃ s', materializeRetryPlacementAction sharedTargetState
        (rolloutActionRecord "p" 1 2 sharedTargetRetry) sharedTargetEviction.victimWorkerNames = .ok s' ∧
      requireSchedulingPolicy s' = .ok () := by
  decide +kernel

def contendedEviction : SchedulerRolloutAction where
  step := 1
  workerName := "worker-a"
  action := "evict-best-effort"
  targetNodeName := "n"
  targetGpuDevice := "b"
  victimWorkerNames := ["worker-b"]
  reason := "free target capacity before retrying placement for worker 'worker-a'"

def contendedRetry : SchedulerRolloutAction where
  step := 2
  workerName := "worker-a"
  action := "retry-placement"
  targetNodeName := "n"
  targetGpuDevice := "b"
  reason := "apply deferred scheduler decision after eviction completes"

def contendedMover : InstanceSpec where
  name := "worker-a"
  role := .worker
  nodeName := "n"
  gpuDevice := some "a"
  shareMode := .bestEffort
  gpuFraction := 3/5
  preemptible := true

/-- Its target has no other worker than the victim, so the retry is accepted. -/
theorem contended_retry_accepted :
    ∃ s', materializeRetryPlacementAction contendedState (rolloutActionRecord "p" 1 2 contendedRetry)
        contendedEviction.victimWorkerNames = .ok s' ∧ requireSchedulingPolicy s' = .ok () := by
  refine (retry_accepted_iff contendedState (by decide) (by decide +kernel) contendedEviction contendedRetry
    (by decide +kernel) rfl (by decide +kernel) rfl rfl contendedMover (by decide +kernel) rfl "p" 1 2).2
    ⟨by decide +kernel,?_,?_⟩
  · have hnone : capacityMb contendedState.nodes "n" "b" = none := rfl
    intro c hc
    rw [show contendedRetry.targetNodeName = "n" from rfl,show contendedRetry.targetGpuDevice = "b" from rfl,
      hnone] at hc
    cases hc
  · have hnone : left contendedState contendedMover = [] := by decide +kernel
    exact fun hne => absurd hnone hne

end Naim.RolloutPlan
