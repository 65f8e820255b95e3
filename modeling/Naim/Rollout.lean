import Naim.EvictionMessages

/-!
# The eviction rollout of a generation

The controller's reconcile pass, the claims and reports of the hosts and the
operator's retries, interleaved on one store. The pass hands the generation over
to `ApplyReadyRolloutAction` once a retry is ready.
-/

namespace Naim.Rollout

open Assignments SchedulerExecution Hostd EvictionMessages Rows List

structure System where
  desiredState : DesiredState
  desiredGeneration : ℤ
  /-- The rows of `rollout_actions` in the order of `LoadRolloutActions`. -/
  actions : List RolloutActionRecord
  table : Table
  /-- The assignments that a hostd process has claimed and not yet reported on. -/
  inFlight : List HostAssignment := []
  /-- The retry action that ended the generation. -/
  materializing : Option ℕ := none
  deriving DecidableEq

def updateRolloutActionStatus (actions : List RolloutActionRecord) (id : ℕ) (status : RolloutActionStatus)
    (message : String) : List RolloutActionRecord :=
  updateWhere (·.id = id) (fun a => {a with status, statusMessage := message}) actions

def System.setStatus (sys : System) (id : ℕ) (status : RolloutActionStatus) (message : String) : System :=
  {sys with actions := updateRolloutActionStatus sys.actions id status message}

section Step

variable (serialize : DesiredState → String)

variable (now : ℤ) (sys : System)

/-- The body of the reconcile loop for a pending eviction; an exception ends the pass. -/
def enqueueEviction (action : RolloutActionRecord) : Option System :=
  match buildEvictionAssignmentsForAction serialize sys.desiredState sys.desiredGeneration action
      (loadHostAssignments sys.table none none none) with
  | .error _ => none
  | .ok assignments => some ({sys with
      table := enqueueHostAssignments now sys.table assignments
        ("superseded by rollout eviction action id=" ++ toString action.id)}.setStatus action.id
      .acknowledged "controller-managed eviction assignments enqueued")

def readyRetry (current : RolloutActionRecord) : System :=
  match findPriorRolloutActionForWorker sys.actions current "evict-best-effort" with
  | some prior =>
    if current.status = .pending ∧ prior.status = .readyToRetry then
      sys.setStatus current.id .readyToRetry "preceding eviction completed"
    else sys
  | none => sys

def findRolloutActionById (actions : List RolloutActionRecord) (id : ℕ) : Option RolloutActionRecord :=
  actions.find? (·.id = id)

def reconcileLoop (now : ℤ) : List RolloutActionRecord → System → System
  | [], sys => sys
  | action::rest, sys =>
    if action.action = "evict-best-effort" then
      match action.status with
      | .pending =>
        match enqueueEviction serialize now sys action with
        | none => sys
        | some sys => reconcileLoop now rest sys
      | .acknowledged =>
        if areRolloutEvictionAssignmentsApplied (loadHostAssignments sys.table none none none) action.id then
          reconcileLoop now rest (sys.setStatus action.id .readyToRetry "eviction assignments applied")
        else reconcileLoop now rest sys
      | .readyToRetry => reconcileLoop now rest sys
    else if action.action ≠ "retry-placement" then reconcileLoop now rest sys
    else
      match findRolloutActionById sys.actions action.id with
      | none => reconcileLoop now rest sys
      | some current =>
        let sys := readyRetry sys current
        if (findRolloutActionById sys.actions action.id).any (·.status = .readyToRetry) then
          {sys with materializing := some action.id}
        else reconcileLoop now rest sys

def currentActions : List RolloutActionRecord :=
  sys.actions.filter (·.desiredGeneration = sys.desiredGeneration)

/-- `ReconcileRolloutActions` until it calls `ApplyReadyRolloutAction`, which stores the next generation; the passes
over that one are not part of the model, and a later pass here does nothing. -/
def reconcileRolloutActions : System :=
  if sys.materializing.isSome then sys else reconcileLoop serialize now (currentActions sys) sys

/-- `RetryHostAssignment`; it throws, and changes nothing, unless the assignment has failed in
the current generation. -/
def retryHostAssignment (id : ℕ) : System :=
  match loadHostAssignment sys.table id with
  | none => sys
  | some a =>
    if a.status ≠ .failed ∨ a.desiredGeneration ≠ sys.desiredGeneration then sys
    else
      let message := "requeued by operator for desired generation " ++ toString a.desiredGeneration
      {sys with table := retryFailedHostAssignment now sys.table id message}

inductive Event
  | reconcile
  | claim (nodeName : String)
  /-- hostd reports on an assignment that it holds: an error text, or success. -/
  | report (assignment : HostAssignment) (error : Option String)
  | retry (id : ℕ)

def step : ℤ × Event → System
  | (now,.reconcile) => reconcileRolloutActions serialize now sys
  | (now,.claim nodeName) =>
    let claimed := claimNextHostAssignment now sys.table nodeName
    {sys with table := claimed.1, inFlight := sys.inFlight ++ claimed.2.toList}
  | (now,.report a error) =>
    if a ∉ sys.inFlight then sys
    else
      let report := match error with
        | some error => failureReport a error
        | none => appliedReport a
      {sys with
        table := transitionClaimedHostAssignment now sys.table a.id report.1 report.2
        inFlight := sys.inFlight.erase a}
  | (now,.retry id) => retryHostAssignment now sys id

end Step

variable (state : DesiredState) (sys : System) (action : RolloutActionRecord)

def HoldsVictim (nodeName : String) : Prop :=
  ∃ v ∈ action.victimWorkerNames, ∃ i, findWorker state v = some i ∧ i.nodeName = nodeName

/-- The row still stands for the eviction on its node: it carries the action's tag and was
not superseded. -/
def Tracks (nodeName : String) (r : Row) : Prop :=
  r.assignmentType = "evict-workers" ∧ r.nodeName = nodeName ∧ r.status ≠ .superseded ∧
    assignmentReferencesRolloutAction r.toHostAssignment action.id

/-- An eviction of the current generation that the controller has acknowledged. -/
def Outstanding : Prop :=
  action ∈ sys.actions ∧ action.desiredGeneration = sys.desiredGeneration ∧
    action.action = "evict-best-effort" ∧ action.status = .acknowledged

def Tracked : Prop :=
  ∀ action, Outstanding sys action → ∀ nodeName, HoldsVictim sys.desiredState action nodeName →
    ∃ r ∈ sys.table.rows, Tracks action nodeName r

def PendingEviction : Prop := action.action = "evict-best-effort" ∧ action.status = .pending

/-- The two are not both pending evictions with victims on one node. -/
def Apart (p q : RolloutActionRecord) : Prop :=
  PendingEviction p → PendingEviction q → ∀ nodeName, HoldsVictim state p nodeName →
    ¬ HoldsVictim state q nodeName

/-- The rows whose status message the event replaces, those that hostd reports on apart. -/
def Rewrites : ℤ × Event → Row → Prop
  | (_,.reconcile), r => r.planeName = sys.desiredState.planeName ∧ r.isLive ∧
      ∃ p ∈ currentActions sys, PendingEviction p ∧ HoldsVictim sys.desiredState p r.nodeName
  | (now,.claim nodeName), r =>
      (r.nodeName = nodeName ∧ r.status = .claimed ∧ r.updatedAt ≤ now - 60) ∨
        ∃ c, (claimNextHostAssignment now sys.table nodeName).2 = some c ∧ c.id = r.id
  | (_,.report _ _), _ => False
  | (_,.retry id), r => r.id = id ∧ r.status = .failed

/-- The event rewrites no row that stands for an outstanding eviction, and a reconcile pass
starts no two evictions on one node. -/
def Gentle (event : ℤ × Event) : Prop :=
  (∀ action, Outstanding sys action → ∀ nodeName, HoldsVictim sys.desiredState action nodeName →
    ∀ r ∈ sys.table.rows, Tracks action nodeName r → ¬ Rewrites sys event r) ∧
  (event.2 = .reconcile → (currentActions sys).Pairwise (Apart sys.desiredState))

def Blank (t : Table) : Prop := ∀ r ∈ t.rows, r.status = .claimed → r.statusMessage = ""

/-- Action ids are a key, and claimed rows are blank. -/
structure Consistent (sys : System) : Prop where
  ids : (sys.actions.map (·.id)).Nodup
  blank : Blank sys.table

variable {sys sys' : System} {status : RolloutActionStatus} {a action p : RolloutActionRecord}
  {message nodeName : String} {id : ℕ} {l : List RolloutActionRecord} {now : ℤ}

lemma Outstanding.of_setStatus (h : Outstanding (sys.setStatus id status message) a)
    (hs : status ≠ .acknowledged) : Outstanding sys a := by
  obtain ⟨hmem,hgen,hact,hack⟩ := h
  obtain ⟨b,hb,rfl⟩ := mem_updateWhere.1 hmem
  split at hack
  · exact absurd hack hs
  · simp only [*,if_false,Bool.false_eq_true] at hgen hact ⊢
    exact ⟨hb,hgen,hact,hack⟩

structure LoopReady (sys : System) (l : List RolloutActionRecord) : Prop where
  same : ∀ p ∈ l, ∀ a ∈ sys.actions, a.id = p.id → a.victimWorkerNames = p.victimWorkerNames
  apart : l.Pairwise (Apart sys.desiredState)
  free : ∀ p ∈ l, PendingEviction p → ∀ a, Outstanding sys a → ∀ nodeName,
    HoldsVictim sys.desiredState a nodeName → HoldsVictim sys.desiredState p nodeName →
    ∀ r ∈ sys.table.rows, Tracks a nodeName r → ¬ (r.planeName = sys.desiredState.planeName ∧ r.isLive)

lemma LoopReady.tail (h : LoopReady sys (p::l)) :
    LoopReady sys l where
  same q hq := h.same q (by simp [hq])
  apart := (pairwise_cons.1 h.apart).2
  free q hq := h.free q (by simp [hq])

lemma mem_setStatus (h : a ∈ (sys.setStatus id status message).actions) :
    ∃ b ∈ sys.actions, b.id = a.id ∧ b.victimWorkerNames = a.victimWorkerNames ∧ (a = b ∨ b.id = id) := by
  obtain ⟨b,hb,rfl⟩ := mem_updateWhere.1 h
  refine ⟨b,hb,?_⟩
  split
  · exact ⟨rfl,rfl,.inr (by simpa using ‹decide (b.id = id) = true›)⟩
  · exact ⟨rfl,rfl,.inl rfl⟩

lemma LoopReady.setStatus (h : LoopReady sys l) (hs : status ≠ .acknowledged) :
    LoopReady (sys.setStatus id status message) l where
  same p hp a ha hid := by
    obtain ⟨b,hb,hbid,hv,-⟩ := mem_setStatus ha
    rw [← hv]
    exact h.same p hp b hb (hbid.trans hid)
  apart := h.apart
  free p hp hpend a ha := h.free p hp hpend a (ha.of_setStatus hs)

lemma Tracked.setStatus (h : Tracked sys) (hs : status ≠ .acknowledged) :
    Tracked (sys.setStatus id status message) := fun a ha => h a (ha.of_setStatus hs)

section Reconcile

variable {serialize : DesiredState → String}

/-- What a started eviction leaves behind: rows that stood for outstanding evictions stay, and
each of its own nodes has a tagged assignment. -/
lemma enqueueEviction_spec (h : enqueueEviction serialize now sys action = some sys') :
    sys'.desiredState = sys.desiredState ∧ sys'.desiredGeneration = sys.desiredGeneration ∧
      sys'.actions = (sys.setStatus action.id .acknowledged
        "controller-managed eviction assignments enqueued").actions ∧
      (∀ r ∈ sys.table.rows, (HoldsVictim sys.desiredState action r.nodeName →
        ¬ (r.planeName = sys.desiredState.planeName ∧ r.isLive)) → r ∈ sys'.table.rows) ∧
      (∀ r ∈ sys'.table.rows, r ∈ sys.table.rows ∨ r.status = .superseded ∨
        (HoldsVictim sys.desiredState action r.nodeName ∧ r.status = .pending)) ∧
      ∀ nodeName, HoldsVictim sys.desiredState action nodeName →
        ∃ r ∈ sys'.table.rows, Tracks action nodeName r := by
  unfold enqueueEviction at h
  split at h
  · simp at h
  next assignments hbuild =>
    obtain rfl := Option.some.inj h
    have hholds : ∀ a ∈ assignments, HoldsVictim sys.desiredState action a.nodeName := by
      intro a ha
      obtain ⟨-,-,-,-,-,-,hne,-⟩ := mem_buildEviction hbuild ha
      obtain ⟨v,hv⟩ := exists_mem_of_ne_nil _ hne
      obtain ⟨hv,hnode⟩ := mem_filter.1 hv
      obtain ⟨i,hi,hin⟩ := Option.map_eq_some_iff.1 (of_decide_eq_true hnode)
      exact ⟨v,hv,i,hi,hin⟩
    refine ⟨rfl,rfl,rfl,fun r hr hfree => ?_,fun r hr => ?_,fun nodeName hnode => ?_⟩
    · refine mem_enqueue (fun a ha hd => ?_) hr
      obtain ⟨-,hplane,-⟩ := mem_buildEviction hbuild ha
      exact hfree (hd.2.1 ▸ hholds a ha) ⟨hd.1.trans hplane,hd.2.2⟩
    · rcases mem_enqueue_cases hr with hr | hr | ⟨a,ha,hnode,hstatus,-⟩
      · exact .inl hr
      · exact .inr (.inl hr)
      · obtain ⟨-,-,hpending,-⟩ := mem_buildEviction hbuild ha
        exact .inr (.inr ⟨hnode ▸ hholds a ha,hstatus.trans hpending⟩)
    · obtain ⟨v,hv,i,hi,rfl⟩ := hnode
      obtain ⟨a,ha,hnode⟩ := exists_buildEviction hbuild hv hi
      obtain ⟨htype,-,hpending,-,-,-,-,hmessage⟩ := mem_buildEviction hbuild ha
      obtain ⟨r,hr,hrn,hrt,hrs,hrm⟩ := exists_enqueue (buildEviction_nodup hbuild) ha
      refine ⟨r,hr,hrt.trans htype,hrn.trans hnode,?_,?_⟩
      · simp [hrs,hpending]
      · rw [assignmentReferencesRolloutAction,hrm,hmessage]
        exact (occurs_evictionMessage_iff _ _ _ _).2 (.inl prefix_rfl)

lemma Outstanding.of_enqueueEviction (h : enqueueEviction serialize now sys action = some sys')
    (ha : Outstanding sys' a)
    (hsame : ∀ b ∈ sys.actions, b.id = action.id → b.victimWorkerNames = action.victimWorkerNames) :
    Outstanding sys a ∨ (a.id = action.id ∧ a.victimWorkerNames = action.victimWorkerNames) := by
  obtain ⟨-,hgen,hactions,-⟩ := enqueueEviction_spec h
  obtain ⟨hmem,hg,hact,hack⟩ := ha
  rw [hactions] at hmem
  obtain ⟨b,hb,hbid,hv,rfl | hid⟩ := mem_setStatus hmem
  · exact .inl ⟨hb,hg.trans hgen,hact,hack⟩
  · exact .inr ⟨hbid.symm.trans hid,hv.symm.trans (hsame b hb hid)⟩

lemma holdsVictim_congr {state : DesiredState} {b : RolloutActionRecord}
    (h : a.victimWorkerNames = b.victimWorkerNames) :
    HoldsVictim state a nodeName ↔ HoldsVictim state b nodeName := by rw [HoldsVictim,HoldsVictim,h]

lemma Tracked.enqueueEviction {rest : List RolloutActionRecord} (h : Tracked sys)
    (hready : LoopReady sys (action::rest)) (hpend : PendingEviction action)
    (hrun : enqueueEviction serialize now sys action = some sys') : Tracked sys' := by
  obtain ⟨hstate,-,-,hkeep,-,hnew⟩ := enqueueEviction_spec hrun
  intro a ha nodeName hnode
  rw [hstate] at hnode
  rcases ha.of_enqueueEviction hrun (hready.same action (by simp)) with hold | ⟨hid,hv⟩
  · obtain ⟨r,hr,htracks⟩ := h a hold nodeName hnode
    refine ⟨r,hkeep r hr fun hholds => ?_,htracks⟩
    rw [htracks.2.1] at hholds
    exact hready.free action (by simp) hpend a hold nodeName hnode hholds r hr htracks
  · obtain ⟨r,hr,ht⟩ := hnew nodeName ((holdsVictim_congr hv).1 hnode)
    exact ⟨r,hr,ht.1,ht.2.1,ht.2.2.1,hid ▸ ht.2.2.2⟩

lemma LoopReady.enqueueEviction {rest : List RolloutActionRecord} (hready : LoopReady sys (action::rest))
    (hpend : PendingEviction action) (hrun : enqueueEviction serialize now sys action = some sys') :
    LoopReady sys' rest := by
  obtain ⟨hstate,-,hactions,-,hcases,-⟩ := enqueueEviction_spec hrun
  obtain ⟨hapart,hrest⟩ := pairwise_cons.1 hready.apart
  refine ⟨fun p hp a ha hid => ?_,by rwa [hstate],fun p hp hpp a ha nodeName hnode hnodep r hr htracks => ?_⟩
  · rw [hactions] at ha
    obtain ⟨b,hb,hbid,hv,-⟩ := mem_setStatus ha
    rw [← hv]
    exact hready.same p (by simp [hp]) b hb (hbid.trans hid)
  · rw [hstate] at hnode hnodep ⊢
    -- the nodes of the started eviction are none of this one's
    have hdisjoint : ¬ HoldsVictim sys.desiredState action nodeName := fun hact =>
      hapart p hp hpend hpp nodeName hact hnodep
    rcases ha.of_enqueueEviction hrun (hready.same action (by simp)) with hold | ⟨-,hv⟩
    · rcases hcases r hr with hr | hr | ⟨hholds,-⟩
      · exact hready.free p (by simp [hp]) hpp a hold nodeName hnode hnodep r hr htracks
      · exact absurd hr htracks.2.2.1
      · exact absurd (htracks.2.1 ▸ hholds) hdisjoint
    · exact absurd ((holdsVictim_congr hv).1 hnode) hdisjoint

lemma readyRetry_eq (sys : System) (current : RolloutActionRecord) :
    readyRetry sys current = sys ∨ readyRetry sys current =
      sys.setStatus current.id .readyToRetry "preceding eviction completed" := by
  unfold readyRetry
  split
  · split
    · exact .inr rfl
    · exact .inl rfl
  · exact .inl rfl

lemma reconcileLoop_tracked (l : List RolloutActionRecord) :
    ∀ {sys : System}, Tracked sys → LoopReady sys l → Tracked (reconcileLoop serialize now l sys) := by
  induction l with
  | nil => exact fun h _ => h
  | cons action rest ih =>
    intro sys h hready
    have hskip := ih h hready.tail
    unfold reconcileLoop
    split
    next hact =>
      cases hstatus : action.status with
      | pending =>
        cases hrun : enqueueEviction serialize now sys action with
        | none => exact h
        | some sys' =>
          have hpend : PendingEviction action := ⟨hact,hstatus⟩
          exact ih (h.enqueueEviction hready hpend hrun) (hready.enqueueEviction hpend hrun)
      | acknowledged =>
        dsimp only
        split
        · exact ih (h.setStatus (by simp)) (hready.tail.setStatus (by simp))
        · exact hskip
      | readyToRetry => exact hskip
    · split
      · exact hskip
      · split
        · exact hskip
        next current _ =>
          have hretry : Tracked (readyRetry sys current) ∧ LoopReady (readyRetry sys current) rest := by
            rcases readyRetry_eq sys current with he | he <;> rw [he]
            · exact ⟨h,hready.tail⟩
            · exact ⟨h.setStatus (by simp),hready.tail.setStatus (by simp)⟩
          dsimp only
          split
          · exact hretry.1
          · exact ih hretry.1 hretry.2

end Reconcile

section Run

variable {serialize : DesiredState → String} {sys : System} {t : Table}

lemma Blank.update (h : Blank t) {p : Row → Bool} {f : Row → Row}
    (hf : ∀ r, (f r).status = .claimed → (f r).statusMessage = "") : Blank (t.update p f) := by
  intro r hr hs
  obtain ⟨a,ha,rfl⟩ := mem_updateWhere.1 hr
  by_cases hp : p a
  · rw [if_pos hp] at hs ⊢
    exact hf a hs
  · rw [if_neg hp] at hs ⊢
    exact h a ha hs

lemma Blank.claimNext (h : Blank t) (now : ℤ) (nodeName : String) :
    Blank (claimNextHostAssignment now t nodeName).1 := by
  have hexpire : Blank (expire now t nodeName) := by
    refine (h.update fun r hs => ?_).update fun r hs => by simp [expireProxyRequest] at hs
    unfold expireLease at hs
    split at hs <;> simp at hs
  unfold claimNextHostAssignment
  dsimp only
  split
  · exact hexpire
  · exact hexpire.update fun _ _ => rfl

lemma Consistent.setStatus (h : Consistent sys) (id : ℕ) (status : RolloutActionStatus) (message : String) :
    Consistent (sys.setStatus id status message) where
  ids := by
    have hids : (sys.setStatus id status message).actions.map (·.id) = sys.actions.map (·.id) :=
      map_updateWhere fun _ => rfl
    rw [hids]
    exact h.ids
  blank := h.blank

lemma Consistent.enqueueEviction (h : Consistent sys)
    (hrun : enqueueEviction serialize now sys action = some sys') : Consistent sys' := by
  obtain ⟨-,-,hactions,-,hcases,-⟩ := enqueueEviction_spec hrun
  refine ⟨hactions ▸ (h.setStatus _ _ _).ids,fun r hr hs => ?_⟩
  rcases hcases r hr with hr | hr | ⟨-,hr⟩
  · exact h.blank r hr hs
  · simp [hs] at hr
  · simp [hs] at hr

lemma Consistent.reconcileLoop (l : List RolloutActionRecord) :
    ∀ {sys : System}, Consistent sys → Consistent (reconcileLoop serialize now l sys) := by
  induction l with
  | nil => exact id
  | cons action rest ih =>
    intro sys h
    unfold Rollout.reconcileLoop
    split
    · cases action.status with
      | pending =>
        cases hrun : Rollout.enqueueEviction serialize now sys action with
        | none => exact h
        | some sys' => exact ih (h.enqueueEviction hrun)
      | acknowledged =>
        dsimp only
        split
        · exact ih (h.setStatus _ _ _)
        · exact ih h
      | readyToRetry => exact ih h
    · split
      · exact ih h
      · split
        · exact ih h
        next current _ =>
          have hretry : Consistent (readyRetry sys current) := by
            rcases readyRetry_eq sys current with he | he <;> rw [he]
            · exact h
            · exact h.setStatus _ _ _
          dsimp only
          split
          · exact ⟨hretry.ids,hretry.blank⟩
          · exact ih hretry

lemma Consistent.step (h : Consistent sys) (event : ℤ × Event) : Consistent (step serialize sys event) := by
  rcases event with ⟨now,_ | nodeName | ⟨a,error⟩ | id⟩
  · unfold Rollout.step reconcileRolloutActions
    dsimp only
    split
    · exact h
    · exact h.reconcileLoop _
  · exact ⟨h.ids,h.blank.claimNext now nodeName⟩
  · unfold Rollout.step
    dsimp only
    split
    · exact h
    · refine ⟨h.ids,h.blank.update fun r hs => ?_⟩
      cases error with
      | none => simp [appliedReport] at hs
      | some error =>
        simp only [failureReport] at hs
        split at hs <;> simp at hs
  · unfold Rollout.step retryHostAssignment
    dsimp only
    split
    · exact h
    · split
      · exact h
      · exact ⟨h.ids,h.blank.update fun r hs => by simp at hs⟩

lemma Tracks.not_claimed {r : Row} (h : Consistent sys) (hr : r ∈ sys.table.rows) (ht : Tracks action nodeName r) :
    r.status ≠ .claimed := by
  intro hs
  have hblank := h.blank r hr hs
  have hocc : occurs (rolloutActionTag action.id) r.statusMessage = true := ht.2.2.2
  rw [hblank] at hocc
  have hnot := @not_occurs_of_not_mem [] action.id (by simp)
  exact hnot (by simpa [occurs] using hocc)

lemma Tracked.step (h : Tracked sys) (hc : Consistent sys) (hg : Gentle sys event) :
    Tracked (step serialize sys event) := by
  rcases event with ⟨now,_ | nodeName | ⟨a,error⟩ | id⟩
  · unfold Rollout.step reconcileRolloutActions
    dsimp only
    split
    · exact h
    · refine reconcileLoop_tracked _ h ⟨fun p hp a ha hid => ?_,hg.2 rfl,?_⟩
      · have hp : p ∈ sys.actions := (mem_filter.1 hp).1
        rw [inj_on_of_nodup_map hc.ids ha hp hid]
      · intro p hp hpend a ha nodeName hnode hnodep r hr htracks hlive
        refine hg.1 a ha nodeName hnode r hr htracks ⟨hlive.1,hlive.2,p,hp,hpend,?_⟩
        rwa [htracks.2.1]
  · intro action ha node hnode
    obtain ⟨r,hr,ht⟩ := h action ha node hnode
    have hnot := hg.1 action ha node hnode r hr ht
    simp only [Rewrites,not_or,not_exists,not_and] at hnot
    refine ⟨r,mem_claimNext hr (fun hl => hnot.1 hl.1 hl.2.1 hl.2.2) ?_ fun c hc => hnot.2 c hc,ht⟩
    rw [ht.1]
    decide
  · unfold Rollout.step
    dsimp only
    split
    · exact h
    · intro action ha node hnode
      obtain ⟨r,hr,ht⟩ := h action ha node hnode
      refine ⟨r,mem_update_of_not hr ?_,ht⟩
      simp [ht.not_claimed hc hr]
  · unfold Rollout.step retryHostAssignment
    dsimp only
    split
    · exact h
    · split
      · exact h
      · intro action ha node hnode
        obtain ⟨r,hr,ht⟩ := h action ha node hnode
        have hnot := hg.1 action ha node hnode r hr ht
        refine ⟨r,mem_update_of_not hr ?_,ht⟩
        simpa [Rewrites] using hnot

structure Initial (sys : System) : Prop extends Consistent sys where
  pending : ∀ a ∈ sys.actions, a.status = .pending

/-- In every run of gentle steps no acknowledged eviction is lost. -/
theorem tracked_run (serialize : DesiredState → String) {sys : System} (h : Initial sys)
    {events : List (ℤ × Event)} (hg : Runs.Guarded (step serialize) Gentle sys events) (n : ℕ) :
    Tracked (Runs.run (step serialize) sys (events.take n)) := by
  have hstart : Tracked sys := by
    intro a ha
    have := h.pending a ha.1
    simp [ha.2.2.2] at this
  exact (@Runs.run_invariant _ _ (step serialize) Gentle (fun s => Consistent s ∧ Tracked s)
    (fun s e hs he => ⟨hs.1.step e,hs.2.step hs.1 he⟩) _ _ ⟨h.toConsistent,hstart⟩ (hg.take n)).2

end Run

def evictionSystem : System :=
  {desiredState := evictionState, desiredGeneration := 1, actions := [evictionAction], table := {}}

lemma evictionSystem_initial : Initial evictionSystem where
  ids := by decide
  blank := by simp [evictionSystem,Blank]
  pending := by simp [evictionSystem,evictionAction]

def startedHistory : List (ℤ × Event) := [(0,.reconcile),(1,.claim "node-a")]

theorem tracked_run_started :
    Tracked (Runs.run (step fun _ => "") evictionSystem (startedHistory.take 2)) := by
  have hguarded : Runs.Guarded (step fun _ => "") Gentle evictionSystem startedHistory := by
    refine ⟨⟨fun a ha => ?_,fun _ => pairwise_singleton _ _⟩,
      ⟨fun a _ node _ r hr _ => ?_,by simp⟩,trivial⟩
    · have := evictionSystem_initial.pending a ha.1
      simp [ha.2.2.2] at this
    · have hnode : ∀ r ∈ (step (fun _ => "") evictionSystem (0,.reconcile)).table.rows,
          r.nodeName = "node-b" := by decide +kernel
      have hnone : (claimNextHostAssignment 1 (step (fun _ => "") evictionSystem (0,.reconcile)).table
          "node-a").2 = none := by decide +kernel
      simp [Rewrites,hnode r hr,hnone]
  exact tracked_run _ evictionSystem_initial hguarded 2

/-- The host claims the eviction and dies; its lease expires, and the next claim carries
the eviction out under a message without the tag. -/
def expiredHistory : List (ℤ × Event) := [(0,.reconcile),(1,.claim "node-b"),(100,.claim "node-b")]

def reclaimed : HostAssignment :=
  (Runs.run (step fun _ => "") evictionSystem expiredHistory).inFlight.getLast?.getD {}

theorem expired_eviction_lost : ¬ ∀ (sys : System) (events : List (ℤ × Event)), Initial sys →
    Tracked (Runs.run (step fun _ => "") sys events) := by
  intro h
  have htracked := h evictionSystem (expiredHistory ++ [(101,.report reclaimed none)]) evictionSystem_initial
  have hout : Outstanding (Runs.run (step fun _ => "") evictionSystem
      (expiredHistory ++ [(101,.report reclaimed none)]))
      {evictionAction with
        status := .acknowledged
        statusMessage := "controller-managed eviction assignments enqueued"} :=
    ⟨by decide +kernel,by decide +kernel,rfl,rfl⟩
  have hholds : HoldsVictim evictionState {evictionAction with
      status := .acknowledged
      statusMessage := "controller-managed eviction assignments enqueued"} "node-b" :=
    ⟨"worker-b",by simp [evictionAction],_,rfl,rfl⟩
  obtain ⟨r,hr,ht⟩ := htracked _ hout "node-b" hholds
  have hnone : ∀ r ∈ (Runs.run (step fun _ => "") evictionSystem
      (expiredHistory ++ [(101,.report reclaimed none)])).table.rows,
      assignmentReferencesRolloutAction r.toHostAssignment 1 = false := by decide +kernel
  have htag : assignmentReferencesRolloutAction r.toHostAssignment 1 = true := ht.2.2.2
  simp [hnone r hr] at htag

end Naim.Rollout
