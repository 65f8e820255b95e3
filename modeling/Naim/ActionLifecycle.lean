import Naim.SchedulerActions

/-!
# The life cycle of a scheduler action

What the calls of the scheduler make of a rebalance, over every sequence of
observations and clock readings: each call is one of the transitions below, and
the stages of the action follow from them.
-/

namespace Naim.SchedulerActions

open Runs PlaneRealization Option

inductive Call
  | advance (inputs : Inputs)
  | tick (inputs : Inputs)

def Call.inputs : Call → Inputs
  | advance inputs => inputs
  | tick inputs => inputs

variable {Text : Type} {config : Config Text} {inputs : Inputs}

/-- A call that throws leaves what it has written. -/
def step (config : Config Text) (db : Database Text) : Call → Database Text
  | .advance inputs => (advanceActiveSchedulerAction config inputs db).1
  | .tick inputs => (schedulerTick config inputs db).1

structure View (Text : Type) where
  planeRuntime : Option (SchedulerPlaneRuntime Text)
  generation : Int32
  events : List SchedulerEvent

def Database.view (db : Database Text) : View Text := ⟨db.planeRuntime,db.generation,db.events⟩

def nextSamples (r : SchedulerPlaneRuntime Text) (checks : Option Convergence) : ℤ :=
  if checks.any Convergence.converged then r.stableSamples + 1 else 0

inductive Transition (config : Config Text) (inputs : Inputs) (v : View Text) : View Text → Prop
  | idle (h : ∀ r, v.planeRuntime = some r → r.activeAction = "") : Transition config inputs v v
  | unread (r : SchedulerPlaneRuntime Text) (hr : v.planeRuntime = some r) (hphase : r.phase = .rollbackPlanned) :
      Transition config inputs v v
  | unqueued (r : SchedulerPlaneRuntime Text) (hr : v.planeRuntime = some r) (hactive : r.activeAction ≠ "")
      (hphase : r.phase = .rollbackPlanned) (state : DesiredState) (hread : readRollbackState config r = .ok state)
      (hqueue : ∀ assignments, assignmentsFor config inputs state (v.generation + 1) ≠ .ok assignments) :
      Transition config inputs v {v with generation := v.generation + 1}
  | rolledBack (r r' : SchedulerPlaneRuntime Text) (hr : v.planeRuntime = some r) (hphase : r.phase = .rollbackPlanned)
      (hkept : r'.activeAction = r.activeAction ∧ r'.previousStateJson = r.previousStateJson)
      (hnew : r'.phase = .rollbackApplied ∧ r'.stableSamples = 0 ∧ r'.rollbackAttemptCount = 1)
      (event : SchedulerEvent) (hevent : event.eventType = .rollbackApplied) :
      Transition config inputs v ⟨some r',v.generation + 1,v.events ++ [event]⟩
  | unverified (r : SchedulerPlaneRuntime Text) (hr : v.planeRuntime = some r) (hactive : r.activeAction ≠ "")
      (hphase : r.phase ≠ .rollbackPlanned) (hcheck : ∀ checks, checkConvergence inputs r ≠ .ok checks) :
      Transition config inputs v v
  | verified (r : SchedulerPlaneRuntime Text) (hr : v.planeRuntime = some r) (hphase : r.phase ≠ .rollbackPlanned)
      (checks : Convergence) (hcheck : checkConvergence inputs r = .ok (some checks))
      (hconverged : checks.converged = true)
      (hsamples : config.verificationStableSamplesRequired ≤ r.stableSamples + 1)
      (event : SchedulerEvent) (hevent : event.eventType = .moveVerified) :
      Transition config inputs v ⟨none,v.generation,v.events ++ [event]⟩
  | waiting (r r' : SchedulerPlaneRuntime Text) (hr : v.planeRuntime = some r) (hphase : r.phase ≠ .rollbackPlanned)
      (checks : Option Convergence) (hcheck : checkConvergence inputs r = .ok checks)
      (hkept : r'.activeAction = r.activeAction ∧ r'.previousStateJson = r.previousStateJson ∧ r'.phase = r.phase ∧
        r'.rollbackAttemptCount = r.rollbackAttemptCount)
      (hsamples : r'.stableSamples = nextSamples r checks) :
      Transition config inputs v {v with planeRuntime := some r'}
  | planned (r r' : SchedulerPlaneRuntime Text) (hr : v.planeRuntime = some r) (hphase : r.phase ≠ .rollbackPlanned)
      (hfirst : r.rollbackAttemptCount = 0 ∧ r.previousStateJson.isSome)
      (hkept : r'.activeAction = r.activeAction ∧ r'.previousStateJson = r.previousStateJson ∧
        r'.rollbackAttemptCount = r.rollbackAttemptCount)
      (hnew : r'.phase = .rollbackPlanned ∧ r'.stableSamples = 0)
      (event : SchedulerEvent) (hevent : event.eventType = .rollbackPlanned) :
      Transition config inputs v ⟨some r',v.generation,v.events ++ [event]⟩
  | manual (r : SchedulerPlaneRuntime Text) (hr : v.planeRuntime = some r) (hphase : r.phase ≠ .rollbackPlanned)
      (htimedOut : timedOut config inputs r = true)
      (hlast : ¬ (r.rollbackAttemptCount = 0 ∧ r.previousStateJson.isSome))
      (event : SchedulerEvent) (hevent : event.eventType = .manualInterventionRequired) :
      Transition config inputs v ⟨none,v.generation,v.events ++ [event]⟩

@[simp] lemma view_updateWorker (db : Database Text) (workerName : String)
    (f : SchedulerWorkerRuntime → SchedulerWorkerRuntime) : (db.updateWorker workerName f).view = db.view := rfl

lemma view_markWorkerMoveVerified (now : String) (r : SchedulerPlaneRuntime Text) (db : Database Text) :
    (markWorkerMoveVerified now r db).view = db.view := by
  unfold markWorkerMoveVerified
  generalize [r.sourceNodeName,r.targetNodeName].filter (· ≠ "") = nodeNames
  rw [← view_updateWorker db r.activeWorkerName]
  generalize db.updateWorker r.activeWorkerName _ = db
  induction nodeNames generalizing db with
  | nil => rfl
  | cons nodeName nodeNames ih =>
    rw [List.foldl_cons,ih]
    rfl

variable {r r₁ : SchedulerPlaneRuntime Text} {db db₀ : Database Text} {call : Call}

lemma rollback_transition (hr : db.planeRuntime = some r) (hactive : r.activeAction ≠ "")
    (hphase : r.phase = .rollbackPlanned) :
    Transition config inputs db.view (materializeRollback config inputs r db).1.view := by
  unfold materializeRollback
  cases hread : readRollbackState config r with
  | error e => exact .unread r hr hphase
  | ok state =>
    dsimp only
    cases hqueue : assignmentsFor config inputs state (db.generation + 1) with
    | error e =>
      exact .unqueued r hr hactive hphase state hread fun assignments h => by simp [hqueue,Database.view] at h
    | ok assignments =>
      refine .rolledBack r _ hr hphase ?_ ?_ _ ?_
      · exact ⟨rfl,rfl⟩
      · exact ⟨rfl,rfl,rfl⟩
      · rfl

lemma endVerification_transition (hr : db.planeRuntime = some r) (hphase : r.phase ≠ .rollbackPlanned)
    (htimedOut : timedOut config inputs r = true)
    (hsame : r₁.activeAction = r.activeAction ∧ r₁.previousStateJson = r.previousStateJson ∧
      r₁.rollbackAttemptCount = r.rollbackAttemptCount)
    (detail : String) : Transition config inputs db.view (endVerification inputs r₁ detail db).view := by
  unfold endVerification
  obtain ⟨haction,hprevious,hattempts⟩ := hsame
  split
  next hfirst =>
    simp only [Bool.and_eq_true,decide_eq_true_eq,hprevious,hattempts] at hfirst
    refine .planned r _ hr hphase hfirst ?_ ?_ _ ?_
    · exact ⟨haction,hprevious,hattempts⟩
    · exact ⟨rfl,rfl⟩
    · rfl
  next hfirst =>
    simp only [Bool.and_eq_true,decide_eq_true_eq,hprevious,hattempts] at hfirst
    refine .manual r hr hphase htimedOut hfirst _ ?_
    rfl

lemma verification_transition (hr : db.planeRuntime = some r) (hphase : r.phase ≠ .rollbackPlanned)
    (hcheck : checkConvergence inputs r = .ok checks) :
    Transition config inputs db.view (settleVerification inputs r (verificationOf config inputs r checks) db).view := by
  have hsamples : (verificationOf config inputs r checks).nextStableSamples = nextSamples r checks := by
    cases checks with
    | none => rfl
    | some c => cases hc : c.converged <;> simp [verificationOf,nextSamples,hc]
  have htimedOut : (verificationOf config inputs r checks).timedOut = timedOut config inputs r := by
    cases checks with
    | none => rfl
    | some c => cases hc : c.converged <;> simp [verificationOf,hc]
  unfold settleVerification
  dsimp only
  split
  next hstable =>
    cases checks with
    | none => simp [verificationOf] at hstable
    | some c =>
      cases hc : c.converged with
      | false => simp [verificationOf,hc] at hstable
      | true =>
        simp only [verificationOf,hc,if_true,decide_eq_true_eq] at hstable
        generalize hv : verificationOf config inputs r (some c) = v
        have hview := view_markWorkerMoveVerified inputs.utcNowSqlTimestamp
          {r with stableSamples := v.nextStableSamples, statusMessage := v.detail} db
        generalize markWorkerMoveVerified _ _ db = marked at hview ⊢
        have hmarked : ∀ event, ((marked.append event).clearPlaneRuntime).view =
            ⟨none,db.view.generation,db.view.events ++ [event]⟩ := fun event => by rw [← hview]; rfl
        rw [hmarked]
        exact .verified r hr hphase c hcheck hc hstable _ rfl
  next =>
    split
    next => exact .waiting r _ hr hphase checks hcheck ⟨rfl,rfl,rfl,rfl⟩ hsamples
    next hlate =>
      refine endVerification_transition hr hphase ?_ ⟨rfl,rfl,rfl⟩ _
      rw [← htimedOut]
      simpa using hlate

lemma advance_transition (config : Config Text) (inputs : Inputs) (db : Database Text) :
    Transition config inputs db.view (advanceActiveSchedulerAction config inputs db).1.view := by
  unfold advanceActiveSchedulerAction
  cases hr : db.planeRuntime with
  | none => exact .idle fun r h => by simp [Database.view,hr] at h
  | some r =>
    dsimp only
    split
    next hidle =>
      refine .idle fun r' h => ?_
      obtain rfl : r = r' := by simpa [Database.view,hr] using h
      exact hidle
    next hactive =>
      split
      next hphase => exact rollback_transition hr hactive hphase
      next hphase =>
        unfold evaluateSchedulerActionVerification
        cases hcheck : checkConvergence inputs r with
        | error e => exact .unverified r hr hactive hphase fun checks h => by simp [hcheck] at h
        | ok checks => exact verification_transition hr hphase hcheck

lemma step_transition (config : Config Text) (db : Database Text) (call : Call) :
    Transition config call.inputs db.view (step config db call).view := by
  cases call with
  | advance inputs => exact advance_transition config inputs db
  | tick inputs => exact advance_transition config inputs {db with
      assignments := (Reconciliation.reconcile inputs.clock.now db.planes inputs.observations db.assignments none).1}

/-- The stages of an action, the last three of which end it. -/
inductive Stage
  | verifyingMove | rollbackPlanned | rollbackApplied | moveVerified | rollbackVerified | manualIntervention
  deriving DecidableEq

def Stage.log : Stage → List EventType
  | verifyingMove => []
  | rollbackPlanned => [.rollbackPlanned]
  | rollbackApplied => [.rollbackPlanned,.rollbackApplied]
  | moveVerified => [.moveVerified]
  | rollbackVerified => [.rollbackPlanned,.rollbackApplied,.moveVerified]
  | manualIntervention => [.rollbackPlanned,.rollbackApplied,.manualInterventionRequired]

def Stage.phase : Stage → Option Phase
  | verifyingMove => some .verifyingMove
  | rollbackPlanned => some .rollbackPlanned
  | rollbackApplied => some .rollbackApplied
  | _ => none

def Phase.stage : Phase → Stage
  | verifyingMove => .verifyingMove
  | rollbackPlanned => .rollbackPlanned
  | rollbackApplied => .rollbackApplied

def Stage.rollbacks (stage : Stage) : ℕ := stage.log.count .rollbackApplied

def Stage.Follows : Stage → Stage → Prop
  | verifyingMove, next => next = rollbackPlanned ∨ next = moveVerified
  | rollbackPlanned, next => next = rollbackApplied
  | rollbackApplied, next => next = rollbackVerified ∨ next = manualIntervention
  | _, _ => False

structure Watched (phase : Phase) (rollbacks : ℕ) (r : SchedulerPlaneRuntime Text) : Prop where
  phase : r.phase = phase
  active : r.activeAction ≠ ""
  previous : r.previousStateJson.isSome
  attempts : r.rollbackAttemptCount = rollbacks

structure AtStage (start : View Text) (stage : Stage) (v : View Text) : Prop where
  row : match stage.phase with
    | some phase => ∃ r, v.planeRuntime = some r ∧ Watched phase stage.rollbacks r
    | none => v.planeRuntime = none
  log : v.events.map (·.eventType) = start.events.map (·.eventType) ++ stage.log
  generation : v.generation = start.generation + Int32.ofNat stage.rollbacks

/-- The documents that the call reads can be read: those that decide which nodes take
the rollback, and those that it compares once a sample was counted. -/
def Readable (config : Config Text) (db : Database Text) (call : Call) : Prop :=
  ∀ r, db.planeRuntime = some r → r.activeAction ≠ "" →
    (r.phase = .rollbackPlanned → ∀ state, readRollbackState config r = .ok state → ∀ node ∈ state.nodes,
      ∃ takes, takesWork call.inputs.clock config.defaultStaleAfterSeconds call.inputs.overrides
        call.inputs.observations node.name = .ok takes) ∧
    (r.phase ≠ .rollbackPlanned → r.stableSamples ≠ 0 → ∃ checks, checkConvergence call.inputs r = .ok checks)

lemma assignmentsFor_succeeds (generation : Int32) (h : ∀ node ∈ state.nodes, ∃ takes,
      takesWork inputs.clock config.defaultStaleAfterSeconds inputs.overrides inputs.observations node.name =
        .ok takes) :
    ∃ assignments, assignmentsFor config inputs state generation = .ok assignments :=
  buildHostAssignments_succeeds _ _ _ h

variable {start v : View Text} {stage : Stage} {phase : Phase} {event event' : SchedulerEvent} {calls : List Call}

lemma AtStage.watched (h : AtStage start stage v) (hr : v.planeRuntime = some r) :
    stage.phase = some r.phase ∧ Watched r.phase stage.rollbacks r := by
  have hrow := h.row
  cases hphase : stage.phase with
  | none =>
    rw [hphase] at hrow
    rw [hrow] at hr
    exact absurd hr (by simp)
  | some phase =>
    rw [hphase] at hrow
    obtain ⟨r',hr',hwatched⟩ := hrow
    obtain rfl : r' = r := some.inj (hr'.symm.trans hr)
    rw [hwatched.phase]
    exact ⟨rfl,hwatched⟩

lemma Stage.eq_of_phase (h : stage.phase = some phase) : stage = phase.stage := by
  cases stage <;> simp only [Stage.phase,some.injEq,reduceCtorEq] at h <;> subst h <;> rfl

lemma AtStage.record {next : Stage} (h : AtStage start stage v)
    (hlog : next.log = stage.log ++ [event.eventType]) :
    (v.events ++ [event]).map (·.eventType) = start.events.map (·.eventType) ++ next.log := by
  rw [List.map_append,h.log,hlog,List.append_assoc]
  rfl

lemma AtStage.step (h : AtStage start stage db.view) (hreadable : Readable config db call) :
    ∃ next, (next = stage ∨ stage.Follows next) ∧ AtStage start next (step config db call).view := by
  have ht := step_transition config db call
  generalize (SchedulerActions.step config db call).view = v' at ht
  cases ht with
  | idle _ => exact ⟨stage,.inl rfl,h⟩
  | unread r hr hphase => exact ⟨stage,.inl rfl,h⟩
  | unqueued r hr hactive hphase state hread hqueue =>
    obtain ⟨assignments,hassignments⟩ := assignmentsFor_succeeds (db.view.generation + 1)
      ((hreadable r hr hactive).1 hphase state hread)
    exact absurd hassignments (hqueue assignments)
  | unverified r hr hactive hphase hcheck => exact ⟨stage,.inl rfl,h⟩
  | rolledBack r r' hr hphase hkept hnew event hevent =>
    obtain ⟨hstage,hwatched⟩ := h.watched hr
    obtain rfl := Stage.eq_of_phase (hphase ▸ hstage)
    refine ⟨.rollbackApplied,.inr rfl,⟨r',rfl,⟨hnew.1,?_,?_,hnew.2.2⟩⟩,h.record (by rw [hevent]; rfl),?_⟩
    · rw [hkept.1]
      exact hwatched.active
    · rw [hkept.2]
      exact hwatched.previous
    · change db.view.generation + 1 = start.generation + 1
      rw [h.generation]
      exact congrArg (· + 1) (Int32.add_zero _)
  | verified r hr hphase checks hcheck hconverged hsamples event hevent =>
    obtain ⟨hstage,-⟩ := h.watched hr
    cases hcurrent : r.phase with
    | rollbackPlanned => exact absurd hcurrent hphase
    | verifyingMove =>
      obtain rfl := Stage.eq_of_phase (hcurrent ▸ hstage)
      exact ⟨.moveVerified,.inr (.inr rfl),rfl,h.record (by rw [hevent]; rfl),h.generation⟩
    | rollbackApplied =>
      obtain rfl := Stage.eq_of_phase (hcurrent ▸ hstage)
      exact ⟨.rollbackVerified,.inr (.inl rfl),rfl,h.record (by rw [hevent]; rfl),h.generation⟩
  | waiting r r' hr hphase checks hcheck hkept hsamples =>
    obtain ⟨hstage,hwatched⟩ := h.watched hr
    obtain ⟨hactive,hprevious,hsame,hattempts⟩ := hkept
    refine ⟨stage,.inl rfl,?_,h.log,h.generation⟩
    rw [hstage]
    exact ⟨r',rfl,⟨hsame,hactive ▸ hwatched.active,hprevious ▸ hwatched.previous,hattempts.trans hwatched.attempts⟩⟩
  | planned r r' hr hphase hfirst hkept hnew event hevent =>
    obtain ⟨hstage,hwatched⟩ := h.watched hr
    obtain ⟨hactive,hprevious,hattempts⟩ := hkept
    have hattempts := hattempts.trans hwatched.attempts
    cases hcurrent : r.phase with
    | rollbackPlanned => exact absurd hcurrent hphase
    | rollbackApplied =>
      -- the rollback was made, so it is not the first attempt
      obtain rfl := Stage.eq_of_phase (hcurrent ▸ hstage)
      have hcount := hwatched.attempts
      rw [hfirst.1] at hcount
      exact absurd hcount (by decide)
    | verifyingMove =>
      obtain rfl := Stage.eq_of_phase (hcurrent ▸ hstage)
      exact ⟨.rollbackPlanned,.inr (.inl rfl),
        ⟨r',rfl,⟨hnew.1,hactive ▸ hwatched.active,hprevious ▸ hwatched.previous,hattempts⟩⟩,
        h.record (by rw [hevent]; rfl),h.generation⟩
  | manual r hr hphase htimedOut hlast event hevent =>
    obtain ⟨hstage,hwatched⟩ := h.watched hr
    cases hcurrent : r.phase with
    | rollbackPlanned => exact absurd hcurrent hphase
    | rollbackApplied =>
      obtain rfl := Stage.eq_of_phase (hcurrent ▸ hstage)
      exact ⟨.manualIntervention,.inr (.inr rfl),rfl,h.record (by rw [hevent]; rfl),h.generation⟩
    | verifyingMove =>
      obtain rfl := Stage.eq_of_phase (hcurrent ▸ hstage)
      exact absurd ⟨hwatched.attempts,hwatched.previous⟩ hlast

def ConvergesIn (phase : Phase) (db : Database Text) (call : Call) : Prop :=
  ∃ r checks, db.planeRuntime = some r ∧ r.phase = phase ∧ checkConvergence call.inputs r = .ok (some checks) ∧
    checks.converged = true

def Converging (config : Config Text) (db : Database Text) (calls : List Call) (phase : Phase) (samples : ℤ) : Prop :=
  ∃ before recent, calls = before ++ recent ∧ (recent.length : ℤ) = samples ∧
    Guarded (step config) (ConvergesIn phase) (run (step config) db before) recent

lemma Converging.zero (config : Config Text) (db : Database Text) (calls : List Call) (phase : Phase) :
    Converging config db calls phase 0 := ⟨calls,[],by simp,rfl,trivial⟩

lemma Converging.succ (h : Converging config db calls phase samples)
    (hcall : ConvergesIn phase (run (step config) db calls) call) :
    Converging config db (calls ++ [call]) phase (samples + 1) := by
  obtain ⟨before,recent,rfl,hlength,hrecent⟩ := h
  refine ⟨before,recent ++ [call],by simp,by simp [hlength],guarded_concat.2 ⟨hrecent,?_⟩⟩
  rwa [← run_append]

/-- While the action is watched, its samples are the calls since which it converged. -/
def Sampled (config : Config Text) (db : Database Text) (calls : List Call) (v : View Text) : Prop :=
  ∀ r, v.planeRuntime = some r → r.activeAction ≠ "" →
    Converging config db calls r.phase r.stableSamples ∧ (r.phase = .rollbackPlanned → r.stableSamples = 0)

lemma Sampled.step (h : Sampled config db calls (run (step config) db calls).view)
    (hreadable : Readable config (run (step config) db calls) call) :
    Sampled config db (calls ++ [call]) (step config (run (step config) db calls) call).view := by
  have ht := step_transition config (run (SchedulerActions.step config) db calls) call
  have hfresh : ∀ r : SchedulerPlaneRuntime Text, r.stableSamples = 0 →
      Converging config db (calls ++ [call]) r.phase r.stableSamples ∧
        (r.phase = .rollbackPlanned → r.stableSamples = 0) :=
    fun r hzero => ⟨hzero ▸ .zero config db _ r.phase,fun _ => hzero⟩
  generalize (SchedulerActions.step config (run (SchedulerActions.step config) db calls) call).view = v' at ht
  intro r₁ hr₁ hactive₁
  cases ht with
  | idle hidle => exact absurd (hidle r₁ hr₁) hactive₁
  | unread r hr hphase =>
    obtain rfl : r = r₁ := some.inj (hr.symm.trans hr₁)
    exact hfresh r ((h r hr hactive₁).2 hphase)
  | unqueued r hr hactive hphase state hread hqueue =>
    obtain ⟨assignments,hassignments⟩ := assignmentsFor_succeeds _ ((hreadable r hr hactive).1 hphase state hread)
    exact absurd hassignments (hqueue assignments)
  | rolledBack r r' hr hphase hkept hnew event hevent =>
    obtain rfl : r' = r₁ := some.inj hr₁
    exact hfresh r' hnew.2.1
  | unverified r hr hactive hphase hcheck =>
    obtain rfl : r = r₁ := some.inj (hr.symm.trans hr₁)
    by_cases hzero : r.stableSamples = 0
    · exact hfresh r hzero
    · obtain ⟨checks,hchecks⟩ := (hreadable r hr hactive).2 hphase hzero
      exact absurd hchecks (hcheck checks)
  | verified r hr hphase checks hcheck hconverged hsamples event hevent => exact absurd hr₁ (by simp)
  | waiting r r' hr hphase checks hcheck hkept hsamples =>
    obtain rfl : r' = r₁ := some.inj hr₁
    obtain ⟨hactive,-,hsame,-⟩ := hkept
    by_cases hconverged : checks.any Convergence.converged = true
    · obtain ⟨c,rfl,hc⟩ := (any_eq_true _ _).1 hconverged
      rw [nextSamples,if_pos hconverged] at hsamples
      rw [hsamples,hsame]
      refine ⟨((h r hr (hactive ▸ hactive₁)).1).succ ⟨r,c,hr,rfl,hcheck,hc⟩,fun h => absurd h hphase⟩
    · rw [nextSamples,if_neg hconverged] at hsamples
      exact hfresh r' hsamples
  | planned r r' hr hphase hfirst hkept hnew event hevent =>
    obtain rfl : r' = r₁ := some.inj hr₁
    exact hfresh r' hnew.2
  | manual r hr hphase htimedOut hlast event hevent => exact absurd hr₁ (by simp)

lemma run_stage (hstart : AtStage db.view .verifyingMove db.view) (hsampled : Sampled config db [] db.view)
    (calls : List Call) (hcalls : Guarded (step config) (Readable config) db calls) :
    (∃ stage, AtStage db.view stage (run (step config) db calls).view) ∧
      Sampled config db calls (run (step config) db calls).view := by
  induction calls using List.reverseRecOn with
  | nil => exact ⟨⟨_,hstart⟩,hsampled⟩
  | append_singleton calls call ih =>
    obtain ⟨hbefore,hcall⟩ := guarded_concat.1 hcalls
    obtain ⟨⟨stage,hstage⟩,hsampled⟩ := ih hbefore
    obtain ⟨next,-,hnext⟩ := hstage.step hcall
    rw [run_append]
    exact ⟨⟨next,hnext⟩,hsampled.step hcall⟩

def Records (eventType : EventType) (db db' : Database Text) : Prop :=
  ∃ event, db'.events = db.events ++ [event] ∧ event.eventType = eventType

lemma events_concat (h : v.events ++ [event] = v.events ++ [event']) : event' = event := by simpa using h.symm

/-- What a call finds that ends the action with the event. -/
def Grounds (config : Config Text) (db : Database Text) (call : Call) : EventType → Prop
  | .moveVerified => ∃ r checks, db.planeRuntime = some r ∧ checkConvergence call.inputs r = .ok (some checks) ∧
      checks.converged = true ∧ config.verificationStableSamplesRequired ≤ r.stableSamples + 1
  | .manualInterventionRequired => ∃ r, db.planeRuntime = some r ∧ r.phase ≠ .rollbackPlanned ∧
      timedOut config call.inputs r = true ∧ ¬ (r.rollbackAttemptCount = 0 ∧ r.previousStateJson.isSome)
  | _ => True

lemma grounds_of_records (h : Records eventType db (step config db call)) : Grounds config db call eventType := by
  obtain ⟨event,hevents,rfl⟩ := h
  have ht := step_transition config db call
  have hevents : (step config db call).view.events = db.view.events ++ [event] := hevents
  have hsame : db.view.events ≠ db.view.events ++ [event] := by simp
  generalize (step config db call).view = v' at ht hevents
  cases ht with
  | idle _ => exact absurd hevents hsame
  | unread r hr hphase => exact absurd hevents hsame
  | unqueued r hr hactive hphase state hread hqueue => exact absurd hevents hsame
  | unverified r hr hactive hphase hcheck => exact absurd hevents hsame
  | waiting r r' hr hphase checks hcheck hkept hsamples => exact absurd hevents hsame
  | rolledBack r r' hr hphase hkept hnew event' hevent =>
    obtain rfl := events_concat hevents
    rw [hevent]
    trivial
  | planned r r' hr hphase hfirst hkept hnew event' hevent =>
    obtain rfl := events_concat hevents
    rw [hevent]
    trivial
  | verified r hr hphase checks hcheck hconverged hsamples event' hevent =>
    obtain rfl := events_concat hevents
    rw [hevent]
    exact ⟨r,checks,hr,hcheck,hconverged,hsamples⟩
  | manual r hr hphase htimedOut hlast event' hevent =>
    obtain rfl := events_concat hevents
    rw [hevent]
    exact ⟨r,hr,hphase,htimedOut,hlast⟩

lemma applyRebalanceProposal_started
    (h : applyRebalanceProposal config inputs entries budget workerName db₀ = (db,.ok ())) :
    AtStage db.view .verifyingMove db.view ∧ Sampled config db [] db.view := by
  unfold applyRebalanceProposal at h
  split at h
  next => simp [Checked.fail] at h
  next entry _ =>
    split at h
    next => simp [Checked.fail] at h
    next =>
      split at h
      next => simp [Checked.fail] at h
      next =>
        split at h
        next => simp at h
        next updated _ =>
          dsimp only at h
          split at h
          next => simp at h
          next =>
            obtain ⟨rfl,-⟩ := Prod.mk.inj h
            refine ⟨⟨⟨_,rfl,⟨rfl,(by decide : "rebalance" ≠ ""),rfl,rfl⟩⟩,by simp [Stage.log],
              by simp [Stage.rollbacks,Stage.log]⟩,fun r hr _ => ?_⟩
            obtain rfl := some.inj hr
            exact ⟨.zero config _ [] _,fun _ => rfl⟩

/-- In every run whose calls can read the documents they need, the action passes
through its stages in order, with at most one rollback and one generation for it.
It is recorded as verified after the required number of calls in a row that
converged in the current phase, and as lost only after the rollback timed out. -/
theorem action_lifecycle (config : Config Text) (inputs : Inputs) (entries : List RebalancePlan.PlannedRebalance)
    (budget : RebalanceIterationBudgetSummary) (workerName : String) (db₀ db : Database Text)
    (hstart : applyRebalanceProposal config inputs entries budget workerName db₀ = (db,.ok ())) (calls : List Call)
    (hcalls : Guarded (step config) (Readable config) db calls) :
    (∃ stage, AtStage db.view stage (run (step config) db calls).view) ∧
    ∀ before call, calls = before ++ [call] →
      (∃ stage next, AtStage db.view stage (run (step config) db before).view ∧
        AtStage db.view next (run (step config) db calls).view ∧ (next = stage ∨ stage.Follows next)) ∧
      (Records .moveVerified (run (step config) db before) (run (step config) db calls) →
        ∃ phase, ∃ samples ≥ config.verificationStableSamplesRequired, Converging config db calls phase samples) ∧
      (Records .manualInterventionRequired (run (step config) db before) (run (step config) db calls) →
        AtStage db.view .rollbackApplied (run (step config) db before).view ∧
          ∃ r, (run (step config) db before).planeRuntime = some r ∧ timedOut config call.inputs r = true) := by
  obtain ⟨hstage,hsampled⟩ := applyRebalanceProposal_started hstart
  refine ⟨(run_stage hstage hsampled calls hcalls).1,?_⟩
  rintro before call rfl
  obtain ⟨⟨stage,hbefore⟩,hsamples⟩ := run_stage hstage hsampled before (guarded_concat.1 hcalls).1
  rw [run_append]
  refine ⟨?_,fun hrecords => ?_,fun hrecords => ?_⟩
  · obtain ⟨next,hfollows,hnext⟩ := hbefore.step (guarded_concat.1 hcalls).2
    exact ⟨stage,next,hbefore,hnext,hfollows⟩
  · obtain ⟨r,checks,hr,hcheck,hconverged,hrequired⟩ := grounds_of_records hrecords
    obtain ⟨-,hwatched⟩ := hbefore.watched hr
    exact ⟨r.phase,r.stableSamples + 1,hrequired,
      (hsamples r hr hwatched.active).1.succ ⟨r,checks,hr,rfl,hcheck,hconverged⟩⟩
  · obtain ⟨r,hr,hphase,htimedOut,hlast⟩ := grounds_of_records hrecords
    obtain ⟨hcurrent,hwatched⟩ := hbefore.watched hr
    obtain rfl := Stage.eq_of_phase hcurrent
    cases hphase' : r.phase with
    | rollbackPlanned => exact absurd hphase' hphase
    | verifyingMove =>
      rw [hphase'] at hwatched
      exact absurd ⟨hwatched.attempts,hwatched.previous⟩ hlast
    | rollbackApplied =>
      rw [hphase'] at hbefore
      exact ⟨hbefore,r,hr,htimedOut⟩

def movingPlane : DesiredState where
  planeName := "demo"
  nodes := [{name := "node-a", gpuDevices := ["0"], gpuMemoryMb := [("0",24000)]},
    {name := "node-b", gpuDevices := ["0"], gpuMemoryMb := [("0",24000)]}]
  instances := [{name := "worker-demo", role := .worker, nodeName := "node-a", gpuDevice := some "0", gpuFraction := 1}]

def moveToB : RebalancePlan.PlannedRebalance where
  workerName := "worker-demo"
  currentNodeName := "node-a"
  currentGpuDevice := "0"
  targetNodeName := "node-b"
  targetGpuDevice := "0"
  action := "move"
  decision := "propose"

def plainConfig : Config Json where
  format := StateJson.documents
  dump _ := ""
  sliceText _ := ""

def inputsAt (now : ℤ) (observations : List RuntimeSupport.HostObservation) : Inputs where
  clock := {
    now
    utcTime := fun _ => some 0
    deserializeRuntimeStatusJson := fun _ => .ok {}
    deserializeGpuTelemetryJson := fun _ => .error (.jsonException 101)}
  deserializeRuntimeStatusListJson _ := .ok []
  utcNowSqlTimestamp := "2026-01-01 00:00:00"
  observations

def startedMove : Database Json × Checked Unit :=
  applyRebalanceProposal plainConfig (inputsAt 0 []) [moveToB] {} "worker-demo"
    {desired := movingPlane, generation := 1}

/-- The move times out, and the next two calls find a telemetry document that is cut off. -/
def brokenTelemetry : List Call :=
  [.tick (inputsAt 60 []),.tick (inputsAt 61 [{nodeName := "node-a", gpuTelemetryJson := "\x7b"}]),
    .tick (inputsAt 62 [{nodeName := "node-a", gpuTelemetryJson := "\x7b"}]),.tick (inputsAt 63 [])]

/-- Each of the two calls stores another generation of the rollback before it throws. -/
theorem brokenTelemetry_repeats_rollback :
    startedMove.2.isOk = true ∧
    (run (step plainConfig) startedMove.1 (brokenTelemetry.take 3)).planeRuntime.map (·.phase) = some .rollbackPlanned ∧
    (run (step plainConfig) startedMove.1 (brokenTelemetry.take 3)).generation = startedMove.1.generation + 2 ∧
    (run (step plainConfig) startedMove.1 brokenTelemetry).planeRuntime.map (·.phase) = some .rollbackApplied ∧
    (run (step plainConfig) startedMove.1 brokenTelemetry).generation = startedMove.1.generation + 3 := by
  decide +kernel

lemma readable_without_observations (db : Database Text) (now : ℤ) :
    Readable config db (.tick (inputsAt now [])) :=
  fun _ _ _ => ⟨fun _ _ _ _ _ => ⟨true,rfl⟩,fun _ _ => ⟨none,rfl⟩⟩

theorem silent_rollback_staged :
    ∃ stage, AtStage startedMove.1.view stage
      (run (step plainConfig) startedMove.1 [.tick (inputsAt 60 []),.tick (inputsAt 63 [])]).view :=
  (action_lifecycle plainConfig (inputsAt 0 []) [moveToB] {} "worker-demo" {desired := movingPlane, generation := 1}
    startedMove.1 (Prod.ext rfl (by decide +kernel)) [.tick (inputsAt 60 []),.tick (inputsAt 63 [])]
    ⟨readable_without_observations _ 60,readable_without_observations _ 63,trivial⟩).1

end Naim.SchedulerActions
