import Naim.Assignments
import Mathlib.Data.String.Basic

/-!
# Operator retries

The controller database holds planes with their generations beside the assignments.
`RetryHostAssignment` revives a failed assignment after comparing its generation with
the one of the database's default plane.
-/

namespace Naim.AssignmentOrchestration

open Assignments Rows List

/-- The columns of `planes` that generations are looked up by; times are seconds. -/
structure PlaneRow where
  name : String
  generation : ℤ := 1
  createdAt : ℕ
  deriving DecidableEq

structure Database where
  planes : List PlaneRow := []
  assignments : Table := {}
  deriving DecidableEq

variable (now : ℤ) (db : Database)

/-- The plane created last; planes of one second go by name. -/
def loadLatestPlaneName : Option String :=
  (selectFirst (fun _ => true) (fun p : PlaneRow => toLex (OrderDual.toDual p.createdAt,p.name)) db.planes).map (·.name)

def loadDesiredGenerationOf (planeName : String) : Option ℤ :=
  (db.planes.find? (·.name = planeName)).map (·.generation)

def loadDesiredGeneration : Option ℤ := (loadLatestPlaneName db).bind (loadDesiredGenerationOf db)

def statusText : HostAssignmentStatus → String
  | .pending => "pending"
  | .claimed => "claimed"
  | .applied => "applied"
  | .failed => "failed"
  | .superseded => "superseded"

inductive RetryError
  | notFound (id : ℕ)
  | notFailed (id : ℕ) (status : HostAssignmentStatus)
  | staleGeneration (id : ℕ) (generation latest : ℤ)
  | notRequeued (id : ℕ)
  deriving DecidableEq

def RetryError.message : RetryError → String
  | .notFound id => "host assignment id=" ++ toString id ++ " not found"
  | .notFailed id status =>
    "host assignment id=" ++ toString id ++ " is not failed; current status=" ++ statusText status
  | .staleGeneration id generation latest =>
    "host assignment id=" ++ toString id ++ " belongs to stale desired generation " ++ toString generation ++
      "; latest generation is " ++ toString latest
  | .notRequeued id => "failed to requeue host assignment id=" ++ toString id

def retryMessage (a : HostAssignment) : String :=
  "requeued by operator for desired generation " ++ toString a.desiredGeneration

def staleAgainst (latest : Option ℤ) (a : HostAssignment) : Option ℤ :=
  latest.filter fun generation => a.desiredGeneration ≠ generation

def requeue (id : ℕ) (a : HostAssignment) : Except RetryError Database :=
  if db.assignments.rows.any fun r => r.id = id && r.status = .failed then
    .ok {db with assignments := retryFailedHostAssignment now db.assignments id (retryMessage a)}
  else .error (.notRequeued id)

def retryHostAssignment (id : ℕ) : Except RetryError Database :=
  match loadHostAssignment db.assignments id with
  | none => .error (.notFound id)
  | some a =>
    if a.status ≠ .failed then .error (.notFailed id a.status)
    else
      match staleAgainst (loadDesiredGeneration db) a with
      | some latest => .error (.staleGeneration id a.desiredGeneration latest)
      | none => requeue now db id a

def Requeues (id : ℕ) : Prop :=
  ∃ db', retryHostAssignment now db id = .ok db' ∧
    (loadHostAssignment db'.assignments id).map (·.status) = some .pending

def RefusedAsStale (id : ℕ) : Prop :=
  ∃ generation latest, retryHostAssignment now db id = .error (.staleGeneration id generation latest)

def OfCurrentGeneration (a : HostAssignment) : Prop :=
  loadDesiredGenerationOf db a.planeName = some a.desiredGeneration

variable {db : Database} {now : ℤ} {id : ℕ} {a : HostAssignment}

lemma loadHostAssignment_retryFailed (now : ℤ) (t : Table) (id : ℕ) (message : String)
    (h : loadHostAssignment t id = some a) (hs : a.status = .failed) :
    (loadHostAssignment (retryFailedHostAssignment now t id message) id).map (·.status) = some .pending := by
  obtain ⟨rows,nextId⟩ := t
  simp only [loadHostAssignment,retryFailedHostAssignment,Table.update] at h ⊢
  induction rows with
  | nil => simp at h
  | cons r rows ih =>
    by_cases hid : r.id = id
    · have hr : r.toHostAssignment = a := by simpa [hid] using h
      have hrs : r.status = .failed := by rw [hr]; exact hs
      simp [hid,hrs]
    · have := ih (by simpa [hid] using h)
      simpa [hid] using this

section Loaded

variable (h : loadHostAssignment db.assignments id = some a)

include h

lemma any_failed (hs : a.status = .failed) :
    (db.assignments.rows.any fun r => r.id = id && r.status = .failed) = true := by
  obtain ⟨r,hr,rfl⟩ := Option.map_eq_some_iff.1 h
  refine any_eq_true.2 ⟨r,mem_of_find?_eq_some hr,?_⟩
  have hid := find?_some hr
  simp [hid,hs]

lemma requeues_iff :
    Requeues now db id ↔ a.status = .failed ∧ staleAgainst (loadDesiredGeneration db) a = none := by
  by_cases hs : a.status = .failed
  · cases hstale : staleAgainst (loadDesiredGeneration db) a with
    | some latest => simp [Requeues,retryHostAssignment,h,hs,hstale]
    | none =>
      have hany := any_failed h hs
      simp only [Requeues,retryHostAssignment,requeue,h,hs,hstale,hany,ne_eq,not_true_eq_false,if_false,
        if_true,Except.ok.injEq]
      have hpending := loadHostAssignment_retryFailed now db.assignments id (retryMessage a) h hs
      exact iff_of_true ⟨_,rfl,hpending⟩ ⟨trivial,trivial⟩
  · simp [Requeues,retryHostAssignment,h,hs]

lemma refusedAsStale_iff :
    RefusedAsStale now db id ↔ a.status = .failed ∧ staleAgainst (loadDesiredGeneration db) a ≠ none := by
  by_cases hs : a.status = .failed
  · cases hstale : staleAgainst (loadDesiredGeneration db) a with
    | some latest => simp [RefusedAsStale,retryHostAssignment,h,hs,hstale]
    | none =>
      have hany := any_failed h hs
      simp [RefusedAsStale,retryHostAssignment,requeue,h,hs,hstale,hany]
  · simp [RefusedAsStale,retryHostAssignment,h,hs]

end Loaded

lemma staleAgainst_eq_none : staleAgainst latest a = none ↔ latest = none ∨ latest = some a.desiredGeneration := by
  cases latest with
  | none => simp [staleAgainst]
  | some generation =>
    by_cases h : a.desiredGeneration = generation
    · simp [staleAgainst,Option.filter,h]
    · simp [staleAgainst,Option.filter,h,Ne.symm h]

lemma loadDesiredGeneration_eq_none : loadDesiredGeneration db = none ↔ db.planes = [] := by
  rw [loadDesiredGeneration,loadLatestPlaneName]
  cases hlatest : selectFirst (fun _ => true) (fun p : PlaneRow => toLex (OrderDual.toDual p.createdAt,p.name))
    db.planes with
  | none =>
    have hempty := selectFirst_eq_none.1 hlatest
    simpa [eq_nil_iff_forall_not_mem] using hempty
  | some p =>
    have hp := (selectFirst_mem hlatest).1
    have hne : db.planes ≠ [] := ne_nil_of_mem hp
    have hfind : db.planes.find? (·.name = p.name) ≠ none := by
      rw [Ne,find?_eq_none]
      exact fun h => h p hp (by simp)
    simpa [loadDesiredGenerationOf,hne] using hfind

/-- The retry judges the assignment by its own plane's generation exactly when, if it is failed,
there is a plane and the default plane has its generation just as its own plane has. -/
theorem retryHostAssignment_own_generation_iff (now : ℤ) (db : Database) (id : ℕ) :
    (∀ a, loadHostAssignment db.assignments id = some a →
      (Requeues now db id → OfCurrentGeneration db a) ∧
        (OfCurrentGeneration db a → ¬ RefusedAsStale now db id)) ↔
    ∀ a, loadHostAssignment db.assignments id = some a → a.status = .failed →
      db.planes ≠ [] ∧ (loadDesiredGeneration db = some a.desiredGeneration ↔
        loadDesiredGenerationOf db a.planeName = some a.desiredGeneration) := by
  refine forall_congr' fun a => forall_congr' fun h => ?_
  rw [requeues_iff h,refusedAsStale_iff h]
  by_cases hs : a.status = .failed
  · have hown : db.planes = [] → ¬ OfCurrentGeneration db a := by
      intro hnil
      simp [OfCurrentGeneration,loadDesiredGenerationOf,hnil]
    simp only [hs,true_and,forall_const,Ne,not_not,staleAgainst_eq_none,loadDesiredGeneration_eq_none]
    tauto
  · simp [hs]

def twoPlanes (generation : ℤ) : Database where
  planes := [{name := "alpha", generation := 2, createdAt := 10},{name := "beta", generation := 1, createdAt := 20}]
  assignments :=
    {rows := [{id := 1, nodeName := "node-a", planeName := "alpha", desiredGeneration := generation,
               attemptCount := 3, status := .failed, updatedAt := 30}]
     nextId := 2}

/-- The outdated assignment of `alpha` is revived, and the current one is refused. -/
theorem twoPlanes_judged_by_default_plane :
    (Requeues 40 (twoPlanes 1) 1 ∧ ∃ a, loadHostAssignment (twoPlanes 1).assignments 1 = some a ∧
        ¬ OfCurrentGeneration (twoPlanes 1) a) ∧
      RefusedAsStale 40 (twoPlanes 2) 1 ∧ ∃ a, loadHostAssignment (twoPlanes 2).assignments 1 = some a ∧
        OfCurrentGeneration (twoPlanes 2) a := by
  refine ⟨⟨⟨_,rfl,rfl⟩,_,rfl,?_⟩,⟨_,_,rfl⟩,_,rfl,rfl⟩
  simp [OfCurrentGeneration,loadDesiredGenerationOf,twoPlanes]

end Naim.AssignmentOrchestration
