import Naim.AttemptBudget

/-!
# Hostd processes and their assignment lock

`ApplyNextAssignment` runs in any number of processes. Each takes the file lock of its
state root and node, claims one assignment, works on it and reports; the lock is
released when the process ends. The report names the assignment only, not the claim.
-/

namespace Naim.AssignmentLock

open Assignments List Rows

structure Claim where
  assignment : HostAssignment
  number : ℕ
  deriving DecidableEq

/-- A process that holds the lock file `stateRoot/nodeName/assignment.lock`. -/
structure Holder where
  (stateRoot nodeName : String)
  claim : Option Claim := none
  deriving DecidableEq

def Holder.locks (stateRoot nodeName : String) (h : Holder) : Bool := h.stateRoot = stateRoot && h.nodeName = nodeName

/-- `handedOut` records the ids of all claims in their order; no process reads it. -/
structure System where
  table : Table := {}
  holders : List Holder := []
  handedOut : List ℕ := []
  deriving DecidableEq

variable (s : System) (stateRoot nodeName : String)

inductive Event
  | controller (op : Operation)
  | deletePlane (planeName : String)
  | start (stateRoot nodeName : String)
  | claim (stateRoot nodeName : String)
  | progress (stateRoot nodeName progressJson : String)
  | report (stateRoot nodeName : String) (status : HostAssignmentStatus) (message : String)
  | exit (stateRoot nodeName : String)
  deriving DecidableEq

/-- Only a process claims; the controller also settles claims and takes one back that it could not deliver. -/
def byController : Operation → Bool
  | .claimNext _ => false
  | _ => true

def deletePlane (t : Table) (planeName : String) : Table := {t with rows := t.rows.filter (·.planeName ≠ planeName)}

def System.claimAt : Option Claim := (s.holders.find? (Holder.locks stateRoot nodeName)).bind Holder.claim

def System.release : System :=
  {s with holders := s.holders.filter fun h => !h.locks stateRoot nodeName}

/-- The claim that follows the lock; without an assignment the process ends. -/
def System.claimNext (now : ℤ) (s : System) (stateRoot nodeName : String) : System :=
  match (claimNextHostAssignment now s.table nodeName).2 with
  | none => {s.release stateRoot nodeName with table := apply s.table (now,.claimNext nodeName)}
  | some a =>
    let claim : Claim := ⟨a,s.handedOut.count a.id + 1⟩
    {table := apply s.table (now,.claimNext nodeName)
     holders := updateWhere (Holder.locks stateRoot nodeName) (fun h => {h with claim := some claim}) s.holders
     handedOut := s.handedOut ++ [a.id]}

def step : ℤ × Event → System
  | (now,.controller op) => if byController op then {s with table := apply s.table (now,op)} else s
  | (_,.deletePlane planeName) => {s with table := deletePlane s.table planeName}
  | (_,.start stateRoot nodeName) =>
    -- `TryAcquire` fails while another process holds the file, and the caller returns
    if s.holders.any (Holder.locks stateRoot nodeName) then s
    else {s with holders := s.holders ++ [{stateRoot, nodeName}]}
  | (now,.claim stateRoot nodeName) =>
    if s.holders.any (fun h => h.locks stateRoot nodeName && h.claim.isNone) then
      s.claimNext now stateRoot nodeName
    else s
  | (now,.progress stateRoot nodeName progressJson) =>
    match s.claimAt stateRoot nodeName with
    | none => s
    | some c => {s with table := apply s.table (now,.progress c.assignment.id progressJson)}
  | (now,.report stateRoot nodeName status message) =>
    match s.claimAt stateRoot nodeName with
    | none => s
    | some c => {s with table := apply s.table (now,.transitionClaimed c.assignment.id status message)}
  | (_,.exit stateRoot nodeName) => s.release stateRoot nodeName

/-- The processes of every node run with that node's state root. -/
def Event.Under (rootOf : String → String) : Event → Prop
  | .start stateRoot nodeName => stateRoot = rootOf nodeName
  | _ => True

/-- The id was given out, and its row, if it is still there, is for the node. -/
def OwnedBy (t : Table) (id : ℕ) (nodeName : String) : Prop :=
  id < t.nextId ∧ ∀ r ∈ t.rows, r.id = id → r.nodeName = nodeName

structure Exclusive (rootOf : String → String) (s : System) : Prop where
  keyed : Keyed s.table
  root : ∀ h ∈ s.holders, h.stateRoot = rootOf h.nodeName
  nodup : (s.holders.map (·.nodeName)).Nodup
  current : ∀ h ∈ s.holders, ∀ c, h.claim = some c →
    s.handedOut.count c.assignment.id = c.number ∧ OwnedBy s.table c.assignment.id h.nodeName

variable {rootOf : String → String} {s : System} {t : Table} {nodeName : String}

lemma ownedBy_apply (hkey : Keyed t) (op : ℤ × Operation) {id : ℕ} (h : OwnedBy t id nodeName) :
    OwnedBy (apply t op) id nodeName := by
  have hlineage := apply_lineage hkey kept_true op fun _ _ _ => trivial
  refine ⟨h.1.trans_le hlineage.nextId_le,fun r' hr' hid => ?_⟩
  rcases hlineage.mem_cases hr' with ⟨r,hr,h'⟩ | ⟨hnew,-⟩
  · exact h'.nodeName.trans (h.2 r hr (h'.id.symm.trans hid))
  · have := h.1
    omega

lemma Exclusive.apply (h : Exclusive rootOf s) (op : ℤ × Operation) :
    Exclusive rootOf {s with table := apply s.table op} where
  keyed := h.keyed.apply op
  root := h.root
  nodup := h.nodup
  current g hg c hc := by
    obtain ⟨hcount,howned⟩ := h.current g hg c hc
    exact ⟨hcount,ownedBy_apply h.keyed op howned⟩

lemma Exclusive.deletePlane (h : Exclusive rootOf s) (planeName : String) :
    Exclusive rootOf {s with table := deletePlane s.table planeName} where
  keyed := ⟨h.keyed.nodup.sublist (filter_sublist.map _),fun r hr => h.keyed.lt r (mem_of_mem_filter hr)⟩
  root := h.root
  nodup := h.nodup
  current g hg c hc := by
    obtain ⟨hcount,hlt,hrows⟩ := h.current g hg c hc
    exact ⟨hcount,hlt,fun r hr => hrows r (mem_of_mem_filter hr)⟩

lemma Exclusive.release (h : Exclusive rootOf s) (stateRoot nodeName : String) :
    Exclusive rootOf (s.release stateRoot nodeName) where
  keyed := h.keyed
  root g hg := h.root g (mem_of_mem_filter hg)
  nodup := h.nodup.sublist (List.Sublist.map _ filter_sublist)
  current g hg := h.current g (mem_of_mem_filter hg)

lemma Exclusive.start (h : Exclusive rootOf s) (now : ℤ) {stateRoot : String}
    (hroot : stateRoot = rootOf nodeName) : Exclusive rootOf (step s (now,.start stateRoot nodeName)) := by
  rw [step]
  split
  · exact h
  next hfree =>
    refine ⟨h.keyed,?_,?_,?_⟩
    · intro g hg
      rcases mem_append.1 hg with hg | hg
      · exact h.root g hg
      · obtain rfl := mem_singleton.1 hg
        exact hroot
    · -- a process of the node would hold the same lock
      have hother : ∀ g ∈ s.holders, g.nodeName ≠ nodeName := by
        rintro g hg rfl
        exact hfree (any_eq_true.2 ⟨g,hg,by simp [Holder.locks,hroot,h.root g hg]⟩)
      rw [map_append]
      refine nodup_append.2 ⟨h.nodup,by simp,?_⟩
      rintro x hx y hy rfl
      obtain ⟨g,hg,hgx⟩ := mem_map.1 hx
      exact hother g hg (by simpa [hgx] using hy)
    · intro g hg c hc
      rcases mem_append.1 hg with hg | hg
      · exact h.current g hg c hc
      · obtain rfl := mem_singleton.1 hg
        simp at hc

lemma row_of_claimNext (h : (claimNextHostAssignment now t nodeName).2 = some a) :
    ∃ r ∈ t.rows, r.id = a.id ∧ r.nodeName = nodeName := by
  rw [claimNext_snd,Option.map_eq_some_iff] at h
  obtain ⟨r,hsome,rfl⟩ := h
  have hexpire : Lineage (fun _ => False) 0 0 t (expire now t nodeName) :=
    expire_lineage now t nodeName fun _ _ _ _ h _ => h
  obtain ⟨hr,hnode,-⟩ := nextClaim_spec hsome
  rcases hexpire.mem_cases hr with ⟨r₀,hr₀,h₀⟩ | hnew
  · exact ⟨r₀,hr₀,h₀.id.symm,h₀.nodeName.symm.trans hnode⟩
  · exact hnew.2.elim

lemma Exclusive.claimNext (h : Exclusive rootOf s) (now : ℤ) {stateRoot : String}
    (hlock : s.holders.any fun g => g.locks stateRoot nodeName && g.claim.isNone) :
    Exclusive rootOf (s.claimNext now stateRoot nodeName) := by
  unfold System.claimNext
  split
  · exact (h.apply (now,.claimNext nodeName)).release stateRoot nodeName
  next a ha =>
    obtain ⟨r,hr,hid,hnode⟩ := row_of_claimNext ha
    refine ⟨(h.apply (now,.claimNext nodeName)).keyed,?_,?_,?_⟩
    · intro g hg
      obtain ⟨g,hg,rfl⟩ := mem_updateWhere.1 hg
      split <;> exact h.root g ‹_›
    · have hnames : ∀ claim, (updateWhere (Holder.locks stateRoot nodeName)
          (fun g => {g with claim := some claim}) s.holders).map (·.nodeName) = s.holders.map (·.nodeName) :=
        fun claim => map_updateWhere fun _ => rfl
      exact hnames _ ▸ h.nodup
    · intro g₁ hg₁ c hc
      obtain ⟨g,hg,rfl⟩ := mem_updateWhere.1 hg₁
      by_cases hg' : g.locks stateRoot nodeName
      · rw [if_pos hg'] at hc ⊢
        obtain rfl := Option.some.inj hc
        have hgnode : nodeName = g.nodeName := by
          simp only [Holder.locks,Bool.and_eq_true,decide_eq_true_eq] at hg'
          exact hg'.2.symm
        refine ⟨by simp,ownedBy_apply h.keyed _ ⟨hid ▸ h.keyed.lt r hr,fun r' hr' hid' => ?_⟩⟩
        rw [h.keyed.eq_of_id hr' hr (hid'.trans hid.symm),hnode,hgnode]
      · rw [if_neg hg'] at hc ⊢
        obtain ⟨hcount,howned⟩ := h.current g hg c hc
        -- the other processes work on rows of other nodes
        have hne : c.assignment.id ≠ a.id := by
          intro heq
          have hgnode := howned.2 r hr (hid.trans heq.symm)
          obtain ⟨g',hmem,hlocks⟩ := any_eq_true.1 hlock
          simp only [Holder.locks,Bool.and_eq_true,decide_eq_true_eq] at hlocks
          obtain rfl : g = g' := inj_on_of_nodup_map h.nodup hg hmem (by rw [← hgnode,hnode,hlocks.1.2])
          simp [Holder.locks,hlocks.1] at hg'
        refine ⟨?_,ownedBy_apply h.keyed _ howned⟩
        rw [count_append,hcount]
        simp [hne.symm]

lemma Exclusive.step (h : Exclusive rootOf s) (e : ℤ × Event) (he : e.2.Under rootOf) :
    Exclusive rootOf (step s e) := by
  rcases e with ⟨now,_ | _ | _ | _ | _ | _ | _⟩
  case deletePlane planeName => exact h.deletePlane planeName
  case start stateRoot nodeName => exact h.start now he
  case controller op =>
    rw [AssignmentLock.step]
    split
    · exact h.apply (now,op)
    · exact h
  case claim stateRoot nodeName =>
    rw [AssignmentLock.step]
    split
    · exact h.claimNext now ‹_›
    · exact h
  case progress stateRoot nodeName progressJson =>
    rw [AssignmentLock.step]
    split
    · exact h
    · exact h.apply _
  case report stateRoot nodeName status message =>
    rw [AssignmentLock.step]
    split
    · exact h
    · exact h.apply _
  case exit stateRoot nodeName => exact h.release stateRoot nodeName

lemma exclusive_run (he : ∀ e ∈ events, e.2.Under rootOf) (h : Exclusive rootOf s) :
    Exclusive rootOf (Runs.run step s events) := by
  induction events generalizing s with
  | nil => exact h
  | cons e events ih => exact ih (fun e' h' => he e' (by simp [h'])) (h.step e (he e (by simp)))

def statusOf (t : Table) (id : ℕ) : Option HostAssignmentStatus := (loadHostAssignment t id).map (·.status)

/-- The event is a report that changes the status of an assignment after a later claim of it
was handed out. -/
def SettlesLaterClaim (s : System) (e : ℤ × Event) : Prop :=
  ∃ stateRoot nodeName status message c, e.2 = .report stateRoot nodeName status message ∧
    s.claimAt stateRoot nodeName = some c ∧
    statusOf (step s e).table c.assignment.id ≠ statusOf s.table c.assignment.id ∧
    c.number < s.handedOut.count c.assignment.id

/-- While the processes of each node share a state root, no report settles a later claim than its own. -/
theorem report_settles_own_claim (rootOf : String → String) (events : List (ℤ × Event))
    (hroot : ∀ e ∈ events, e.2.Under rootOf) (n : ℕ) (e : ℤ × Event) :
    ¬ SettlesLaterClaim (Runs.run step {} (events.take n)) e := by
  rintro ⟨stateRoot,nodeName,status,message,c,-,hc,-,hlater⟩
  have h : Exclusive rootOf (Runs.run step {} (events.take n)) :=
    exclusive_run (fun e he => hroot e (mem_of_mem_take he)) ⟨keyed_empty,by simp,by simp,by simp⟩
  obtain ⟨g,hg,hgc⟩ := Option.bind_eq_some_iff.1 hc
  have hcurrent := (h.current g (mem_of_find?_eq_some hg) c hgc).1
  omega

/-- A process of the node claims its assignment and is silent for longer than the lease; a second
process claims it again. -/
def reclaimed (stateRoot stateRoot' : String) : List (ℤ × Event) :=
  [(0,.controller (.enqueue [{nodeName := "node-a", planeName := "alpha", assignmentType := "apply-node-state"}] "")),
   (1,.start stateRoot "node-a"),(1,.claim stateRoot "node-a"),
   (100,.start stateRoot' "node-a"),(100,.claim stateRoot' "node-a")]

/-- With two state roots the first process then finishes the second one's claim. -/
theorem reclaimed_settles_later_claim :
    SettlesLaterClaim (Runs.run step {} (reclaimed "/srv/one" "/srv/two"))
      (101,.report "/srv/one" "node-a" .applied "applied desired generation 0 on attempt 1/3") := by
  refine ⟨"/srv/one","node-a",.applied,_,_,rfl,rfl,?_⟩
  decide +kernel

/-- With one state root the second process does not get the lock. -/
theorem report_settles_own_claim_reclaimed :
    (∀ e ∈ reclaimed "/srv/one" "/srv/one", e.2.Under fun _ => "/srv/one") ∧
      ¬ SettlesLaterClaim (Runs.run step {} ((reclaimed "/srv/one" "/srv/one").take 5))
        (101,.report "/srv/one" "node-a" .applied "applied desired generation 0 on attempt 1/3") := by
  have hroot : ∀ e ∈ reclaimed "/srv/one" "/srv/one", e.2.Under fun _ => "/srv/one" := by
    simp [reclaimed,Event.Under]
  exact ⟨hroot,report_settles_own_claim _ _ hroot 5 _⟩

end Naim.AssignmentLock
