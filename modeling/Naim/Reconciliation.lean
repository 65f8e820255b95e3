import Naim.Assignments
import Naim.RuntimeSupport

/-!
# Reconciliation of claimed assignments

`HostAssignmentReconciliationService::Reconcile` settles the claimed assignments
that a host will not report on any more: a newer assignment of the node and plane
supersedes them, or the host's observation shows that they were applied.
-/

namespace Naim.Reconciliation

open Assignments List Rows RuntimeSupport
open Option hiding any map mem_map

structure PlaneRecord where
  name : String
  appliedGeneration : ℤ := 0
  deriving DecidableEq

structure Result where
  (applied superseded : ℕ := 0)
  deriving DecidableEq

def loadPlane (planes : List PlaneRecord) (planeName : String) : Option PlaneRecord :=
  planes.find? (·.name = planeName)

def loadClaimedApplyAssignments (t : Table) (planeName : Option String) : List HostAssignment :=
  (loadHostAssignments t none (some .claimed) planeName).filter (·.assignmentType = "apply-node-state")

def buildPlaneNames (claimed : List HostAssignment) : List String := sortedSet (claimed.map (·.planeName))

def keepLatest (latest : List (String × HostAssignment)) (a : HostAssignment) : List (String × HostAssignment) :=
  match latest.lookup a.nodeName with
  | none => Assoc.set latest a.nodeName a
  | some kept => if a.id > kept.id then Assoc.set latest a.nodeName a else latest

def buildLatestAssignmentsByNode (assignments : List HostAssignment) : List (String × HostAssignment) :=
  assignments.foldl keepLatest []

def findObservationForNode (observations : List HostObservation) (nodeName : String) : Option HostObservation :=
  observations.find? (·.nodeName = nodeName)

def shouldSupersedeClaimedAssignment (a : HostAssignment) (latest : List (String × HostAssignment)) : Bool :=
  match latest.lookup a.nodeName with
  | none => false
  | some kept => kept.id ≠ a.id

def shouldMarkClaimedAssignmentApplied (a : HostAssignment) (plane : Option PlaneRecord)
    (observation : Option HostObservation) : Bool :=
  plane.any (fun plane => a.desiredGeneration ≤ plane.appliedGeneration) &&
    observation.any fun o => o.planeName = a.planeName && o.status = .applied &&
      o.lastAssignmentId.any (fun id => (a.id : ℤ) ≤ id) &&
      o.appliedGeneration.any fun generation => a.desiredGeneration ≤ generation

def supersededMessage : String := "superseded by controller reconciliation after a newer assignment replaced it"

def appliedMessage : String := "marked applied by controller reconciliation after plane convergence"

/-- `TransitionClaimedHostAssignment` reports that it hit a row. -/
def transitions (t : Table) (id : ℕ) : Bool := t.rows.any fun r => r.id = id && r.status = .claimed

section Service

variable (now : ℤ) (planes : List PlaneRecord) (observations : List HostObservation)

def reconcileAssignment (planeName : String) (plane : Option PlaneRecord) (latest : List (String × HostAssignment))
    (acc : Table × Result) (a : HostAssignment) : Table × Result :=
  if a.planeName ≠ planeName then acc
  else if shouldSupersedeClaimedAssignment a latest then
    (transitionClaimedHostAssignment now acc.1 a.id .superseded supersededMessage,
      if transitions acc.1 a.id then {acc.2 with superseded := acc.2.superseded + 1} else acc.2)
  else if shouldMarkClaimedAssignmentApplied a plane (findObservationForNode observations a.nodeName) then
    (transitionClaimedHostAssignment now acc.1 a.id .applied appliedMessage,
      if transitions acc.1 a.id then {acc.2 with applied := acc.2.applied + 1} else acc.2)
  else acc

def reconcilePlane (claimed : List HostAssignment) (acc : Table × Result) (planeName : String) : Table × Result :=
  let plane := loadPlane planes planeName
  let latest := buildLatestAssignmentsByNode (loadHostAssignments acc.1 none none (some planeName))
  claimed.foldl (reconcileAssignment now observations planeName plane latest) acc

def reconcile (t : Table) (planeName : Option String) : Table × Result :=
  let claimed := loadClaimedApplyAssignments t planeName
  (buildPlaneNames claimed).foldl (reconcilePlane now planes observations claimed) (t,{})

end Service

def rowKeys (t : Table) : List (ℕ × String × String) := t.rows.map fun r => (r.id,r.nodeName,r.planeName)

def Replaced (t : Table) (a : HostAssignment) : Prop :=
  ∃ key ∈ rowKeys t, key.2 = (a.nodeName,a.planeName) ∧ a.id < key.1

instance (t : Table) (a : HostAssignment) : Decidable (Replaced t a) :=
  inferInstanceAs (Decidable (∃ key ∈ rowKeys t, _))

variable {t t' : Table} {a : HostAssignment} {planeName nodeName : String}

def IsLatest (seen : List HostAssignment) (nodeName : String) : Option HostAssignment → Prop
  | none => ∀ b ∈ seen, b.nodeName ≠ nodeName
  | some kept => kept ∈ seen ∧ kept.nodeName = nodeName ∧ ∀ b ∈ seen, b.nodeName = nodeName → b.id ≤ kept.id

lemma lookup_keepLatest (latest : List (String × HostAssignment)) (a : HostAssignment) (nodeName : String) :
    (keepLatest latest a).lookup nodeName = if a.nodeName = nodeName then
      some ((latest.lookup nodeName).elim a fun kept => if a.id > kept.id then a else kept)
    else latest.lookup nodeName := by
  unfold keepLatest
  by_cases hnode : a.nodeName = nodeName
  · subst hnode
    cases hlookup : latest.lookup a.nodeName with
    | none => simp [Assoc.lookup_set]
    | some kept => by_cases hid : a.id > kept.id <;> simp [Assoc.lookup_set,hid,hlookup]
  · have hset : (Assoc.set latest a.nodeName a).lookup nodeName = latest.lookup nodeName := by
      rw [Assoc.lookup_set,if_neg (Ne.symm hnode)]
    rw [if_neg hnode]
    split
    · exact hset
    · split
      · exact hset
      · rfl

lemma IsLatest.keepLatest (h : IsLatest seen nodeName (latest.lookup nodeName)) (a : HostAssignment) :
    IsLatest (seen ++ [a]) nodeName ((keepLatest latest a).lookup nodeName) := by
  rw [lookup_keepLatest]
  cases hlookup : latest.lookup nodeName with
  | none =>
    rw [hlookup] at h
    by_cases hnode : a.nodeName = nodeName
    · rw [if_pos hnode]
      refine ⟨by simp,hnode,?_⟩
      simp only [mem_append,mem_singleton]
      rintro b (hb | rfl) hb'
      · exact absurd hb' (h b hb)
      · exact le_rfl
    · rw [if_neg hnode]
      simp only [IsLatest,mem_append,mem_singleton]
      rintro b (hb | rfl)
      · exact h b hb
      · exact hnode
  | some kept =>
    rw [hlookup] at h
    obtain ⟨hmem,hkept,hmax⟩ := h
    by_cases hnew : a.nodeName = nodeName ∧ a.id > kept.id
    · rw [if_pos hnew.1,elim_some,if_pos hnew.2]
      refine ⟨by simp,hnew.1,?_⟩
      simp only [mem_append,mem_singleton]
      rintro b (hb | rfl) hb'
      · exact (hmax b hb hb').trans hnew.2.le
      · exact le_rfl
    · have hstays : (if a.nodeName = nodeName then some (if a.id > kept.id then a else kept) else some kept) =
        some kept := by
        by_cases hnode : a.nodeName = nodeName
        · rw [if_pos hnode,if_neg fun hid => hnew ⟨hnode,hid⟩]
        · rw [if_neg hnode]
      rw [elim_some,hstays]
      refine ⟨by simp [hmem],hkept,?_⟩
      simp only [mem_append,mem_singleton]
      rintro b (hb | rfl) hb'
      · exact hmax b hb hb'
      · exact not_lt.1 fun hid => hnew ⟨hb',hid⟩

lemma isLatest_build (assignments : List HostAssignment) (nodeName : String) :
    IsLatest assignments nodeName ((buildLatestAssignmentsByNode assignments).lookup nodeName) := by
  -- the list seen so far grows along the fold
  have hfold : ∀ (l seen : List HostAssignment) (latest : List (String × HostAssignment)),
      IsLatest seen nodeName (latest.lookup nodeName) →
      IsLatest (seen ++ l) nodeName ((l.foldl keepLatest latest).lookup nodeName) := by
    intro l
    induction l with
    | nil => simp
    | cons a l ih =>
      intro seen latest h
      simpa using ih (seen ++ [a]) (keepLatest latest a) (h.keepLatest a)
  exact hfold assignments [] [] (by simp [IsLatest])

lemma shouldSupersede_iff (hmem : (a.id,a.nodeName,a.planeName) ∈ rowKeys t) :
    shouldSupersedeClaimedAssignment a
      (buildLatestAssignmentsByNode (loadHostAssignments t none none (some a.planeName))) = true ↔ Replaced t a := by
  have hkeys : ∀ id nodeName, (id,nodeName,a.planeName) ∈ rowKeys t ↔
      ∃ b ∈ loadHostAssignments t none none (some a.planeName), b.id = id ∧ b.nodeName = nodeName := by
    intro id nodeName
    simp [rowKeys,loadHostAssignments,and_assoc,and_comm,and_left_comm]
  obtain ⟨b,hb,hid,hnode⟩ := (hkeys _ _).1 hmem
  have hlatest := isLatest_build (loadHostAssignments t none none (some a.planeName)) a.nodeName
  unfold shouldSupersedeClaimedAssignment
  cases hlookup : (buildLatestAssignmentsByNode (loadHostAssignments t none none (some a.planeName))).lookup
    a.nodeName with
  | none =>
    rw [hlookup] at hlatest
    exact absurd hnode (hlatest b hb)
  | some kept =>
    rw [hlookup] at hlatest
    obtain ⟨hkept,hkeptNode,hmax⟩ := hlatest
    have hle := hmax b hb hnode
    simp only [decide_eq_true_eq,Replaced]
    constructor
    · intro hne
      exact ⟨(kept.id,kept.nodeName,a.planeName),(hkeys _ _).2 ⟨kept,hkept,rfl,rfl⟩,by rw [hkeptNode],
        by dsimp only; omega⟩
    · rintro ⟨⟨id,key⟩,hkey,rfl,hlt⟩
      obtain ⟨c,hc,rfl,hcNode⟩ := (hkeys _ _).1 hkey
      have := hmax c hc hcNode
      omega

section Pass

variable (now : ℤ) (planes : List PlaneRecord) (observations : List HostObservation) {acc : Table × Result}
  {scope : Option String} {r : Row} {v : HostAssignmentStatus × String}

def verdict (t : Table) (a : HostAssignment) : Option (HostAssignmentStatus × String) :=
  if Replaced t a then some (.superseded,supersededMessage)
  else if shouldMarkClaimedAssignmentApplied a (loadPlane planes a.planeName)
      (findObservationForNode observations a.nodeName) then some (.applied,appliedMessage)
  else none

def command (t : Table) (a : HostAssignment) : Option (ℕ × HostAssignmentStatus × String) :=
  (verdict planes observations t a).map fun v => (a.id,v)

def perform (t : Table) (c : ℕ × HostAssignmentStatus × String) : Table :=
  transitionClaimedHostAssignment now t c.1 c.2.1 c.2.2

def commands (t : Table) (planeName : Option String) : List (ℕ × HostAssignmentStatus × String) :=
  let claimed := loadClaimedApplyAssignments t planeName
  (buildPlaneNames claimed).flatMap fun name =>
    (claimed.filter (·.planeName = name)).filterMap (command planes observations t)

lemma rowKeys_performs (cs : List (ℕ × HostAssignmentStatus × String)) :
    rowKeys (cs.foldl (perform now) t) = rowKeys t := by
  induction cs generalizing t with
  | nil => rfl
  | cons c cs ih =>
    rw [foldl_cons,ih]
    exact map_updateWhere fun _ => rfl

lemma replaced_congr (h : rowKeys t' = rowKeys t) (a : HostAssignment) : Replaced t' a ↔ Replaced t a := by
  rw [Replaced,Replaced,h]

lemma reconcileAssignment_table (hkeys : rowKeys t' = rowKeys t) (hmem : (a.id,a.nodeName,a.planeName) ∈ rowKeys t) :
    (reconcileAssignment now observations planeName (loadPlane planes planeName)
      (buildLatestAssignmentsByNode (loadHostAssignments t' none none (some planeName))) acc a).1 =
    if a.planeName = planeName then (command planes observations t a).elim acc.1 (perform now acc.1) else acc.1 := by
  unfold reconcileAssignment
  by_cases hplane : a.planeName = planeName
  · subst hplane
    have hsupersede := (shouldSupersede_iff (hkeys ▸ hmem)).trans (replaced_congr hkeys a)
    rw [if_neg (by simp),if_pos rfl,command,verdict]
    by_cases hreplaced : Replaced t a
    · rw [if_pos (hsupersede.2 hreplaced),if_pos hreplaced]
      rfl
    · rw [if_neg (mt hsupersede.1 hreplaced),if_neg hreplaced]
      split <;> rfl
  · rw [if_pos hplane,if_neg hplane]

lemma reconcilePlane_table (claimed : List HostAssignment) (planeName : String) (hkeys : rowKeys acc.1 = rowKeys t)
    (hclaimed : ∀ a ∈ claimed, (a.id,a.nodeName,a.planeName) ∈ rowKeys t) :
    (reconcilePlane now planes observations claimed acc planeName).1 =
      ((claimed.filter (·.planeName = planeName)).filterMap (command planes observations t)).foldl
        (perform now) acc.1 := by
  unfold reconcilePlane
  -- the map of the latest assignments is the one of the table before the loop
  generalize hlatest : buildLatestAssignmentsByNode (loadHostAssignments acc.1 none none (some planeName)) = latest
  have hround : ∀ (acc' : Table × Result) a, a ∈ claimed →
      (reconcileAssignment now observations planeName (loadPlane planes planeName) latest acc' a).1 =
      if a.planeName = planeName then (command planes observations t a).elim acc'.1 (perform now acc'.1) else
        acc'.1 := by
    intro acc' a ha
    rw [← hlatest]
    exact reconcileAssignment_table now planes observations hkeys (hclaimed a ha)
  clear hlatest hclaimed hkeys
  induction claimed generalizing acc with
  | nil => rfl
  | cons a claimed ih =>
    rw [foldl_cons,ih fun acc' b hb => hround acc' b (by simp [hb]),hround acc a (by simp)]
    by_cases hplane : a.planeName = planeName
    · cases hcommand : command planes observations t a <;> simp [hplane,hcommand]
    · simp [hplane]

lemma mem_rowKeys_of_claimed (h : a ∈ loadClaimedApplyAssignments t scope) :
    (a.id,a.nodeName,a.planeName) ∈ rowKeys t := by
  simp only [loadClaimedApplyAssignments,loadHostAssignments,mem_filter,mem_map] at h
  obtain ⟨⟨r,⟨hr,-⟩,rfl⟩,-⟩ := h
  exact mem_map_of_mem hr

lemma reconcile_table (t : Table) (scope : Option String) :
    (reconcile now planes observations t scope).1 = (commands planes observations t scope).foldl (perform now) t := by
  unfold reconcile commands
  rw [foldl_flatMap]
  have hplanes : ∀ (names : List String) (acc : Table × Result), rowKeys acc.1 = rowKeys t →
      (names.foldl (reconcilePlane now planes observations (loadClaimedApplyAssignments t scope)) acc).1 =
      names.foldl (fun t₁ name => (((loadClaimedApplyAssignments t scope).filter (·.planeName = name)).filterMap
        (command planes observations t)).foldl (perform now) t₁) acc.1 := by
    intro names
    induction names with
    | nil => exact fun acc _ => rfl
    | cons name names ih =>
      intro acc hkeys
      have hplane := reconcilePlane_table now planes observations (loadClaimedApplyAssignments t scope) name hkeys
        fun a ha => mem_rowKeys_of_claimed ha
      rw [foldl_cons,foldl_cons,ih _ (by rw [hplane,rowKeys_performs,hkeys]),hplane]
  exact hplanes _ _ rfl

lemma mem_commands :
    c ∈ commands planes observations t scope ↔
      ∃ a ∈ loadClaimedApplyAssignments t scope, a.id = c.1 ∧ verdict planes observations t a = some c.2 := by
  simp only [commands,mem_flatMap,mem_filterMap,mem_filter,buildPlaneNames,mem_sortedSet,mem_map,
    command,map_eq_some_iff,decide_eq_true_eq]
  constructor
  · rintro ⟨_,-,a,⟨ha,-⟩,v,hv,rfl⟩
    exact ⟨a,ha,rfl,hv⟩
  · rintro ⟨a,ha,hid,hv⟩
    exact ⟨a.planeName,⟨a,ha,rfl⟩,a,⟨ha,rfl⟩,c.2,hv,by rw [hid]⟩

def settleRow (r : Row) (c : ℕ × HostAssignmentStatus × String) : Row :=
  if r.id = c.1 ∧ r.status = .claimed then {r with status := c.2.1, statusMessage := c.2.2, updatedAt := now} else r

lemma rows_performs (cs : List (ℕ × HostAssignmentStatus × String)) (t : Table) :
    (cs.foldl (perform now) t).rows = t.rows.map fun r => cs.foldl (settleRow now) r := by
  induction cs generalizing t with
  | nil => simp
  | cons c cs ih =>
    rw [foldl_cons,ih]
    simp [perform,transitionClaimedHostAssignment,Table.update,updateWhere,settleRow]

lemma foldl_settleRow_of_ne {cs : List (ℕ × HostAssignmentStatus × String)} (h : r.status ≠ .claimed) :
    cs.foldl (settleRow now) r = r := by
  induction cs with
  | nil => rfl
  | cons c cs ih => rw [foldl_cons,settleRow,if_neg fun hc => h hc.2,ih]

lemma foldl_settleRow {cs : List (ℕ × HostAssignmentStatus × String)} (hcs : ∀ c ∈ cs, c.2.1 ≠ .claimed)
    (h : r.status = .claimed) : cs.foldl (settleRow now) r = (cs.find? (·.1 = r.id)).elim r (settleRow now r) := by
  induction cs with
  | nil => rfl
  | cons c cs ih =>
    rw [forall_mem_cons] at hcs
    by_cases hid : c.1 = r.id
    · have hsettled : (settleRow now r c).status ≠ .claimed := by
        rw [settleRow,if_pos ⟨hid.symm,h⟩]
        exact hcs.1
      rw [foldl_cons,foldl_settleRow_of_ne now hsettled,find?_cons_of_pos (by simpa using hid)]
      rfl
    · rw [foldl_cons,settleRow,if_neg fun hc => hid hc.1.symm,ih hcs.2,find?_cons_of_neg (by simpa using hid)]

lemma verdict_ne_claimed (h : verdict planes observations t a = some v) : v.1 ≠ .claimed := by
  unfold verdict at h
  split at h
  · obtain rfl := some.inj h
    decide
  · split at h
    · obtain rfl := some.inj h
      decide
    · simp at h

lemma commands_ne_claimed (scope : Option String) : ∀ c ∈ commands planes observations t scope, c.2.1 ≠ .claimed := by
  intro c hc
  obtain ⟨a,-,-,hv⟩ := (mem_commands planes observations).1 hc
  exact verdict_ne_claimed planes observations hv

/-- A row changes only if it was claimed, and then for a reason. -/
def Justified (t : Table) (r r' : Row) : Prop :=
  r' = r ∨ r.status = .claimed ∧
    (r' = {r with status := .applied, statusMessage := appliedMessage, updatedAt := now} ∧
        (∃ o ∈ observations, o.nodeName = r.nodeName ∧ o.planeName = r.planeName ∧
          ∃ generation, o.appliedGeneration = some generation ∧ r.desiredGeneration ≤ generation) ∨
      r' = {r with status := .superseded, statusMessage := supersededMessage, updatedAt := now} ∧
        ∃ newer ∈ t.rows, newer.nodeName = r.nodeName ∧ newer.planeName = r.planeName ∧ r.id < newer.id)

lemma justified_settled (hr : r.status = .claimed) (hv : verdict planes observations t r.toHostAssignment = some v) :
    Justified now observations t r (settleRow now r (r.id,v)) := by
  rw [settleRow,if_pos ⟨rfl,hr⟩]
  unfold verdict at hv
  split at hv
  next hreplaced =>
    obtain rfl := some.inj hv
    obtain ⟨key,hkey,heq,hlt⟩ := hreplaced
    obtain ⟨newer,hnewer,rfl⟩ := mem_map.1 hkey
    simp only [Prod.mk.injEq] at heq
    exact .inr ⟨hr,.inr ⟨rfl,newer,hnewer,heq.1,heq.2,hlt⟩⟩
  · split at hv
    next hmarked =>
      obtain rfl := some.inj hv
      simp only [shouldMarkClaimedAssignmentApplied,Bool.and_eq_true,Option.any_eq_true,decide_eq_true_eq] at hmarked
      obtain ⟨-,o,ho,⟨⟨hplane,-⟩,-⟩,generation,hgeneration,hle⟩ := hmarked
      have hnode := find?_some ho
      exact .inr ⟨hr,.inl ⟨rfl,o,mem_of_find?_eq_some ho,by simpa using hnode,hplane,generation,hgeneration,hle⟩⟩
    · simp at hv

lemma mem_claimed_iff : a ∈ loadClaimedApplyAssignments t scope ↔
    ∃ r ∈ t.rows, r.toHostAssignment = a ∧ r.status = .claimed ∧ r.assignmentType = "apply-node-state" ∧
      scope.all (r.planeName = ·) = true := by
  simp only [loadClaimedApplyAssignments,loadHostAssignments,mem_filter,mem_map,all_none,all_some,
    Bool.true_and,Bool.and_eq_true,decide_eq_true_eq]
  constructor
  · rintro ⟨⟨r,⟨hr,hstatus,hscope⟩,rfl⟩,htype⟩
    exact ⟨r,hr,rfl,hstatus,htype,hscope⟩
  · rintro ⟨r,hr,rfl,hstatus,htype,hscope⟩
    exact ⟨⟨r,⟨hr,hstatus,hscope⟩,rfl⟩,htype⟩

lemma rows_justified (hnodup : (t.rows.map (·.id)).Nodup) (scope : Option String) :
    Forall₂ (Justified now observations t) t.rows (reconcile now planes observations t scope).1.rows := by
  rw [reconcile_table,rows_performs,forall₂_map_right_iff,forall₂_same]
  intro r hr
  by_cases hstatus : r.status = .claimed
  · rw [foldl_settleRow now (commands_ne_claimed planes observations scope) hstatus]
    cases hfind : (commands planes observations t scope).find? fun c => c.1 = r.id with
    | none => exact .inl rfl
    | some c =>
      obtain ⟨a,ha,hid,hv⟩ := (mem_commands planes observations).1 (mem_of_find?_eq_some hfind)
      obtain ⟨r₁,hr₁,rfl,-⟩ := mem_claimed_iff.1 ha
      have hc : c.1 = r.id := by simpa using find?_some hfind
      obtain rfl : r₁ = r := inj_on_of_nodup_map hnodup hr₁ hr (hid.trans hc)
      obtain ⟨id,v⟩ := c
      subst hid
      exact justified_settled now planes observations hstatus hv
  · rw [foldl_settleRow_of_ne now hstatus]
    exact .inl rfl

lemma reconcile_eq_self (h : ∀ a ∈ loadClaimedApplyAssignments t scope, verdict planes observations t a = none) :
    reconcile now planes observations t scope = (t,{}) := by
  have hround : ∀ planeName, ∀ a ∈ loadClaimedApplyAssignments t scope,
      reconcileAssignment now observations planeName (loadPlane planes planeName)
        (buildLatestAssignmentsByNode (loadHostAssignments t none none (some planeName))) (t,{}) a = (t,{}) := by
    intro planeName a ha
    have hsupersede := shouldSupersede_iff (mem_rowKeys_of_claimed ha)
    have hv := h a ha
    unfold verdict at hv
    unfold reconcileAssignment
    by_cases hplane : a.planeName = planeName
    · subst hplane
      by_cases hreplaced : Replaced t a
      · simp [hreplaced] at hv
      · rw [if_neg (by simp),if_neg (mt hsupersede.1 hreplaced)]
        rw [if_neg hreplaced] at hv
        split at hv
        · simp at hv
        next hmarked => rw [if_neg hmarked]
    · rw [if_pos hplane]
  have hplane : ∀ planeName, reconcilePlane now planes observations (loadClaimedApplyAssignments t scope) (t,{})
      planeName = (t,{}) :=
    fun planeName => foldl_eq_self (hround planeName)
  exact foldl_eq_self fun planeName _ => hplane planeName

lemma verdict_after (ha : a ∈ loadClaimedApplyAssignments (reconcile now planes observations t scope).1 scope) :
    verdict planes observations (reconcile now planes observations t scope).1 a = none := by
  have hkeys : rowKeys (reconcile now planes observations t scope).1 = rowKeys t := by
    rw [reconcile_table,rowKeys_performs]
  simp only [verdict,replaced_congr hkeys]
  obtain ⟨r',hr',rfl,hstatus,htype,hscope⟩ := mem_claimed_iff.1 ha
  rw [reconcile_table,rows_performs] at hr'
  obtain ⟨r,hr,rfl⟩ := mem_map.1 hr'
  by_cases hclaimed : r.status = .claimed
  · rw [foldl_settleRow now (commands_ne_claimed planes observations scope) hclaimed] at hstatus htype hscope ⊢
    cases hfind : (commands planes observations t scope).find? fun c => c.1 = r.id with
    | none =>
      rw [hfind,elim_none] at htype hscope
      by_contra hv
      obtain ⟨v,hv⟩ := ne_none_iff_exists'.1 hv
      have hmem := mem_claimed_iff.2 ⟨r,hr,rfl,hclaimed,htype,hscope⟩
      have hcommand : (r.id,v) ∈ commands planes observations t scope :=
        (mem_commands planes observations).2 ⟨_,hmem,rfl,hv⟩
      exact find?_eq_none.1 hfind _ hcommand (by simp)
    | some c =>
      have hne := commands_ne_claimed planes observations scope c (mem_of_find?_eq_some hfind)
      have hc : c.1 = r.id := by simpa using find?_some hfind
      rw [hfind,elim_some,settleRow,if_pos ⟨hc.symm,hclaimed⟩] at hstatus
      exact absurd hstatus hne
  · rw [foldl_settleRow_of_ne now hclaimed] at hstatus
    exact absurd hstatus hclaimed

end Pass

/-- Every change of a pass is justified, and a second pass changes nothing. -/
theorem reconcile_justified (now now' : ℤ) (planes : List PlaneRecord) (observations : List HostObservation) (t : Table)
    (scope : Option String) (hnodup : (t.rows.map (·.id)).Nodup) :
    List.Forall₂ (Justified now observations t) t.rows (reconcile now planes observations t scope).1.rows ∧
      reconcile now' planes observations (reconcile now planes observations t scope).1 scope =
        ((reconcile now planes observations t scope).1,{}) :=
  ⟨rows_justified now planes observations hnodup scope,
    reconcile_eq_self now' planes observations fun _ ha => verdict_after now planes observations ha⟩

def replacedTable (status : HostAssignmentStatus) : Table where
  rows := [
    {id := 1, nodeName := "node-a", planeName := "demo", desiredGeneration := 1, assignmentType := "apply-node-state",
      status := .claimed, updatedAt := 0},
    {id := 2, nodeName := "node-a", planeName := "demo", desiredGeneration := 1, assignmentType := "apply-node-state",
      status, updatedAt := 0}]
  nextId := 3

theorem reconcile_justified_replaced :
    List.Forall₂ (Justified 5 [] (replacedTable .pending)) (replacedTable .pending).rows
        (reconcile 5 [⟨"demo",0⟩] [] (replacedTable .pending) none).1.rows ∧
      reconcile 6 [⟨"demo",0⟩] [] (reconcile 5 [⟨"demo",0⟩] [] (replacedTable .pending) none).1 none =
        ((reconcile 5 [⟨"demo",0⟩] [] (replacedTable .pending) none).1,{}) :=
  reconcile_justified 5 6 [⟨"demo",0⟩] [] (replacedTable .pending) none (by decide)

/-- The newer assignment has failed, and the claimed one is superseded all the same. -/
theorem superseded_by_failed :
    (reconcile 5 [⟨"demo",0⟩] [] (replacedTable .failed) none).1.rows.map (fun r => (r.id,r.status)) =
      [(1,.superseded),(2,.failed)] := by
  decide +kernel

end Naim.Reconciliation
