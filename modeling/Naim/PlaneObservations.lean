import Naim.Assignments
import Naim.RuntimeSupport

/-!
# The observations of a plane

A host reports once for its node, and several planes may share the node. The controller
tells the observations of a plane by the plane that they name, by what their observed
state holds and by the names of the running instances. It reads from them how far the
plane is and whether anything is left of it.
-/

namespace Naim.PlaneObservations

open Assignments Checked List RuntimeSupport

structure Reader where
  deserializeDesiredStateJson : String → Checked DesiredState
  deserializeRuntimeStatusListJson : String → Checked (List String)

def runtimeInstancePrefixes : List String := ["infer-","worker-","skills-","app-","webgateway-","browsing-"]

def matchesPlaneInstanceName (instanceName planeName : String) (planeInstanceNames : List String) : Bool :=
  planeName = "" ||
    if planeInstanceNames ≠ [] then instanceName ∈ planeInstanceNames
    else runtimeInstancePrefixes.any fun kind =>
      instanceName = kind ++ planeName || (kind ++ planeName ++ "-").toList.isPrefixOf instanceName.toList

def filterObservedStateForPlane (observed : DesiredState) (planeName : String) : DesiredState :=
  let instances := observed.instances.filter (·.planeName = planeName)
  let names := instances.map (·.name)
  {observed with
    planeName, disks := observed.disks.filter (·.planeName = planeName), instances
    workerGroup := {observed.workerGroup with
      members := observed.workerGroup.members.filter fun m =>
        matchesPlaneInstanceName m.name planeName names || matchesPlaneInstanceName m.inferInstanceName planeName names}
    runtimeGpuNodes := observed.runtimeGpuNodes.filter fun g => matchesPlaneInstanceName g.name planeName names}

def hasPlaneEntities (s : DesiredState) : Bool :=
  s.instances ≠ [] || s.disks ≠ [] || s.workerGroup.members ≠ [] || s.runtimeGpuNodes ≠ []

section Matcher

variable (r : Reader)

variable (check : HostObservation → Bool) (planeName : String) (stored : ℤ) (desired : Option DesiredState)
  (generation : Option ℤ) (observations : List HostObservation)

def parseObservedStateForPlane (o : HostObservation) (planeName : String) : Checked (Option DesiredState) :=
  if o.observedStateJson = "" then .ok none
  else do
    let observed ← r.deserializeDesiredStateJson o.observedStateJson
    let filtered := filterObservedStateForPlane observed planeName
    return if observed.planeName = planeName || hasPlaneEntities filtered then some filtered else none

def statusNames (o : HostObservation) : List String :=
  if o.instanceRuntimeJson = "" then []
  else (r.deserializeRuntimeStatusListJson o.instanceRuntimeJson).toOption.getD []

def observationMatchesPlane (o : HostObservation) (planeName : String) : Checked Bool :=
  if o.planeName = planeName then .ok true
  else do
    let observed ← parseObservedStateForPlane r o planeName
    return observed.isSome || (statusNames r o).any fun name => matchesPlaneInstanceName name planeName []

def filterHostObservationsForPlane (planeName : String) : Checked (List HostObservation) :=
  List.flatten <$> observations.mapM fun o => do
    let keep ← observationMatchesPlane r o planeName
    return if keep then [o] else []

/-- The loop of the registry and of the dashboard, where an observation must also pass a check. -/
def allReport (state : DesiredState) (target : ℤ) (observations : List HostObservation) : Bool :=
  state.nodes.all fun node => (findHostObservationForNode observations node.name).any fun o =>
    check o && o.appliedGeneration.any (target ≤ ·) && o.status ≠ .failed

def effectiveAppliedGeneration : ℤ :=
  match desired,generation with
  | some state,some target =>
    if target ≤ stored then stored
    else if allReport check state target observations then target
    else stored
  | _,_ => stored

/-- `ComputeEffectiveAppliedGeneration`, on the observations that the registry takes for those of the plane. -/
def registryAppliedGeneration : Checked ℤ :=
  effectiveAppliedGeneration (fun _ => true) stored desired generation <$>
    filterHostObservationsForPlane r observations planeName

/-- `ComputeEffectivePlaneAppliedGeneration`, which looks at the plane that an observation names. -/
def dashboardAppliedGeneration : Checked ℤ :=
  effectiveAppliedGeneration (·.planeName = planeName) stored desired generation <$>
    filterHostObservationsForPlane r observations planeName

/-- The two agree, and what exceeds the stored generation is backed by observations that name the plane. -/
def OwnProgress : Prop :=
  registryAppliedGeneration r planeName stored desired generation observations =
      dashboardAppliedGeneration r planeName stored desired generation observations ∧
    ∀ effective, registryAppliedGeneration r planeName stored desired generation observations = .ok effective →
      stored < effective → ∀ state target, desired = some state → generation = some target → ∀ node ∈ state.nodes,
        ∃ o ∈ observations, o.nodeName = node.name ∧ o.planeName = planeName ∧
          o.appliedGeneration.any (target ≤ ·) = true

/-- A new generation that the matched observations of all nodes report is not reported for another plane. -/
def Unborrowed : Prop :=
  ∀ state target matched, desired = some state → generation = some target → stored < target →
    filterHostObservationsForPlane r observations planeName = .ok matched →
    (∀ node ∈ state.nodes, ∃ o, findHostObservationForNode matched node.name = some o ∧
      o.appliedGeneration.any (target ≤ ·) = true ∧ o.status ≠ .failed) →
    ∀ node ∈ state.nodes, ∀ o, findHostObservationForNode matched node.name = some o → o.planeName = planeName

end Matcher

variable {r : Reader} {observations matched : List HostObservation} {planeName : String} {state s : DesiredState}

lemma mem_of_filter (h : filterHostObservationsForPlane r observations planeName = .ok matched) (ho : o ∈ matched) :
    o ∈ observations := by
  obtain ⟨rounds,hrounds,rfl⟩ := map_eq_ok.1 h
  obtain ⟨round,hround,ho⟩ := mem_flatten.1 ho
  obtain ⟨a,ha,heq⟩ := mapM_mem_right hrounds hround
  simp only [bind_eq_ok,pure_eq_ok] at heq
  obtain ⟨keep,-,rfl⟩ := heq
  cases keep with
  | false => simp at ho
  | true => exact mem_singleton.1 ho ▸ ha

lemma allReport_iff {check : HostObservation → Bool} :
    allReport check state target observations = true ↔ ∀ node ∈ state.nodes, ∃ o,
      findHostObservationForNode observations node.name = some o ∧ check o = true ∧
        o.appliedGeneration.any (target ≤ ·) = true ∧ o.status ≠ .failed := by
  simp only [allReport,all_eq_true,Option.any_eq_true,Bool.and_eq_true,decide_eq_true_eq,and_assoc]

/-- The registry follows the dashboard exactly where no observation of another plane fills in. -/
theorem ownProgress_iff_unborrowed (r : Reader) (planeName : String) (stored : ℤ) (desired : Option DesiredState)
    (generation : Option ℤ) (observations : List HostObservation) :
    OwnProgress r planeName stored desired generation observations ↔
      Unborrowed r planeName stored desired generation observations := by
  constructor
  · rintro ⟨hsame,-⟩ state target matched rfl rfl hnew hfilter hall node hnode o ho
    have hregistry : allReport (fun _ => true) state target matched = true := allReport_iff.2 (by simpa using hall)
    simp only [registryAppliedGeneration,dashboardAppliedGeneration,hfilter,map_ok,effectiveAppliedGeneration,
      if_neg (not_le.2 hnew),hregistry,if_true,Except.ok.injEq] at hsame
    split at hsame
    next hdashboard =>
      obtain ⟨o',ho',hname,-⟩ := allReport_iff.1 hdashboard node hnode
      obtain rfl := Option.some.inj (ho.symm.trans ho')
      simpa using hname
    · exact absurd hsame hnew.ne'
  · intro h
    unfold OwnProgress registryAppliedGeneration dashboardAppliedGeneration
    cases hfilter : filterHostObservationsForPlane r observations planeName with
    | error e => exact ⟨rfl,fun _ herror => by cases herror⟩
    | ok matched =>
      simp only [map_ok,Except.ok.injEq]
      -- the two loops can only differ in the plane that an observation names
      have hloops : ∀ state target, desired = some state → generation = some target → stored < target →
          allReport (fun _ => true) state target matched =
            allReport (·.planeName = planeName) state target matched := by
        intro state target hstate htarget hnew
        rw [Bool.eq_iff_iff,allReport_iff,allReport_iff]
        constructor
        · intro hall node hnode
          obtain ⟨o,ho,-,hreport⟩ := hall node hnode
          have hown := h state target matched hstate htarget hnew hfilter (by simpa using hall) node hnode o ho
          exact ⟨o,ho,by simpa using hown,hreport⟩
        · intro hall node hnode
          obtain ⟨o,ho,-,hreport⟩ := hall node hnode
          exact ⟨o,ho,rfl,hreport⟩
      constructor
      · unfold effectiveAppliedGeneration
        split
        next state target =>
          by_cases hold : target ≤ stored
          · rw [if_pos hold,if_pos hold]
          · rw [hloops state target rfl rfl (not_le.1 hold)]
        · rfl
      · rintro _ rfl hlt state target rfl rfl node hnode
        simp only [effectiveAppliedGeneration] at hlt
        split_ifs at hlt with hold hall
        · exact absurd hlt (lt_irrefl _)
        · rw [hloops state target rfl rfl hlt] at hall
          obtain ⟨o,ho,hname,happlied,-⟩ := allReport_iff.1 hall node hnode
          exact ⟨o,mem_of_filter hfilter (mem_of_find?_eq_some ho),by simpa using List.find?_some ho,
            by simpa using hname,happlied⟩
        · exact absurd hlt (lt_irrefl _)

def sharedHost : HostObservation where
  nodeName := "node-a"
  planeName := "beta"
  appliedGeneration := some 9
  status := .applied
  instanceRuntimeJson := "=worker-alpha-0"

def plainReader : Reader where
  deserializeDesiredStateJson _ := fail "no state"
  deserializeRuntimeStatusListJson text := .ok [String.ofList (text.toList.drop 1)]

theorem progress_borrowed :
    ¬ OwnProgress plainReader "alpha" 4 (some {planeName := "alpha", nodes := [{name := "node-a"}]})
      (some 5) [sharedHost] := by
  rintro ⟨hsame,-⟩
  revert hsame
  decide +kernel

section Deletion

variable (r : Reader)

/-- A disk or an instance of the plane is still observed; a state that does not parse may hold anything. -/
def observesPlane (o : HostObservation) (planeName : String) : Bool :=
  o.observedStateJson ≠ "" && match r.deserializeDesiredStateJson o.observedStateJson with
    | .ok observed => observed.disks.any (·.planeName = planeName) || observed.instances.any (·.planeName = planeName)
    | .error _ => true

def observationBlocksPlaneDeletion (o : HostObservation) (planeName : String) : Checked Bool := do
  let isMatch ← observationMatchesPlane r o planeName
  return isMatch && (o.status ≠ .idle || observesPlane r o planeName)

def canFinalizeDeletedPlane (t : Table) (observations : List HostObservation) (planeName : String) : Checked Bool :=
  if loadHostAssignments t none (some .pending) (some planeName) ≠ [] ∨
      loadHostAssignments t none (some .claimed) (some planeName) ≠ [] then .ok false
  else Bool.not <$> observations.anyM fun o => observationBlocksPlaneDeletion r o planeName

def without (planeName : String) (s : DesiredState) : DesiredState :=
  {s with
    instances := s.instances.filter (·.planeName ≠ planeName)
    disks := s.disks.filter (·.planeName ≠ planeName)}

def Reads (o : HostObservation) (s : DesiredState) : Prop :=
  o.observedStateJson ≠ "" ∧ r.deserializeDesiredStateJson o.observedStateJson = .ok s

/-- The observed state is missing, or it is not one of `p` and holds nothing but instances and disks of `q`. -/
def HoldsOnly (p q : String) (o : HostObservation) : Prop :=
  o.observedStateJson = "" ∨ ∃ s, Reads r o s ∧ s.planeName ≠ p ∧ hasPlaneEntities (without q s) = false

/-- Instances, disks and runtime statuses of the plane `q` come or go, the statuses with names of a given kind, and
only in an observation that does not name `p`. -/
structure Shares (p q : String) (named : String → Bool) (o o' : HostObservation) : Prop where
  columns : o' = {o with observedStateJson := o'.observedStateJson, instanceRuntimeJson := o'.instanceRuntimeJson}
  foreign : o' = o ∨ o.planeName ≠ p
  states : o'.observedStateJson = o.observedStateJson ∨
    (∃ s s', Reads r o s ∧ Reads r o' s' ∧ without q s = without q s') ∨ HoldsOnly r p q o ∧ HoldsOnly r p q o'
  statuses : (statusNames r o).filter (!named ·) = (statusNames r o').filter (!named ·)

end Deletion

section Independence

variable {p q : String} {named : String → Bool} {o o' : HostObservation}

lemma filterObservedState_without (hpq : p ≠ q) (s : DesiredState) :
    filterObservedStateForPlane (without q s) p = filterObservedStateForPlane s p := by
  have hown : ∀ name : String, (decide (name = p) && decide (name ≠ q)) = decide (name = p) := by
    intro name
    by_cases hname : name = p <;> simp [hname,hpq]
  simp only [filterObservedStateForPlane,without,filter_filter,hown]

lemma shown_of_reads (h : Reads r o s) :
    Option.isSome <$> parseObservedStateForPlane r o p =
        .ok (s.planeName = p || hasPlaneEntities (filterObservedStateForPlane s p)) ∧
      observesPlane r o p = ((filterObservedStateForPlane s p).disks ≠ [] ||
        (filterObservedStateForPlane s p).instances ≠ [] : Bool) := by
  constructor
  · rw [parseObservedStateForPlane,if_neg h.1,h.2,ok_bind]
    dsimp only
    split <;> simp_all
  · rw [Bool.eq_iff_iff]
    simp [observesPlane,h.1,h.2,filterObservedStateForPlane,filter_eq_nil_iff]

lemma shown_of_holdsOnly (hpq : p ≠ q) (h : HoldsOnly r p q o) :
    Option.isSome <$> parseObservedStateForPlane r o p = .ok false ∧ observesPlane r o p = false := by
  rcases h with hempty | ⟨s,hs,hplane,hnone⟩
  · rw [parseObservedStateForPlane,observesPlane,hempty]
    exact ⟨rfl,rfl⟩
  · simp only [hasPlaneEntities,Bool.or_eq_false_iff,decide_eq_false_iff_not,not_not,ne_eq] at hnone
    obtain ⟨⟨⟨hinstances,hdisks⟩,hmembers⟩,hgpus⟩ := hnone
    obtain ⟨hparse,hobserves⟩ := @shown_of_reads r _ p _ hs
    rw [hparse,hobserves,← filterObservedState_without hpq]
    simp [filterObservedStateForPlane,hasPlaneEntities,hplane,hinstances,hdisks,hmembers,hgpus]

lemma shown_eq (hpq : p ≠ q) (h : Shares r p q named o o') :
    Option.isSome <$> parseObservedStateForPlane r o' p = Option.isSome <$> parseObservedStateForPlane r o p ∧
      observesPlane r o' p = observesPlane r o p := by
  rcases h.states with hsame | ⟨s,s',hs,hs',heq⟩ | ⟨hs,hs'⟩
  · rw [parseObservedStateForPlane,parseObservedStateForPlane,observesPlane,observesPlane,hsame]
    exact ⟨rfl,rfl⟩
  · have hplane : (without q s).planeName = (without q s').planeName := congrArg _ heq
    obtain ⟨hparse,hobserves⟩ := @shown_of_reads r _ p _ hs
    obtain ⟨hparse',hobserves'⟩ := @shown_of_reads r _ p _ hs'
    rw [hparse,hparse',hobserves,hobserves',← filterObservedState_without hpq s,heq,
      filterObservedState_without hpq s',show s.planeName = s'.planeName from hplane]
    exact ⟨rfl,rfl⟩
  · obtain ⟨hparse,hobserves⟩ := shown_of_holdsOnly hpq hs
    obtain ⟨hparse',hobserves'⟩ := shown_of_holdsOnly hpq hs'
    rw [hparse,hparse',hobserves,hobserves']
    exact ⟨rfl,rfl⟩

lemma matches_eq (hpq : p ≠ q) (hnamed : ∀ name, named name = true → matchesPlaneInstanceName name p [] = false)
    (h : Shares r p q named o o') : observationMatchesPlane r o' p = observationMatchesPlane r o p := by
  have hplane : o'.planeName = o.planeName := by rw [h.columns]
  have hnames : ∀ names : List String, names.any (matchesPlaneInstanceName · p []) =
      (names.filter (!named ·)).any (matchesPlaneInstanceName · p []) := by
    intro names
    rw [any_filter]
    refine any_congr rfl fun name => ?_
    cases hname : named name with
    | false => rfl
    | true => exact hnamed name hname
  have hunfold : ∀ x : HostObservation, observationMatchesPlane r x p = if x.planeName = p then .ok true
      else (· || (statusNames r x).any (matchesPlaneInstanceName · p [])) <$>
        Option.isSome <$> parseObservedStateForPlane r x p := by
    intro x
    rw [observationMatchesPlane]
    cases parseObservedStateForPlane r x p <;> rfl
  rw [hunfold,hunfold,hplane,(shown_eq hpq h).1,hnames,hnames (statusNames r o),h.statuses]

theorem deletion_independent_iff (r : Reader) (p q : String) (hpq : p ≠ q) (named : String → Bool)
    (hwritten : ∀ name, ∃ text ≠ "", r.deserializeRuntimeStatusListJson text = .ok [name]) :
    (∀ t observations observations', List.Forall₂ (Shares r p q named) observations observations' →
      canFinalizeDeletedPlane r t observations' p = canFinalizeDeletedPlane r t observations p) ↔
    ∀ name, named name = true → matchesPlaneInstanceName name p [] = false := by
  constructor
  · intro h name hname
    obtain ⟨text,htext,hread⟩ := hwritten name
    let o : HostObservation := {planeName := q, status := .applied}
    let o' : HostObservation := {o with instanceRuntimeJson := text}
    have hshares : Shares r p q named o o' := {
      columns := rfl, foreign := .inr hpq.symm, states := .inl rfl
      statuses := by simp [statusNames,o,o',htext,hread,hname,Except.toOption]}
    have hsame := h {} [o] [o'] (.cons hshares .nil)
    have hparse : ∀ x : HostObservation, x.observedStateJson = "" → parseObservedStateForPlane r x p = .ok none :=
      fun x hx => if_pos hx
    cases hmatch : matchesPlaneInstanceName name p [] with
    | false => rfl
    | true =>
      simp [canFinalizeDeletedPlane,loadHostAssignments,observationBlocksPlaneDeletion,observationMatchesPlane,hparse,
        statusNames,o,o',htext,hread,hmatch,hpq.symm,Except.toOption] at hsame
      cases hsame
  · intro hnamed t observations observations' hshares
    unfold canFinalizeDeletedPlane
    have hany : observations'.anyM (fun o => observationBlocksPlaneDeletion r o p) =
        observations.anyM fun o => observationBlocksPlaneDeletion r o p := by
      induction hshares with
      | nil => rfl
      | cons h _ ih =>
        have hstatus := congrArg HostObservation.status h.columns
        rw [anyM_cons,anyM_cons,ih,observationBlocksPlaneDeletion,observationBlocksPlaneDeletion,
          matches_eq hpq hnamed h,(shown_eq hpq h).2,hstatus]
    rw [hany]

/-- A worker of a plane whose name does not extend the other one comes and goes freely. -/
theorem deletion_independent_of_beta :
    let o : HostObservation := {planeName := "beta", status := .applied}
    canFinalizeDeletedPlane plainReader {} [{o with instanceRuntimeJson := "=worker-beta-0"}] "alpha" =
      canFinalizeDeletedPlane plainReader {} [o] "alpha" := by
  refine (deletion_independent_iff plainReader "alpha" "beta" (by decide) (· = "worker-beta-0") fun name => ?_).2 ?_
    {} _ _ (.cons ⟨rfl,.inr (by decide),.inl rfl,by decide +kernel⟩ .nil)
  · exact ⟨"=" ++ name,by simp,by simp [plainReader]⟩
  · intro name hname
    obtain rfl : name = "worker-beta-0" := by simpa using hname
    decide +kernel

/-- A worker of the plane `a-b` holds up the deletion of the plane `a`. -/
theorem deletion_blocked_by_longer_name : ∃ o o',
    Shares plainReader "a" "a-b" (· = "worker-a-b-0") o o' ∧ canFinalizeDeletedPlane plainReader {} [o] "a" = .ok true ∧
      canFinalizeDeletedPlane plainReader {} [o'] "a" = .ok false :=
  ⟨{planeName := "a-b", status := .applied},
    {planeName := "a-b", status := .applied, instanceRuntimeJson := "=worker-a-b-0"},
    ⟨rfl,.inr (by decide),.inl rfl,by decide +kernel⟩,by decide +kernel,by decide +kernel⟩

end Independence
end Naim.PlaneObservations
