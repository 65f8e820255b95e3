import Naim.DiskRoundTrip

/-!
# The names of instances

An instance is named by its role, its plane and an ending that tells it from the
other instances of the role: a letter, or the normalised name of an app. The names
and the disks of a rendered plane are distinct exactly when the endings are.
-/

namespace Naim.Storage

open Checked Json List Projector Renderer Rows Validator Int32

variable {dump : Json → String} {doc app : Json} {r : Sections} {s : DesiredState} {p : Parts} {total j index : ℕ}

lemma letter_eq_iff {i : ℕ} : letter i = letter j ↔ i % 256 = j % 256 := by
  have hvalid : ∀ n < 256, (Char.ofNat n).toNat = n := by
    intro n hn
    rw [Char.ofNat,dif_pos (.inl (by omega))]
    rfl
  have hi := hvalid ((97 + i) % 256) (by omega)
  have hj := hvalid ((97 + j) % 256) (by omega)
  rw [letter,letter,String.ofList_inj,List.cons.injEq]
  constructor
  · rintro ⟨h,-⟩
    have : (97 + i) % 256 = (97 + j) % 256 := by rw [← hi,← hj,h]
    omega
  · intro h
    have : (97 + i) % 256 = (97 + j) % 256 := by omega
    exact ⟨by rw [this],rfl⟩

def inferEnding (index : ℕ) : String := if index = 0 then "" else "-" ++ letter (index - 1)

def workerEnding (total index : ℕ) : String := if total ≤ 1 then "" else "-" ++ letter index

def enabledApps (doc : Json) : List (Json × ℕ) :=
  (appsOf doc).zipIdx.filter (·.1.value "enabled" true = .ok true)

/-- An app takes the name of the primary one when it is marked, and also when it comes first. -/
def namedPrimary (entry : Json × ℕ) : Bool := entry.1.value "primary" false = .ok true || entry.2 = 0

def appToken (entry : Json × ℕ) : String :=
  normalizeAppNameToken ((entry.1.string? "name").getD ("app-" ++ toString entry.2))

def appEnding (entry : Json × ℕ) : String := if namedPrimary entry then "" else "-" ++ appToken entry

lemma dash_ne_empty (text : String) : "-" ++ text ≠ "" := by
  intro h
  simpa using congrArg String.length h

lemma workerEndings_nodup : ((List.range total).map (workerEnding total)).Nodup ↔ total ≤ 256 := by
  rw [nodup_map_iff_inj_on nodup_range]
  simp only [mem_range,workerEnding]
  split
  next hone => exact ⟨fun _ => by omega,fun _ i hi j hj _ => by omega⟩
  · simp only [String.append_right_inj,letter_eq_iff]
    constructor
    · intro h
      by_contra hlt
      exact absurd (h 0 (by omega) 256 (by omega) rfl) (by decide)
    · intro hle i hi j hj h
      omega

lemma inferEndings_nodup {count : ℕ} (h : count ≤ 257) : ((List.range count).map inferEnding).Nodup := by
  rw [nodup_map_iff_inj_on nodup_range]
  intro i hi j hj heq
  rw [mem_range] at hi hj
  unfold inferEnding at heq
  split at heq <;> split at heq
  · omega
  · exact absurd heq.symm (dash_ne_empty _)
  · exact absurd heq (dash_ne_empty _)
  · rw [String.append_right_inj,letter_eq_iff] at heq
    omega

lemma appEndings_nodup {entries : List (Json × ℕ)} : (entries.map appEnding).Nodup ↔
    (entries.filter namedPrimary).length ≤ 1 ∧ ((entries.filter fun e => !namedPrimary e).map appToken).Nodup := by
  have hinj : Function.Injective ("-" ++ ·) := fun a b h => (String.append_right_inj _).1 h
  rw [← nodup_map_iff hinj (l := (entries.filter fun e => !namedPrimary e).map appToken),map_map]
  exact nodup_map_ite (fun _ => dash_ne_empty _) entries

variable {role role' : InstanceRole}

lemma roleStart_inj {name : String} (h : (roleStart role).toList <+: name.toList)
    (h' : (roleStart role').toList <+: name.toList) : role = role' := by
  have hkind := kindStart_inj h h'
  revert hkind
  cases role <;> cases role' <;> decide

def Parts.endings (p : Parts) (doc : Json) : InstanceRole → List String
  | .infer => (List.range p.infers.length).map inferEnding
  | .worker => (List.range p.workers.length).map (workerEnding p.workers.length)
  | .app => (enabledApps doc).map appEnding
  | .skills => p.skills.map fun _ => ""
  | .browsing => p.gateways.map fun _ => ""
  | .interaction => p.interactions.map fun _ => ""
  | .voiceModule => p.modules.map fun _ => ""
  | .voiceMaker => p.makers.map fun _ => ""

lemma AppAt.name_eq (h : AppAt r s index app e) :
    e.1.name = roleStart .app ++ s.planeName ++ appEnding (app,index) := by
  obtain ⟨marked,appName,hmarked,hname,heq⟩ := h.name
  have hprimary : namedPrimary (app,index) = (marked || decide (index = 0)) := by
    simp [namedPrimary,hmarked]
  rw [heq,buildAppInstanceName,appEnding,hprimary]
  by_cases hcond : (marked || decide (index = 0)) = true
  · rw [if_pos hcond,if_pos hcond,String.append_empty]
    rfl
  · rw [if_neg hcond] at hname
    rw [if_neg hcond,if_neg hcond,appToken,string?_getD hname]
    exact String.append_assoc

namespace Renders

variable (h : Renders dump r p) (hr : BlocksOf r)

include h

lemma infer_names : p.infers.map (·.name) =
    (List.range p.infers.length).map fun index => roleStart .infer ++ p.settings.planeName ++ inferEnding index := by
  rcases renderInferInstance_spec h.infers with ⟨-,hnil⟩ | ⟨-,count,-,hall⟩
  · simp [hnil]
  · rw [← hall.length_eq,length_range]
    refine forall₂_map_eq hall fun index i hi => ?_
    rw [hi.name,buildInferInstanceName,inferEnding]
    split
    · exact String.append_empty.symm
    · exact String.append_assoc

lemma worker_names : (p.workers.map (·.spec)).map (·.name) = (List.range p.workers.length).map fun index =>
    roleStart .worker ++ p.settings.planeName ++ workerEnding p.workers.length index := by
  obtain ⟨total,-,hall⟩ := h.workerAt
  rw [map_map,← hall.length_eq,length_range]
  refine forall₂_map_eq hall fun index w hw => ?_
  rw [Function.comp_apply,hw.name,buildWorkerName,workerEnding]
  split
  · exact String.append_empty.symm
  · exact String.append_assoc

include hr

lemma app_names : (p.apps.map Prod.fst).map (·.name) =
    (enabledApps r.doc).map fun entry => roleStart .app ++ p.settings.planeName ++ appEnding entry := by
  obtain ⟨entries,happs,hall⟩ := renderAppInstance_spec h.apps
  rw [happs,enabledApps,← hr.apps,map_map]
  clear happs
  generalize r.apps.zipIdx = apps at hall
  -- a disabled app leaves no trace on either side
  induction hall with
  | nil => rfl
  | @cons app o apps entries hhead _ ih =>
    obtain ⟨henabled,hat⟩ := hhead
    cases o with
    | none =>
      rw [filter_cons_of_neg (by simp [henabled])]
      exact ih
    | some e =>
      rw [filter_cons_of_pos (by simp [henabled]),map_cons,← (hat e rfl).name_eq,← ih]
      rfl

lemma names_ofRole (role : InstanceRole) : (p.ofRole role).map (·.name) =
    (p.endings r.doc role).map fun ending => roleStart role ++ p.settings.planeName ++ ending := by
  have hservice : ∀ role, ((p.single role).map Prod.fst).map (·.name) =
      ((p.single role).map fun _ => "").map fun ending => roleStart role ++ p.settings.planeName ++ ending := by
    intro role
    rw [map_map,map_map]
    exact map_congr_left fun e he => (h.single he).2.1.trans (String.append_empty).symm
  cases role with
  | infer => rw [Parts.endings,map_map]; exact h.infer_names
  | worker => rw [Parts.endings,map_map]; exact h.worker_names
  | app => rw [Parts.endings,map_map]; exact h.app_names hr
  | skills => exact hservice .skills
  | browsing => exact hservice .browsing
  | interaction => exact hservice .interaction
  | voiceModule => exact hservice .voiceModule
  | voiceMaker => exact hservice .voiceMaker

lemma name_start (hi : i ∈ p.ofRole role) : (roleStart role).toList <+: i.name.toList := by
  have hname := mem_map_of_mem (f := fun i : InstanceSpec => i.name) hi
  rw [h.names_ofRole hr] at hname
  obtain ⟨ending,-,heq⟩ := mem_map.1 hname
  rw [← heq,String.append_assoc]
  exact prefix_append_text _ _

lemma names_nodup : (p.state.instances.map (·.name)).Nodup ↔ ∀ role, (p.endings r.doc role).Nodup := by
  have hapart : ∀ role role', ∀ i ∈ p.ofRole role, ∀ i' ∈ p.ofRole role', i.name = i'.name → role = role' := by
    intro role role' i hi i' hi' heq
    exact roleStart_inj (h.name_start hr hi) (heq ▸ h.name_start hr hi')
  rw [instances_state,nodup_flatMap_map (by decide) hapart]
  refine ⟨fun hall role => ?_,fun hall role _ => ?_⟩
  · have hrole := hall role (mem_roleOrder role)
    rw [h.names_ofRole hr] at hrole
    exact hrole.of_map _
  · rw [h.names_ofRole hr]
    exact (hall role).map fun a b heq => (String.append_right_inj _).1 heq

end Renders

lemma Renders.private_nodup (h : Renders dump r p) (hrole : role ≠ .infer)
    (hnames : ((p.ofRole role).map (·.name)).Nodup) :
    ((p.ofKind (privateKind role)).map fun d => (d.name,d.nodeName)).Nodup := by
  have heq : ((p.ofRole role).map (·.name)).map (· ++ "-private") = (p.ofKind (privateKind role)).map (·.name) := by
    rw [map_map]
    refine (forall₂_map_eq (h.ownDisks role hrole) fun i d hd => ?_).symm
    rw [hd.1]
    rfl
  have hdisks : ((p.ofKind (privateKind role)).map (·.name)).Nodup :=
    heq ▸ hnames.map fun a b hab => (String.append_left_inj _).1 hab
  refine Nodup.of_map Prod.fst ?_
  rwa [map_map]

lemma Renders.disks_nodup (h : Renders dump r p) (hnames : ∀ role, ((p.ofRole role).map (·.name)).Nodup) :
    (p.state.disks.map fun d => (d.name,d.nodeName)).Nodup := by
  have hapart : ∀ kind kind', ∀ d ∈ p.ofKind kind, ∀ d' ∈ p.ofKind kind',
      (d.name,d.nodeName) = (d'.name,d'.nodeName) → kind = kind' := by
    intro kind kind' d hd d' hd' heq
    have hname : d.name = d'.name := congrArg Prod.fst heq
    exact kindStart_inj (h.ofKind_spec kind d hd).2 (hname ▸ (h.ofKind_spec kind' d' hd').2)
  rw [disks_state,nodup_flatMap_map (by decide) hapart]
  intro kind _
  cases kind with
  | planeShared =>
    obtain ⟨size,-,hdisks⟩ := h.sharedDisks_eq
    rw [Parts.ofKind,hdisks,map_map]
    exact ((perm_insertionSort _ _).nodup_iff.2 (nodup_dedup _)).map fun a b hab => congrArg Prod.snd hab
  | inferPrivate => simp [Parts.ofKind]
  | workerPrivate => exact h.private_nodup (by decide) (hnames .worker)
  | appPrivate => exact h.private_nodup (by decide) (hnames .app)
  | skillsPrivate => exact h.private_nodup (by decide) (hnames .skills)
  | browsingPrivate => exact h.private_nodup (by decide) (hnames .browsing)
  | interactionPrivate => exact h.private_nodup (by decide) (hnames .interaction)
  | voiceModulePrivate => exact h.private_nodup (by decide) (hnames .voiceModule)
  | voiceMakerPrivate => exact h.private_nodup (by decide) (hnames .voiceMaker)

lemma render_parts (h : render dump doc = .ok s) : ∃ r p, validateOrThrow doc = .ok () ∧ r.doc = doc ∧ BlocksOf r ∧
    Renders dump r p ∧ s = p.state := by
  simp only [render,bind_eq_ok] at h
  obtain ⟨_,hvalid,r,hr,hstate⟩ := h
  obtain ⟨p,hp,rfl⟩ := renderState_eq_ok.1 hstate
  obtain ⟨hdoc,hblocks⟩ := sections_spec hr
  exact ⟨r,p,hvalid,hdoc,hblocks,hp,rfl⟩

def workersOf (doc : Json) : Checked Int32 := do
  let runtime ← doc.member "runtime"
  runtime.value "workers" 1

lemma workerCount_eq (r : Sections) : workerCount r = (·.toInt.toNat) <$> workersOf r.doc := by
  simp [workerCount,workersOf]

lemma divisor_le {workers replicas : Int32} (hpos : 0 < workers) (hmod : workers % replicas = 0) :
    replicas.toInt.toNat ≤ workers.toInt.toNat := by
  have hdvd : replicas.toInt ∣ workers.toInt := by
    rw [← toInt_inj,toInt_mod,toInt_zero] at hmod
    exact Int.dvd_of_tmod_eq_zero hmod
  rw [lt_iff_toInt_lt,toInt_zero] at hpos
  have := Int.le_of_dvd hpos hdvd
  omega

lemma replicas_le_workers (hruntime : validateRuntime r.doc = .ok ()) (hinfer : validateInfer r.doc = .ok ())
    (hr : BlocksOf r) {replicas : ℕ} (hreplicas : Renderer.inferReplicaCount r s = .ok replicas)
    (htotal : workerCount r = .ok total) : replicas ≤ total := by
  obtain ⟨hpos,-⟩ := workerCount_positive hruntime htotal
  unfold Renderer.inferReplicaCount at hreplicas
  split at hreplicas
  · simp only [bind_eq_ok,pure_eq_ok] at hreplicas
    obtain ⟨n,hn,rfl⟩ := hreplicas
    refine Nat.max_le.2 ⟨hpos,?_⟩
    rw [hr.infer] at hn
    rcases value_cases hn with ⟨v,hget,hv⟩ | ⟨-,rfl⟩
    · simp only [validateInfer,bind_eq_ok,onSome_eq_ok,member_eq_ok] at hinfer
      obtain ⟨_,-,runtime,hblock,_,-,_,-,_,-,_,-,hcheck⟩ := hinfer
      have hblock' := hcheck _ (get?_of_objectAt hget).1
      simp only [validateInferBlock,bind_eq_ok,onSome_eq_ok] at hblock'
      obtain ⟨_,-,_,-,_,hreplicas,-⟩ := hblock'
      have hcheck := hreplicas v hget
      simp only [validateReplicas,bind_eq_ok,refuse_eq_ok] at hcheck
      obtain ⟨-,-,-,-,workers,hworkers,n',hn',hmod⟩ := hcheck
      obtain rfl := ok_unique hv hn'
      simp only [workerCount,bind_eq_ok,pure_eq_ok,member_eq_ok] at htotal
      obtain ⟨runtime',hblock',workers',hworkers',rfl⟩ := htotal
      obtain rfl := Option.mem_unique hblock hblock'
      obtain rfl := ok_unique (value_of_atAs hworkers _) hworkers'
      exact divisor_le (by rw [lt_iff_toInt_lt,toInt_zero]; omega) (by simpa using hmod)
    · exact hpos
  · obtain rfl := pure_eq_ok.1 hreplicas
    exact hpos

lemma Renders.infers_le (h : Renders dump r p) (hruntime : validateRuntime r.doc = .ok ())
    (hinfer : validateInfer r.doc = .ok ()) (hr : BlocksOf r) : p.infers.length ≤ p.workers.length + 1 := by
  obtain ⟨total,htotal,hworkers⟩ := h.workerAt
  rw [← hworkers.length_eq,length_range]
  rcases renderInferInstance_spec h.infers with ⟨-,hnil⟩ | ⟨-,count,hcount,hall⟩
  · simp [hnil]
  · rw [← hall.length_eq,length_range]
    unfold inferInstanceCount at hcount
    split at hcount
    · obtain ⟨replicas,hreplicas,rfl⟩ := map_eq_ok.1 hcount
      exact Nat.succ_le_succ (replicas_le_workers hruntime hinfer hr hreplicas htotal)
    · obtain rfl := pure_eq_ok.1 hcount
      omega

structure DistinctNames (doc : Json) : Prop where
  workers : ∀ n, workersOf doc = .ok n → n ≤ 256
  primary : ((enabledApps doc).filter namedPrimary).length ≤ 1
  tokens : (((enabledApps doc).filter fun entry => !namedPrimary entry).map appToken).Nodup

lemma Renders.distinctNames_iff (h : Renders dump r p) (hr : BlocksOf r) (hruntime : validateRuntime r.doc = .ok ())
    (hinfer : validateInfer r.doc = .ok ()) : (∀ role, (p.endings r.doc role).Nodup) ↔ DistinctNames r.doc := by
  have hworkers : p.workers.length ≤ 256 ↔ ∀ n, workersOf r.doc = .ok n → n ≤ 256 := by
    obtain ⟨total,htotal,hall⟩ := h.workerAt
    rw [← hall.length_eq,length_range]
    rw [workerCount_eq,map_eq_ok] at htotal
    obtain ⟨n,hn,rfl⟩ := htotal
    simp only [hn,Except.ok.injEq,forall_eq',le_iff_toInt_le]
    have : (256 : Int32).toInt = 256 := by decide
    omega
  have hone : ∀ role, ((p.single role).map fun _ => "").Nodup := by
    intro role
    cases hl : p.single role with
    | nil => simp
    | cons e l => simp [← hl,(h.single (hl ▸ mem_cons_self)).1]
  constructor
  · intro hall
    obtain ⟨hprimary,htokens⟩ := appEndings_nodup.1 (hall .app)
    exact ⟨hworkers.1 (workerEndings_nodup.1 (hall .worker)),hprimary,htokens⟩
  · intro hdoc role
    have hle := hworkers.2 hdoc.workers
    cases role with
    | infer =>
      have := h.infers_le hruntime hinfer hr
      exact inferEndings_nodup (by omega)
    | worker => exact workerEndings_nodup.2 hle
    | app => exact appEndings_nodup.2 ⟨hdoc.primary,hdoc.tokens⟩
    | skills => exact hone .skills
    | browsing => exact hone .browsing
    | interaction => exact hone .interaction
    | voiceModule => exact hone .voiceModule
    | voiceMaker => exact hone .voiceMaker

def Distinct (s : DesiredState) : Prop :=
  (s.instances.map (·.name)).Nodup ∧ (s.disks.map fun d => (d.name,d.nodeName)).Nodup

theorem distinct_iff (dump : Json → String) (doc : Json) (s : DesiredState) (h : render dump doc = .ok s) :
    Distinct s ↔ DistinctNames doc := by
  obtain ⟨r,p,hvalid,rfl,hr,hp,rfl⟩ := render_parts h
  obtain ⟨-,-,-,hruntime,-,-,-,hinfer,-⟩ := validateOrThrow_eq_ok.1 hvalid
  rw [← hp.distinctNames_iff hr hruntime hinfer,← hp.names_nodup hr]
  refine ⟨And.left,fun hnames => ⟨hnames,hp.disks_nodup fun role => ?_⟩⟩
  rw [hp.names_ofRole hr]
  exact ((hp.names_nodup hr).1 hnames role).map fun a b heq => (String.append_right_inj _).1 heq

def appPlane (marked : Bool) : Json := ofFields [
  field "version" (some (2 : Int32)),field "plane_name" (some "demo"),field "plane_mode" (some "compute"),
  ("topology",some (ofFields [field "nodes" (some (Json.arr [ofFields [field "name" (some "node-a")]]))])),
  ("runtime",some (ofFields [field "engine" (some "custom"),field "workers" (some (1 : Int32))])),
  field "apps" (some (Json.arr [
    ofFields [field "name" (some "cron"),field "image" (some "cron:1")],
    ofFields [field "name" (some "web"),field "primary" (some marked),field "image" (some "web:1")]]))]

def namesOf (dump : Json → String) (doc : Json) : Checked (List String) :=
  (·.instances.map (·.name)) <$> render dump doc

theorem distinct_appPlane : ∃ s, render (fun _ => "") (appPlane false) = .ok s ∧ DistinctNames (appPlane false) ∧
    Distinct s := by
  have h : namesOf (fun _ => "") (appPlane false) = .ok ["worker-demo","app-demo","app-demo-web"] := by decide +kernel
  obtain ⟨s,hs,-⟩ := map_eq_ok.1 h
  have hworkers : workersOf (appPlane false) = .ok 1 := by decide +kernel
  have hdoc : DistinctNames (appPlane false) := by
    refine ⟨fun n hn => ?_,by decide +kernel,by decide +kernel⟩
    obtain rfl := ok_unique hworkers hn
    decide
  exact ⟨s,hs,hdoc,(distinct_iff _ _ s hs).2 hdoc⟩

/-- The first app takes the primary name without a mark, and the marked one takes it again. -/
theorem shared_name_appPlane : ∃ s, render (fun _ => "") (appPlane true) = .ok s ∧
    s.instances.map (·.name) = ["worker-demo","app-demo","app-demo"] ∧ ¬ Distinct s := by
  unfold Distinct
  decide +kernel

end Naim.Storage
