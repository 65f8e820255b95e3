import Naim.InstanceNames

/-!
# Planes that share the tables

`DesiredStateRepository::ReplaceDesiredState` keeps the instances of all planes in
one table, whose key is the name of the instance alone. Two planes can be stored
side by side exactly when none of their names meet.
-/

namespace Naim
namespace Repository

open List Rows

/-- The tables that planes share; an instance stands for its row and for the rows that hang on it. -/
structure Tables where
  (planes nodes : List String := [])
  disks : List DiskSpec := []
  instances : List InstanceSpec := []

def diskKey (d : DiskSpec) : String × String := (d.name,d.nodeName)

def diskRefers (planes nodes : List String) (d : DiskSpec) : Bool := d.planeName ∈ planes && d.nodeName ∈ nodes

/-- The foreign keys of `instances`, and the keys of the rows for its dependencies and its ports. -/
def instanceRefers (planes nodes : List String) (i : InstanceSpec) : Bool :=
  i.planeName ∈ planes && i.nodeName ∈ nodes && i.dependsOn.Nodup && i.publishedPorts.Nodup

/-- The transaction is rolled back when a constraint fails. -/
def replaceDesiredState (t : Tables) (s : DesiredState) : Option Tables := do
  let planes := t.planes.insert s.planeName
  let nodes := s.nodes.map (·.name) ∪ t.nodes
  guard (s.nodes.map (·.name)).Nodup
  let disks ← s.disks.foldlM (insertNew (diskRefers planes nodes) diskKey)
    (t.disks.filter (·.planeName ≠ s.planeName))
  let instances ← s.instances.foldlM (insertNew (instanceRefers planes nodes) (·.name))
    (t.instances.filter (·.planeName ≠ s.planeName))
  pure ⟨planes,nodes,disks,instances⟩

structure Fits (t : Tables) (s : DesiredState) : Prop where
  nodes : (s.nodes.map (·.name)).Nodup
  disks : ∀ d ∈ s.disks, diskRefers (t.planes.insert s.planeName) (s.nodes.map (·.name) ∪ t.nodes) d
  diskKeys : (s.disks.map diskKey).Nodup
  diskFresh : ∀ d ∈ s.disks, diskKey d ∉ (t.disks.filter (·.planeName ≠ s.planeName)).map diskKey
  instances : ∀ i ∈ s.instances, instanceRefers (t.planes.insert s.planeName) (s.nodes.map (·.name) ∪ t.nodes) i
  names : (s.instances.map (·.name)).Nodup
  nameFresh : ∀ i ∈ s.instances, i.name ∉ (t.instances.filter (·.planeName ≠ s.planeName)).map (·.name)

def stored (t : Tables) (s : DesiredState) : Tables where
  planes := t.planes.insert s.planeName
  nodes := s.nodes.map (·.name) ∪ t.nodes
  disks := t.disks.filter (·.planeName ≠ s.planeName) ++ s.disks
  instances := t.instances.filter (·.planeName ≠ s.planeName) ++ s.instances

variable {s s' : DesiredState} {t t' : Tables}

lemma replaceDesiredState_eq_some : replaceDesiredState t s = some t' ↔ Fits t s ∧ t' = stored t s := by
  simp only [replaceDesiredState,Option.bind_eq_bind,Option.bind_eq_some_iff,Option.guard_eq_some',foldlM_insertNew,
    Option.pure_def,Option.some.injEq]
  constructor
  · rintro ⟨_,hnodes,disks,⟨h₁,h₂,h₃,rfl⟩,instances,⟨h₄,h₅,h₆,rfl⟩,rfl⟩
    exact ⟨⟨hnodes,h₁,h₂,h₃,h₄,h₅,h₆⟩,rfl⟩
  · rintro ⟨h,rfl⟩
    exact ⟨(),h.nodes,_,⟨h.disks,h.diskKeys,h.diskFresh,rfl⟩,_,⟨h.instances,h.names,h.nameFresh,rfl⟩,rfl⟩

lemma Fits.beside (hdisks : ∀ d ∈ s.disks, ∀ d' ∈ s'.disks, diskKey d ≠ diskKey d')
    (hnames : ∀ i ∈ s.instances, ∀ i' ∈ s'.instances, i.name ≠ i'.name) (h' : Fits {} s') :
    Fits (stored {} s) s' where
  nodes := h'.nodes
  disks := fun d hd => by
    have := h'.disks d hd
    simp only [diskRefers,stored,Bool.and_eq_true,decide_eq_true_eq,mem_insert_iff,mem_union_iff] at this ⊢
    tauto
  diskKeys := h'.diskKeys
  diskFresh := fun d' hd' hmem => by
    obtain ⟨d,hd,hkey⟩ := mem_map.1 hmem
    exact hdisks d (by simpa [stored] using mem_of_mem_filter hd) d' hd' hkey
  instances := fun i hi => by
    have := h'.instances i hi
    simp only [instanceRefers,stored,Bool.and_eq_true,decide_eq_true_eq,mem_insert_iff,mem_union_iff] at this ⊢
    tauto
  names := h'.names
  nameFresh := fun i' hi' hmem => by
    obtain ⟨i,hi,hname⟩ := mem_map.1 hmem
    exact hnames i (by simpa [stored] using mem_of_mem_filter hi) i' hi' hname

def StoredBeside (s s' : DesiredState) : Prop :=
  ∀ t t', replaceDesiredState {} s = some t → replaceDesiredState {} s' = some t' →
    ∃ t'', replaceDesiredState t s' = some t'' ∧ t.instances ⊆ t''.instances

lemma storedBeside (hplane : ∀ i ∈ s.instances, i.planeName ≠ s'.planeName)
    (hdisks : ∀ d ∈ s.disks, ∀ d' ∈ s'.disks, diskKey d ≠ diskKey d')
    (hnames : ∀ i ∈ s.instances, ∀ i' ∈ s'.instances, i.name ≠ i'.name) : StoredBeside s s' := by
  intro t t' ht ht'
  obtain ⟨-,rfl⟩ := replaceDesiredState_eq_some.1 ht
  obtain ⟨hfits,-⟩ := replaceDesiredState_eq_some.1 ht'
  refine ⟨_,replaceDesiredState_eq_some.2 ⟨hfits.beside hdisks hnames,rfl⟩,fun i hi => ?_⟩
  have hmem : i ∈ s.instances := by simpa [stored] using hi
  exact mem_append_left _ (mem_filter.2 ⟨hi,by simpa using hplane i hmem⟩)

end Repository

namespace Storage

open List Checked Json Projector Renderer Repository Rows Text Validator

variable {dump : Json → String} {doc doc' : Json} {r r' : Sections} {s s' : DesiredState} {p p' : Parts}
  {P Q : String} {n n' : ℕ}

section Rendered

variable (h : Renders dump r p) {d : DiskSpec}

include h

lemma infers_planeName : ∀ i ∈ p.infers, i.planeName = p.settings.planeName := by
  have hrender : ∀ {count index i}, renderInfer r p.settings count index = .ok i →
      i.planeName = p.settings.planeName := by
    intro count index i hi
    simp only [renderInfer,bind_eq_ok,pure_eq_ok] at hi
    obtain ⟨_,-,_,-,_,-,_,-,_,-,_,-,rfl⟩ := hi
    rfl
  rcases renderInferInstance_forall₂ h.infers hrender id with ⟨-,hnil⟩ | ⟨-,count,-,hall⟩
  · simp [hnil]
  · intro i hi
    obtain ⟨index,-,hplane⟩ := forall₂_mem_right hall hi
    exact hplane

lemma Renders.planeName_ofRole (role : InstanceRole) : ∀ i ∈ p.ofRole role, i.planeName = p.settings.planeName := by
  intro i hi
  rcases Parts.ofRole_cases hi with ⟨rfl,hi⟩ | ⟨rfl,hi⟩ | ⟨rfl,hi⟩ | ⟨e,he,rfl⟩
  · exact infers_planeName h i hi
  · obtain ⟨w,hw,rfl⟩ := mem_map.1 hi
    obtain ⟨total,-,hall⟩ := h.workerAt
    obtain ⟨index,-,hat⟩ := forall₂_mem_right hall hw
    exact hat.planeName
  · obtain ⟨e,he,rfl⟩ := mem_map.1 hi
    obtain ⟨app,index,-,-,hat⟩ := h.appAt he
    exact hat.withDisk.planeName
  · obtain ⟨-,-,_,_,hdisk⟩ := h.single he
    exact hdisk.planeName

lemma Renders.planeName_instances : ∀ i ∈ p.state.instances, i.planeName = p.settings.planeName := by
  intro i hi
  rw [instances_state] at hi
  obtain ⟨role,-,hi⟩ := mem_flatMap.1 hi
  exact h.planeName_ofRole role i hi

lemma names_apart_iff (hr : BlocksOf r) (h' : Renders dump r' p') (hr' : BlocksOf r') :
    (∀ i ∈ p.state.instances, ∀ i' ∈ p'.state.instances, i.name ≠ i'.name) ↔
      ∀ role, ∀ a ∈ p.endings r.doc role, ∀ b ∈ p'.endings r'.doc role,
        p.settings.planeName ++ a ≠ p'.settings.planeName ++ b := by
  have hcommon : ∀ role a b, roleStart role ++ p.settings.planeName ++ a =
      roleStart role ++ p'.settings.planeName ++ b ↔
      p.settings.planeName ++ a = p'.settings.planeName ++ b := by
    intro role a b
    rw [String.append_assoc,String.append_assoc,String.append_right_inj]
  constructor
  · intro hall role a ha b hb heq
    have hmem := mem_map_of_mem (f := fun a => roleStart role ++ p.settings.planeName ++ a) ha
    have hmem' := mem_map_of_mem (f := fun b => roleStart role ++ p'.settings.planeName ++ b) hb
    rw [← h.names_ofRole hr] at hmem
    rw [← h'.names_ofRole hr'] at hmem'
    obtain ⟨i,hi,hname⟩ := mem_map.1 hmem
    obtain ⟨i',hi',hname'⟩ := mem_map.1 hmem'
    refine hall i ?_ i' ?_ ((hname.trans ((hcommon role a b).2 heq)).trans hname'.symm)
    · exact instances_state p ▸ mem_flatMap.2 ⟨role,mem_roleOrder role,hi⟩
    · exact instances_state p' ▸ mem_flatMap.2 ⟨role,mem_roleOrder role,hi'⟩
  · intro hall i hi i' hi' heq
    rw [instances_state] at hi hi'
    obtain ⟨role,-,hi⟩ := mem_flatMap.1 hi
    obtain ⟨role',-,hi'⟩ := mem_flatMap.1 hi'
    obtain rfl := roleStart_inj (h.name_start hr hi) (heq ▸ h'.name_start hr' hi')
    have hmem := mem_map_of_mem (f := fun i : InstanceSpec => i.name) hi
    have hmem' := mem_map_of_mem (f := fun i : InstanceSpec => i.name) hi'
    rw [h.names_ofRole hr] at hmem
    rw [h'.names_ofRole hr'] at hmem'
    obtain ⟨a,ha,hname⟩ := mem_map.1 hmem
    obtain ⟨b,hb,hname'⟩ := mem_map.1 hmem'
    exact hall role a ha b hb ((hcommon role a b).1 (hname.trans (heq.trans hname'.symm)))

lemma Renders.disk_owner (hkind : kind ≠ .planeShared) (hd : d ∈ p.ofKind kind) :
    ∃ i ∈ p.state.instances, d.name = i.name ++ "-private" := by
  obtain ⟨rfl,-⟩ | ⟨-,role,i,hi,hown⟩ := h.ofKind_cases hd
  · exact absurd rfl hkind
  · exact ⟨i,instances_state p ▸ mem_flatMap.2 ⟨role,mem_roleOrder role,hi⟩,by rw [hown.1]; rfl⟩

lemma Renders.shared_name (hd : d ∈ p.ofKind .planeShared) :
    d.name = "plane-" ++ p.settings.planeName ++ "-shared" := by
  obtain ⟨-,size,node,-,rfl⟩ | ⟨hne,-⟩ := h.ofKind_cases hd
  · exact h.settingsAt.planeSharedDiskName
  · exact absurd rfl hne

lemma disks_apart (h' : Renders dump r' p') (hne : p.settings.planeName ≠ p'.settings.planeName)
    (hnames : ∀ i ∈ p.state.instances, ∀ i' ∈ p'.state.instances, i.name ≠ i'.name) :
    ∀ d ∈ p.state.disks, ∀ d' ∈ p'.state.disks, diskKey d ≠ diskKey d' := by
  intro d hd d' hd' hkey
  have hname : d.name = d'.name := congrArg Prod.fst hkey
  rw [Renders.disks_state] at hd hd'
  obtain ⟨kind,-,hd⟩ := mem_flatMap.1 hd
  obtain ⟨kind',-,hd'⟩ := mem_flatMap.1 hd'
  obtain rfl := kindStart_inj (h.ofKind_spec kind d hd).2 (hname ▸ (h'.ofKind_spec kind' d' hd').2)
  by_cases hkind : kind = .planeShared
  · subst hkind
    rw [h.shared_name hd,h'.shared_name hd',String.append_left_inj,String.append_right_inj] at hname
    exact hne hname
  · obtain ⟨i,hi,hown⟩ := h.disk_owner hkind hd
    obtain ⟨i',hi',hown'⟩ := h'.disk_owner hkind hd'
    rw [hown,hown',String.append_left_inj] at hname
    exact hnames i hi i' hi' hname

end Rendered

def infersOf (doc : Json) : Checked ℕ := do
  let runtime ← doc.member "runtime"
  let engine ← runtime.value "engine" "llama.cpp"
  let backend ← distributedBackendOf runtime engine
  let planeMode ← planeModeOf doc
  let infer := doc.objectAt "infer"
  let enabled ← infer.value "enabled" (decide (planeMode = "llm") || decide (engine = "llama.cpp"))
  if !enabled then pure 0
  else if engine = "llama.cpp" && orElse backend "llama_rpc" = "llama_rpc" then do
    let replicas : Int32 ← infer.value "replicas" 1
    pure (max 1 replicas.toInt.toNat + 1)
  else pure 1

lemma Renders.infers_length (h : Renders dump r p) (hr : BlocksOf r) : infersOf r.doc = .ok p.infers.length := by
  have hs := h.settingsAt
  obtain ⟨runtime,hruntime,hengine,hbackend⟩ := hs.runtime
  obtain ⟨block,engine,backend,hblock,he,hb,hre,hrb⟩ := renderRuntime_spec hruntime
  obtain ⟨text,htext,-⟩ := bind_eq_ok.1 hs.planeMode
  have hllm : decide (p.settings.planeMode = .llm) = decide (text = "llm") :=
    decide_eq_decide.2 (planeMode_eq_llm hs.planeMode htext)
  have henabled : inferEnabled r p.settings =
      (r.doc.objectAt "infer").value "enabled" (decide (text = "llm") || decide (engine = "llama.cpp")) := by
    rw [inferEnabled,hr.infer,hllm,hengine,hre]
  have hrpc : usesLlamaRpc p.settings = (engine = "llama.cpp" && orElse backend "llama_rpc" = "llama_rpc" : Bool) := by
    rw [usesLlamaRpc,hengine,hre,hbackend,hrb]
    by_cases hcpp : engine = "llama.cpp" <;> simp [hcpp]
  simp only [infersOf,member_eq_ok.2 hblock,he,hb,htext,ok_bind]
  rw [← henabled,← hrpc]
  rcases renderInferInstance_spec h.infers with ⟨hoff,hnil⟩ | ⟨hon,count,hcount,hall⟩
  · rw [hoff,ok_bind,hnil]
    rfl
  · rw [hon,ok_bind,← hall.length_eq,length_range,← hcount,inferInstanceCount,Renderer.inferReplicaCount,hr.infer]
    cases usesLlamaRpc p.settings <;> simp

/-- No single instance of the plane `P` is named like a lettered instance of the plane `Q`. -/
structure KeepsClear (P Q : String) (doc doc' : Json) : Prop where
  infers : ∀ n n', infersOf doc = .ok n → infersOf doc' = .ok n' → 0 < n → ∀ k, k + 1 < n' → P ≠ Q ++ "-" ++ letter k
  workers : ∀ n n', workersOf doc = .ok n → workersOf doc' = .ok n' → n = 1 → 1 < n' →
    ∀ k < n'.toInt.toNat, P ≠ Q ++ "-" ++ letter k

/-- The documents of two planes whose instances never share a name. -/
structure PlanesApart (P Q : String) (doc doc' : Json) : Prop where
  first : KeepsClear P Q doc doc'
  second : KeepsClear Q P doc' doc
  apps : ∀ a ∈ enabledApps doc, ∀ b ∈ enabledApps doc', P ++ appEnding a ≠ Q ++ appEnding b

lemma lettered_ne (hne : P ≠ Q) (i j : ℕ) : P ++ ("-" ++ letter i) ≠ Q ++ ("-" ++ letter j) := by
  intro h
  have hlength : ∀ k, ("-" ++ letter k).toList.length = 2 := fun k => by simp [letter]
  have hlist : P.toList ++ ("-" ++ letter i).toList = Q.toList ++ ("-" ++ letter j).toList := by
    rw [← String.toList_append,← String.toList_append,h]
  exact hne (String.toList_inj.1 (append_inj' hlist ((hlength i).trans (hlength j).symm)).1)

lemma inferNames_apart_iff (hne : P ≠ Q) (n n' : ℕ) :
    (∀ a ∈ (List.range n).map inferEnding, ∀ b ∈ (List.range n').map inferEnding, P ++ a ≠ Q ++ b) ↔
      (0 < n → ∀ k, k + 1 < n' → P ≠ Q ++ "-" ++ letter k) ∧ (0 < n' → ∀ k, k + 1 < n → Q ≠ P ++ "-" ++ letter k) := by
  simp only [forall_mem_map,mem_range]
  constructor
  · intro hall
    constructor
    · intro hn k hk heq
      refine hall 0 hn (k + 1) hk ?_
      simpa [inferEnding,String.append_assoc] using heq
    · intro hn k hk heq
      refine hall (k + 1) hk 0 hn ?_
      simpa [inferEnding,String.append_assoc] using heq.symm
  · rintro ⟨hfirst,hsecond⟩ i hi j hj heq
    unfold inferEnding at heq
    split at heq <;> split at heq
    · exact hne (by simpa using heq)
    · exact hfirst (by omega) (j - 1) (by omega) (by simpa [String.append_assoc] using heq)
    · exact hsecond (by omega) (i - 1) (by omega) (by simpa [String.append_assoc] using heq.symm)
    · exact lettered_ne hne _ _ heq

lemma workerNames_apart_iff (hne : P ≠ Q) (hn : 0 < n) (hn' : 0 < n') :
    (∀ a ∈ (List.range n).map (workerEnding n), ∀ b ∈ (List.range n').map (workerEnding n'), P ++ a ≠ Q ++ b) ↔
      (n = 1 → 1 < n' → ∀ k < n', P ≠ Q ++ "-" ++ letter k) ∧ (n' = 1 → 1 < n → ∀ k < n, Q ≠ P ++ "-" ++ letter k) := by
  simp only [forall_mem_map,mem_range,workerEnding]
  by_cases hone : n ≤ 1 <;> by_cases hone' : n' ≤ 1
  · have : P ++ "" ≠ Q ++ "" := by simpa using hne
    simp only [if_pos hone,if_pos hone']
    exact ⟨fun _ => ⟨fun _ h => by omega,fun _ h => by omega⟩,fun _ _ _ _ _ => this⟩
  · simp only [if_pos hone,if_neg hone']
    refine ⟨fun hall => ⟨fun _ _ k hk heq => hall 0 hn k hk ?_,fun _ h => by omega⟩,fun hall i hi j hj heq => ?_⟩
    · simpa [String.append_assoc] using heq
    · exact hall.1 (by omega) (by omega) j hj (by simpa [String.append_assoc] using heq)
  · simp only [if_neg hone,if_pos hone']
    refine ⟨fun hall => ⟨fun h => by omega,fun _ _ k hk heq => hall k hk 0 hn' ?_⟩,fun hall i hi j hj heq => ?_⟩
    · simpa [String.append_assoc] using heq.symm
    · exact hall.2 (by omega) (by omega) i hi (by simpa [String.append_assoc] using heq.symm)
  · simp only [if_neg hone,if_neg hone']
    exact ⟨fun _ => ⟨fun h => by omega,fun h => by omega⟩,fun _ i _ j _ => lettered_ne hne i j⟩

lemma planesApart_iff (h : Renders dump r p) (hr : BlocksOf r) (hv : validateRuntime r.doc = .ok ())
    (h' : Renders dump r' p') (hr' : BlocksOf r') (hv' : validateRuntime r'.doc = .ok ())
    (hne : p.settings.planeName ≠ p'.settings.planeName) :
    (∀ role, ∀ a ∈ p.endings r.doc role, ∀ b ∈ p'.endings r'.doc role,
      p.settings.planeName ++ a ≠ p'.settings.planeName ++ b) ↔
    PlanesApart p.settings.planeName p'.settings.planeName r.doc r'.doc := by
  have hinfers := inferNames_apart_iff hne p.infers.length p'.infers.length
  have hcount : ∀ {r : Sections} {p : Parts}, Renders dump r p → validateRuntime r.doc = .ok () →
      ∃ n : Int32, workersOf r.doc = .ok n ∧ n.toInt.toNat = p.workers.length ∧ 0 < p.workers.length := by
    intro r p h hv
    obtain ⟨total,htotal,hall⟩ := h.workerAt
    obtain ⟨hpos,-⟩ := workerCount_positive hv htotal
    have hlength : p.workers.length = total := by rw [← hall.length_eq,length_range]
    rw [workerCount_eq,map_eq_ok] at htotal
    obtain ⟨n,hn,heq⟩ := htotal
    exact ⟨n,hn,by rw [hlength,heq],by rw [hlength]; exact hpos⟩
  obtain ⟨n,hn,hlength,hpos⟩ := hcount h hv
  obtain ⟨n',hn',hlength',hpos'⟩ := hcount h' hv'
  have hworkers := workerNames_apart_iff hne hpos hpos'
  have hone : ∀ n : Int32, n = 1 ↔ n.toInt.toNat = 1 := by
    intro n
    rw [← Int32.toInt_inj,show (1 : Int32).toInt = 1 from rfl]
    omega
  have hseveral : ∀ n : Int32, 1 < n ↔ 1 < n.toInt.toNat := by
    intro n
    rw [Int32.lt_iff_toInt_lt,show (1 : Int32).toInt = 1 from rfl]
    omega
  have hempty : ∀ {l m : List (InstanceSpec × DiskSpec)}, ∀ a ∈ l.map (fun _ => ""), ∀ b ∈ m.map (fun _ => ""),
      p.settings.planeName ++ a ≠ p'.settings.planeName ++ b := by
    intro l m a ha b hb
    obtain ⟨-,-,rfl⟩ := mem_map.1 ha
    obtain ⟨-,-,rfl⟩ := mem_map.1 hb
    simpa using hne
  have hclear : KeepsClear p.settings.planeName p'.settings.planeName r.doc r'.doc ∧
      KeepsClear p'.settings.planeName p.settings.planeName r'.doc r.doc ↔
      (∀ a ∈ p.endings r.doc .infer, ∀ b ∈ p'.endings r'.doc .infer,
        p.settings.planeName ++ a ≠ p'.settings.planeName ++ b) ∧
      ∀ a ∈ p.endings r.doc .worker, ∀ b ∈ p'.endings r'.doc .worker,
        p.settings.planeName ++ a ≠ p'.settings.planeName ++ b := by
    rw [Parts.endings,Parts.endings,Parts.endings,Parts.endings,hinfers,hworkers]
    have hlen := h.infers_length hr
    have hlen' := h'.infers_length hr'
    constructor
    · rintro ⟨hfirst,hsecond⟩
      refine ⟨⟨hfirst.infers _ _ hlen hlen',hsecond.infers _ _ hlen' hlen⟩,?_,?_⟩
      · have := hfirst.workers _ _ hn hn'
        rwa [hone,hseveral,hlength,hlength'] at this
      · have := hsecond.workers _ _ hn' hn
        rwa [hone,hseveral,hlength,hlength'] at this
    · rintro ⟨⟨hi,hi'⟩,hw,hw'⟩
      refine ⟨⟨fun m m' hm hm' => ?_,fun m m' hm hm' => ?_⟩,fun m m' hm hm' => ?_,fun m m' hm hm' => ?_⟩
      · rwa [← ok_unique hlen hm,← ok_unique hlen' hm']
      · rwa [← ok_unique hn hm,← ok_unique hn' hm',hone,hseveral,hlength,hlength']
      · rwa [← ok_unique hlen' hm,← ok_unique hlen hm']
      · rwa [← ok_unique hn' hm,← ok_unique hn hm',hone,hseveral,hlength,hlength']
  constructor
  · intro hall
    obtain ⟨hfirst,hsecond⟩ := hclear.2 ⟨hall .infer,hall .worker⟩
    exact ⟨hfirst,hsecond,fun a ha b hb => hall .app _ (mem_map_of_mem ha) _ (mem_map_of_mem hb)⟩
  · intro hapart role
    obtain ⟨hinfer,hworker⟩ := hclear.1 ⟨hapart.first,hapart.second⟩
    cases role with
    | infer => exact hinfer
    | worker => exact hworker
    | app =>
      intro a ha b hb
      obtain ⟨entry,hentry,rfl⟩ := mem_map.1 ha
      obtain ⟨entry',hentry',rfl⟩ := mem_map.1 hb
      exact hapart.apps entry hentry entry' hentry'
    | skills => exact hempty
    | browsing => exact hempty
    | interaction => exact hempty
    | voiceModule => exact hempty
    | voiceMaker => exact hempty

def SideBySide (s s' : DesiredState) : Prop :=
  (∀ i ∈ s.instances, ∀ i' ∈ s'.instances, i.name ≠ i'.name) ∧ StoredBeside s s'

def workerPlane (planeName : String) (workers : Int32) : Json := ofFields [
  field "version" (some (2 : Int32)),field "plane_name" (some planeName),field "plane_mode" (some "compute"),
  ("topology",some (ofFields [field "nodes" (some (Json.arr [ofFields [field "name" (some "node-a")]]))])),
  ("runtime",some (ofFields [field "engine" (some "custom"),field "workers" (some workers)]))]

def storedOutcomes (s s' : DesiredState) : Bool × Bool × Bool :=
  let t := replaceDesiredState {} s
  (t.isSome,(replaceDesiredState {} s').isSome,(t.bind fun t => replaceDesiredState t s').isSome)

end Storage
end Naim
