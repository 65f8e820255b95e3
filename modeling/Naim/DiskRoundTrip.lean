import Naim.StorageRoundTrip
import Mathlib.Data.List.Find

/-!
# Disks across a reload

The disks of a rendered plane stand in the order of their kinds, and the name of
a disk tells its kind. So a private disk is found by its name, and what a reload
makes of the disks can be compared kind by kind.
-/

namespace Naim.Storage

open Checked Json List Projector Rows Except
open Renderer hiding defaultNodeName

variable {dump : Json → String} {r : Sections} {s : DesiredState} {p : Parts}

def Parts.ofKind (p : Parts) : DiskKind → List DiskSpec
  | .planeShared => p.sharedDisks
  | .inferPrivate => []
  | .workerPrivate => p.workers.map (·.disk)
  | .appPrivate => p.apps.map Prod.snd
  | .skillsPrivate => p.skills.map Prod.snd
  | .browsingPrivate => p.gateways.map Prod.snd
  | .interactionPrivate => p.interactions.map Prod.snd
  | .voiceModulePrivate => p.modules.map Prod.snd
  | .voiceMakerPrivate => p.makers.map Prod.snd

def kindOrder : List DiskKind :=
  [.planeShared,.inferPrivate,.workerPrivate,.appPrivate,.skillsPrivate,.browsingPrivate,.interactionPrivate,
    .voiceModulePrivate,.voiceMakerPrivate]

lemma mem_kindOrder (kind : DiskKind) : kind ∈ kindOrder := by cases kind <;> decide

def disksOf (s : DesiredState) (kind : DiskKind) : List DiskSpec := s.disks.filter (·.kind = kind)

variable {kind kind' : DiskKind} {name node context name' node' : String} {d : DiskSpec} {role : InstanceRole}
  {index total : ℕ} {i : InstanceSpec} {t : DesiredState} {size : Int32}

lemma kindStart_inj (h : (kindStart kind).toList <+: name.toList) (h' : (kindStart kind').toList <+: name.toList) :
    kind = kind' := by
  have hstart : ∀ k k' : DiskKind, (kindStart k).toList <+: (kindStart k').toList → k = k' := by
    intro k k'
    cases k <;> cases k' <;> decide
  rcases prefix_or_prefix_of_prefix h h' with h | h
  · exact hstart _ _ h
  · exact (hstart _ _ h).symm

def OwnDisk (s : DesiredState) (kind : DiskKind) (i : InstanceSpec) (d : DiskSpec) : Prop :=
  d = diskOf s kind i.name i.nodeName (d.sizeGb,d.containerPath) ∧ i.privateDiskName = d.name ∧
    (kindStart kind).toList <+: i.name.toList

structure DiskIdentity (s : DesiredState) : Prop where
  order : s.disks = kindOrder.flatMap (disksOf s)
  named : ∀ d ∈ s.disks, (kindStart d.kind).toList <+: d.name.toList
  owned : ∀ role, role ≠ .infer → List.Forall₂ (OwnDisk s (privateKind role)) (findInstances s role)
    (disksOf s (privateKind role))
  noInfer : disksOf s .inferPrivate = []
  alike : ∀ d ∈ disksOf s .workerPrivate, ∀ d' ∈ disksOf s .workerPrivate,
    d.sizeGb = d'.sizeGb ∧ d.containerPath = d'.containerPath
  interaction : ∀ d ∈ disksOf s .interactionPrivate, d.sizeGb = 1 ∧ d.containerPath = "/naim/private"
  sharedName : s.planeSharedDiskName = "plane-" ++ s.planeName ++ "-shared"
  shared : ∃ size, disksOf s .planeShared = (sortedSet (s.nodes.map (·.name))).map (sharedDisk s size)

lemma defaultNodeName_mem_nodes (h : Renderer.defaultNodeName s = .ok node) : node ∈ s.nodes.map (·.name) := by
  unfold Renderer.defaultNodeName at h
  split at h
  · simp at h
  next n nodes hnodes =>
    obtain rfl := ok.inj h
    simp [hnodes]

lemma firstInferNode_mem_nodes (h : firstInferNode s = .ok node) : node ∈ s.nodes.map (·.name) := by
  unfold firstInferNode at h
  split at h
  next n hfind =>
    obtain rfl := ok.inj h
    exact mem_map_of_mem (mem_of_find?_eq_some hfind)
  · exact defaultNodeName_mem_nodes h

lemma requireNode_mem_nodes (h : requireNode s name context = .ok node) : node ∈ s.nodes.map (·.name) := by
  unfold requireNode at h
  split at h
  next hany =>
    obtain rfl := ok.inj h
    obtain ⟨n,hn,hname⟩ := any_eq_true.1 hany
    exact mem_map.2 ⟨n,hn,by simpa using hname⟩
  · simp at h

lemma requiredNode_mem_nodes (h : mapOption o (fun name => requireNode s name context) = .ok (some node)) :
    node ∈ s.nodes.map (·.name) := by
  obtain ⟨-,h⟩ | ⟨name,_,-,hrequire,heq⟩ := mapOption_eq_ok.1 h
  · simp at h
  · exact requireNode_mem_nodes (hrequire.trans (congrArg _ (Option.some.inj heq).symm))

lemma workerNode_mem_nodes (h : resolveWorkerNodeName r s index = .ok node) : node ∈ s.nodes.map (·.name) := by
  rw [resolveWorkerNodeName,getOr_eq_ok,getOr_eq_ok] at h
  obtain h | ⟨-,h | ⟨-,h⟩⟩ := h
  · exact requiredNode_mem_nodes h
  · exact requiredNode_mem_nodes h
  · exact defaultNodeName_mem_nodes h

lemma inferNode_mem_nodes (h : resolveInferNodeName r s index = .ok node) : node ∈ s.nodes.map (·.name) := by
  rw [resolveInferNodeName,getOr_eq_ok] at h
  obtain h | ⟨-,h⟩ := h
  · exact requiredNode_mem_nodes h
  · simp only [bind_eq_ok] at h
    obtain ⟨replicas,-,h⟩ := h
    split at h
    · simp only [resolveReplicaNodeName,bind_eq_ok] at h
      obtain ⟨workers,-,h⟩ := h
      exact workerNode_mem_nodes h
    · exact firstInferNode_mem_nodes h

lemma appNode_mem_nodes (h : resolveAppNodeName r s = .ok node) : node ∈ s.nodes.map (·.name) := by
  rw [resolveAppNodeName,getOr_eq_ok] at h
  obtain h | ⟨-,h⟩ := h
  · exact requiredNode_mem_nodes h
  · exact inferNode_mem_nodes h

lemma sharedDiskNode_mem_nodes (h : sharedDiskNodeName r s = .ok node) : node ∈ s.nodes.map (·.name) := by
  simp only [sharedDiskNodeName,bind_eq_ok] at h
  obtain ⟨enabled,-,h⟩ := h
  split at h
  · exact inferNode_mem_nodes h
  · exact defaultNodeName_mem_nodes h

lemma Renders.sharedDisks_eq (h : Renders dump r p) : ∃ size, r.resources.value "shared_disk_gb" 40 = .ok size ∧
    p.sharedDisks = (sortedSet (p.settings.nodes.map (·.name))).map (sharedDisk p.settings size) := by
  have hdisks := h.sharedDisks
  simp only [renderSharedDisk,bind_eq_ok,pure_eq_ok] at hdisks
  obtain ⟨node,hnode,size,hsize,hdisks⟩ := hdisks
  have hmem := sharedDiskNode_mem_nodes hnode
  have hset : sortedSet (node::p.settings.nodes.map (·.name)) = sortedSet (p.settings.nodes.map (·.name)) := by
    rw [sortedSet_eq_iff]
    intro name
    rw [mem_cons]
    exact ⟨fun h => h.elim (fun heq => heq ▸ hmem) id,.inr⟩
  exact ⟨size,hsize,by rw [← hdisks,hset]⟩

lemma OwnDisk.kind_eq (hd : OwnDisk s kind i d) : d.kind = kind := by
  rw [hd.1]
  rfl

lemma OwnDisk.name_start (hd : OwnDisk s kind i d) : (kindStart kind).toList <+: d.name.toList := by
  have hname : d.name = i.name ++ "-private" := by
    rw [hd.1]
    rfl
  rw [hname]
  exact hd.2.2.trans (prefix_append_text _ _)

lemma WithDisk.ownDisk {sizeGb : Checked Int32} {mountPath : Checked String} {e : InstanceSpec × DiskSpec}
    (h : WithDisk t role kind sizeGb mountPath e) (hplane : t.planeName = s.planeName)
    (hname : (kindStart kind).toList <+: e.1.name.toList) : OwnDisk s kind e.1 e.2 := by
  obtain ⟨path,-,hdisk⟩ := h.disk
  refine ⟨?_,?_,hname⟩
  · simp only [hdisk,privateDisk,diskOf,h.privateDiskName,h.planeName,hplane]
  · simp only [hdisk,privateDisk]

lemma WorkerAt.ownDisk (h : WorkerAt r t total index w) (hplane : t.planeName = s.planeName) :
    OwnDisk s .workerPrivate w.spec w.disk := by
  obtain ⟨path,-,hdisk⟩ := h.disk
  refine ⟨?_,?_,?_⟩
  · simp only [hdisk,privateDisk,diskOf,h.privateDiskName,h.planeName,hplane]
  · simp only [hdisk,privateDisk]
  · rw [h.name]
    unfold buildWorkerName
    split
    · exact prefix_append_text _ _
    · rw [String.append_assoc,String.append_assoc]
      exact prefix_append_text _ _

namespace Renders

variable (h : Renders dump r p)

include h

lemma ownDisks (role : InstanceRole) (hrole : role ≠ .infer) :
    Forall₂ (OwnDisk p.state (privateKind role)) (p.ofRole role) (p.ofKind (privateKind role)) := by
  have hpairs : ∀ {kind : DiskKind} {l : List (InstanceSpec × DiskSpec)}, (∀ e ∈ l, OwnDisk p.state kind e.1 e.2) →
      Forall₂ (OwnDisk p.state kind) (l.map Prod.fst) (l.map Prod.snd) := by
    intro kind l hall
    rw [forall₂_map_left_iff,forall₂_map_right_iff,forall₂_same]
    exact hall
  have hsingle : ∀ {role : InstanceRole}, Forall₂ (OwnDisk p.state (privateKind role))
      ((p.single role).map Prod.fst) ((p.single role).map Prod.snd) := by
    intro role
    refine hpairs fun e he => ?_
    obtain ⟨-,hname,_,_,hdisk⟩ := h.single he
    exact hdisk.ownDisk rfl (hname ▸ prefix_append_text _ _)
  cases role with
  | infer => exact absurd rfl hrole
  | worker =>
    obtain ⟨total,-,hall⟩ := h.workerAt
    refine forall₂_map_left_iff.2 (forall₂_map_right_iff.2 (forall₂_same.2 fun w hw => ?_))
    obtain ⟨index,-,hat⟩ := forall₂_mem_right hall hw
    exact hat.ownDisk rfl
  | app =>
    refine hpairs fun e he => ?_
    obtain ⟨app,index,-,-,hat⟩ := h.appAt he
    obtain ⟨marked,appName,-,-,hname⟩ := hat.name
    refine hat.withDisk.ownDisk rfl (hname ▸ ?_)
    unfold buildAppInstanceName
    split
    · exact prefix_append_text _ _
    · rw [String.append_assoc,String.append_assoc]
      exact prefix_append_text _ _
  | skills | browsing | interaction | voiceModule | voiceMaker => exact hsingle

lemma ofKind_cases (hd : d ∈ p.ofKind kind) :
    kind = .planeShared ∧ (∃ size, ∃ node ∈ p.settings.nodes.map (·.name), d = sharedDisk p.settings size node) ∨
    kind ≠ .planeShared ∧ ∃ role, ∃ i ∈ p.ofRole role, OwnDisk p.state kind i d := by
  have hown : ∀ role, role ≠ .infer → d ∈ p.ofKind (privateKind role) →
      ∃ role', ∃ i ∈ p.ofRole role', OwnDisk p.state (privateKind role) i d :=
    fun role hrole hd => ⟨role,forall₂_mem_right (h.ownDisks role hrole) hd⟩
  cases kind with
  | planeShared =>
    obtain ⟨size,-,hdisks⟩ := h.sharedDisks_eq
    rw [Parts.ofKind,hdisks] at hd
    obtain ⟨node,hnode,rfl⟩ := mem_map.1 hd
    exact .inl ⟨rfl,size,node,mem_sortedSet.1 hnode,rfl⟩
  | inferPrivate => simp [Parts.ofKind] at hd
  | workerPrivate => exact .inr ⟨by decide,hown .worker (by decide) hd⟩
  | appPrivate => exact .inr ⟨by decide,hown .app (by decide) hd⟩
  | skillsPrivate => exact .inr ⟨by decide,hown .skills (by decide) hd⟩
  | browsingPrivate => exact .inr ⟨by decide,hown .browsing (by decide) hd⟩
  | interactionPrivate => exact .inr ⟨by decide,hown .interaction (by decide) hd⟩
  | voiceModulePrivate => exact .inr ⟨by decide,hown .voiceModule (by decide) hd⟩
  | voiceMakerPrivate => exact .inr ⟨by decide,hown .voiceMaker (by decide) hd⟩

lemma ofKind_spec (kind : DiskKind) :
    ∀ d ∈ p.ofKind kind, d.kind = kind ∧ (kindStart kind).toList <+: d.name.toList := by
  intro d hd
  obtain ⟨rfl,size,node,-,rfl⟩ | ⟨-,role,i,-,hown⟩ := h.ofKind_cases hd
  · refine ⟨rfl,?_⟩
    change (kindStart .planeShared).toList <+: p.settings.planeSharedDiskName.toList
    rw [h.settingsAt.planeSharedDiskName,String.append_assoc]
    exact prefix_append_text _ _
  · exact ⟨hown.kind_eq,hown.name_start⟩

omit h in
lemma disks_state (p : Parts) : p.state.disks = kindOrder.flatMap p.ofKind := by
  simp [Parts.state,Parts.services,kindOrder,Parts.ofKind]

lemma disksOf_state (kind : DiskKind) : disksOf p.state kind = p.ofKind kind := by
  rw [disksOf,disks_state,filter_flatMap_key (by decide) (fun kind d hd => (h.ofKind_spec kind d hd).1)
    (mem_kindOrder kind)]

lemma diskIdentity : DiskIdentity p.state := by
  have hdisks : disksOf p.state = p.ofKind := funext h.disksOf_state
  obtain ⟨total,-,hworkers⟩ := h.workerAt
  refine {
    order := by rw [hdisks,disks_state]
    named := fun d hd => ?_
    owned := fun role hrole => by
      rw [hdisks,h.findInstances]
      exact h.ownDisks role hrole
    noInfer := by rw [hdisks]; rfl
    alike := fun d hd d' hd' => ?_
    interaction := fun d hd => ?_
    sharedName := h.settingsAt.planeSharedDiskName, shared := ?_}
  · rw [disks_state] at hd
    obtain ⟨kind,-,hd⟩ := mem_flatMap.1 hd
    obtain ⟨rfl,hname⟩ := h.ofKind_spec kind d hd
    exact hname
  · rw [hdisks] at hd hd'
    obtain ⟨w,hw,rfl⟩ := mem_map.1 hd
    obtain ⟨w',hw',rfl⟩ := mem_map.1 hd'
    obtain ⟨k,-,hat⟩ := forall₂_mem_right hworkers hw
    obtain ⟨k',-,hat'⟩ := forall₂_mem_right hworkers hw'
    obtain ⟨path,hpath,hdisk⟩ := hat.disk
    obtain ⟨path',hpath',hdisk'⟩ := hat'.disk
    rw [hdisk,hdisk']
    exact ⟨ok_unique hat.sizeGb hat'.sizeGb,ok_unique hpath hpath'⟩
  · rw [hdisks] at hd
    obtain ⟨e,he,rfl⟩ := mem_map.1 hd
    have hat := (renderInteractionSpec_spec (h.interactionAt he).2.1).withDisk
    obtain ⟨path,hpath,hdisk⟩ := hat.disk
    rw [hdisk]
    exact ⟨(ok.inj hat.sizeGb).symm,(ok.inj hpath).symm⟩
  · rw [hdisks]
    obtain ⟨size,-,hshared⟩ := h.sharedDisks_eq
    exact ⟨size,hshared⟩

end Renders

lemma findDiskByName_of_mem (hd : DiskIdentity s) (hmem : d ∈ s.disks) :
    findDiskByName s d.name = (disksOf s d.kind).find? fun d' => d'.name = d.name := by
  rw [findDiskByName,disksOf,find?_filter]
  refine find?_congr fun d' hd' => ?_
  by_cases hname : d'.name = d.name
  · have hkind : d'.kind = d.kind := kindStart_inj (hname ▸ hd.named d' hd') (hd.named d hmem)
    simp [hname,hkind]
  · simp [hname]

lemma mem_of_disksOf (h : d ∈ disksOf s kind) : d ∈ s.disks ∧ d.kind = kind := by simpa [disksOf] using h

lemma findDiskByName_first (hd : DiskIdentity s) (h : (disksOf s kind).head? = some d) :
    findDiskByName s d.name = some d := by
  obtain ⟨hmem,hkind⟩ := mem_of_disksOf (mem_of_mem_head? h)
  rw [findDiskByName_of_mem hd hmem,hkind]
  cases hdisks : disksOf s kind with
  | nil => simp [hdisks] at h
  | cons d' disks =>
    obtain rfl : d' = d := by simpa [hdisks] using h
    simp

lemma storedSharedGb_eq (hd : DiskIdentity s) (hnodes : s.nodes ≠ [])
    (hshared : disksOf s .planeShared = (sortedSet (s.nodes.map (·.name))).map (sharedDisk s size)) :
    storedSharedGb s = size := by
  have hne : s.planeSharedDiskName ≠ "" := by
    rw [hd.sharedName,String.append_assoc]
    simp
  obtain ⟨node,hnode⟩ : ∃ node, (sortedSet (s.nodes.map (·.name))).head? = some node := by
    obtain ⟨n,nodes,hcons⟩ := exists_cons_of_ne_nil hnodes
    cases hset : sortedSet (s.nodes.map (·.name)) with
    | nil =>
      have : n.name ∈ sortedSet (s.nodes.map (·.name)) := by simp [hcons]
      simp [hset] at this
    | cons node rest => exact ⟨node,rfl⟩
  have hfirst : (disksOf s .planeShared).head? = some (sharedDisk s size node) := by
    rw [hshared,head?_map,hnode,Option.map_some]
  have hfind : findDiskByName s s.planeSharedDiskName = some (sharedDisk s size node) := findDiskByName_first hd hfirst
  rw [storedSharedGb,findSharedDisk,if_pos hne,hfind]
  rfl

lemma storedDisk_eq_iff : storedDisk (some d) size = (d.sizeGb,d.containerPath) ↔
    (d.sizeGb = defaultDiskSizeGb d.kind → d.containerPath = "/naim/private" → d.sizeGb = size) := by
  simp only [storedDisk]
  by_cases hdefault : d.sizeGb = defaultDiskSizeGb d.kind ∧ d.containerPath = "/naim/private"
  · rw [if_pos hdefault]
    simp [hdefault.1,hdefault.2,eq_comm]
  · rw [if_neg hdefault]
    exact ⟨fun _ h₁ h₂ => absurd ⟨h₁,h₂⟩ hdefault,fun _ => rfl⟩

lemma diskOf_inj :
    diskOf s kind name node disk = diskOf s kind name' node' disk' ↔ name = name' ∧ node = node' ∧ disk = disk' := by
  constructor
  · intro h
    exact ⟨congrArg DiskSpec.ownerName h,congrArg DiskSpec.nodeName h,
      Prod.ext (congrArg DiskSpec.sizeGb h) (congrArg DiskSpec.containerPath h)⟩
  · rintro ⟨rfl,rfl,rfl⟩
    rfl

lemma eq_singleton_of_nodup (hnodup : l.Nodup) (h : ∀ x, x = a ↔ x ∈ l) : l = [a] := by
  refine perm_singleton.1 ((perm_ext_iff_of_nodup hnodup (nodup_singleton a)).2 fun x => ?_)
  rw [mem_singleton]
  exact (h x).symm

lemma oneDisk (hd : DiskIdentity s) (hone : OneNamed s role name) (hrole : role ≠ .infer) :
    findInstance s role = none ∧ findInstances s role = [] ∧ disksOf s (privateKind role) = [] ∨
    ∃ i d, findInstance s role = some i ∧ findInstances s role = [i] ∧ disksOf s (privateKind role) = [d] ∧
      (∀ node disk, diskOf s (privateKind role) name node disk = d ↔
        node = i.nodeName ∧ disk = (d.sizeGb,d.containerPath)) ∧
      d.kind = privateKind role ∧ findDiskByName s i.privateDiskName = some d := by
  have howned := hd.owned role hrole
  have heq := hone.eq_toList
  cases hi : findInstance s role with
  | none =>
    rw [heq,hi] at howned
    exact .inl ⟨rfl,by rw [heq,hi]; rfl,forall₂_nil_left_iff.1 howned⟩
  | some i =>
    rw [heq,hi] at howned
    obtain ⟨d,disks,hown,hrest,hdisks⟩ := forall₂_cons_left_iff.1 howned
    obtain rfl := forall₂_nil_left_iff.1 hrest
    have hname := hone.name i (by simp [heq,hi])
    refine .inr ⟨i,d,rfl,by rw [heq,hi]; rfl,hdisks,fun node disk => ?_,hown.kind_eq,?_⟩
    · have hinj : diskOf s (privateKind role) i.name node disk = d ↔
          i.name = i.name ∧ node = i.nodeName ∧ disk = (d.sizeGb,d.containerPath) := by
        rw [← diskOf_inj,← hown.1]
      rw [← hname,hinj]
      exact and_iff_right rfl
    · rw [hown.2.1]
      exact findDiskByName_first hd (by rw [hdisks,head?_cons])

lemma sameServiceDisk_iff (hd : DiskIdentity s) (hone : OneNamed s role name)
    (hrole : role = .skills ∨ role = .browsing) {l : List (InstanceSpec × DiskSpec)}
    (hl : l.map seen = reloadedService s role (privateKind role) name) :
    l.map Prod.snd = disksOf s (privateKind role) ↔ ∀ i ∈ findInstances s role,
      i.nodeName = defaultNodeName s → reloadedApp s = defaultNodeName s := by
  have hdefault : defaultDiskSizeGb (privateKind role) = 1 := by
    rcases hrole with rfl | rfl <;> rfl
  rw [disks_seen,hl,reloadedService]
  rcases oneDisk hd hone (by rcases hrole with rfl | rfl <;> decide) with ⟨hnone,hnil,hdisks⟩ |
    ⟨i,d,hi,hsingle,hdisks,hdisk,hkind,hfound⟩
  · simp [hnone,hnil,hdisks]
  · have hstored : storedDisk (some d) 1 = (d.sizeGb,d.containerPath) := by
      rw [storedDisk_eq_iff,hkind,hdefault]
      exact fun heq _ => heq
    rw [hi,hsingle,hdisks,Option.toList_some,map_singleton,map_singleton,singleton_inj,hfound,hstored]
    simp [serviceOn,hdisk,← reloadedHome_eq_self]

section Disks

variable (hid : Identity s) (hd : DiskIdentity s) (h : Renders dump (storedSections s) p) (hs : Settled s)
variable (hstore : Storable s) (ht : Reloaded s p.settings)

include hd h hs ht

lemma sameShared_iff : p.sharedDisks = disksOf s .planeShared ↔
    shouldEmitTopology s = true ∨ s.nodes.map (·.name) = [defaultNodeName s] := by
  obtain ⟨size,hsize,hdisks⟩ := h.sharedDisks_eq
  obtain ⟨size',hshared⟩ := hd.shared
  obtain rfl := ok_unique (sharedDiskGb_project s) hsize
  obtain rfl := storedSharedGb_eq hd hs.nodes.nonempty hshared
  have hdisk : sharedDisk p.settings (storedSharedGb s) = sharedDisk s (storedSharedGb s) := by
    funext node
    simp only [sharedDisk,ht.planeName,ht.planeSharedDiskName,hd.sharedName]
  have hinj : Function.Injective (sharedDisk s (storedSharedGb s)) := fun a b hab => congrArg DiskSpec.nodeName hab
  rw [hdisks,hshared,hdisk,(map_injective_iff.2 hinj).eq_iff,sortedSet_eq_iff,ht.nodes,reloadedNodes]
  by_cases htopo : shouldEmitTopology s = true
  · simp [htopo,reloadedNode]
  · simp only [htopo,Bool.false_eq_true,if_false,false_or,map_singleton,mixedNode,mem_singleton]
    constructor
    · exact eq_singleton_of_nodup hs.nodes.nodup
    · intro heq x
      rw [heq,mem_singleton]

include hid hstore

lemma sameWorkerDisks : p.workers.map (·.disk) = disksOf s .workerPrivate := by
  obtain ⟨first,hfirst,-⟩ := exists_firstWorker hs.workers.nonempty
  obtain ⟨workers,hcons⟩ := head?_eq_some_iff.1 hfirst
  have howned : Forall₂ (OwnDisk s .workerPrivate) (findInstances s .worker) (disksOf s .workerPrivate) :=
    hd.owned .worker (by decide)
  obtain ⟨d,disks,hown,-,hdisks⟩ := forall₂_cons_left_iff.1 (hcons ▸ howned)
  have hmem : d ∈ disksOf s .workerPrivate := by simp [hdisks]
  have hfound : findDiskByName s first.privateDiskName = some d := by
    rw [hown.2.1]
    exact findDiskByName_first hd (by rw [hdisks,head?_cons])
  have hstored : storedDisk (findDiskByName s first.privateDiskName) 2 = (d.sizeGb,d.containerPath) := by
    rw [hfound,storedDisk_eq_iff,hown.kind_eq]
    exact fun heq _ => heq
  rw [workerDisks_reload h hs hstore ht hfirst,hstored,zipIdx_map_eq_iff howned.length_eq]
  intro k i d' hi hd'
  have hown' : OwnDisk s .workerPrivate i d' := forall₂_getElem? howned hi hd'
  obtain ⟨hsize,hpath⟩ := hd.alike d hmem d' (mem_of_getElem? hd')
  rw [hown'.1,diskOf_inj,hsize,hpath]
  exact ⟨(hid.workers k i hi).symm,rfl,rfl⟩

omit hid in
lemma sameAppDisks_iff : p.apps.map Prod.snd = disksOf s .appPrivate ↔
    (∀ k i, (findInstances s .app)[k]? = some i → i.name = reloadedAppName s k i ∧
      (i.nodeName = defaultNodeName s → reloadedApp s = defaultNodeName s)) ∧
    ∀ d ∈ disksOf s .appPrivate, ∀ d', findDiskByName s d.name = some d' →
      d'.sizeGb = d.sizeGb ∧ d'.containerPath = d.containerPath := by
  have howned : Forall₂ (OwnDisk s .appPrivate) (findInstances s .app) (disksOf s .appPrivate) :=
    hd.owned .app (by decide)
  rw [disks_seen,apps_reload h hs hstore ht,reloadedApps,map_map,zipIdx_map_eq_iff howned.length_eq]
  -- one app with its disk
  have happ : ∀ k i d, (findInstances s .app)[k]? = some i → (disksOf s .appPrivate)[k]? = some d →
      (diskOf s .appPrivate (reloadedAppName s k i) (reloadedHome s i.nodeName (reloadedApp s))
          (storedAppDisk (findDiskByName s i.privateDiskName)) = d ↔
        (i.name = reloadedAppName s k i ∧
          (i.nodeName = defaultNodeName s → reloadedApp s = defaultNodeName s)) ∧
        ∀ d', findDiskByName s d.name = some d' → d'.sizeGb = d.sizeGb ∧ d'.containerPath = d.containerPath) := by
    intro k i d hi hdisk
    have hown : OwnDisk s .appPrivate i d := forall₂_getElem? howned hi hdisk
    obtain ⟨hmem,hkind⟩ := mem_of_disksOf (mem_of_getElem? hdisk)
    obtain ⟨d',hfound⟩ : ∃ d', findDiskByName s d.name = some d' := by
      rw [← Option.isSome_iff_exists,findDiskByName,find?_isSome]
      exact ⟨d,hmem,by simp⟩
    have hdisk : diskOf s .appPrivate (reloadedAppName s k i) (reloadedHome s i.nodeName (reloadedApp s))
        (storedAppDisk (findDiskByName s i.privateDiskName)) = d ↔ reloadedAppName s k i = i.name ∧
          reloadedHome s i.nodeName (reloadedApp s) = i.nodeName ∧
          storedAppDisk (findDiskByName s d.name) = (d.sizeGb,d.containerPath) := by
      rw [hown.2.1,← diskOf_inj,← hown.1]
    rw [hdisk,← reloadedHome_eq_self,hfound]
    simp [storedAppDisk,eq_comm,and_assoc]
  constructor
  · intro hall
    have hdisk : ∀ (k : ℕ) i, (findInstances s .app)[k]? = some i → ∃ d, (disksOf s .appPrivate)[k]? = some d := by
      intro k i hi
      have hlt := howned.length_eq ▸ (List.getElem?_eq_some_iff.1 hi).1
      exact ⟨_,getElem?_eq_getElem hlt⟩
    refine ⟨fun k i hi => ?_,fun d hdisks => ?_⟩
    · obtain ⟨d,hdisk⟩ := hdisk k i hi
      exact ((happ k i d hi hdisk).1 (hall k i d hi hdisk)).1
    · obtain ⟨k,hk⟩ := mem_iff_getElem?.1 hdisks
      have hlt := howned.length_eq.symm ▸ (List.getElem?_eq_some_iff.1 hk).1
      have hi := getElem?_eq_getElem hlt
      exact ((happ k _ d hi hk).1 (hall k _ d hi hk)).2
  · rintro ⟨hnames,hdisks⟩ k i d hi hdisk
    exact (happ k i d hi hdisk).2 ⟨hnames k i hi,hdisks d (mem_of_getElem? hdisk)⟩

omit hid in
lemma sameInteractionDisk_iff (hone : OneNamed s .interaction (interactionInstanceName s.planeName))
    (hon : (findInstance s .interaction).isSome = decide (s.planeMode = .llm)) :
    p.interactions.map Prod.snd = disksOf s .interactionPrivate ↔
      ∀ i ∈ findInstances s .interaction, i.nodeName = reloadedInfer s 0 := by
  rw [disks_seen,interactions_reload h hs hstore ht,reloadedInteraction]
  rcases oneDisk hd hone (by decide) with ⟨hnone,hnil,hdisks⟩ | ⟨i,d,hi,hsingle,hdisks,hdisk,hkind,hfound⟩
  · have hmode : s.planeMode ≠ .llm := by simpa [hnone,eq_comm] using hon
    have hdisks : disksOf s .interactionPrivate = [] := hdisks
    simp [hmode,hnil,hdisks]
  · have hmode : s.planeMode = .llm := by simpa [hi,eq_comm] using hon
    have hdisks : disksOf s .interactionPrivate = [d] := hdisks
    obtain ⟨hsize,hpath⟩ := hd.interaction d (by simp [hdisks])
    have hdisk := hdisk (reloadedInfer s 0) (1,"/naim/private")
    rw [hsize,hpath] at hdisk
    rw [if_pos hmode,hsingle,hdisks,map_singleton,singleton_inj]
    simpa [serviceOn,eq_comm,privateKind] using hdisk

lemma sameVoiceDisk_iff {on : Bool} (hon : VoiceOn s role on) (hone : OneNamed s role name) (hrole : role ≠ .infer)
    {l : List (InstanceSpec × DiskSpec)}
    (hl : l.map seen = if on then [reloadedVoice s role (privateKind role) name (sharedHost s role p.workers) size]
      else []) :
    l.map Prod.snd = disksOf s (privateKind role) ↔
      (∀ i ∈ findInstances s role, i.gpuDevice = none → i.nodeName = reloadedApp s) ∧
      ∀ d ∈ disksOf s (privateKind role), d.sizeGb = defaultDiskSizeGb (privateKind role) →
        d.containerPath = "/naim/private" → d.sizeGb = size := by
  rw [disks_seen,hl,← hon.enabled]
  rcases oneDisk hd hone hrole with ⟨hnone,hnil,hdisks⟩ | ⟨i,d,hi,hsingle,hdisks,hdisk,hkind,hfound⟩
  · simp [hnone,hnil,hdisks]
  · obtain ⟨hhome,-⟩ := voiceHome_reload hid h hs hstore ht hon hi
    have hstored : storedDisk (some d) size = (d.sizeGb,d.containerPath) ↔ _ := storedDisk_eq_iff
    rw [hkind] at hstored
    rw [hi,Option.isSome_some,if_pos rfl,hsingle,hdisks,map_singleton,singleton_inj,reloadedVoice,hi,
      Option.bind_some,hfound,serviceOn,hdisk]
    simp only [mem_singleton,forall_eq,hhome,hstored]

end Disks

structure SameDisks (s : DesiredState) : Prop where
  storable : Storable s
  nodes : shouldEmitTopology s = true ∨ s.nodes.map (·.name) = [defaultNodeName s]
  appNames : ∀ k i, (findInstances s .app)[k]? = some i → i.name = reloadedAppName s k i
  appDisks : ∀ d ∈ disksOf s .appPrivate, ∀ d', findDiskByName s d.name = some d' →
    d'.sizeGb = d.sizeGb ∧ d'.containerPath = d.containerPath
  followers : ∀ role, role = .app ∨ role = .skills ∨ role = .browsing → ∀ i ∈ findInstances s role,
    i.nodeName = defaultNodeName s → reloadedApp s = defaultNodeName s
  interaction : ∀ i ∈ findInstances s .interaction, i.nodeName = reloadedInfer s 0
  voices : ∀ role, role = .voiceModule ∨ role = .voiceMaker → ∀ i ∈ findInstances s role,
    i.gpuDevice = none → i.nodeName = reloadedApp s
  voiceModule : ∀ d ∈ disksOf s .voiceModulePrivate, ¬(d.sizeGb = 8 ∧ d.containerPath = "/naim/private")

lemma reload_disks_iff (hid : Identity s) (hd : DiskIdentity s) (hs : Settled s)
    (hbackend : s.inference.distributedBackend ≠ "") :
    (∃ s', render dump (project s) = .ok s' ∧ s'.disks = s.disks) ↔ SameDisks s := by
  -- kind by kind, for every reload
  refine reload_iff hid.voicesHosted hs hbackend SameDisks.storable fun p h hstore ht => ?_
  have hshared := sameShared_iff hd h hs ht
  have hworkers := sameWorkerDisks hid hd h hs hstore ht
  have happs := sameAppDisks_iff hd h hs hstore ht
  have hskills := sameServiceDisk_iff hd hid.skills (.inl rfl) (skills_reload h hs hstore ht)
  have hgateways := sameServiceDisk_iff hd hid.browsing (.inr rfl) (gateways_reload h hs hstore ht)
  have hinteractions := sameInteractionDisk_iff hd h hs hstore ht hid.interaction hid.interacts
  have hmodules := sameVoiceDisk_iff hid hd h hs hstore ht hid.listens hid.voiceModule (by decide)
    (modules_reload h hs hstore ht)
  have hmakers := sameVoiceDisk_iff hid hd h hs hstore ht hid.speaks hid.voiceMaker (by decide)
    (makers_reload h hs hstore ht)
  rw [Renders.disks_state,hd.order,flatMap_eq_iff_of_key (by decide) (fun kind d hd => (h.ofKind_spec kind d hd).1)
    (fun kind d hd => (mem_of_disksOf hd).2)]
  constructor
  · intro hall
    have hall := fun kind => hall kind (mem_kindOrder kind)
    obtain ⟨happs,hsizes⟩ := happs.1 (hall .appPrivate)
    obtain ⟨hmodules,hsize⟩ := hmodules.1 (hall .voiceModulePrivate)
    refine ⟨hstore,hshared.1 (hall .planeShared),fun k i hi => (happs k i hi).1,hsizes,?_,
      hinteractions.1 (hall .interactionPrivate),?_,?_⟩
    · rintro role (rfl | rfl | rfl)
      · intro i hi
        obtain ⟨k,hk⟩ := mem_iff_getElem?.1 hi
        exact (happs k i hk).2
      · exact hskills.1 (hall .skillsPrivate)
      · exact hgateways.1 (hall .browsingPrivate)
    · rintro role (rfl | rfl)
      · exact hmodules
      · exact (hmakers.1 (hall .voiceMakerPrivate)).1
    · rintro d hmem ⟨hdefault,hpath⟩
      have : (8 : Int32) = 1 := hdefault ▸ hsize d hmem hdefault hpath
      exact absurd this (by decide)
  · intro hsame kind _
    cases kind with
    | planeShared => exact hshared.2 hsame.nodes
    | inferPrivate => exact hd.noInfer.symm
    | workerPrivate => exact hworkers
    | appPrivate => exact happs.2 ⟨fun k i hi =>
        ⟨hsame.appNames k i hi,hsame.followers .app (.inl rfl) i (mem_of_getElem? hi)⟩,hsame.appDisks⟩
    | skillsPrivate => exact hskills.2 (hsame.followers .skills (.inr (.inl rfl)))
    | browsingPrivate => exact hgateways.2 (hsame.followers .browsing (.inr (.inr rfl)))
    | interactionPrivate => exact hinteractions.2 hsame.interaction
    | voiceModulePrivate => exact hmodules.2 ⟨hsame.voices .voiceModule (.inl rfl),
        fun d hd hdefault hpath => absurd ⟨hdefault,hpath⟩ (hsame.voiceModule d hd)⟩
    | voiceMakerPrivate => exact hmakers.2 ⟨hsame.voices .voiceMaker (.inr rfl),fun d hd hdefault _ => hdefault⟩

/-- A rendered plane has the same disks after a reload exactly when `SameDisks` holds of it. -/
theorem storedDisks_eq_iff (dump : Json → String) (doc : Json) (s : DesiredState) (h : render dump doc = .ok s) :
    (∃ s', render dump (project s) = .ok s' ∧ s'.disks = s.disks) ↔ SameDisks s := by
  obtain ⟨r,p,hp,rfl,hs,hbackend,hid⟩ := render_spec h
  exact reload_disks_iff hid hp.diskIdentity hs hbackend

theorem storedDisks_eq_twoApps : ∃ s, render (fun _ => "") (twoApps "node-b") = .ok s ∧ SameDisks s := by
  have h : onReload (fun _ => "") (twoApps "node-b") (fun s s' => decide (s'.disks = s.disks)) = .ok true := by
    decide +kernel
  obtain ⟨s,s',hs,hs',hdisks⟩ := onReload_eq_ok h
  exact ⟨s,hs,(storedDisks_eq_iff _ _ s hs).1 ⟨s',hs',of_decide_eq_true hdisks⟩⟩

def listening : Json := ofFields [
  field "version" (some (2 : Int32)),field "plane_name" (some "demo"),field "plane_mode" (some "llm"),
  ("model",some (ofFields [
    ("source",some (ofFields [field "type" (some "local"),field "path" (some "/models/m.gguf")])),
    ("materialization",some (ofFields [field "mode" (some "reference"),field "local_path" (some "/models/m.gguf")])),
    field "served_model_name" (some "m")])),
  ("runtime",some (ofFields [field "engine" (some "llama.cpp"),field "workers" (some (1 : Int32)),
    field "distributed_backend" (some "llama_rpc")])),
  ("features",some (ofFields [("voice_listener",some (ofFields [
    field "enabled" (some true),field "wake_phrase" (some "hey"),
    ("model",some (ofFields [("source",some (ofFields [field "type" (some "library"),field "path" (some "/m")])),
      field "mount_path" (some "/m")])),
    ("storage",some (ofFields [field "size_gb" (some (8 : Int32))]))]))])),
  ("infer",some (ofFields [field "replicas" (some (1 : Int32))])),
  ("app",some (ofFields [field "enabled" (some false)]))]

/-- The projector leaves the default size of the voice module out, and the renderer reads another default. -/
theorem storedDisks_ne_listening : ∃ s s', render (fun _ => "") listening = .ok s ∧
    render (fun _ => "") (project s) = .ok s' ∧
    (disksOf s .voiceModulePrivate).map (fun d => (d.name,d.sizeGb)) = [("voice-module-demo-private",8)] ∧
    (disksOf s' .voiceModulePrivate).map (fun d => (d.name,d.sizeGb)) = [("voice-module-demo-private",1)] := by
  decide +kernel

end Naim.Storage
