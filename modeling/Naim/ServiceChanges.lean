import Naim.DiskSafety

/-!
# Changes of services

A host starts its services again when the signature of an instance or of a disk
changes. The compose plan of the node reads more than the signatures show, so the
comparison is exact only between states that agree on the rest.
-/

namespace Naim.ExecutionPlan

open Checked InferRuntimeConfig List Planner Text

/-- An instance without the fields that no compose plan reads. -/
def composeView (i : InstanceSpec) : InstanceSpec :=
  {i with
    planeName := "", placementMode := .manual, shareMode := .exclusive, gpuFraction := 0, priority := 0
    preemptible := false, memoryCapMb := none, privateDiskSizeGb := 0
    appModelMounts := i.appModelMounts.map fun mount => {hostPath := mount.hostPath, mountPath := mount.mountPath}}

section Views

variable (s : DesiredState) (nodeInstances : List InstanceSpec) (i : InstanceSpec)

lemma localWorkerGpuDevices_composeView :
    localWorkerGpuDevices (nodeInstances.map composeView) = localWorkerGpuDevices nodeInstances := by
  rw [localWorkerGpuDevices,foldl_map]
  rfl

lemma buildComposeService_composeView (internalHost : Option String) (disks : List DiskSpec) :
    buildComposeService internalHost (composeView i) disks (nodeInstances.map composeView) s =
      buildComposeService internalHost i disks nodeInstances s := by
  have hports : servicePorts s (composeView i) = servicePorts s i := rfl
  have hcache : buildDirectModelCacheVolume s (composeView i) = buildDirectModelCacheVolume s i := rfl
  have hplane : planeEnvironment s (composeView i) = planeEnvironment s i := rfl
  have hmounts : mountVolumes (composeView i) = mountVolumes i := by
    simp only [mountVolumes,composeView,filter_map,map_map]
    rfl
  simp only [buildComposeService,serviceEnvironment,serviceSecurityOpts,useNvidiaRuntime,serviceGpuDevice,
    serviceGpuDevices,localWorkerGpuDevices_composeView,find?_map,Option.bind_map,hports,hcache,hplane,hmounts,
    any_map]
  rfl

end Views

def composeViews (s : DesiredState) : DesiredState := {s with instances := s.instances.map composeView}

lemma instancesOn_composeViews (s : DesiredState) (nodeName : String) :
    instancesOn (composeViews s) nodeName = (instancesOn s nodeName).map composeView := by
  rw [instancesOn,composeViews,filter_map]
  rfl

lemma buildNodeComposePlan_composeViews (internalHost : Option String) (s : DesiredState) (nodeName : String) :
    buildNodeComposePlan internalHost (composeViews s) nodeName = buildNodeComposePlan internalHost s nodeName := by
  have hservice : ∀ i, buildComposeService internalHost (composeView i) (composeViews s).disks
      ((instancesOn s nodeName).map composeView) (composeViews s) =
        buildComposeService internalHost i s.disks (instancesOn s nodeName) s :=
    fun i => buildComposeService_composeView s (instancesOn s nodeName) i internalHost s.disks
  rw [buildNodeComposePlan,instancesOn_composeViews,List.mapM_map]
  simp only [Function.comp_def,hservice]
  rfl

variable {a : Char} {disk disk' : DiskSpec} {s desired current : DesiredState}

lemma not_mem_toString_int32 (hd : a.isDigit = false) (hs : a ≠ '-') (n : Int32) : a ∉ (toString n).toList :=
  not_mem_toString_int hd hs n.toInt

lemma toString_int32_injective : Function.Injective (toString : Int32 → String) := by
  intro n n' h
  have hread := stoi_toString n
  rw [h,stoi_toString] at hread
  exact (Except.ok.inj hread).symm

/-- The address may hold the separator: the two ports are read from the end. -/
lemma parts_publishedPortEntry (port : PublishedPort) : parts ':' (publishedPortEntry port) =
    parts ':' port.hostIp ++ [(toString port.hostPort).toList,(toString port.containerPort).toList] := by
  have hfree := fun n => not_mem_toString_int32 (show ':'.isDigit = false by decide) (by decide) n
  rw [publishedPortEntry,parts_intercalate (by rfl) (by simp)]
  simp [parts_of_free (hfree port.hostPort),parts_of_free (hfree port.containerPort)]

lemma publishedPortEntry_injective : Function.Injective publishedPortEntry := by
  intro port port' h
  have hparts := congrArg (parts ':') h
  rw [parts_publishedPortEntry,parts_publishedPortEntry] at hparts
  obtain ⟨hip,hports⟩ := append_inj' hparts (by simp)
  simp only [cons.injEq,and_true,String.toList_inj] at hports
  have h₁ := parts_injective ':' hip
  have h₂ := toString_int32_injective hports.1
  have h₃ := toString_int32_injective hports.2
  cases port
  simp_all

/-- The entries of a map can be told apart in its signature. -/
def LegibleMap (values : StringMap) : Prop :=
  ∀ e ∈ values, '=' ∉ e.1.toList ∧ ∀ text ∈ [e.1,e.2], '|' ∉ text.toList ∧ ';' ∉ text.toList

/-- The texts hold none of the characters that a signature puts between them. -/
structure Legible (i : InstanceSpec) : Prop where
  texts : ∀ text ∈ [i.image,i.command,i.privateDiskName,i.sharedDiskName], '|' ∉ text.toList
  device : ∀ device, i.gpuDevice = some device → '|' ∉ device.toList ∧ device ≠ "-"
  ports : ∀ port ∈ i.publishedPorts, '|' ∉ port.hostIp.toList ∧ ';' ∉ port.hostIp.toList
  mounts : ∀ mount ∈ i.appModelMounts,
    (∀ text ∈ [mount.hostPath,mount.mountPath,mount.envVar], '|' ∉ text.toList) ∧
    ∀ text ∈ [mount.name,mount.sourcePath,mount.sourceNodeName,mount.hostPath,mount.mountPath,mount.envVar] ++
      mount.sourcePaths, ';' ∉ text.toList
  environment : LegibleMap i.environment
  labels : LegibleMap i.labels

lemma perm_of_joined_sorted {α : Type} {entry : α → String} {items items' : List α}
    (hfree : ∀ a ∈ items, ';' ∉ (entry a).toList ∧ entry a ≠ "")
    (hfree' : ∀ a ∈ items', ';' ∉ (entry a).toList ∧ entry a ≠ "")
    (h : ";".intercalate ((items.map entry).insertionSort (· ≤ ·)) =
      ";".intercalate ((items'.map entry).insertionSort (· ≤ ·))) :
    (items.map entry).Perm (items'.map entry) := by
  have hsorted : ∀ {l : List α}, (∀ a ∈ l, ';' ∉ (entry a).toList ∧ entry a ≠ "") →
      ∀ text ∈ (l.map entry).insertionSort (· ≤ ·), ';' ∉ text.toList ∧ text ≠ "" := by
    intro l hl text htext
    obtain ⟨a,ha,rfl⟩ := mem_map.1 ((mem_insertionSort _).1 htext)
    exact hl a ha
  have heq := intercalate_inj_of_ne_empty (by rfl) (hsorted hfree) (hsorted hfree') h
  exact (perm_insertionSort (· ≤ ·) _).symm.trans (heq ▸ perm_insertionSort (· ≤ ·) _)

variable {i c d : InstanceSpec} {mount : AppModelMountSpec}

lemma publishedPortEntry_legible (h : Legible i) (hport : port ∈ i.publishedPorts) :
    (∀ c, c = '|' ∨ c = ';' → c ∉ (publishedPortEntry port).toList) ∧ publishedPortEntry port ≠ "" := by
  constructor
  · intro c hc
    have hdigits : ∀ n : Int32, c ∉ (toString n).toList := by
      rcases hc with rfl | rfl <;> exact not_mem_toString_int32 (by decide) (by decide)
    have hip : c ∉ port.hostIp.toList := by
      rcases hc with rfl | rfl
      · exact (h.ports port hport).1
      · exact (h.ports port hport).2
    exact not_mem_intercalate (by rcases hc with rfl | rfl <;> decide) (by simp [hip,hdigits])
  · intro hempty
    have hparts := congrArg List.length (parts_publishedPortEntry port)
    rw [hempty,length_append] at hparts
    have hone : (parts ':' "").length = 1 := by rfl
    simp [hone] at hparts

lemma perm_of_publishedPortsSignature (hc : Legible c) (hd : Legible d)
    (h : publishedPortsSignature c.publishedPorts = publishedPortsSignature d.publishedPorts) :
    c.publishedPorts.Perm d.publishedPorts := by
  have hfree : ∀ {i : InstanceSpec}, Legible i → ∀ port ∈ i.publishedPorts,
      ';' ∉ (publishedPortEntry port).toList ∧ publishedPortEntry port ≠ "" := by
    intro i hi port hport
    obtain ⟨hchars,hne⟩ := publishedPortEntry_legible hi hport
    exact ⟨hchars ';' (.inr rfl),hne⟩
  exact (map_perm_map_iff publishedPortEntry_injective).1 (perm_of_joined_sorted (hfree hc) (hfree hd) h)

def mountTargets (i : InstanceSpec) : List (String × String) :=
  i.appModelMounts.map fun mount => (mount.hostPath,mount.mountPath)

/-- The two paths of a mount, read from the end of its entry. -/
def entryTargets (entry : String) : String × String :=
  match (parts '|' entry).reverse with
  | _::_::mountPath::hostPath::_ => (String.ofList hostPath,String.ofList mountPath)
  | _ => ("","")

lemma parts_appModelMountEntry (h : Legible i) (hmount : mount ∈ i.appModelMounts) :
    ∃ first, parts '|' (appModelMountEntry mount) = first ++
      [mount.hostPath.toList,mount.mountPath.toList,mount.envVar.toList,[if mount.required then '1' else '0']] := by
  have hfree := (h.mounts mount hmount).1
  simp only [forall_mem_cons,not_mem_nil,false_implies,implies_true,and_true] at hfree
  have hrequired : parts '|' (if mount.required then "1" else "0") = [[if mount.required then '1' else '0']] := by
    cases mount.required <;> rfl
  refine ⟨parts '|' mount.name ++ (parts '|' mount.sourcePath ++ (parts '|' mount.sourceNodeName ++
    parts '|' (",".intercalate (mount.sourcePaths.insertionSort (· ≤ ·))))),?_⟩
  rw [appModelMountEntry,parts_intercalate (by rfl) (by simp)]
  simp [parts_of_free hfree.1,parts_of_free hfree.2.1,parts_of_free hfree.2.2,hrequired]

lemma appModelMountEntry_legible (h : Legible i) (hmount : mount ∈ i.appModelMounts) :
    ';' ∉ (appModelMountEntry mount).toList ∧ appModelMountEntry mount ≠ "" := by
  constructor
  · have hfree := (h.mounts mount hmount).2
    simp only [cons_append,nil_append,forall_mem_cons] at hfree
    obtain ⟨hname,hpath,hnode,hhost,hmount',henv,hsources⟩ := hfree
    have hpaths : ';' ∉ (",".intercalate (mount.sourcePaths.insertionSort (· ≤ ·))).toList :=
      not_mem_intercalate (by decide) fun text htext => hsources text ((mem_insertionSort _).1 htext)
    have hrequired : ';' ∉ (if mount.required then "1" else "0").toList := by cases mount.required <;> decide
    refine not_mem_intercalate (by decide) ?_
    simp only [forall_mem_cons,not_mem_nil,false_implies,implies_true,and_true]
    exact ⟨hname,hpath,hnode,hpaths,hhost,hmount',henv,hrequired⟩
  · intro hempty
    obtain ⟨first,hparts⟩ := parts_appModelMountEntry h hmount
    have hlength := congrArg List.length hparts
    have hone : (parts '|' "").length = 1 := by rfl
    rw [hempty,hone,length_append] at hlength
    simp at hlength

lemma perm_of_appModelMountsSignature (hc : Legible c) (hd : Legible d)
    (h : appModelMountsSignature c.appModelMounts = appModelMountsSignature d.appModelMounts) :
    (mountTargets c).Perm (mountTargets d) := by
  have hperm := perm_of_joined_sorted (fun mount => appModelMountEntry_legible hc)
    (fun mount => appModelMountEntry_legible hd) h
  have htargets : ∀ {i : InstanceSpec}, Legible i →
      (i.appModelMounts.map appModelMountEntry).map entryTargets = mountTargets i := by
    intro i hi
    rw [map_map,mountTargets]
    refine map_congr_left fun mount hmount => ?_
    obtain ⟨first,hparts⟩ := parts_appModelMountEntry hi hmount
    simp [entryTargets,hparts]
  rw [← htargets hc,← htargets hd]
  exact hperm.map entryTargets

lemma entry_inj {e e' : String × String} (he : '=' ∉ e.1.toList) (he' : '=' ∉ e'.1.toList)
    (h : e.1 ++ "=" ++ e.2 = e'.1 ++ "=" ++ e'.2) : e = e' := by
  have htext : ∀ e : String × String, '=' ∉ e.1.toList →
      (parts '=' (e.1 ++ "=" ++ e.2)) = e.1.toList::parts '=' e.2 := by
    intro e he
    have hjoin : e.1 ++ "=" ++ e.2 = "=".intercalate [e.1,e.2] := by
      simp
    rw [hjoin,parts_intercalate (by rfl) (by simp)]
    simp [parts_of_free he]
  have hparts := congrArg (parts '=') h
  rw [htext e he,htext e' he',cons.injEq] at hparts
  exact Prod.ext (String.toList_inj.1 hparts.1) (parts_injective '=' hparts.2)

lemma mapSignature_inj {values values' : StringMap} (h : LegibleMap values) (h' : LegibleMap values')
    (heq : mapSignature values = mapSignature values') : values = values' := by
  have hfree : ∀ {m : StringMap}, LegibleMap m → ∀ text ∈ m.map fun e => e.1 ++ "=" ++ e.2,
      ';' ∉ text.toList ∧ text ≠ "" := by
    intro m hm text htext
    obtain ⟨e,he,rfl⟩ := mem_map.1 htext
    have htexts := (hm e he).2
    simp only [forall_mem_cons,not_mem_nil,false_implies,implies_true,and_true] at htexts
    refine ⟨?_,fun hempty => ?_⟩
    · simp [htexts.1.2,htexts.2.2]
    · have := congrArg String.toList hempty
      simp at this
  have hentries := intercalate_inj_of_ne_empty (by rfl) (hfree h) (hfree h') heq
  clear heq
  induction values generalizing values' with
  | nil => exact (map_eq_nil_iff.1 hentries.symm).symm
  | cons e values ih =>
    cases values' with
    | nil => simp at hentries
    | cons e' values' =>
      rw [map_cons,map_cons,cons.injEq] at hentries
      rw [entry_inj (h e (by simp)).1 (h' e' (by simp)).1 hentries.1,
        ih (fun e he => h e (by simp [he])) (fun e he => h' e (by simp [he])) hentries.2]

lemma not_mem_mapSignature {values : StringMap} (h : LegibleMap values) : '|' ∉ (mapSignature values).toList := by
  refine not_mem_intercalate (by decide) fun text htext => ?_
  obtain ⟨e,he,rfl⟩ := mem_map.1 htext
  have htexts := (h e he).2
  simp only [forall_mem_cons,not_mem_nil,false_implies,implies_true,and_true] at htexts
  simp [htexts.1.1,htexts.2.1]

structure SameSigned (c d : InstanceSpec) : Prop where
  image : c.image = d.image
  command : c.command = d.command
  privateDiskName : c.privateDiskName = d.privateDiskName
  sharedDiskName : c.sharedDiskName = d.sharedDiskName
  gpuDevice : c.gpuDevice = d.gpuDevice
  publishedPorts : c.publishedPorts.Perm d.publishedPorts
  mountTargets : (mountTargets c).Perm (ExecutionPlan.mountTargets d)
  environment : c.environment = d.environment
  labels : c.labels = d.labels

def signedTexts (i : InstanceSpec) : List String :=
  [i.image,i.command,i.privateDiskName,i.sharedDiskName,optionalValue i.gpuDevice,i.shareMode.text,
    formatFixed i.gpuFraction,toString i.priority,if i.preemptible then "1" else "0",
    toString (i.memoryCapMb.getD 0),publishedPortsSignature i.publishedPorts]

lemma not_mem_formatFixed (hd : a.isDigit = false) (hs : a ≠ '-') (hp : a ≠ '.') (q : ℚ) :
    a ∉ (formatFixed q).toList := by
  have hzero : a ≠ '0' := by
    rintro rfl
    simp at hd
  have hnat := not_mem_toString_nat hd
  rw [formatFixed]
  simp only [String.toList_ofList,mem_append,mem_cons,mem_replicate]
  rintro ((hsign | hwhole) | hpoint | ⟨-,hpad⟩ | hdecimals)
  · split at hsign
    · exact hs (by simpa using hsign)
    · simp at hsign
  · exact hnat _ hwhole
  · exact hp hpoint
  · exact hzero hpad
  · exact hnat _ hdecimals

lemma not_mem_publishedPortsSignature (h : Legible i) :
    '|' ∉ (publishedPortsSignature i.publishedPorts).toList := by
  refine not_mem_intercalate (by decide) fun text htext => ?_
  obtain ⟨port,hport,rfl⟩ := mem_map.1 ((mem_insertionSort _).1 htext)
  exact (publishedPortEntry_legible h hport).1 '|' (.inl rfl)

lemma signedTexts_legible (h : Legible i) : ∀ text ∈ signedTexts i, '|' ∉ text.toList := by
  have htexts := h.texts
  simp only [forall_mem_cons,not_mem_nil,false_implies,implies_true,and_true] at htexts
  have hdevice : '|' ∉ (optionalValue i.gpuDevice).toList := by
    cases hd : i.gpuDevice with
    | none => decide
    | some device => exact (h.device device hd).1
  have hshare : '|' ∉ i.shareMode.text.toList := by cases i.shareMode <;> decide
  have hfraction : '|' ∉ (formatFixed i.gpuFraction).toList :=
    not_mem_formatFixed (by decide) (by decide) (by decide) _
  have hnumber : ∀ n : Int32, '|' ∉ (toString n).toList := not_mem_toString_int32 (by decide) (by decide)
  have hpreemptible : '|' ∉ (if i.preemptible then "1" else "0").toList := by
    cases i.preemptible <;> decide
  simp only [signedTexts,forall_mem_cons,not_mem_nil,false_implies,implies_true,and_true]
  exact ⟨htexts.1,htexts.2.1,htexts.2.2.1,htexts.2.2.2,hdevice,hshare,hfraction,hnumber _,hpreemptible,hnumber _,
    not_mem_publishedPortsSignature h⟩

lemma parts_instanceSignature (h : Legible i) : parts '|' (instanceSignature i) =
    parts '|' i.nodeName ++ (signedTexts i).map String.toList ++
      (parts '|' (appModelMountsSignature i.appModelMounts) ++
        [(mapSignature i.environment).toList,(mapSignature i.labels).toList]) := by
  have hfields : instanceSignature i = "|".intercalate ([i.nodeName] ++ signedTexts i ++
      [appModelMountsSignature i.appModelMounts,mapSignature i.environment,mapSignature i.labels]) := rfl
  rw [hfields,parts_intercalate (by rfl) (by simp),flatMap_append,flatMap_append,
    flatMap_parts_of_free (signedTexts_legible h)]
  simp [parts_of_free (not_mem_mapSignature h.environment),parts_of_free (not_mem_mapSignature h.labels)]

lemma optionalValue_inj (hc : Legible c) (hd : Legible d)
    (h : optionalValue c.gpuDevice = optionalValue d.gpuDevice) : c.gpuDevice = d.gpuDevice := by
  have hcd := fun device hdevice => (hc.device device hdevice).2
  have hdd := fun device hdevice => (hd.device device hdevice).2
  cases hc' : c.gpuDevice <;> cases hd' : d.gpuDevice <;> simp_all [optionalValue,eq_comm]

/-- Equal signatures of legible instances of one node: the texts agree, ports and mounts up to their order. -/
lemma sameSigned_of_instanceSignature (hc : Legible c) (hd : Legible d) (hnode : c.nodeName = d.nodeName)
    (h : instanceSignature c = instanceSignature d) : SameSigned c d := by
  have hparts := congrArg (parts '|') h
  rw [parts_instanceSignature hc,parts_instanceSignature hd,hnode] at hparts
  obtain ⟨hfront,hback⟩ := append_inj hparts (by simp [signedTexts])
  have htexts := map_injective_iff.2 (fun _ _ => String.toList_inj.1) (append_cancel_left hfront)
  obtain ⟨hmounts,hmaps⟩ := append_inj' hback (by simp)
  simp only [signedTexts,cons.injEq,and_true] at htexts
  simp only [cons.injEq,and_true,String.toList_inj] at hmaps
  obtain ⟨himage,hcommand,hprivate,hshared,hdevice,-,-,-,-,-,hports⟩ := htexts
  exact {
    image := himage, command := hcommand, privateDiskName := hprivate, sharedDiskName := hshared
    gpuDevice := optionalValue_inj hc hd hdevice, publishedPorts := perm_of_publishedPortsSignature hc hd hports
    mountTargets := perm_of_appModelMountsSignature hc hd (parts_injective '|' hmounts)
    environment := mapSignature_inj hc.environment hd.environment hmaps.1
    labels := mapSignature_inj hc.labels hd.labels hmaps.2}

def LegibleDisk (disk : DiskSpec) : Prop :=
  ∀ text ∈ [disk.planeName,disk.ownerName,disk.hostPath,disk.containerPath], '|' ∉ text.toList

lemma diskKind_text_injective : Function.Injective DiskKind.text := by
  intro kind kind' h
  have hread := StateJsonRuntimeCodecs.parseDiskKind_text kind
  rw [h,StateJsonRuntimeCodecs.parseDiskKind_text] at hread
  exact (Except.ok.inj hread).symm

lemma diskKey_inj (hnode : disk.nodeName = disk'.nodeName) (h : diskKey disk = diskKey disk') :
    disk.name = disk'.name := by
  rw [diskKey,diskKey,hnode,← String.toList_inj] at h
  simpa [String.toList_inj] using h

lemma disk_eq_of_diskSignature (h : LegibleDisk disk) (h' : LegibleDisk disk')
    (hnode : disk.nodeName = disk'.nodeName) (hkey : diskKey disk = diskKey disk')
    (hsignature : diskSignature disk = diskSignature disk') : disk = disk' := by
  have hfree : ∀ {disk : DiskSpec}, LegibleDisk disk → ∀ text ∈ [disk.planeName,disk.ownerName,disk.hostPath,
      disk.containerPath,toString disk.sizeGb,disk.kind.text], '|' ∉ text.toList := by
    intro disk h
    have hkind : '|' ∉ disk.kind.text.toList := by cases disk.kind <;> decide
    simp only [LegibleDisk,forall_mem_cons,not_mem_nil,false_implies,implies_true,and_true] at h ⊢
    exact ⟨h.1,h.2.1,h.2.2.1,h.2.2.2,not_mem_toString_int32 (by decide) (by decide) _,hkind⟩
  have htexts := intercalate_inj (by rfl) (hfree h) (hfree h') (by simp) (by simp) hsignature
  simp only [cons.injEq,and_true] at htexts
  obtain ⟨hplane,howner,hhost,hcontainer,hsize,hkind⟩ := htexts
  have hname := diskKey_inj hnode hkey
  have hsize := toString_int32_injective hsize
  have hkind := diskKind_text_injective hkind
  cases disk
  simp_all

/-- The inputs of the compose plan of a node that no signature shows. The names of two lists that differ only in
their order have equal signatures as well. -/
structure AgreeUnsigned (artifactsRoot nodeName : String) (current desired : DesiredState) : Prop where
  planeName : composePath artifactsRoot current.planeName nodeName = composePath artifactsRoot
    (if desired.planeName = "" then current.planeName else desired.planeName) nodeName →
      desired.planeName = current.planeName
  protectedPlane : desired.protectedPlane = current.protectedPlane
  llamaRpc : usesLlamaRpcRuntime desired = usesLlamaRpcRuntime current
  apiPort : desired.inference.apiPort = current.inference.apiPort
  listenPort : desired.gateway.listenPort = current.gateway.listenPort
  model : referencedModelPath desired = referencedModelPath current
  instances : ∀ c ∈ instancesOn current nodeName, ∀ d ∈ instancesOn desired nodeName, c.name = d.name →
    c.role = d.role ∧ c.dependsOn = d.dependsOn ∧
      (c.publishedPorts.Perm d.publishedPorts → c.publishedPorts = d.publishedPorts) ∧
      ((mountTargets c).Perm (mountTargets d) → mountTargets c = mountTargets d)
  instanceOrder : ((instancesOn current nodeName).map (·.name)).Perm ((instancesOn desired nodeName).map (·.name)) →
    (instancesOn current nodeName).map (·.name) = (instancesOn desired nodeName).map (·.name)
  diskOrder : (disksOn current nodeName).Perm (disksOn desired nodeName) →
    disksOn current nodeName = disksOn desired nodeName

lemma composeView_eq (hname : c.name = d.name) (hnode : c.nodeName = d.nodeName) (hrole : c.role = d.role)
    (hdepends : c.dependsOn = d.dependsOn) (hports : c.publishedPorts = d.publishedPorts)
    (hmounts : mountTargets c = mountTargets d) (h : SameSigned c d) : composeView c = composeView d := by
  have hviews : ∀ i : InstanceSpec,
      (i.appModelMounts.map fun mount => ({hostPath := mount.hostPath, mountPath := mount.mountPath} :
        AppModelMountSpec)) =
        (mountTargets i).map fun target => {hostPath := target.1, mountPath := target.2} := by
    intro i
    rw [mountTargets,map_map]
    rfl
  simp only [composeView,hname,hnode,hrole,hdepends,hports,hviews,hmounts,h.image,h.command,h.privateDiskName,
    h.sharedDiskName,h.gpuDevice,h.environment,h.labels]

lemma diskOperations_eq_nil {current desired : List (String × DiskSpec)} (h : diskOperations current desired = []) :
    (∀ e ∈ desired, ∃ old, current.lookup e.1 = some old ∧ diskSignature old = diskSignature e.2) ∧
      ∀ e ∈ current, (desired.lookup e.1).isSome := by
  rw [diskOperations_eq,append_eq_nil_iff,flatMap_eq_nil_iff] at h
  constructor
  · intro e he
    have hops := h.1 e he
    unfold keyOperations at hops
    split at hops
    · simp at hops
    next old hold =>
      split at hops
      · simp at hops
      · exact ⟨old,hold,not_not.1 ‹_›⟩
  · intro e he
    have hstale := h.2
    rw [staleOperations,map_eq_nil_iff,filter_eq_nil_iff] at hstale
    simpa [Option.isNone_iff_eq_none,Option.isSome_iff_ne_none] using hstale e he

lemma serviceOperations_eq_nil {current desired : List (String × InstanceSpec)}
    (h : serviceOperations current desired = []) :
    (∀ e ∈ desired, ∃ old, current.lookup e.1 = some old ∧ instanceSignature old = instanceSignature e.2) ∧
      ∀ e ∈ current, (desired.lookup e.1).isSome := by
  rw [serviceOperations,append_eq_nil_iff,map_eq_nil_iff,map_eq_nil_iff,filter_eq_nil_iff,
    filter_eq_nil_iff] at h
  constructor
  · intro e he
    have hsig := h.1 e he
    simp only [ne_eq,decide_eq_true_eq,not_not] at hsig
    exact Option.map_eq_some_iff.1 hsig
  · intro e he
    simpa [Option.isNone_iff_eq_none,Option.isSome_iff_ne_none] using h.2 e he

/-- What the comparison needs of a state: the disks of the node have different names, the texts of the node hold no
separators, and the ports of the infer instances are numbers. -/
structure Comparable (nodeName : String) (s : DesiredState) : Prop where
  diskNames : ((disksOn s nodeName).map (·.name)).Nodup
  instances : ∀ i ∈ instancesOn s nodeName, Legible i
  disks : ∀ disk ∈ disksOn s nodeName, LegibleDisk disk
  ports : ∀ infer ∈ s.instances, infer.role = .infer → ReadablePorts infer

section Unplanned

variable {nodeName artifactsRoot : String}

lemma disksOn_perm (hcurrent : Comparable nodeName current) (hdesired : Comparable nodeName desired)
    (h : diskOperations (buildDiskMapForNode current nodeName) (buildDiskMapForNode desired nodeName) = []) :
    (disksOn current nodeName).Perm (disksOn desired nodeName) := by
  have hnode : ∀ {s : DesiredState} {disk : DiskSpec}, disk ∈ disksOn s nodeName → disk.nodeName = nodeName := by
    intro s disk hdisk
    simpa using (mem_filter.1 hdisk).2
  have hkeys : ∀ {s : DesiredState}, ((disksOn s nodeName).map (·.name)).Nodup →
      ((disksOn s nodeName).map diskKey).Nodup := by
    intro s hnodup
    refine Nodup.map_on (fun a ha b hb hkey => ?_) (Nodup.of_map _ hnodup)
    exact inj_on_of_nodup_map hnodup ha hb (diskKey_inj ((hnode ha).trans (hnode hb).symm) hkey)
  obtain ⟨hsame,hkept⟩ := diskOperations_eq_nil h
  obtain ⟨hperm,hsigned⟩ := Assoc.perm_of_index (R := fun c d => diskSignature c = diskSignature d)
    (hkeys hcurrent.diskNames) (hkeys hdesired.diskNames) hsame hkept
  have heq : ∀ c ∈ disksOn current nodeName, ∀ d ∈ disksOn desired nodeName, diskKey c = diskKey d → c = d :=
    fun c hc d hd hkey => disk_eq_of_diskSignature (hcurrent.disks c hc) (hdesired.disks d hd)
      ((hnode hc).trans (hnode hd).symm) hkey (hsigned c hc d hd hkey)
  refine (perm_ext_iff_of_nodup (.of_map _ hcurrent.diskNames) (.of_map _ hdesired.diskNames)).2 fun disk => ?_
  constructor
  · intro hc
    obtain ⟨d,hd,hkey⟩ := mem_map.1 (hperm.subset (mem_map_of_mem hc))
    exact heq disk hc d hd hkey.symm ▸ hd
  · intro hd
    obtain ⟨c,hc,hkey⟩ := mem_map.1 (hperm.symm.subset (mem_map_of_mem hd))
    exact heq c hc disk hd hkey ▸ hc

/-- Without a planned change of a disk or a service the compose plan of the node is the same. -/
lemma buildNodeComposePlan_eq_of_unplanned (hnames : ((instancesOn current nodeName).map (·.name)).Nodup)
    (hnames' : ((instancesOn desired nodeName).map (·.name)).Nodup) (hcurrent : Comparable nodeName current)
    (hdesired : Comparable nodeName desired) (hagree : AgreeUnsigned artifactsRoot nodeName current desired)
    (hpath : composePath artifactsRoot current.planeName nodeName = composePath artifactsRoot
      (if desired.planeName = "" then current.planeName else desired.planeName) nodeName)
    (hdiskOps : diskOperations (buildDiskMapForNode current nodeName) (buildDiskMapForNode desired nodeName) = [])
    (hserviceOps : serviceOperations (buildInstanceMapForNode current nodeName)
      (buildInstanceMapForNode desired nodeName) = []) (internalHost : Option String) :
    buildNodeComposePlan internalHost desired nodeName = buildNodeComposePlan internalHost current nodeName := by
  obtain ⟨hsame,hkept⟩ := serviceOperations_eq_nil hserviceOps
  obtain ⟨hperm,hsigs⟩ := Assoc.perm_of_index (R := fun c d => instanceSignature c = instanceSignature d)
    hnames hnames' hsame hkept
  have hnode : ∀ {s : DesiredState} {i : InstanceSpec}, i ∈ instancesOn s nodeName → i.nodeName = nodeName := by
    intro s i hi
    simpa using (mem_filter.1 hi).2
  have hviews : (instancesOn current nodeName).map composeView = (instancesOn desired nodeName).map composeView := by
    refine Rows.map_eq_map_of_key (hagree.instanceOrder hperm) fun c hc d hd hname => ?_
    have hnodes := (hnode hc).trans (hnode hd).symm
    have hsigned := sameSigned_of_instanceSignature (hcurrent.instances c hc) (hdesired.instances d hd) hnodes
      (hsigs c hc d hd hname)
    obtain ⟨hrole,hdepends,hports,hmounts⟩ := hagree.instances c hc d hd hname
    exact composeView_eq hname hnodes hrole hdepends (hports hsigned.publishedPorts) (hmounts hsigned.mountTargets)
      hsigned
  have hagreeOn : AgreeOn nodeName (composeViews current) (composeViews desired) := {
    planeName := hagree.planeName hpath, protectedPlane := hagree.protectedPlane, llamaRpc := hagree.llamaRpc
    apiPort := hagree.apiPort, listenPort := hagree.listenPort, model := hagree.model
    disks := (hagree.diskOrder (disksOn_perm hcurrent hdesired hdiskOps)).symm
    instances := by rw [instancesOn_composeViews,instancesOn_composeViews,hviews]}
  rw [← buildNodeComposePlan_composeViews internalHost desired,← buildNodeComposePlan_composeViews internalHost current]
  exact hagreeOn.buildNodeComposePlan internalHost

end Unplanned

def StartsServices (operations : List HostOperation) : Prop :=
  (∃ operation ∈ operations, operation.kind = .writeComposeFile) ∧
    ∃ operation ∈ operations, operation.kind = .composeUp

lemma nodeView_succeeds (hports : ∀ infer ∈ s.instances, infer.role = .infer → ReadablePorts infer)
    (dump : Json → String) (planeName artifactsRoot nodeName : String) :
    ∃ view, nodeView dump s planeName artifactsRoot nodeName = .ok view := by
  have hrender : ∀ infer ∈ infersOn s nodeName, ∃ entry,
      (infer.name,·) <$> renderInferRuntimeConfigJsonForInstance dump s infer.name = .ok entry := by
    intro infer hinfer
    obtain ⟨hmem,hrole⟩ := mem_filter.1 hinfer
    obtain ⟨text,htext⟩ := renderInferRuntimeConfigJsonForInstance_succeeds hports (mem_of_mem_filter hmem)
      (by simpa using hrole) dump
    exact ⟨_,map_eq_ok.2 ⟨text,htext,rfl⟩⟩
  obtain ⟨entries,hentries⟩ := mapM_succeeds hrender
  simp only [nodeView,runtimeConfigsForNode,inferRuntimeSignaturesForNode,hentries,map_ok]
  exact ⟨_,rfl⟩

lemma buildNodeExecutionPlans_succeeds
    (hcurrent : ∀ infer ∈ current.instances, infer.role = .infer → ReadablePorts infer)
    (hdesired : ∀ infer ∈ desired.instances, infer.role = .infer → ReadablePorts infer) (dump : Json → String)
    (artifactsRoot : String) :
    ∃ plans, buildNodeExecutionPlans dump (some current) desired artifactsRoot = .ok plans := by
  have hrounds : ∀ nodeName ∈ plannedNodes (some current) desired, ∃ plan,
      buildNodeExecutionPlan dump (some current) desired artifactsRoot nodeName = .ok plan := by
    intro nodeName _
    obtain ⟨old,hold⟩ := nodeView_succeeds hcurrent dump current.planeName artifactsRoot nodeName
    obtain ⟨new,hnew⟩ := nodeView_succeeds hdesired dump
      (if desired.planeName = "" then old.planeName else desired.planeName) artifactsRoot nodeName
    simp only [buildNodeExecutionPlan,currentView,hold,ok_bind,hnew]
    exact ⟨_,rfl⟩
  obtain ⟨plans,hplans⟩ := mapM_succeeds hrounds
  exact ⟨_,map_eq_ok.2 ⟨plans,hplans,rfl⟩⟩

lemma startsServices_nodeOperations {current desired : NodeView} (h : needsComposeUp current desired = true) :
    StartsServices (nodeOperations current desired) := by
  simp [StartsServices,nodeOperations,h,or_and_right,exists_or]

def composePlanOf (s : DesiredState) : NodeComposePlan :=
  match buildNodeComposePlan none s "n" with
  | .ok plan => plan
  | .error _ => {}

def oneApp (image : String) : DesiredState where
  planeName := "demo"
  nodes := [{name := "n"}]
  instances := [{name := "app-a", role := .app, nodeName := "n", image}]

lemma comparable_oneApp (h : '|' ∉ image.toList) : Comparable "n" (oneApp image) where
  diskNames := nodup_nil
  instances := by
    intro i hi
    obtain rfl := mem_singleton.1 hi
    exact {
      texts := by simpa using h
      device := by simp
      ports := by simp
      mounts := by simp
      environment := by simp [LegibleMap]
      labels := by simp [LegibleMap]}
  disks := by simp [disksOn,oneApp]
  ports := by simp [oneApp]

def twoApps (dependsOn : List String) : DesiredState where
  planeName := "demo"
  nodes := [{name := "n"}]
  instances := [{name := "app-a", role := .app, nodeName := "n", image := "app:1"},
    {name := "app-b", role := .app, nodeName := "n", image := "app:1", dependsOn}]

def drainedNode : DesiredState where
  planeName := "demo"
  nodes := [{name := "n"}]

def drainingPlan : NodeExecutionPlan where
  planeName := "demo"
  nodeName := "n"
  composeFilePath := "/artifacts/demo/n/docker-compose.yml"
  operations := [
    ⟨.removeService,"app-a","app:1"⟩,
    ⟨.removeService,"app-b","app:1"⟩,
    ⟨.composeDown,"/artifacts/demo/n/docker-compose.yml","docker compose down"⟩,
    ⟨.removeComposeFile,"/artifacts/demo/n/docker-compose.yml","remove stale compose artifact"⟩]

end Naim.ExecutionPlan
