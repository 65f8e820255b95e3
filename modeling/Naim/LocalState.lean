import Naim.StateJson

/-!
# The local state of hostd

Hostd writes the state of a plane and then its generation into two files, each of
which is emptied when it is opened. A crash leaves a beginning of what was written.
-/

namespace Naim.LocalState

open Checked List StateJson Text

/-- The first bytes of the JSON text of a document and the newline behind it. -/
structure StateFile where
  document : Json
  written : ℕ

structure Files where
  state : Option StateFile
  generation : Option (List Char)

/-- The value that `operator>>` stores: a number that does not fit becomes the nearest one that does. -/
def storedInt (z : ℤ) : Int32 :=
  if z < Int32.minValue.toInt then Int32.minValue
  else if Int32.maxValue.toInt < z then Int32.maxValue
  else Int32.ofInt z

def leadingNumber (text : List Char) : ℤ :=
  let (negative,digits) := signedDigits (text.dropWhile isSpace)
  signedValue negative digits

def dropSign : List Char → List Char
  | '-'::rest => rest
  | '+'::rest => rest
  | rest => rest

/-- A number that cannot be read is an error only short of the end of the file. -/
def loadGenerationFromPath (path : String) : Option (List Char) → Checked (Option Int32)
  | none => .ok none
  | some content =>
    let text := content.dropWhile isSpace
    let number := leadingNumber content
    let failed := (signedDigits text).2 = [] ∨ (storedInt number).toInt ≠ number
    if failed ∧ (dropSign text).dropWhile Char.isDigit ≠ [] then fail ("failed to parse generation file: " ++ path)
    else .ok (some (storedInt number))

/-- The text of a JSON object ends with its last brace, so no shorter part of it is a JSON text. -/
def loadStateFromPath (textSize : Json → ℕ) (dump : Json → String) :
    Option StateFile → Checked (Option DesiredState)
  | none => .ok none
  | some file =>
    if file.written < textSize file.document then .error (.jsonException 101)
    else some <$> deserializeDesiredStateJson documents dump file.document

def saved (textSize : Json → ℕ) (s : DesiredState) (generation : Int32) : Files where
  state := some ⟨serializeDesiredStateJson documents s,textSize (serializeDesiredStateJson documents s) + 1⟩
  generation := some ((toString generation).toList ++ ['\n'])

/-- Where a save stops: before it opens a file, or with so many bytes of the state or of
the generation. -/
inductive CrashPoint where
  | start
  | state (written : ℕ)
  | generation (written : ℕ)

section Crash

variable (textSize : Json → ℕ) (dump : Json → String) (old new : DesiredState × Int32)

def crashed : CrashPoint → Files
  | .start => saved textSize old.1 old.2
  | .state written =>
    {saved textSize old.1 old.2 with state := some ⟨serializeDesiredStateJson documents new.1,written⟩}
  | .generation written =>
    {saved textSize new.1 new.2 with generation := some (((toString new.2).toList ++ ['\n']).take written)}

def Survives (path : String) (files : Files) : Prop :=
  (loadStateFromPath textSize dump files.state = .ok (some old.1) ∨
    loadStateFromPath textSize dump files.state = .ok (some new.1)) ∧
  (loadGenerationFromPath path files.generation = .ok (some old.2) ∨
    loadGenerationFromPath path files.generation = .ok (some new.2))

/-- The document of the state is read as the old or the new state. -/
def Restores (s : DesiredState) : Prop :=
  deserializeDesiredStateJson documents dump (serializeDesiredStateJson documents s) = .ok old.1 ∨
    deserializeDesiredStateJson documents dump (serializeDesiredStateJson documents s) = .ok new.1

/-- The text of the state is whole, and the digits that are left of the generation form
the old or the new one. -/
def Intact : CrashPoint → Prop
  | .start => Restores dump old new old.1
  | .state written => textSize (serializeDesiredStateJson documents new.1) ≤ written ∧ Restores dump old new new.1
  | .generation written => Restores dump old new new.1 ∧
    (storedInt (leadingNumber ((toString new.2).toList.take written)) = old.2 ∨
      storedInt (leadingNumber ((toString new.2).toList.take written)) = new.2)

end Crash

lemma storedInt_toInt (n : Int32) : storedInt n.toInt = n := by
  have hmin := n.minValue_le_toInt
  have hmax := n.toInt_le
  rw [storedInt,if_neg (by omega),if_neg (by omega),Int32.ofInt_toInt]

lemma leadingNumber_toString (n : Int32) : leadingNumber (toString n).toList = n.toInt := by
  change leadingNumber (toString n.toInt).toList = n.toInt
  rw [leadingNumber,signedDigits_toString]
  exact signedValue_toDigits n.toInt

lemma signedDigits_newline (l : List Char) :
    signedDigits ((l ++ ['\n']).dropWhile isSpace) = signedDigits (l.dropWhile isSpace) := by
  have htake : ∀ l : List Char, (l ++ ['\n']).takeWhile Char.isDigit = l.takeWhile Char.isDigit := by
    intro l
    induction l with
    | nil => rfl
    | cons c l ih => simp [takeWhile_cons,ih]
  induction l with
  | nil => rfl
  | cons c l ih =>
    by_cases hc : isSpace c
    · simpa [hc] using ih
    · rw [cons_append,dropWhile_cons_of_neg hc,dropWhile_cons_of_neg hc]
      have hrest := htake l
      have hall := htake (c::l)
      clear htake
      unfold signedDigits
      split <;> split <;> simp_all

lemma isDigit_of_take (n : Int32) (written : ℕ) :
    ∀ c ∈ dropSign (((toString n).toList.take written).dropWhile isSpace), c.isDigit = true := by
  have hdigits : ∀ k : ℕ, ∀ c ∈ Nat.toDigits 10 k, c.isDigit = true :=
    fun k c h => Nat.isDigit_of_mem_toDigits (by decide) (by decide) h
  have hsign : ∀ l : List Char, ∀ c ∈ dropSign l, c ∈ l := by
    intro l c hc
    unfold dropSign at hc
    split at hc <;> simp_all
  intro c hc
  change c ∈ dropSign (((toString n.toInt).toList.take written).dropWhile isSpace) at hc
  cases hn : n.toInt with
  | ofNat k =>
    rw [hn,show (toString (Int.ofNat k)).toList = Nat.toDigits 10 k from Nat.toList_repr] at hc
    exact hdigits k c (mem_of_mem_take ((dropWhile_sublist _).subset (hsign _ c hc)))
  | negSucc k =>
    rw [hn,show (toString (Int.negSucc k)).toList = '-'::Nat.toDigits 10 (k + 1) by
      show ("-" ++ (k + 1).repr).toList = _
      rw [String.toList_append,Nat.toList_repr]
      rfl] at hc
    cases written with
    | zero => simp [dropSign] at hc
    | succ written => exact hdigits (k + 1) c (mem_of_mem_take hc)

lemma loadGeneration_take (path : String) (n : Int32) (written : ℕ) :
    loadGenerationFromPath path (some (((toString n).toList ++ ['\n']).take written)) =
      .ok (some (storedInt (leadingNumber ((toString n).toList.take written)))) := by
  by_cases hle : written ≤ (toString n).toList.length
  · -- the file ends inside the number
    have hrest : (dropSign (((toString n).toList.take written).dropWhile isSpace)).dropWhile Char.isDigit = [] :=
      dropWhile_eq_nil_iff.2 (isDigit_of_take n written)
    rw [take_append_of_le_length hle]
    simp [loadGenerationFromPath,hrest]
  · have hnumber : leadingNumber ((toString n).toList ++ ['\n']) = n.toInt := by
      rw [leadingNumber,signedDigits_newline,← leadingNumber_toString n,leadingNumber]
    have hdigits : (signedDigits (((toString n).toList ++ ['\n']).dropWhile isSpace)).2 ≠ [] := by
      rw [signedDigits_newline]
      change (signedDigits ((toString n.toInt).toList.dropWhile isSpace)).2 ≠ []
      rw [signedDigits_toString]
      exact Nat.toDigits_ne_nil
    rw [take_of_length_le (by simp; omega),take_of_length_le (by omega),leadingNumber_toString]
    simp [loadGenerationFromPath,hnumber,hdigits,storedInt_toInt]

lemma loadState_of_written (textSize : Json → ℕ) (dump : Json → String) (s : DesiredState) (written : ℕ)
    (t : DesiredState) :
    loadStateFromPath textSize dump (some ⟨serializeDesiredStateJson documents s,written⟩) = .ok (some t) ↔
      textSize (serializeDesiredStateJson documents s) ≤ written ∧
        deserializeDesiredStateJson documents dump (serializeDesiredStateJson documents s) = .ok t := by
  by_cases h : written < textSize (serializeDesiredStateJson documents s)
  · simp [loadStateFromPath,h]
  · simp [loadStateFromPath,h,map_eq_ok]
    omega

/-- After a crash, the state and the generation are the old or the new ones exactly when
what was written is intact. -/
theorem survives_crash_iff (textSize : Json → ℕ) (dump : Json → String) (path : String)
    (old new : DesiredState × Int32) (point : CrashPoint) :
    Survives textSize dump old new path (crashed textSize old new point) ↔ Intact textSize dump old new point := by
  have hold : loadGenerationFromPath path (some ((toString old.2).toList ++ ['\n'])) = .ok (some old.2) := by
    have h := loadGeneration_take path old.2 ((toString old.2).toList ++ ['\n']).length
    rw [take_length,take_of_length_le (by simp),leadingNumber_toString,storedInt_toInt] at h
    exact h
  cases point with
  | start => simp [Survives,crashed,saved,Intact,Restores,loadState_of_written,hold]
  | state written => simp [Survives,crashed,saved,Intact,Restores,loadState_of_written,hold,and_or_left]
  | generation written => simp [Survives,crashed,saved,Intact,Restores,loadState_of_written,loadGeneration_take]

/-- A crash right after the state file was opened leaves nothing to load, and one inside the
generation leaves another number. -/
theorem crash_loses_state : let old : DesiredState × Int32 := ({},7)
    let new : DesiredState × Int32 := ({},12)
    ¬Survives (fun _ => 2) (fun _ => "") old new "" (crashed (fun _ => 2) old new (.state 0)) ∧
    loadGenerationFromPath "" (crashed (fun _ => 2) old new (.generation 1)).generation = .ok (some 1) := by
  refine ⟨?_,by decide⟩
  rintro ⟨h | h,-⟩ <;> exact absurd h (by simp [crashed,loadStateFromPath])

variable {α : Type*}

def addFirst (key : α → String) (rows : List α) (r : α) : List α :=
  if key r ∈ rows.map key then rows else rows ++ [r]

def gpuKey (node : RuntimeGpuNode) : String := node.nodeName ++ ":" ++ node.gpuDevice

def mergeLocalAppliedStates : List DesiredState → Checked DesiredState
  | [] => fail "cannot merge empty local state list"
  | first::rest =>
    let states := first::rest
    .ok {first with
      planeName := if states.length > 1 then "" else first.planeName
      planeSharedDiskName := if states.length > 1 then "" else first.planeSharedDiskName
      nodes := (states.flatMap (·.nodes)).foldl (addFirst (·.name)) []
      runtimeGpuNodes := (states.flatMap (·.runtimeGpuNodes)).foldl (addFirst gpuKey) []
      disks := states.flatMap (·.disks)
      instances := states.flatMap (·.instances)}

lemma map_foldl_addFirst (key : α → String) (rows init : List α) :
    (rows.foldl (addFirst key) init).map key =
      (rows.map key).foldl (fun seen k => if k ∈ seen then seen else seen ++ [k]) (init.map key) := by
  induction rows generalizing init with
  | nil => rfl
  | cons r rows ih =>
    rw [foldl_cons,ih,map_cons,foldl_cons,addFirst,apply_ite (map key),map_append,map_singleton]

lemma subset_foldl_addFirst_iff {key : α → String} {rows : List α} :
    rows ⊆ rows.foldl (addFirst key) [] ↔ ∀ a ∈ rows, ∀ b ∈ rows, key a = key b → a = b := by
  have hkeys := map_foldl_addFirst key rows []
  constructor
  · intro h a ha b hb hkey
    have hnodup : ((rows.foldl (addFirst key) []).map key).Nodup := hkeys ▸ Rows.nodup_foldl_addNew nodup_nil
    exact inj_on_of_nodup_map hnodup (h ha) (h hb) hkey
  · intro h a ha
    have hmem : key a ∈ (rows.foldl (addFirst key) []).map key :=
      hkeys ▸ Rows.mem_foldl_addNew.2 (.inr (mem_map_of_mem ha))
    obtain ⟨b,hb,hkey⟩ := mem_map.1 hmem
    have hrows : ∀ b ∈ rows.foldl (addFirst key) [], b ∈ rows := by
      refine foldlRecOn (motive := fun kept => ∀ b ∈ kept, b ∈ rows) _ _ (by simp) fun kept hkept r hr b hb => ?_
      unfold addFirst at hb
      split at hb
      · exact hkept b hb
      · rcases mem_append.1 hb with hb | hb
        · exact hkept b hb
        · exact mem_singleton.1 hb ▸ hr
    exact h b (hrows b hb) a ha hkey ▸ hb

def KeepsPlanes (states : List DesiredState) (merged : DesiredState) : Prop := ∀ s ∈ states,
  s.disks ⊆ merged.disks ∧ s.instances ⊆ merged.instances ∧ s.runtimeGpuNodes ⊆ merged.runtimeGpuNodes

/-- A merge keeps all planes exactly when no two different entries are on one GPU. -/
theorem merge_keepsPlanes_iff (first : DesiredState) (rest : List DesiredState) :
    ∃ merged, mergeLocalAppliedStates (first::rest) = .ok merged ∧ (KeepsPlanes (first::rest) merged ↔
      ∀ a ∈ (first::rest).flatMap (·.runtimeGpuNodes), ∀ b ∈ (first::rest).flatMap (·.runtimeGpuNodes),
        gpuKey a = gpuKey b → a = b) := by
  refine ⟨_,rfl,?_⟩
  rw [← subset_foldl_addFirst_iff]
  constructor
  · intro h a ha
    obtain ⟨s,hs,has⟩ := mem_flatMap.1 ha
    exact (h s hs).2.2 has
  · intro h s hs
    refine ⟨fun d hd => mem_flatMap.2 ⟨s,hs,hd⟩,fun i hi => mem_flatMap.2 ⟨s,hs,hi⟩,fun a ha => ?_⟩
    exact h (mem_flatMap.2 ⟨s,hs,ha⟩)

/-- Workers of two planes share a GPU: the entry of the second is dropped. -/
theorem merge_drops_sharing_worker :
    let a : DesiredState := {planeName := "a",runtimeGpuNodes := [{name := "v",nodeName := "n",gpuDevice := "0"}]}
    let b : DesiredState := {planeName := "b",runtimeGpuNodes := [{name := "w",nodeName := "n",gpuDevice := "0"}]}
    ∃ merged, mergeLocalAppliedStates [a,b] = .ok merged ∧ ¬ KeepsPlanes [a,b] merged := by
  intro a b
  exact ⟨_,rfl,fun h => absurd (h b (by simp)).2.2 (by decide)⟩

end Naim.LocalState
