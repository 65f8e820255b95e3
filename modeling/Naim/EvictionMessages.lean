import Naim.Hostd
import Mathlib.Logic.Relation
import Mathlib.Data.Set.Basic
import Mathlib.Tactic.Tauto

/-!
# Eviction messages

The status message of an eviction assignment carries the tag of its rollout
action and the victims of its node. The controller searches it for the tag and
hostd reads the victims back, after every earlier attempt has wrapped it once.
-/

namespace Naim.EvictionMessages

open Assignments SchedulerExecution Hostd Text List

def taggedValue (needle text : List Char) : Option (List Char) :=
  (afterFirst needle text).map (List.takeWhile notBlank)

lemma parseTaggedValue_eq (text key : String) :
    parseTaggedValue text key = (taggedValue (key ++ "=").toList text.toList).map String.ofList := by
  simp [parseTaggedValue,taggedValue,Function.comp_def]

lemma takeWhile_append_blank (xs ys : List Char) :
    (xs ++ ' '::ys).takeWhile notBlank = xs.takeWhile notBlank := by
  rw [takeWhile_append]
  split
  next h => rw [takeWhile_cons_of_neg (by decide),append_nil,( takeWhile_prefix _).eq_of_length h]
  · rfl

variable {ys xs m needle before item zs : List Char} {name e : String} {c : Char}

lemma taggedValue_append_blank (hn : ' ' ∉ needle) :
    taggedValue needle (xs ++ ' '::ys) = (taggedValue needle xs).or (taggedValue needle ys) := by
  cases h : afterFirst needle xs with
  | some rest => simp [taggedValue,afterFirst_append h,h,takeWhile_append_blank]
  | none =>
    have hx : ¬ needle <:+: xs ++ [' '] := by
      rw [infix_append_cons_iff hn]
      rintro (hx | hx)
      · exact afterFirst_eq_none_iff.1 h hx
      · exact afterFirst_eq_none_iff.1 h (hx.trans nil_infix)
    simp [taggedValue,h,afterFirst_skip (fun hc => hn (mem_of_mem_dropLast hc)) hx]

lemma taggedValue_append_eq (hm : '=' ∉ m) (hx : '=' ∉ xs) (h : ¬ m <:+ xs) :
    taggedValue (m ++ ['=']) (xs ++ '='::ys) = taggedValue (m ++ ['=']) ys := by
  rw [taggedValue,taggedValue,afterFirst_skip (by simpa using hm) (not_infix_concat hm hx h)]

lemma taggedValue_eq_none (hx : '=' ∉ xs) : taggedValue (m ++ ['=']) xs = none := by
  rw [taggedValue,Option.map_eq_none_iff,afterFirst_eq_none_iff]
  exact fun h => hx (h.subset (by simp))

lemma evictionMessage_toList (action : RolloutActionRecord) (cap : Int32) (victims : List String) :
    (evictionMessage action cap victims).toList =
      "rollout_action_id".toList ++ '='::(((toString action.id).toList ++
        ' '::"evict workers for rollout worker".toList) ++ '='::(action.workerName.toList ++
        ' '::("target_gpu".toList ++ '='::(action.targetGpuDevice.toList ++
        ' '::("required_memory_cap_mb".toList ++ '='::((toString cap).toList ++
        ' '::("victims=".toList ++ (",".intercalate victims).toList))))))) := by
  have hparts : ∀ a b c d e f g h i j : String, (a ++ b ++ c ++ d ++ e ++ f ++ g ++ h ++ i ++ j).toList =
      a.toList ++ (b.toList ++ (c.toList ++ (d.toList ++ (e.toList ++ (f.toList ++ (g.toList ++
        (h.toList ++ (i.toList ++ j.toList)))))))) := by
    intros
    simp only [String.toList_append,append_assoc]
  have h₁ : "rollout_action_id=".toList = "rollout_action_id".toList ++ ['='] := by decide
  have h₂ : " evict workers for rollout worker=".toList =
      ' '::("evict workers for rollout worker".toList ++ ['=']) := by decide
  have h₃ : " target_gpu=".toList = ' '::("target_gpu".toList ++ ['=']) := by decide
  have h₄ : " required_memory_cap_mb=".toList = ' '::("required_memory_cap_mb".toList ++ ['=']) := by decide
  have h₅ : " victims=".toList = ' '::"victims=".toList := by decide
  refine (hparts _ _ _ _ _ _ _ _ _ _).trans ?_
  rw [h₁,h₂,h₃,h₄,h₅]
  simp only [append_assoc,cons_append,nil_append]

lemma not_suffix_of_getLast (hm : m.getLast? = some c) (hx : xs.getLast? ≠ some c) : ¬ m <:+ xs := by
  rintro ⟨t,rfl⟩
  apply hx
  rw [getLast?_append,hm]
  rfl

/-- The list of victims that the mover's name or the target GPU's name itself carries. -/
def strayVictims (action : RolloutActionRecord) : Option String :=
  (parseTaggedValue action.workerName "victims").or (parseTaggedValue action.targetGpuDevice "victims")

lemma parseTaggedValue_victims (action : RolloutActionRecord) (cap : Int32) (victims : List String)
    (after : List Char) (hbefore : '=' ∉ before) :
    parseTaggedValue (String.ofList (before ++ (evictionMessage action cap victims).toList ++ after))
        "victims" =
      (strayVictims action).or (some (String.ofList
        (((",".intercalate victims).toList ++ after).takeWhile notBlank))) := by
  have htag : ("victims" ++ "=").toList = "victims".toList ++ ['='] := by decide
  have hm : '=' ∉ "victims".toList := by decide
  have hblank : ' ' ∉ "victims".toList ++ ['='] := by decide
  have hlast : "victims".toList.getLast? = some 's' := by decide
  have hcap : '=' ∉ (toString cap).toList := not_mem_toString_int (by decide) (by decide) _
  have hid : '=' ∉ (toString action.id).toList := not_mem_toString_nat (by decide) _
  have hhead : '=' ∉ before ++ "rollout_action_id".toList := by
    rw [mem_append]
    exact not_or.2 ⟨hbefore,by decide⟩
  have hself : ∀ ys, taggedValue ("victims".toList ++ ['=']) ("victims=".toList ++ ys) =
      some (ys.takeWhile notBlank) := fun ys => by
    rfl
  rw [parseTaggedValue_eq,strayVictims,parseTaggedValue_eq,parseTaggedValue_eq,String.toList_ofList,htag,
    evictionMessage_toList]
  simp only [append_assoc,cons_append]
  rw [← append_assoc before,taggedValue_append_eq hm hhead (not_suffix_of_getLast hlast (by simp)),
    taggedValue_append_blank hblank,taggedValue_eq_none hid,Option.none_or,
    taggedValue_append_eq hm (by decide) (not_suffix_of_getLast hlast (by decide)),
    taggedValue_append_blank hblank,
    taggedValue_append_eq hm (by decide) (not_suffix_of_getLast hlast (by decide)),
    taggedValue_append_blank hblank,
    taggedValue_append_eq hm (by decide) (not_suffix_of_getLast hlast (by decide)),
    taggedValue_append_blank hblank,taggedValue_eq_none hcap,hself]
  simp

def IsWorkerName (name : String) : Prop :=
  name ≠ "" ∧ ∀ c ∈ name.toList, c.isAlphanum ∨ c = '-' ∨ c = '_' ∨ c = '.'

lemma IsWorkerName.not_mem (h : IsWorkerName name) (hc : c.isAlphanum = false) (hd : c ≠ '-' ∧ c ≠ '_' ∧ c ≠ '.') :
    c ∉ name.toList := by
  intro hm
  rcases h.2 c hm with h | h | h | h
  · simp [hc] at h
  · exact hd.1 h
  · exact hd.2.1 h
  · exact hd.2.2 h

lemma IsWorkerName.isSpace_eq_false (h : IsWorkerName name) (hc : c ∈ name.toList) : isSpace c = false := by
  by_contra hs
  simp only [isSpace,mem_cons,not_mem_nil,or_false,decide_eq_true_eq,Bool.not_eq_false] at hs
  rcases hs with rfl | rfl | rfl | rfl | rfl | rfl <;> exact h.not_mem (by decide) (by decide) hc

lemma trim_eq_self (h : ∀ c ∈ item, isSpace c = false) : trim (String.ofList item) = String.ofList item := by
  have hdrop : item.dropWhile isSpace = item := by
    cases item with
    | nil => rfl
    | cons c item => simp [h c (by simp)]
  rw [trim,String.toList_ofList,hdrop,rdropWhile_eq_self_iff.2]
  intro hne
  simp [h _ (getLast_mem hne)]

lemma csvItems_intercalate (hne : items ≠ [])
    (hitem : ∀ item ∈ items, item ≠ [] ∧ ',' ∉ item ∧ ∀ c ∈ item, isSpace c = false) :
    csvItems (String.ofList (List.intercalate [','] items)) = items.map String.ofList := by
  rw [csvItems,String.toList_ofList,splitOn_intercalate ',' (fun l hl => (hitem l hl).2.1) hne]
  have hmap : (items.map fun item => trim (String.ofList item)) = items.map String.ofList :=
    map_congr_left fun item h => trim_eq_self (hitem item h).2.2
  rw [hmap,filter_eq_self]
  intro name hname
  obtain ⟨item,h,rfl⟩ := mem_map.1 hname
  simpa using (hitem item h).1

lemma intercalate_append_last (items : List (List Char)) (last after : List Char) :
    List.intercalate [','] (items ++ [last]) ++ after = List.intercalate [','] (items ++ [last ++ after]) := by
  induction items with
  | nil => simp
  | cons item items ih =>
    have hcons : ∀ x, List.intercalate [','] (item::(items ++ [x])) =
        item ++ [','] ++ List.intercalate [','] (items ++ [x]) := fun x =>
      intercalate_cons_of_ne_nil (by simp)
    rw [cons_append,cons_append,hcons,hcons,← ih]
    simp

lemma csvItems_victims_iff (hne : victims ≠ []) (hnames : ∀ v ∈ victims, IsWorkerName v) (k : ℕ) :
    csvItems (String.ofList
        (((",".intercalate victims).toList ++ List.replicate k ']').takeWhile notBlank)) = victims ↔ k = 0 := by
  obtain ⟨init,last,rfl⟩ := (eq_nil_or_concat' victims).resolve_left hne
  let items := init.map String.toList ++ [last.toList ++ List.replicate k ']']
  have hlast := hnames last (by simp)
  have hitems : ∀ item ∈ items, item ≠ [] ∧ ',' ∉ item ∧ ∀ c ∈ item, isSpace c = false := by
    intro item hitem
    rcases mem_append.1 hitem with h | h
    · obtain ⟨v,hv,rfl⟩ := mem_map.1 h
      have hname := hnames v (by simp [hv])
      exact ⟨by simpa using hname.1,hname.not_mem (by decide) (by decide),fun c => hname.isSpace_eq_false⟩
    · obtain rfl := mem_singleton.1 h
      refine ⟨by simp [hlast.1],?_,fun c hc => ?_⟩
      · simp [hlast.not_mem (c := ',') (by decide) (by decide)]
      · rcases mem_append.1 hc with hc | hc
        · exact hlast.isSpace_eq_false hc
        · obtain rfl := eq_of_mem_replicate hc
          decide
  have htext : (",".intercalate (init ++ [last])).toList ++ List.replicate k ']' =
      List.intercalate [','] items := by
    rw [String.toList_intercalate,map_append]
    exact intercalate_append_last _ _ _
  have hblank : (List.intercalate [','] items).takeWhile notBlank = List.intercalate [','] items := by
    rw [takeWhile_eq_self_iff]
    intro c hc
    by_contra hblank
    obtain rfl : c = ' ' := by simpa [notBlank] using hblank
    rcases mem_intercalate hc with hc | ⟨item,hitem,hc⟩
    · simp at hc
    · exact absurd ((hitems item hitem).2.2 ' ' hc) (by decide)
  rw [htext,hblank,csvItems_intercalate (by simp [items]) hitems]
  constructor
  · intro h
    have hl : String.ofList (last.toList ++ List.replicate k ']') = last := by simpa [items] using h
    have hlen := congrArg (fun s : String => s.toList.length) hl
    simpa using hlen
  · rintro rfl
    simp [items]

lemma attemptText_not_mem (a : HostAssignment) : '=' ∉ (attemptText a).toList := by
  have hslash : ∀ s t u : String, '=' ∉ s.toList → '=' ∉ t.toList → '=' ∉ u.toList →
      '=' ∉ (s ++ t ++ u).toList := by simp +contextual
  exact hslash _ _ _ (not_mem_toString_int (by decide) (by decide) _) (by decide)
    (not_mem_toString_int (by decide) (by decide) _)

variable {a : HostAssignment}

lemma failAttempt_statusMessage (ha : a.statusMessage ≠ "") (he : '=' ∉ e.toList) :
    ∃ before, '=' ∉ before ∧
      (failAttempt a e).statusMessage = String.ofList (before ++ a.statusMessage.toList ++ [']']) := by
  have hbefore : ∀ u : String, '=' ∉ u.toList → '=' ∉ "attempt ".toList ++ (attemptText (handOut a)).toList ++
      u.toList ++ e.toList ++ " [".toList := by
    intro u hu
    simp only [mem_append,not_or]
    exact ⟨⟨⟨⟨by decide,attemptText_not_mem _⟩,hu⟩,he⟩,by decide⟩
  have hcontext : assignmentContext (handOut a) = " [" ++ a.statusMessage ++ "]" := if_neg ha
  by_cases hlt : (handOut a).attemptCount < (handOut a).maxAttempts
  · refine ⟨_,hbefore " failed: " (by decide),?_⟩
    rw [failAttempt,failureReport,if_pos hlt,hcontext]
    simp [← String.toList_inj]
  · refine ⟨_,hbefore " exhausted: " (by decide),?_⟩
    rw [failAttempt,failureReport,if_neg hlt,hcontext]
    simp [← String.toList_inj]

/-- Every failed attempt puts text without `=` before the message and one bracket behind it. -/
lemma afterFailures_statusMessage (herrors : ∀ e ∈ errors, '=' ∉ e.toList) :
    ∀ {a : HostAssignment}, a.statusMessage ≠ "" → ∃ before, '=' ∉ before ∧
      (afterFailures a errors).statusMessage =
        String.ofList (before ++ a.statusMessage.toList ++ List.replicate errors.length ']') := by
  induction errors with
  | nil => exact fun _ => ⟨[],by simp,by simp [afterFailures]⟩
  | cons e errors ih =>
    intro a ha
    obtain ⟨before,hbefore,hmessage⟩ := failAttempt_statusMessage ha (herrors e (by simp))
    have hne : (failAttempt a e).statusMessage ≠ "" := by simp [hmessage]
    obtain ⟨outer,houter,h⟩ := ih (fun e' he' => herrors e' (by simp [he'])) hne
    refine ⟨outer ++ before,by simp [houter,hbefore],?_⟩
    have hfold : afterFailures a (e::errors) = afterFailures (failAttempt a e) errors := rfl
    rw [hfold,h,hmessage,String.toList_ofList,length_cons,replicate_succ]
    simp

/-- The assignment that hostd claims after the failed attempts names the victims of its
node exactly when none failed, unless a name in the message carries a victims tag itself. -/
theorem claimed_victims_iff {serialize : DesiredState → String} {state : DesiredState} {generation : ℤ}
    {action : RolloutActionRecord} {existing assignments : List HostAssignment} {a : HostAssignment}
    {errors : List String}
    (hbuild : buildEvictionAssignmentsForAction serialize state generation action existing = .ok assignments)
    (ha : a ∈ assignments) (hnames : ∀ v ∈ action.victimWorkerNames, IsWorkerName v)
    (herrors : ∀ e ∈ errors, '=' ∉ e.toList) :
    parseTaggedCsv (handOut (afterFailures a errors)).statusMessage "victims" =
        victimsOn state action a.nodeName ↔
      (strayVictims action = none ∧ errors = []) ∨
        (strayVictims action).map csvItems = some (victimsOn state action a.nodeName) := by
  obtain ⟨-,-,-,-,-,-,hne,hmessage⟩ := mem_buildEviction hbuild ha
  have hvictims : ∀ v ∈ victimsOn state action a.nodeName, IsWorkerName v := fun v hv =>
    hnames v (mem_filter.1 hv).1
  have hnonempty : a.statusMessage ≠ "" := by
    intro hempty
    have hnil := evictionMessage_toList action
      (((findWorker state action.workerName).bind (·.memoryCapMb)).getD 0) (victimsOn state action a.nodeName)
    rw [← hmessage,hempty] at hnil
    simp at hnil
  obtain ⟨before,hbefore,h⟩ := afterFailures_statusMessage herrors hnonempty
  have hvalue := parseTaggedValue_victims action
    (((findWorker state action.workerName).bind (·.memoryCapMb)).getD 0) (victimsOn state action a.nodeName)
    (List.replicate errors.length ']') hbefore
  have hclaimed : (handOut (afterFailures a errors)).statusMessage =
      (afterFailures a errors).statusMessage := rfl
  rw [hclaimed,h,parseTaggedCsv,hmessage,hvalue]
  cases hs : strayVictims action with
  | some value => simp
  | none => simpa using csvItems_victims_iff hne hvictims errors.length

def evictionState : DesiredState :=
  {planeName := "alpha"
   nodes := [{name := "node-a"},{name := "node-b"}]
   instances := [{name := "worker-a", role := .worker, nodeName := "node-a", memoryCapMb := some 8192},
     {name := "worker-b", role := .worker, nodeName := "node-b"}]}

def evictionAction : RolloutActionRecord :=
  {id := 1, planeName := "alpha", desiredGeneration := 1, workerName := "worker-a",
   action := "evict-best-effort", targetNodeName := "node-b", targetGpuDevice := "0",
   victimWorkerNames := ["worker-b"]}

lemma evictionAction_names : ∀ v ∈ evictionAction.victimWorkerNames, IsWorkerName v := by
  intro v hv
  obtain rfl : v = "worker-b" := by simpa [evictionAction] using hv
  exact ⟨by decide,by simp⟩

theorem claimed_victims_first_attempt : ∃ a,
    buildEvictionAssignmentsForAction (fun _ => "") evictionState 1 evictionAction [] = .ok [a] ∧
      parseTaggedCsv (handOut (afterFailures a [])).statusMessage "victims" =
        victimsOn evictionState evictionAction a.nodeName := by
  obtain ⟨a,ha⟩ : ∃ a, buildEvictionAssignmentsForAction (fun _ => "") evictionState 1 evictionAction [] =
      .ok [a] := ⟨_,rfl⟩
  refine ⟨a,ha,(claimed_victims_iff ha (by simp) evictionAction_names (by simp)).2 (.inl ⟨?_,rfl⟩)⟩
  decide +kernel

/-- One failed attempt later hostd looks for a worker `worker-b]`. -/
theorem requeued_victims_differ : ¬ ∀ (state : DesiredState) (action : RolloutActionRecord)
    (assignments : List HostAssignment) (a : HostAssignment) (errors : List String),
    buildEvictionAssignmentsForAction (fun _ => "") state 1 action [] = .ok assignments → a ∈ assignments →
    (∀ v ∈ action.victimWorkerNames, IsWorkerName v) → (∀ e ∈ errors, '=' ∉ e.toList) →
    parseTaggedCsv (handOut (afterFailures a errors)).statusMessage "victims" =
      victimsOn state action a.nodeName := by
  intro h
  obtain ⟨a,ha,hparse⟩ : ∃ a,
      buildEvictionAssignmentsForAction (fun _ => "") evictionState 1 evictionAction [] = .ok [a] ∧
      parseTaggedCsv (handOut (afterFailures a ["eviction verification timed out"])).statusMessage
        "victims" ≠ victimsOn evictionState evictionAction a.nodeName :=
    ⟨_,rfl,by decide +kernel⟩
  exact hparse (h _ _ _ _ _ ha (by simp) evictionAction_names (by simp))

/-- The text that a report of hostd puts around the message of its assignment. -/
inductive Wrapping
  | failed (attempt maxAttempts : ℤ) (error : String)
  | exhausted (attempt maxAttempts : ℤ) (error : String)
  | evicted (generation attempt maxAttempts : ℤ)

def Wrapping.wrap (message : String) : Wrapping → String
  | .failed attempt maxAttempts error =>
    "attempt " ++ (toString attempt ++ "/" ++ toString maxAttempts) ++ " failed: " ++ error ++
      (" [" ++ message ++ "]")
  | .exhausted attempt maxAttempts error =>
    "attempt " ++ (toString attempt ++ "/" ++ toString maxAttempts) ++ " exhausted: " ++ error ++
      (" [" ++ message ++ "]")
  | .evicted generation attempt maxAttempts =>
    "evicted rollout workers for desired generation " ++ toString generation ++ (" [" ++ message ++ "]") ++
      " on attempt " ++ (toString attempt ++ "/" ++ toString maxAttempts)

def Wrapping.error : Wrapping → String
  | .failed _ _ error => error
  | .exhausted _ _ error => error
  | .evicted _ _ _ => ""

/-- An eviction message with the reports around it, the last one first. -/
structure EvictionText where
  action : RolloutActionRecord
  requiredMemoryCapMb : Int32
  victims : List String
  wrappings : List Wrapping

def EvictionText.message (x : EvictionText) : String :=
  x.wrappings.foldr (fun w message => w.wrap message)
    (evictionMessage x.action x.requiredMemoryCapMb x.victims)

/-- The message names another action as well: the ids' decimals agree that far, or a text
that is quoted in the message contains the tag. -/
def EvictionText.Mentions (x : EvictionText) (actionId : ℕ) : Prop :=
  (toString actionId).toList <+: (toString x.action.id).toList ∨
    occurs (rolloutActionTag actionId) x.action.workerName ∨
    occurs (rolloutActionTag actionId) x.action.targetGpuDevice ∨
    (∃ v ∈ x.victims, occurs (rolloutActionTag actionId) v) ∨
    ∃ w ∈ x.wrappings, occurs (rolloutActionTag actionId) w.error

section Tag

variable (actionId : ℕ)

lemma rolloutActionTag_toList : (rolloutActionTag actionId).toList =
    "rollout_action_id".toList ++ '='::(toString actionId).toList := by
  have hparts : ∀ a b : String, (a ++ b).toList = a.toList ++ b.toList := by simp
  have h : "rollout_action_id=".toList = "rollout_action_id".toList ++ ['='] := by decide
  refine (hparts _ _).trans ?_
  rw [h]
  simp only [append_assoc,cons_append,nil_append]

lemma tag_not_mem (hd : c.isDigit = false) (h : c ∉ "rollout_action_id=".toList) :
    c ∉ (rolloutActionTag actionId).toList := by
  have hparts : ∀ a b : String, c ∉ a.toList → c ∉ b.toList → c ∉ (a ++ b).toList := by simp +contextual
  exact hparts _ _ h (not_mem_toString_nat hd _)

lemma not_occurs_of_not_mem (h : '=' ∉ xs) : ¬ (rolloutActionTag actionId).toList <:+: xs := by
  rw [rolloutActionTag_toList]
  exact fun hn => h (hn.subset (by simp))

/-- Where a tag occurs in a text of keys and values like the one of an eviction. The text opens
with the key of the tag; no other key ends like it. -/
lemma infix_fields_iff (m d i k₁ k₂ k₃ k₄ w g cap v : List Char) (hm : '=' ∉ m) (hd : '=' ∉ d)
    (hmb : ' ' ∉ m) (hdb : ' ' ∉ d) (hi : '=' ∉ i) (hcap : '=' ∉ cap)
    (hk : ∀ k ∈ [k₁,k₂,k₃,k₄], k ≠ [] ∧ '=' ∉ k ∧ k.getLast? ≠ m.getLast?) (hm0 : m ≠ []) :
    m ++ '='::d <:+: m ++ '='::((i ++ ' '::k₁) ++ '='::(w ++ ' '::(k₂ ++ '='::(g ++
        ' '::(k₃ ++ '='::(cap ++ ' '::(k₄ ++ '='::v))))))) ↔
      d <+: i ∨ m ++ '='::d <:+: w ∨ m ++ '='::d <:+: g ∨ m ++ '='::d <:+: v := by
  have hfree : ∀ {xs : List Char}, '=' ∉ xs → ¬ m ++ '='::d <:+: xs := fun hx hn => hx (hn.subset (by simp))
  have hblank : ' ' ∉ m ++ '='::d := by simp [hmb,hdb]
  have hkey : ∀ {xs ys : List Char}, '=' ∉ xs → xs.getLast? ≠ m.getLast? →
      (m ++ '='::d <:+: xs ++ '='::ys ↔ m ++ '='::d <:+: ys) := by
    intro xs ys hx hlast
    have hsuffix : ¬ m <:+ xs := by
      rintro ⟨t,rfl⟩
      apply hlast
      rw [getLast?_append,getLast?_eq_some_getLast hm0]
      rfl
    rw [infix_append_mid_iff hm hd]
    simp only [hfree hx,hsuffix,false_and,or_false,false_or]
  obtain ⟨hk₁,hk₂,hk₃,hk₄⟩ : (k₁ ≠ [] ∧ '=' ∉ k₁ ∧ k₁.getLast? ≠ m.getLast?) ∧
      (k₂ ≠ [] ∧ '=' ∉ k₂ ∧ k₂.getLast? ≠ m.getLast?) ∧ (k₃ ≠ [] ∧ '=' ∉ k₃ ∧ k₃.getLast? ≠ m.getLast?) ∧
      (k₄ ≠ [] ∧ '=' ∉ k₄ ∧ k₄.getLast? ≠ m.getLast?) := by simpa using hk
  have hik : '=' ∉ i ++ ' '::k₁ := by simp [hi,hk₁.2.1]
  have hlast : (i ++ ' '::k₁).getLast? ≠ m.getLast? := by
    rw [append_cons,getLast?_append,getLast?_eq_some_getLast hk₁.1,Option.some_or,
      ← getLast?_eq_some_getLast hk₁.1]
    exact hk₁.2.2
  rw [infix_append_mid_iff hm hd,hkey hik hlast,infix_append_cons_iff hblank,
    hkey hk₂.2.1 hk₂.2.2,infix_append_cons_iff hblank,hkey hk₃.2.1 hk₃.2.2,
    infix_append_cons_iff hblank,hkey hk₄.2.1 hk₄.2.2,append_assoc,cons_append,
    prefix_append_cons_iff hdb]
  simp only [hfree hm,hfree hcap,suffix_rfl,true_and,false_or]
  rw [or_comm]

lemma occurs_evictionMessage_iff (action : RolloutActionRecord) (cap : Int32) (victims : List String) :
    occurs (rolloutActionTag actionId) (evictionMessage action cap victims) ↔
      (toString actionId).toList <+: (toString action.id).toList ∨
      occurs (rolloutActionTag actionId) action.workerName ∨
      occurs (rolloutActionTag actionId) action.targetGpuDevice ∨
      ∃ v ∈ victims, occurs (rolloutActionTag actionId) v := by
  have hcomma := tag_not_mem actionId (c := ',') (by decide) (by decide)
  have hne : (rolloutActionTag actionId).toList ≠ [] := by
    rw [rolloutActionTag_toList]
    simp
  have hvictims : (∃ v ∈ victims, occurs (rolloutActionTag actionId) v) ↔
      (rolloutActionTag actionId).toList <:+: (",".intercalate victims).toList := by
    rw [String.toList_intercalate]
    refine Iff.trans ?_ (infix_intercalate_iff hcomma hne (victims.map String.toList)).symm
    simp [occurs]
  have hfields := infix_fields_iff "rollout_action_id".toList (toString actionId).toList
    (toString action.id).toList "evict workers for rollout worker".toList "target_gpu".toList
    "required_memory_cap_mb".toList "victims".toList action.workerName.toList action.targetGpuDevice.toList
    (toString cap).toList (",".intercalate victims).toList (by decide)
    (not_mem_toString_nat (by decide) _) (by decide) (not_mem_toString_nat (by decide) _)
    (not_mem_toString_nat (by decide) _) (not_mem_toString_int (by decide) (by decide) _)
    (by decide) (by decide)
  rw [hvictims]
  simp only [occurs,decide_eq_true_eq]
  rw [evictionMessage_toList,rolloutActionTag_toList]
  exact hfields

lemma tag_infix_brackets (hx : '=' ∉ xs) (hz : '=' ∉ zs) :
    (rolloutActionTag actionId).toList <:+: xs ++ '['::(ys ++ ']'::zs) ↔
      (rolloutActionTag actionId).toList <:+: ys := by
  rw [infix_append_cons_iff (tag_not_mem actionId (by decide) (by decide)),
    infix_append_cons_iff (tag_not_mem actionId (by decide) (by decide))]
  simp only [not_occurs_of_not_mem actionId hx,not_occurs_of_not_mem actionId hz,false_or,or_false]

lemma occurs_wrap_iff (w : Wrapping) (message : String) :
    occurs (rolloutActionTag actionId) (w.wrap message) ↔
      occurs (rolloutActionTag actionId) message ∨ occurs (rolloutActionTag actionId) w.error := by
  have hblank := tag_not_mem actionId (c := ' ') (by decide) (by decide)
  have hempty : ¬ (rolloutActionTag actionId).toList <:+: [] := not_occurs_of_not_mem actionId (by simp)
  have hcount : ∀ i j : ℤ, '=' ∉ (toString i ++ "/" ++ toString j).toList := fun i j =>
    attemptText_not_mem {attemptCount := i, maxAttempts := j}
  -- the head of a failure report, then the error and the message in brackets
  have hfailure : ∀ (i j : ℤ) (word error : String), '=' ∉ word.toList →
      ((rolloutActionTag actionId).toList <:+: ("attempt " ++ (toString i ++ "/" ++ toString j) ++
        (word ++ " ") ++ error ++ (" [" ++ message ++ "]")).toList ↔
        (rolloutActionTag actionId).toList <:+: message.toList ∨
          (rolloutActionTag actionId).toList <:+: error.toList) := by
    intro i j word error hword
    have hparts : ∀ a b c d e : String, (a ++ b ++ (c ++ " ") ++ d ++ (" [" ++ e ++ "]")).toList =
        (a.toList ++ b.toList ++ c.toList) ++ ' '::(d.toList ++ ' '::([] ++ '['::(e.toList ++ ']'::[]))) := by
      intros
      simp
    have hhead : '=' ∉ "attempt ".toList ++ (toString i ++ "/" ++ toString j).toList ++ word.toList := by
      simp only [mem_append,not_or]
      exact ⟨⟨by decide,hcount i j⟩,hword⟩
    rw [hparts,infix_append_cons_iff hblank,infix_append_cons_iff hblank,
      tag_infix_brackets actionId (by simp) (by simp)]
    simp only [not_occurs_of_not_mem actionId hhead,false_or]
    exact or_comm
  simp only [occurs,decide_eq_true_eq]
  cases w with
  | failed i j error => exact hfailure i j " failed:" error (by decide)
  | exhausted i j error => exact hfailure i j " exhausted:" error (by decide)
  | evicted g i j =>
    have hparts : ∀ a b e c d : String, (a ++ b ++ (" [" ++ e ++ "]") ++ c ++ d).toList =
        (a.toList ++ b.toList ++ [' ']) ++ '['::(e.toList ++ ']'::(c.toList ++ d.toList)) := by
      intros
      simp
    have hhead : '=' ∉ "evicted rollout workers for desired generation ".toList ++ (toString g).toList ++
        [' '] := by
      simp only [mem_append,not_or]
      exact ⟨⟨by decide,not_mem_toString_int (by decide) (by decide) g⟩,by simp⟩
    have htail : '=' ∉ " on attempt ".toList ++ (toString i ++ "/" ++ toString j).toList := by
      simp only [mem_append,not_or]
      exact ⟨by decide,hcount i j⟩
    have herror : ¬ (rolloutActionTag actionId).toList <:+: "".toList := hempty
    refine (iff_of_eq (congrArg _ (hparts _ _ _ _ _))).trans ?_
    rw [tag_infix_brackets actionId hhead htail]
    exact ⟨.inl,fun h => h.resolve_right herror⟩

lemma occurs_message_iff (x : EvictionText) :
    occurs (rolloutActionTag actionId) x.message ↔ x.Mentions actionId := by
  obtain ⟨action,cap,victims,wrappings⟩ := x
  have hwrappings : occurs (rolloutActionTag actionId) (wrappings.foldr (fun w message => w.wrap message)
      (evictionMessage action cap victims)) ↔
      occurs (rolloutActionTag actionId) (evictionMessage action cap victims) ∨
        ∃ w ∈ wrappings, occurs (rolloutActionTag actionId) w.error := by
    induction wrappings with
    | nil => simp
    | cons w wrappings ih =>
      rw [foldr_cons,occurs_wrap_iff,ih,or_assoc]
      simp only [mem_cons,exists_eq_or_imp]
      exact or_congr_right or_comm
  rw [EvictionText.message,hwrappings,occurs_evictionMessage_iff,EvictionText.Mentions]
  simp only [or_assoc]

end Tag

/-- Assignments with a property are added, removed or change their status. -/
inductive Edit (P : HostAssignment → Prop) : List HostAssignment → List HostAssignment → Prop
  | add {l r x} : P x → Edit P (l ++ r) (l ++ x::r)
  | remove {l r x} : P x → Edit P (l ++ x::r) (l ++ r)
  | status {l r x} (status : HostAssignmentStatus) : P x → Edit P (l ++ x::r) (l ++ {x with status}::r)

def Carried (assignments : List HostAssignment) : Prop :=
  ∀ a ∈ assignments, a.assignmentType = "evict-workers" →
    ∃ x : EvictionText, 0 < x.action.id ∧ a.statusMessage = x.message

lemma areApplied_insert {actionId : ℕ} (h : assignmentReferencesRolloutAction a actionId = false)
    (l r : List HostAssignment) :
    areRolloutEvictionAssignmentsApplied (l ++ a::r) actionId =
      areRolloutEvictionAssignmentsApplied (l ++ r) actionId := by
  simp [areRolloutEvictionAssignmentsApplied,filter_append,h]

lemma areApplied_edits {P : HostAssignment → Prop} {actionId : ℕ}
    (hP : ∀ a, P a → assignmentReferencesRolloutAction a actionId = false) (h : Relation.ReflTransGen (Edit P) l l') :
    areRolloutEvictionAssignmentsApplied l actionId = areRolloutEvictionAssignmentsApplied l' actionId := by
  induction h with
  | refl => rfl
  | tail _ hstep ih =>
    rw [ih]
    cases hstep with
    | add hx => exact (areApplied_insert (hP _ hx) _ _).symm
    | remove hx => exact areApplied_insert (hP _ hx) _ _
    | @status _ _ x s hx =>
      have hx' : assignmentReferencesRolloutAction {x with status := s} actionId = false := hP x hx
      rw [areApplied_insert (hP x hx),areApplied_insert hx']

/-- Eviction completion of an action is independent of the assignments with other eviction
texts exactly when none of these texts mentions the action. -/
theorem eviction_completion_iff (actionId : ℕ) (texts : Set EvictionText) :
    (∀ l l', Carried l → Relation.ReflTransGen (Edit fun y => y.assignmentType = "evict-workers" ∧
        ∃ x ∈ texts, y.statusMessage = x.message) l l' →
      areRolloutEvictionAssignmentsApplied l actionId = areRolloutEvictionAssignmentsApplied l' actionId) ↔
      ∀ x ∈ texts, ¬ x.Mentions actionId := by
  constructor
  · intro h x hx hmentions
    let y : HostAssignment :=
      {assignmentType := "evict-workers", statusMessage := x.message, status := .applied}
    have hedit := h [] [y] (by simp [Carried]) (.single (.add (l := []) (r := []) ⟨rfl,x,hx,rfl⟩))
    have hocc : assignmentReferencesRolloutAction y actionId = true :=
      (occurs_message_iff actionId x).2 hmentions
    simp [areRolloutEvictionAssignmentsApplied,hocc,y] at hedit
  · intro h l l' _ hedits
    refine areApplied_edits (fun y hy => ?_) hedits
    obtain ⟨-,x,hx,hmessage⟩ := hy
    have := (occurs_message_iff actionId x).not.2 (h x hx)
    simpa [assignmentReferencesRolloutAction,hmessage] using this

def freshText (actionId : ℕ) : EvictionText :=
  {action := {evictionAction with id := actionId}, requiredMemoryCapMb := 8192, victims := ["worker-b"],
   wrappings := []}

def freshAssignment (actionId : ℕ) (status : HostAssignmentStatus) : HostAssignment :=
  {nodeName := "node-b", planeName := "alpha", assignmentType := "evict-workers", status,
   statusMessage := (freshText actionId).message}

/-- A pending eviction of action 12 undoes the completion of action 1. -/
theorem eviction_completion_collides : ¬ ∀ a b : ℕ, a ≠ b → 0 < a → 0 < b → ∀ l l', Carried l →
    Relation.ReflTransGen (Edit fun y => y.assignmentType = "evict-workers" ∧
      ∃ x : EvictionText, x.action.id = b ∧ y.statusMessage = x.message) l l' →
    areRolloutEvictionAssignmentsApplied l a = areRolloutEvictionAssignmentsApplied l' a := by
  intro h
  have hcarried : Carried [freshAssignment 1 .applied] := by
    intro y hy _
    obtain rfl := mem_singleton.1 hy
    exact ⟨freshText 1,Nat.one_pos,rfl⟩
  have hedit := h 1 12 (by decide) (by decide) (by decide) [freshAssignment 1 .applied]
    [freshAssignment 1 .applied,freshAssignment 12 .pending] hcarried
    (.single (.add (l := [freshAssignment 1 .applied]) (r := []) ⟨rfl,freshText 12,rfl,rfl⟩))
  revert hedit
  decide +kernel

end Naim.EvictionMessages
