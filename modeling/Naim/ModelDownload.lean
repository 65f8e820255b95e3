import Naim.Runs
import Mathlib.Data.List.Infix

/-!
# Downloading a model file

Hostd fetches the model of a plane into a `.part` file beside its target and
renames it. What an earlier call left there is judged by its size alone.
-/

namespace Naim.ModelDownload

open Runs

/-- How far curl gets in a call: to the end of the source, or to a number of bytes
after which it fails or hostd stops. -/
inductive Course where
  | completed
  | failed (bytes : ℕ)
  | stopped (bytes : ℕ)
  deriving DecidableEq

/-- A call for one target: what the URL serves while it runs, and the length that
`ProbeContentLength` reads from its headers. -/
structure Call where
  sourceUrl : String
  content : List UInt8
  contentLength : Option ℕ
  course : Course
  deriving DecidableEq

structure Files where
  (target part : Option (List UInt8) := none)
  deriving DecidableEq

variable (call : Call) (files : Files)

inductive Outcome where
  | returned
  | thrown (message : String)
  | stopped
  deriving DecidableEq

def partialSize : ℕ := (files.part.map List.length).getD 0

/-- An existing target is kept unless the source announces another length. -/
def usesExisting : Bool :=
  files.target.any fun target => call.contentLength.all fun n => n = 0 || target.length = n

def announced : Option ℕ := call.contentLength.filter (0 < ·)

/-- `curl -C -` appends what the source has beyond the bytes that are there. -/
def resume (content kept : List UInt8) (bytes : ℕ) : List UInt8 := kept ++ (content.drop kept.length).take bytes

def curl : Files × Outcome :=
  let kept := files.part.getD []
  match call.course with
  | .completed => ({ target := some (resume call.content kept call.content.length), part := none },.returned)
  | .failed bytes => ({ files with part := some (resume call.content kept bytes) },
      .thrown ("failed to download bootstrap model from " ++ call.sourceUrl))
  | .stopped bytes => ({ files with part := some (resume call.content kept bytes) },.stopped)

def downloadFileWithProgress : Files × Outcome :=
  if usesExisting call files then (files,.returned)
  else if announced call = some (partialSize files) then ({ target := files.part, part := none },.returned)
  else if (announced call).any (· < partialSize files) then curl call { files with part := none }
  else curl call files

/-- The name under which a URL is stored: its last path component, without query and fragment. -/
def filenameFromUrl (sourceUrl : String) : Except String String :=
  let withoutQuery := sourceUrl.toList.takeWhile fun c => c ≠ '?' && c ≠ '#'
  let filename := String.ofList (withoutQuery.reverse.takeWhile (· ≠ '/')).reverse
  if filename = "" then .error ("failed to infer filename from bootstrap model URL: " ++ sourceUrl)
  else .ok filename

def step (call : Call) : Files := (downloadFileWithProgress call files).1

/-- A call that returns has left the content of its URL in the target. -/
def Acquires (call : Call) : Prop :=
  (downloadFileWithProgress call files).2 = .returned → (step files call).target = some call.content

instance (files : Files) (call : Call) : Decidable (Acquires files call) := by
  unfold Acquires
  infer_instance

/-- The leftover that a call takes over belongs to its URL: a target that is kept and a
`.part` file of the announced length are the content, and one that is resumed begins it. -/
def LeftoversMatch (call : Call) : Prop :=
  if usesExisting call files then files.target = some call.content
  else if announced call = some (partialSize files) then files.part = some call.content
  else call.course = .completed → (announced call).any (· < partialSize files) = false →
    files.part.getD [] <+: call.content

instance (files : Files) (call : Call) : Decidable (LeftoversMatch files call) := by
  unfold LeftoversMatch
  infer_instance

variable {content kept : List UInt8} {files : Files} {calls : List Call}

lemma resume_isPrefix (h : kept <+: content) (bytes : ℕ) : resume content kept bytes <+: content := by
  obtain ⟨rest,rfl⟩ := h
  simpa [resume] using List.take_prefix bytes rest

lemma resume_eq_content (content kept : List UInt8) :
    resume content kept content.length = content ↔ kept <+: content := by
  constructor
  · exact fun h => ⟨_,h⟩
  · rintro ⟨rest,rfl⟩
    simp [resume]

lemma curl_acquires (files : Files) :
    ((curl call files).2 = .returned → (curl call files).1.target = some call.content) ↔
      (call.course = .completed → files.part.getD [] <+: call.content) := by
  unfold curl
  cases hcourse : call.course with
  | completed => simp [resume_eq_content]
  | failed bytes => simp
  | stopped bytes => simp

lemma acquires_iff_leftoversMatch (files : Files) (call : Call) :
    Acquires files call ↔ LeftoversMatch files call := by
  unfold Acquires LeftoversMatch step downloadFileWithProgress
  by_cases hexisting : usesExisting call files
  · simp [hexisting]
  · by_cases hpart : announced call = some (partialSize files)
    · simp [hexisting,hpart]
    · by_cases hlarge : (announced call).any (· < partialSize files)
      · simp only [hexisting,hpart,hlarge,if_true,if_false,Bool.false_eq_true,curl_acquires]
        simp
      · simp only [hexisting,hpart,hlarge,if_false,Bool.false_eq_true,curl_acquires]
        simp

/-- In a history of calls for one target, each call that returns acquires its URL exactly
when each call finds leftovers that match. -/
theorem downloads_acquire_iff (files : Files) (calls : List Call) :
    Guarded step Acquires files calls ↔ Guarded step LeftoversMatch files calls := by
  induction calls generalizing files with
  | nil => exact Iff.rfl
  | cons call calls ih => exact and_congr (acquires_iff_leftoversMatch files call) (ih (step files call))

/-- Two URLs with one file name: the second call resumes what the first left behind. -/
theorem downloads_mix_sources :
    let calls := [⟨"https://a/m.gguf",[1,1,1],some 3,.failed 2⟩,⟨"https://b/m.gguf",[2,2,2],some 3,.completed⟩]
    (calls.map fun call => filenameFromUrl call.sourceUrl) = [.ok "m.gguf",.ok "m.gguf"] ∧
      run step {} calls = { target := some [1,1,2], part := none } ∧ ¬Guarded step Acquires {} calls := by
  decide

def LeftBy (content : List UInt8) (files : Files) : Prop :=
  (∀ target, files.target = some target → target = content) ∧ files.part.getD [] <+: content

def Serves (content : List UInt8) (call : Call) : Prop :=
  call.content = content ∧ ∀ n, call.contentLength = some n → n = content.length

lemma leftoversMatch_of_leftBy {call : Call} (h : LeftBy content files) (hcall : Serves content call) :
    LeftoversMatch files call := by
  obtain ⟨rfl,hlength⟩ := hcall
  unfold LeftoversMatch
  split
  next hexisting =>
    cases htarget : files.target with
    | none => simp [usesExisting,htarget] at hexisting
    | some target => rw [h.1 target htarget]
  · split
    next hpart =>
      obtain ⟨hsize,hpos⟩ := Option.filter_eq_some_iff.1 hpart
      have hbegins := h.2
      unfold partialSize at hsize hpos
      cases hfile : files.part with
      | none => simp [hfile] at hpos
      | some part =>
        rw [hfile] at hsize hbegins
        exact congrArg some (hbegins.eq_of_length (hlength _ hsize))
    · exact fun _ _ => h.2

lemma leftBy_curl {call : Call} (h : LeftBy call.content files) : LeftBy call.content (curl call files).1 := by
  unfold curl
  cases call.course with
  | completed =>
    refine ⟨fun target htarget => ?_,List.nil_prefix⟩
    exact (Option.some.inj htarget).symm.trans ((resume_eq_content _ _).2 h.2)
  | failed bytes => exact ⟨h.1,resume_isPrefix h.2 bytes⟩
  | stopped bytes => exact ⟨h.1,resume_isPrefix h.2 bytes⟩

lemma leftBy_step {call : Call} (h : LeftBy content files) (hcall : Serves content call) :
    LeftBy content (step files call) := by
  have hmatch := leftoversMatch_of_leftBy h hcall
  obtain ⟨rfl,-⟩ := hcall
  unfold LeftoversMatch at hmatch
  unfold step downloadFileWithProgress
  split_ifs at hmatch ⊢ with hexisting hpart hlarge
  · exact h
  · exact ⟨by simp [hmatch],List.nil_prefix⟩
  · exact leftBy_curl ⟨h.1,List.nil_prefix⟩
  · exact leftBy_curl h

/-- A target that only ever serves one content acquires it, however the calls are cut short. -/
theorem one_content_acquired (h : LeftBy content files) (hcalls : ∀ call ∈ calls, Serves content call) :
    Guarded step Acquires files calls := by
  induction calls generalizing files with
  | nil => trivial
  | cons call calls ih =>
    have hcall := hcalls call (by simp)
    exact ⟨(acquires_iff_leftoversMatch files call).2 (leftoversMatch_of_leftBy h hcall),
      ih (leftBy_step h hcall) fun c hc => hcalls c (by simp [hc])⟩

theorem stopped_content_acquired :
    Guarded step Acquires {} [⟨"u",[1,2],some 2,.stopped 1⟩,⟨"u",[1,2],some 2,.completed⟩] :=
  one_content_acquired (show LeftBy [1,2] {} from ⟨nofun,List.nil_prefix⟩) (by simp [Serves])

end Naim.ModelDownload
