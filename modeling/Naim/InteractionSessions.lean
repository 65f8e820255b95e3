import Mathlib.Data.List.DropRight
import Naim.Text

/-!
# Interaction sessions

The executors of plain and of streamed sessions ask the upstream for segments until a
rule ends the session. The rules and the totals are the same; a streamed session
appends a segment before it asks whether the last segment is repeated.
-/

namespace Naim.Interaction

open Text

structure CompletionPolicy where
  responseMode : String := "normal"
  maxTokens : Int32 := 512
  targetCompletionTokens : Option Int32 := none
  maxContinuations : Int32 := 3
  maxTotalCompletionTokens : Int32 := 1536
  maxElapsedTimeMs : Int32 := 180000
  requireCompletionMarker : Bool := false

/-- `elapsedMs` is the time from the start of the session to the end of the segment. -/
structure SegmentSummary where
  text : String := ""
  finishReason : String := "stop"
  (promptTokens completionTokens totalTokens elapsedMs : Int32 := 0)
  markerSeen : Bool := false

inductive StopReason where
  | duplicateContinuationSegment
  | semanticCompletionMarker
  | naturalStop
  | lengthButShortNaturalStop
  | maxTotalCompletionTokensReached
  | maxElapsedTimeMsReached
  | maxContinuationsReached
deriving DecidableEq

structure SessionResult where
  content : String := ""
  segments : List SegmentSummary := []
  (totalPromptTokens totalCompletionTokens totalTokens totalLatencyMs : Int32 := 0)
  markerSeen : Bool := false
  continuationCount : ℕ := 0
  stopReason : Option StopReason := none

inductive CompletionStatus where
  | failed
  | incompleteDueToLimits
  | completed
deriving DecidableEq

def completionStatus : Option StopReason → CompletionStatus
  | none => .failed
  | some .maxTotalCompletionTokensReached | some .maxElapsedTimeMsReached | some .maxContinuationsReached =>
    .incompleteDueToLimits
  | some _ => .completed

def collapseSpaces : Bool → List Char → List Char
  | _, [] => []
  | previousSpace, c::cs =>
    if isSpace c then (if previousSpace then [] else [' ']) ++ collapseSpaces true cs
    else c.toLower::collapseSpaces false cs

def normalizeContinuationText (value : String) : List Char :=
  ((collapseSpaces false value.toList).dropWhile (· = ' ')).rdropWhile (· = ' ')

def isDuplicateContinuationSegment (segments : List SegmentSummary) (candidateText : String) : Bool :=
  segments.getLast?.any fun last =>
    let candidate := normalizeContinuationText candidateText
    let previous := normalizeContinuationText last.text
    candidate ≠ [] && previous ≠ [] && previous = candidate

variable (policy : CompletionPolicy) (upstream : ℕ → SegmentSummary) (r : SessionResult) (summary : SegmentSummary)

def sessionReachedTargetLength (totalCompletionTokens : Int32) : Bool :=
  policy.targetCompletionTokens.all (· ≤ totalCompletionTokens)

def blank (text : String) : Bool := text.toList.all isSpace

def canCompleteOnNaturalStop : Bool :=
  !policy.requireCompletionMarker && summary.finishReason ≠ "length" && !blank summary.text

def shouldTreatLengthAsNaturalStop : Bool :=
  !policy.requireCompletionMarker && policy.responseMode = "normal" && !blank summary.text &&
    summary.finishReason = "length" && 0 < summary.completionTokens && summary.completionTokens < policy.maxTokens

def append : SessionResult :=
  {r with
    content := r.content ++ summary.text, segments := r.segments ++ [summary]
    totalPromptTokens := r.totalPromptTokens + summary.promptTokens
    totalCompletionTokens := r.totalCompletionTokens + summary.completionTokens
    totalTokens := r.totalTokens + summary.totalTokens, totalLatencyMs := summary.elapsedMs
    markerSeen := r.markerSeen || summary.markerSeen}

/-- The rules that both executors apply after a segment, in their order. -/
def endRule (segmentIndex : ℕ) : Option StopReason :=
  if r.markerSeen && sessionReachedTargetLength policy r.totalCompletionTokens then some .semanticCompletionMarker
  else if canCompleteOnNaturalStop policy summary then some .naturalStop
  else if shouldTreatLengthAsNaturalStop policy summary then some .lengthButShortNaturalStop
  else if policy.maxTotalCompletionTokens ≤ r.totalCompletionTokens then some .maxTotalCompletionTokensReached
  else if policy.maxElapsedTimeMs ≤ r.totalLatencyMs then some .maxElapsedTimeMsReached
  else if policy.maxContinuations.toInt ≤ segmentIndex then some .maxContinuationsReached
  else none

lemma index_lt_of_endRule {policy r summary} (h : endRule policy r summary segmentIndex = none) :
    segmentIndex < policy.maxContinuations.toInt := by
  simp only [endRule] at h
  grind

def execute (segmentIndex : ℕ) (r : SessionResult) : SessionResult :=
  let summary := upstream segmentIndex
  if isDuplicateContinuationSegment r.segments summary.text then
    {r with stopReason := some .duplicateContinuationSegment}
  else
    if h : endRule policy (append r summary) summary segmentIndex = none then
      execute (segmentIndex + 1) {append r summary with continuationCount := segmentIndex + 1}
    else {append r summary with stopReason := endRule policy (append r summary) summary segmentIndex}
termination_by (policy.maxContinuations.toInt - segmentIndex).toNat
decreasing_by
  have := index_lt_of_endRule h
  omega

def executeStream (segmentIndex : ℕ) (r : SessionResult) : SessionResult :=
  let summary := upstream segmentIndex
  if isDuplicateContinuationSegment (append r summary).segments summary.text then
    {append r summary with stopReason := some .duplicateContinuationSegment}
  else
    if h : endRule policy (append r summary) summary segmentIndex = none then
      executeStream (segmentIndex + 1) {append r summary with continuationCount := segmentIndex + 1}
    else {append r summary with stopReason := endRule policy (append r summary) summary segmentIndex}
termination_by (policy.maxContinuations.toInt - segmentIndex).toNat
decreasing_by
  have := index_lt_of_endRule h
  omega

def outcome : CompletionStatus × Option StopReason × ℕ × String × Int32 × Int32 × Int32 :=
  (completionStatus r.stopReason,r.stopReason,r.continuationCount,r.content,r.totalPromptTokens,
    r.totalCompletionTokens,r.totalTokens)

def totals : ℕ → SessionResult
  | 0 => {}
  | n+1 => {append (totals n) (upstream n) with continuationCount := n + 1}

/-- The first segments, up to the one with the index, have no text, and a rule holds after them. -/
structure EndsWithoutText (n : ℕ) : Prop where
  textless : ∀ i ≤ n, normalizeContinuationText (upstream i).text = []
  ends : endRule policy (append (totals upstream n) (upstream n)) (upstream n) n ≠ none

variable {policy upstream r} {n m : ℕ}

lemma totals_continuationCount : (totals upstream n).continuationCount = n := by cases n <;> rfl

lemma le_continuationCount (hr : m ≤ r.continuationCount) (hn : m ≤ n + 1) :
    m ≤ (execute policy upstream n r).continuationCount := by
  fun_induction execute with
  | case1 => exact hr
  | case2 n r summary _ _ ih => exact ih hn (by omega)
  | case3 => exact hr

/-- The first segment with text ends a streamed session as its own duplicate, and never a plain one. -/
lemma outcome_ne_of_text (hbefore : ∀ i < n, normalizeContinuationText (upstream i).text = [])
    (htext : normalizeContinuationText (upstream n).text ≠ []) :
    outcome (executeStream policy upstream n (totals upstream n)) ≠
      outcome (execute policy upstream n (totals upstream n)) := by
  have hstream : isDuplicateContinuationSegment (append (totals upstream n) (upstream n)).segments
      (upstream n).text := by
    simp [isDuplicateContinuationSegment,append,htext]
  have hplain : ¬ isDuplicateContinuationSegment (totals upstream n).segments (upstream n).text := by
    cases n with
    | zero => simp [isDuplicateContinuationSegment,totals]
    | succ n => simp [isDuplicateContinuationSegment,totals,append,hbefore]
  rw [executeStream,execute,if_pos hstream,if_neg hplain]
  intro heq
  simp only [outcome,Prod.mk.injEq] at heq
  by_cases hrule : endRule policy (append (totals upstream n) (upstream n)) (upstream n) n = none
  · -- the plain session goes on and counts a continuation more
    have hle : n + 1 ≤ (execute policy upstream (n + 1) (totals upstream (n + 1))).continuationCount :=
      le_continuationCount totals_continuationCount.ge (by omega)
    have hcount := heq.2.2.1
    rw [dif_pos hrule] at hcount
    have hfirst : (append (totals upstream n) (upstream n)).continuationCount = n := totals_continuationCount
    exact absurd (hle.trans_eq (hcount.symm.trans hfirst)) (by omega)
  · rw [dif_neg hrule] at heq
    unfold endRule at heq
    grind

lemma outcome_eq_iff_from (hbefore : ∀ i < n, normalizeContinuationText (upstream i).text = []) :
    outcome (executeStream policy upstream n (totals upstream n)) =
      outcome (execute policy upstream n (totals upstream n)) ↔ ∃ k ≥ n, EndsWithoutText policy upstream k := by
  induction hm : (policy.maxContinuations.toInt - n).toNat using Nat.strong_induction_on generalizing n with
  | _ m ih =>
    by_cases htext : normalizeContinuationText (upstream n).text = []
    · have hnew (segments : List SegmentSummary) :
          ¬ isDuplicateContinuationSegment segments (upstream n).text := by
        simp [isDuplicateContinuationSegment,htext]
      have hall : ∀ i ≤ n, normalizeContinuationText (upstream i).text = [] := by
        intro i hi
        rcases hi.lt_or_eq with hlt | rfl
        · exact hbefore i hlt
        · exact htext
      rw [executeStream,execute,if_neg (hnew _),if_neg (hnew _)]
      by_cases hrule : endRule policy (append (totals upstream n) (upstream n)) (upstream n) n = none
      · have hlt := index_lt_of_endRule hrule
        rw [dif_pos hrule,dif_pos hrule]
        refine (ih _ (by omega) (fun i hi => hall i (by omega)) rfl).trans ⟨?_,?_⟩
        · rintro ⟨k,hk,h⟩
          exact ⟨k,by omega,h⟩
        · rintro ⟨k,hk,h⟩
          rcases hk.lt_or_eq with hlt | rfl
          · exact ⟨k,hlt,h⟩
          · exact absurd hrule h.ends
      · rw [dif_neg hrule,dif_neg hrule]
        exact iff_of_true rfl ⟨n,le_rfl,hall,hrule⟩
    · refine iff_of_false (outcome_ne_of_text hbefore htext) ?_
      rintro ⟨k,hk,h⟩
      exact htext (h.textless n hk)

/-- A streamed session ends like a plain one exactly when a rule ends it before the first segment with text. -/
theorem streamed_outcome_eq_iff (policy : CompletionPolicy) (upstream : ℕ → SegmentSummary) :
    outcome (executeStream policy upstream 0 {}) = outcome (execute policy upstream 0 {}) ↔
      ∃ n, EndsWithoutText policy upstream n := by
  simpa [totals] using @outcome_eq_iff_from policy upstream 0 nofun

/-- A single sentence is the natural end of a plain session and a duplicate of itself in a streamed one. -/
theorem streamed_sentence_ends_as_duplicate :
    let upstream := fun _ => {text := "Done.",completionTokens := 2}
    (executeStream {} upstream 0 {}).stopReason = some .duplicateContinuationSegment ∧
      (execute {} upstream 0 {}).stopReason = some .naturalStop := by
  intro upstream
  decide +kernel

end Naim.Interaction
