import Naim.AuthRuns

/-!
# Signature counters

A passkey sends a counter with each login, and the controller keeps the last one in
an `int` column. The check goes through the WebAuthn verifier as JSON numbers.
-/

namespace Naim.Auth

open Checked Json Runs

variable {column : Int32} {signCount : UInt32}

/-- A login with a valid signature: the check of `VerifyAuthentication` and the `int` column after it.
The stored counter is sent to the check, and the new one back, as a JSON number. -/
def loginCounter (column : Int32) (signCount : UInt32) : Checked Int32 :=
  let storedCounter := (Int32.ofInt column.toUInt32.toNat).toUInt32
  if signCount ≠ 0 ∧ storedCounter ≠ 0 ∧ signCount ≤ storedCounter then
    .error (.runtimeError "WebAuthn native verification failed: signature counter did not increase")
  else .ok (UInt32.ofInt signCount.toNat).toInt32

def nextCounter (column : Int32) (signCount : UInt32) : Int32 := (loginCounter column signCount).toOption.getD column

/-- The counter does not decrease, and once it is not zero only larger ones are accepted. -/
def Grows (column : Int32) (signCount : UInt32) : Prop :=
  column.toUInt32 ≤ (nextCounter column signCount).toUInt32 ∧
    (column.toUInt32 ≠ 0 → signCount ≤ column.toUInt32 → ∃ e, loginCounter column signCount = .error e)

lemma grows_iff : Grows column signCount ↔ (signCount = 0 → column.toUInt32 = 0) := by
  -- all 32 bits survive the column and the JSON numbers
  have hstored : (Int32.ofInt column.toUInt32.toNat).toUInt32 = column.toUInt32 :=
    UInt32.toBitVec_inj.1 (by simp [Int32.ofInt])
  have hnew : UInt32.ofInt signCount.toNat = signCount := UInt32.toNat_inj.1 (by
    have := signCount.toNat_lt
    simp [UInt32.ofInt]
    omega)
  simp only [Grows,nextCounter,loginCounter,hstored,hnew]
  by_cases hzero : signCount = 0
  · subst hzero
    simp [Except.toOption]
    intro h
    rw [h]
    decide
  · split
    · simp [Except.toOption,hzero]
    next h =>
      have hlt : column.toUInt32 ≠ 0 → column.toUInt32 < signCount := by simpa [hzero] using h
      have hle : column.toUInt32 ≤ signCount := by grind
      simpa [Except.toOption,hzero] using ⟨hle,hlt⟩

/-- In any sequence of logins the counter grows exactly when no assertion
has the counter zero while another one is stored. -/
theorem counters_grow_iff (column : Int32) (signCounts : List UInt32) :
    Guarded nextCounter Grows column signCounts ↔
      Guarded nextCounter (fun column signCount => signCount = 0 → column.toUInt32 = 0) column signCounts := by
  rw [show Grows = _ from funext₂ fun _ _ => propext grows_iff]

/-- A counter of zero is accepted after 5 and stored. -/
theorem zero_resets_counter : ¬Guarded nextCounter Grows 0 [5,0] ∧ run nextCounter 0 [5,0] = 0 := by
  refine ⟨?_,by decide⟩
  simp only [Guarded,grows_iff]
  decide

variable {support : AuthHttpSupport} {request : HttpRequest} {payload : Json}

lemma Performs.verified {α : Type} {ok : Statement → Prop} {action failed : String} {f : Json → Handler α}
    (hf : ∀ verification, support.runWebAuthnHelper action payload = .ok verification → Performs ok (f verification)) :
    Performs ok (verified support action failed payload >>= f) := by
  unfold Auth.verified
  simp only [bind_assoc]
  exact .bind_checked fun verification h => .checked fun _ => .respondIf fun _ => hf verification h

/-- `VerifyAuthentication` after the signature was found valid, with the counter that it signs. -/
def verifyAuthentication (signCount : UInt32) (input : Json) : Checked Json := do
  let credential ← input.member "credential"
  let storedCounter ← credential.value "counter" (0 : Int32)
  if signCount ≠ 0 ∧ storedCounter.toUInt32 ≠ 0 ∧ signCount ≤ storedCounter.toUInt32 then
    .error (.runtimeError "WebAuthn native verification failed: signature counter did not increase")
  else .ok (.obj [("authenticationInfo",.obj [("newCounter",.int signCount.toNat)]),("verified",.bool true)])

lemma value_credentialPayload {credential : WebAuthnCredentialRecord Int32}
    (h : credentialPayload support credential = .ok payload) :
    payload.value "counter" (0 : Int32) = .ok (Int32.ofInt credential.counter.toNat) := by
  unfold credentialPayload at h
  split at h <;>
    obtain ⟨transports,-,h⟩ := bind_eq_ok.1 h <;>
    obtain rfl := Except.ok.inj h <;>
    simp [field,readOr,Codec.get]

lemma loginCounter_of_verify {credential : WebAuthnCredentialRecord Int32} {counter : UInt32}
    {verification : Json} (flow : PendingWebAuthnFlow) (response : Json)
    (hpayload : credentialPayload support credential = .ok payload)
    (hverify : verifyAuthentication signCount
      (.ofFields (expectations flow response ++ [field "credential" (some payload)])) = .ok verification)
    (hcounter : newCounter verification credential.counter = .ok counter) :
    loginCounter credential.counter.toInt32 signCount = .ok counter.toInt32 := by
  have hmember : (ofFields (expectations flow response ++ [field "credential" (some payload)])).member "credential" =
      .ok payload := by
    simp [expectations,field,toJson]
  simp only [verifyAuthentication,hmember,value_credentialPayload hpayload,ok_bind] at hverify
  unfold loginCounter
  split at hverify
  · cases hverify
  next haccepted =>
    obtain rfl := Except.ok.inj hverify
    obtain rfl := Except.ok.inj hcounter
    exact if_neg haccepted

/-- A login writes the counter that `loginCounter` makes of the stored one. -/
theorem finishLogin_counter
    (hhelper : support.runWebAuthnHelper "verify-authentication" = verifyAuthentication signCount)
    (flow : PendingWebAuthnFlow) (response : Json) :
    Performs (fun st => ∀ credentialId counter now, st = .updateWebAuthnCredentialCounter credentialId counter now →
      ∃ s : State, ∃ credential, s.loadWebAuthnCredentialById credentialId = some credential ∧
        loginCounter credential.counter.toInt32 signCount = .ok counter.toInt32)
      (finishLogin support request flow response) := by
  refine .checked fun credentialId => .bind_query fun s => ?_
  cases hload : (s.loadWebAuthnCredentialById credentialId).filter fun credential =>
    credential.userId = flow.userId with
  | none => exact .respond _
  | some credential =>
    refine .bind_checked fun payload hpayload => .verified fun verification hverify =>
      .bind_checked fun counter hcounter =>
      .utcNow fun now => .perform ?_ fun _ => .query (.option (.respond _) fun user => ?_)
    · rintro _ _ _ ⟨rfl,rfl,rfl⟩
      rw [hhelper] at hverify
      have hfound := (Option.filter_eq_some_iff.1 hload).1
      obtain ⟨row,hrow,rfl⟩ := Option.map_eq_some_iff.1 hfound
      obtain rfl : row.credentialId = credentialId := by simpa using List.find?_some hrow
      exact ⟨s,_,hfound,loginCounter_of_verify flow response hpayload hverify hcounter⟩
    · exact (performs_createControllerSession (fun _ _ _ _ _ => nofun) fun _ => nofun).bind fun _ =>
        .perform nofun fun _ => .pure _

end Naim.Auth
