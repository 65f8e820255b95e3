import Naim.Browsing

/-!
# A client of the knowledge server

`HandleClient` collects the bytes of a request until its headers announce that it
is complete. The announced length is read before the part that catches exceptions.
-/

namespace Naim.KnowledgeServer

open Browsing Checked Text List

def lines : List Char → List (List Char)
  | [] => [[]]
  | '\r' :: '\n' :: rest => []::lines rest
  | c::rest => (lines rest).modifyHead (c::·)

def contentLength (headerText : List Char) : Option (List Char) :=
  (lines headerText).findSome? fun line =>
    if ':' ∈ line ∧ lowercaseCopy (trimCopy (line.takeWhile (· ≠ ':'))) = "content-length".toList then
      some (trimCopy (line.dropWhile (· ≠ ':')).tail)
    else none

/-- `std::stoul`: a negative number wraps around, and only a number of more than 64 bits is out of range. -/
def stoul (text : List Char) : Checked ℕ :=
  let (negative,digits) := signedDigits (text.dropWhile isSpace)
  if digits = [] then .error (.invalidArgument "stoul")
  else if Nat.ofDigitChars 10 digits 0 < 2^64 then
    .ok (signedValue negative digits % 2^64).toNat
  else .error (.outOfRange "stoul")

def headerText (requestText : List Char) : Option (List Char) :=
  (afterFirst "\r\n\r\n".toList requestText).map fun rest =>
    requestText.take (requestText.length - rest.length - 4)

def expectedRequestBytes (requestText : List Char) : Checked ℕ :=
  match headerText requestText with
  | none => .ok 0
  | some headers => do
    let length ← (contentLength headers).elim (.ok 0) stoul
    pure ((headers.length + 4 + length) % 2^64)

/-- The receive loop on the segments that are still to come. -/
def receive (requestData : List Char) (expected : ℕ) : List (List Char) → Checked (List Char)
  | [] => .ok requestData
  | segment::segments => do
    let requestData := requestData ++ segment
    let expected ← if expected = 0 then expectedRequestBytes requestData else .ok expected
    if expected ≠ 0 ∧ expected ≤ requestData.length then .ok requestData
    else receive requestData expected segments

/-- What `HandleRequest` throws. Its messages are texts of the program, which JSON can carry. -/
inductive Failure where
  | api (status : ℕ) (code message : String)
  | other (what : String)

def failureResponse : Failure → ℕ × List (String × String)
  | .api status code message => (status,[("error",code),("message",message)])
  | .other what => (500,[("error","internal_error"),("message",what)])

variable {ρ : Type} {headers sent data : List Char} {n expected : ℕ}

def handleClient (handleRequest : List Char → Except Failure ρ) (segments : List (List Char)) :
    Checked (Option (ρ ⊕ ℕ × List (String × String))) := do
  let requestData ← receive [] 0 segments
  if requestData = [] then .ok none
  else match handleRequest requestData with
    | .ok response => .ok (some (.inl response))
    | .error failure => .ok (some (.inr (failureResponse failure)))

/-- The headers announce no length, or one that starts with a number of at most 64 bits. -/
def LengthReadable (sent : List Char) : Prop :=
  ∀ headers, headerText sent = some headers → ∀ text, contentLength headers = some text → ∃ n, stoul text = .ok n

lemma expectedRequestBytes_iff (sent : List Char) :
    (∃ n, expectedRequestBytes sent = .ok n) ↔ LengthReadable sent := by
  unfold expectedRequestBytes LengthReadable
  cases headerText sent with
  | none => simp
  | some headers => cases hlength : contentLength headers <;> simp [hlength]

lemma headerText_append (h : headerText sent = some headers) (more : List Char) :
    headerText (sent ++ more) = some headers := by
  unfold headerText at h ⊢
  obtain ⟨rest,hrest,rfl⟩ := Option.map_eq_some_iff.1 h
  rw [afterFirst_append hrest,Option.map_some,length_append,length_append,Nat.add_sub_add_right,
    take_append_of_le_length (by omega)]

lemma lengthReadable_append (h : headerText sent = some headers) (more : List Char) :
    LengthReadable (sent ++ more) ↔ LengthReadable sent := by
  unfold LengthReadable
  rw [headerText_append h,h]

lemma headerText_of_expected (h : expectedRequestBytes sent = .ok n) (hn : n ≠ 0) :
    ∃ headers, headerText sent = some headers := by
  unfold expectedRequestBytes at h
  cases hheaders : headerText sent with
  | none =>
    rw [hheaders] at h
    exact absurd (Except.ok.inj h).symm hn
  | some headers => exact ⟨headers,rfl⟩

lemma receive_of_expected (hne : expected ≠ 0) (data : List Char) (segments : List (List Char)) :
    ∃ received, receive data expected segments = .ok received := by
  induction segments generalizing data with
  | nil => exact ⟨data,rfl⟩
  | cons segment segments ih =>
    rw [receive,if_neg hne,ok_bind]
    dsimp only
    split
    · exact ⟨_,rfl⟩
    · exact ih _

/-- The outcome of the loop does not depend on how the bytes are cut into segments. -/
lemma receive_iff (hdata : LengthReadable data) (segments : List (List Char)) :
    (∃ received, receive data 0 segments = .ok received) ↔ LengthReadable (data ++ segments.flatten) := by
  induction segments generalizing data with
  | nil => simpa [receive] using hdata
  | cons segment segments ih =>
    rw [receive,if_pos rfl,flatten_cons,← append_assoc]
    cases hexpected : expectedRequestBytes (data ++ segment) with
    | error e =>
      have hnot : ¬LengthReadable (data ++ segment) := by
        rw [← expectedRequestBytes_iff,hexpected]
        simp
      obtain ⟨headers,hheaders⟩ : ∃ headers, headerText (data ++ segment) = some headers := by
        by_contra hnone
        exact hnot fun headers h => absurd ⟨headers,h⟩ hnone
      rw [lengthReadable_append hheaders]
      simpa using hnot
    | ok expected =>
      have hok := (expectedRequestBytes_iff _).1 ⟨expected,hexpected⟩
      rw [ok_bind]
      dsimp only
      by_cases hzero : expected = 0
      · rw [hzero,if_neg (by simp)]
        exact ih hok
      · obtain ⟨headers,hheaders⟩ := headerText_of_expected hexpected hzero
        rw [lengthReadable_append hheaders]
        refine iff_of_true ?_ hok
        split
        · exact ⟨_,rfl⟩
        · exact receive_of_expected hzero _ _

end Naim.KnowledgeServer
