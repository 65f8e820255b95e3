import Naim.Rows

/-!
# Payload texts as UTF-8

The sanitizer tells the length of a sequence from the mask of its first byte and
asks for continuation bytes, so it also keeps overlong forms, surrogates and
numbers above the last code point.
-/

namespace Naim.Utf8

open List

abbrev Bytes := List UInt8

def isUtf8ContinuationByte (value : UInt8) : Bool := value &&& 0xC0 = 0x80

def utf8SequenceLength (lead : UInt8) : ℕ :=
  if lead &&& 0x80 = 0 then 1
  else if lead &&& 0xE0 = 0xC0 then 2
  else if lead &&& 0xF0 = 0xE0 then 3
  else if lead &&& 0xF8 = 0xF0 then 4
  else 0

/-- The bytes from the index on hold the whole sequence that their first byte announces. -/
def holdsSequence (bytes : Bytes) (length : ℕ) : Bool :=
  length ≠ 0 ∧ length ≤ bytes.length ∧ (bytes.take length).tail.all isUtf8ContinuationByte

def sanitizeString : Bytes → Bytes
  | [] => []
  | lead::rest =>
    let length := utf8SequenceLength lead
    if holdsSequence (lead::rest) length then
      (lead::rest).take length ++ sanitizeString (rest.drop (length - 1))
    else 63::sanitizeString rest
  termination_by bytes => bytes.length
  decreasing_by all_goals grind

/-- The encoding of a list of scalar values. -/
def WellFormed (bytes : Bytes) : Prop := ∃ chars : List Char, chars.flatMap String.utf8EncodeChar = bytes

/-- Every sequence that the scan keeps encodes a scalar value. -/
def Conforms : Bytes → Prop
  | [] => True
  | lead::rest =>
    let length := utf8SequenceLength lead
    if holdsSequence (lead::rest) length then
      (∃ c, String.utf8EncodeChar c = (lead::rest).take length) ∧ Conforms (rest.drop (length - 1))
    else Conforms rest
  termination_by bytes => bytes.length
  decreasing_by all_goals grind

lemma utf8EncodeChar_spec (c : Char) : ∃ lead tail, String.utf8EncodeChar c = lead::tail ∧
    utf8SequenceLength lead = tail.length + 1 ∧ tail.all isUtf8ContinuationByte = true := by
  have htail : ∀ n < 64, isUtf8ContinuationByte (UInt8.ofNat n + 128) = true := by decide
  have htail' := fun n => htail (n % 64) (Nat.mod_lt _ (by decide))
  have hlead : (∀ n ≤ 127, utf8SequenceLength (UInt8.ofNat n) = 1) ∧
      (∀ n < 32, utf8SequenceLength (UInt8.ofNat (n + 192)) = 2) ∧
      (∀ n < 16, utf8SequenceLength (UInt8.ofNat (n + 224)) = 3) ∧
      ∀ n < 8, utf8SequenceLength (UInt8.ofNat (n + 240)) = 4 := by decide
  unfold String.utf8EncodeChar
  dsimp only
  split
  · next h => exact ⟨_,_,rfl,hlead.1 _ h,rfl⟩
  · split
    · exact ⟨_,_,rfl,hlead.2.1 _ (Nat.mod_lt _ (by decide)),by simp [htail']⟩
    · split
      · exact ⟨_,_,rfl,hlead.2.2.1 _ (Nat.mod_lt _ (by decide)),by simp [htail']⟩
      · exact ⟨_,_,rfl,hlead.2.2.2 _ (Nat.mod_lt _ (by decide)),by simp [htail']⟩

lemma wellFormed_append_iff {lead : UInt8} {tail rest : Bytes} (h : utf8SequenceLength lead = tail.length + 1) :
    WellFormed (lead::tail ++ rest) ↔ (∃ c, String.utf8EncodeChar c = lead::tail) ∧ WellFormed rest := by
  constructor
  · rintro ⟨chars,hchars⟩
    cases chars with
    | nil => simp at hchars
    | cons c chars =>
      obtain ⟨first,more,hc,hlength,-⟩ := utf8EncodeChar_spec c
      rw [flatMap_cons,hc] at hchars
      obtain rfl : first = lead := by simpa using congrArg head? hchars
      obtain ⟨hfirst,hrest⟩ := append_inj hchars (by simpa using hlength.symm.trans h)
      exact ⟨⟨c,hc.trans hfirst⟩,chars,hrest⟩
  · rintro ⟨⟨c,hc⟩,chars,hchars⟩
    exact ⟨c::chars,by rw [flatMap_cons,hc,hchars]⟩

lemma wellFormed_sanitizeString_iff (bytes : Bytes) : WellFormed (sanitizeString bytes) ↔ Conforms bytes := by
  fun_induction sanitizeString bytes with
  | case1 => exact iff_of_true ⟨[],rfl⟩ (by simp [Conforms])
  | case2 lead rest length h ih =>
    obtain ⟨n,hn⟩ : ∃ n, length = n + 1 := Nat.exists_eq_succ_of_ne_zero (by simp_all [holdsSequence])
    have hlength : utf8SequenceLength lead = (rest.take n).length + 1 := by
      simp_all [holdsSequence,length]
    rw [Conforms,if_pos h,← ih,hn,take_succ_cons,wellFormed_append_iff hlength]
    simp [length] at hn
    simp [hn]
  | case3 lead rest length h ih =>
    rw [Conforms,if_neg h,← ih]
    have hlength : utf8SequenceLength 63 = ([] : Bytes).length + 1 := rfl
    exact (wellFormed_append_iff hlength).trans (and_iff_right ⟨'?',rfl⟩)

lemma sanitizeString_of_wellFormed {bytes : Bytes} (h : WellFormed bytes) : sanitizeString bytes = bytes := by
  obtain ⟨chars,rfl⟩ := h
  induction chars with
  | nil => simp [sanitizeString]
  | cons c chars ih =>
    obtain ⟨lead,tail,hc,hlength,htail⟩ := utf8EncodeChar_spec c
    rw [flatMap_cons,hc,cons_append,sanitizeString,hlength]
    simp [holdsSequence,htail,ih]

inductive Payload
  | scalar
  | string (value : Bytes)
  | array (items : List Payload)
  | object (members : List (Bytes × Payload))

def sanitizeJson : Payload → Payload
  | .scalar => .scalar
  | .string value => .string (sanitizeString value)
  | .array items => .array (items.map fun item => sanitizeJson item)
  | .object members => .object (members.foldl (fun sanitized member =>
    Rows.upsert Prod.fst (sanitizeString member.1,sanitizeJson member.2) sanitized) [])
  decreasing_by
    · have := sizeOf_lt_of_mem ‹_›
      grind
    · have := sizeOf_lt_of_mem ‹_›
      grind

/-- The keys and the texts of a payload satisfy `ok`. -/
inductive Texts (ok : Bytes → Prop) : Payload → Prop
  | scalar : Texts ok .scalar
  | string : ok value → Texts ok (.string value)
  | array : (∀ item ∈ items, Texts ok item) → Texts ok (.array items)
  | object : (∀ member ∈ members, ok member.1) → (∀ member ∈ members, Texts ok member.2) → Texts ok (.object members)

lemma Texts.object_of (h : ∀ member ∈ members, ok member.1 ∧ Texts ok member.2) : Texts ok (.object members) :=
  .object (fun member hmember => (h member hmember).1) fun member hmember => (h member hmember).2

lemma texts_sanitizeJson (h : Texts Conforms payload) : Texts WellFormed (sanitizeJson payload) := by
  induction h with
  | scalar => simp [sanitizeJson,Texts.scalar]
  | string h =>
    rw [sanitizeJson]
    exact .string ((wellFormed_sanitizeString_iff _).2 h)
  | array _ ih =>
    rw [sanitizeJson]
    exact .array (forall_mem_map.2 ih)
  | object hkeys _ ih =>
    rw [sanitizeJson]
    refine .object_of (foldlRecOn (motive := fun rows : List (Bytes × Payload) => ∀ row ∈ rows, WellFormed row.1 ∧
      Texts WellFormed row.2) _ _ (forall_mem_nil _) fun rows hrows member hmember row hrow => ?_)
    rcases Rows.mem_upsert hrow with rfl | hrow
    · exact ⟨(wellFormed_sanitizeString_iff _).2 (hkeys member hmember),ih member hmember⟩
    · exact hrows row hrow

/-- A dump succeeds when all texts are well formed. The sanitizer ensures it exactly for the strings in which every
sequence that it keeps encodes a scalar value, and does not change a well-formed string. -/
theorem sanitized_wellFormed_iff (bytes : Bytes) :
    (WellFormed (sanitizeString bytes) ∧ (WellFormed bytes → sanitizeString bytes = bytes) ↔ Conforms bytes) ∧
      ∀ payload, Texts Conforms payload → Texts WellFormed (sanitizeJson payload) := by
  refine ⟨?_,fun payload => texts_sanitizeJson⟩
  rw [wellFormed_sanitizeString_iff,and_iff_left sanitizeString_of_wellFormed]

/-- An overlong form of the character 0 is kept. -/
theorem overlong_kept : ¬ WellFormed (sanitizeString [0xC0,0x80]) := by
  have hlength : utf8SequenceLength 0xC0 = 2 := by decide
  rw [wellFormed_sanitizeString_iff,Conforms,if_pos (by decide)]
  rintro ⟨⟨c,hc⟩,-⟩
  unfold String.utf8EncodeChar at hc
  simp only [hlength] at hc
  split at hc
  · simp at hc
  · split at hc
    · have hlead := congrArg UInt8.toNat (List.cons.inj hc).1
      rw [UInt8.toNat_ofNat',show (0xC0 : UInt8).toNat = 192 from rfl] at hlead
      omega
    · split at hc <;> simp at hc

end Naim.Utf8
