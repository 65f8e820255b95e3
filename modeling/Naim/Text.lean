import Naim.Checked
import Mathlib.Data.List.Infix
import Mathlib.Data.List.TakeWhile
import Mathlib.Data.String.Basic
import Mathlib.Data.Nat.Log
import Mathlib.Data.Rat.Floor

/-!
# Texts

Occurrences of a needle in a text, the rest behind the first one, which
separators an occurrence cannot cross, and how numbers are printed.
-/

namespace Naim.Text

open List Nat

variable {α : Type*} [DecidableEq α] {c : α} {n m d xs ys rest : List α} {a : Char}

omit [DecidableEq α] in
lemma eq_nil_of_prefix_cons (h : c ∉ n) (hp : n <+: c::ys) : n = [] := by
  cases n with
  | nil => rfl
  | cons x n =>
    obtain ⟨rfl,-⟩ := cons_prefix_cons.1 hp
    simp at h

omit [DecidableEq α] in
lemma infix_append_cons_iff (h : c ∉ n) : n <:+: xs ++ c::ys ↔ n <:+: xs ∨ n <:+: ys := by
  constructor
  · intro hn
    rcases infix_append_iff.1 hn with hn | hn | ⟨l₁,l₂,rfl,h₁,h₂⟩
    · exact .inl hn
    · rcases infix_cons_iff.1 hn with hn | hn
      · exact .inl (by simp [eq_nil_of_prefix_cons h hn])
      · exact .inr hn
    · have : l₂ = [] := eq_nil_of_prefix_cons (fun hc => h (by simp [hc])) h₂
      subst this
      exact .inl (by simpa using h₁.isInfix)
  · rintro (hn | hn)
    · exact hn.trans (prefix_append _ _).isInfix
    · exact hn.trans ((suffix_cons c ys).trans (suffix_append _ _)).isInfix

omit [DecidableEq α] in
/-- A needle with one `c` crosses an occurrence of `c` only with its own. -/
lemma infix_append_mid_iff (hm : c ∉ m) (hd : c ∉ d) :
    m ++ c::d <:+: xs ++ c::ys ↔
      m ++ c::d <:+: xs ∨ m ++ c::d <:+: ys ∨ (m <:+ xs ∧ d <+: ys) := by
  constructor
  · intro hn
    rcases infix_append_iff.1 hn with hn | hn | ⟨l₁,l₂,hl,h₁,h₂⟩
    · exact .inl hn
    · rcases infix_cons_iff.1 hn with hn | hn
      · cases m with
        | nil => exact .inr (.inr ⟨nil_suffix,(cons_prefix_cons.1 hn).2⟩)
        | cons x m =>
          obtain ⟨rfl,-⟩ := cons_prefix_cons.1 hn
          simp at hm
      · exact .inr (.inl hn)
    · cases l₂ with
      | nil => exact .inl (by simpa [hl] using h₁.isInfix)
      | cons b l₂ =>
        obtain ⟨rfl,h₃⟩ := cons_prefix_cons.1 h₂
        obtain ⟨rfl,-,rfl⟩ := (append_cons_inj_of_notMem hm hd).1 hl
        exact .inr (.inr ⟨h₁,h₃⟩)
  · rintro (hn | hn | ⟨⟨s,rfl⟩,t,rfl⟩)
    · exact hn.trans (prefix_append _ _).isInfix
    · exact hn.trans ((suffix_cons c ys).trans (suffix_append _ _)).isInfix
    · exact ⟨s,t,by simp⟩

omit [DecidableEq α] in
lemma prefix_append_cons_iff (h : c ∉ n) : n <+: xs ++ c::ys ↔ n <+: xs := by
  constructor
  · intro hn
    rcases lt_or_ge xs.length n.length with hlen | hlen
    · have hc : xs ++ [c] <+: n :=
        prefix_of_prefix_length_le (by simp : xs ++ [c] <+: xs ++ c::ys) hn (by simp; omega)
      exact absurd (hc.subset (by simp)) h
    · exact prefix_of_prefix_length_le hn (prefix_append _ _) hlen
  · exact (·.trans (prefix_append _ _))

omit [DecidableEq α] in
/-- A needle without the separator occurs in a joined text when it occurs in a part of it. -/
theorem infix_intercalate_iff (h : c ∉ n) (hn : n ≠ []) (items : List (List α)) :
    n <:+: List.intercalate [c] items ↔ ∃ item ∈ items, n <:+: item := by
  induction items with
  | nil => simpa using hn
  | cons item items ih =>
    cases items with
    | nil => simp
    | cons item' items =>
      rw [intercalate_cons_of_ne_nil (by simp),append_assoc,singleton_append,
        infix_append_cons_iff h,ih]
      simp

def afterFirst (n : List α) : List α → Option (List α)
  | [] => if n = [] then some [] else none
  | x::xs => if n <+: x::xs then some ((x::xs).drop n.length) else afterFirst n xs

lemma afterFirst_eq_none_iff : afterFirst n xs = none ↔ ¬ n <:+: xs := by
  induction xs with
  | nil => by_cases h : n = [] <;> simp [afterFirst,h]
  | cons x xs ih =>
    unfold afterFirst
    rw [infix_cons_iff]
    split
    · simp_all
    · simp_all

lemma afterFirst_length (h : afterFirst n xs = some rest) : n.length ≤ xs.length := by
  induction xs with
  | nil => by_cases hn : n = [] <;> simp_all [afterFirst]
  | cons x xs ih =>
    unfold afterFirst at h
    split at h
    · exact List.IsPrefix.length_le ‹_›
    · exact (ih h).trans (by simp)

theorem afterFirst_append (h : afterFirst n xs = some rest) (ys : List α) :
    afterFirst n (xs ++ ys) = some (rest ++ ys) := by
  induction xs with
  | nil =>
    by_cases hn : n = []
    · obtain rfl : rest = [] := by simpa [afterFirst,hn] using h.symm
      cases ys <;> simp [afterFirst,hn]
    · simp [afterFirst,hn] at h
  | cons x xs ih =>
    unfold afterFirst at h
    rw [cons_append]
    unfold afterFirst
    split at h
    next hp =>
      have hp' : n <+: x::(xs ++ ys) := hp.trans (prefix_append (x::xs) ys)
      obtain rfl := Option.some.inj h
      rw [if_pos hp',← cons_append,drop_append_of_le_length hp.length_le]
    next hp =>
      have hp' : ¬ n <+: x::(xs ++ ys) := fun hn =>
        hp (prefix_of_prefix_length_le hn (prefix_append (x::xs) ys)
          ((afterFirst_length h).trans (by simp)))
      rw [if_neg hp',ih h]

/-- Text without an occurrence is skipped up to a letter that the needle can only end with. -/
theorem afterFirst_skip (hc : c ∉ n.dropLast) (hx : ¬ n <:+: xs ++ [c]) :
    afterFirst n (xs ++ c::ys) = afterFirst n ys := by
  induction xs with
  | nil =>
    have hp : ¬ n <+: c::ys := by
      intro hn
      cases n with
      | nil => simp at hx
      | cons x n =>
        obtain ⟨rfl,-⟩ := cons_prefix_cons.1 hn
        cases n with
        | nil => simp at hx
        | cons y n => simp at hc
    rw [nil_append]
    conv_lhs => unfold afterFirst
    rw [if_neg hp]
  | cons x xs ih =>
    have hp : ¬ n <+: x::(xs ++ c::ys) := by
      intro hn
      have hl : x::(xs ++ [c]) <+: x::(xs ++ c::ys) := by simp
      rcases lt_or_ge (xs.length + 2) n.length with hlen | hlen
      · have hln : x::(xs ++ [c]) <+: n := prefix_of_prefix_length_le hl hn (by simp; omega)
        obtain ⟨t,ht⟩ := hln
        apply hc
        subst ht
        have ht0 : t ≠ [] := by
          rintro rfl
          simp at hlen
        rw [dropLast_append_of_ne_nil ht0]
        simp
      · exact hx (prefix_of_prefix_length_le hn hl (by simpa using hlen)).isInfix
    rw [cons_append]
    conv_lhs => unfold afterFirst
    rw [if_neg hp,ih fun h => hx (h.trans (suffix_cons x _).isInfix)]

omit [DecidableEq α] in
/-- A needle that ends with its only `c` ends a text whose only `c` is the last letter. -/
theorem not_infix_concat (hm : c ∉ m) (hx : c ∉ xs) (h : ¬ m <:+ xs) : ¬ m ++ [c] <:+: xs ++ [c] := by
  rw [infix_append_mid_iff hm (by simp)]
  rintro (hn | hn | hn)
  · exact hx (hn.subset (by simp))
  · simp at hn
  · exact h hn.1

/-- Decimal numbers are written with digits and a sign. -/
theorem not_mem_toString_int (hd : a.isDigit = false) (hs : a ≠ '-') (z : ℤ) : a ∉ (toString z).toList := by
  have hnat : ∀ k : ℕ, a ∉ (k.repr).toList := by
    intro k hk
    rw [toList_repr] at hk
    simp [isDigit_of_mem_toDigits (by decide) (by decide) hk] at hd
  cases z with
  | ofNat k => exact hnat k
  | negSucc k =>
    show a ∉ ("-" ++ (k + 1).repr).toList
    rw [String.toList_append,mem_append]
    rintro (h | h)
    · exact hs (by simpa using h)
    · exact hnat (k + 1) h

lemma not_mem_toString_nat (hd : a.isDigit = false) (k : ℕ) : a ∉ (toString k).toList := by
  intro hk
  have : a ∈ k.repr.toList := hk
  rw [toList_repr] at this
  simp [isDigit_of_mem_toDigits (by decide) (by decide) this] at hd

lemma mem_intercalate {sep : List Char} {items : List (List Char)} {c : Char}
    (h : c ∈ List.intercalate sep items) : c ∈ sep ∨ ∃ item ∈ items, c ∈ item := by
  induction items with
  | nil => simp at h
  | cons item items ih =>
    cases items with
    | nil => exact .inr ⟨item,by simp,by simpa using h⟩
    | cons item' items =>
      rw [intercalate_cons_of_ne_nil (by simp),mem_append,mem_append] at h
      rcases h with (h | h) | h
      · exact .inr ⟨item,by simp,h⟩
      · exact .inl h
      · rcases ih h with h | ⟨x,hx,hc⟩
        · exact .inl h
        · exact .inr ⟨x,by simp [hx],hc⟩

section Joined

variable {sep text : String} {c : Char} {texts texts' : List String}

lemma not_mem_intercalate (hsep : c ∉ sep.toList) (h : ∀ text ∈ texts, c ∉ text.toList) :
    c ∉ (sep.intercalate texts).toList := by
  intro hmem
  rw [String.toList_intercalate] at hmem
  rcases mem_intercalate hmem with hmem | ⟨_,hitem,hmem⟩
  · exact hsep hmem
  · obtain ⟨text,htext,rfl⟩ := mem_map.1 hitem
    exact h text htext hmem

def parts (c : Char) (text : String) : List (List Char) := text.toList.splitOn c

lemma intercalate_parts (c : Char) (text : String) : [c].intercalate (parts c text) = text.toList :=
  intercalate_splitOn c

lemma parts_injective (c : Char) : Function.Injective (parts c) := by
  intro text text' h
  rw [← String.toList_inj,← intercalate_parts c,← intercalate_parts c,h]

lemma parts_of_free (h : c ∉ text.toList) : parts c text = [text.toList] := by
  have hsplit := @List.splitOn_intercalate Char [text.toList] _ _ c (by simpa using h) (by simp)
  simpa [parts] using hsplit

/-- The parts of a joined text are those of its members, whether or not these hold separators. -/
lemma parts_intercalate (hsep : sep.toList = [c]) (hne : texts ≠ []) :
    parts c (sep.intercalate texts) = texts.flatMap (parts c) := by
  rw [parts,String.toList_intercalate,hsep]
  induction texts with
  | nil => exact absurd rfl hne
  | cons text texts ih =>
    cases texts with
    | nil => simp [parts]
    | cons text' texts =>
      rw [map_cons,intercalate_cons_of_ne_nil (by simp),append_assoc,singleton_append,
        splitOn_eq_splitOnP,splitOnP_append_cons _ _ (by simp),← splitOn_eq_splitOnP,
        ← splitOn_eq_splitOnP,ih (by simp)]
      rfl

lemma flatMap_parts_of_free (h : ∀ text ∈ texts, c ∉ text.toList) :
    texts.flatMap (parts c) = texts.map String.toList := by
  induction texts with
  | nil => rfl
  | cons text texts ih =>
    rw [forall_mem_cons] at h
    rw [flatMap_cons,map_cons,parts_of_free h.1,ih h.2]
    rfl

lemma intercalate_inj (hsep : sep.toList = [c]) (hfree : ∀ text ∈ texts, c ∉ text.toList)
    (hfree' : ∀ text ∈ texts', c ∉ text.toList) (hne : texts ≠ []) (hne' : texts' ≠ [])
    (h : sep.intercalate texts = sep.intercalate texts') : texts = texts' := by
  have hparts := congrArg (parts c) h
  rw [parts_intercalate hsep hne,parts_intercalate hsep hne',flatMap_parts_of_free hfree,
    flatMap_parts_of_free hfree'] at hparts
  exact map_injective_iff.2 (fun _ _ => String.toList_inj.1) hparts

lemma intercalate_eq_empty (hsep : sep.toList = [c]) (hne : ∀ text ∈ texts, text ≠ "")
    (h : sep.intercalate texts = "") : texts = [] := by
  by_contra htexts
  have hparts := congrArg (parts c) h
  rw [parts_intercalate hsep htexts] at hparts
  obtain ⟨text,rest,rfl⟩ := exists_cons_of_ne_nil htexts
  have hempty : parts c "" = [[]] := rfl
  rw [hempty,flatMap_cons,append_eq_singleton_iff] at hparts
  have hfirst : text.toList = [] := by
    rw [← intercalate_parts c]
    rcases hparts with ⟨hnil,-⟩ | ⟨hfirst,-⟩
    · rw [hnil]
      rfl
    · rw [hfirst]
      rfl
  exact hne text (by simp) (String.toList_inj.1 hfirst)

theorem intercalate_inj_of_ne_empty (hsep : sep.toList = [c]) (hfree : ∀ text ∈ texts, c ∉ text.toList ∧ text ≠ "")
    (hfree' : ∀ text ∈ texts', c ∉ text.toList ∧ text ≠ "") (h : sep.intercalate texts = sep.intercalate texts') :
    texts = texts' := by
  by_cases hnil : texts = []
  · subst hnil
    exact (intercalate_eq_empty hsep (fun text ht => (hfree' text ht).2) h.symm).symm
  · by_cases hnil' : texts' = []
    · subst hnil'
      exact intercalate_eq_empty hsep (fun text ht => (hfree text ht).2) h
    · exact intercalate_inj hsep (fun text ht => (hfree text ht).1) (fun text ht => (hfree' text ht).1) hnil hnil' h

end Joined

def isSpace (c : Char) : Bool := c ∈ [' ','\t','\n','\x0b','\x0c','\r']

def signedDigits : List Char → Bool × List Char
  | '-'::rest => (true,rest.takeWhile Char.isDigit)
  | '+'::rest => (false,rest.takeWhile Char.isDigit)
  | rest => (false,rest.takeWhile Char.isDigit)

def signedValue (negative : Bool) (digits : List Char) : ℤ :=
  if negative then -(Nat.ofDigitChars 10 digits 0 : ℤ) else Nat.ofDigitChars 10 digits 0

def stoi (text : String) : Checked Int32 :=
  let (negative,digits) := signedDigits (text.toList.dropWhile isSpace)
  let z := signedValue negative digits
  if digits = [] then .error (.invalidArgument "stoi")
  else if Int32.minValue.toInt ≤ z ∧ z ≤ Int32.maxValue.toInt then .ok (Int32.ofInt z)
  else .error (.outOfRange "stoi")

lemma takeWhile_isDigit_toDigits (k : ℕ) : (Nat.toDigits 10 k).takeWhile Char.isDigit = Nat.toDigits 10 k :=
  takeWhile_eq_self_iff.2 fun _ h => isDigit_of_mem_toDigits (by decide) (by decide) h

lemma signedDigits_toString (z : ℤ) :
    signedDigits ((toString z).toList.dropWhile isSpace) = (decide (z < 0),Nat.toDigits 10 z.natAbs) := by
  cases z with
  | ofNat k =>
    have hk : (toString (Int.ofNat k)).toList = Nat.toDigits 10 k := toList_repr
    rw [hk]
    cases h : Nat.toDigits 10 k with
    | nil => exact absurd h toDigits_ne_nil
    | cons c cs =>
      have hc : c.isDigit = true := isDigit_of_mem_toDigits (b := 10) (n := k) (by decide) (by decide) (by simp [h])
      have hcs := takeWhile_isDigit_toDigits k
      have hs : isSpace c = false := by
        by_contra hs
        simp only [isSpace,mem_cons,not_mem_nil,or_false,decide_eq_false_iff_not,not_not] at hs
        rcases hs with rfl | rfl | rfl | rfl | rfl | rfl <;> simp at hc
      have hm : c ≠ '-' := by rintro rfl; simp at hc
      have hp : c ≠ '+' := by rintro rfl; simp at hc
      rw [dropWhile_cons_of_neg (by simp [hs])]
      unfold signedDigits
      split
      · rename_i he; simp at he; exact absurd he.1 hm
      · rename_i he; simp at he; exact absurd he.1 hp
      · simpa [h] using hcs
  | negSucc k =>
    have hk : (toString (Int.negSucc k)).toList = '-'::Nat.toDigits 10 (k + 1) := by
      show ("-" ++ (k + 1).repr).toList = _
      rw [String.toList_append,toList_repr]
      rfl
    rw [hk,dropWhile_cons_of_neg (by decide)]
    show (true,_) = _
    rw [takeWhile_isDigit_toDigits]
    simp [Int.negSucc_lt_zero]

lemma signedValue_toDigits (z : ℤ) : signedValue (decide (z < 0)) (Nat.toDigits 10 z.natAbs) = z := by
  rw [signedValue,ofDigitChars_ten_toDigits]
  by_cases h : z < 0
  · rw [decide_eq_true h,if_pos rfl]
    omega
  · rw [decide_eq_false h,if_neg (by decide)]
    omega

theorem stoi_toString (n : Int32) : stoi (toString n) = .ok n := by
  have ht : toString n = toString n.toInt := rfl
  have hz := signedValue_toDigits n.toInt
  unfold stoi
  rw [ht,signedDigits_toString]
  show (if Nat.toDigits 10 n.toInt.natAbs = [] then _ else if _ ∧ _ then _ else _) = _
  rw [if_neg toDigits_ne_nil,hz,if_pos ⟨n.minValue_le_toInt,n.toInt_le⟩,Int32.ofInt_toInt]

/-- The nearest integer; the even one of two. -/
def roundHalfEven (q : ℚ) : ℤ := if q - ⌊q⌋ < 1/2 then ⌊q⌋ else if 1/2 < q - ⌊q⌋ then ⌊q⌋ + 1 else ⌊q⌋ + ⌊q⌋ % 2

/-- The exponent of the leading decimal digit of a positive number. -/
def leadingExponent (q : ℚ) : ℤ := if 1 ≤ q then Nat.log 10 ⌊q⌋.toNat else -(Nat.clog 10 ⌈1/q⌉.toNat : ℤ)

def withFraction (whole fraction : List Char) : List Char :=
  match (fraction.reverse.dropWhile (· = '0')).reverse with
  | [] => whole
  | rest => whole ++ '.'::rest

/-- `%g` with six significant digits of a positive number. -/
def formatPositive (q : ℚ) : List Char :=
  let e := leadingExponent q
  let m := (roundHalfEven (q * 10^(5 - e))).toNat
  -- rounding up can carry into one more digit
  let e := if m = 1000000 then e + 1 else e
  let digits := (toString (if m = 1000000 then 100000 else m)).toList
  if e < -4 ∨ 5 < e then
    withFraction (digits.take 1) (digits.drop 1) ++ ['e',if e < 0 then '-' else '+'] ++
      (if e.natAbs < 10 then ['0'] else []) ++ (toString e.natAbs).toList
  else if e < 0 then withFraction ['0'] (List.replicate (e.natAbs - 1) '0' ++ digits)
  else withFraction (digits.take (e.natAbs + 1)) (digits.drop (e.natAbs + 1))

/-- A `double` as a standard stream prints it. -/
def formatDouble (q : ℚ) : String :=
  if q = 0 then "0" else if q < 0 then String.ofList ('-'::formatPositive (-q))
  else String.ofList (formatPositive q)

/-- `std::to_string` of a `double`: `%f` with its six decimals. -/
def formatFixed (q : ℚ) : String :=
  let scaled := (roundHalfEven (|q| * 10^6)).toNat
  let decimals := (toString (scaled % 10^6)).toList
  String.ofList ((if q < 0 then ['-'] else []) ++ (toString (scaled / 10^6)).toList ++
    '.'::(List.replicate (6 - decimals.length) '0' ++ decimals))

def joinPath (base part : String) : String :=
  if part.toList.head? = some '/' ∨ base = "" then part
  else if base.toList.getLast? = some '/' then base ++ part
  else base ++ "/" ++ part

def pathFilename (path : String) : String := String.ofList (path.toList.reverse.takeWhile (· ≠ '/')).reverse

end Naim.Text
