import Mathlib.Data.Nat.Basic
import Mathlib.Data.List.Basic
import Mathlib.Data.Prod.Lex
import Mathlib.Tactic.Common
import Mathlib.Data.String.Basic

/-!
# Points of time and their texts

Seconds since 1970 as `YYYY-MM-DD HH:MM:SS`. Up to the end of the year 9999 the
texts are ordered as the seconds are, which is what the comparison of timestamp
columns rests on.
-/

namespace Naim.Calendar

open List Nat

/-- The block that holds the given offset and the position in it, where block `k`
is followed by block `k + 1`. The fuel bounds the number of blocks passed. -/
def locate (length : ℕ → ℕ) : ℕ → ℕ → ℕ → ℕ × ℕ
  | 0, k, r => (k,r)
  | fuel+1, k, r => if r < length k then (k,r) else locate length fuel (k + 1) (r - length k)

section Blocks

variable {length : ℕ → ℕ} {fuel fuel' k r r' : ℕ}

lemma le_locate (length : ℕ → ℕ) (fuel k r : ℕ) : k ≤ (locate length fuel k r).1 := by
  induction fuel generalizing k r with
  | zero => exact le_rfl
  | succ fuel ih =>
    rw [locate]
    split
    · exact le_rfl
    · exact (le_succ k).trans (ih (k + 1) _)

lemma locate_lt (hpos : ∀ k, 0 < length k) (hfuel : r ≤ fuel) :
    (locate length fuel k r).2 < length (locate length fuel k r).1 := by
  induction fuel generalizing k r with
  | zero =>
    rw [locate,le_zero.1 hfuel]
    exact hpos k
  | succ fuel ih =>
    rw [locate]
    split
    · assumption
    · have := hpos k
      exact ih (by omega)

lemma locate_mono (hpos : ∀ k, 0 < length k) (hr : r < r') (hfuel : r ≤ fuel) (hfuel' : r' ≤ fuel') :
    (locate length fuel k r).1 < (locate length fuel' k r').1 ∨
      (locate length fuel k r).1 = (locate length fuel' k r').1 ∧
        (locate length fuel k r).2 < (locate length fuel' k r').2 := by
  induction fuel generalizing fuel' k r r' with
  | zero =>
    cases fuel' with
    | zero => omega
    | succ fuel' =>
      simp only [locate]
      split
      · exact .inr ⟨rfl,hr⟩
      · exact .inl (le_locate length fuel' (k + 1) _)
  | succ fuel ih =>
    cases fuel' with
    | zero => omega
    | succ fuel' =>
      simp only [locate]
      by_cases h : r < length k
      · rw [if_pos h]
        split
        · exact .inr ⟨rfl,hr⟩
        · exact .inl (le_locate length fuel' (k + 1) _)
      · have := hpos k
        rw [if_neg h,if_neg (by omega)]
        exact ih (by omega) (by omega) (by omega)

end Blocks

def isLeapYear (y : ℕ) : Bool := y % 4 = 0 && (y % 100 ≠ 0 || y % 400 = 0)

def daysInYear (leap : Bool) : ℕ := if leap then 366 else 365

def yearLength (y : ℕ) : ℕ := daysInYear (isLeapYear y)

/-- The months are counted from zero. -/
def monthLength (leap : Bool) (m : ℕ) : ℕ :=
  if m = 1 then (if leap then 29 else 28) else if m ∈ [3,5,8,10] then 30 else 31

lemma yearLength_pos (y : ℕ) : 0 < yearLength y := by
  unfold yearLength
  cases isLeapYear y <;> decide

lemma monthLength_pos (leap : Bool) (m : ℕ) : 0 < monthLength leap m := by
  unfold monthLength
  split
  · cases leap <;> decide
  · split <;> decide

def yearAndDay (days : ℕ) : ℕ × ℕ := locate yearLength days 1970 days

def monthAndDay (leap : Bool) (day : ℕ) : ℕ × ℕ := locate (monthLength leap) day 0 day

variable {day n m s' s d d' t t' day' : ℕ} {leap : Bool} {rest rest' separator : List Char}

lemma monthAndDay_lt (h : day < daysInYear leap) :
    (monthAndDay leap day).1 < 12 ∧ (monthAndDay leap day).2 < 31 := by
  have hall : ∀ leap, ∀ day < daysInYear leap, (monthAndDay leap day).1 < 12 ∧ (monthAndDay leap day).2 < 31 := by
    decide +kernel
  exact hall leap day h

def digit (n : ℕ) : Char := Char.ofNat (48 + n)

def padded : ℕ → ℕ → List Char
  | 0, _ => []
  | w+1, n => padded w (n / 10) ++ [digit (n % 10)]

@[simp] lemma length_padded (w n : ℕ) : (padded w n).length = w := by
  induction w generalizing n with
  | zero => rfl
  | succ w ih => simp [padded,ih]

lemma append_lt_append {a b c d : List Char} (hlen : a.length = c.length) (h : a < c ∨ a = c ∧ b < d) :
    a ++ b < c ++ d := by
  rcases h with h | ⟨rfl,h⟩
  · induction a generalizing c with
    | nil =>
      obtain rfl : c = [] := length_eq_zero_iff.1 hlen.symm
      exact absurd h (lt_irrefl _)
    | cons x a ih =>
      cases c with
      | nil => simp at hlen
      | cons y c =>
        rw [cons_append,cons_append,cons_lt_cons_iff]
        rcases cons_lt_cons_iff.1 h with h | ⟨hxy,h⟩
        · exact .inl h
        · exact .inr ⟨hxy,ih (by simpa using hlen) h⟩
  · exact append_left_lt h

lemma digit_lt (h : m < n) (hn : n < 10) : digit m < digit n := by
  have hall : ∀ n < 10, ∀ m < n, digit m < digit n := by decide
  exact hall n hn m h

lemma padded_lt {w : ℕ} (h : m < n) (hn : n < 10 ^ w) : padded w m < padded w n := by
  induction w generalizing m n with
  | zero => omega
  | succ w ih =>
    refine append_lt_append (by simp) ?_
    by_cases hdiv : m / 10 < n / 10
    · exact .inl (ih hdiv (by omega))
    · have heq : m / 10 = n / 10 := le_antisymm (Nat.div_le_div_right h.le) (not_lt.1 hdiv)
      refine .inr ⟨by rw [heq],?_⟩
      exact cons_lt_cons_iff.2 (.inl (digit_lt (by omega) (mod_lt _ (by decide))))

def part (separator : List Char) (w n : ℕ) (rest : List Char) : List Char := separator ++ (padded w n ++ rest)

lemma part_lt {w : ℕ} (hn : n < 10 ^ w) (h : m < n ∨ m = n ∧ rest < rest') :
    part separator w m rest < part separator w n rest' := by
  refine append_left_lt (append_lt_append (by simp) ?_)
  rcases h with h | ⟨rfl,h⟩
  · exact .inl (padded_lt h hn)
  · exact .inr ⟨rfl,h⟩

def timeText (seconds : ℕ) : List Char :=
  part [' '] 2 (seconds / 3600) (part [':'] 2 (seconds / 60 % 60) (part [':'] 2 (seconds % 60) []))

def dayText (leap : Bool) (day seconds : ℕ) : List Char :=
  part ['-'] 2 ((monthAndDay leap day).1 + 1) (part ['-'] 2 ((monthAndDay leap day).2 + 1) (timeText seconds))

/-- A year of more than four digits is written in full. -/
def yearText (y : ℕ) (rest : List Char) : List Char :=
  if y < 10000 then part [] 4 y rest else (toString y).toList ++ rest

def timestampText (t : ℕ) : List Char :=
  yearText (yearAndDay (t / 86400)).1
    (dayText (isLeapYear (yearAndDay (t / 86400)).1) (yearAndDay (t / 86400)).2 (t % 86400))

/-- `strftime("%Y-%m-%d %H:%M:%S")` of the seconds since 1970. -/
def sqlTimestamp (t : ℕ) : String := String.ofList (timestampText t)

def limit : ℕ := 253402300800

lemma timeText_lt (h : s < s') (hs' : s' < 86400) : timeText s < timeText s' := by
  refine part_lt (by omega) ?_
  by_cases hhour : s / 3600 < s' / 3600
  · exact .inl hhour
  · refine .inr ⟨by omega,part_lt (by omega) ?_⟩
    by_cases hminute : s / 60 % 60 < s' / 60 % 60
    · exact .inl hminute
    · exact .inr ⟨by omega,part_lt (by omega) (.inl (by omega))⟩

lemma dayText_lt (h : day < day' ∨ day = day' ∧ s < s') (hday' : day' < daysInYear leap) (hs' : s' < 86400) :
    dayText leap day s < dayText leap day' s' := by
  obtain ⟨hmonth,hdom⟩ := monthAndDay_lt hday'
  refine part_lt (by omega) ?_
  rcases h with h | ⟨rfl,h⟩
  · rcases locate_mono (k := 0) (monthLength_pos leap) h le_rfl le_rfl with hlt | ⟨heq,hlt⟩
    · exact .inl (succ_lt_succ hlt)
    · exact .inr ⟨congrArg (· + 1) heq,part_lt (by omega) (.inl (succ_lt_succ hlt))⟩
  · exact .inr ⟨rfl,part_lt (by omega) (.inr ⟨rfl,timeText_lt h hs'⟩)⟩

lemma yearAndDay_lt (days : ℕ) : (yearAndDay days).2 < daysInYear (isLeapYear (yearAndDay days).1) :=
  locate_lt yearLength_pos le_rfl

lemma yearAndDay_mono (h : d < d') : (yearAndDay d).1 < (yearAndDay d').1 ∨
    (yearAndDay d).1 = (yearAndDay d').1 ∧ (yearAndDay d).2 < (yearAndDay d').2 :=
  locate_mono yearLength_pos h le_rfl le_rfl

lemma year_mono (h : d ≤ d') : (yearAndDay d).1 ≤ (yearAndDay d').1 := by
  rcases h.lt_or_eq with h | rfl
  · rcases yearAndDay_mono h with h | ⟨h,-⟩
    · exact h.le
    · exact h.le
  · exact le_rfl

lemma year_of_lastDay : (yearAndDay (limit / 86400 - 1)).1 = 9999 := by decide +kernel

lemma year_lt (h : t < limit) : (yearAndDay (t / 86400)).1 < 10000 := by
  have hday : t / 86400 ≤ limit / 86400 - 1 := by
    unfold limit at h ⊢
    omega
  have := year_mono hday
  rw [year_of_lastDay] at this
  omega

lemma sqlTimestamp_lt (h : t < t') (ht' : t' < limit) : sqlTimestamp t < sqlTimestamp t' := by
  rw [sqlTimestamp,sqlTimestamp,String.lt_iff_toList_lt,String.toList_ofList,String.toList_ofList]
  have hyear := year_lt (h.trans ht')
  have hyear' := year_lt ht'
  rw [timestampText,timestampText,yearText,yearText,if_pos hyear,if_pos hyear']
  refine part_lt (by omega) ?_
  have hs' : t' % 86400 < 86400 := mod_lt _ (by decide)
  by_cases hdays : t / 86400 < t' / 86400
  · rcases yearAndDay_mono hdays with hlt | ⟨heq,hlt⟩
    · exact .inl hlt
    · refine .inr ⟨heq,?_⟩
      rw [heq]
      exact dayText_lt (.inl hlt) (yearAndDay_lt _) hs'
  · have heq : t / 86400 = t' / 86400 := le_antisymm (Nat.div_le_div_right h.le) (not_lt.1 hdays)
    refine .inr ⟨by rw [heq],?_⟩
    rw [heq]
    exact dayText_lt (.inr ⟨rfl,by omega⟩) (yearAndDay_lt _) hs'

lemma sqlTimestamp_le_iff (ht : t < limit) (ht' : t' < limit) : sqlTimestamp t ≤ sqlTimestamp t' ↔ t ≤ t' := by
  constructor
  · intro h
    by_contra hlt
    exact absurd (sqlTimestamp_lt (not_le.1 hlt) ht) (not_lt.2 h)
  · intro h
    rcases h.lt_or_eq with h | rfl
    · exact (sqlTimestamp_lt h ht').le
    · exact le_rfl

example : sqlTimestamp 1767225700 = "2026-01-01 00:01:40" := by decide +kernel

/-- A point of time that `CURRENT_TIMESTAMP` can name. -/
structure Instant where
  seconds : ℕ := 0
  inRange : seconds < limit := by decide
  deriving DecidableEq

instance : LinearOrder Instant :=
  LinearOrder.lift' Instant.seconds fun a b h => by
    cases a
    cases b
    simpa using h

def Instant.text (t : Instant) : String := sqlTimestamp t.seconds

lemma Instant.text_le_text {t t' : Instant} : t.text ≤ t'.text ↔ t ≤ t' := sqlTimestamp_le_iff t.inRange t'.inRange

lemma Instant.text_ne_empty (t : Instant) : t.text ≠ "" := by
  intro h
  have hlist : timestampText t.seconds = [] := by
    have := congrArg String.toList h
    simpa [Instant.text,sqlTimestamp] using this
  rw [timestampText,yearText,if_pos (year_lt t.inRange)] at hlist
  simp [part,padded] at hlist

end Naim.Calendar
