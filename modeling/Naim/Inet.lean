import Mathlib.Algebra.Group.Nat.Defs
import Mathlib.Data.List.Basic

/-!
# Spellings of an IPv4 address

`inet_aton` reads an address from one to four numbers with dots between them. Each
number is decimal, octal or hexadecimal, and the last one fills the bytes that are
left.
-/

namespace Naim.Inet

def digits : List Char := ['0','1','2','3','4','5','6','7','8','9']

def octalDigits : List Char := ['0','1','2','3','4','5','6','7']

def hexDigits : List Char := digits ++ ['a','b','c','d','e','f','A','B','C','D','E','F']

def digit (c : Char) : ℕ :=
  if 'a' ≤ c then c.toNat - 'a'.toNat + 10 else if 'A' ≤ c then c.toNat - 'A'.toNat + 10 else c.toNat - '0'.toNat

def value (base : ℕ) (text : List Char) : ℕ := text.foldl (fun n c => base*n + digit c) 0

/-- A number whose base is told by how it starts. -/
def numeral : List Char → Option ℕ
  | '0' :: 'x' :: text | '0' :: 'X' :: text =>
    if text ≠ [] ∧ text.all (· ∈ hexDigits) then some (value 16 text) else none
  | '0' :: text => if text.all (· ∈ octalDigits) then some (value 8 text) else none
  | text => if text ≠ [] ∧ text.all (· ∈ digits) then some (value 10 text) else none

def address : List ℕ → Option ℕ
  | [d] => if d < 2^32 then some d else none
  | [a,d] => if a < 2^8 ∧ d < 2^24 then some (a*2^24 + d) else none
  | [a,b,d] => if a < 2^8 ∧ b < 2^8 ∧ d < 2^16 then some (a*2^24 + b*2^16 + d) else none
  | [a,b,c,d] => if a < 2^8 ∧ b < 2^8 ∧ c < 2^8 ∧ d < 2^8 then some (a*2^24 + b*2^16 + c*2^8 + d) else none
  | _ => none

def aton (text : List Char) : Option ℕ := (text.splitOn '.').mapM numeral >>= address

def inNetwork (network length n : ℕ) : Bool := n / 2^(32 - length) = network / 2^(32 - length)

def dotted (a b c d : ℕ) : ℕ := a*2^24 + b*2^16 + c*2^8 + d

variable {a b c d n : ℕ}

lemma address_quad (h : address [a,b,c,d] = some n) : n / 2^24 = a ∧ n / 2^16 % 2^8 = b := by
  change (if a < 2^8 ∧ b < 2^8 ∧ c < 2^8 ∧ d < 2^8 then some (a*2^24 + b*2^16 + c*2^8 + d) else none) = some n at h
  split at h
  · obtain rfl := Option.some.inj h
    omega
  · exact absurd h (by simp)

example : aton "127.0.0.1".toList = some (dotted 127 0 0 1) ∧ aton "0x7f.1".toList = some (dotted 127 0 0 1) ∧
    aton "2130706433".toList = some (dotted 127 0 0 1) ∧ aton "0177.0.0.08".toList = none := by decide

end Naim.Inet
