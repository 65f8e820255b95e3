import Naim.Browsing
import Naim.Inet

/-!
# Hosts of the local network in disguise

The filter compares the text of a host, the resolver reads it: a name may end with
a dot, and an address has many spellings. Here are the spellings of a local host
that the filter lets pass.
-/

namespace Naim.Browsing

open Inet Text List
open Bool hiding or_assoc and_assoc

/-- `localhost` and the names in the domains of the local network. -/
def localName (name : List Char) : Bool :=
  name = "localhost".toList || [".local",".internal",".lan"].any (·.toList.isSuffixOf name)

def withoutDot (host : List Char) : List Char := if host.getLast? = some '.' then host.dropLast else host

def localNetworks : List (ℕ × ℕ) :=
  [(dotted 0 0 0 0,8),(dotted 10 0 0 0,8),(dotted 127 0 0 0,8),(dotted 169 254 0 0,16),
    (dotted 172 16 0 0,12),(dotted 192 168 0 0,16)]

def localAddress (n : ℕ) : Bool := localNetworks.any fun (network,length) => inNetwork network length n

def resolvesLocally (host : String) : Bool := localName (withoutDot host.toList) || (aton host.toList).any localAddress

/-- The two kinds of dotted decimals that read otherwise with their leading zeros. -/
def octalTwist : List (List Char) → Bool
  | a::b::_ => a = "012".toList || a = "172".toList &&
      b ∈ ["032".toList,"033".toList,"034".toList,"035".toList,"036".toList,"037".toList]
  | _ => false

/-- A local name with a dot behind it, or a local address that is not written with four
decimal numbers, or that has an octal number in the right place. -/
def disguised (host : String) : Bool :=
  host.toList.getLast? = some '.' && localName host.toList.dropLast ||
    (aton host.toList).any localAddress && (!isIpv4Literal host || octalTwist (parts '.' host))

lemma localAddress_eq (n : ℕ) : localAddress n = privateOctets (n / 2^24) (n / 2^16 % 2^8) := by
  simp only [localAddress,localNetworks,any_cons,any_nil,inNetwork,dotted,privateOctets,
    Bool.or_false,← decide_or,← decide_and]
  refine decide_eq_decide.2 ?_
  omega

def reads (part : List Char) : Bool :=
  (numeral part).all fun a => (a = octet part || a ≤ 63 && (a ≠ 0 || octet part = 0) &&
    (a ≠ 10 || part = "012".toList) && (a < 16 || 31 < a || 16 ≤ octet part && octet part ≤ 31 ||
      part ∈ ["032".toList,"033".toList,"034".toList,"035".toList,"036".toList,"037".toList])) &&
    (a ≠ 172 || part = "172".toList)

lemma reads_digits : ∀ c ∈ digits, reads [c] = true ∧ ∀ d ∈ digits, reads [c,d] = true ∧
    ∀ e ∈ digits, reads [c,d,e] = true := by
  have hall : (digits.all fun c => reads [c] && digits.all fun d => reads [c,d] &&
      digits.all fun e => reads [c,d,e]) = true := by decide +kernel
  simpa only [all_eq_true,and_eq_true] using hall

lemma mem_digits {c : Char} (hlow : '0' ≤ c) (hhigh : c ≤ '9') : c ∈ digits := by
  have hall : ∀ n ∈ List.range' 48 10, Char.ofNat n ∈ digits := by decide
  rw [← Char.ofNat_toNat c]
  refine hall _ (mem_range'_1.2 ⟨hlow,?_⟩)
  exact Nat.lt_succ_of_le hhigh

lemma reads_of_digits (hlow : 1 ≤ part.length) (hhigh : part.length ≤ 3) (hdigits : ∀ c ∈ part, c ∈ digits) :
    reads part = true := by
  match part, hlow, hhigh with
  | [c], _, _ => exact (reads_digits c (hdigits c (by simp))).1
  | [c,d], _, _ => exact ((reads_digits c (hdigits c (by simp))).2 d (hdigits d (by simp))).1
  | [c,d,e], _, _ => exact ((reads_digits c (hdigits c (by simp))).2 d (hdigits d (by simp))).2 e (hdigits e (by simp))

variable {host : String}

lemma isIpv4Literal_eq_true (h : isIpv4Literal host = true) :
    ∃ a b c d, parts '.' host = [a,b,c,d] ∧ reads a = true ∧ reads b = true := by
  simp only [isIpv4Literal,and_eq_true,decide_eq_true_eq,all_eq_true] at h
  obtain ⟨hlength,hparts⟩ := h
  match hsplit : parts '.' host, hlength with
  | [a,b,c,d], _ =>
    have hreads : ∀ part ∈ parts '.' host, reads part = true := fun part hpart =>
      reads_of_digits (hparts part hpart).1.1 (hparts part hpart).1.2 fun c hc =>
        mem_digits ((hparts part hpart).2 c hc).1 ((hparts part hpart).2 c hc).2
    exact ⟨a,b,c,d,rfl,hreads a (by simp [hsplit]),hreads b (by simp [hsplit])⟩

lemma privateOctets_iff {a b : ℕ} : privateOctets a b = true ↔
    (a = 10 ∨ a = 127 ∨ a = 0) ∨ a = 169 ∧ b = 254 ∨ a = 172 ∧ 16 ≤ b ∧ b ≤ 31 ∨ a = 192 ∧ b = 168 := by
  simp [privateOctets,or_assoc,and_assoc]

section Reads

variable {n m : ℕ} {a b : List Char} (hlocal : privateOctets m n = true)
  (hpassed : privateOctets (octet a) (octet b) = false)

include hlocal hpassed

lemma first_reads (ha : reads a = true) (hm : numeral a = some m) (h012 : a ≠ "012".toList) : m = octet a := by
  simp only [reads,hm,Option.all_some,and_eq_true,or_eq_true,decide_eq_true_eq] at ha
  rcases ha.1 with h | ⟨⟨⟨h63,h0⟩,h10⟩,-⟩
  · exact h
  · have hzero : m = 0 := by
      have h10 := h10.resolve_right h012
      rcases privateOctets_iff.1 hlocal with (h | h | h) | h | h | h <;> omega
    have hoctet := h0.resolve_left (not_not.2 hzero)
    exact absurd hpassed (by simp [privateOctets,hoctet])

lemma second_reads (hb : reads b = true) (hn : numeral b = some n) (hm : m = octet a) : m = 172 ∧
    b ∈ ["032".toList,"033".toList,"034".toList,"035".toList,"036".toList,"037".toList] := by
  simp only [reads,hn,Option.all_some,and_eq_true,or_eq_true,decide_eq_true_eq] at hb
  rw [← hm] at hpassed
  rcases hb.1 with h | ⟨⟨⟨h63,-⟩,-⟩,htwist⟩
  · rw [← h,hlocal] at hpassed
    exact absurd hpassed (by simp)
  have hpassed : ¬ privateOctets m (octet b) = true := by simp [hpassed]
  rw [privateOctets_iff] at hpassed
  have h172 : m = 172 ∧ 16 ≤ n ∧ n ≤ 31 := by
    rcases privateOctets_iff.1 hlocal with h | h | h | h
    · exact absurd (.inl h) hpassed
    · omega
    · exact h
    · omega
  refine ⟨h172.1,?_⟩
  rcases htwist with (h | h) | h
  · omega
  · exact absurd (.inr (.inr (.inl ⟨h172.1,h⟩))) hpassed
  · exact h

lemma octalTwist_of_reads (ha : reads a = true) (hb : reads b = true) (hm : numeral a = some m)
    (hn : numeral b = some n) : octalTwist (a::b::rest) = true := by
  simp only [octalTwist,or_eq_true,and_eq_true,decide_eq_true_eq]
  by_cases h012 : a = "012".toList
  · exact .inl h012
  · obtain ⟨h172,hb'⟩ := second_reads hlocal hpassed hb hn (first_reads hlocal hpassed ha hm h012)
    simp only [reads,hm,Option.all_some,and_eq_true,or_eq_true,decide_eq_true_eq] at ha
    exact .inr ⟨ha.2.resolve_left (not_not.2 h172),hb'⟩

end Reads

lemma octalTwist_of_passed (hliteral : isIpv4Literal host = true) (hpassed : isPrivateIpv4 host = false)
    (hlocal : (aton host.toList).any localAddress = true) : octalTwist (parts '.' host) = true := by
  obtain ⟨a,b,c,d,hparts,ha,hb⟩ := isIpv4Literal_eq_true hliteral
  obtain ⟨n,hn,hlocal⟩ := (Option.any_eq_true _ _).1 hlocal
  rw [isPrivateIpv4,hliteral,hparts,Bool.true_and] at hpassed
  have hsplit : host.toList.splitOn '.' = [a,b,c,d] := hparts
  simp only [aton,hsplit,mapM_cons,mapM_nil,Option.bind_eq_bind,Option.bind_eq_some_iff,Option.pure_def,
    Option.some.injEq] at hn
  obtain ⟨_,⟨m₁,hm₁,_,⟨m₂,hm₂,_,⟨m₃,-,_,⟨m₄,-,_,rfl,rfl⟩,rfl⟩,rfl⟩,rfl⟩,haddress⟩ := hn
  obtain ⟨hfirst,hsecond⟩ := address_quad haddress
  rw [localAddress_eq,hfirst,hsecond] at hlocal
  rw [hparts]
  exact octalTwist_of_reads hlocal hpassed ha hb hm₁ hm₂

lemma not_localName (h : deniedName host = false) : localName host.toList = false := by
  simp only [deniedName,endsWithDomain,or_eq_false_iff,decide_eq_false_iff_not] at h
  obtain ⟨⟨⟨⟨⟨hlocalhost,-,hlocal⟩,-,hinternal⟩,-,hlan⟩,-⟩,-⟩ := h
  simp only [localName,any_cons,any_nil,Bool.or_false,or_eq_false_iff,decide_eq_false_iff_not]
  exact ⟨fun heq => hlocalhost (String.toList_inj.1 heq),hlocal,hinternal,hlan⟩

/-- The host of an accepted URL is not one of the local network exactly when it is not
in disguise. -/
theorem acceptedHost_public_iff {url : String} {policy : BrowsingPolicy} {host : String}
    (h : isSafeBrowsingUrl url policy = .ok host) : resolvesLocally host = false ↔ disguised host = false := by
  obtain ⟨-,hname,haddress,-⟩ := isSafeBrowsingUrl_eq_ok h
  have hspelling : ((aton host.toList).any localAddress && (!isIpv4Literal host || octalTwist (parts '.' host))) =
      (aton host.toList).any localAddress := by
    cases hlocal : (aton host.toList).any localAddress with
    | false => rfl
    | true =>
      cases hliteral : isIpv4Literal host with
      | false => rfl
      | true => exact octalTwist_of_passed hliteral haddress hlocal
  rw [resolvesLocally,disguised,hspelling,withoutDot]
  by_cases hdot : host.toList.getLast? = some '.'
  · simp [hdot]
  · simp [hdot,not_localName hname]

theorem acceptedHost_public_example : isSafeBrowsingUrl "https://user@Example.com:8443/a?b" {} = .ok "example.com" ∧
    resolvesLocally "example.com" = false := by
  have h : isSafeBrowsingUrl "https://user@Example.com:8443/a?b" {} = .ok "example.com" := by decide +kernel
  exact ⟨h,(acceptedHost_public_iff h).2 (by decide +kernel)⟩

/-- Accepted URLs of local hosts: a dot behind the name, other bases and fewer numbers,
and leading zeros. -/
theorem acceptedHost_local : (["http://localhost./","http://printer.lan.","http://2130706433/","http://0x7f.1/",
    "http://0177.0.0.1/","http://012.0.0.1/","http://172.032.0.1/"].all fun url =>
      match isSafeBrowsingUrl url {} with
      | .ok host => resolvesLocally host
      | .error _ => false) = true := by
  decide +kernel

end Naim.Browsing
