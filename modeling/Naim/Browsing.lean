import Naim.Text
import Mathlib.Data.List.DropRight

/-!
# The URLs that a browsing server may visit

`IsSafeBrowsingUrl` takes the host out of a URL and compares it with the names and
addresses of the local network and with the domains of the policy.
-/

namespace Naim.Browsing

/-- The fields of the policy that decide on a URL or on how it is fetched. -/
structure BrowsingPolicy where
  renderedBrowserEnabled : Bool := true
  (allowedDomains blockedDomains : List String := [])
  maxFetchBytes : Int32 := 262144
  deriving DecidableEq

def lowercaseCopy (value : List Char) : List Char := value.map Char.toLower

def trimCopy (value : List Char) : List Char := (value.dropWhile Text.isSpace).rdropWhile Text.isSpace

/-- What stands behind the scheme, in any case of its letters. -/
def afterScheme (url : List Char) : Option (List Char) :=
  if lowercaseCopy (url.take 8) = "https://".toList then some (url.drop 8)
  else if lowercaseCopy (url.take 7) = "http://".toList then some (url.drop 7)
  else none

def afterLast (c : Char) (text : List Char) : List Char := text.rtakeWhile (· ≠ c)

def beforeLast (c : Char) (text : List Char) : List Char :=
  if c ∈ text then (text.rdropWhile (· ≠ c)).dropLast else text

def extractHost (url : String) : Option String := do
  let rest ← afterScheme url.toList
  let authority := rest.takeWhile fun c => c ≠ '/' && c ≠ '?' && c ≠ '#'
  guard (authority ≠ [])
  let host := afterLast '@' authority
  guard (host.head? ≠ some '[')
  let host := lowercaseCopy (trimCopy (beforeLast ':' host))
  guard (host ≠ [])
  some (String.ofList host)

def endsWithDomain (host domain : String) : Bool := host = domain || ('.'::domain.toList).isSuffixOf host.toList

def isIpv4Literal (host : String) : Bool :=
  (Text.parts '.' host).length = 4 && (Text.parts '.' host).all fun part =>
    1 ≤ part.length && part.length ≤ 3 && part.all fun c => '0' ≤ c && c ≤ '9'

def octet (part : List Char) : ℕ := part.foldl (fun n c => 10*n + (c.toNat - '0'.toNat)) 0

def privateOctets (a b : ℕ) : Bool :=
  a = 10 || a = 127 || a = 0 || (a = 169 && b = 254) || (a = 172 && 16 ≤ b && b ≤ 31) || (a = 192 && b = 168)

def isPrivateIpv4 (host : String) : Bool :=
  isIpv4Literal host && match Text.parts '.' host with
    | a::b::_ => privateOctets (octet a) (octet b)
    | _ => false

def matchesDomain (host : String) (domains : List String) : Bool :=
  domains.any fun domain => domain ≠ "" && endsWithDomain host (String.ofList (lowercaseCopy domain.toList))

def domainAllowed (host : String) (policy : BrowsingPolicy) (requestedDomains : List String := []) : Bool :=
  if matchesDomain host policy.blockedDomains then false
  else if requestedDomains ≠ [] then matchesDomain host requestedDomains
  else policy.allowedDomains = [] || matchesDomain host policy.allowedDomains

def deniedName (host : String) : Bool :=
  host = "localhost" || endsWithDomain host "local" || endsWithDomain host "internal" || endsWithDomain host "lan" ||
    host = "host.docker.internal" || host = "controller.internal"

/-- `IsSafeBrowsingUrl`: the host of the URL, or the reason why it is denied. -/
def isSafeBrowsingUrl (url : String) (policy : BrowsingPolicy) : Except String String :=
  if !("http://".toList.isPrefixOf url.toList || "https://".toList.isPrefixOf url.toList) then
    .error "only http and https URLs are supported"
  else match extractHost url with
    | none => .error "URL host is missing or unsupported"
    | some host =>
      if deniedName host then .error "private or controller-local hosts are denied"
      else if isPrivateIpv4 host then .error "private IP targets are denied"
      else if !domainAllowed host policy then .error "domain is blocked by browsing policy"
      else .ok host

lemma isSafeBrowsingUrl_eq_ok (h : isSafeBrowsingUrl url policy = .ok host) :
    extractHost url = some host ∧ deniedName host = false ∧ isPrivateIpv4 host = false ∧
      domainAllowed host policy = true := by
  unfold isSafeBrowsingUrl at h
  split at h
  · exact absurd h (by simp)
  split at h
  · exact absurd h (by simp)
  rename_i host' hhost
  split at h
  · exact absurd h (by simp)
  rename_i hname
  split at h
  · exact absurd h (by simp)
  rename_i haddress
  split at h
  · exact absurd h (by simp)
  rename_i hdomain
  obtain rfl := Except.ok.inj h
  exact ⟨hhost,by simpa using hname,by simpa using haddress,by simpa using hdomain⟩

end Naim.Browsing
