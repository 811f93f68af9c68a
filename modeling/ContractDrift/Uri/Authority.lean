/-
Authorities that can be read.

A reference is only divided if the brackets in its authority come together and hold the address
of a host, and if none of its characters stands for a mark that would end the authority
(`authorityFault?`).
-/
import ContractDrift.Text.Quoted
import ContractDrift.Uri.HostAddress
import ContractDrift.Uri.Reference

namespace ContractDrift.Uri

/-- Why the authority of a reference cannot be read. -/
inductive AuthorityFault where
  /-- There is only an opening or only a closing bracket. -/
  | loneBracket
  /-- What the brackets hold is said to be an address of a later version and is none. -/
  | futureAddress
  /-- The brackets hold no address. -/
  | notAnAddress (host : List Char)
  | ipv4InBrackets
  /-- A character stands for a mark that would end the authority. -/
  | foldedMark (authority : List Char)
  deriving Repr, DecidableEq, Inhabited

/-- The wording of a fault. -/
def AuthorityFault.message : AuthorityFault → String
  | .loneBracket => "Invalid IPv6 URL"
  | .futureAddress => "IPvFuture address is invalid"
  | .notAnAddress host =>
    Text.quoted (String.ofList host) ++ " does not appear to be an IPv4 or IPv6 address"
  | .ipv4InBrackets => "An IPv4 address cannot be in brackets"
  | .foldedMark authority =>
    "netloc '" ++ String.ofList authority ++
      "' contains invalid characters under NFKC normalization"

/-- The characters whose compatible form has a mark that ends an authority or divides it. -/
def foldedMarks : List Char :=
  ['\u2047', '\u2048', '\u2049', '\u2100', '\u2101', '\u2105', '\u2106', '\u2a74', '\ufe13',
   '\ufe16', '\ufe55', '\ufe56', '\ufe5f', '\ufe6b', '\uff03', '\uff0f', '\uff1a', '\uff1f',
   '\uff20']

/-- Whether a text is an address of a later version: its number, a full stop and something. -/
def isFutureAddress (cs : List Char) : Bool :=
  match cs with
  | 'v' :: r =>
    let isDigit (c : Char) : Bool := (Text.hexValue? c).isSome
    match r.takeWhile isDigit, r.dropWhile isDigit with
    | _ :: _, '.' :: _ :: _ => true
    | _, _ => false
  | _ => false

/-- What is wrong with the text between brackets. -/
def bracketedFault? (host : List Char) : Option AuthorityFault :=
  if host.head? = some 'v' then
    if isFutureAddress host then none else some .futureAddress
  else if isIpv4 host then some .ipv4InBrackets
  else if isZonedIpv6 host then none
  else some (.notAnAddress host)

/-- What is wrong with an authority. -/
def faultOfAuthority? (authority : List Char) : Option AuthorityFault :=
  let bracketed :=
    match authority.contains '[', authority.contains ']' with
    | true, true =>
      let inside := (Text.splitFirst '[' authority).elim [] (·.2)
      bracketedFault? ((Text.splitFirst ']' inside).elim inside (·.1))
    | false, false => none
    | _, _ => some .loneBracket
  bracketed.or (if authority.any foldedMarks.contains then some (.foldedMark authority) else none)

/-- What is wrong with the authority of a reference. -/
def authorityFault? (written : String) : Option AuthorityFault :=
  faultOfAuthority? (Reference.parse written.toList).authority

end ContractDrift.Uri
