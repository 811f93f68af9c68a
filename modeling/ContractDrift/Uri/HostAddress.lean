/-
Addresses of hosts.

An address is four octets in decimal digits with points between them, or eight groups of
hexadecimal digits with colons between them, of which one run of zeros can be left out.
-/
import ContractDrift.Text.Encoding
import ContractDrift.Text.Integer
import ContractDrift.Text.Search

namespace ContractDrift.Uri

/-- Whether a text is a number below 256 without needless zeros. -/
def isOctet (cs : List Char) : Bool :=
  !cs.isEmpty && cs.all Char.isDigit && cs.length ≤ 3 && (cs == ['0'] || cs.head? != some '0') &&
    Text.numberOf 10 (cs.map fun c => c.toNat - 0x30) ≤ 255

/-- Whether a text is an address of four octets. -/
def isIpv4 (cs : List Char) : Bool :=
  let parts := Text.splitAll '.' cs
  parts.length = 4 && parts.all isOctet

private def isHexGroup (cs : List Char) : Bool :=
  !cs.isEmpty && cs.length ≤ 4 && cs.all fun c => (Text.hexValue? c).isSome

/-- Whether groups between colons make up eight, with one run of zeros left out where the
empty group stands. -/
def areGroups (parts : List (List Char)) : Bool :=
  let count := parts.length
  let inner := (parts.drop 1).dropLast
  let gaps := (List.range inner.length).filter fun i => (inner[i]?.getD []).isEmpty
  let startsEmpty := (parts.head?.getD []).isEmpty
  let endsEmpty := (parts.getLast?.getD []).isEmpty
  match gaps with
  | [] => count = 8 && parts.all isHexGroup
  | [g] =>
    let high := if startsEmpty then g else g + 1
    let low := if endsEmpty then count - g - 3 else count - g - 2
    (!startsEmpty || high = 0) && (!endsEmpty || low = 0) && high + low ≤ 7 &&
      (parts.take high).all isHexGroup && (parts.drop (count - low)).all isHexGroup
  | _ => false

/-- Whether a text is an address of eight groups, the last two of which can be written as
four octets. -/
def isIpv6 (cs : List Char) : Bool :=
  let parts := Text.splitAll ':' cs
  let last := parts.getLast?.getD []
  if cs.contains '/' || cs.contains '%' || parts.length < 3 then false
  else if last.contains '.' then
    let parts := parts.dropLast ++ [['0'], ['0']]
    isIpv4 last && parts.length ≤ 9 && areGroups parts
  else parts.length ≤ 9 && areGroups parts

/-- Whether a text is an address of eight groups, with or without the name of a zone behind
a percent sign. -/
def isZonedIpv6 (cs : List Char) : Bool :=
  match Text.splitFirst '%' cs with
  | none => isIpv6 cs
  | some (address, zone) => isIpv6 address && !zone.isEmpty && !zone.contains '%'

end ContractDrift.Uri
