/-
Addresses on the net in their normal form.

`Address.parse` divides an address into its parts and brings them into normal form:
letters of scheme and host in lower case, no number behind the host that the scheme implies, no steps "here"
and "back" in a path, and characters that cannot stand as they are as percent escapes.
`Address.text` writes the address again.

Design notes: a query or fragment that is there and empty is not the same as none.  An
escape that is there already stays as it is, and so does a percent sign.
-/
import ContractDrift.Text.Quoted
import ContractDrift.Uri.HostAddress
import ContractDrift.Uri.Reference

namespace ContractDrift.Uri

/-- The parts of an address in normal form; a scheme, host or path that is not there is
empty. -/
structure Address where
  scheme : List Char
  user : List Char
  host : List Char
  portNumber : Option Int
  path : List Char
  query : Option (List Char)
  fragment : Option (List Char)
  deriving Repr, DecidableEq, Inhabited

/-- Why a text is no address. -/
inductive AddressError where
  | tooLong
  | controlCharacter (c : Char) (offset : Nat)
  | portNumber (written : List Char)
  | ipv4 (host : List Char)
  | ipv6 (host : List Char)
  /-- A path behind a host starts with no slash. -/
  | pathWithoutSlash
  /-- A path without a host starts with two slashes. -/
  | pathWithSlashes
  /-- A path without a scheme starts with a colon. -/
  | pathWithColon
  deriving Repr, DecidableEq, Inhabited

/-- The wording of a refusal. -/
def AddressError.message : AddressError → String
  | .tooLong => "URL too long"
  | .controlCharacter c offset =>
    "Invalid non-printable ASCII character in URL, " ++ Text.quoted c.toString ++
      s!" at position {offset}."
  | .portNumber written => "Invalid port: " ++ Text.quoted (String.ofList written)
  | .ipv4 host => "Invalid IPv4 address: " ++ Text.quoted (String.ofList host)
  | .ipv6 host => "Invalid IPv6 address: " ++ Text.quoted (String.ofList host)
  | .pathWithoutSlash => "For absolute URLs, path must be empty or begin with '/'"
  | .pathWithSlashes => "Relative URLs cannot have a path starting with '//'"
  | .pathWithColon => "Relative URLs cannot have a path starting with ':'"

/-- The most characters that an address may have. -/
def lengthLimit : Nat := 65536

/-! ## Escapes -/

private def isPrintableAscii (c : Char) : Bool := 0x20 ≤ c.toNat && c.toNat < 0x7F

/-- The percent escapes of a character. -/
def percentEscape (c : Char) : List Char :=
  (Text.utf8Char c).flatMap fun b =>
    '%' :: (Text.hexDigits 2 b.toNat).map Char.toUpper

/-- The text with percent escapes for all characters but those that are safe. -/
def escapeUnsafe (isSafe : Char → Bool) (cs : List Char) : List Char :=
  cs.flatMap fun c => if isSafe c then [c] else percentEscape c

private def safeBut (unsafeOnes : String) (c : Char) : Bool :=
  isPrintableAscii c && !unsafeOnes.toList.contains c

/-- The characters that stand as they are in a fragment. -/
def isSafeInFragment : Char → Bool := safeBut " \"<>`"

/-- The characters that stand as they are in a query. -/
def isSafeInQuery : Char → Bool := safeBut " \"#<>"

/-- The characters that stand as they are in a path. -/
def isSafeInPath : Char → Bool := safeBut " \"#<>?`\x7b\x7d"

/-- The characters that stand as they are before a host. -/
def isSafeInUser : Char → Bool := safeBut " \"#<>?`\x7b\x7d/;=@[\\]^|"

/-- The characters that stand as they are in the name of a host. -/
def isSafeInHost (c : Char) : Bool :=
  c.isAlphanum || "-._~!$&'()*+,;=\"`\x7b\x7d%|\\".toList.contains c

/-! ## Parts -/

/-- The ports that schemes imply. -/
def impliedPorts : List (String × Int) :=
  [("ftp", 21), ("http", 80), ("https", 443), ("ws", 80), ("wss", 443)]

/-- The lengths of the runs of digits between other characters. -/
def digitRuns : List Char → List Nat
  | [] => [0]
  | c :: r =>
    match digitRuns r with
    | [] => [0]
    | n :: ns => if c.isDigit then (n + 1) :: ns else 0 :: n :: ns

/-- Whether a host reads as four numbers with any one character between two of them; a
digit can be such a character. -/
def looksLikeIpv4 (host : List Char) : Bool :=
  let runs := digitRuns host
  runs.length ≤ 4 && runs.all (0 < ·) &&
    4 ≤ runs.length + (runs.map fun n => (n - 1) / 2).foldl (· + ·) 0

/-- The host in normal form. -/
def normalHost (host : List Char) : Except AddressError (List Char) :=
  if looksLikeIpv4 host then
    if isIpv4 host then .ok host else .error (.ipv4 host)
  else match host with
    | '[' :: r =>
      if r.getLast? = some ']' then
        if isZonedIpv6 r.dropLast then .ok r.dropLast else .error (.ipv6 host)
      else .ok (escapeUnsafe isSafeInHost (host.map Char.toLower))
    | _ =>
      if host.all (·.toNat < 0x80) then
        .ok (escapeUnsafe isSafeInHost (host.map Char.toLower))
      else .ok host

/-- The number behind the host, unless the scheme implies it. -/
def normalPort (scheme written : List Char) : Except AddressError (Option Int) :=
  if written.isEmpty then .ok none
  else match Text.integer? written with
    | none => .error (.portNumber written)
    | some n =>
      .ok (if impliedPorts.lookup (String.ofList scheme) = some n then none else some n)

/-- The path without steps "here" and "back". -/
def normalPath (path : List Char) : List Char :=
  let segments := Text.splitAll '/' path
  if !segments.contains ['.'] && !segments.contains ['.', '.'] then path
  else
    let walked := segments.foldl (fun acc s =>
      if s = ['.'] then acc
      else if s = ['.', '.'] then (if acc = [] ∨ acc = [[]] then acc else acc.drop 1)
      else s :: acc) []
    List.intercalate ['/'] walked.reverse

/-- The scheme and the rest; a colon in front of everything is passed over. -/
def takeScheme (cs : List Char) : List Char × List Char :=
  match cs with
  | ':' :: r => ([], r)
  | _ => (splitScheme cs).getD ([], cs)

/-- What stands before the host, the host and the number behind it. -/
def splitHost (authority : List Char) : List Char × List Char × List Char :=
  let (user, r) := (Text.splitLast '@' authority).getD ([], authority)
  let bracketed : Option (List Char × List Char) :=
    match r with
    | '[' :: inside => (Text.splitLast ']' inside).map fun (a, b) => ('[' :: a ++ [']'], b)
    | _ => none
  let (host, r) := bracketed.getD (r.takeWhile (· ≠ ':'), r.dropWhile (· ≠ ':'))
  match r with
  | ':' :: written => (user, host, written)
  | written => (user, host, written)

namespace Address

/-- Whether an address has anything in front of its path besides a scheme. -/
def hasAuthority (a : Address) : Bool := !a.user.isEmpty || !a.host.isEmpty || a.portNumber.isSome

/-- Refuses a path that cannot follow what stands in front of it. -/
def checkPath (a : Address) : Except AddressError Unit :=
  if a.hasAuthority then
    if a.path.isEmpty || a.path.head? = some '/' then .ok () else .error .pathWithoutSlash
  else if !a.scheme.isEmpty then .ok ()
  else if Text.startsWith ['/', '/'] a.path then .error .pathWithSlashes
  else if a.path.head? = some ':' then .error .pathWithColon
  else .ok ()

/-- Reads an address. -/
def parse (written : String) : Except AddressError Address := do
  let cs := written.toList
  if lengthLimit < cs.length then throw .tooLong
  match cs.find? fun c => c.toNat < 0x80 && !isPrintableAscii c with
  | some c => throw (.controlCharacter c (cs.takeWhile (· ≠ c)).length)
  | none => pure ()
  let (scheme, r) := takeScheme cs
  let (authority, r) := match r with
    | '/' :: '/' :: r => splitAuthority r
    | r => ([], r)
  let (r, fragment) := match Text.splitFirst '#' r with
    | some (r, fragment) => (r, some fragment)
    | none => (r, none)
  let (path, query) := match Text.splitFirst '?' r with
    | some (path, query) => (path, some query)
    | none => (r, none)
  let (user, host, written) := splitHost authority
  let host ← normalHost host
  let portNumber ← normalPort scheme written
  let a : Address := ⟨scheme, escapeUnsafe isSafeInUser user, host, portNumber, path,
    query.map (escapeUnsafe isSafeInQuery), fragment.map (escapeUnsafe isSafeInFragment)⟩
  a.checkPath
  let path := if scheme.isEmpty && !a.hasAuthority then path else normalPath path
  return { a with path := escapeUnsafe isSafeInPath path }

/-- What stands between the scheme and the path. -/
def authority (a : Address) : List Char :=
  let user := if a.user.isEmpty then [] else a.user ++ ['@']
  let host := if a.host.contains ':' then '[' :: a.host ++ [']'] else a.host
  let behind := match a.portNumber with
    | some n => ':' :: (toString n).toList
    | none => []
  user ++ host ++ behind

/-- The text of an address. -/
def text (a : Address) : String :=
  let scheme := if a.scheme.isEmpty then [] else a.scheme ++ [':']
  let authority := if a.authority.isEmpty then [] else '/' :: '/' :: a.authority
  let query := (a.query.map ('?' :: ·)).getD []
  let fragment := (a.fragment.map ('#' :: ·)).getD []
  String.ofList (scheme ++ authority ++ a.path ++ query ++ fragment)

/-- Whether an address says where to ask: with a scheme and a host. -/
def isAbsolute (a : Address) : Bool := !a.scheme.isEmpty && !a.host.isEmpty

/-- The text of an address that is only a path, seen from the top. -/
def fromTop (a : Address) : String :=
  let path := (if a.path.isEmpty then ['/'] else a.path) ++ (a.query.map ('?' :: ·)).getD []
  String.ofList ('/' :: path.dropWhile (· == '/'))

end Address

/-! ## Laws -/

/-- Text of safe characters is left as it is. -/
theorem escapeUnsafe_eq_self (isSafe : Char → Bool) (cs : List Char)
    (h : ∀ c ∈ cs, isSafe c = true) : escapeUnsafe isSafe cs = cs := by
  induction cs with
  | nil => rfl
  | cons c r ih =>
    have hc : isSafe c = true := h c (by simp)
    have hr : escapeUnsafe isSafe r = r := ih fun x hx => h x (by simp [hx])
    simp only [escapeUnsafe, List.flatMap_cons, hc, if_true] at hr ⊢
    simp [hr]

end ContractDrift.Uri
