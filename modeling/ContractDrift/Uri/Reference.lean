/-
References to resources on the net.

`Reference.parse` divides a reference into its parts, and `text` puts them together
again.  `join` resolves a reference against a base, `defragment` splits off the
fragment, and `decode` replaces the percent escapes of a text.

Design notes: `text` is no inverse of `parse`: an empty query or fragment leaves no
mark behind, and a scheme that has authorities gets the two slashes of an empty one.
-/
import ContractDrift.Text.Search
import ContractDrift.Text.Encoding

namespace ContractDrift.Uri

/-- The parts of a reference; a part that is not there is empty. -/
structure Reference where
  scheme : List Char
  authority : List Char
  path : List Char
  parameters : List Char
  query : List Char
  fragment : List Char
  deriving Repr, DecidableEq, Inhabited

/-- The schemes whose references can be relative. -/
def relativeSchemes : List String :=
  ["", "ftp", "http", "gopher", "nntp", "imap", "wais", "file", "https", "shttp", "mms",
   "prospero", "rtsp", "rtsps", "rtspu", "sftp", "svn", "svn+ssh", "ws", "wss"]

/-- The schemes whose references have an authority. -/
def authoritySchemes : List String :=
  ["", "ftp", "http", "gopher", "nntp", "telnet", "imap", "wais", "file", "mms", "https",
   "shttp", "snews", "prospero", "rtsp", "rtsps", "rtspu", "rsync", "svn", "svn+ssh", "sftp",
   "nfs", "git", "git+ssh", "ws", "wss"]

/-- The schemes whose last path segment can have parameters. -/
def parameterSchemes : List String :=
  ["", "ftp", "hdl", "prospero", "http", "imap", "https", "shttp", "rtsp", "rtsps", "rtspu",
   "sip", "sips", "mms", "sftp", "tel"]

private def isIn (schemes : List String) (scheme : List Char) : Bool :=
  schemes.contains (String.ofList scheme)

private def isSchemeChar (c : Char) : Bool := c.isAlphanum || c == '+' || c == '-' || c == '.'

/-- The scheme and the rest, if the text starts with a scheme. -/
def splitScheme (cs : List Char) : Option (List Char × List Char) :=
  match Text.splitFirst ':' cs with
  | some (c :: r, rest) =>
    if c.isAlpha && r.all isSchemeChar then some ((c :: r).map Char.toLower, rest) else none
  | _ => none

/-- The authority and the rest, of what follows two slashes. -/
def splitAuthority (cs : List Char) : List Char × List Char :=
  let isEnd (c : Char) : Bool := c == '/' || c == '?' || c == '#'
  (cs.takeWhile (!isEnd ·), cs.dropWhile (!isEnd ·))

/-- A path and the parameters of its last segment. -/
def splitParameters (path : List Char) : List Char × List Char :=
  match Text.splitLast '/' path with
  | some (before, last) =>
    match Text.splitFirst ';' last with
    | some (segment, parameters) => (before ++ '/' :: segment, parameters)
    | none => (path, [])
  | none =>
    match Text.splitFirst ';' path with
    | some found => found
    | none => (path, [])

private def cut (sep : Char) (cs : List Char) : List Char × List Char :=
  (Text.splitFirst sep cs).getD (cs, [])

/-- The text without the controls and spaces in front and without tabs and line ends. -/
def cleaned (cs : List Char) : List Char :=
  (cs.dropWhile (·.toNat ≤ 0x20)).filter fun c => c != '\t' && c != '\r' && c != '\n'

namespace Reference

/-- Divides a reference; `scheme` is the one of a reference that names none. -/
def parseWith (scheme : List Char) (written : List Char) : Reference :=
  let (scheme, r) := (splitScheme (cleaned written)).getD (scheme, cleaned written)
  let (authority, r) := match r with
    | '/' :: '/' :: r => splitAuthority r
    | r => ([], r)
  let (r, fragment) := cut '#' r
  let (path, query) := cut '?' r
  let (path, parameters) :=
    if isIn parameterSchemes scheme then splitParameters path else (path, [])
  ⟨scheme, authority, path, parameters, query, fragment⟩

/-- Divides a reference. -/
def parse (written : List Char) : Reference := parseWith [] written

/-- The text of a reference. -/
def text (u : Reference) : List Char :=
  let path := if u.parameters.isEmpty then u.path else u.path ++ ';' :: u.parameters
  let startsTwice := Text.startsWith ['/', '/'] path
  let body :=
    if !u.authority.isEmpty || (!u.scheme.isEmpty && isIn authoritySchemes u.scheme)
        || startsTwice then
      let path := if !path.isEmpty && path.head? != some '/' then '/' :: path else path
      '/' :: '/' :: u.authority ++ path
    else path
  let body := if u.scheme.isEmpty then body else u.scheme ++ ':' :: body
  let body := if u.query.isEmpty then body else body ++ '?' :: u.query
  if u.fragment.isEmpty then body else body ++ '#' :: u.fragment

end Reference

/-- The segments of a path without the steps that say "here" and "back". -/
def walkSegments (segments : List (List Char)) : List (List Char) :=
  (segments.foldl (fun acc s =>
    if s = ['.', '.'] then acc.drop 1 else if s = ['.'] then acc else s :: acc) []).reverse

/-- The segments with the empty ones between the first and the last removed. -/
def withoutEmpty : List (List Char) → List (List Char)
  | [] => []
  | first :: r =>
    match r.reverse with
    | [] => [first]
    | last :: middle => first :: (middle.reverse.filter (!·.isEmpty)) ++ [last]

private def joinSegments (segments : List (List Char)) : List Char :=
  List.intercalate ['/'] segments

/-- The path that a relative path leads to from a base path. -/
def joinPath (base path : List Char) : List Char :=
  let segments :=
    if path.head? = some '/' then Text.splitAll '/' path
    else
      let baseParts := Text.splitAll '/' base
      let kept := if baseParts.getLast? = some [] then baseParts else baseParts.dropLast
      withoutEmpty (kept ++ Text.splitAll '/' path)
  let walked := walkSegments segments
  let endsOpen := segments.getLast? = some ['.'] ∨ segments.getLast? = some ['.', '.']
  let joined := joinSegments (if endsOpen then walked ++ [[]] else walked)
  if joined.isEmpty then ['/'] else joined

/-- Resolves a reference against a base. -/
def joinChars (base written : List Char) : List Char :=
  if base.isEmpty then written
  else if written.isEmpty then base
  else
    let b := Reference.parse base
    let u := Reference.parseWith b.scheme written
    if u.scheme ≠ b.scheme || !isIn relativeSchemes u.scheme then written
    else
      let hasAuthority := isIn authoritySchemes u.scheme
      if hasAuthority && !u.authority.isEmpty then u.text
      else
        let authority := if hasAuthority then b.authority else u.authority
        if u.path.isEmpty && u.parameters.isEmpty then
          { u with
            authority
            path := b.path
            parameters := b.parameters
            query := if u.query.isEmpty then b.query else u.query }.text
        else { u with authority, path := joinPath b.path u.path }.text

/-- Resolves a reference against a base. -/
def join (base written : String) : String :=
  String.ofList (joinChars base.toList written.toList)

/-- A reference without its fragment, and the fragment. -/
def defragment (written : String) : String × String :=
  if written.toList.contains '#' then
    let u := Reference.parse written.toList
    (String.ofList { u with fragment := [] }.text, String.ofList u.fragment)
  else (written, "")

/-- A reference in its common form: as its parts put together again. -/
def commonForm (written : String) : String :=
  let u := Reference.parse written.toList
  let path := if u.parameters.isEmpty then u.path else u.path ++ ';' :: u.parameters
  String.ofList { u with path, parameters := [] }.text

/-! ## Percent escapes -/

/-- The octets of a text with its percent escapes replaced. -/
def decodeOctets : List Char → Text.Octets
  | '%' :: a :: b :: r =>
    match Text.hexValue? a, Text.hexValue? b with
    | some x, some y => UInt8.ofNat (x * 16 + y) :: decodeOctets r
    | _, _ => 0x25 :: decodeOctets (a :: b :: r)
  | c :: r => Text.utf8Char c ++ decodeOctets r
  | [] => []

/-- Reads UTF-8 with U+FFFD for every fault. -/
def decodeReplacing : (fuel : Nat) → Text.Octets → List Char
  | 0, _ => []
  | _ + 1, [] => []
  | n + 1, a :: r =>
    match Text.utf8Step a r with
    | .char c rest => c :: decodeReplacing n rest
    | .surrogate _ => '\ufffd' :: decodeReplacing n r
    | .fault count _ => '\ufffd' :: decodeReplacing n ((a :: r).drop count)

/-- Replaces the percent escapes of a text; what they give is read as UTF-8. -/
def decode (s : String) : String :=
  let octets := decodeOctets s.toList
  String.ofList (decodeReplacing (octets.length + 1) octets)

end ContractDrift.Uri
