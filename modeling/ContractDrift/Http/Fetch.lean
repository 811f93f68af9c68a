/-
Fetching what an address names.

An exchange answers one request for an address; `fetch` makes the requests that one
fetch takes, following redirections up to a limit, and gives the body of the last
response, or why there is none, with the addresses asked for.

Design notes: the network is a function from addresses to exchanges, so a fetch is a
function of it and of the address.  The redirections are followed by recursion on how
many are still allowed.
-/
import ContractDrift.Uri.Address

namespace ContractDrift.Http

open ContractDrift.Text (Octets)
open ContractDrift.Uri (Address AddressError)

/-- Something that goes wrong while a request is made: the name of its kind and what it
says. -/
structure Problem where
  kind : String
  saying : String
  deriving Repr, DecidableEq, Inhabited

/-- The kinds of problems that concern the exchange itself. -/
def transportKinds : List String :=
  ["HTTPError", "RequestError", "TransportError", "TimeoutException", "ConnectTimeout",
   "ReadTimeout", "WriteTimeout", "PoolTimeout", "NetworkError", "ConnectError", "ReadError",
   "WriteError", "CloseError", "ProtocolError", "LocalProtocolError", "RemoteProtocolError",
   "ProxyError", "UnsupportedProtocol", "DecodingError", "TooManyRedirects", "HTTPStatusError"]

/-- Whether a problem concerns the exchange itself. -/
def Problem.isTransport (p : Problem) : Bool := transportKinds.contains p.kind

/-- The text of a problem; a missing key is shown between quotes. -/
def Problem.text (p : Problem) : String :=
  if p.kind = "KeyError" then Text.quoted p.saying else p.saying

/-- A response to a request. -/
structure Response where
  status : Nat
  body : Octets
  location : Option String
  deriving Repr, DecidableEq, Inhabited

/-- What comes of one request. -/
inductive Exchange where
  | response (r : Response)
  | problem (p : Problem)
  deriving Repr, DecidableEq, Inhabited

/-- What the network answers to a request for an address. -/
abbrev Network := String → Exchange

/-- The network of some exchanges by address; any other address is not found. -/
def Network.ofExchanges (exchanges : List (String × Exchange)) : Network := fun address =>
  (exchanges.lookup address).getD (.response ⟨404, [], none⟩)

/-- Why a fetch gives no body. -/
inductive FetchError where
  /-- The exchange failed, or its response has a status other than success. -/
  | network (message : String) (status : Option Nat)
  /-- Anything else went wrong. -/
  | other (p : Problem)
  deriving Repr, DecidableEq, Inhabited

/-- The text of a failure. -/
def FetchError.message : FetchError → String
  | .network m _ => m
  | .other p => p.text

/-- The most redirections that one fetch follows. -/
def redirectLimit : Nat := 20

/-- The failure that a problem is. -/
def FetchError.ofProblem (p : Problem) : FetchError :=
  if p.isTransport then .network (p.kind ++ ": " ++ p.text) none else .other p

/-- The failure when there are too many redirections. -/
def tooManyRedirections : FetchError :=
  .ofProblem ⟨"TooManyRedirects", "Exceeded maximum allowed redirects."⟩

/-- Whether a status asks for another address. -/
def isRedirection (status : Nat) : Bool := [301, 302, 303, 307, 308].contains status

/-- The failure that a text is no address. -/
def FetchError.ofAddress (e : AddressError) : FetchError := .other ⟨"InvalidURL", e.message⟩

/-- The failure that a response leads to a text that is no address. -/
def invalidLocation (e : AddressError) : FetchError :=
  .ofProblem ⟨"RemoteProtocolError", "Invalid URL in location header: " ++ e.message ++ "."⟩

/-- The address that is given by a location of a response to a request for `a`. -/
def resolveLocation (a location : Address) : Except AddressError Address :=
  if !location.scheme.isEmpty && location.host.isEmpty then
    let moved := { location with host := a.host }
    moved.checkPath.map fun _ => moved
  else if location.isAbsolute then .ok location
  else Address.parse (Uri.join a.text location.text)

private def hasFragment (a : Address) : Bool := (a.fragment.getD []) != []

/-- Where a response to a request for `a` leads; a fragment is kept. -/
def redirectTarget (a : Address) (location : String) : Except FetchError Address :=
  match Address.parse location with
  | .error e => .error (invalidLocation e)
  | .ok l =>
    match resolveLocation a l with
    | .error e => .error (.ofAddress e)
    | .ok target =>
      .ok (if hasFragment a && !hasFragment target then { target with fragment := a.fragment }
        else target)

/-- What a response that leads nowhere else gives. -/
def outcome (r : Response) : Except FetchError Octets :=
  if 200 ≤ r.status ∧ r.status < 300 then .ok r.body
  else .error (.network s!"HTTP {r.status}" (some r.status))

/-- The result of a fetch with the addresses asked for, oldest first. -/
structure Fetched where
  result : Except FetchError Octets
  requested : List String

/-- Asks for an address and follows redirections, of which `allowed` are left. -/
def follow (n : Network) : (allowed : Nat) → Address → Fetched
  | 0, a =>
    match n a.text with
    | .problem p => ⟨.error (.ofProblem p), [a.text]⟩
    | .response r =>
      if isRedirection r.status && r.location.isSome then ⟨.error tooManyRedirections, [a.text]⟩
      else ⟨outcome r, [a.text]⟩
  | k + 1, a =>
    match n a.text with
    | .problem p => ⟨.error (.ofProblem p), [a.text]⟩
    | .response r =>
      match isRedirection r.status, r.location with
      | true, some l =>
        match redirectTarget a l with
        | .error e => ⟨.error e, [a.text]⟩
        | .ok target =>
          let f := follow n k target
          { f with requested := a.text :: f.requested }
      | _, _ => ⟨outcome r, [a.text]⟩

/-- Asks for something that is only a path: what comes of it cannot be used. -/
def fetchPath (n : Network) (path : String) : Fetched :=
  match n path with
  | .problem p => ⟨.error (.ofProblem p), [path]⟩
  | .response _ =>
    ⟨.error (.other ⟨"ValueError", "unknown url type: " ++ Text.quoted path⟩), [path]⟩

/-- Fetches what an address names. -/
def fetch (n : Network) (written : String) : Fetched :=
  match Address.parse written with
  | .error e => ⟨.error (.ofAddress e), []⟩
  | .ok a => if a.isAbsolute then follow n redirectLimit a else fetchPath n a.fromTop

/-- A fetch asks for at most one address more than it may follow redirections. -/
theorem length_requested_follow (n : Network) (k : Nat) (a : Address) :
    (follow n k a).requested.length ≤ k + 1 := by
  induction k generalizing a with
  | zero =>
    unfold follow
    split
    · simp
    · split <;> simp
  | succ k ih =>
    unfold follow
    split
    · simp
    · split
      · split
        · simp
        · simpa using ih _
      · simp

end ContractDrift.Http
