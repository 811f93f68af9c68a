/-
Writing documents.

`render` writes an element with a declaration in front, every child on a line of its
own and two spaces deeper than its parent.  Each namespace gets a prefix, the same at
every place, and all prefixes are declared at the root in their own order.
-/
import ContractDrift.Xml.Element
import ContractDrift.Text.Search

namespace ContractDrift.Xml

/-- A name that opens a brace and closes none. -/
inductive WriteError where
  | unclosedNamespace
  deriving Repr, DecidableEq, Inhabited

/-- The wording of the failure. -/
def WriteError.message : WriteError → String
  | .unclosedNamespace => "not enough values to unpack (expected 2, got 1)"

/-! ## Prefixes -/

/-- The namespaces in use with their prefixes, in the order of first use. -/
abbrev Prefixes := List (String × String)

/-- The namespaces that always have the same prefix. -/
def wellKnownPrefixes : Prefixes :=
  [("http://www.w3.org/XML/1998/namespace", "xml"),
   ("http://www.w3.org/1999/xhtml", "html"),
   ("http://www.w3.org/1999/02/22-rdf-syntax-ns#", "rdf"),
   ("http://schemas.xmlsoap.org/wsdl/", "wsdl"),
   ("http://www.w3.org/2001/XMLSchema", "xs"),
   ("http://www.w3.org/2001/XMLSchema-instance", "xsi"),
   ("http://purl.org/dc/elements/1.1/", "dc")]

/-- The parts of an expanded name: its namespace, if it has one, and the rest, which
starts after the last closing brace. -/
def splitExpanded (name : String) : Except WriteError (Option String × String) :=
  match name.toList with
  | '\x7b' :: r =>
    match Text.splitLast '\x7d' r with
    | some (uri, l) => .ok (some (String.ofList uri), String.ofList l)
    | none => .error .unclosedNamespace
  | _ => .ok (none, name)

/-- The prefix of a namespace: the one in use, a well-known one, or a new one. -/
def choosePrefix (known used : Prefixes) (uri : String) : String :=
  match used.lookup uri with
  | some p => p
  | none => (known.lookup uri).getD s!"ns{used.length}"

/-- The prefixes in use after a name has been used; the prefix `xml` needs no
declaration. -/
def usePrefix (known used : Prefixes) (name : String) : Except WriteError Prefixes := do
  match ← splitExpanded name with
  | (none, _) => pure used
  | (some uri, _) =>
    let p := choosePrefix known used uri
    if (used.lookup uri).isSome || p == "xml" then pure used else pure (used ++ [(uri, p)])

mutual

/-- The prefixes in use after the names of an element and of all inside it. -/
def collectPrefixes (known : Prefixes) : Prefixes → Element → Except WriteError Prefixes
  | used, .mk name _ _ children => do
    let used ← usePrefix known used name
    collectChildren known used children

/-- The prefixes in use after the names of some elements and of all inside them. -/
def collectChildren (known : Prefixes) : Prefixes → List Element → Except WriteError Prefixes
  | used, [] => .ok used
  | used, e :: es => do
    let used ← collectPrefixes known used e
    collectChildren known used es

end

/-- A name with its prefix. -/
def prefixedName (known used : Prefixes) (name : String) : String :=
  match splitExpanded name with
  | .ok (some uri, l) => choosePrefix known used uri ++ ":" ++ l
  | _ => name

/-! ## Escapes -/

/-- A character of text. -/
def textEscape (c : Char) : List Char :=
  match c with
  | '&' => "&amp;".toList
  | '<' => "&lt;".toList
  | '>' => "&gt;".toList
  | c => [c]

/-- A character of an attribute's value. -/
def attributeEscape (c : Char) : List Char :=
  match c with
  | '"' => "&quot;".toList
  | '\r' => "&#13;".toList
  | '\n' => "&#10;".toList
  | '\t' => "&#09;".toList
  | c => textEscape c

/-- Text with its markup characters escaped. -/
def escapeText (s : String) : String := String.ofList (s.toList.flatMap textEscape)

/-- The value of an attribute with its markup characters and line ends escaped. -/
def escapeAttribute (s : String) : String := String.ofList (s.toList.flatMap attributeEscape)

/-! ## Elements -/

/-- The start of a line at a depth. -/
def lineStart (depth : Nat) : String := "\n" ++ Text.repeated "  " depth

/-- The declarations of prefixes, in the order of the prefixes. -/
def declarations (used : Prefixes) : String :=
  String.join ((used.mergeSort fun a b => Text.le a.2 b.2).map fun (uri, p) =>
    " xmlns:" ++ p ++ "=\"" ++ escapeAttribute uri ++ "\"")

mutual

/-- An element at a depth, with `extra` inside its start tag. -/
def writeElement (nameOf : String → String) (extra : String) (depth : Nat) : Element → String
  | .mk name _ text children =>
    let tag := nameOf name
    match children with
    | [] =>
      if text = "" then "<" ++ tag ++ extra ++ " />"
      else "<" ++ tag ++ extra ++ ">" ++ escapeText text ++ "</" ++ tag ++ ">"
    | c :: cs =>
      "<" ++ tag ++ extra ++ ">" ++ writeChildren nameOf (depth + 1) (c :: cs) ++
        lineStart depth ++ "</" ++ tag ++ ">"

/-- Elements at a depth, each on its own line. -/
def writeChildren (nameOf : String → String) (depth : Nat) : List Element → String
  | [] => ""
  | e :: es => lineStart depth ++ writeElement nameOf "" depth e ++ writeChildren nameOf depth es

end

/-- The declaration in front of every document. -/
def documentHeader : String := "<?xml version='1.0' encoding='utf-8'?>\n"

/-- An element as a document; `known` gives prefixes for further namespaces. -/
def render (known : Prefixes) (root : Element) : Except WriteError String := do
  let known := known ++ wellKnownPrefixes
  let used ← collectPrefixes known [] root
  pure (documentHeader ++ writeElement (prefixedName known used) (declarations used) 0 root)

end ContractDrift.Xml
