/-
What values say about the fields of a message.

`Content.ofFields` reads values against declared fields, without a namespace and without
markup.  The builder renders nothing else, and a tree of nodes shows nothing else:

* `Content.renderFields_eq` — the rendered elements are those of the content;
* `Content.ofElements_toElements` — the nodes of these elements, once they have been laid
  out on lines, are those of the content.
-/
import Mathlib.Data.List.TakeWhile
import ContractDrift.Proofs.Text.Split
import ContractDrift.Proofs.Xml.RenderedDocument
import ContractDrift.Xml.Node
import ContractDrift.Soap.Envelope

namespace ContractDrift.Soap

open ContractDrift.Json (Value Members)
open ContractDrift.Wsdl (Field)
open ContractDrift.Xml (Element Node)

/-- What an envelope holds below its wrapper: names without a namespace, and texts. -/
inductive Content where
  | item (name text : String)
  | group (name : String) (inside : List Content)

namespace Content

/-! ## What values say about fields -/

mutual

/-- The content of one occurrence of a field: that of the declared fields inside it, the
members of an object where no fields are declared, or the text of a value, with a placeholder
for none. -/
def ofValue : Field → Value → Content
  | .mk name _ _ (some (f :: fs)), .object m => .group name (ofFields (f :: fs) m)
  | .mk name _ _ (some (f :: fs)), .null => .group name (ofFields (f :: fs) [])
  | .mk name _ _ _, .object m => .group name (m.map fun (k, v) => .item k (scalarText v))
  | .mk name _ _ _, .null => .item name placeholder
  | .mk name _ _ _, v => .item name (scalarText v)

/-- The content of fields in declaration order: nothing for an optional field without a
value, one occurrence for each member of a list, and one for any other value or where a
required field has none. -/
def ofFields : List Field → Members → List Content
  | [], _ => []
  | f :: fs, m =>
    (match m.get? f.name with
      | none | some .null => if f.required then [ofValue f .null] else []
      | some (.array xs) => xs.map (ofValue f)
      | some v => [ofValue f v]) ++ ofFields fs m

end

/-! ## The elements of content -/

mutual

/-- The element of content in a namespace. -/
def toElement (uri : String) : Content → Element
  | .item name text => leaf (qualified uri name) text
  | .group name inside => branch (qualified uri name) (toElements uri inside)

/-- The elements of content in a namespace. -/
def toElements (uri : String) : List Content → List Element
  | [] => []
  | c :: cs => c.toElement uri :: toElements uri cs

end

theorem toElements_eq_map (uri : String) (cs : List Content) :
    toElements uri cs = cs.map (toElement uri) := by
  induction cs with
  | nil => rfl
  | cons c cs ih => rw [toElements, ih, List.map_cons]

theorem renderMembers_eq (uri : String) (m : Members) :
    renderMembers uri m = toElements uri (m.map fun (k, v) => .item k (scalarText v)) := by
  rw [toElements_eq_map, List.map_map]
  rfl

mutual

theorem renderField_eq (uri : String) : (f : Field) → (v : Value) →
    renderField uri f v = (ofValue f v).toElement uri
  | .mk name type required (some (f :: fs)), v => by
    cases v with
    | object m =>
      simp only [renderField, ofValue, toElement, renderFields_eq uri (f :: fs) m]
    | null =>
      simp only [renderField, ofValue, toElement, renderFields_eq uri (f :: fs) []]
    | _ => simp only [renderField, ofValue, toElement]
  | .mk name type required (some []), v => by
    cases v <;> simp only [renderField, ofValue, toElement, renderMembers_eq]
  | .mk name type required none, v => by
    cases v <;> simp only [renderField, ofValue, toElement, renderMembers_eq]

/-- The elements that are rendered are those of the content. -/
theorem renderFields_eq (uri : String) : (fs : List Field) → (m : Members) →
    renderFields uri fs m = toElements uri (ofFields fs m)
  | [], _ => rfl
  | f :: fs, m => by
    -- a list is rendered by mapping over it, so the hypothesis is needed of the function
    have hone : renderField uri f = toElement uri ∘ ofValue f := by
      funext v
      exact renderField_eq uri f v
    rw [renderFields, ofFields, renderFields_eq uri fs m, toElements_eq_map, toElements_eq_map,
      List.map_append, hone]
    congr 1
    cases h : m.get? f.name with
    | none => cases f.required <;> rfl
    | some v =>
      cases v with
      | null => cases f.required <;> rfl
      | array xs => simp [occurrences]
      | _ => rfl

end

/-! ## Names and texts -/

mutual

/-- The names in content. -/
def names : Content → List String
  | .item name _ => [name]
  | .group name inside => name :: allNames inside

/-- The names in some content. -/
def allNames : List Content → List String
  | [] => []
  | c :: cs => c.names ++ allNames cs

end

mutual

/-- The texts in content. -/
def texts : Content → List String
  | .item _ text => [text]
  | .group _ inside => allTexts inside

/-- The texts in some content. -/
def allTexts : List Content → List String
  | [] => []
  | c :: cs => c.texts ++ allTexts cs

end

mutual

theorem names_toElement (uri : String) : (c : Content) →
    (c.toElement uri).names = c.names.map (qualified uri)
  | .item name text => rfl
  | .group name inside => by
    rw [toElement, branch, Element.names, allNames_toElements uri inside]
    rfl

theorem allNames_toElements (uri : String) : (cs : List Content) →
    Element.allNames (toElements uri cs) = (allNames cs).map (qualified uri)
  | [] => rfl
  | c :: cs => by
    rw [toElements, Element.allNames, names_toElement uri c, allNames_toElements uri cs, allNames,
      List.map_append]

end

mutual

theorem texts_toElement (uri : String) : (c : Content) →
    ∀ t ∈ (c.toElement uri).texts, t = "" ∨ t ∈ c.texts
  | .item name text, t, ht => Or.inr ht
  | .group name inside, t, ht => by
    rcases List.mem_cons.mp ht with rfl | ht
    · exact Or.inl rfl
    · exact allTexts_toElements uri inside t ht

theorem allTexts_toElements (uri : String) : (cs : List Content) →
    ∀ t ∈ Element.allTexts (toElements uri cs), t = "" ∨ t ∈ allTexts cs
  | [], t, ht => absurd ht List.not_mem_nil
  | c :: cs, t, ht => by
    rw [allTexts, List.mem_append]
    rcases List.mem_append.mp ht with ht | ht
    · exact (texts_toElement uri c t ht).imp_right Or.inl
    · exact (allTexts_toElements uri cs t ht).imp_right Or.inr

end

/-! ## The nodes of content -/

mutual

/-- The node of content, with its texts as `shown` gives them. -/
def toNode (shown : String → String) : Content → Node
  | .item name text => .mk name [] [] (shown text)
  | .group name inside => .mk name [] (toNodes shown inside) ""

/-- The nodes of content, with the texts as `shown` gives them. -/
def toNodes (shown : String → String) : List Content → List Node
  | [] => []
  | c :: cs => c.toNode shown :: toNodes shown cs

end

mutual

theorem toNode_congr {shown shown' : String → String} : (c : Content) →
    (∀ t ∈ c.texts, shown t = shown' t) → c.toNode shown = c.toNode shown'
  | .item name text, h => by rw [toNode, toNode, h text List.mem_cons_self]
  | .group name inside, h => by rw [toNode, toNode, toNodes_congr inside h]

theorem toNodes_congr {shown shown' : String → String} : (cs : List Content) →
    (∀ t ∈ allTexts cs, shown t = shown' t) → toNodes shown cs = toNodes shown' cs
  | [], _ => rfl
  | c :: cs, h => by
    rw [allTexts, List.forall_mem_append] at h
    rw [toNodes, toNodes, toNode_congr c h.1, toNodes_congr cs h.2]

end

/-- A text as it is read back: with its ends of lines unified, and without the blanks at its
ends. -/
def readBack (text : String) : String :=
  Text.trim (String.ofList (Text.unifyEnds text.toList))

theorem trim_lineStart (depth : Nat) : Text.trim (Xml.lineStart depth) = "" := by
  have hblank : ∀ c ∈ (Xml.lineStart depth).toList, Text.isBlank c = true := by
    intro c hc
    rcases Xml.eq_of_mem_lineStart c hc with rfl | rfl <;> decide
  rw [Text.trim, Text.trimChars, List.dropWhile_eq_nil_iff.mpr hblank]
  rfl

mutual

theorem ofElement_toElement (uri : String) : (c : Content) → (depth : Nat) →
    (∀ n ∈ c.names, Xml.plainName (qualified uri n) = n) →
    Node.ofElement ((c.toElement uri).laidOut depth) = c.toNode readBack
  | .item name text, depth, h => by
    rw [toElement, leaf, Element.laidOut, Node.ofElement, h name List.mem_cons_self]
    rfl
  | .group name inside, depth, h => by
    rw [names, List.forall_mem_cons] at h
    -- without children there are no lines, and no text to be trimmed
    cases inside with
    | nil =>
      rw [toElement, branch, toElements, Element.laidOut, Node.ofElement, h.1]
      rfl
    | cons c cs =>
      have hinside := ofElements_toElements uri (c :: cs) (depth + 1) h.2
      rw [toElements] at hinside
      rw [toElement, branch, toElements, Element.laidOut, Node.ofElement, h.1, hinside,
        trim_lineStart]
      rfl

theorem ofElements_toElements (uri : String) : (cs : List Content) → (depth : Nat) →
    (∀ n ∈ allNames cs, Xml.plainName (qualified uri n) = n) →
    Node.ofElements (Element.allLaidOut depth (toElements uri cs)) = toNodes readBack cs
  | [], _, _ => rfl
  | c :: cs, depth, h => by
    rw [allNames, List.forall_mem_append] at h
    rw [toElements, Element.allLaidOut, Node.ofElements, ofElement_toElement uri c depth h.1,
      ofElements_toElements uri cs depth h.2]
    rfl

end

end Content

end ContractDrift.Soap
