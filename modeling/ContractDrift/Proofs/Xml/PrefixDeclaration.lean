/-
Declarations of prefixes are read as they were written.

`Declared.written` is the attribute that declares a prefix.  A tag that holds such
attributes is scanned to its bracket (`scanTagRest_declarations`), each value is read as
the namespace that it was written for (`normalize_escaped`), and the element is opened in
the scope that the declarations make (`openElement_declarations`).

Design notes: `attributeEscape_cases` is the one place that looks at the escapes; the
scanner and the reader of values both follow it.
-/
import Mathlib.Data.List.Forall2
import Mathlib.Tactic.Tauto
import ContractDrift.Proofs.Xml.Walk
import ContractDrift.Xml.Writer

namespace ContractDrift.Xml

/-! ## Values of attributes -/

/-- The character that a reference stands for without any declaration. -/
def Reference.known? : Reference → Option Char
  | .character n => characterOf? n
  | .entity name => predefined? name

/-- A character is escaped by a reference to it, or stands for itself in a value. -/
theorem attributeEscape_cases (c : Char) :
    (∃ body ref, attributeEscape c = '&' :: body ∧ ref.known? = some c ∧
      ∀ r, scanReference .plain (glyphs body ++ r) = .ok (ref, r)) ∨
    (attributeEscape c = [c] ∧ c ≠ '"' ∧ c ≠ '<' ∧ c ≠ '&' ∧ c ≠ '\r' ∧ c ≠ '\n' ∧ c ≠ '\t') := by
  unfold attributeEscape
  split
  · exact Or.inl ⟨_, .entity "quot".toList, rfl, rfl, fun r => rfl⟩
  · exact Or.inl ⟨_, .character 13, rfl, rfl, fun r => rfl⟩
  · exact Or.inl ⟨_, .character 10, rfl, rfl, fun r => rfl⟩
  · exact Or.inl ⟨_, .character 9, rfl, rfl, fun r => rfl⟩
  · rename_i h1 h2 h3 h4
    unfold textEscape
    split
    · exact Or.inl ⟨_, .entity "amp".toList, rfl, rfl, fun r => rfl⟩
    · exact Or.inl ⟨_, .entity "lt".toList, rfl, rfl, fun r => rfl⟩
    · exact Or.inl ⟨_, .entity "gt".toList, rfl, rfl, fun r => rfl⟩
    · rename_i h5 h6 h7
      exact Or.inr ⟨rfl, h1, h6, h5, h2, h3, h4⟩

theorem scanValue_reference {k : NameClass} {body : List Char} {ref : Reference} {r : Source}
    (h : scanReference k (glyphs body ++ r) = .ok (ref, r)) (n : Nat) (acc : List Glyph) :
    scanValue k '"' (n + 1) acc (glyphs ('&' :: body) ++ r) =
      scanValue k '"' n ((glyphs ('&' :: body)).reverse ++ acc) r := by
  have hlen : (glyphs body ++ r).length + 1 - r.length = (glyphs ('&' :: body)).length := by
    simp
    omega
  have htake : ((.char '&' : Glyph) :: (glyphs body ++ r)).take ((glyphs ('&' :: body)).length) =
      glyphs ('&' :: body) := by
    rw [glyphs_cons, ← List.cons_append, List.take_left']
    rfl
  rw [glyphs_cons, List.cons_append, scanValue, if_neg (by decide), if_neg (by decide),
    if_pos rfl, h]
  simp only [bind, Except.bind, hlen, htake]
  rfl

/-- A written value is scanned up to its closing quote. -/
theorem scanValue_escaped (cs : List Char) {fuel : Nat}
    (hfuel : (cs.flatMap attributeEscape).length < fuel) (acc : List Glyph) (r : Source) :
    scanValue .plain '"' fuel acc (glyphs (cs.flatMap attributeEscape) ++ .char '"' :: r) =
      .ok (acc.reverse ++ glyphs (cs.flatMap attributeEscape), .char '"' :: r) := by
  induction cs generalizing fuel acc with
  | nil =>
    obtain ⟨n, rfl⟩ : ∃ n, fuel = n + 1 := ⟨fuel - 1, by omega⟩
    simp [scanValue]
  | cons c cs ih =>
    obtain ⟨n, rfl⟩ : ∃ n, fuel = n + 1 := ⟨fuel - 1, by omega⟩
    rw [List.flatMap_cons, List.length_append] at hfuel
    rw [List.flatMap_cons, glyphs_append, List.append_assoc]
    -- a character is written as a reference, which is read in one step, or as itself
    rcases attributeEscape_cases c with ⟨body, ref, hesc, -, hscan⟩ | ⟨hesc, h1, h2, h3, -⟩
    · rw [hesc] at hfuel ⊢
      rw [List.length_cons] at hfuel
      rw [scanValue_reference (hscan _), ih (by omega)]
      simp
    · rw [hesc] at hfuel ⊢
      rw [List.length_singleton] at hfuel
      rw [glyphs_cons, List.cons_append, scanValue, if_neg h1, if_neg h2, if_neg h3, glyphs_nil,
        List.nil_append, ih (by omega)]
      simp

theorem pushNumbered_characterData (acc : List Char) (c : Char) :
    ValueText.pushNumbered ⟨acc, true⟩ c = ⟨c :: acc, true⟩ := by
  unfold ValueText.pushNumbered
  split
  · rename_i h
    rw [h]
    rfl
  · rfl

theorem replaceWith_plain (d : Definitions) (after : Source) (isOuter : Bool)
    (expand : List Char → List (List Char) → ValueText → Except Mishap ValueText)
    (opened : List (List Char)) (n : Nat) (acc : List Char) {c : Char} (h1 : c ≠ '<')
    (h2 : c ≠ '&') (h3 : c ≠ '\r') (h4 : c ≠ '\n') (h5 : c ≠ '\t') (gs : Source) :
    replaceWith .plain d after isOuter expand opened (n + 1) ⟨acc, true⟩ (.char c :: gs) =
      replaceWith .plain d after isOuter expand opened n ⟨c :: acc, true⟩ gs := by
  rw [replaceWith]
  · split
    · rename_i hblank
      obtain rfl : c = ' ' := by tauto
      rfl
    · rfl
  · exact h2
  · exact h1
  · exact h3

/-- A written value is read as the text that it was written for. -/
theorem replaceWith_escaped (d : Definitions) (after : Source) (isOuter : Bool)
    (expand : List Char → List (List Char) → ValueText → Except Mishap ValueText)
    (opened : List (List Char)) (cs : List Char) {fuel : Nat}
    (hfuel : (cs.flatMap attributeEscape).length < fuel) (acc : List Char) :
    replaceWith .plain d after isOuter expand opened fuel ⟨acc, true⟩
      (glyphs (cs.flatMap attributeEscape)) = .ok ⟨cs.reverse ++ acc, true⟩ := by
  induction cs generalizing fuel acc with
  | nil =>
    obtain ⟨n, rfl⟩ : ∃ n, fuel = n + 1 := ⟨fuel - 1, by omega⟩
    rfl
  | cons c cs ih =>
    obtain ⟨n, rfl⟩ : ∃ n, fuel = n + 1 := ⟨fuel - 1, by omega⟩
    rw [List.flatMap_cons, List.length_append] at hfuel
    rw [List.flatMap_cons, glyphs_append]
    have hnext (h : (cs.flatMap attributeEscape).length < n) := ih h (c :: acc)
    rcases attributeEscape_cases c with
      ⟨body, ref, hesc, hknown, hscan⟩ | ⟨hesc, -, h2, h3, h4, h5, h6⟩
    · rw [hesc] at hfuel ⊢
      rw [List.length_cons] at hfuel
      rw [glyphs_cons, List.cons_append, replaceWith]
      -- a number and a known name are both replaced by the character
      cases ref with
      | character number =>
        have hc : characterOf? number = some c := hknown
        simp only [hscan, hc, pushNumbered_characterData]
        rw [hnext (by omega)]
        simp
      | entity name =>
        have hc : predefined? name = some c := hknown
        simp only [hscan, hc, ValueText.push]
        rw [hnext (by omega)]
        simp
    · rw [hesc] at hfuel ⊢
      rw [List.length_singleton] at hfuel
      rw [glyphs_cons, glyphs_nil, List.singleton_append,
        replaceWith_plain d after isOuter expand opened n acc h2 h3 h4 h5 h6, hnext (by omega)]
      simp

theorem normalize_escaped (d : Definitions) (opened : List (List Char)) (isOuter : Bool)
    (cs : List Char) (after : Source) :
    normalize .plain d opened true isOuter (glyphs (cs.flatMap attributeEscape)) after =
      .ok cs := by
  have hlen : (cs.flatMap attributeEscape).length <
      (glyphs (cs.flatMap attributeEscape)).length + 1 := by simp
  simp only [normalize, replaceWith_escaped _ _ _ _ _ cs hlen, bind, Except.bind, pure, Except.pure]
  simp [ValueText.text]

/-! ## Declarations of prefixes in a tag -/

/-- A prefix with the namespace that it is declared for. -/
structure Declared where
  pfx : List Char
  uri : List Char
  deriving Repr, DecidableEq

namespace Declared

/-- The name of the attribute that declares the prefix. -/
def attributeName (d : Declared) : List Char := ['x', 'm', 'l', 'n', 's', ':'] ++ d.pfx

/-- The declaration as it stands in a tag, with the blank before it. -/
def written (d : Declared) : List Char :=
  ' ' :: (d.attributeName ++ '=' :: '"' :: d.uri.flatMap attributeEscape ++ ['"'])

end Declared

/-- An attribute of a tag is the declaration of a prefix. -/
def WrittenAttribute.Declares (w : WrittenAttribute) (d : Declared) : Prop :=
  w.name = d.attributeName ∧ w.value = glyphs (d.uri.flatMap attributeEscape)

theorem skipBlanks_cons {g : Glyph} (h : g.isSpace = false) (gs : Source) :
    skipBlanks (g :: gs) = g :: gs := by
  simp [skipBlanks, h]

theorem isQualified_attributeName {d : Declared} (h : NameClass.plain.isName d.pfx = true) :
    NameClass.plain.IsQualified d.attributeName :=
  .prefixed (p := "xmlns".toList) (by decide) h

theorem scanAttribute_declaration {d : Declared} (h : NameClass.plain.isName d.pfx = true)
    (r : Source) :
    ∃ w, w.Declares d ∧ scanAttribute .plain
      (glyphs (d.attributeName ++ '=' :: '"' :: d.uri.flatMap attributeEscape ++ ['"']) ++ r) =
        .ok (w, r) := by
  generalize hgs :
    glyphs (d.attributeName ++ '=' :: '"' :: d.uri.flatMap attributeEscape ++ ['"']) ++ r = gs
  have hsplit : gs = glyphs d.attributeName ++ .char '=' :: .char '"' ::
      (glyphs (d.uri.flatMap attributeEscape) ++ .char '"' :: r) := by
    rw [← hgs]
    simp
  have hstop : NameClass.plain.stopsAt '=' = true := by decide
  have hname := scanQualifiedName_append (isQualified_attributeName h) hstop
    (.char '"' :: (glyphs (d.uri.flatMap attributeEscape) ++ .char '"' :: r))
  rw [← hsplit] at hname
  have hlength : (d.uri.flatMap attributeEscape).length <
      (glyphs (d.uri.flatMap attributeEscape) ++ (.char '"' : Glyph) :: r).length + 1 := by
    rw [List.length_append, length_glyphs]
    omega
  have hvalue := scanValue_escaped d.uri hlength [] r
  have hequals : Glyph.isSpace (.char '=') = false := by decide
  have hquote : Glyph.isSpace (.char '"') = false := by decide
  refine ⟨⟨gs, d.attributeName, glyphs (d.uri.flatMap attributeEscape), .char '"' :: r⟩,
    ⟨rfl, rfl⟩, ?_⟩
  simp only [scanAttribute, hname, skipBlanks_cons hequals, skipBlanks_cons hquote, scanQuote,
    bind, Except.bind, hvalue]
  rfl

/-- Declarations are scanned one after the other up to the bracket of the tag. -/
theorem scanTagRest_declarations (name : List Char) {ds : List Declared}
    (hds : ∀ d ∈ ds, NameClass.plain.isName d.pfx = true) {n : Nat} (hn : ds.length < n)
    (acc : List WrittenAttribute) (r : Source) :
    ∃ ws, List.Forall₂ WrittenAttribute.Declares ws ds ∧
      scanTagRest .plain name n acc (glyphs (ds.flatMap Declared.written) ++ .char '>' :: r) =
        .ok (⟨name, acc.reverse ++ ws, false⟩, r) := by
  induction ds generalizing n acc with
  | nil =>
    obtain ⟨m, rfl⟩ : ∃ m, n = m + 1 := ⟨n - 1, by omega⟩
    exact ⟨[], .nil, by simp [scanTagRest]⟩
  | cons d ds ih =>
    obtain ⟨m, rfl⟩ : ∃ m, n = m + 1 := ⟨n - 1, by omega⟩
    rw [List.length_cons] at hn
    obtain ⟨w, hw, hscan⟩ := scanAttribute_declaration (hds d List.mem_cons_self)
      (glyphs (ds.flatMap Declared.written) ++ .char '>' :: r)
    obtain ⟨ws, hws, hrest⟩ := ih (fun x hx => hds x (List.mem_cons_of_mem d hx))
      (show ds.length < m by omega) (w :: acc)
    refine ⟨w :: ws, .cons hw hws, ?_⟩
    rw [List.flatMap_cons, glyphs_append, List.append_assoc]
    -- the blank is skipped, and the attribute starts with the letter x
    have hskip : scanTagRest .plain name (m + 1) acc (glyphs d.written ++
        (glyphs (ds.flatMap Declared.written) ++ .char '>' :: r)) =
          (scanAttribute .plain
            (glyphs (d.attributeName ++ '=' :: '"' :: d.uri.flatMap attributeEscape ++ ['"']) ++
              (glyphs (ds.flatMap Declared.written) ++ .char '>' :: r))).bind
            fun p => scanTagRest .plain name m (p.1 :: acc) p.2 := rfl
    rw [hskip, hscan]
    simp only [Except.bind, hrest]
    simp

/-! ## What declarations do -/

/-- A declaration that a scope takes in: the prefix is a name and neither it nor its
namespace is reserved. -/
structure Declared.Valid (d : Declared) : Prop where
  isName : NameClass.plain.isName d.pfx = true
  ne_xml : d.pfx ≠ "xml".toList
  ne_xmlns : d.pfx ≠ "xmlns".toList
  uri_ne_nil : d.uri ≠ []
  brace_not_mem : '\x7d' ∉ d.uri
  ne_xmlNamespace : d.uri ≠ xmlNamespace
  ne_xmlnsNamespace : d.uri ≠ xmlnsNamespace

/-- The scope inside a tag with some declarations. -/
def Scope.declare (s : Scope) (ds : List Declared) : Scope :=
  ds.foldl (fun s d => (d.pfx, some d.uri) :: s) s

theorem Scope.declare_cons (s : Scope) (d : Declared) (ds : List Declared) :
    s.declare (d :: ds) = Scope.declare ((d.pfx, some d.uri) :: s) ds := rfl

theorem Scope.bind_valid {d : Declared} (h : d.Valid) (s : Scope) :
    s.bind d.pfx d.uri = .ok ((d.pfx, some d.uri) :: s) := by
  have h1 := h.uri_ne_nil
  have h2 := h.brace_not_mem
  have h3 : d.pfx ≠ ['x', 'm', 'l'] := h.ne_xml
  have h4 : d.pfx ≠ ['x', 'm', 'l', 'n', 's'] := h.ne_xmlns
  simp [Scope.bind, h.ne_xmlNamespace, h.ne_xmlnsNamespace, h1, h2, h3, h4]

theorem Scope.find?_declare_of_not_mem {ds : List Declared} {pfx : List Char}
    (h : pfx ∉ ds.map Declared.pfx) (s : Scope) : (s.declare ds).find? pfx = s.find? pfx := by
  induction ds generalizing s with
  | nil => rfl
  | cons e ds ih =>
    rw [List.map_cons, List.mem_cons, not_or] at h
    have hne : (pfx == e.pfx) = false := beq_false_of_ne h.1
    rw [declare_cons, ih h.2, find?, List.lookup_cons, hne]
    rfl

theorem Scope.find?_declare {ds : List Declared} (hnodup : (ds.map Declared.pfx).Nodup)
    (s : Scope) {d : Declared} (hd : d ∈ ds) : (s.declare ds).find? d.pfx = some d.uri := by
  induction ds generalizing s with
  | nil => exact absurd hd List.not_mem_nil
  | cons e ds ih =>
    rw [List.map_cons, List.nodup_cons] at hnodup
    rcases List.mem_cons.mp hd with rfl | hd
    · rw [declare_cons, find?_declare_of_not_mem hnodup.1]
      simp [find?]
    · exact ih hnodup.2 _ hd

theorem declaredPrefix?_attributeName (d : Declared) :
    declaredPrefix? d.attributeName = some d.pfx := by
  have hne : d.attributeName ≠ "xmlns".toList := by
    intro he
    have hlength : d.attributeName.length = 5 := congrArg List.length he
    simp [Declared.attributeName] at hlength
  rw [declaredPrefix?, if_neg hne]
  rfl

theorem TakenAttributes.add_declaration {d : Declared} (h : d.Valid) (a : TakenAttributes) :
    a.add d.attributeName d.uri =
      .ok { a with
        scope := (d.pfx, some d.uri) :: a.scope
        seen := d.attributeName :: a.seen } := by
  simp only [TakenAttributes.add, declaredPrefix?_attributeName, Scope.bind_valid h]
  rfl

theorem takeWritten_declarations {ws : List WrittenAttribute} {ds : List Declared}
    (hws : List.Forall₂ WrittenAttribute.Declares ws ds) (hds : ∀ d ∈ ds, d.Valid)
    (hnodup : (ds.map Declared.pfx).Nodup) (token : Source) (element : List Char)
    (a : TakenAttributes) (hfresh : ∀ d ∈ ds, d.attributeName ∉ a.seen) :
    ∃ seen, takeWritten documentContext token element ws a =
      .ok ⟨a.values, seen, a.scope.declare ds⟩ := by
  induction hws generalizing a with
  | nil => exact ⟨a.seen, rfl⟩
  | @cons w d ws ds hw _ ih =>
    rw [List.map_cons, List.nodup_cons] at hnodup
    have hd := hds d List.mem_cons_self
    have hseen : a.seen.contains w.name = false := by
      rw [hw.1]
      simpa using hfresh d List.mem_cons_self
    have hvalue : normalize documentContext.names documentContext.definitions
        documentContext.opened (documentContext.definitions.isCharacterData element w.name)
          documentContext.isOuter w.value w.after = .ok d.uri := by
      rw [hw.2]
      exact normalize_escaped _ _ _ _ _
    -- the prefixes differ, so the declarations after this one are still fresh
    have hfresh' : ∀ x ∈ ds, x.attributeName ∉ d.attributeName :: a.seen := by
      intro x hx hmem
      rcases List.mem_cons.mp hmem with he | hmem
      · have hpfx : x.pfx = d.pfx := List.append_cancel_left he
        exact hnodup.1 (hpfx ▸ List.mem_map_of_mem hx)
      · exact hfresh x (List.mem_cons_of_mem d hx) hmem
    obtain ⟨seen, hrest⟩ := ih (fun x hx => hds x (List.mem_cons_of_mem d hx)) hnodup.2
      { a with scope := (d.pfx, some d.uri) :: a.scope, seen := d.attributeName :: a.seen } hfresh'
    refine ⟨seen, ?_⟩
    rw [takeWritten, hseen, if_neg Bool.false_ne_true]
    simp only [hvalue]
    rw [hw.1, TakenAttributes.add_declaration hd]
    exact hrest

/-- A tag with declarations opens its element in the scope that they make. -/
theorem openElement_declarations {ws : List WrittenAttribute} {ds : List Declared}
    (hws : List.Forall₂ WrittenAttribute.Declares ws ds) (hds : ∀ d ∈ ds, d.Valid)
    (hnodup : (ds.map Declared.pfx).Nodup) (token : Source) {tag : List Char} {name : String}
    (isEmpty : Bool) (b : Builder) (hname : (b.scope.declare ds).expandElement? tag = some name) :
    openElement documentContext token ⟨tag, ws, isEmpty⟩ b =
      .ok (b.start tag name [] (b.scope.declare ds)) := by
  obtain ⟨seen, htake⟩ := takeWritten_declarations hws hds hnodup token tag ⟨[], [], b.scope⟩
    (fun _ _ => List.not_mem_nil)
  simp only [openElement, htake, bind, Except.bind]
  rw [show documentContext.definitions.attributesOf tag = [] from rfl, takeDeclared]
  simp only [expandAttributes, hname]
  rfl

end ContractDrift.Xml
