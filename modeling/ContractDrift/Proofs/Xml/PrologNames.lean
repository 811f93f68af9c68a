/-
Names that are declared in a prolog.

Wherever a name is scanned in a prolog it has at most one prefix and no braces
(`namesWritten_of_nextPrologToken`).  So the attributes that a document type declares have such
names (`isClean_of_doctype`), and their elements can be given them where a tag leaves them out
(`isClean_of_startOf`).

Design notes: a local part may start with any character of a name here, unlike in a tag.
-/
import ContractDrift.Proofs.Xml.ScannedNames
import ContractDrift.Proofs.Xml.WellFormed

namespace ContractDrift.Xml

/-! ## Names with at most one prefix -/

/-- Characters are one part of a name: there is no colon among them, and no brace. -/
def IsPart (cs : List Char) : Prop := ∀ c ∈ cs, c ≠ ':' ∧ c ≠ '\x7b' ∧ c ≠ '\x7d'

/-- A name that has at most one prefix. -/
inductive IsWritten : List Char → Prop
  | plain {n : List Char} : IsPart n → IsWritten n
  | prefixed {p l : List Char} : p ≠ [] → IsPart p → IsPart l → IsWritten (p ++ ':' :: l)

variable {k : NameClass} {c : Char} {acc acc' n : List Char} {gs r : Source}
  {token : PrologToken} {d d' : Definitions}

theorem isPart_of_continues {cs : List Char} (h : ∀ c ∈ cs, k.continues c = true) :
    IsPart cs := by
  have hne {c x : Char} (hc : k.continues c = true) (hx : k.continues x = false) : c ≠ x := by
    rintro rfl
    rw [hx] at hc
    cases hc
  have hopen : k.continues '\x7b' = false := by cases k <;> rfl
  have hclose : k.continues '\x7d' = false := by cases k <;> rfl
  exact fun c hc => ⟨hne (h c hc) k.continues_colon, hne (h c hc) hopen, hne (h c hc) hclose⟩

theorem isPart_singleton (hc : k.continues c = true) : IsPart [c] :=
  isPart_of_continues fun x hx => by rwa [List.mem_singleton.mp hx]

theorem IsPart.append {a b : List Char} (ha : IsPart a) (hb : IsPart b) : IsPart (a ++ b) :=
  fun c hc => (List.mem_append.mp hc).elim (ha c) (hb c)

theorem IsPart.reverse {cs : List Char} (h : IsPart cs) : IsPart cs.reverse :=
  fun c hc => h c (List.mem_reverse.mp hc)

theorem isWritten_of_isQualified (h : k.IsQualified n) : IsWritten n := by
  have hpart {n : List Char} (hn : k.isName n = true) : IsPart n :=
    isPart_of_continues fun c hc => NameClass.continues_of_mem_isName hn hc
  cases h with
  | plain hn => exact .plain (hpart hn)
  | prefixed hp hl =>
    refine .prefixed ?_ (hpart hp) (hpart hl)
    rintro rfl
    cases hp

/-! ## Tokens -/

/-- Every name that a token stands for has at most one prefix. -/
def PrologToken.NamesWritten : PrologToken → Prop
  | .name n => IsWritten n
  | .prefixedName n => IsWritten n
  | _ => True

theorem namesWritten_of_scanLiteral {quote : Char} {acc : Source}
    (h : scanLiteral quote acc gs = .ok (token, r)) : token.NamesWritten := by
  -- the token of a literal has no name, wherever the literal ends
  induction gs generalizing acc with
  | nil => cases h
  | cons g gs ih =>
    cases g with
    | bad => cases h
    | cut => cases h
    | char c =>
      unfold scanLiteral at h
      split at h
      · split at h
        · cases h
          trivial
        · split at h
          · cases h
            trivial
          · cases h
      · exact ih h

theorem namesWritten_of_scanKeyword (h : scanKeyword acc gs = .ok (token, r)) :
    token.NamesWritten := by
  induction gs generalizing acc with
  | nil => cases h
  | cons g gs ih =>
    unfold scanKeyword at h
    split at h
    · cases h
    · split at h
      · cases h
      · split at h
        · cases h
        · cases h
          trivial
    · rename_i heq
      obtain ⟨rfl, rfl⟩ := List.cons.inj heq
      split at h
      · cases h
        trivial
      · split at h
        · split at h
          · exact ih h
          · cases h
        · cases h

theorem namesWritten_of_scanDeclarationOpen (h : scanDeclarationOpen gs = .ok (token, r)) :
    token.NamesWritten := by
  unfold scanDeclarationOpen at h
  split at h
  · cases h
  · obtain ⟨_, -, h⟩ := bind_eq_ok_iff.mp h
    cases h
    trivial
  · cases h
    trivial
  · split at h
    · exact namesWritten_of_scanKeyword h
    · cases h
  · cases h

theorem namesWritten_of_scanPrologMarkup {whole : Source}
    (h : scanPrologMarkup k whole gs = .ok (token, r)) : token.NamesWritten := by
  unfold scanPrologMarkup at h
  split at h
  · cases h
  · exact namesWritten_of_scanDeclarationOpen h
  · obtain ⟨_, -, h⟩ := bind_eq_ok_iff.mp h
    cases h
    trivial
  · split at h
    · cases h
      trivial
    · cases h
  · cases h
    trivial
  · cases h

theorem namesWritten_of_scanPercent (h : scanPercent k gs = .ok (token, r)) :
    token.NamesWritten := by
  unfold scanPercent at h
  split at h
  · cases h
  · split at h
    · cases h
      trivial
    · obtain ⟨_, -, h⟩ := bind_eq_ok_iff.mp h
      simp only at h
      split at h
      · cases h
        trivial
      · cases h

theorem namesWritten_of_scanCloseBracket (h : scanCloseBracket gs = .ok (token, r)) :
    token.NamesWritten := by
  unfold scanCloseBracket at h
  split at h
  · cases h
  · cases h
    trivial
  · cases h
    trivial

theorem namesWritten_of_scanCloseParen (h : scanCloseParen gs = .ok (token, r)) :
    token.NamesWritten := by
  unfold scanCloseParen at h
  split at h
  · cases h
    trivial
  · split at h
    · cases h
      trivial
    · split at h
      · cases h
        trivial
      · cases h
  · cases h

theorem namesWritten_of_scanNumberSignName (h : scanNumberSignName k gs = .ok (token, r)) :
    token.NamesWritten := by
  obtain ⟨⟨c, r₁⟩, -, h⟩ := bind_eq_ok_iff.mp h
  obtain ⟨⟨acc, r₂⟩, -, h⟩ := bind_eq_ok_iff.mp h
  simp only at h
  split at h
  · cases h
    trivial
  · split at h
    · cases h
      trivial
    · cases h
  · cases h

/-! ## Names in a prolog -/

/-- What is known of the characters of a name, newest first, while it has a shape. -/
def NameShape.Fits : NameShape → List Char → Prop
  | .plain, acc => acc ≠ [] ∧ IsPart acc
  | .prefixed, acc => ∃ p l, acc.reverse = p ++ ':' :: l ∧ p ≠ [] ∧ IsPart p ∧ IsPart l
  | .token, _ => True

theorem exists_part_of_takeNameChars (h : takeNameChars k acc gs = .ok (acc', r)) :
    ∃ cs, acc' = cs ++ acc ∧ IsPart cs := by
  -- the characters are collected in reverse, in front of those from before
  suffices h : ∃ cs, acc' = cs ++ acc ∧ ∀ c ∈ cs, k.continues c = true by
    obtain ⟨cs, hcs, hall⟩ := h
    exact ⟨cs, hcs, isPart_of_continues hall⟩
  induction gs generalizing acc with
  | nil =>
    cases h
    exact ⟨[], rfl, fun _ hc => absurd hc List.not_mem_nil⟩
  | cons g gs ih =>
    cases g with
    | bad => cases h
    | cut => cases h
    | char c =>
      rw [takeNameChars] at h
      split at h
      · rename_i hc
        obtain ⟨cs, rfl, hcs⟩ := ih h
        refine ⟨cs ++ [c], by simp, fun x hx => ?_⟩
        rcases List.mem_append.mp hx with hx | hx
        · exact hcs x hx
        · rwa [List.mem_singleton.mp hx]
      · split at h
        · cases h
          exact ⟨[], rfl, fun _ hc => absurd hc List.not_mem_nil⟩
        · cases h

namespace NameShape

variable {s : NameShape}

theorem Fits.append {cs : List Char} (h : s.Fits acc) (hcs : IsPart cs) : s.Fits (cs ++ acc) := by
  cases s with
  | plain => exact ⟨by simp [h.1], hcs.append h.2⟩
  | token => trivial
  | prefixed =>
    obtain ⟨p, l, hacc, hp, hpart, hl⟩ := h
    exact ⟨p, l ++ cs.reverse, by simp [hacc], hp, hpart, hl.append hcs.reverse⟩

theorem Fits.toToken (h : s.Fits acc) : (s.toToken acc.reverse).NamesWritten := by
  cases s with
  | plain => exact .plain h.2.reverse
  | token => trivial
  | prefixed =>
    obtain ⟨p, l, hacc, hp, hpart, hl⟩ := h
    show IsWritten acc.reverse
    rw [hacc]
    exact .prefixed hp hpart hl

/-- A colon behind a plain name begins its local part. -/
theorem Fits.prefixed (h : NameShape.plain.Fits acc) (hc : k.continues c = true) :
    NameShape.prefixed.Fits (c :: ':' :: acc) := by
  exact ⟨acc.reverse, [c], by simp, by simpa using h.1, h.2.reverse, isPart_singleton hc⟩

end NameShape

theorem namesWritten_of_scanPrologName {fuel : Nat} {s : NameShape} (hs : s.Fits acc)
    (h : scanPrologName k fuel s acc gs = .ok (token, r)) : token.NamesWritten := by
  induction fuel generalizing s acc gs with
  | zero =>
    cases h
    exact hs.toToken
  | succ fuel ih =>
    obtain ⟨⟨acc₁, r₁⟩, htake, h⟩ := bind_eq_ok_iff.mp h
    obtain ⟨cs, rfl, hcs⟩ := exists_part_of_takeNameChars htake
    -- what has been read of the name fits the shape that is known of it by now
    have hs₁ := hs.append hcs
    simp only at h
    split at h
    · cases h
      exact hs₁.toToken
    · split at h
      · split at h
        · cases h
        · cases h
        · cases h
        · split at h
          · rename_i hc
            exact ih (hs₁.prefixed hc) h
          · split at h
            · exact ih (s := .token) trivial h
            · cases h
      · exact ih (s := .token) trivial h
    · split at h
      · cases h
        exact hs₁.toToken
      · split at h
        · split at h
          · cases h
          · cases h
            trivial
        · cases h
    · cases h

theorem namesWritten_of_nextPrologToken (h : nextPrologToken k gs = .ok (some (token, r))) :
    token.NamesWritten := by
  -- the scanners give their token, and only the end of the text has none
  have hsome {x : Except Stop (PrologToken × Source)} (h : some <$> x = .ok (some (token, r))) :
      x = .ok (token, r) := by
    cases x with
    | error s => cases h
    | ok y =>
      cases h
      rfl
  unfold nextPrologToken at h
  split at h
  · cases h
  · cases h
  · cases h
  · split at h
    · cases h
      trivial
    · split at h
      · exact namesWritten_of_scanLiteral (hsome h)
      · exact namesWritten_of_scanLiteral (hsome h)
      · exact namesWritten_of_scanPrologMarkup (hsome h)
      · exact namesWritten_of_scanPercent (hsome h)
      · cases h
        trivial
      · cases h
        trivial
      · exact namesWritten_of_scanCloseBracket (hsome h)
      · cases h
        trivial
      · exact namesWritten_of_scanCloseParen (hsome h)
      · cases h
        trivial
      · cases h
        trivial
      · exact namesWritten_of_scanNumberSignName (hsome h)
      · split at h
        · rename_i hstarts
          have hpart := isPart_singleton (NameClass.continues_of_starts hstarts)
          exact namesWritten_of_scanPrologName (s := .plain) ⟨by simp, hpart⟩ (hsome h)
        · split at h
          · exact namesWritten_of_scanPrologName (s := .token) trivial (hsome h)
          · cases h

/-! ## Declarations -/

theorem namesWritten_of_significant {s : Significant} (h : significant k gs = .ok s) :
    s.token.NamesWritten := by
  -- blanks are passed over once, so there are at most two tokens to look at
  have hat {gs : Source} {x : PrologToken × Source} (h : tokenAt k gs = .ok x) :
      x.1.NamesWritten := by
    unfold tokenAt at h
    split at h
    · cases h
    · cases h
    · rename_i hnext
      cases h
      exact namesWritten_of_nextPrologToken hnext
  obtain ⟨x, hx, h⟩ := bind_eq_ok_iff.mp h
  split at h
  · obtain ⟨y, hy, h⟩ := bind_eq_ok_iff.mp h
    cases h
    exact hat hy
  · cases h
    exact hat hx

theorem Significant.unexpected_ne_ok {α : Type} {s : Significant} {x : α} :
    s.unexpected ≠ .ok x := fun h => by cases h

/-- All declared attributes have names with at most one prefix. -/
def Definitions.IsClean (d : Definitions) : Prop :=
  ∀ entry ∈ d.attributes, ∀ a ∈ entry.2, IsWritten a.name

namespace Definitions

theorem IsClean.of_attributes_eq (h : d.IsClean) (heq : d'.attributes = d.attributes) :
    d'.IsClean := by
  rw [IsClean, heq]
  exact h

theorem IsClean.attributesOf (h : d.IsClean) (element : List Char) :
    ∀ a ∈ d.attributesOf element, IsWritten a.name := by
  intro a ha
  unfold Definitions.attributesOf at ha
  cases hfind : d.attributes.find? (·.1 == element) with
  | none => simp [hfind] at ha
  | some entry =>
    rw [hfind] at ha
    exact h entry (List.mem_of_find?_eq_some hfind) a ha

theorem IsClean.addAttribute (h : d.IsClean) (element : List Char) {a : DeclaredAttribute}
    (ha : IsWritten a.name) (isIdentifier : Bool) :
    (d.addAttribute element a isIdentifier).IsClean := by
  unfold Definitions.addAttribute
  simp only
  split
  · exact h
  · intro entry hentry
    rcases List.mem_append.mp hentry with hentry | hentry
    · exact h entry (List.mem_filter.mp hentry).1
    · rw [List.mem_singleton.mp hentry]
      intro x hx
      rcases List.mem_append.mp hx with hx | hx
      · exact h.attributesOf element x hx
      · rwa [List.mem_singleton.mp hx]

end Definitions

theorem attributes_record (d : Definitions) (name : List Char) (e : Entity) :
    (record d name e).attributes = d.attributes := by
  unfold record
  split
  · unfold Definitions.addEntity
    split <;> rfl
  · rfl

/-- A declaration of an entity declares no attribute. -/
theorem attributes_readEntity (h : readEntity k d gs = .ok (d', r)) :
    d'.attributes = d.attributes := by
  -- an entity is recorded by its name, and defaults of attributes are kept elsewhere
  obtain ⟨s, -, h⟩ := bind_eq_ok_iff.mp h
  split at h
  · obtain ⟨_, -, h⟩ := bind_eq_ok_iff.mp h
    obtain ⟨_, -, h⟩ := bind_eq_ok_iff.mp h
    cases h
    rfl
  · obtain ⟨s', -, h⟩ := bind_eq_ok_iff.mp h
    split at h
    · obtain ⟨_, -, h⟩ := bind_eq_ok_iff.mp h
      obtain ⟨_, -, h⟩ := bind_eq_ok_iff.mp h
      cases h
      exact attributes_record d _ _
    · split at h
      · exact absurd h Significant.unexpected_ne_ok
      · obtain ⟨_, -, h⟩ := bind_eq_ok_iff.mp h
        obtain ⟨s'', -, h⟩ := bind_eq_ok_iff.mp h
        split at h
        · cases h
          exact attributes_record d _ _
        · split at h
          · obtain ⟨_, -, h⟩ := bind_eq_ok_iff.mp h
            obtain ⟨_, -, h⟩ := bind_eq_ok_iff.mp h
            cases h
            exact attributes_record d _ _
          · exact absurd h Significant.unexpected_ne_ok
        · exact absurd h Significant.unexpected_ne_ok
    · exact absurd h Significant.unexpected_ne_ok
  · exact absurd h Significant.unexpected_ne_ok

theorem isClean_of_readAttributes {element : List Char} {fuel : Nat} (hd : d.IsClean)
    (h : readAttributes k element fuel d gs = .ok (d', r)) : d'.IsClean := by
  induction fuel generalizing d gs with
  | zero => cases h
  | succ fuel ih =>
    rw [readAttributes] at h
    obtain ⟨s, hs, h⟩ := bind_eq_ok_iff.mp h
    have hnames := namesWritten_of_significant hs
    simp only at h
    split at h
    · cases h
      exact hd
    rotate_right
    · exact absurd h Significant.unexpected_ne_ok
    -- with a prefix or without, the attribute is taken in, and then the others
    all_goals
      rename_i name hname
      rw [hname] at hnames
      have hwritten : IsWritten name := hnames
      obtain ⟨⟨t, r₁⟩, -, h⟩ := bind_eq_ok_iff.mp h
      obtain ⟨⟨v, r₂⟩, -, h⟩ := bind_eq_ok_iff.mp h
      refine ih ?_ h
      split
      · exact hd.addAttribute element hwritten _
      · exact hd

theorem isClean_of_readSubset {fuel : Nat} (hd : d.IsClean)
    (h : readSubset k fuel d gs = .ok (d', r)) : d'.IsClean := by
  induction fuel generalizing d gs with
  | zero => cases h
  | succ fuel ih =>
    rw [readSubset] at h
    obtain ⟨s, -, h⟩ := bind_eq_ok_iff.mp h
    simp only at h
    split at h
    · cases h
      exact hd
    · exact ih hd h
    · exact ih hd h
    · refine ih ?_ h
      exact hd.of_attributes_eq rfl
    · split at h
      -- of the declarations only those of attributes add defaults
      · obtain ⟨⟨d₁, r₁⟩, hentity, h⟩ := bind_eq_ok_iff.mp h
        exact ih (hd.of_attributes_eq (attributes_readEntity hentity)) h
      · split at h
        · obtain ⟨⟨element, r₁⟩, -, h⟩ := bind_eq_ok_iff.mp h
          obtain ⟨⟨d₁, r₂⟩, hattributes, h⟩ := bind_eq_ok_iff.mp h
          exact ih (isClean_of_readAttributes hd hattributes) h
        · split at h
          · obtain ⟨_, -, h⟩ := bind_eq_ok_iff.mp h
            exact ih hd h
          · split at h
            · obtain ⟨_, -, h⟩ := bind_eq_ok_iff.mp h
              exact ih hd h
            · exact absurd h Significant.unexpected_ne_ok
    · exact absurd h Significant.unexpected_ne_ok

theorem isClean_of_doctype (hd : d.IsClean) (h : Doctype.read k d gs = .ok (d', r)) :
    d'.IsClean := by
  -- the internal subset comes last, with or without an external one before it
  have hend {d : Definitions} {s : Significant} (hd : d.IsClean)
      (h : readDoctypeEnd k d s = .ok (d', r)) : d'.IsClean := by
    unfold readDoctypeEnd at h
    split at h
    · cases h
      exact hd
    · obtain ⟨⟨d₁, r₁⟩, hsubset, h⟩ := bind_eq_ok_iff.mp h
      obtain ⟨_, -, h⟩ := bind_eq_ok_iff.mp h
      cases h
      exact isClean_of_readSubset hd hsubset
    · exact absurd h Significant.unexpected_ne_ok
  obtain ⟨_, -, h⟩ := bind_eq_ok_iff.mp h
  obtain ⟨s, -, h⟩ := bind_eq_ok_iff.mp h
  split at h
  · split at h
    · exact absurd h Significant.unexpected_ne_ok
    · obtain ⟨_, -, h⟩ := bind_eq_ok_iff.mp h
      obtain ⟨_, -, h⟩ := bind_eq_ok_iff.mp h
      refine hend ?_ h
      exact hd.of_attributes_eq rfl
  · exact hend hd h

/-! ## The start of a document -/

theorem isClean_of_readProlog {fuel : Nat} {seen : Bool} {x x' : Reading}
    (hx : x.definitions.IsClean) (h : readProlog fuel seen x gs = .ok (x', r)) :
    x'.definitions.IsClean := by
  induction fuel generalizing seen x gs with
  | zero => cases h
  | succ fuel ih =>
    rw [readProlog] at h
    split at h
    · cases h
    · cases h
    · split at h
      · exact ih hx h
      · exact ih hx h
      · exact ih hx h
      · cases h
      · cases h
        exact hx
      · cases h
      · split at h
        · split at h
          · cases h
          · rename_i hdoctype
            exact ih (isClean_of_doctype hx hdoctype) h
        · cases h
      · cases h

/-- A declaration at the start of a document declares no attribute. -/
theorem attributes_declare {x x' : Reading} {text after rest : Source}
    (h : x.declare text after rest = .ok (x', r)) :
    x'.definitions.attributes = x.definitions.attributes := by
  unfold Reading.declare at h
  split at h
  · cases h
  · simp only at h
    split at h
    · cases h
      rfl
    · split at h
      · cases h
      · cases h
      · cases h
        rfl

/-- All attributes that are declared in front of a root have names with at most one prefix. -/
theorem isClean_of_startOf {octets : Text.Octets} {x : Reading} (h : startOf octets = .ok (x, r)) :
    x.definitions.IsClean := by
  have hempty : Definitions.empty.IsClean := fun _ hentry => absurd hentry List.not_mem_nil
  unfold startOf at h
  split at h
  · cases h
  · unfold readStart at h
    simp only at h
    split at h
    · obtain ⟨⟨x₁, r₁⟩, hdeclare, h⟩ := bind_eq_ok_iff.mp h
      exact isClean_of_readProlog (hempty.of_attributes_eq (attributes_declare hdeclare)) h
    · exact isClean_of_readProlog hempty h

end ContractDrift.Xml
