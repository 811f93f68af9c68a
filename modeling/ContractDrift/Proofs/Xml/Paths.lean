/-
Nodes that a path of names leads to.

A place below a node is a `Position`: which child to go to, step by step.  `Node.at?` is the node
there and `Node.namesTo?` the names on the way.  Positions are compared as lists, by the first index
in which they differ: so a node stands before all that is below it, and what is below an earlier
child before what is below a later one, which is the order of a document.

`find_findAll_agree` says that `findAll` lists the nodes at the positions with the names of a path
on the way, each once and in document order, and that `find` is greedy: it can miss them all, but
what it finds is the first of them.

Design notes: equal nodes can stand at different positions, which is why each node is counted by its
position.  `findAll` goes down with all nodes of a level at a time; its list of nodes is general in
`findAllFrom_eq`, and after that each node is looked at on its own.
-/
import ContractDrift.Xml.Node
import Mathlib.Data.List.Basic

namespace ContractDrift.Xml

/-- A place below a node: the index of the child to go to, at each step. -/
abbrev Position := List Nat

/-- The order of a document: where two positions part one goes to an earlier child, or it ends there
and the other goes on below. -/
def Position.Precedes (q q' : Position) : Prop := List.Lex (· < ·) q q'

namespace Node

/-- The node at a position, if there is one. -/
def at? (n : Node) : Position → Option Node
  | [] => some n
  | i :: q => n.children[i]?.bind (·.at? q)

/-- The names of the nodes on the way to a position, the last one included. -/
def namesTo? (n : Node) : Position → Option (List String)
  | [] => some []
  | i :: q => n.children[i]?.bind fun c => (c.namesTo? q).map (c.name :: ·)

/-- Some nodes are those that a path of names leads to: they stand at the positions with these
names on the way, each once and in document order. -/
def Lists (n : Node) (path : List String) (found : List Node) : Prop :=
  ∃ positions : List Position,
    (∀ q, q ∈ positions ↔ n.namesTo? q = some path) ∧
    positions.Pairwise Position.Precedes ∧
    found.map some = positions.map n.at?

variable {n m : Node} {path : List String} {name : String}

/-! ## One step of a query -/

/-- The nodes of a level are gone down from one after the other. -/
theorem findAllFrom_eq (nodes : List Node) (path : List String) :
    findAllFrom nodes path = nodes.flatMap (·.findAll path) := by
  induction path generalizing nodes with
  | nil => exact (List.flatMap_singleton' nodes).symm
  | cons name path ih =>
    rw [findAllFrom, ih, List.flatMap_assoc]
    refine List.flatMap_congr ?_
    intro n _
    rw [findAll, findAllFrom, List.flatMap_singleton, ih]

theorem findAll_nil (n : Node) : n.findAll [] = [n] := rfl

theorem findAll_cons (n : Node) (name : String) (path : List String) :
    n.findAll (name :: path) = (n.childrenNamed name).flatMap (·.findAll path) := by
  rw [findAll, findAllFrom, List.flatMap_singleton, findAllFrom_eq]

theorem findAll_append (n : Node) (path more : List String) :
    n.findAll (path ++ more) = (n.findAll path).flatMap (·.findAll more) := by
  induction path generalizing n with
  | nil => rw [List.nil_append, findAll_nil, List.flatMap_singleton]
  | cons name path ih =>
    rw [List.cons_append, findAll_cons, findAll_cons, List.flatMap_assoc]
    simp only [ih]

theorem find_cons (n : Node) (name : String) (path : List String) :
    n.find (name :: path) = (n.child name).bind (·.find path) := by
  rw [find]
  cases n.child name <;> rfl

theorem find_append (n : Node) (path more : List String) :
    n.find (path ++ more) = (n.find path).bind (·.find more) := by
  induction path generalizing n with
  | nil => rfl
  | cons name path ih =>
    rw [List.cons_append, find_cons, find_cons, Option.bind_assoc]
    simp only [ih]

theorem head?_childrenNamed (n : Node) (name : String) :
    (n.childrenNamed name).head? = n.child name :=
  List.head?_filter

/-! ## The greedy query -/

/-- What the greedy query finds comes first among all that is found. -/
theorem head?_findAll_of_find (h : n.find path = some m) : (n.findAll path).head? = some m := by
  induction path generalizing n with
  | nil => exact h
  | cons name path ih =>
    rw [find_cons, Option.bind_eq_some_iff] at h
    obtain ⟨c, hc, hm⟩ := h
    -- the first child of the name heads the list of them, so its own list comes first
    rw [← head?_childrenNamed, List.head?_eq_some_iff] at hc
    obtain ⟨others, hothers⟩ := hc
    rw [findAll_cons, hothers, List.flatMap_cons, List.head?_append, ih hm]
    rfl

theorem find_eq_none_of_findAll (h : n.findAll path = []) : n.find path = none := by
  cases hm : n.find path with
  | none => rfl
  | some m =>
    have hhead := head?_findAll_of_find hm
    rw [h] at hhead
    cases hhead

theorem find_singleton (n : Node) (name : String) :
    n.find [name] = (n.findAll [name]).head? := by
  have hself : n.findAll [name] = n.childrenNamed name := by
    rw [findAll_cons]
    exact List.flatMap_singleton' _
  rw [hself, head?_childrenNamed, find_cons]
  exact Option.bind_fun_some _

/-! ## Positions -/

/-- The children of a name with their indices. -/
def namedChildren (n : Node) (name : String) : List (Node × Nat) :=
  n.children.zipIdx.filter (·.1.name == name)

theorem map_fst_namedChildren (n : Node) (name : String) :
    (n.namedChildren name).map Prod.fst = n.childrenNamed name :=
  calc (n.namedChildren name).map Prod.fst
    _ = (n.children.zipIdx.map Prod.fst).filter (·.name == name) := by
      rw [List.filter_map]
      rfl
    _ = n.childrenNamed name := by rw [List.zipIdx_map_fst, childrenNamed]

theorem mem_namedChildren_iff {c : Node} {i : Nat} :
    (c, i) ∈ n.namedChildren name ↔ n.children[i]? = some c ∧ c.name = name := by
  rw [namedChildren, List.mem_filter, List.mem_zipIdx_iff_getElem?, beq_iff_eq]

theorem pairwise_namedChildren (n : Node) (name : String) :
    (n.namedChildren name).Pairwise fun a b => a.2 < b.2 := by
  have hindices : (n.children.zipIdx.map Prod.snd).Pairwise (· < ·) := by
    rw [List.zipIdx_map_snd]
    exact List.pairwise_lt_range'
  exact (List.pairwise_map.mp hindices).filter _

/-- The positions that a path of names leads to, child by child. -/
def positionsOf (n : Node) : List String → List Position
  | [] => [[]]
  | name :: path => (n.namedChildren name).flatMap fun a => (a.1.positionsOf path).map (a.2 :: ·)

theorem mem_positionsOf_cons {q : Position} :
    q ∈ n.positionsOf (name :: path) ↔ ∃ c i q', n.children[i]? = some c ∧ c.name = name ∧
      q' ∈ c.positionsOf path ∧ q = i :: q' := by
  rw [positionsOf, List.mem_flatMap]
  constructor
  · rintro ⟨⟨c, i⟩, hc, hq⟩
    obtain ⟨hchild, hname⟩ := mem_namedChildren_iff.mp hc
    obtain ⟨q', hq', rfl⟩ := List.mem_map.mp hq
    exact ⟨c, i, q', hchild, hname, hq', rfl⟩
  · rintro ⟨c, i, q', hchild, hname, hq', rfl⟩
    exact ⟨(c, i), mem_namedChildren_iff.mpr ⟨hchild, hname⟩, List.mem_map_of_mem hq'⟩

theorem mem_positionsOf_iff {q : Position} :
    q ∈ n.positionsOf path ↔ n.namesTo? q = some path := by
  induction path generalizing n q with
  | nil =>
    rw [positionsOf, List.mem_singleton]
    cases q with
    | nil => exact iff_of_true rfl rfl
    | cons i q => simp [namesTo?, Option.bind_eq_some_iff]
  | cons name path ih =>
    rw [mem_positionsOf_cons]
    cases q with
    | nil => simp [namesTo?]
    | cons i q =>
      rw [namesTo?, Option.bind_eq_some_iff]
      constructor
      · rintro ⟨c, _, _, hchild, rfl, hq, heq⟩
        -- the first index leads to a child of that name, and the others from there
        obtain ⟨rfl, rfl⟩ := List.cons.inj heq
        refine ⟨c, hchild, ?_⟩
        rw [ih.mp hq, Option.map_some]
      · rintro ⟨c, hchild, hnames⟩
        obtain ⟨rest, hrest, heq⟩ := Option.map_eq_some_iff.mp hnames
        obtain ⟨hname, rfl⟩ := List.cons.inj heq
        exact ⟨c, i, q, hchild, hname, ih.mpr hrest, rfl⟩

theorem pairwise_positionsOf (n : Node) (path : List String) :
    (n.positionsOf path).Pairwise Position.Precedes := by
  induction path generalizing n with
  | nil => exact List.pairwise_singleton _ _
  | cons name path ih =>
    rw [positionsOf, List.pairwise_flatMap]
    constructor
    · -- below one child positions have their first index in common
      intro a _
      rw [List.pairwise_map]
      exact (ih a.1).imp List.Lex.cons
    · -- and below a later child it is greater
      refine (pairwise_namedChildren n name).imp ?_
      intro a b hlt q hq q' hq'
      obtain ⟨rest, -, rfl⟩ := List.mem_map.mp hq
      obtain ⟨rest', -, rfl⟩ := List.mem_map.mp hq'
      exact List.Lex.rel hlt

/-- The nodes that are found stand at these positions, one at each. -/
theorem map_some_findAll (n : Node) (path : List String) :
    (n.findAll path).map some = (n.positionsOf path).map n.at? := by
  induction path generalizing n with
  | nil => rfl
  | cons name path ih =>
    rw [findAll_cons, ← map_fst_namedChildren, positionsOf, List.flatMap_map, List.map_flatMap,
      List.map_flatMap]
    refine List.flatMap_congr ?_
    intro a ha
    obtain ⟨hchild, -⟩ := mem_namedChildren_iff.mp ha
    rw [ih, List.map_map]
    refine List.map_congr_left ?_
    intro q _
    show a.1.at? q = (n.children[a.2]?).bind (·.at? q)
    rw [hchild, Option.bind_some]

theorem lists_findAll (n : Node) (path : List String) : n.Lists path (n.findAll path) :=
  ⟨n.positionsOf path, fun _ => mem_positionsOf_iff, pairwise_positionsOf n path,
    map_some_findAll n path⟩

/-! ## The queries together -/

/-- What the two queries answer.  The one that goes to every child lists the nodes that the path
leads to, and a longer path is followed from each of them.  The one that goes to the first child
answers with the first of that list or, where a first child leads no further, with nothing; so it
answers nothing where the list is empty. -/
theorem find_findAll_agree (n : Node) (path : List String) :
    n.Lists path (n.findAll path) ∧
    (∀ more, n.findAll (path ++ more) = (n.findAll path).flatMap (·.findAll more)) ∧
    (∀ m, n.find path = some m → (n.findAll path).head? = some m) ∧
    (n.findAll path = [] → n.find path = none) ∧
    (∀ more, n.find (path ++ more) = (n.find path).bind (·.find more)) ∧
    ∀ name, n.find [name] = (n.findAll [name]).head? :=
  ⟨lists_findAll n path, findAll_append n path, fun _ => head?_findAll_of_find,
    find_eq_none_of_findAll, find_append n path, find_singleton n⟩

/-- A first child that leads no further hides what its sibling leads to. -/
example :
    let leaf : Node := .mk "b" [] [] ""
    let n : Node := .mk "r" [] [.mk "a" [] [] "", .mk "a" [] [leaf, leaf] ""] ""
    n.find ["a", "b"] = none ∧ n.findAll ["a", "b"] = [leaf, leaf] := by
  decide

end Node

end ContractDrift.Xml
