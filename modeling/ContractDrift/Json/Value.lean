/-
JSON values.

An object keeps its members in the order of the document.  `Members.insert` is how
a member is added: a key that is already there keeps its place and takes the new
value, so that `Members.get?` of the last value written is what is read
(`get?_insert_self`) and other keys are untouched (`get?_insert_of_ne`).

Design notes: a number is an integer of any size or a float, and the two are told
apart for good: `1` and `1.0` are equal to the validator but are shown differently.
-/

namespace ContractDrift.Json

/-- A JSON value. -/
inductive Value where
  | null
  | bool (b : Bool)
  | int (n : Int)
  | real (x : Float)
  | text (s : String)
  | array (items : List Value)
  | object (members : List (String × Value))
  deriving Inhabited

/-- The members of an object. -/
abbrev Members := List (String × Value)

namespace Members

/-- The value of a key. -/
def get? : Members → String → Option Value
  | [], _ => none
  | (k, v) :: r, key => if k = key then some v else get? r key

/-- Sets the value of a key, in place if the key is there and at the end otherwise. -/
def insert : Members → String → Value → Members
  | [], key, value => [(key, value)]
  | (k, v) :: r, key, value =>
    if k = key then (k, value) :: r else (k, v) :: insert r key value

/-- The keys in document order. -/
def keys (m : Members) : List String := m.map (·.1)

/-- Whether a key is there. -/
def has (m : Members) (key : String) : Bool := (m.get? key).isSome

/-- The members inserted one after the other. -/
def ofList (entries : List (String × Value)) : Members :=
  entries.foldl (fun m e => m.insert e.1 e.2) []

/-- The members without a key. -/
def erase (m : Members) (key : String) : Members := m.filter (·.1 ≠ key)

@[simp]
theorem get?_insert_self (m : Members) (k : String) (v : Value) :
    (m.insert k v).get? k = some v := by
  induction m with
  | nil => simp [insert, get?]
  | cons e r ih =>
    obtain ⟨k', v'⟩ := e
    by_cases h : k' = k <;> simp [insert, get?, h, ih]

theorem get?_insert_of_ne (m : Members) {k k' : String} (v : Value) (hne : k ≠ k') :
    (m.insert k v).get? k' = m.get? k' := by
  induction m with
  | nil => simp [insert, get?, hne]
  | cons e r ih =>
    obtain ⟨a, w⟩ := e
    by_cases h : a = k
    · subst h
      simp [insert, get?, hne]
    · simp only [insert, h, if_false, get?, ih]

end Members

namespace Value

/-- The members of an object; nothing for any other value. -/
def members? : Value → Option Members
  | .object m => some m
  | _ => none

/-- The items of an array; nothing for any other value. -/
def items? : Value → Option (List Value)
  | .array xs => some xs
  | _ => none

/-- The characters of a text; nothing for any other value. -/
def text? : Value → Option String
  | .text s => some s
  | _ => none

theorem text?_eq_some_iff {v : Value} {s : String} : v.text? = some s ↔ v = .text s := by
  cases v <;> simp [text?]

theorem filterMap_text? (texts : List String) : (texts.map text).filterMap text? = texts := by
  rw [List.filterMap_map]
  exact List.filterMap_some

/-- The value of a key of an object. -/
def get? (v : Value) (key : String) : Option Value :=
  v.members?.bind (Members.get? · key)

/-- Whether the value is an object. -/
def isObject (v : Value) : Bool := v.members?.isSome

/-- Whether the value is an array. -/
def isArray (v : Value) : Bool := v.items?.isSome

/-- Whether the value is a text. -/
def isText (v : Value) : Bool := v.text?.isSome

/-- Whether the value is null. -/
def isNull : Value → Bool
  | .null => true
  | _ => false

/-- The name of a value's kind, as messages give it. -/
def kindName : Value → String
  | .null => "NoneType"
  | .bool _ => "bool"
  | .int _ => "int"
  | .real _ => "float"
  | .text _ => "str"
  | .array _ => "list"
  | .object _ => "dict"

/-- Whether a value is neither null, false, zero nor empty. -/
def isTruthy : Value → Bool
  | .null => false
  | .bool b => b
  | .int n => n ≠ 0
  | .real x => !(x == 0)
  | .text s => s ≠ ""
  | .array xs => !xs.isEmpty
  | .object m => !m.isEmpty

end Value

end ContractDrift.Json
