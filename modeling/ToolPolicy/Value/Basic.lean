import ToolPolicy.Value.Binary64
import ToolPolicy.Value.Calendar

/-!
# Values of documents

What a JSON or a YAML text stands for: the usual scalars, lists, and mappings that keep the order in
which their keys were first written. A document may refer from within a container to that container;
`outer n` stands for the container that encloses it with `n` others in between.

`Value.same` is equality as mappings use it for their keys: numbers and truth values are equal when
they count as the same number, and mappings are equal whatever their order. Main statements:
`same_str` (texts are the same only if they are equal), `field?_put_self` and `field?_put_of_ne`
(what putting a field changes).
-/

namespace ToolPolicy

/-- The value of a document. -/
inductive Value where
  | null
  | bool (b : Bool)
  | int (n : Int)
  | float (x : Binary64)
  | str (t : Text)
  | bytes (b : List UInt8)
  | date (d : Date)
  | timestamp (t : Timestamp)
  | list (items : List Value)
  | mapping (entries : List (Value × Value))
  | tuple (items : List Value)
  | set (items : List Value)
  /-- A container around this place, counted outwards from zero. -/
  | outer (levels : Nat)
  deriving Repr, Inhabited

namespace Value

/-! ## Kinds -/

/-- The name of the kind of a value. -/
def kind : Value → Text
  | null => "NoneType"
  | bool _ => "bool"
  | int _ => "int"
  | float _ => "float"
  | str _ => "str"
  | bytes _ => "bytes"
  | date _ => "date"
  | timestamp _ => "datetime"
  | list _ => "list"
  | mapping _ => "dict"
  | tuple _ => "tuple"
  | set _ => "set"
  | outer _ => "list"

/-- Whether a value counts as something: not null, false, zero or empty. -/
def isTruthy : Value → Bool
  | null => false
  | bool b => b
  | int n => n != 0
  | float x => !x.isZero
  | str t => !t.isEmpty
  | bytes b => !b.isEmpty
  | list items => !items.isEmpty
  | mapping entries => !entries.isEmpty
  | tuple items => !items.isEmpty
  | set items => !items.isEmpty
  | _ => true

/-- The text of a value that is a text. -/
def asText? : Value → Option Text
  | str t => some t
  | _ => none

/-- The integer that a value counts as, if it is a number or a truth value. -/
def asInt? : Value → Option Int
  | bool b => some (if b then 1 else 0)
  | int n => some n
  | float x => x.toInt?
  | _ => none

/-! ## Equality of keys -/

mutual

/-- Whether two values count as the same key. -/
def same : Value → Value → Bool
  | null, null => true
  | str a, str b => a == b
  | bytes a, bytes b => a == b
  | date a, date b => a == b
  | timestamp a, timestamp b => a.same b
  | list a, list b => sameItems a b
  | tuple a, tuple b => sameItems a b
  | mapping a, mapping b => a.length == b.length && sameEntries a b
  | set a, set b => a.length == b.length && sameMembers a b
  | outer a, outer b => a == b
  | float a, float b => a != .nan && (a == b || (a.isZero && b.isZero))
  | bool a, b => b.asInt? == some (if a then 1 else 0)
  | int a, b => b.asInt? == some a
  | float a, b => match a.toInt?, b with
    | some n, bool c => n == if c then 1 else 0
    | some n, int m => n == m
    | _, _ => false
  | _, _ => false

/-- Whether two lists have the same items in the same order. -/
def sameItems : List Value → List Value → Bool
  | [], [] => true
  | a :: rest, b :: more => same a b && sameItems rest more
  | _, _ => false

/-- Whether every entry of the first list is one of the second. -/
def sameEntries : List (Value × Value) → List (Value × Value) → Bool
  | [], _ => true
  | (k, v) :: rest, entries =>
    entries.any (fun e => same k e.1 && same v e.2) && sameEntries rest entries

/-- Whether every item of the first list is one of the second. -/
def sameMembers : List Value → List Value → Bool
  | [], _ => true
  | a :: rest, items => items.any (fun b => same a b) && sameMembers rest items

end

@[simp] theorem same_str (a b : Text) : same (str a) (str b) = true ↔ a = b := by
  simp [same]

@[simp] theorem same_float_str (x : Binary64) (t : Text) : same (float x) (str t) = false := by
  cases h : x.toInt? <;> simp [same, h]

/-! ## Mappings -/

/-- The entries with one more: a key that is there already keeps its place
and gets the new value. -/
def put (key value : Value) : List (Value × Value) → List (Value × Value)
  | [] => [(key, value)]
  | (k, v) :: rest => if same k key then (k, value) :: rest else (k, v) :: put key value rest

/-- The value that entries hold under a text. -/
def field? (name : Text) : List (Value × Value) → Option Value
  | [] => none
  | (k, v) :: rest =>
    match k with
    | str t => if t = name then some v else field? name rest
    | _ => field? name rest

/-- The entries with a field set to a value. -/
def putField (name : Text) (value : Value) (entries : List (Value × Value)) :
    List (Value × Value) :=
  put (str name) value entries

/-- The value under a text, if this is a mapping that has one. -/
def get? (v : Value) (name : Text) : Option Value :=
  match v with
  | mapping entries => field? name entries
  | _ => none

/-- A mapping from texts. -/
def object (fields : List (Text × Value)) : Value :=
  mapping (fields.map fun (name, v) => (str name, v))

/-- A text, or null if there is none. -/
def ofText? (t : Option Text) : Value :=
  match t with
  | some t => str t
  | none => null

/-! ## References to enclosing containers -/

mutual

/-- Puts a container in the place of the references to it: those that are `depth` levels up. `copy`
is the container as it is seen from a place that is that many levels below it. -/
def fill (copy : Nat → Value) : Nat → Value → Value
  | depth, outer levels => if levels = depth then copy depth else outer levels
  | depth, list items => list (fillItems copy (depth + 1) items)
  | depth, tuple items => tuple (fillItems copy (depth + 1) items)
  | depth, set items => set (fillItems copy (depth + 1) items)
  | depth, mapping entries => mapping (fillEntries copy (depth + 1) entries)
  | _, v => v

/-- `fill` for every item. -/
def fillItems (copy : Nat → Value) : Nat → List Value → List Value
  | _, [] => []
  | depth, v :: rest => fill copy depth v :: fillItems copy depth rest

/-- `fill` for every entry. -/
def fillEntries (copy : Nat → Value) : Nat → List (Value × Value) → List (Value × Value)
  | _, [] => []
  | depth, (k, v) :: rest => (fill copy depth k, fill copy depth v) :: fillEntries copy depth rest

end

/-- The items of a list, each complete in itself: a reference to the list becomes the list, in which
the item refers back to itself. -/
def detachItems (items : List Value) : List Value :=
  items.mapIdx fun i v => fill (fun depth => list (items.set i (outer depth))) 0 v

/-- The values of a mapping, each complete in itself. -/
def detachEntries (entries : List (Value × Value)) : List (Value × Value) :=
  entries.mapIdx fun i (k, v) =>
    (k, fill (fun depth => mapping (entries.set i (k, outer depth))) 0 v)

/-- A value whose parts, down to a number of levels, are complete in themselves. -/
def detach : Nat → Value → Value
  | levels + 1, list items => list ((detachItems items).map (detach levels))
  | levels + 1, mapping entries =>
    mapping ((detachEntries entries).map fun (k, v) => (k, detach levels v))
  | _, v => v

/-! ## What putting a field changes -/

theorem field?_put_self (name : Text) (value : Value) (entries : List (Value × Value)) :
    field? name (putField name value entries) = some value := by
  induction entries with
  | nil => simp [putField, put, field?]
  | cons e rest ih =>
    obtain ⟨k, v⟩ := e
    simp only [putField] at ih
    cases k with
    | str t =>
      by_cases h : t = name
      · simp [putField, put, field?, h]
      · simp [putField, put, field?, h, ih]
    | bool b => cases b <;> simp [putField, put, field?, same, asInt?, ih]
    | float x => simp [putField, put, field?, ih]
    | _ => simp [putField, put, field?, same, asInt?, ih]

theorem field?_put_of_ne {name other : Text} (h : other ≠ name) (value : Value)
    (entries : List (Value × Value)) :
    field? other (putField name value entries) = field? other entries := by
  have h' : name ≠ other := fun e => h e.symm
  induction entries with
  | nil => simp [putField, put, field?, h']
  | cons e rest ih =>
    obtain ⟨k, v⟩ := e
    simp only [putField] at ih
    cases k with
    | str t =>
      by_cases ht : t = name
      · subst ht
        simp [putField, put, field?, h']
      · simp [putField, put, field?, ht, ih]
    | bool b => cases b <;> simp [putField, put, field?, same, asInt?, ih]
    | float x => simp [putField, put, field?, ih]
    | _ => simp [putField, put, field?, same, asInt?, ih]

end Value

end ToolPolicy
