import ModuleHost.Dict
import ModuleHost.Number.Binary64

/-!
# JSON values

* `Json.Number` — a natural number, a negative integer or a finite binary64 number, each number
  text having one of the three;
* `Json` — a value; the fields of an object stand in the order in which they are written;
* `Json.object` — an object from entries in any order: sorted by key, the last entry of a key
  staying;
* `Json.Sorted` — every object in the value lists its keys in increasing order;
* `Json.get?`, `Json.isObject`.
-/

namespace ModuleHost

/-- A JSON number. -/
inductive Json.Number where
  | natural (n : UInt64)
  | negative (n : Int64) (neg : n < 0)
  | float (x : Binary64) (finite : x.isFinite = true)
  deriving DecidableEq

/-- A JSON value. -/
inductive Json where
  | null
  | bool (b : Bool)
  | number (n : Json.Number)
  | string (s : String)
  | array (items : List Json)
  | fields (entries : List (String × Json))

namespace Json

/-- The number of a signed integer. -/
def Number.ofInt64 (n : Int64) : Number :=
  if h : n < 0 then .negative n h else .natural n.toUInt64

/-- An integer of 64 bits. -/
def int (n : Int64) : Json := .number (.ofInt64 n)

/-- A natural number of 64 bits. -/
def nat (n : UInt64) : Json := .number (.natural n)

/-- The object of the entries, sorted by key; of two entries with one key the later stays. -/
def object (entries : List (String × Json)) : Json := .fields (Fields.ofList entries)

/-- The list of strings. -/
def strings (items : List String) : Json := .array (items.map .string)

/-- The member `key` of an object. -/
def get? (key : String) : Json → Option Json
  | .fields entries => Fields.get? key entries
  | _ => none

def isObject : Json → Bool
  | .fields _ => true
  | _ => false

mutual

/-- Every object in the value lists its keys in increasing order. -/
def Sorted : Json → Prop
  | .array items => SortedItems items
  | .fields entries => Fields.Sorted entries ∧ SortedEntries entries
  | _ => True

/-- Every one of the values is sorted. -/
def SortedItems : List Json → Prop
  | [] => True
  | j :: js => Sorted j ∧ SortedItems js

/-- Every one of the members is sorted. -/
def SortedEntries : List (String × Json) → Prop
  | [] => True
  | (_, j) :: es => Sorted j ∧ SortedEntries es

end

end Json

end ModuleHost
