import ModuleHost.Json.Printer
import ModuleHost.Json.Reader

/-!
# Call values

The values that callers pass to a service function and get back from it.

* `Value` — null, truth values, signed and unsigned integers, binary64 numbers, strings, arrays
  and objects;
* `MarshalError` — why a value or a text does not cross the call boundary;
* `Value.toJson`, `Value.ofJson` — the JSON of a value, numbers that are not finite refused; the
  value of a JSON value;
* `Value.same` — equality: integers of the two kinds and floats are never equal to each other.
-/

namespace ModuleHost

/-- A value that can be passed to, or returned from, a service function. -/
inductive Value where
  | null
  | bool (b : Bool)
  | int (n : Int64)
  | uint (n : UInt64)
  | float (x : Binary64)
  | string (s : String)
  | array (items : List Value)
  | fields (entries : List (String × Value))

instance : Inhabited Value := ⟨.null⟩

/-- Why a value or a text does not cross the call boundary. -/
inductive MarshalError where
  /-- The value at `path` has no JSON form. -/
  | unrepresentable (path : String) (reason : String)
  /-- The text `raw` of `what` cannot be read. -/
  | parse (what : String) (cause : Json.ReadError) (raw : String)
  /-- The text `raw` of `what` is JSON of another shape. -/
  | shape (what : String) (reason : String) (raw : String)
  deriving DecidableEq

/-- The text of an error, with `json` for the cause of unreadable JSON. -/
def MarshalError.messageWith (json : Json.ReadError → String) : MarshalError → String
  | .unrepresentable path reason => s!"value at `{path}` cannot be encoded: {reason}"
  | .parse what cause raw =>
    s!"{what} is not valid JSON: {json cause}, original text: {raw}"
  | .shape what reason raw =>
    s!"{what} has an unexpected shape: {reason}, original text: {raw}"

/-- The text of an error. -/
def MarshalError.message (e : MarshalError) : String := e.messageWith Json.ReadError.tag

namespace Value

/-- The object of the entries, sorted by key; of two entries with one key the later stays. -/
def object (entries : List (String × Value)) : Value := .fields (Fields.ofList entries)

def isNull : Value → Bool
  | .null => true
  | _ => false

def asString? : Value → Option String
  | .string s => some s
  | _ => none

/-- The integer, if it is a signed integer of 64 bits. -/
def asInt? : Value → Option Int64
  | .int n => some n
  | .uint n => if n < 0x8000000000000000 then some n.toInt64 else none
  | _ => none

/-- The nearest binary64 number. -/
def asFloat? : Value → Option Binary64
  | .int n => some (.ofInt n.toInt)
  | .uint n => some (.ofNat n.toNat)
  | .float x => some x
  | _ => none

def asArray? : Value → Option (List Value)
  | .array items => some items
  | _ => none

/-- The field `key` of an object. -/
def get? (key : String) : Value → Option Value
  | .fields entries => Fields.get? key entries
  | _ => none

/-! ## Equality -/

mutual

/-- Equality of values. -/
def same : Value → Value → Bool
  | .null, .null => true
  | .bool a, .bool b => a == b
  | .int a, .int b => a == b
  | .uint a, .uint b => a == b
  | .float a, .float b => a.same b
  | .string a, .string b => a == b
  | .array a, .array b => sameItems a b
  | .fields a, .fields b => sameEntries a b
  | _, _ => false

/-- Equality of the items of two arrays. -/
def sameItems : List Value → List Value → Bool
  | [], [] => true
  | a :: as, b :: bs => same a b && sameItems as bs
  | _, _ => false

/-- Equality of the entries of two objects. -/
def sameEntries : List (String × Value) → List (String × Value) → Bool
  | [], [] => true
  | (k, a) :: as, (l, b) :: bs => k == l && same a b && sameEntries as bs
  | _, _ => false

end

/-! ## Correspondence with JSON -/

/-- The path of an item of an array. -/
def itemPath (path : String) (i : Nat) : String := s!"{path}[{i}]"

/-- The path of a field of an object. -/
def fieldPath (path : String) (key : String) : String := s!"{path}.{key}"

mutual

/-- The JSON of a value that stands at `path`. Items are visited in order and fields in order of
key; the first number that is not finite is refused. -/
def toJsonAt (path : String) : Value → Except MarshalError Json
  | .null => .ok .null
  | .bool b => .ok (.bool b)
  | .int n => .ok (.int n)
  | .uint n => .ok (.nat n)
  | .float x =>
    if h : x.isFinite = true then .ok (.number (.float x h))
    else
      .error (.unrepresentable path
        s!"number {Number.nonFiniteText x} has no JSON representation")
  | .string s => .ok (.string s)
  | .array items => Json.array <$> itemsToJson path 0 items
  | .fields entries => Json.fields <$> entriesToJson path entries

/-- The JSON of the items of an array from index `i` on. -/
def itemsToJson (path : String) (i : Nat) : List Value → Except MarshalError (List Json)
  | [] => .ok []
  | v :: vs => do
    let j ← toJsonAt (itemPath path i) v
    return j :: (← itemsToJson path (i + 1) vs)

/-- The JSON of the fields of an object. -/
def entriesToJson (path : String) :
    List (String × Value) → Except MarshalError (List (String × Json))
  | [] => .ok []
  | (k, v) :: es => do
    let j ← toJsonAt (fieldPath path k) v
    return (k, j) :: (← entriesToJson path es)

end

/-- The JSON of a value. -/
def toJson (v : Value) : Except MarshalError Json := v.toJsonAt "$"

/-- The value of a number: a signed integer if 64 bits hold it, else an unsigned one, else a
float. -/
def ofNumber : Json.Number → Value
  | .natural n => if n < 0x8000000000000000 then .int n.toInt64 else .uint n
  | .negative n _ => .int n
  | .float x _ => .float x

mutual

/-- The value of a JSON value. -/
def ofJson : Json → Value
  | .null => .null
  | .bool b => .bool b
  | .number n => ofNumber n
  | .string s => .string s
  | .array items => .array (ofItems items)
  | .fields entries => .fields (ofEntries entries)

/-- The values of the items of an array. -/
def ofItems : List Json → List Value
  | [] => []
  | j :: js => ofJson j :: ofItems js

/-- The values of the members of an object. -/
def ofEntries : List (String × Json) → List (String × Value)
  | [] => []
  | (k, j) :: es => (k, ofJson j) :: ofEntries es

end

end Value

end ModuleHost
