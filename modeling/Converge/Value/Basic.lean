/-
  Converge.Value.Basic
  ────────────────────
  **THE DATA THAT DECLARATIONS AND MANIFESTS ARE MADE OF.**

  A mapping is the list of its pairs in order.  `Value.sameKey` is the equality of keys: numbers are
  equal by value across their kinds (`1`, `1.0` and true are one key), everything else only to its
  own kind.  `Mapping.put` keeps a key's first place and first spelling and takes the last value.
-/
import Converge.Calendar
import Converge.Number.Decimal

namespace Converge

open Converge.Number Converge.Calendar

/-! ## §1. Values. -/

/-- A value of a document. -/
inductive Value where
  /-- No value. -/
  | null
  /-- A truth value. -/
  | boolean (b : Bool)
  /-- An integer of any size. -/
  | integer (i : Int)
  /-- A binary64 number. -/
  | decimal (x : Binary64)
  /-- Text. -/
  | text (s : String)
  /-- A byte string. -/
  | bytes (bs : List UInt8)
  /-- A date. -/
  | date (d : Date)
  /-- A date with a time. -/
  | moment (t : DateTime)
  /-- A list. -/
  | list (items : List Value)
  /-- A tuple. -/
  | tuple (items : List Value)
  /-- A set, in the order in which its members came. -/
  | set (items : List Value)
  /-- A mapping, in the order in which its keys came. -/
  | mapping (pairs : List (Value × Value))

/-- The pairs of a mapping, in order. -/
abbrev Mapping := List (Value × Value)

namespace Value

instance : Inhabited Value := ⟨.null⟩

/-- The name of a value's kind as messages give it. -/
def kindName : Value → String
  | .null => "NoneType"
  | .boolean _ => "bool"
  | .integer _ => "int"
  | .decimal _ => "float"
  | .text _ => "str"
  | .bytes _ => "bytes"
  | .date _ => "date"
  | .moment _ => "datetime"
  | .list _ => "list"
  | .tuple _ => "tuple"
  | .set _ => "set"
  | .mapping _ => "dict"

/-- Whether a value counts as nothing: null, false, zero, and whatever is empty. -/
def isEmpty : Value → Bool
  | .null => true
  | .boolean b => !b
  | .integer i => i == 0
  | .decimal (.finite _ m _) => m == 0
  | .decimal _ => false
  | .text s => s == ""
  | .bytes bs => bs.isEmpty
  | .date _ => false
  | .moment _ => false
  | .list items => items.isEmpty
  | .tuple items => items.isEmpty
  | .set items => items.isEmpty
  | .mapping pairs => pairs.isEmpty

/-! ## §2. Equality of keys. -/

/-- The integer that a number or truth value equals, if it equals one. -/
def wholeNumber? : Value → Option Int
  | .boolean b => some (if b then 1 else 0)
  | .integer i => some i
  | .decimal x => x.toInt?
  | _ => none

/-- Equality of two keys that are no tuples.  A key that is not a number equals itself. -/
def sameAtom : Value → Value → Bool
  | .null, .null => true
  | .text s, .text t => s == t
  | .bytes a, .bytes b => a == b
  | .date a, .date b => a == b
  | .moment a, .moment b => a.sameMoment b
  | .decimal .nan, .decimal .nan => true
  | .decimal x, .decimal y => x.sameValue y
  | v, w =>
    match v.wholeNumber?, w.wholeNumber? with
    | some i, some j => i == j
    | _, _ => false

mutual

/-- Equality of keys. -/
def sameKey : Value → Value → Bool
  | .tuple as, .tuple bs => sameKeys as bs
  | .tuple _, _ => false
  | _, .tuple _ => false
  | v, w => sameAtom v w

/-- Equality of the members of two tuples, one by one. -/
def sameKeys : List Value → List Value → Bool
  | [], [] => true
  | a :: as, b :: bs => sameKey a b && sameKeys as bs
  | _, _ => false

end

mutual

/-- Whether a value can be a key: lists, sets and mappings cannot, nor a tuple that holds one. -/
def isKey : Value → Bool
  | .list _ => false
  | .set _ => false
  | .mapping _ => false
  | .tuple items => areKeys items
  | _ => true

/-- Whether all members can be keys. -/
def areKeys : List Value → Bool
  | [] => true
  | v :: vs => isKey v && areKeys vs

end

end Value

namespace Value

/-- Whether a value is one of the given texts. -/
def isOneOf (keys : List String) : Value → Bool
  | .text k => keys.contains k
  | _ => false

end Value

/-! ## §3. Mappings. -/

namespace Mapping

/-- The value under the text key `key`. -/
def find? (key : String) : Mapping → Option Value
  | [] => none
  | (.text k, v) :: rest => if k = key then some v else find? key rest
  | _ :: rest => find? key rest

/-- Sets the value of a key: in place if the key is there, else at the end. -/
def put (pairs : Mapping) (key value : Value) : Mapping :=
  match pairs with
  | [] => [(key, value)]
  | (k, v) :: rest => if k.sameKey key then (k, value) :: rest else (k, v) :: put rest key value

/-- The mapping with these pairs, put in one after the other. -/
def ofPairs (pairs : List (Value × Value)) : Mapping :=
  pairs.foldl (fun m p => put m p.1 p.2) []

/-- The pairs whose key is none of the given texts. -/
def without (keys : List String) (pairs : Mapping) : Mapping :=
  pairs.filter fun p => !p.1.isOneOf keys

/-- Adds a member to a set unless it is there. -/
def putMember (items : List Value) (v : Value) : List Value :=
  if items.any (·.sameKey v) then items else items ++ [v]

@[simp] theorem find?_nil (key : String) : find? key [] = none := rfl

/-- A pair under another text key is passed over. -/
theorem find?_cons_text (key k : String) (v : Value) (rest : Mapping) :
    find? key ((.text k, v) :: rest) = if k = key then some v else find? key rest := rfl

end Mapping

end Converge
