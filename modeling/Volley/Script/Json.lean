import Volley.Script.Access

/-!
# Script values and JSON values

A JSON value becomes a script value by making objects for its lists and objects. The way back looks
only at the values that properties hold: a getter counts as null, and so does a number that is not
finite. A symbol or a big integer cannot be told in JSON. An undefined value inside an object breaks
the engine.
-/

namespace Volley.Script

/-- Why a value has no JSON form. -/
inductive JsonFault where
  | refused (message : String)
  | broken
  deriving DecidableEq, Repr

/-- A number in JSON: a whole number of 32 bits is an integer, unless it is a zero with a sign. -/
def jsonNumber (x : Float) : Json :=
  match Numeral.classify x.toBits with
  | .finite negative b =>
    let i := Numeral.signed negative b.whole
    if b.isWhole && !(negative && i == 0) && -0x80000000 ≤ i && i < 0x80000000 then .ofInt i
    else .ofReal x
  | _ => .null

/-- The JSON form of a value; an object's value nests at most `limit` deep. -/
def toJson (m : Machine) : Nat → Value → Except JsonFault Json
  | _, .undefined => .error .broken
  | _, .null => .ok .null
  | _, .bool b => .ok (.bool b)
  | _, .number x => .ok (jsonNumber x)
  | _, .string s => .ok (.string s)
  | _, .bigint _ => .error (.refused "cannot convert bigint to JSON")
  | _, .symbol _ => .error (.refused "cannot convert Symbol to JSON")
  | 0, .object _ => .error .broken
  | limit + 1, .object r =>
    let held (p : Option Property) : Except JsonFault Json :=
      match p with
      | some (.data v _) => toJson m limit v
      | _ => .ok .null
    let o := m.object r
    match o.kind with
    | .array => do
      return .array (← (List.range (lengthOf m r)).mapM fun i => held (o.own? (toString i)))
    | _ => do
      return .object (← o.ordered.mapM fun (k, p) => return (k, ← held (some p)))

/-- The JSON form of a value of this machine. -/
def Machine.json (m : Machine) (v : Value) : Except JsonFault Json := toJson m m.heap.size v

mutual

/-- The value of a JSON value. -/
def ofJson : Json → Run Value
  | .null => return .null
  | .bool b => return .bool b
  | .number n => return .number n.toReal
  | .string s => return .string s
  | .array elements => do
    return .object (← makeArray Intrinsic.arrayPrototype (← ofElements elements))
  | .object members => do
    let values ← ofMembers members
    let properties := values.foldl (fun ps (k, v) => Object.putProperty k (.plain v) ps) []
    return .object (← makePlain properties)

def ofElements : List Json → Run (List Value)
  | [] => return []
  | j :: r => do
    let v ← ofJson j
    return v :: (← ofElements r)

def ofMembers : List (String × Json) → Run (List (String × Value))
  | [] => return []
  | (k, j) :: r => do
    let v ← ofJson j
    return (k, v) :: (← ofMembers r)

end

end Volley.Script
