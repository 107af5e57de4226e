import Volley.Script.Machine
import Volley.Numeral.Real
import Volley.Numeral.Shortest
import Volley.Json.Printer
import Volley.Text.Blank

/-!
# Properties and conversions

Reading and assigning properties, and turning values into texts and numbers. A getter or a
conversion of an object may run the script's own functions, so all of these take the caller that
runs them.
-/

namespace Volley.Script

def noObject : String := "cannot convert 'null' or 'undefined' to object"

/-- The value of a property that was found on the way from a value. -/
def readProperty (call : Caller) (self : Value) : Option Property → Run Value
  | some (.data v _) => return v
  | some (.accessor (some g) _) => call g self []
  | some (.accessor none _) => return .undefined
  | none => return .undefined

/-- Reads a property of a value. -/
def getProperty (call : Caller) (v : Value) (key : String) : Run Value := do
  match v with
  | .undefined => raise .type noObject
  | .null => raise .type noObject
  | .object r => readProperty call v ((← get).find? r key)
  | .string s =>
    if key == "length" then return .ofNat (units16 s)
    else match (index? key).bind fun i => (units s)[i]? with
      | some u => return .string u
      | none => readProperty call v ((← get).find? Intrinsic.objectPrototype key)
  | _ => readProperty call v ((← get).find? Intrinsic.objectPrototype key)

/-- Calls a value, if it is a function. -/
def callValue (call : Caller) (f self : Value) (args : List Value) : Run Value := do
  match f with
  | .object r =>
    if (← objectAt r).isCallable then call r self args else raise .type "not a callable function"
  | _ => raise .type "not a callable function"

/-! ## Conversions -/

def isTrue : Value → Bool
  | .undefined | .null => false
  | .bool b => b
  | .number x => !(x == 0.0 || x.isNaN)
  | .string s => !s.isEmpty
  | .bigint n => n != 0
  | .symbol _ => true
  | .object _ => true

/-- The name of a value's type. -/
def typeName (m : Machine) : Value → String
  | .undefined => "undefined"
  | .null => "object"
  | .bool _ => "boolean"
  | .number _ => "number"
  | .string _ => "string"
  | .bigint _ => "bigint"
  | .symbol _ => "symbol"
  | .object r => if (m.object r).isCallable then "function" else "object"

def numberText (x : Float) : String := Numeral.Layout.script.render x

def integerText (n : Int) : String := .ofList (Numeral.signedDecimal n)

/-- A primitive value for a value: the result of one of its two conversion methods. -/
def toPrimitive (call : Caller) (textFirst : Bool) (v : Value) : Run Value := do
  match v with
  | .object r =>
    let order := if textFirst then ("toString", "valueOf") else ("valueOf", "toString")
    let try_ (key : String) : Run (Option Value) := do
      let f ← getProperty call (.object r) key
      if !(← get).isCallable f then return none
      match ← callValue call f (.object r) [] with
      | .object _ => return none
      | p => return some p
    match ← try_ order.1 with
    | some p => return p
    | none =>
      match ← try_ order.2 with
      | some p => return p
      | none => raise .type "cannot convert object to primitive value"
  | p => return p

/-- The text of a primitive value. -/
def primitiveText : Value → Run String
  | .undefined => return "undefined"
  | .null => return "null"
  | .bool b => return if b then "true" else "false"
  | .number x => return numberText x
  | .string s => return s
  | .bigint n => return integerText n
  | .symbol _ => raise .type "can't convert symbol to string"
  | .object _ => return "[object Object]"

def toText (call : Caller) (v : Value) : Run String := do
  primitiveText (← toPrimitive call true v)

/-- The number that a text writes; blanks around it do not matter. -/
def textNumber (s : String) : Float :=
  let t := Text.trim s.toList
  let body := match t with
    | '+' :: r => r
    | '-' :: r => r
    | r => r
  if t.isEmpty then 0.0
  else if body == "Infinity".toList then if t.head? == some '-' then -1.0 / 0.0 else 1.0 / 0.0
  else if body.any fun c => !(c.isDigit || ['.', 'e', 'E', '+', '-'].contains c) then 0.0 / 0.0
  else (Numeral.parseReal t).toOption.getD (0.0 / 0.0)

/-- The number of a primitive value. -/
def primitiveNumber : Value → Run Float
  | .undefined => return 0.0 / 0.0
  | .null => return 0.0
  | .bool b => return if b then 1.0 else 0.0
  | .number x => return x
  | .string s => return textNumber s
  | .bigint _ => raise .type "cannot mix BigInt and other types, use explicit conversions"
  | .symbol _ => raise .type "argument must not be a symbol"
  | .object _ => return 0.0 / 0.0

/-- The sum of two values, or the two texts in a row if one of them is a text. -/
def addValues (call : Caller) (v w : Value) : Run Value := do
  let p ← toPrimitive call false v
  let q ← toPrimitive call false w
  match p, q with
  | .string s, q => return .string (s ++ (← primitiveText q))
  | p, .string t => return .string ((← primitiveText p) ++ t)
  | .bigint m, .bigint n => return .bigint (m + n)
  | p, q => return .number ((← primitiveNumber p) + (← primitiveNumber q))

/-- The text of the elements of a list, with a separator between them. -/
def joinElements (call : Caller) (r : Ref) (length : Nat) (separator : String) : Run String := do
  let texts ← (List.range length).mapM fun i => do
    match ← getProperty call (.object r) (toString i) with
    | .undefined => return ""
    | .null => return ""
    | v => toText call v
  return separator.intercalate texts

/-- The length of a list. -/
def lengthOf (m : Machine) (r : Ref) : Nat :=
  match m.find? r "length" with
  | some (.data (.number x) _) => x.toUInt64.toNat
  | _ => 0

/-! ## Assignment -/

/-- Whether an object's property cannot be assigned. -/
def isFixed (m : Machine) (r : Ref) (key : String) : Bool :=
  let o := m.object r
  match o.own? key with
  | some (.accessor ..) => true
  | some (.data ..) => o.isCallable && ["length", "name", "prototype"].contains key
  | none =>
    match m.find? r key with
    | some (.accessor ..) => true
    | _ => false

/-- Assigns the length of a list. -/
def setLength (r : Ref) (v : Value) : Run Unit := do
  let x ← primitiveNumber v
  let n := x.toUInt32.toNat
  if Float.ofNat n == x then
    modify fun m => { m with heap := m.heap.modify r (·.cutTo n) }
  else raise .range "bad length for array"

/-- Assigns a property, `__proto__` like any other. What cannot be assigned is an error in the code of
a class, and else left. -/
def setProperty (strict : Bool) (target : Value) (key : String) (v : Value) : Run Unit := do
  match target with
  | .undefined => raise .type noObject
  | .null => raise .type noObject
  | .object r =>
    let m ← get
    if isFixed m r key then
      if strict then raise .type ("cannot set non-writable property: " ++ key)
    else if key == "length" && (m.object r).isArray then setLength r v
    else
      let enumerable := ((m.object r).own? key).elim true Property.isEnumerable
      define r key (.data v enumerable)
  | _ => if strict then raise .type ("cannot set non-writable property: " ++ key)

/-! ## JSON text -/

/-- A value after the conversion that it offers itself. -/
def offered (call : Caller) (key : String) (v : Value) : Run Value := do
  match v with
  | .object _ =>
    let f ← getProperty call v "toJSON"
    if (← get).isCallable f then callValue call f v [.string key] else return v
  | _ => return v

/-- The JSON text of a value; a value that has none gives `none`. -/
def stringify (call : Caller) : Nat → String → Value → Run (Option String)
  | limit, key, v => do
    match ← offered call key v with
    | .undefined => return none
    | .symbol _ => return none
    | .null => return some "null"
    | .bool b => return some (if b then "true" else "false")
    | .number x => return some (if x.isFinite then numberText x else "null")
    | .string s => return some (Json.quote s)
    | .bigint _ => raise .type "cannot serialize bigint to JSON"
    | .object r =>
      match limit with
      | 0 => raise .type "cyclic object value"
      | limit + 1 =>
        let m ← get
        let o := m.object r
        if o.isCallable then return none
        match o.kind with
        | .array =>
          let parts ← (List.range (lengthOf m r)).mapM fun i => do
            let e ← getProperty call (.object r) (toString i)
            return (← stringify call limit (toString i) e).getD "null"
          return some ("[" ++ ",".intercalate parts ++ "]")
        | _ =>
          let keys := (o.ordered.filter (·.2.isEnumerable)).map (·.1)
          let parts ← keys.filterMapM fun k => do
            let e ← getProperty call (.object r) k
            return (← stringify call limit k e).map fun s => Json.quote k ++ ":" ++ s
          return some ("\x7b" ++ ",".intercalate parts ++ "\x7d")

end Volley.Script
