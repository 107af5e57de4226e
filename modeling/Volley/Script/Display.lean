import Volley.Script.Access

/-!
# Values as they are shown

The text of a thrown value: strings in double quotes as they are, objects with one property a line,
lists in brackets, errors by name and message. `describe` is the text of an uncaught error, which
names the kind of error that the object was made as.
-/

namespace Volley.Script

/-- A number, with the sign of zero. -/
def shownNumber (x : Float) : String :=
  if x == 0.0 && x.toBits != 0 then "-0" else numberText x

def shownPrimitive : Value → String
  | .undefined => "undefined"
  | .null => "null"
  | .bool b => if b then "true" else "false"
  | .number x => shownNumber x
  | .string s => "\"" ++ s ++ "\""
  | .bigint n => integerText n ++ "n"
  | .symbol _ => "Symbol()"
  | .object _ => ""

def padLeft (width : Nat) (s : String) : String :=
  .ofList (List.replicate (width - s.length) ' ') ++ s

mutual

/-- An object with its properties, those that are around it in `outer`. -/
def shownObject (m : Machine) : Nat → Nat → List Ref → Ref → String
  | 0, _, _, _ => "[Cycle]"
  | limit + 1, indent, outer, r =>
    if outer.contains r then "[Cycle]"
    else
      let lines := shownProperties m limit indent (r :: outer) (m.object r).ordered
      let closing := String.ofList (List.replicate (indent - 4) ' ')
      "\x7b\n" ++ ",\n".intercalate lines ++ "\n" ++ closing ++ "\x7d"

def shownProperties (m : Machine) : Nat → Nat → List Ref → List (String × Property) → List String
  | _, _, _, [] => []
  | limit, indent, outer, (k, p) :: rest =>
    let text := match p with
      | .data (.object r) _ => shownObject m limit (indent + 4) outer r
      | .data v _ => shownPrimitive v
      | .accessor (some _) _ => "Getter"
      | .accessor none _ => "No Getter/Setter"
    (padLeft indent k ++ ": " ++ text) :: shownProperties m limit indent outer rest

end

/-- The text that a property holds, if the object or one of its parents has it. -/
def heldText (m : Machine) (r : Ref) (key : String) : Option String :=
  match m.find? r key with
  | some (.data (.string s) _) => some s
  | some (.data v _) => some (shownPrimitive v)
  | _ => none

def shownError (m : Machine) (r : Ref) : String :=
  let name := (heldText m r "name").getD "<error>"
  let message := (heldText m r "message").getD ""
  if name.isEmpty then message
  else if message.isEmpty then name
  else name ++ ": " ++ message

/-- A value inside a list, where a list shows its length only. -/
def shownElement (m : Machine) : Value → String
  | .object r =>
    let o := m.object r
    match o.kind with
    | .array => "Array(" ++ toString (lengthOf m r) ++ ")"
    | .error _ => shownError m r
    | _ => shownObject m m.heap.size 4 [] r
  | v => shownPrimitive v

/-- A value as it is shown. -/
def Machine.show (m : Machine) : Value → String
  | .object r =>
    let o := m.object r
    match o.kind with
    | .array =>
      if lengthOf m r = 0 then "[]"
      else
        let parts := (List.range (lengthOf m r)).map fun i =>
          match o.own? (toString i) with
          | some (.data v _) => shownElement m v
          | _ => "<empty>"
        "[ " ++ ", ".intercalate parts ++ " ]"
    | .error _ => shownError m r
    | _ => shownObject m m.heap.size 4 [] r
  | v => shownPrimitive v

/-- A kind of error with a message, which is left out when it is blank. -/
def errorText (kind : ErrorKind) (message : String) : String :=
  let text := Text.trimmed message
  if text.isEmpty then kind.title else kind.title ++ ": " ++ text

/-- The result of a computation, if no exception ends it; a crash goes on. -/
def attempt {α : Type} (x : Run α) : Run (Option α) :=
  tryCatch (do return some (← x)) fun
    | .crash => throw .crash
    | _ => return none

/-- The message of an error, if it is a text. The cause of the error is looked at after it. -/
def errorMessage (call : Caller) (r : Ref) : Run (Option String) := do
  let text ← match (← get).find? r "message" with
    | none => pure (Value.string "")
    | some p => readProperty call (.object r) (some p)
  match text with
  | .string s =>
    let _ ← readProperty call (.object r) ((← get).find? r "cause")
    return some s
  | _ => return none

/-- The text of a thrown value. -/
def describeThrown (call : Caller) (v : Value) : Run String := do
  let m ← get
  match v with
  | .object r =>
    match (m.object r).kind with
    | .error kind =>
      match ← attempt (errorMessage call r) with
      | some (some s) => return errorText kind s
      | _ => return (← get).show v
    | _ => return m.show v
  | _ => return m.show v

/-- The text of a nesting of calls that is too deep. -/
def tooDeepText : String := "RuntimeLimit: exceeded maximum call stack length"

/-- The text of an interrupt; a crash has none. -/
def describe (call : Caller) : Interrupt → Run String
  | .thrown v => describeThrown call v
  | .tooDeep => return tooDeepText
  | .crash => throw .crash

end Volley.Script
