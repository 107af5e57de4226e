import Volley.Sql.Token
import Volley.Sql.Fault
import Volley.Text.Split

/-!
# A small database

Tables with typed columns and rows, and the statements `CREATE TABLE`, `INSERT INTO … VALUES` and
`SELECT` over constants or one table, joined by `UNION ALL`. Executing a statement gives the number
of rows that come back. A column of a date type cannot be read once it holds a value.

Limitations: any other statement is a syntax error, `UPDATE` and `DELETE` among them.
-/

namespace Volley.Sql

structure Column where
  name : String
  type : String
  deriving DecidableEq, Repr, Inhabited

structure Table where
  name : String
  columns : List Column
  rows : Nat
  deriving DecidableEq, Repr, Inhabited

structure Database where
  tables : List Table
  deriving DecidableEq, Repr, Inhabited

namespace Database

def empty : Database := ⟨[]⟩

def table? (d : Database) (name : String) : Option Table := d.tables.find? (·.name == name)

def refuse {α : Type} (text : String) : Except DriverFault α := .error (.statement text)

def syntaxFault {α : Type} (ts : List Token) : Except DriverFault α :=
  match ts with
  | .word w :: _ => refuse ("(code: 1) near \"" ++ w ++ "\": syntax error")
  | _ => refuse "(code: 1) incomplete input"

/-- The parts of a token list between commas outside parentheses. -/
def listParts (depth : Nat) : List Token → List (List Token)
  | [] => [[]]
  | t :: r =>
    if t == .mark ',' && depth == 0 then [] :: listParts 0 r
    else
      let depth := if t == .mark '(' then depth + 1 else if t == .mark ')' then depth - 1 else depth
      match listParts depth r with
      | [] => [[t]]
      | p :: ps => (t :: p) :: ps

/-- A constant, or several joined by operators. -/
def isConstant (ts : List Token) : Bool :=
  !ts.isEmpty && ts.all fun
    | .number _ | .text _ => true
    | .word w => w == "null" || w == "as"
    | .mark c => ['+', '-', '*', '/', '(', ')', '|', '%'].contains c
    | .broken => false

/-- Whether a condition over constants holds. -/
def condition? : List Token → Option Bool
  | [.number n] => some (n.toList.any fun c => c != '0' && c != '.')
  | [a, .mark '=', b] => some (a == b)
  | _ => none

/-- What `SELECT` asks for: the columns, the table, the condition. -/
structure Query where
  columns : List (List Token)
  table : Option (List Token)
  condition : Option (List Token)

def isWord (name : String) (t : Token) : Bool := t == .word name

def Query.ofTokens (ts : List Token) : Query :=
  let (front, condition) := match Text.cut? (.word "where") ts with
    | some (f, c) => (f, some c)
    | none => (ts, none)
  let (columns, table) := match Text.cut? (.word "from") front with
    | some (c, t) => (c, some t)
    | none => (front, none)
  ⟨listParts 0 columns, table, condition⟩

def isDateType (type : String) : Bool := ["date", "datetime", "time", "timestamp"].contains type

/-- The number of rows that a query over constants gives. -/
def constantRows (q : Query) : Except DriverFault Nat :=
  if !q.columns.all isConstant then
    match (q.columns.find? (!isConstant ·)).getD [] with
    | .word w :: _ => refuse ("(code: 1) no such column: " ++ w)
    | ts => syntaxFault ts
  else match q.condition with
    | none => .ok 1
    | some c =>
      match condition? c with
      | some true => .ok 1
      | some false => .ok 0
      | none => syntaxFault c

/-- The number of rows that a query over a table gives. -/
def tableRows (t : Table) (q : Query) : Except DriverFault Nat := do
  let rows ← match q.condition with
    | none => pure t.rows
    | some c =>
      match condition? c with
      | some true => pure t.rows
      | some false => pure 0
      | none => syntaxFault c
  let counted (ts : List Token) : Bool := ts.take 2 == [.word "count", .mark '(']
  if q.columns.all counted then return 1
  let picked ← q.columns.mapM fun
    | [.mark '*'] => .ok t.columns
    | [.word w] =>
      match t.columns.find? (·.name == w) with
      | some c => .ok [c]
      | none => refuse ("(code: 1) no such column: " ++ w)
    | ts => if isConstant ts then .ok [] else syntaxFault ts
  if 0 < rows && picked.flatten.any fun c => isDateType c.type then
    throw (.columnDecode "0" "Any driver does not support this type")
  return rows

/-- The number of rows of one `SELECT`, after its keyword. -/
def select (d : Database) (ts : List Token) : Except DriverFault Nat :=
  let q := Query.ofTokens ts
  match q.table with
  | none => constantRows q
  | some [.word name] =>
    match d.table? name with
    | some t => tableRows t q
    | none => refuse ("(code: 1) no such table: " ++ name)
  | some ts => syntaxFault ts

/-- The parts of a query between `UNION ALL`. -/
def unionParts : List Token → List (List Token)
  | [] => [[]]
  | .word "union" :: .word "all" :: r => [] :: unionParts r
  | t :: r =>
    match unionParts r with
    | [] => [[t]]
    | p :: ps => (t :: p) :: ps

def selects (d : Database) (ts : List Token) : Except DriverFault Nat := do
  let counts ← (unionParts ts).mapM fun
    | .word "select" :: r => d.select r
    | r => syntaxFault r
  return counts.foldl (· + ·) 0

/-- The tokens inside one pair of parentheses. -/
def inside (ts : List Token) : Option (List Token) :=
  match ts with
  | .mark '(' :: r => if r.getLast? = some (.mark ')') then some r.dropLast else none
  | _ => none

/-- Column definitions: a name and perhaps a type. -/
def columns? (ts : List Token) : Option (List Column) :=
  (listParts 0 ts).mapM fun
    | .word n :: .word t :: _ => some ⟨n, t⟩
    | [.word n] => some ⟨n, ""⟩
    | _ => none

def create (d : Database) (name : String) (ts : List Token) : Except DriverFault (Database × Nat) :=
  match (inside ts).bind columns? with
  | none => syntaxFault ts
  | some columns =>
    if (d.table? name).isSome then refuse ("(code: 1) table " ++ name ++ " already exists")
    else .ok (⟨d.tables ++ [⟨name, columns, 0⟩]⟩, 0)

/-- Puts rows into a table; each has a value for every column. -/
def insert (d : Database) (name : String) (ts : List Token) : Except DriverFault (Database × Nat) :=
  do
  match d.table? name with
  | none => refuse ("(code: 1) no such table: " ++ name)
  | some t =>
    for row in listParts 0 ts do
      match inside row with
      | none => syntaxFault row
      | some values =>
        let count := (listParts 0 values).length
        if count != t.columns.length then
          refuse ("(code: 1) table " ++ name ++ " has " ++ toString t.columns.length ++
            " columns but " ++ toString count ++ " values were supplied")
    let grown := { t with rows := t.rows + (listParts 0 ts).length }
    return (⟨d.tables.map fun u => if u.name == name then grown else u⟩, 0)

/-- Runs one statement. -/
def step (d : Database) (ts : List Token) : Except DriverFault (Database × Nat) :=
  match ts with
  | [] => .ok (d, 0)
  | .word "select" :: _ => (d.selects ts).map fun n => (d, n)
  | .word "create" :: .word "table" :: .word name :: r => d.create name r
  | .word "insert" :: .word "into" :: .word name :: .word "values" :: r => d.insert name r
  | ts => syntaxFault ts

/-- Runs the statements of a text; the rows of all of them. -/
def execute (d : Database) (sql : String) : Database × Except DriverFault Nat :=
  (Text.fields (.mark ';') (tokens sql)).foldl (fun (d, r) ts =>
    match r with
    | .error e => (d, .error e)
    | .ok n =>
      match d.step ts with
      | .ok (d, m) => (d, .ok (n + m))
      | .error e => (d, .error e)) (d, .ok 0)

end Database

end Volley.Sql
