import Volley.Fault

/-!
# Database faults

What a database refuses, in its own words, and what a refused statement does to the record of a
shot.
-/

namespace Volley.Sql

inductive DriverFault where
  | poolTimedOut
  | poolClosed
  | decode (text : String)
  | columnDecode (index text : String)
  | columnNotFound (name : String)
  | columnIndex (index length : Nat)
  | typeNotFound (name : String)
  | rowNotFound
  | protocol (text : String)
  | configuration (text : String)
  | workerCrashed
  | communication (text : String)
  | encode (text : String)
  /-- The database refused the statement. -/
  | statement (text : String)
  /-- Anything else, in the driver's words. -/
  | other (text : String)
  deriving DecidableEq, Repr

namespace DriverFault

def message : DriverFault → String
  | poolTimedOut => "pool timed out while waiting for an open connection"
  | poolClosed => "attempted to acquire a connection on a closed pool"
  | decode t => "error occurred while decoding: " ++ t
  | columnDecode i t => "error occurred while decoding column " ++ i ++ ": " ++ t
  | columnNotFound n => "no column found for name: " ++ n
  | columnIndex i n =>
    "column index out of bounds: the len is " ++ toString n ++ ", but the index is " ++ toString i
  | typeNotFound n => "type named " ++ n ++ " not found"
  | rowNotFound => "no rows returned by a query that expected to return at least one row"
  | protocol t => "encountered unexpected or invalid data: " ++ t
  | configuration t => "error with configuration: " ++ t
  | workerCrashed => "attempted to communicate with a crashed background worker"
  | communication t => "error communicating with database: " ++ t
  | encode t => "error occurred while encoding a value: " ++ t
  | statement t => "error returned from database: " ++ t
  | other t => t

end DriverFault

/-- How a refusal shows in a record.
mirrors gun/sql:16-25 (`SqlOutcome`) -/
inductive Effect where
  /-- No connection became free in time. -/
  | timedOut
  /-- The pool was closed already; the codes stay. -/
  | resourceClosed
  /-- Rows came that could not be read. -/
  | warning
  | failed
  deriving DecidableEq, Repr

def Effect.name : Effect → String
  | timedOut => "TimedOut"
  | resourceClosed => "ResourceClosed"
  | warning => "Warning"
  | failed => "Failed"

/-- mirrors gun/sql:28-39 (`classify_sql_error`) -/
def DriverFault.effect : DriverFault → Effect
  | poolTimedOut => .timedOut
  | poolClosed => .resourceClosed
  | decode _ | columnDecode .. | columnNotFound _ | columnIndex .. | typeNotFound _ => .warning
  | _ => .failed

def DriverFault.toFault (e : DriverFault) : Volley.Fault := ⟨.database, e.message⟩

end Volley.Sql
