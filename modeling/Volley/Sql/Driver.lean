import Volley.Sql.Fault
import Volley.Time.Basic

/-!
# Database drivers

A driver connects pools and hands out their connections, on which statements are executed. What it
answers may go by all the requests before. So a driver stands for any database, for its network and
for whatever others do to both: the answers of any run are those of some driver. The requests stay
on record, so that it can be told which statements were executed.
-/

namespace Volley.Sql

/-- A pool of connections, by the number of requests that came before it was connected. -/
structure Pool where
  place : Nat
  deriving DecidableEq, Repr

/-- What is asked of a driver. -/
inductive Request where
  | connect (address : String) (size : Nat) (timeout : Span)
  /-- Asks for a connection of a pool. -/
  | acquire (pool : Pool)
  /-- Runs a statement on a connection of a pool. -/
  | execute (pool : Pool) (statement : String)
  | close (pool : Pool)
  deriving DecidableEq, Repr

/-- Whether a pool is closed after requests, of which the latest is the first: it was closed, and
that was after it was connected. -/
def Pool.isClosed (p : Pool) : List Request → Bool
  | [] => false
  | .close q :: before => q = p || p.isClosed before
  | .connect .. :: before => before.length ≠ p.place && p.isClosed before
  | _ :: before => p.isClosed before

/-- What a driver answers after the requests before, of which the latest is the first. -/
structure Driver where
  connect : List Request → (address : String) → (size : Nat) → (timeout : Span) →
    Except DriverFault Unit
  acquire : List Request → Pool → Except DriverFault Unit
  /-- The number of rows. -/
  execute : List Request → Pool → (statement : String) → Except DriverFault Nat

/-- What the documentation of pools promises: a closed pool hands out no connection, ever, and says
so; nothing else says that a pool is closed. -/
structure Driver.TellsClosed (d : Driver) : Prop where
  acquire : ∀ asked pool, d.acquire asked pool = .error .poolClosed ↔ pool.isClosed asked = true
  execute : ∀ asked pool statement, d.execute asked pool statement ≠ .error .poolClosed

/-- A driver, and what it was asked so far, the latest first. -/
structure Databases where
  driver : Driver
  asked : List Request

namespace Databases

/-- Puts a request on record. -/
def ask (d : Databases) (r : Request) : Databases := { d with asked := r :: d.asked }

/-- Connects a pool to the database at an address. -/
def connect (d : Databases) (address : String) (size : Nat) (timeout : Span) :
    Except DriverFault Pool × Databases :=
  ((d.driver.connect d.asked address size timeout).map fun _ => ⟨d.asked.length⟩,
    d.ask (.connect address size timeout))

/-- Runs a statement on a connection of a pool, if the pool hands one out; the number of rows. -/
def fetchAll (d : Databases) (pool : Pool) (statement : String) :
    Except DriverFault Nat × Databases :=
  let asked := d.ask (.acquire pool)
  match d.driver.acquire d.asked pool with
  | .error e => (.error e, asked)
  | .ok _ =>
    (d.driver.execute asked.asked pool statement, asked.ask (.execute pool statement))

/-- Closes a pool. -/
def close (d : Databases) (pool : Pool) : Databases := d.ask (.close pool)

end Databases

end Volley.Sql
