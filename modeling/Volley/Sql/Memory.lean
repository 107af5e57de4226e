import Volley.Sql.Database
import Volley.Sql.Driver
import Volley.Url.Address

/-!
# Databases in memory

A driver that has small databases in memory and nothing else: at any other address there is no file
to open, no server that answers, or no driver for the scheme. Each pool has a database of its own,
which is what the statements that were executed on the pool made of an empty one. It is there to run
guns with; what holds of guns with other databases is told of every driver.
-/

namespace Volley.Sql.Memory

/-- The schemes of databases that are reached over a network. -/
def remoteSchemes : List String := ["postgres", "postgresql", "mysql", "mariadb"]

/-- Whether there is a database at an address. A server that cannot be reached is tried until the
time is over. -/
def reach (address : String) : Except DriverFault Unit :=
  match Url.Address.parse address with
  | .error e => .error (.configuration e.message)
  | .ok a =>
    if remoteSchemes.contains a.scheme then .error .poolTimedOut
    else if a.scheme != "sqlite" then
      .error (.configuration ("no driver found for URL scheme \"" ++ a.scheme ++ "\""))
    else if a.path == .plain ":memory:" then .ok ()
    else .error (.statement "(code: 14) unable to open database file")

/-- The number of connections that a pool was connected with. -/
def sizeOf (pool : Pool) : List Request → Nat
  | [] => 0
  | .connect _ size _ :: before => if before.length = pool.place then size else sizeOf pool before
  | _ :: before => sizeOf pool before

/-- The database of a pool. -/
def databaseOf (pool : Pool) : List Request → Database
  | [] => .empty
  | .execute p statement :: before =>
    let database := databaseOf pool before
    if p = pool then (database.execute statement).1 else database
  | _ :: before => databaseOf pool before

/-- The driver, where others hold so many connections of each pool. -/
def driver (held : Nat) : Driver where
  connect _ address _ _ := reach address
  acquire asked pool :=
    if pool.isClosed asked then .error .poolClosed
    else if sizeOf pool asked ≤ held then .error .poolTimedOut
    else .ok ()
  execute asked pool statement := ((databaseOf pool asked).execute statement).2

/-- Databases in memory, none of which is in use. -/
def fresh : Databases := ⟨driver 0, []⟩

end Volley.Sql.Memory
