import Volley.Shot
import Volley.Chance
import Volley.Http.Exchange
import Volley.Sql.Memory

/-!
# The world of a run

What shots act on: the result channel, the clock, the network, databases and chance. A shot is
opened and closed at readings of the clock, and closing it is the only way to the channel.
-/

namespace Volley

structure World where
  channel : Channel
  clock : Clock
  network : Http.Network
  databases : Sql.Databases
  chance : Chance

namespace World

/-- A world in which time stands still, nothing listens, and databases are in memory. -/
def quiet (capacity : Nat) : World :=
  ⟨.create capacity, .still ⟨0, 0⟩, .silent, Sql.Memory.fresh, .constant 0⟩

/-- The next reading of the clock. -/
def look (w : World) : Clock.Reading × World :=
  let (now, clock) := w.clock.look
  (now, { w with clock })

/-- Opens a shot. -/
def openShot (w : World) (marker : String) : Shot × World :=
  let (now, w) := w.look
  (Shot.begin marker now, w)

/-- Ends a shot. -/
def closeShot (w : World) (shot : Shot) (ending : Shot.Ending) : World :=
  let (now, w) := w.look
  { w with channel := shot.close ending now w.channel }

/-- Makes an HTTP request, which may take so long. -/
def exchange (w : World) (limit : Span) (method address : String)
    (headers : List (String × String)) (body : Option (List UInt8)) :
    Except Http.Failure Http.Response × World :=
  let (network, result) := w.network.exchange limit method address headers body
  (result, { w with network })

/-- Connects a pool to a database. -/
def connect (w : World) (address : String) (size : Nat) (timeout : Span) :
    Except Sql.DriverFault Sql.Pool × World :=
  let (pool, databases) := w.databases.connect address size timeout
  (pool, { w with databases })

/-- Runs a statement on a connection of a pool. -/
def fetchAll (w : World) (pool : Sql.Pool) (statement : String) :
    Except Sql.DriverFault Nat × World :=
  let (rows, databases) := w.databases.fetchAll pool statement
  (rows, { w with databases })

def closePool (w : World) (pool : Sql.Pool) : World :=
  { w with databases := w.databases.close pool }

/-- A draw from a range. -/
def draw (w : World) (low high : Nat) : Nat × World :=
  let (n, chance) := w.chance.between low high
  (n, { w with chance })

end World

end Volley
