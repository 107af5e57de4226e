/-!
# JSON values

An object keeps its members in document order, repeated keys included; a look-up sees the last
member with a key. `canonical` is the form that is printed: keys in order, each once.
-/

namespace Volley

/-- A number is an exact integer between `-2^63` and `2^64 - 1`, or a double. -/
inductive Json.Number where
  | integer (i : Int)
  | real (x : Float)
  deriving BEq, Repr, Inhabited

inductive Json where
  | null
  | bool (b : Bool)
  | number (n : Json.Number)
  | string (s : String)
  | array (elements : List Json)
  | object (members : List (String × Json))
  deriving BEq, Repr, Inhabited

namespace Json

def ofNat (n : Nat) : Json := .number (.integer n)

def ofInt (i : Int) : Json := .number (.integer i)

def ofReal (x : Float) : Json := .number (.real x)

def ofStrings (ss : List String) : Json := .array (ss.map .string)

/-- The last entry with a key. -/
def lookup? {α : Type} (key : String) : List (String × α) → Option α
  | [] => none
  | (k, v) :: r => match lookup? key r with
    | some w => some w
    | none => if k = key then some v else none

/-- A member of an object. -/
def get? (key : String) : Json → Option Json
  | .object members => lookup? key members
  | _ => none

/-- The integer in the range of unsigned 64-bit words. -/
def Number.asNat? : Number → Option Nat
  | .integer i => if 0 ≤ i then some i.toNat else none
  | .real _ => none

/-- The integer in the range of signed 64-bit words. -/
def Number.asInt? : Number → Option Int
  | .integer i => if i < 0x8000000000000000 then some i else none
  | .real _ => none

def Number.toReal : Number → Float
  | .integer i => if i < 0 then -(Float.ofNat i.natAbs) else Float.ofNat i.natAbs
  | .real x => x

def asNat? : Json → Option Nat
  | .number n => n.asNat?
  | _ => none

def asString? : Json → Option String
  | .string s => some s
  | _ => none

/-- Puts an entry into a list sorted by key, in place of one with the same key. -/
def insertSorted {α : Type} (key : String) (value : α) : List (String × α) → List (String × α)
  | [] => [(key, value)]
  | (k, v) :: r =>
    if key < k then (key, value) :: (k, v) :: r
    else if k = key then (key, value) :: r
    else (k, v) :: insertSorted key value r

section
variable {α : Type} {key : String} {value : α} {entries : List (String × α)}

/-- The keys are in order, each once. -/
def Ascending (entries : List (String × α)) : Prop := entries.Pairwise fun e f => e.1 < f.1

theorem mem_insertSorted {e : String × α} (h : e ∈ insertSorted key value entries) :
    e = (key, value) ∨ e ∈ entries := by
  induction entries with
  | nil => exact .inl (List.mem_singleton.mp h)
  | cons first rest ih =>
    obtain ⟨k, v⟩ := first
    rw [insertSorted] at h
    split at h
    · exact List.mem_cons.mp h
    · split at h
      · exact (List.mem_cons.mp h).imp_right (List.mem_cons_of_mem _)
      · rcases List.mem_cons.mp h with rfl | h
        · exact .inr List.mem_cons_self
        · exact (ih h).imp_right (List.mem_cons_of_mem _)

theorem ascending_insertSorted (h : Ascending entries) :
    Ascending (insertSorted key value entries) := by
  induction entries with
  | nil => exact List.pairwise_singleton _ _
  | cons first rest ih =>
    obtain ⟨k, v⟩ := first
    obtain ⟨hfirst, hrest⟩ := List.pairwise_cons.mp h
    rw [insertSorted]
    split
    · rename_i hlt
      refine List.pairwise_cons.mpr ⟨fun e he => ?_, h⟩
      rcases List.mem_cons.mp he with rfl | he
      · exact hlt
      · exact String.lt_trans hlt (hfirst e he)
    · split
      · rename_i heq
        exact List.pairwise_cons.mpr ⟨fun e he => heq ▸ hfirst e he, hrest⟩
      · rename_i hge hne
        have hlt : k < key := Std.lt_of_le_of_ne (String.not_lt.mp hge) hne
        refine List.pairwise_cons.mpr ⟨fun e he => ?_, ih hrest⟩
        rcases mem_insertSorted he with rfl | he
        · exact hlt
        · exact hfirst e he

end

/-- The entries sorted by key; of those with one key the last. -/
def sorted {α : Type} (entries : List (String × α)) : List (String × α) :=
  entries.foldl (fun acc (k, v) => insertSorted k v acc) []

mutual

/-- The same value with every object's members sorted and each key once. -/
def canonical : Json → Json
  | .array elements => .array (canonicalList elements)
  | .object members => .object (sorted (canonicalMembers members))
  | j => j

def canonicalList : List Json → List Json
  | [] => []
  | j :: r => canonical j :: canonicalList r

def canonicalMembers : List (String × Json) → List (String × Json)
  | [] => []
  | (k, j) :: r => (k, canonical j) :: canonicalMembers r

end

end Json

end Volley
