import TripletGeometry.Coordinates

/-!
Named coordinates that may be shared. A name is bound to a cell, and what is written through one
name, or frozen, shows through every other name of the cell. A name is bound to an existing cell
by sharing it and by slicing its whole range; everything else makes a new cell.
-/
namespace TripletGeometry

structure Store (α : Type) where
  cells : List (Coordinates α)
  /-- The cell of each name; the first entry of a name counts. -/
  bindings : List (String × Nat)

inductive Action (α : Type) where
  /-- Binds the name to coordinates to be filled in, with at most `cap` ordinates if given. -/
  | make (name : String) (count dimension : Int) (cap : Option Int)
  | load (name : String) (given : Except Failure (Coordinates α))
  /-- Binds a second name to the cell, which is frozen by that. -/
  | share (name target : String)
  | slice (name : String) (start stop : Int) (target : String)
  | set (name : String) (index ordinate : Int) (given : Except Failure α)
  | setColumn (name : String) (ordinate : Int) (column : Coordinates.Column α)
  | freeze (name : String)
  | get (name : String) (index ordinate : Int)
  | coordinate (name : String) (index : Int)
  | xy (name : String)
  | describe (name : String)
  | look (name : String)

inductive Observation (α : Type) where
  | nothing
  | ordinate (value : α)
  | row (values : List α)
  | rows (values : List (List α))
  | summary (text : String) (size : Nat)
  /-- Is the result the very thing that the action was done to? -/
  | identity (same : Bool)

structure Reply (α : Type) where
  observation : Observation α
  coordinates : Coordinates α

namespace Store

variable {α : Type}

def empty : Store α := ⟨[], []⟩

def cell? (s : Store α) (name : String) : Option Nat := s.bindings.lookup name

def find? (s : Store α) (name : String) : Option (Coordinates α) :=
  (s.cell? name).bind fun i => s.cells[i]?

def bind (s : Store α) (name : String) (i : Nat) : Store α :=
  { s with bindings := (name, i) :: s.bindings }

def allocate (s : Store α) (name : String) (c : Coordinates α) : Store α :=
  ⟨s.cells ++ [c], (name, s.cells.length) :: s.bindings⟩

def write (s : Store α) (i : Nat) (c : Coordinates α) : Store α :=
  { s with cells := s.cells.set i c }

def access (s : Store α) (name : String) : Except Failure (Nat × Coordinates α) :=
  match s.cell? name with
  | none => .error (.unnamed name)
  | some i => match s.cells[i]? with
    | none => .error (.unnamed name)
    | some c => .ok (i, c)

def observe (s : Store α) (name : String)
    (look : Coordinates α → Except Failure (Observation α)) :
    Except Failure (Store α × Reply α) := do
  let (_, c) ← s.access name
  let observation ← look c
  return (s, ⟨observation, c⟩)

def change (s : Store α) (name : String) (observation : Observation α)
    (f : Coordinates α → Except Failure (Coordinates α)) : Except Failure (Store α × Reply α) := do
  let (i, c) ← s.access name
  let c ← f c
  return (s.write i c, ⟨observation, c⟩)

variable [Ordinate α]

def perform (memory : Option Nat) (s : Store α) : Action α → Except Failure (Store α × Reply α)
  | .make name count dimension cap => do
    let c ← Coordinates.make memory count (cap.elim dimension (min dimension))
    return (s.allocate name c, ⟨.nothing, c⟩)
  | .load name given => do
    let c ← given
    return (s.allocate name c.freeze, ⟨.nothing, c.freeze⟩)
  | .share name target => do
    let (i, c) ← s.access name
    return ((s.write i c.freeze).bind target i, ⟨.nothing, c.freeze⟩)
  | .slice name start stop target => do
    let (i, c) ← s.access name
    let part := c.slice start stop
    if c.isWhole start stop then return (s.bind target i, ⟨.identity true, part⟩)
    else return (s.allocate target part, ⟨.identity false, part⟩)
  | .set name index ordinate given => s.change name .nothing (·.set index ordinate given)
  | .setColumn name ordinate column => s.change name .nothing fun c =>
    (c.setColumn ordinate column).2.elim (.ok (c.setColumn ordinate column).1) .error
  | .freeze name => s.change name (.identity true) (fun c => .ok c.freeze)
  | .get name index ordinate => s.observe name fun c => (c.get index ordinate).map .ordinate
  | .coordinate name index => s.observe name fun c => (c.coordinate index).map .row
  | .xy name => s.observe name fun c => .ok (.rows c.xy)
  | .describe name => s.observe name fun c => .ok (.summary c.summary c.size)
  | .look name => s.observe name fun _ => .ok .nothing

omit [Ordinate α] in
/-- What an action that fails leaves behind. Of a column the ordinates are written that came before
what is none; nothing else is done by halves. -/
def leftover (s : Store α) : Action α → Store α
  | .setColumn name ordinate column => match s.access name with
    | .error _ => s
    | .ok (i, c) => s.write i (c.setColumn ordinate column).1
  | _ => s

def step (memory : Option Nat) (s : Store α) (action : Action α) :
    Store α × Except Failure (Reply α) :=
  match s.perform memory action with
  | .ok (next, reply) => (next, .ok reply)
  | .error failure => (s.leftover action, .error failure)

def run (memory : Option Nat) (s : Store α) :
    List (Action α) → Store α × List (Except Failure (Reply α))
  | [] => (s, [])
  | action :: rest =>
    let (after, result) := s.step memory action
    let (last, results) := after.run memory rest
    (last, result :: results)

end Store

end TripletGeometry
