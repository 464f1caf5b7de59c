import TripletGeometry.Extent
import TripletGeometry.Ordinate

/-!
Coordinates in order, each with the same number of ordinates. Positions may be counted from the
end by negative numbers. Frozen coordinates refuse every change; a part of a sequence is frozen,
and the whole range of a sequence is the sequence itself.
-/
namespace TripletGeometry

structure Coordinates (α : Type) where
  width : Nat
  rows : List (List α)
  frozen : Bool
  uniform : ∀ row ∈ rows, row.length = width

/-- A position counted from the start or, if negative, from the end. -/
def position? (index : Int) (size : Nat) : Option Nat :=
  if 0 ≤ index ∧ index < size then some index.toNat
  else if index < 0 ∧ 0 ≤ index + size then some (index + size).toNat
  else none

def clampPosition (index : Int) (size : Nat) : Nat :=
  if index < 0 then (index + size).toNat else min index.toNat size

/-- Exactly `width` ordinates: further ones are cut, absent ones are missing. -/
def fitRow {α : Type} [Ordinate α] (width : Nat) (row : List α) : List α :=
  (row ++ List.replicate width Ordinate.missing).take width

theorem length_fitRow {α : Type} [Ordinate α] (width : Nat) (row : List α) :
    (fitRow width row).length = width := by
  simp [fitRow]

theorem fitRow_of_length {α : Type} [Ordinate α] {width : Nat} {row : List α}
    (h : row.length = width) : fitRow width row = row := by
  simp [fitRow, ← h]

namespace Coordinates

variable {α : Type}

theorem ext {a b : Coordinates α} (width : a.width = b.width) (rows : a.rows = b.rows)
    (frozen : a.frozen = b.frozen) : a = b := by
  cases a
  cases b
  cases width
  cases rows
  cases frozen
  rfl

def size (c : Coordinates α) : Nat := c.rows.length

def freeze (c : Coordinates α) : Coordinates α := { c with frozen := true }

def ofRows [Ordinate α] (width : Nat) (rows : List (List α)) : Coordinates α where
  width := width
  rows := rows.map (fitRow width)
  frozen := true
  uniform := by
    intro row h
    obtain ⟨source, _, rfl⟩ := List.mem_map.mp h
    exact length_fitRow width source

/-- The coordinates of a table, whose rows have to be equally long. Without rows there is nothing to
tell how long they are. -/
def ofTable [Ordinate α] (rows : List (List α)) : Except Failure (Coordinates α) :=
  match rows with
  | [] => .error .noSecondAxis
  | first :: rest =>
    if rest.any (·.length ≠ first.length) then .error (.unevenRows rows.length)
    else .ok (ofRows first.length rows)

def ofTableOfWidth [Ordinate α] (width : Nat) (rows : List (List α)) :
    Except Failure (Coordinates α) :=
  if rows.isEmpty then .ok (ofRows width [])
  else (ofTable rows).bind fun c =>
    if c.width = width then .ok c
    else .error (.misshapen (c.width * rows.length) rows.length width)

def blank [Ordinate α] (count width : Nat) : Coordinates α where
  width := width
  rows := List.replicate count (List.replicate width Ordinate.missing)
  frozen := false
  uniform := by
    intro row h
    rw [(List.mem_replicate.mp h).2]
    simp

def make [Ordinate α] (memory : Option Nat) (count width : Int) : Except Failure (Coordinates α) :=
  (Extent.check memory count width).map fun () => blank count.toNat width.toNat

/-- Whoever keeps the coordinates may be able to hold fewer ordinates in each than asked for. -/
def makeCapped [Ordinate α] (memory : Option Nat) (cap count dimension : Int) :
    Except Failure (Coordinates α) :=
  make memory count (min dimension cap)

/-- Coordinates are made just if the grid passes, and then every ordinate is missing. -/
theorem make_eq_ok_iff [Ordinate α] {memory : Option Nat} {count width : Int}
    {c : Coordinates α} : make memory count width = .ok c ↔
      Extent.check memory count width = .ok () ∧ c = blank count.toNat width.toNat := by
  unfold make
  cases Extent.check memory count width with
  | error failure => simp [Except.map]
  | ok passed => simp [Except.map, eq_comm]

/-- The width of coordinates made from others. As these are at hand only a negative cap is at
fault. -/
def cappedWidth (cap : Int) (width : Nat) : Except Failure Nat :=
  if 0 ≤ cap then .ok (min cap.toNat width)
  else .error (if IsWord cap then .negativeExtent else .extentBeyondWord)

/-- A position has to be a word. What is none may still be an unsigned word, which is refused for
another reason. -/
def checkPosition (index : Int) : Except Failure Unit :=
  if IsWord index then .ok ()
  else if 0 ≤ index ∧ index < 2 * wordLimit then .error .beyondWord
  else .error .notAPosition

def rowPosition (c : Coordinates α) (index : Int) : Except Failure Nat :=
  match position? index c.size with
  | some i => .ok i
  | none => .error (.outOfBounds index 0 c.size)

def columnPosition (c : Coordinates α) (ordinate : Int) : Except Failure Nat :=
  match position? ordinate c.width with
  | some j => .ok j
  | none => .error (.outOfBounds ordinate 1 c.width)

def coordinate (c : Coordinates α) (index : Int) : Except Failure (List α) := do
  checkPosition index
  let i ← c.rowPosition index
  return c.rows.getD i []

def place (c : Coordinates α) (index ordinate : Int) : Except Failure (Nat × Nat) := do
  checkPosition index
  checkPosition ordinate
  let i ← c.rowPosition index
  let j ← c.columnPosition ordinate
  return (i, j)

def get [Ordinate α] (c : Coordinates α) (index ordinate : Int) : Except Failure α := do
  let (i, j) ← c.place index ordinate
  return (c.rows.getD i []).getD j Ordinate.missing

def column [Ordinate α] (c : Coordinates α) (ordinate : Int) : Except Failure (List α) :=
  (c.columnPosition ordinate).map fun j => c.rows.map fun row => row.getD j Ordinate.missing

def xy (c : Coordinates α) : List (List α) := c.rows.map (·.take 2)

def setRows (c : Coordinates α) (change : Nat → List α → List α)
    (keeps : ∀ i row, (change i row).length = row.length) : Coordinates α where
  width := c.width
  rows := c.rows.mapIdx change
  frozen := c.frozen
  uniform := by
    intro row h
    obtain ⟨i, hi, rfl⟩ := List.mem_mapIdx.mp h
    rw [keeps]
    exact c.uniform _ (List.getElem_mem hi)

/-- What is given for an ordinate may be none; this comes out when its place is known. -/
def set (c : Coordinates α) (index ordinate : Int) (given : Except Failure α) :
    Except Failure (Coordinates α) :=
  if c.frozen then .error .frozen
  else do
    let (i, j) ← c.place index ordinate
    let value ← given
    return c.setRows (fun k row => if k = i then row.set j value else row) (by
      intro k row
      split <;> simp)

inductive Column (α : Type) where
  | every (given : Except Failure α)
  | each (given : List (Except Failure α))

/-- The ordinates before the first that is none, and why that is none. -/
def leading : List (Except Failure α) → List α × Option Failure
  | [] => ([], none)
  | .ok value :: rest => (value :: (leading rest).1, (leading rest).2)
  | .error failure :: _ => ([], some failure)

/-- The ordinates that get into the first coordinates of so many, and why they do not get into all
of them. As many as there are coordinates are written one after the other; other lists are looked
through before, and a single ordinate serves every coordinate. -/
def Column.spread (column : Column α) (size : Nat) : List α × Option Failure :=
  match column with
  | .every (.ok value) => (List.replicate size value, none)
  | .every (.error failure) => ([], some failure)
  | .each given =>
    if given.length = size then leading given
    else match leading given with
      | (_, some failure) => ([], some failure)
      | ([value], none) => (List.replicate size value, none)
      | (_, none) => ([], some (.lengthMismatch given.length size))

def fill (c : Coordinates α) (j : Nat) (values : List α) : Coordinates α :=
  c.setRows
    (fun i row => match values[i]? with
      | some value => row.set j value
      | none => row)
    (by
      intro i row
      split <;> simp)

/-- The coordinates with the column filled in as far as it gets, and why it gets no further. -/
def setColumn (c : Coordinates α) (ordinate : Int) (column : Column α) :
    Coordinates α × Option Failure :=
  if c.frozen then (c, some .frozen)
  else match (checkPosition ordinate).bind fun () => c.columnPosition ordinate with
    | .error failure => (c, some failure)
    | .ok j => (c.fill j (column.spread c.size).1, (column.spread c.size).2)

def part (c : Coordinates α) (start stop : Nat) : Coordinates α where
  width := c.width
  rows := (c.rows.drop start).take (stop - start)
  frozen := true
  uniform := fun row h => c.uniform row (List.mem_of_mem_drop (List.mem_of_mem_take h))

def isWhole (c : Coordinates α) (start stop : Int) : Bool := start = 0 && stop = c.size

def slice (c : Coordinates α) (start stop : Int) : Coordinates α :=
  if c.isWhole start stop then c
  else c.part (clampPosition start c.size) (clampPosition stop c.size)

/-- The rows of a slice are the same whether the whole range is recognised or not. -/
theorem rows_slice (c : Coordinates α) (start stop : Int) :
    (c.slice start stop).rows =
      (c.rows.drop (clampPosition start c.size)).take
        (clampPosition stop c.size - clampPosition start c.size) := by
  unfold slice
  split
  · rename_i h
    simp only [isWhole, Bool.and_eq_true, decide_eq_true_eq] at h
    have nonneg : ¬ (c.rows.length : Int) < 0 := by omega
    simp [h.1, h.2, clampPosition, size, nonneg]
  · rfl

theorem width_slice (c : Coordinates α) (start stop : Int) :
    (c.slice start stop).width = c.width := by
  unfold slice
  split <;> rfl

def summary (c : Coordinates α) : String :=
  s!"CoordinateSequence(size={c.size}, dimension={c.width})"

end Coordinates

end TripletGeometry
