import TripletGeometry.Directory.Check
import TripletGeometry.Geometry
import TripletGeometry.Ring

/-!
A source of geometries: the directory of an encoding together with its coordinates. Each reader
here turns the one element at an index into a shape or a ring. The checks come in a fixed order:
the bounds, the two codes, then the coordinates.
-/
namespace TripletGeometry

structure Source (α : Type) where
  directory : Directory
  coordinates : Coordinates α
  /-- The most ordinates that coordinates made while reading can hold. -/
  cap : Int

namespace Source

variable {α : Type}

def elementCoordinates (s : Source α) (index : Nat) : Coordinates α :=
  s.coordinates.slice (s.directory.startAt index) (s.directory.startAt (index + 1))

def pointAt (s : Source α) (index : Nat) : Except Failure (Shape α) := do
  let kind := Kind.point.name
  s.directory.checkBounds index kind
  s.directory.checkCode index [ElementCode.point] kind
  s.directory.checkInterpretation index [Interpretation.simple] kind
  let c := s.elementCoordinates index
  s.directory.checkCount index c.size kind none (some 1)
  return .point c

/-- The interpretation of the element is the number of its points. -/
def multiPointAt (s : Source α) (index : Nat) : Except Failure (Shape α) := do
  let kind := Kind.multiPoint.name
  s.directory.checkBounds index kind
  s.directory.checkCode index [ElementCode.point] kind
  s.directory.checkCluster index kind
  let c := s.elementCoordinates index
  s.directory.checkCount index c.size kind none
    (some (s.directory.entryAt index).interpretation)
  return .multiPoint c

def lineAt (s : Source α) (index : Nat) : Except Failure (Coordinates α) := do
  let kind := Kind.lineString.name
  s.directory.checkBounds index kind
  s.directory.checkCode index [ElementCode.line] kind
  s.directory.checkInterpretation index [Interpretation.simple] kind
  let c := s.elementCoordinates index
  s.directory.checkCount index c.size kind (some 2) none
  return c

def checkRing (s : Source α) (index : Nat) (allowed : List Int) : Except Failure Unit := do
  let kind := Kind.polygon.name
  s.directory.checkBounds index kind
  s.directory.checkCode index allowed kind
  s.directory.checkInterpretation index Interpretation.rings kind

variable [Ordinate α]

/-- A rectangle is given by two corners; any other ring has at least four coordinates and is
closed. -/
def ringAt (s : Source α) (index : Nat) : Except Failure (Coordinates α) := do
  s.checkRing index ElementCode.rings
  let c := s.elementCoordinates index
  let kind := Kind.linearRing.name
  if (s.directory.entryAt index).interpretation = Interpretation.rectangle then
    s.directory.checkCount index c.size kind none (some 2)
    Ring.rectangle s.cap c
  else
    s.directory.checkCount index c.size kind (some 4) none
    s.directory.checkClosed index c kind
    return c

def shellAt (s : Source α) (index : Nat) : Except Failure (Coordinates α) := do
  s.checkRing index ElementCode.shells
  s.ringAt index

/-- The ring at the index if it is a hole of the polygon before it: it says so, or it does not
say and winds clockwise. -/
def holeAt (s : Source α) (index : Nat) : Except Failure (Option (Coordinates α)) :=
  let code := (s.directory.entryAt index).code
  if code = ElementCode.hole then (s.ringAt index).map some
  else if code = ElementCode.ring then do
    let ring ← s.ringAt index
    let clockwise ← Ring.isClockwise ring
    return if clockwise then some ring else none
  else .ok none

/-- A hole is read from an element and never from the sentinel. -/
theorem lt_count_of_holeAt {s : Source α} {index : Nat} {ring : Coordinates α}
    (h : s.holeAt index = .ok (some ring)) : index < s.directory.count := by
  apply Directory.lt_count_of_code_ne_finish
  intro finish
  rw [holeAt, finish, if_neg (by decide), if_neg (by decide)] at h
  cases h

end Source

end TripletGeometry
