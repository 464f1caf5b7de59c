import TripletGeometry.Run

/-!
The planar form of a geometry. It holds coordinates of two or three ordinates. Its rings end in
their first coordinate: where the ends of a ring differ in any ordinate the first coordinate is
appended, and the ring is refused if the ends then still differ in x or y, as they do if one of
these is not a number.
-/
namespace TripletGeometry.Planar

variable {α : Type} [Ordinate α]

def endsAgree (look : List α → List α) (rows : List (List α)) : Bool :=
  match rows.head?, rows.getLast? with
  | some first, some last => sameRow (look first) (look last)
  | _, _ => true

def closedRows (rows : List (List α)) : List (List α) :=
  if endsAgree id rows then rows else rows ++ rows.take 1

def closeRing (ring : Coordinates α) : Coordinates α :=
  Coordinates.ofRows ring.width (closedRows ring.rows)

omit [Ordinate α] in
def widthRefusal? (c : Coordinates α) : Option Failure :=
  if c.width = 2 ∨ c.width = 3 then none else some (.planarWidth c.width)

omit [Ordinate α] in
/-- A point is the first coordinate, whose ordinates are not kept in a row if there is only one. -/
def pointRefusal? (c : Coordinates α) : Option Failure :=
  if c.size = 0 then some (.outOfBounds 0 0 0)
  else if c.width = 1 then some .planarScalar
  else widthRefusal? c

omit [Ordinate α] in
def lineRefusal? (c : Coordinates α) : Option Failure :=
  if c.size < 2 then some .planarLineShort else widthRefusal? c

def ringRefusal? (ring : Coordinates α) : Option Failure :=
  match widthRefusal? ring with
  | some failure => some failure
  | none =>
    if ring.size < 4 then some .planarRingShort
    else if endsAgree (·.take 2) (closedRows ring.rows) then none
    else some .planarRingOpen

/-- Why a node cannot be put together in planar form, if it cannot. Only nodes with coordinates of
their own can fail. -/
def refusal? : Node α → Option Failure
  | .ring c => ringRefusal? c
  | .geometry (.shape (.point c)) => pointRefusal? c
  | .geometry (.shape (.lineString c)) => lineRefusal? c
  | .geometry (.shape (.multiPoint c)) => widthRefusal? c
  | .geometry _ => none

def eventRefusal? : Event α → Option Failure
  | .built node => refusal? node
  | .noted _ => none

/-- A run in which the nodes are put together in planar form: it ends where one is refused. -/
def ofRun (run : Run α (Geometry α)) : Run α (Geometry α) :=
  (run.upTo eventRefusal?).map (Geometry.mapRings closeRing)

end TripletGeometry.Planar
