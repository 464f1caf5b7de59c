import TripletGeometry.Writer

/-!
Type codes of the form DLTT: D ordinates per coordinate, the measure at position L (0 for none),
and the topology TT. Any integer can be asked for its digits; only some integers are type codes.
-/
namespace TripletGeometry

inductive Topology where
  | unknown
  | point
  | line
  | polygon
  | collection
  | multiPoint
  | multiLine
  | multiPolygon
  | solid
  | multiSolid
deriving DecidableEq, Repr

namespace Topology

def all : List Topology :=
  [unknown, point, line, polygon, collection, multiPoint, multiLine, multiPolygon, solid,
    multiSolid]

def code : Topology → Int
  | unknown => 0
  | point => 1
  | line => 2
  | polygon => 3
  | collection => 4
  | multiPoint => 5
  | multiLine => 6
  | multiPolygon => 7
  | solid => 8
  | multiSolid => 9

def label : Topology → String
  | unknown => "UNKNOWN"
  | point => "POINT"
  | line => "LINE"
  | polygon => "POLYGON"
  | collection => "COLLECTION"
  | multiPoint => "MULTIPOINT"
  | multiLine => "MULTILINE"
  | multiPolygon => "MULTIPOLYGON"
  | solid => "SOLID"
  | multiSolid => "MULTISOLID"

def ofCode? (n : Int) : Option Topology := all.find? fun t => t.code = n

end Topology

namespace TypeCode

def dimension (typeCode : Int) : Int := typeCode / 1000

def measurePosition (typeCode : Int) : Int := typeCode % 1000 / 100

def topologyCode (typeCode : Int) : Int := typeCode % 100

structure Descriptor where
  typeCode : Int
  dimension : Int
  measurePosition : Int
  topology : Topology
deriving DecidableEq, Repr

def Descriptor.hasMeasure (d : Descriptor) : Bool := d.measurePosition ≠ 0

/-- The dimension is judged first, then the measure, which has to follow x and y and lie inside
the coordinate, then the topology. -/
def interpret (typeCode : Int) : Except Fault Descriptor :=
  let d := dimension typeCode
  let l := measurePosition typeCode
  if d < 2 then
    .error (.unsupportedDimension d (some (.tooFew typeCode)))
  else if 4 < d then
    .error (.unsupportedDimension d (some (.tooMany typeCode)))
  else if l ≠ 0 ∧ ¬ (3 ≤ l ∧ l ≤ d) then
    .error (.malformed (.measureOutside typeCode l d) .unknown)
  else match Topology.ofCode? (topologyCode typeCode) with
    | none => .error (.unsupportedType typeCode)
    | some topology => .ok ⟨typeCode, d, l, topology⟩

def interpretBy (w : Writer) (typeCode : Int) : Except Failure Descriptor :=
  (interpret typeCode).mapError w.raise

end TypeCode

end TripletGeometry
