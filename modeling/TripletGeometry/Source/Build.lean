import TripletGeometry.Source.Scan
import TripletGeometry.TypeCode

/-!
Building the geometry that a type code announces, from the cursor on. A single shape takes its
own elements; a multi geometry takes as many as its scan reads; a collection takes all that
follow. Elements left over are noted, except by a collection.
-/
namespace TripletGeometry.Source

variable {α : Type}

def unreadNotes (s : Source α) (kind : Kind) (cursor : Nat) : List Note :=
  if cursor < s.directory.count then
    [.unread kind cursor (s.directory.entryAt cursor).code (s.directory.count - cursor)]
  else []

/-- A shape was put together when it was read; what is left to do is to note the rest. -/
def single (s : Source α) (kind : Kind) (run : Run α (Shape α)) : Run α (Geometry α) :=
  run.andThen fun cursor shape =>
    ⟨cursor, (s.unreadNotes kind cursor).map .noted, .ok (.shape shape)⟩

/-- A geometry of several parts needs ordinates to start with, wherever the cursor stands. It is
put together after its parts. -/
def several (s : Source α) (kind : Kind) (cursor : Nat) (notes : Nat → List Note)
    (parts : Run α (Geometry α)) : Run α (Geometry α) :=
  match s.directory.checkBounds 0 kind.name with
  | .error failure => .fail cursor failure
  | .ok () => parts.conclude notes .geometry

def build [Ordinate α] (s : Source α) (d : TypeCode.Descriptor) (cursor : Nat) :
    Run α (Geometry α) :=
  match d.topology with
  | .point => s.single .point (shapeAt s.pointAt cursor)
  | .line => s.single .lineString (shapeAt (fun i => (s.lineAt i).map .lineString) cursor)
  | .polygon => s.single .polygon ((s.polygonAt cursor).map .polygon)
  | .multiPoint => s.single .multiPoint (shapeAt s.multiPointAt cursor)
  | .multiLine =>
    s.several .multiLineString cursor (s.unreadNotes .multiLineString)
      ((s.linesFrom cursor).map .multiLineString)
  | .multiPolygon =>
    s.several .multiPolygon cursor (s.unreadNotes .multiPolygon)
      ((s.polygonsFrom cursor).map .multiPolygon)
  | .collection =>
    s.several .geometryCollection cursor (fun _ => [])
      ((s.membersFrom cursor).map .collection)
  | .unknown | .solid | .multiSolid => .fail cursor (.fault (.unsupportedType d.typeCode))

variable [Ordinate α]

/-- A type code that announces nothing leaves the cursor where it is. -/
def buildCode (s : Source α) (typeCode : Int) (cursor : Nat) : Run α (Geometry α) :=
  match TypeCode.interpret typeCode with
  | .error fault => .fail cursor (.fault fault)
  | .ok d => s.build d cursor

def buildAll (s : Source α) (cursor : Nat) : List Int → List (Run α (Geometry α))
  | [] => []
  | typeCode :: rest =>
    s.buildCode typeCode cursor :: s.buildAll (s.buildCode typeCode cursor).cursor rest

end TripletGeometry.Source
