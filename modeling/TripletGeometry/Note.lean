import TripletGeometry.Fault

/-!
What is noted while an encoding is read, in the words of the log. A rejected encoding is a
warning; everything else is there for finding errors.
-/
namespace TripletGeometry

inductive Level where
  | debug
  | warning
deriving DecidableEq, Repr

def Level.label : Level → String
  | .debug => "DEBUG"
  | .warning => "WARNING"

inductive Note where
  | compactPoint (typeCode : Int)
  | elements (typeCode : Int) (elementCount ordinateCount : Nat) (output : Int)
  | polygon (index holeCount : Nat)
  | unread (kind : Kind) (index : Nat) (code : Int) (left : Nat)
  | rejected (typeCode : Int) (fault : Fault)
deriving DecidableEq, Repr

namespace Note

def level : Note → Level
  | .rejected .. => .warning
  | _ => .debug

def message : Note → String
  | .compactPoint typeCode => s!"Reading SDO_GTYPE {typeCode} from SDO_POINT"
  | .elements typeCode elementCount ordinateCount output =>
    s!"Reading SDO_GTYPE {typeCode}: {elementCount} element(s), {ordinateCount} ordinate(s), " ++
      s!"output dimension {output}"
  | .polygon index holeCount => s!"Polygon at element {index} read with {holeCount} hole(s)"
  | .unread kind index code left =>
    kind.name ++ s!" read stopped at element {index} (SDO_ETYPE {code}); " ++
      s!"{left} element(s) left unread"
  | .rejected typeCode fault =>
    s!"Rejected SDO_GEOMETRY with SDO_GTYPE {typeCode}: " ++ fault.message

/-- The integers of the message, but for the positions in lists at hand and their sizes. -/
def numbers : Note → List Int
  | .compactPoint typeCode => [typeCode]
  | .elements typeCode _ _ output => [typeCode, output]
  | .polygon .. => []
  | .unread _ _ code _ => [code]
  | .rejected typeCode fault => typeCode :: fault.numbers

end Note

end TripletGeometry
