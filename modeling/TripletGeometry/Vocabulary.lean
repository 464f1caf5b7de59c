import TripletGeometry.Element
import TripletGeometry.Failure
import TripletGeometry.TypeCode
import TripletGeometry.Value

/-!
The codes that have names, as ordered lists of terms under a title. A term is looked up by its
code: numbers are compared as numbers, whatever their type, and texts as texts.
-/
namespace TripletGeometry

def FaultKind.code : FaultKind → String
  | .dimension => "dimension"
  | .malformedEncoding => "malformed_encoding"
  | .unsupportedElementType => "unsupported_element_type"
  | .unsupportedInterpretation => "unsupported_interpretation"
  | .unsupportedGeometryType => "unsupported_geometry_type"

def Value.asNumber? : Value → Option Int
  | .flag b => some (if b then 1 else 0)
  | .integer n => some n
  | .number x => (Decimal.Binary.ofFloat x).integer?
  | _ => none

inductive TermCode where
  | number (n : Int)
  | word (s : String)
deriving DecidableEq, Repr

def TermCode.isNamedBy (value : Value) : TermCode → Bool
  | .number n => value.asNumber? = some n
  | .word s => match value with
    | .text t => s = t
    | _ => false

structure Vocabulary where
  title : String
  terms : List (String × TermCode)
deriving Repr

namespace Vocabulary

def find (vocabulary : Vocabulary) (value : Value) : Except Failure String :=
  match vocabulary.terms.find? fun (_, code) => code.isNamedBy value with
  | some (name, _) => .ok name
  | none => .error (.notAMember value.printed vocabulary.title)

def topologies : Vocabulary :=
  ⟨"TopologyClass", Topology.all.map fun t => (t.label, .number t.code)⟩

def elementTypes : Vocabulary :=
  ⟨"ElementType", [
    ("END", .number ElementCode.finish),
    ("CUSTOM", .number ElementCode.custom),
    ("POINT", .number ElementCode.point),
    ("LINE", .number ElementCode.line),
    ("POLYGON", .number ElementCode.ring),
    ("COMPOUND_LINE", .number ElementCode.compoundLine),
    ("POLYGON_EXTERIOR", .number ElementCode.shell),
    ("POLYGON_INTERIOR", .number ElementCode.hole),
    ("COMPOUND_POLYGON_EXTERIOR", .number ElementCode.compoundShell),
    ("COMPOUND_POLYGON_INTERIOR", .number ElementCode.compoundHole)]⟩

def interpretations : Vocabulary :=
  ⟨"Interpretation", [
    ("END", .number Interpretation.finish),
    ("SIMPLE", .number Interpretation.simple),
    ("ARC", .number Interpretation.arc),
    ("RECTANGLE", .number Interpretation.rectangle),
    ("CIRCLE", .number Interpretation.circle)]⟩

def kinds : Vocabulary :=
  ⟨"GeometryKind", [
    ("POINT", .word Kind.point.name),
    ("LINE_STRING", .word Kind.lineString.name),
    ("LINEAR_RING", .word Kind.linearRing.name),
    ("POLYGON", .word Kind.polygon.name),
    ("MULTI_POINT", .word Kind.multiPoint.name),
    ("MULTI_LINE_STRING", .word Kind.multiLineString.name),
    ("MULTI_POLYGON", .word Kind.multiPolygon.name),
    ("GEOMETRY_COLLECTION", .word Kind.geometryCollection.name)]⟩

def faultKinds : Vocabulary :=
  ⟨"DecodeErrorType", [
    ("DIMENSION", .word FaultKind.dimension.code),
    ("MALFORMED_ENCODING", .word FaultKind.malformedEncoding.code),
    ("UNSUPPORTED_ELEMENT_TYPE", .word FaultKind.unsupportedElementType.code),
    ("UNSUPPORTED_INTERPRETATION", .word FaultKind.unsupportedInterpretation.code),
    ("UNSUPPORTED_GEOMETRY_TYPE", .word FaultKind.unsupportedGeometryType.code)]⟩

def all : List Vocabulary := [topologies, elementTypes, interpretations, kinds, faultKinds]

end Vocabulary

end TripletGeometry
