import TripletGeometry.Element
import TripletGeometry.Kind

/-!
Faults of an encoding that cannot be decoded. A fault says what is wrong and, where one element
is to blame, which: its index, its two codes and the whole element array. The wording of every
fault is in `Fault.message`, and `Fault.numbers` are the integers that have to be written for it.
-/
namespace TripletGeometry

inductive Requirement where
  | exactly (count : Int)
  | atLeast (count : Int)
deriving DecidableEq, Repr

namespace Requirement

def text : Requirement → String
  | .exactly count => s!"exactly {count}"
  | .atLeast count => s!"at least {count}"

def count : Requirement → Int
  | .exactly count => count
  | .atLeast count => count

end Requirement

inductive Malformation where
  /-- The first offset is below 1. -/
  | offsetBelowStart (offset : Int)
  | offsetDecreases (offset previous : Int)
  | offsetPastOrdinates (offset ordinateCount : Int)
  | offsetInsideCoordinate (offset dimension : Int)
  | nothingToRead (offset ordinateCount : Int) (kind : String)
  | coordinateCount (kind : String) (required : Requirement) (found : Int)
  /-- The ends of the ring are kept as they are shown. -/
  | openRing (kind : String) (firstX firstY lastX lastY : String)
  | partialCoordinate (dimension : Int) (ordinateCount : Nat)
  | partialTriplet (length size : Nat)
  | measureOutside (typeCode position dimension : Int)
  | other (text : String)
deriving DecidableEq, Repr

def Malformation.text : Malformation → String
  | .offsetBelowStart offset => s!"STARTING_OFFSET {offset} must be at least 1"
  | .offsetDecreases offset previous =>
    s!"STARTING_OFFSET {offset} must be not less than {previous}"
  | .offsetPastOrdinates offset ordinateCount =>
    s!"STARTING_OFFSET {offset} inconsistent with ORDINATES length {ordinateCount}"
  | .offsetInsideCoordinate offset dimension =>
    s!"STARTING_OFFSET {offset} does not start a coordinate of dimension {dimension}"
  | .nothingToRead offset ordinateCount kind =>
    s!"STARTING_OFFSET {offset} inconsistent with ORDINATES length {ordinateCount} " ++
      s!"when reading a {kind}"
  | .coordinateCount kind required found =>
    kind ++ " requires " ++ required.text ++ s!" coordinates, found {found}"
  | .openRing kind firstX firstY lastX lastY =>
    s!"{kind} is not closed: starts at ({firstX}, {firstY}) and ends at ({lastX}, {lastY})"
  | .partialCoordinate dimension ordinateCount =>
    s!"SDO_GTYPE Dimension {dimension} is inconsistent with SDO_ORDINATES length {ordinateCount}"
  | .partialTriplet length size =>
    s!"SDO_ELEM_INFO length {length} is not a multiple of {size}"
  | .measureOutside typeCode position dimension =>
    s!"SDO_GTYPE {typeCode} places the measure at ordinate {position} " ++
      s!"of a {dimension}-dimensional coordinate"
  | .other text => text

/-- The integers of the text, but for the sizes of lists at hand. -/
def Malformation.numbers : Malformation → List Int
  | .offsetBelowStart offset => [offset]
  | .offsetDecreases offset previous => [offset, previous]
  | .offsetPastOrdinates offset ordinateCount => [offset, ordinateCount]
  | .offsetInsideCoordinate offset dimension => [offset, dimension]
  | .nothingToRead offset ordinateCount _ => [offset, ordinateCount]
  | .coordinateCount _ required found => [required.count, found]
  | .openRing .. => []
  | .partialCoordinate dimension _ => [dimension]
  | .partialTriplet .. => []
  | .measureOutside typeCode position dimension => [typeCode, position, dimension]
  | .other _ => []

inductive Details where
  | text (text : String)
  | tooFew (typeCode : Int)
  | tooMany (typeCode : Int)
deriving DecidableEq, Repr

namespace Details

def shown : Details → String
  | .text words => words
  | .tooFew typeCode => s!"SDO_GTYPE {typeCode} has fewer than 2 ordinates per coordinate"
  | .tooMany typeCode => s!"SDO_GTYPE {typeCode} has more than 4 ordinates per coordinate"

def numbers : Details → List Int
  | .text _ => []
  | .tooFew typeCode => [typeCode]
  | .tooMany typeCode => [typeCode]

end Details

/-- The element array that a fault is about: its elements, or a text that was given for it. -/
inductive ElementInfo where
  | listed (elements : List Element)
  | text (text : String)
deriving DecidableEq, Repr

namespace ElementInfo

def shown : ElementInfo → String
  | .listed elements => Element.listText elements
  | .text words => words

def numbers : ElementInfo → List Int
  | .listed elements => elements.flatMap Element.numbers
  | .text _ => []

end ElementInfo

inductive FaultKind where
  | dimension
  | malformedEncoding
  | unsupportedElementType
  | unsupportedInterpretation
  | unsupportedGeometryType
deriving DecidableEq, Repr

structure Context where
  index : Option Int
  elementType : Option Int
  interpretation : Option Int
  elementInfo : Option ElementInfo
deriving DecidableEq, Repr

def Context.unknown : Context := ⟨none, none, none, none⟩

inductive Fault where
  | general (text : String) (context : Context)
  | unsupportedDimension (dimension : Int) (details : Option Details)
  | malformed (cause : Malformation) (context : Context)
  | unsupportedElement (code : Int) (kind : String) (details : Option String)
      (index interpretation : Option Int) (elementInfo : Option ElementInfo)
  | unsupportedInterpretation (code : Int) (kind : String)
      (index elementType : Option Int) (elementInfo : Option ElementInfo)
  | unsupportedType (typeCode : Int)
deriving DecidableEq, Repr

namespace Fault

/-- A fault that stands for no particular kind has none. -/
def kind? : Fault → Option FaultKind
  | .general .. => none
  | .unsupportedDimension .. => some .dimension
  | .malformed .. => some .malformedEncoding
  | .unsupportedElement .. => some .unsupportedElementType
  | .unsupportedInterpretation .. => some .unsupportedInterpretation
  | .unsupportedType .. => some .unsupportedGeometryType

/-- The code that a fault rejects counts among what is known about the element. -/
def context : Fault → Context
  | .general _ context => context
  | .unsupportedDimension .. => .unknown
  | .malformed _ context => context
  | .unsupportedElement code _ _ index interpretation info =>
    ⟨index, some code, interpretation, info⟩
  | .unsupportedInterpretation code _ index elementType info =>
    ⟨index, elementType, some code, info⟩
  | .unsupportedType _ => .unknown

/-- Details of no characters count as none. -/
def withDetails (text separator : String) : Option String → String
  | some details => if details.isEmpty then text else text ++ separator ++ details
  | none => text

def cause : Fault → String
  | .general text _ => text
  | .unsupportedDimension dimension details =>
    withDetails s!"Dimension D = {dimension} is not supported" ": " (details.map Details.shown)
  | .malformed cause _ => cause.text
  | .unsupportedElement code kind details .. =>
    withDetails s!"SDO_ETYPE {code} is not supported when reading a {kind}" ". " details
  | .unsupportedInterpretation code kind .. =>
    s!"SDO_INTERPRETATION {code} is not supported when reading a {kind}"
  | .unsupportedType typeCode => s!"SDO_GTYPE {typeCode} is not supported"

def causeNumbers : Fault → List Int
  | .general .. => []
  | .unsupportedDimension dimension details => dimension :: (details.map Details.numbers).getD []
  | .malformed cause _ => cause.numbers
  | .unsupportedElement code .. => [code]
  | .unsupportedInterpretation code .. => [code]
  | .unsupportedType typeCode => [typeCode]

end Fault

namespace Context

def suffix (context : Context) : String :=
  match context.index, context.elementInfo with
  | none, _ => ""
  | some index, none => s!" (Element {index})"
  | some index, some info => s!" (Element {index} in SDO_ELEM_INFO {info.shown})"

/-- The element array is written out even where no element is named. -/
def numbers (context : Context) : List Int :=
  context.index.toList ++ (context.elementInfo.map ElementInfo.numbers).getD []

end Context

namespace Fault

def message (fault : Fault) : String := fault.cause ++ fault.context.suffix

/-- The integers that are written when the fault is found: those of its text, and those of the
element array. -/
def numbers (fault : Fault) : List Int := fault.causeNumbers ++ fault.context.numbers

end Fault

end TripletGeometry
