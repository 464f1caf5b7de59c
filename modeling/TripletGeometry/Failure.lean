import TripletGeometry.Fault
import TripletGeometry.Text.Size

/-!
Everything that can stop an operation. Besides the faults of an encoding these are operations that
are undefined on their arguments, numbers that are too large for what they are to be, and results
that the planar form of a geometry cannot hold.
-/
namespace TripletGeometry

inductive Failure where
  | fault (fault : Fault)
  /-- Axis 0 counts coordinates, axis 1 the ordinates of each. -/
  | outOfBounds (index : Int) (axis size : Nat)
  | noSuchPosition
  /-- A position in a list that is too far from its end for a word. -/
  | positionBeyondWord
  /-- A position in coordinates that is no word, signed or unsigned. -/
  | notAPosition
  | beyondWord
  | negativeExtent
  | extentBeyondWord
  /-- The bytes of a grid are too many to be counted. -/
  | tooManyBytes
  /-- The bytes of a grid are too many to be set aside. -/
  | outOfMemory (bytes : Nat) (count width : Int)
  /-- An integer beyond all doubles. -/
  | beyondDoubles
  /-- An integer whose text has more digits than are written. -/
  | tooManyDigits (most : Nat)
  | notNumeric (typeName : String)
  /-- Coordinates without rows have no second axis to look along. -/
  | noSecondAxis
  | unevenRows (count : Nat)
  | misshapen (ordinateCount count width : Nat)
  | frozen
  | lengthMismatch (given required : Nat)
  | zeroModulus
  | zeroDivisor
  | sealed
  | notIterable (typeName : String)
  | unexpectedArgument (call name : String)
  | missingArguments (call : String) (names : List String)
  | notAMember (value vocabulary : String)
  | unnamed (name : String)
  | planarWidth (width : Nat)
  /-- A point of a single ordinate, which is taken for that ordinate itself. -/
  | planarScalar
  | planarLineShort
  | planarRingShort
  | planarRingOpen
  | referenceSystemRange (number : Int)
deriving DecidableEq, Repr

def listedNames (names : List String) : String :=
  match names.map fun name => s!"'{name}'" with
  | [] => ""
  | [only] => only
  | [first, second] => first ++ " and " ++ second
  | many => ", ".intercalate many.dropLast ++ ", and " ++ many.getLastD ""

def Failure.message : Failure → String
  | .fault f => f.message
  | .outOfBounds index axis size =>
    s!"index {index} is out of bounds for axis {axis} with size {size}"
  | .noSuchPosition => "tuple index out of range"
  | .positionBeyondWord => "cannot fit 'int' into an index-sized integer"
  | .notAPosition => "only integers, slices (`:`), ellipsis (`...`), numpy.newaxis (`None`) and " ++
    "integer or boolean arrays are valid indices"
  | .beyondWord => "Python int too large to convert to C long"
  | .negativeExtent => "negative dimensions are not allowed"
  | .extentBeyondWord => "Maximum allowed dimension exceeded"
  | .tooManyBytes => "array is too big; `arr.size * arr.dtype.itemsize` is larger than the " ++
    "maximum possible size."
  | .outOfMemory bytes count width =>
    "Unable to allocate " ++ Text.size bytes ++ s!" for an array with shape ({count}, {width}) " ++
      "and data type float64"
  | .beyondDoubles => "int too large to convert to float"
  | .tooManyDigits most =>
    s!"Exceeds the limit ({most} digits) for integer string conversion; " ++
      "use sys.set_int_max_str_digits() to increase the limit"
  | .notNumeric typeName =>
    s!"float() argument must be a string or a real number, not '{typeName}'"
  | .noSecondAxis => "too many indices for array: array is 1-dimensional, but 2 were indexed"
  | .unevenRows count =>
    "setting an array element with a sequence. The requested array has an inhomogeneous shape " ++
      s!"after 1 dimensions. The detected shape was ({count},) + inhomogeneous part."
  | .misshapen ordinateCount count width =>
    s!"cannot reshape array of size {ordinateCount} into shape ({count},{width})"
  | .frozen => "assignment destination is read-only"
  | .lengthMismatch given required =>
    s!"could not broadcast input array from shape ({given},) into shape ({required},)"
  | .zeroModulus => "integer modulo by zero"
  | .zeroDivisor => "integer division or modulo by zero"
  | .sealed => "Cannot add parts after build()"
  | .notIterable typeName => s!"'{typeName}' object is not iterable"
  | .unexpectedArgument call name => s!"{call} got an unexpected keyword argument '{name}'"
  | .missingArguments call names =>
    let plural := if names.length = 1 then "" else "s"
    s!"{call} missing {names.length} required positional argument{plural}: " ++ listedNames names
  | .notAMember value vocabulary => s!"{value} is not a valid {vocabulary}"
  | .unnamed name => s!"'{name}'"
  | .planarWidth width => s!"The ordinate (last) dimension should be 2 or 3, got {width}"
  | .planarScalar =>
    "points: Input operand 0 does not have enough dimensions (has 0, gufunc core with signature " ++
      "(d),()->() requires 1)"
  | .planarLineShort => "IllegalArgumentException: point array must contain 0 or >1 elements"
  | .planarRingShort => "A linearring requires at least 4 coordinates."
  | .planarRingOpen =>
    "IllegalArgumentException: Points of LinearRing do not form a closed linestring"
  | .referenceSystemRange number => s!"Python integer {number} out of bounds for int32"

end TripletGeometry
