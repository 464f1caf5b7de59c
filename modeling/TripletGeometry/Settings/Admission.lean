import TripletGeometry.Admission.Scalar
import TripletGeometry.Settings

/-!
Settings from loosely typed values: from a record, and from the variables of an environment.
-/
namespace TripletGeometry.Settings

def title : String := "ReaderConfig"

def dimensionField : String := "dimension"
def strictField : String := "strict_dimension"

def ofRecord (fields : List (String × Value)) : Except Refusal Settings :=
  let verdict :=
    (Verdict.field fields dimensionField (some none) (Verdict.optional Verdict.ofInteger)).both
      (Verdict.field fields strictField (some false) Verdict.ofFlag)
  match verdict with
  | .error issues => .error (.issues title issues)
  | .ok (dimension, strict) => .ok ⟨dimension, strict⟩

def dimensionVariable : String := "SDO_READER_DIMENSION"
def strictVariable : String := "SDO_READER_STRICT_DIMENSION"

/-- The words for yes, with blanks and separators around them and in any case. -/
def isYes (text : String) : Bool :=
  let word := String.ofList ((Text.trim Text.isBlankOrSeparator text.toList).map Char.toLower)
  ["1", "true", "yes"].contains word

/-- An empty dimension is none. -/
def ofEnvironment (environment : List (String × String)) : Except Refusal Settings :=
  let dimension := match environment.lookup dimensionVariable with
    | none | some "" => .absent
    | some text => .text text
  let strict := (environment.lookup strictVariable).any isYes
  ofRecord [(dimensionField, dimension), (strictField, .flag strict)]

end TripletGeometry.Settings
