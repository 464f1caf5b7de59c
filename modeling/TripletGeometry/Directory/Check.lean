import TripletGeometry.Coordinates
import TripletGeometry.Directory

/-!
Checks on one entry of a directory, each for a kind of geometry that is being read. A check looks
at the directory only where its answer depends on it or a fault has to name the element.
-/
namespace TripletGeometry

def checkDimension (dimension : Int) (details : Option Details) : Except Fault Unit :=
  if dimension < 2 then .error (.unsupportedDimension dimension details) else .ok ()

theorem le_of_checkDimension {dimension : Int} {details : Option Details}
    (h : checkDimension dimension details = .ok ()) : 2 ≤ dimension := by
  unfold checkDimension at h
  split at h
  · cases h
  · omega

namespace Directory

variable {β : Type}

def malformed (d : Directory) (index : Int) (cause : Malformation) : Except Failure β :=
  (d.entry index).bind fun e =>
    .error (.fault (.malformed cause
      ⟨some index, some e.code, some e.interpretation, some d.info⟩))

def rejectElement (d : Directory) (index : Int) (kind : String) (details : Option String) :
    Except Failure β :=
  (d.entry index).bind fun e =>
    .error (.fault (.unsupportedElement e.code kind details
      (some index) (some e.interpretation) (some d.info)))

def rejectInterpretation (d : Directory) (index : Int) (kind : String) : Except Failure β :=
  (d.entry index).bind fun e =>
    .error (.fault (.unsupportedInterpretation e.interpretation kind
      (some index) (some e.code) (some d.info)))

def checkBounds (d : Directory) (index : Int) (kind : String) : Except Failure Unit :=
  (d.entry index).bind fun e =>
    if d.ordinateCount < e.offset then
      d.malformed index (.nothingToRead e.offset d.ordinateCount kind)
    else .ok ()

def checkCode (d : Directory) (index : Int) (allowed : List Int) (kind : String) :
    Except Failure Unit :=
  (d.entry index).bind fun e =>
    if e.code ∈ allowed then .ok () else d.rejectElement index kind none

def checkInterpretation (d : Directory) (index : Int) (allowed : List Int) (kind : String) :
    Except Failure Unit :=
  (d.entry index).bind fun e =>
    if e.interpretation ∈ allowed then .ok () else d.rejectInterpretation index kind

/-- The interpretation of a cluster of points is their number, which exceeds one. -/
def checkCluster (d : Directory) (index : Int) (kind : String) : Except Failure Unit :=
  (d.entry index).bind fun e =>
    if 1 < e.interpretation then .ok () else d.rejectInterpretation index kind

/-- An exact number that is missed goes before a least one. -/
def checkCount (d : Directory) (index count : Int) (kind : String) (least exact : Option Int) :
    Except Failure Unit :=
  match exact.filter (· ≠ count), least.filter (count < ·) with
  | some n, _ => d.malformed index (.coordinateCount kind (.exactly n) count)
  | none, some n => d.malformed index (.coordinateCount kind (.atLeast n) count)
  | none, none => .ok ()

def checkClosed {α : Type} [Ordinate α] (d : Directory) (index : Int) (ring : Coordinates α)
    (kind : String) : Except Failure Unit :=
  match ring.xy.head?, ring.xy.getLast? with
  | some first, some last =>
    if sameRow first last then .ok ()
    else match first, last with
      | firstX :: firstY :: _, lastX :: lastY :: _ =>
        d.malformed index (.openRing kind (Ordinate.text firstX) (Ordinate.text firstY)
          (Ordinate.text lastX) (Ordinate.text lastY))
      | _, _ => .error (.outOfBounds first.length 0 first.length)
  | _, _ => .error (.outOfBounds 0 0 0)

end Directory

end TripletGeometry
