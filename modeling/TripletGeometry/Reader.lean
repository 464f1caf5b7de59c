import TripletGeometry.Assembly
import TripletGeometry.Encoding
import TripletGeometry.Machine
import TripletGeometry.Outcome
import TripletGeometry.Planar
import TripletGeometry.Settings
import TripletGeometry.Source.Build

/-!
Readers of encodings. A reader has settings and a bound on the ordinates that coordinates can
hold, and nothing that one reading could leave to the next. A reading is reported with everything
that was noted and put together.
-/
namespace TripletGeometry

structure Reader where
  settings : Settings
  /-- The most ordinates that coordinates can hold. -/
  cap : Int
  accepted : ∀ dimension, settings.dimension = some dimension → 2 ≤ dimension

structure Placed (γ : Type) where
  geometry : γ
  srid : Option Int

inductive Form where
  | tree
  | planar
deriving DecidableEq, Repr

structure Report (γ : Type) where
  notes : List Note
  built : List Kind
  result : Except Failure γ

namespace Form

variable {α : Type} [Ordinate α]

def render (form : Form) (run : Run α (Geometry α)) : Run α (Geometry α) :=
  match form with
  | .tree => run
  | .planar => Planar.ofRun run

omit [Ordinate α] in
/-- The planar form numbers reference systems by words of 32 bits. -/
def place (form : Form) (srid : Option Int) (g : Geometry α) :
    Except Failure (Placed (Geometry α)) :=
  match form, srid with
  | .planar, some n =>
    if IsHalfWord n then .ok ⟨g, srid⟩
    else .error (if IsWord n then .referenceSystemRange n else .beyondWord)
  | _, _ => .ok ⟨g, srid⟩

end Form

namespace Reader

/-- Coordinates hold x, y and z unless more is asked for. -/
def usualCap : Int := 3

/-- Settings that ask for fewer than two ordinates are refused. -/
def ofSettings (settings : Settings) (cap : Int) : Except Fault Reader :=
  match asked : settings.dimension with
  | none => .ok ⟨settings, cap, by simp [asked]⟩
  | some dimension =>
    match checked : checkDimension dimension (some (.text "configured reader dimension")) with
    | .error fault => .error fault
    | .ok () => .ok ⟨settings, cap, by
      intro d hd
      rw [asked, Option.some.injEq] at hd
      exact hd ▸ le_of_checkDimension checked⟩

variable {α : Type} [Ordinate α]

section Memory

variable (memory : Option Nat) (r : Reader)

/-- A compact point has three ordinates whatever the type code says, and any topology will do. -/
def runPointIn (p : CompactPoint α) (native output : Int) : Run α (Geometry α) :=
  match Assembly.assemble memory r.cap p.ordinates (min native 3) output false with
  | .error failure => .fail 0 failure
  | .ok c => ⟨0, [.built (.geometry (.shape (.point c)))], .ok (.shape (.point c))⟩

def sourceIn (e : Encoding α) (native output : Int) : Except Failure (Source α) := do
  let coordinates ← Assembly.assemble memory r.cap e.ordinates native output true
  let directory ← Directory.ofElements e.elements e.ordinates.length native
  return ⟨directory, coordinates, r.cap⟩

def runElementsIn (e : Encoding α) (d : TypeCode.Descriptor) (output : Int) :
    Run α (Geometry α) :=
  match sourceIn memory r e d.dimension output with
  | .error failure => .fail 0 failure
  | .ok source => source.build d 0

def runIn (e : Encoding α) : Run α (Geometry α) :=
  match TypeCode.interpret e.typeCode with
  | .error fault => .fail 0 (.fault fault)
  | .ok d =>
    let output := r.settings.outputDimension d.dimension
    match e.wholePoint? with
    | some p => (runPointIn memory r p d.dimension output).after [.noted (.compactPoint e.typeCode)]
    | none =>
      (runElementsIn memory r e d output).after
        [.noted (.elements e.typeCode e.elements.length e.ordinates.length output)]

end Memory

/-! Where memory is unbounded. -/

section Unbounded

variable (r : Reader)

def runPoint (p : CompactPoint α) (native output : Int) : Run α (Geometry α) :=
  runPointIn none r p native output

def source (e : Encoding α) (native output : Int) : Except Failure (Source α) :=
  sourceIn none r e native output

def runElements (e : Encoding α) (d : TypeCode.Descriptor) (output : Int) :
    Run α (Geometry α) :=
  runElementsIn none r e d output

def run (e : Encoding α) : Run α (Geometry α) := runIn none r e

theorem runPoint_eq (p : CompactPoint α) (native output : Int) :
    r.runPoint p native output =
      match Assembly.assemble none r.cap p.ordinates (min native 3) output false with
      | .error failure => .fail 0 failure
      | .ok c => ⟨0, [.built (.geometry (.shape (.point c)))], .ok (.shape (.point c))⟩ := rfl

theorem source_eq (e : Encoding α) (native output : Int) : r.source e native output = (do
    let coordinates ← Assembly.assemble none r.cap e.ordinates native output true
    let directory ← Directory.ofElements e.elements e.ordinates.length native
    return ⟨directory, coordinates, r.cap⟩) := rfl

theorem runElements_eq (e : Encoding α) (d : TypeCode.Descriptor) (output : Int) :
    r.runElements e d output = match r.source e d.dimension output with
      | .error failure => .fail 0 failure
      | .ok source => source.build d 0 := rfl

/-- A reading in three steps: the type code, then the compact point if there is one, else the
elements. -/
theorem run_eq (e : Encoding α) : r.run e = match TypeCode.interpret e.typeCode with
    | .error fault => .fail 0 (.fault fault)
    | .ok d => match e.wholePoint? with
      | some p =>
        (r.runPoint p d.dimension (r.settings.outputDimension d.dimension)).after
          [.noted (.compactPoint e.typeCode)]
      | none =>
        (r.runElements e d (r.settings.outputDimension d.dimension)).after
          [.noted (.elements e.typeCode e.elements.length e.ordinates.length
            (r.settings.outputDimension d.dimension))] := rfl

end Unbounded

def rejection (typeCode : Int) {γ : Type} : Except Failure γ → List Note
  | .error (.fault fault) => [.rejected typeCode fault]
  | _ => []

def report (form : Form) (e : Encoding α) (run : Run α (Geometry α)) :
    Report (Placed (Geometry α)) where
  notes := run.notes ++ rejection e.typeCode run.result
  built := run.built.map Node.kind
  result := run.result.bind (form.place e.srid)

def readEncoding (r : Reader) (form : Form) (e : Encoding α) : Report (Placed (Geometry α)) :=
  report form e (form.render (r.run e))

def readEncodingOn (m : Machine) (r : Reader) (form : Form) (e : Encoding α) :
    Report (Placed (Geometry α)) :=
  report form e (m.ofRun (form.render (runIn m.memory r e)))

end Reader

namespace Report

variable {γ : Type}

def absent : Report (Option γ) := ⟨[], [], .ok none⟩

def present (report : Report γ) : Report (Option γ) where
  notes := report.notes
  built := report.built
  result := report.result.map some

def outcome (report : Report (Option γ)) : Report (Outcome γ) where
  notes := report.notes
  built := report.built
  result := Outcome.ofResult report.result

end Report

namespace Reader

variable {α : Type} [Ordinate α]

/-- An absent encoding gives an absent geometry. -/
def read (r : Reader) (form : Form) :
    Option (Encoding α) → Report (Option (Placed (Geometry α)))
  | none => .absent
  | some e => (r.readEncoding form e).present

def readOutcome (r : Reader) (form : Form) (e : Option (Encoding α)) :
    Report (Outcome (Placed (Geometry α))) :=
  (r.read form e).outcome

def readOn (m : Machine) (r : Reader) (form : Form) :
    Option (Encoding α) → Report (Option (Placed (Geometry α)))
  | none => .absent
  | some e => (readEncodingOn m r form e).present

def readOutcomeOn (m : Machine) (r : Reader) (form : Form) (e : Option (Encoding α)) :
    Report (Outcome (Placed (Geometry α))) :=
  (readOn m r form e).outcome

end Reader

end TripletGeometry
