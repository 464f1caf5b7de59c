import TripletGeometry.Extent
import TripletGeometry.Run
import TripletGeometry.Writer

/-!
The limits of a machine, on the integers that it writes and on the grids of ordinates that it holds.
What happens on an ideal machine, without limits, happens on any other one up to the first thing
that is beyond its limits; there it fails.
-/
namespace TripletGeometry

structure Machine extends Writer where
  /-- The most bytes of a grid, if there is a limit. -/
  memory : Option Nat

variable {α β : Type}

namespace Writer

def refusal? (w : Writer) : Event α → Option Failure
  | .built _ => none
  | .noted note => w.shortage? note.numbers

/-- A writer refuses an event for one reason only. -/
theorem tooManyDigits_of_refusal? {w : Writer} {most : Nat} (limit : w.digits = some most)
    {event : Event α} {failure : Failure} (refused : w.refusal? event = some failure) :
    failure = .tooManyDigits most := by
  cases event with
  | built node => cases refused
  | noted note =>
    rw [refusal?, shortage?] at refused
    split at refused
    · cases refused
    · rw [limit] at refused
      cases refused
      rfl

/-- A run ends where a note cannot be written. -/
def ofRun (w : Writer) (run : Run α β) : Run α β :=
  { run.upTo w.refusal? with result := w.result (run.upTo w.refusal?).result }

variable {w : Writer} {run : Run α β}

@[simp]
theorem cursor_ofRun (w : Writer) (run : Run α β) : (w.ofRun run).cursor = run.cursor :=
  Run.cursor_upTo w.refusal? run

/-- What a run gives it would give if everything could be written. -/
theorem result_of_ofRun {value : β} (ok : (w.ofRun run).result = .ok value) :
    run.result = .ok value := by
  have given := result_eq_ok.mp ok
  rcases run.upTo_cases w.refusal? with same | ⟨_, _, _, _, ended⟩
  · rwa [same] at given
  · rw [ended] at given
    cases given

/-- Where every note can be written only the fault at the end is left to be written. -/
theorem result_ofRun_of_written
    (written : ∀ note, .noted note ∈ run.events → ∀ n ∈ note.numbers, w.writes n = true) :
    (w.ofRun run).result = w.result run.result := by
  have plain : run.upTo w.refusal? = run := by
    refine Run.upTo_of_plain fun event member => ?_
    cases event with
    | built node => rfl
    | noted note => exact shortage?_eq_none_iff.mpr (written note member)
  rw [ofRun, plain]

/-- A note that cannot be written ends the run. -/
theorem result_ofRun_of_unwritten {note : Note} (noted : .noted note ∈ run.events) {n : Int}
    (member : n ∈ note.numbers) (unwritten : ¬ w.writes n = true) :
    ∃ most, w.digits = some most ∧ (w.ofRun run).result = .error (.tooManyDigits most) := by
  obtain ⟨most, limit, short⟩ := shortage?_of_unwritten member unwritten
  refine ⟨most, limit, ?_⟩
  have ended : (run.upTo w.refusal?).result = .error (.tooManyDigits most) := by
    rw [Run.result_upTo]
    cases found : run.events.findSome? w.refusal? with
    | none =>
      have plain := List.findSome?_eq_none_iff.mp found _ noted
      rw [refusal?, short] at plain
      cases plain
    | some failure =>
      obtain ⟨event, _, refused⟩ := List.exists_of_findSome?_eq_some found
      rw [tooManyDigits_of_refusal? limit refused]
      rfl
  rw [ofRun, ended]
  rfl

end Writer

namespace Machine

def ideal : Machine := ⟨Writer.ideal, none⟩

/-- Of what is put together only the ring of a rectangle has more coordinates than those that it is
made from, and needs a grid of its own. -/
def refusal? (m : Machine) : Event α → Option Failure
  | .built (.ring ring) => match Extent.check m.memory ring.size ring.width with
    | .error failure => some failure
    | .ok () => none
  | _ => none

def ofRun (m : Machine) (run : Run α β) : Run α β := m.toWriter.ofRun (run.upTo m.refusal?)

end Machine

end TripletGeometry
