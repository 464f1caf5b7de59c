import TripletGeometry.Source.Scan
import TripletGeometry.Proofs.Checks

/-!
Elements that look alike. A reader of one element looks at its two codes, at its coordinates, and
at whether it is there at all; it never looks at the offset, the index or the other elements but
to blame the element. So where two elements of two sources look alike, the readers give the same
for both, or fail alike.
-/
namespace TripletGeometry

/-- The failures are the same, or they are faults of one kind that blame elements of the same
codes, each at its own index. What a message says of offsets may differ. -/
inductive Failure.Alike (i j : Nat) : Failure → Failure → Prop
  | same (failure : Failure) : Alike i j failure failure
  | fault {f g : Fault} (kind : g.kind? = f.kind?) (here : f.context.index = some ↑i)
      (there : g.context.index = some ↑j)
      (elementType : g.context.elementType = f.context.elementType)
      (interpretation : g.context.interpretation = f.context.interpretation) :
      Alike i j (.fault f) (.fault g)

/-- The results are the same value, or failures that are alike. -/
inductive Agree {β : Type} (alike : Failure → Failure → Prop) :
    Except Failure β → Except Failure β → Prop
  | ok (value : β) : Agree alike (.ok value) (.ok value)
  | error {f g : Failure} (both : alike f g) : Agree alike (.error f) (.error g)

namespace Agree

variable {β γ : Type} {alike : Failure → Failure → Prop} {x y : Except Failure β}

theorem refl (same : ∀ failure, alike failure failure) (x : Except Failure β) :
    Agree alike x x := by
  cases x with
  | error failure => exact .error (same failure)
  | ok value => exact .ok value

theorem eq_ok (h : Agree alike x y) {value : β} (ok : x = .ok value) : y = .ok value := by
  cases h with
  | ok found => exact ok
  | error both => cases ok

theorem exists_error (h : Agree alike x y) {f : Failure} (failed : x = .error f) :
    ∃ g, y = .error g ∧ alike f g := by
  cases h with
  | ok found => cases failed
  | error both =>
    cases failed
    exact ⟨_, rfl, both⟩

theorem bind {f g : β → Except Failure γ} (first : Agree alike x y)
    (next : ∀ b, Agree alike (f b) (g b)) : Agree alike (x >>= f) (y >>= g) := by
  cases first with
  | ok value => exact next value
  | error both => exact .error both

theorem map (h : Agree alike x y) (f : β → γ) : Agree alike (x.map f) (y.map f) := by
  cases h with
  | ok value => exact .ok (f value)
  | error both => exact .error both

end Agree

/-! Checks. -/

namespace Directory

/-- The entries of two directories differ in nothing but their offsets. -/
structure AlikeAt (d e : Directory) (i j : Nat) : Prop where
  inside : i < d.count ↔ j < e.count
  code : (e.entryAt j).code = (d.entryAt i).code
  interpretation : (e.entryAt j).interpretation = (d.entryAt i).interpretation

namespace AlikeAt

variable {β : Type} {d e : Directory} {i j : Nat} (h : d.AlikeAt e i j)
include h

/-- The same fault at two indices is alike, whatever it says of offsets. -/
theorem agree_malformed (cause cause' : Malformation) :
    Agree (β := β) (Failure.Alike i j) (d.malformed i cause) (e.malformed j cause') := by
  simp only [malformed, entry_natCast, Except.bind]
  exact .error (.fault rfl rfl rfl (congrArg some h.code) (congrArg some h.interpretation))

theorem agree_rejectElement (kind : String) (details : Option String) :
    Agree (β := β) (Failure.Alike i j) (d.rejectElement i kind details)
      (e.rejectElement j kind details) := by
  simp only [rejectElement, entry_natCast, Except.bind]
  exact .error (.fault rfl rfl rfl (congrArg some h.code) (congrArg some h.interpretation))

theorem agree_rejectInterpretation (kind : String) :
    Agree (β := β) (Failure.Alike i j) (d.rejectInterpretation i kind)
      (e.rejectInterpretation j kind) := by
  simp only [rejectInterpretation, entry_natCast, Except.bind]
  exact .error (.fault rfl rfl rfl (congrArg some h.code) (congrArg some h.interpretation))

theorem agree_checkBounds (kind : String) :
    Agree (Failure.Alike i j) (d.checkBounds i kind) (e.checkBounds j kind) := by
  have before := d.offset_le_iff i
  have after := e.offset_le_iff j
  have inside := h.inside
  simp only [checkBounds, entry_natCast, Except.bind]
  by_cases past : d.ordinateCount < (d.entryAt i).offset
  · have past' : e.ordinateCount < (e.entryAt j).offset := by omega
    rw [if_pos past, if_pos past']
    exact h.agree_malformed _ _
  · have within : ¬ e.ordinateCount < (e.entryAt j).offset := by omega
    rw [if_neg past, if_neg within]
    exact .ok ()

theorem agree_checkCode (allowed : List Int) (kind : String) :
    Agree (Failure.Alike i j) (d.checkCode i allowed kind) (e.checkCode j allowed kind) := by
  simp only [checkCode, entry_natCast, Except.bind, h.code]
  split
  · exact .ok ()
  · exact h.agree_rejectElement kind none

theorem agree_checkInterpretation (allowed : List Int) (kind : String) :
    Agree (Failure.Alike i j) (d.checkInterpretation i allowed kind)
      (e.checkInterpretation j allowed kind) := by
  simp only [checkInterpretation, entry_natCast, Except.bind, h.interpretation]
  split
  · exact .ok ()
  · exact h.agree_rejectInterpretation kind

theorem agree_checkCluster (kind : String) :
    Agree (Failure.Alike i j) (d.checkCluster i kind) (e.checkCluster j kind) := by
  simp only [checkCluster, entry_natCast, Except.bind, h.interpretation]
  split
  · exact .ok ()
  · exact h.agree_rejectInterpretation kind

/-- The counts are the same, so both pass or both are refused. -/
theorem agree_checkCount (count : Int) (kind : String) (least exact : Option Int) :
    Agree (Failure.Alike i j) (d.checkCount i count kind least exact)
      (e.checkCount j count kind least exact) := by
  simp only [checkCount]
  split
  · exact h.agree_malformed _ _
  · exact h.agree_malformed _ _
  · exact .ok ()

theorem agree_checkClosed {α : Type} [Ordinate α] (ring : Coordinates α) (kind : String) :
    Agree (Failure.Alike i j) (d.checkClosed i ring kind) (e.checkClosed j ring kind) := by
  simp only [checkClosed]
  split
  · split
    · exact .ok ()
    split
    · exact h.agree_malformed _ _
    · exact .error (.same _)
  · exact .error (.same _)

end AlikeAt

end Directory

/-! Readers. -/

namespace Source

variable {α : Type}

/-- The elements differ in nothing that a reader of one element looks at. -/
structure AlikeAt (s t : Source α) (i j : Nat) : Prop extends
    s.directory.AlikeAt t.directory i j where
  coordinates : t.elementCoordinates j = s.elementCoordinates i
  cap : t.cap = s.cap

namespace AlikeAt

variable {s t : Source α} {i j : Nat} (h : s.AlikeAt t i j)
include h

theorem agree_pointAt : Agree (Failure.Alike i j) (s.pointAt i) (t.pointAt j) := by
  simp only [pointAt, h.coordinates]
  refine (h.agree_checkBounds _).bind fun _ => ?_
  refine (h.agree_checkCode _ _).bind fun _ => ?_
  refine (h.agree_checkInterpretation _ _).bind fun _ => ?_
  exact (h.agree_checkCount _ _ _ _).bind fun _ => .ok _

theorem agree_multiPointAt : Agree (Failure.Alike i j) (s.multiPointAt i) (t.multiPointAt j) := by
  simp only [multiPointAt, h.coordinates, h.interpretation]
  refine (h.agree_checkBounds _).bind fun _ => ?_
  refine (h.agree_checkCode _ _).bind fun _ => ?_
  refine (h.agree_checkCluster _).bind fun _ => ?_
  exact (h.agree_checkCount _ _ _ _).bind fun _ => .ok _

theorem agree_lineAt : Agree (Failure.Alike i j) (s.lineAt i) (t.lineAt j) := by
  simp only [lineAt, h.coordinates]
  refine (h.agree_checkBounds _).bind fun _ => ?_
  refine (h.agree_checkCode _ _).bind fun _ => ?_
  refine (h.agree_checkInterpretation _ _).bind fun _ => ?_
  exact (h.agree_checkCount _ _ _ _).bind fun _ => .ok _

theorem agree_checkRing (allowed : List Int) :
    Agree (Failure.Alike i j) (s.checkRing i allowed) (t.checkRing j allowed) := by
  refine (h.agree_checkBounds _).bind fun _ => ?_
  refine (h.agree_checkCode _ _).bind fun _ => ?_
  exact h.agree_checkInterpretation _ _

theorem agree_loneMemberAt :
    Agree (Failure.Alike i j) (s.loneMemberAt i) (t.loneMemberAt j) := by
  simp only [loneMemberAt, h.code, h.interpretation]
  split
  · split
    · exact h.agree_pointAt
    split
    · exact h.agree_multiPointAt
    · exact h.agree_rejectInterpretation _
  split
  · exact h.agree_lineAt.map _
  split
  · exact h.agree_rejectElement _ _
  · exact h.agree_rejectElement _ _

variable [Ordinate α]

/-- A ring is made from coordinates that are the same. -/
theorem agree_ringAt : Agree (Failure.Alike i j) (s.ringAt i) (t.ringAt j) := by
  simp only [ringAt, h.coordinates, h.interpretation, h.cap]
  refine (h.agree_checkRing _).bind fun _ => ?_
  split
  · exact (h.agree_checkCount _ _ _ _).bind fun _ => .refl .same _
  · refine (h.agree_checkCount _ _ _ _).bind fun _ => ?_
    exact (h.agree_checkClosed _ _).bind fun _ => .ok _

theorem agree_shellAt : Agree (Failure.Alike i j) (s.shellAt i) (t.shellAt j) :=
  (h.agree_checkRing _).bind fun _ => h.agree_ringAt

/-- The ring is the same, and so is its orientation. -/
theorem agree_holeAt : Agree (Failure.Alike i j) (s.holeAt i) (t.holeAt j) := by
  simp only [holeAt, h.code]
  split
  · exact h.agree_ringAt.map some
  split
  · exact h.agree_ringAt.bind fun ring => .refl .same _
  · exact .ok none

end AlikeAt

end Source

end TripletGeometry
