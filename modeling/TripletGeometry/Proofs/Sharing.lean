import TripletGeometry.Coordinates.Store
import TripletGeometry.Ordinate.Exact
import TripletGeometry.Proofs.Checks

/-!
Which names see what is done through another one. A name is bound to new coordinates, or takes over
those of another name by sharing them or by slicing their whole range; so the coordinates of every
name go back to the action that made them, and a change shows under just the names that go back to
the same one. Nothing changes coordinates that are frozen, and a part of a sequence is made frozen.
-/
namespace TripletGeometry

variable {α : Type}

/-! Actions. -/

namespace Action

/-- The name that is bound if the action succeeds. -/
def target? : Action α → Option String
  | .make name _ _ _ => some name
  | .load name _ => some name
  | .share _ target => some target
  | .slice _ _ _ target => some target
  | _ => none

def writes? : Action α → Option String
  | .set name _ _ _ => some name
  | .setColumn name _ _ => some name
  | _ => none

/-- The name through which coordinates are changed, be it only that they are frozen. -/
def changes? : Action α → Option String
  | .set name _ _ _ => some name
  | .setColumn name _ _ => some name
  | .freeze name => some name
  | .share name _ => some name
  | _ => none

/-- What the action may make of coordinates of the name. -/
structure Alters (action : Action α) (name : String) (c c' : Coordinates α) : Prop where
  frozen : c.frozen = true → c' = c
  changes : c' ≠ c → action.changes? = some name
  writes : c'.rows ≠ c.rows → action.writes? = some name

variable {action : Action α} {name : String}

theorem alters_refl (c : Coordinates α) : action.Alters name c c :=
  ⟨fun _ => rfl, fun differs => absurd rfl differs, fun differs => absurd rfl differs⟩

theorem alters_freeze (changed : action.changes? = some name) (c : Coordinates α) :
    action.Alters name c c.freeze where
  frozen frozen := Coordinates.ext rfl rfl frozen.symm
  changes _ := changed
  writes differs := absurd rfl differs

theorem alters_of_not_frozen (changed : action.changes? = some name)
    (written : action.writes? = some name) {c : Coordinates α} (loose : c.frozen = false)
    (c' : Coordinates α) : action.Alters name c c' where
  frozen frozen := absurd (loose.symm.trans frozen) nofun
  changes _ := changed
  writes _ := written

end Action

namespace Coordinates

variable {c c' : Coordinates α}

/-- What refuses frozen coordinates has not been given any if it succeeds. -/
theorem not_frozen_of_ok {change : Except Failure (Coordinates α)}
    (ok : (if c.frozen then .error .frozen else change) = .ok c') : c.frozen = false := by
  split at ok
  · cases ok
  · rename_i loose
    exact Bool.eq_false_iff.mpr loose

theorem not_frozen_of_set {index ordinate : Int} {given : Except Failure α}
    (ok : c.set index ordinate given = .ok c') : c.frozen = false :=
  not_frozen_of_ok ok

/-- What comes before the first failure is kept, and the rest does not matter. -/
theorem leading_eq_some_iff {given : List (Except Failure α)} {values : List α}
    {failure : Failure} : leading given = (values, some failure) ↔
      ∃ rest, given = values.map .ok ++ .error failure :: rest := by
  induction given generalizing values with
  | nil => simp [leading]
  | cons first rest ih =>
    cases first with
    | error other =>
      cases values with
      | nil => simp [leading]
      | cons value values => simp [leading]
    | ok value =>
      cases values with
      | nil => simp [leading]
      | cons other values =>
        have later := @ih values
        rw [Prod.ext_iff] at later ⊢
        simp [leading, later, and_assoc]

/-- A list of as many values as there are coordinates, of which one is none, so that the column gets
only those before it. -/
def Breaks (c : Coordinates α) (ordinate : Int) (column : Column α) (failure : Failure)
    (c' : Coordinates α) : Prop :=
  c.frozen = false ∧ ∃ j values rest, c.columnPosition ordinate = .ok j ∧
    column = .each (values.map .ok ++ .error failure :: rest) ∧
    (values.map Except.ok ++ .error failure :: rest).length = c.size ∧ c' = c.fill j values

/-- A column gives nothing, or all of its values, or those before the first failure. -/
theorem Column.spread_cases (column : Column α) (size : Nat) :
    (∃ failure, column.spread size = ([], some failure)) ∨ (column.spread size).2 = none ∨
      ∃ failure values rest, column = .each (values.map .ok ++ .error failure :: rest) ∧
        (values.map Except.ok ++ .error failure :: rest).length = size ∧
        column.spread size = (values, some failure) := by
  cases column with
  | every given =>
    cases given with
    | error failure => exact .inl ⟨failure, rfl⟩
    | ok value => exact .inr (.inl rfl)
  | each given =>
    rw [spread]
    split
    · rename_i long
      cases stops : (leading given).2 with
      | none => exact .inr (.inl rfl)
      | some failure =>
        have led : leading given = ((leading given).1, some failure) := Prod.ext rfl stops
        obtain ⟨rest, split⟩ := leading_eq_some_iff.mp led
        exact .inr (.inr ⟨failure, _, rest, by rw [← split], by rw [← split, long], led⟩)
    · split
      · exact .inl ⟨_, rfl⟩
      · exact .inr (.inl rfl)
      · exact .inl ⟨_, rfl⟩

theorem fill_nil (c : Coordinates α) (j : Nat) : c.fill j [] = c :=
  Coordinates.ext rfl (List.ext_getElem (by simp [fill, setRows]) (by simp [fill, setRows])) rfl

/-- A column gets nothing, or all that is meant for it, or it breaks off. -/
theorem setColumn_cases (c : Coordinates α) (ordinate : Int) (column : Column α) :
    (∃ failure, c.setColumn ordinate column = (c, some failure)) ∨
      (c.frozen = false ∧ (c.setColumn ordinate column).2 = none) ∨
      ∃ failure, (c.setColumn ordinate column).2 = some failure ∧
        c.Breaks ordinate column failure (c.setColumn ordinate column).1 := by
  unfold setColumn
  split
  · exact .inl ⟨_, rfl⟩
  rename_i loose
  have loose : c.frozen = false := Bool.eq_false_iff.mpr loose
  split
  · exact .inl ⟨_, rfl⟩
  rename_i j placed
  obtain ⟨_, _, placed⟩ := bind_eq_ok.mp placed
  obtain ⟨failure, unfilled⟩ | full | ⟨failure, values, rest, given, long, partly⟩ :=
    column.spread_cases c.size
  · exact .inl ⟨failure, by rw [unfilled, fill_nil]⟩
  · exact .inr (.inl ⟨loose, full⟩)
  · refine .inr (.inr ⟨failure, by rw [partly], loose, j, values, rest, placed, given, long, ?_⟩)
    rw [partly]

/-- Part of the coordinates is handed out frozen. -/
theorem frozen_slice {start stop : Int} (partly : c.isWhole start stop = false) :
    (c.slice start stop).frozen = true := by
  rw [slice, if_neg (Bool.eq_false_iff.mp partly)]
  rfl

end Coordinates

/-- A column is written as far as its values go, and a frozen one not at all. -/
theorem Action.alters_setColumn {action : Action α} {name : String}
    (changed : action.changes? = some name) (written : action.writes? = some name)
    (c : Coordinates α) (ordinate : Int) (column : Coordinates.Column α) :
    action.Alters name c (c.setColumn ordinate column).1 := by
  obtain ⟨failure, same⟩ | ⟨loose, -⟩ | ⟨failure, -, loose, -⟩ :=
    c.setColumn_cases ordinate column
  · rw [same]
    exact alters_refl c
  · exact alters_of_not_frozen changed written loose _
  · exact alters_of_not_frozen changed written loose _

namespace Store

variable {s next : Store α} {action : Action α} {name other target : String} {i : Nat}
  {c : Coordinates α}

/-! Names and cells. -/

theorem cell?_bind (s : Store α) (name : String) (i : Nat) (other : String) :
    (s.bind name i).cell? other = if name = other then some i else s.cell? other := by
  simp only [cell?, bind, List.lookup_cons]
  by_cases same : name = other
  · rw [if_pos same, beq_iff_eq.mpr same.symm]
  · rw [if_neg same, beq_eq_false_iff_ne.mpr (Ne.symm same)]

theorem cell?_allocate (s : Store α) (name : String) (c : Coordinates α) (other : String) :
    (s.allocate name c).cell? other =
      if name = other then some s.cells.length else s.cell? other :=
  cell?_bind ⟨s.cells ++ [c], s.bindings⟩ name s.cells.length other

@[simp]
theorem cell?_write (s : Store α) (i : Nat) (c : Coordinates α) (name : String) :
    (s.write i c).cell? name = s.cell? name := rfl

theorem access_eq_ok :
    s.access name = .ok (i, c) ↔ s.cell? name = some i ∧ s.cells[i]? = some c := by
  unfold access
  split
  · rename_i unbound
    simp [unbound]
  · rename_i j bound
    split
    · rename_i empty
      simp only [bound, Option.some.injEq, reduceCtorEq, false_iff, not_and]
      rintro rfl
      simp [empty]
    · rename_i held
      simp only [bound, Option.some.injEq, Except.ok.injEq, Prod.mk.injEq]
      constructor
      · rintro ⟨rfl, rfl⟩
        exact ⟨rfl, held⟩
      · rintro ⟨rfl, same⟩
        exact ⟨rfl, Option.some.inj (held.symm.trans same)⟩

theorem find?_of_access (held : s.access name = .ok (i, c)) : s.find? name = some c := by
  obtain ⟨bound, full⟩ := access_eq_ok.mp held
  rw [find?, bound, Option.bind_some, full]

theorem exists_access (found : s.find? name = some c) : ∃ i, s.access name = .ok (i, c) := by
  obtain ⟨i, held⟩ := Option.bind_eq_some_iff.mp found
  exact ⟨i, access_eq_ok.mpr held⟩

theorem find?_of_cell? (bound : s.cell? name = some i) : s.find? name = s.cells[i]? := by
  rw [find?, bound, Option.bind_some]

theorem find?_congr (same : s.cell? name = s.cell? other) : s.find? name = s.find? other := by
  rw [find?, find?, same]

theorem write_self (held : s.access name = .ok (i, c)) : s.write i c = s := by
  obtain ⟨-, full⟩ := access_eq_ok.mp held
  obtain ⟨small, rfl⟩ := List.getElem?_eq_some_iff.mp full
  rw [write, List.set_getElem_self]

/-- A write is seen under every name of the cell, and under no other. -/
theorem find?_write (held : s.access name = .ok (i, c)) (c' : Coordinates α) (other : String) :
    (s.write i c').find? other =
      if s.cell? other = some i then some c' else s.find? other := by
  obtain ⟨-, full⟩ := access_eq_ok.mp held
  obtain ⟨small, -⟩ := List.getElem?_eq_some_iff.mp full
  have unmoved := cell?_write s i c' other
  split
  · rename_i shared
    rw [find?_of_cell? (unmoved.trans shared), write, List.getElem?_set_self small]
  · rename_i apart
    cases bound : s.cell? other with
    | none => rw [find?, find?, unmoved, bound, Option.bind_none, Option.bind_none]
    | some j =>
      have differs : i ≠ j := fun same => apart (same ▸ bound)
      rw [find?_of_cell? bound, find?_of_cell? (unmoved.trans bound), write,
        List.getElem?_set_ne differs]

def Proper (s : Store α) : Prop := ∀ name i, s.cell? name = some i → i < s.cells.length

theorem find?_allocate_self (s : Store α) (name : String) (c : Coordinates α) :
    (s.allocate name c).find? name = some c := by
  have bound : (s.allocate name c).cell? name = some s.cells.length := by
    rw [cell?_allocate, if_pos rfl]
  rw [find?_of_cell? bound, allocate, List.getElem?_concat_length]

/-- A new cell is seen under its own name only. -/
theorem find?_allocate_of_ne (proper : s.Proper) (c : Coordinates α) (differs : name ≠ other) :
    (s.allocate name c).find? other = s.find? other := by
  have unmoved : (s.allocate name c).cell? other = s.cell? other := by
    rw [cell?_allocate, if_neg differs]
  cases bound : s.cell? other with
  | none => rw [find?, find?, unmoved, bound, Option.bind_none, Option.bind_none]
  | some j =>
    rw [find?_of_cell? bound, find?_of_cell? (unmoved.trans bound), allocate,
      List.getElem?_append_left (proper other j bound)]

theorem find?_bind_of_ne (s : Store α) (i : Nat) (differs : name ≠ other) :
    (s.bind name i).find? other = s.find? other := by
  rw [find?, find?, cell?_bind, if_neg differs]
  rfl

/-! What an action that succeeds does to the store. -/

/-- The name whose coordinates are taken over by the name that the action binds: by sharing them,
or by a slice that is the sequence itself. -/
def source? (s : Store α) : Action α → Option String
  | .share name _ => some name
  | .slice name start stop _ =>
    if (s.find? name).any (·.isWhole start stop) then some name else none
  | _ => none

/-- From a store to the next one by an action. -/
inductive Effect (s : Store α) (action : Action α) : Store α → Prop where
  | keeps (unbound : action.target? = none) : Effect s action s
  | makes (target : String) (c : Coordinates α) (bound : action.target? = some target)
    (new : s.source? action = none) : Effect s action (s.allocate target c)
  | alters (name : String) (i : Nat) (c c' : Coordinates α) (unbound : action.target? = none)
    (held : s.access name = .ok (i, c)) (altered : action.Alters name c c') :
    Effect s action (s.write i c')
  | passes (name target : String) (i : Nat) (c c' : Coordinates α)
    (bound : action.target? = some target) (taken : s.source? action = some name)
    (held : s.access name = .ok (i, c)) (altered : action.Alters name c c') :
    Effect s action ((s.write i c').bind target i)

theorem effect_of_observe {look : Coordinates α → Except Failure (Observation α)}
    {reply : Reply α} (unbound : action.target? = none)
    (ok : s.observe name look = .ok (next, reply)) : Effect s action next := by
  obtain ⟨_, _, ok⟩ := bind_eq_ok.mp ok
  obtain ⟨_, _, ok⟩ := bind_eq_ok.mp ok
  cases ok
  exact .keeps unbound

theorem effect_of_change {observation : Observation α}
    {f : Coordinates α → Except Failure (Coordinates α)} {reply : Reply α}
    (unbound : action.target? = none) (allowed : ∀ c c', f c = .ok c' → action.Alters name c c')
    (ok : s.change name observation f = .ok (next, reply)) : Effect s action next := by
  obtain ⟨⟨i, c⟩, held, ok⟩ := bind_eq_ok.mp ok
  obtain ⟨c', changed, ok⟩ := bind_eq_ok.mp ok
  cases ok
  exact .alters name i c c' unbound held (allowed c c' changed)

section Performing

variable [Ordinate α] {memory : Option Nat} {reply : Reply α}

theorem effect_of_slice {start stop : Int}
    (ok : s.perform memory (.slice name start stop target) = .ok (next, reply)) :
    Effect s (.slice name start stop target) next := by
  obtain ⟨⟨i, c⟩, held, ok⟩ := bind_eq_ok.mp ok
  have found := find?_of_access held
  dsimp only at ok
  split at ok
  · rename_i whole
    cases ok
    have taken : s.source? (.slice name start stop target) = some name := by
      rw [source?, found, Option.any_some, if_pos whole]
    have passed := Effect.passes name target i c c rfl taken held (Action.alters_refl c)
    rwa [write_self held] at passed
  · rename_i partly
    cases ok
    have new : s.source? (.slice name start stop target) = none := by
      rw [source?, found, Option.any_some, if_neg partly]
    exact .makes target _ rfl new

theorem effect_of_perform (ok : s.perform memory action = .ok (next, reply)) :
    Effect s action next := by
  cases action with
  | make name count dimension cap =>
    obtain ⟨c, _, ok⟩ := bind_eq_ok.mp ok
    cases ok
    exact .makes name c rfl rfl
  | load name given =>
    obtain ⟨c, _, ok⟩ := bind_eq_ok.mp ok
    cases ok
    exact .makes name _ rfl rfl
  | share name target =>
    obtain ⟨⟨i, c⟩, held, ok⟩ := bind_eq_ok.mp ok
    cases ok
    exact .passes name target i c c.freeze rfl rfl held (Action.alters_freeze rfl c)
  | slice name start stop target => exact effect_of_slice ok
  | set name index ordinate given =>
    exact effect_of_change rfl (fun _ c' set => Action.alters_of_not_frozen rfl rfl
      (Coordinates.not_frozen_of_set set) c') ok
  | setColumn name ordinate column =>
    rw [perform] at ok
    refine effect_of_change rfl (fun c c' set => ?_) ok
    cases ended : (c.setColumn ordinate column).2 with
    | none =>
      rw [ended] at set
      cases set
      exact Action.alters_setColumn rfl rfl c ordinate column
    | some failure =>
      rw [ended] at set
      cases set
  | freeze name =>
    rw [perform] at ok
    refine effect_of_change rfl (fun c c' frozen => ?_) ok
    cases frozen
    exact Action.alters_freeze rfl c
  | get name index ordinate =>
    rw [perform] at ok
    exact effect_of_observe rfl ok
  | coordinate name index =>
    rw [perform] at ok
    exact effect_of_observe rfl ok
  | xy name =>
    rw [perform] at ok
    exact effect_of_observe rfl ok
  | describe name =>
    rw [perform] at ok
    exact effect_of_observe rfl ok
  | look name =>
    rw [perform] at ok
    exact effect_of_observe rfl ok

end Performing

/-- What is written shows under the names of the cell. -/
theorem find?_write_cases {c' : Coordinates α} (held : s.access name = .ok (i, c))
    (altered : action.Alters name c c') :
    (s.write i c').find? other = s.find? other ∨ ∃ source j d d', s.access source = .ok (j, d) ∧
      s.cell? other = some j ∧ action.Alters source d d' ∧
        (s.write i c').find? other = some d' := by
  by_cases shared : s.cell? other = some i
  · exact .inr ⟨name, i, c, c', held, shared, altered, by rw [find?_write held, if_pos shared]⟩
  · exact .inl (by rw [find?_write held, if_neg shared])

namespace Effect

/-- Under a name that the action does not bind there is what was there before, or what the action
has made of it. -/
theorem find?_cases (effect : Effect s action next) (proper : s.Proper)
    (unbound : action.target? ≠ some other) :
    next.find? other = s.find? other ∨ ∃ source i c c', s.access source = .ok (i, c) ∧
      s.cell? other = some i ∧ action.Alters source c c' ∧ next.find? other = some c' := by
  cases effect with
  | keeps => exact .inl rfl
  | makes target c bound =>
    have differs : target ≠ other := fun same => unbound (same ▸ bound)
    exact .inl (find?_allocate_of_ne proper c differs)
  | alters name i c c' _ held altered => exact find?_write_cases held altered
  | passes name target i c c' bound _ held altered =>
    have differs : target ≠ other := fun same => unbound (same ▸ bound)
    rw [find?_bind_of_ne _ i differs]
    exact find?_write_cases held altered

/-- Frozen coordinates stay as they are under each name that is not bound again. -/
theorem find?_of_frozen (effect : Effect s action next) (proper : s.Proper)
    (unbound : action.target? ≠ some name) (found : s.find? name = some c)
    (frozen : c.frozen = true) : next.find? name = some c := by
  obtain same | ⟨source, i, d, d', held, bound, altered, found'⟩ :=
    effect.find?_cases proper unbound
  · rw [same, found]
  · have shared : s.find? name = some d :=
      (find?_congr (bound.trans (access_eq_ok.mp held).1.symm)).trans (find?_of_access held)
    obtain rfl : c = d := Option.some.inj (found.symm.trans shared)
    rw [found', altered.frozen frozen]

theorem proper (effect : Effect s action next) (proper : s.Proper) : next.Proper := by
  intro name j bound
  cases effect with
  | keeps => exact proper name j bound
  | makes target c =>
    rw [cell?_allocate] at bound
    rw [allocate, List.length_append, List.length_singleton]
    split at bound
    · cases bound
      exact Nat.lt_succ_self _
    · exact Nat.lt_succ_of_lt (proper name j bound)
  | alters source i c c' =>
    rw [write, List.length_set]
    exact proper name j bound
  | passes source target i c c' _ _ held =>
    rw [cell?_bind] at bound
    rw [bind, write, List.length_set]
    split at bound
    · cases bound
      exact proper source j (access_eq_ok.mp held).1
    · exact proper name j bound

end Effect

/-! What an action that fails leaves behind. -/

/-- A failed action changes nothing, unless it breaks off a column. -/
theorem leftover_cases (s : Store α) (action : Action α) :
    s.leftover action = s ∨ action.target? = none ∧ Effect s action (s.leftover action) := by
  unfold leftover
  split
  · rename_i name ordinate column
    split
    · exact .inl rfl
    · rename_i i c held
      exact .inr ⟨rfl, .alters name i c _ rfl held (Action.alters_setColumn rfl rfl c _ _)⟩
  · exact .inl rfl

variable [Ordinate α] {memory : Option Nat} {failure : Failure}

/-- Under a name there is what was there before, or what a column that broke off has left there. -/
theorem find?_leftover (failed : s.perform memory action = .error failure) (other : String) :
    (s.leftover action).find? other = s.find? other ∨
      ∃ name ordinate column i c c', action = .setColumn name ordinate column ∧
        s.access name = .ok (i, c) ∧ s.cell? other = some i ∧
        c.Breaks ordinate column failure c' ∧ (s.leftover action).find? other = some c' := by
  cases action with
  | setColumn name ordinate column =>
    cases held : s.access name with
    | error unnamed => exact .inl (by rw [leftover, held])
    | ok found =>
      obtain ⟨i, c⟩ := found
      have kept : s.leftover (.setColumn name ordinate column) =
          s.write i (c.setColumn ordinate column).1 := by rw [leftover, held]
      have performed : s.perform memory (.setColumn name ordinate column) =
          ((c.setColumn ordinate column).2.elim (Except.ok (c.setColumn ordinate column).1)
            Except.error).bind fun c' => .ok (s.write i c', ⟨.nothing, c'⟩) := by
        rw [perform, change, held]
        rfl
      rw [kept]
      obtain ⟨_, same⟩ | ⟨-, full⟩ | ⟨broken, ended, breaks⟩ := c.setColumn_cases ordinate column
      · exact .inl (by rw [same, write_self held])
      · rw [performed, full] at failed
        cases failed
      · rw [performed, ended] at failed
        cases failed
        by_cases shared : s.cell? other = some i
        · refine .inr ⟨name, ordinate, column, i, c, _, rfl, held, shared, breaks, ?_⟩
          rw [find?_write held, if_pos shared]
        · exact .inl (by rw [find?_write held, if_neg shared])
  | make | load | share | slice | set | freeze | get | coordinate | xy | describe | look =>
    exact .inl rfl

/-! Steps and runs. -/

variable (memory)

def binds (s : Store α) (action : Action α) (name : String) : Bool :=
  action.target? = some name && (s.step memory action).2.isOk

/-- An action either does nothing, and binds no name, or has an effect. -/
theorem step_cases (s : Store α) (action : Action α) :
    ((s.step memory action).1 = s ∧ ∀ name, s.binds memory action name = false) ∨
      Effect s action (s.step memory action).1 ∧
        ∀ name, s.binds memory action name = decide (action.target? = some name) := by
  cases performed : s.perform memory action with
  | error failure =>
    have stepped : s.step memory action = (s.leftover action, .error failure) := by
      rw [step, performed]
    have unbound : ∀ name, s.binds memory action name = false := by
      intro name
      rw [binds, stepped]
      exact Bool.and_false _
    rw [stepped]
    obtain same | ⟨targetless, effect⟩ := s.leftover_cases action
    · exact .inl ⟨same, unbound⟩
    · refine .inr ⟨effect, fun name => ?_⟩
      rw [unbound, targetless]
      rfl
  | ok result =>
    obtain ⟨next, reply⟩ := result
    have stepped : s.step memory action = (next, .ok reply) := by rw [step, performed]
    refine .inr ⟨by simpa only [stepped] using effect_of_perform performed, fun name => ?_⟩
    rw [binds, stepped]
    exact Bool.and_true _

variable {memory}

theorem step_of_failed (failed : (s.step memory action).2 = .error failure) :
    s.perform memory action = .error failure ∧ (s.step memory action).1 = s.leftover action := by
  unfold step at failed ⊢
  split
  · rename_i performed
    rw [performed] at failed
    cases failed
  · rename_i performed
    rw [performed] at failed
    cases failed
    exact ⟨performed, rfl⟩

theorem proper_step (proper : s.Proper) (action : Action α) : (s.step memory action).1.Proper := by
  obtain ⟨same, -⟩ | ⟨effect, -⟩ := s.step_cases memory action
  · rwa [same]
  · exact effect.proper proper

theorem find?_step_of_frozen (proper : s.Proper) (spared : s.binds memory action name = false)
    (found : s.find? name = some c) (frozen : c.frozen = true) :
    (s.step memory action).1.find? name = some c := by
  obtain ⟨same, -⟩ | ⟨effect, bound⟩ := s.step_cases memory action
  · rw [same, found]
  · have unbound : action.target? ≠ some name := of_decide_eq_false ((bound name).symm.trans spared)
    exact effect.find?_of_frozen proper unbound found frozen

theorem find?_step_slice (found : s.find? name = some c) {start stop : Int}
    (partly : c.isWhole start stop = false) (target : String) :
    (s.step memory (.slice name start stop target)).1.find? target = some (c.slice start stop) := by
  obtain ⟨i, held⟩ := exists_access found
  have performed : s.perform memory (.slice name start stop target) =
      .ok (s.allocate target (c.slice start stop), ⟨.identity false, c.slice start stop⟩) := by
    rw [perform, held]
    exact if_neg (Bool.eq_false_iff.mp partly)
  rw [step, performed, find?_allocate_self]

def after (memory : Option Nat) (s : Store α) (actions : List (Action α)) : Store α :=
  (s.run memory actions).1

theorem after_cons (s : Store α) (action : Action α) (rest : List (Action α)) :
    s.after memory (action :: rest) = (s.step memory action).1.after memory rest := rfl

theorem after_append (s : Store α) (first second : List (Action α)) :
    s.after memory (first ++ second) = (s.after memory first).after memory second := by
  induction first generalizing s with
  | nil => rfl
  | cons action rest ih =>
    rw [List.cons_append, after_cons, after_cons, ih]

def Spares (memory : Option Nat) (s : Store α) (name : String) : List (Action α) → Prop
  | [] => True
  | action :: rest =>
    s.binds memory action name = false ∧ (s.step memory action).1.Spares memory name rest

/-- Frozen coordinates outlast any run that spares their name. The induction is on the actions. -/
theorem find?_after_of_frozen (proper : s.Proper) (found : s.find? name = some c)
    (frozen : c.frozen = true) {actions : List (Action α)} (spared : s.Spares memory name actions) :
    (s.after memory actions).find? name = some c := by
  induction actions generalizing s with
  | nil => exact found
  | cons action rest ih =>
    obtain ⟨first, later⟩ := spared
    exact ih (proper_step proper action) (find?_step_of_frozen proper first found frozen) later

end Store

/-! Where the coordinates of a name come from. -/

/-- A store, with the action that has made the coordinates of each name. Actions are told apart by
their number. -/
structure Lineage (α : Type) where
  store : Store α
  maker : String → Option Nat
  count : Nat

namespace Lineage

variable {lineage : Lineage α} {name other : String}

def empty : Lineage α := ⟨.empty, fun _ => none, 0⟩

/-- Both names are bound, to coordinates made by the same action. -/
def Shares (lineage : Lineage α) (name other : String) : Prop :=
  ∃ k, lineage.maker name = some k ∧ lineage.maker other = some k

/-- Names have the same cell just if they go back to the same action. -/
structure Tracks (lineage : Lineage α) : Prop where
  proper : lineage.store.Proper
  past : ∀ name k, lineage.maker name = some k → k < lineage.count
  bound : ∀ name, lineage.maker name = none ↔ lineage.store.cell? name = none
  same : ∀ name other, lineage.maker name = lineage.maker other ↔
    lineage.store.cell? name = lineage.store.cell? other

theorem tracks_empty : (empty : Lineage α).Tracks where
  proper _ _ bound := by cases bound
  past _ _ made := by cases made
  bound _ := ⟨fun _ => rfl, fun _ => rfl⟩
  same _ _ := ⟨fun _ => rfl, fun _ => rfl⟩

namespace Tracks

variable {next : Lineage α} {action : Action α} {target : String} {k i : Nat}

theorem still (tracks : lineage.Tracks) (proper : next.store.Proper)
    (later : lineage.count ≤ next.count) (makers : ∀ name, next.maker name = lineage.maker name)
    (cells : ∀ name, next.store.cell? name = lineage.store.cell? name) : next.Tracks where
  proper := proper
  past name k made := Nat.lt_of_lt_of_le (tracks.past name k ((makers name).symm.trans made)) later
  bound name := by
    rw [makers, cells]
    exact tracks.bound name
  same name other := by
    rw [makers, makers, cells, cells]
    exact tracks.same name other

/-- The names that the target joins by its maker are those that it joins by its cell. -/
theorem rebind (tracks : lineage.Tracks) (proper : next.store.Proper)
    (later : lineage.count < next.count) (past : k ≤ lineage.count)
    (makers : ∀ name, next.maker name = if target = name then some k else lineage.maker name)
    (cells : ∀ name,
      next.store.cell? name = if target = name then some i else lineage.store.cell? name)
    (joined : ∀ name, lineage.maker name = some k ↔ lineage.store.cell? name = some i) :
    next.Tracks where
  proper := proper
  past name j made := by
    rw [makers] at made
    split at made
    · cases made
      omega
    · exact Nat.lt_trans (tracks.past name j made) later
  bound name := by
    rw [makers, cells]
    split
    · simp
    · exact tracks.bound name
  same name other := by
    rw [makers, makers, cells, cells]
    split
    · split
      · simp
      · rw [eq_comm, joined other, eq_comm]
    · split
      · exact joined name
      · exact tracks.same name other

/-- An effect binds names in the store as the lineage has it. -/
theorem of_effect (tracks : lineage.Tracks) (proper : next.store.Proper)
    (later : lineage.count < next.count) (effect : lineage.store.Effect action next.store)
    (makers : ∀ name, next.maker name =
      if action.target? = some name then
        ((lineage.store.source? action).map lineage.maker).getD (some lineage.count)
      else lineage.maker name) : next.Tracks := by
  generalize reached : next.store = store at effect
  cases effect with
  | keeps unbound =>
    refine tracks.still proper (Nat.le_of_lt later) (fun name => ?_) (fun name => ?_)
    · rw [makers, unbound, if_neg nofun]
    · rw [reached]
  | alters source i c c' unbound =>
    refine tracks.still proper (Nat.le_of_lt later) (fun name => ?_) (fun name => ?_)
    · rw [makers, unbound, if_neg nofun]
    · rw [reached, Store.cell?_write]
  | makes target c bound new =>
    have cells : ∀ name, next.store.cell? name = if target = name then
        some lineage.store.cells.length else lineage.store.cell? name := by
      intro name
      rw [reached, Store.cell?_allocate]
    refine tracks.rebind proper later (Nat.le_refl _) (fun name => ?_) cells (fun name => ?_)
    · simp only [makers, bound, new, Option.some.injEq, Option.map_none, Option.getD_none]
    · refine iff_of_false (fun made => ?_) (fun held => ?_)
      · exact Nat.lt_irrefl _ (tracks.past name _ made)
      · exact Nat.lt_irrefl _ (tracks.proper name _ held)
  | passes source target i c c' bound taken held =>
    have cell := (Store.access_eq_ok.mp held).1
    have cells : ∀ name, next.store.cell? name = if target = name then some i
        else lineage.store.cell? name := by
      intro name
      rw [reached, Store.cell?_bind, Store.cell?_write]
    cases made : lineage.maker source with
    | none => exact absurd (cell.symm.trans ((tracks.bound source).mp made)) nofun
    | some k =>
      have past : k ≤ lineage.count := Nat.le_of_lt (tracks.past source k made)
      refine tracks.rebind proper later past (fun name => ?_) cells (fun name => ?_)
      · simp only [makers, bound, taken, made, Option.some.injEq, Option.map_some,
          Option.getD_some]
      · rw [← made, ← cell]
        exact tracks.same name source

end Tracks

/-- Names go back to the same action just if they have the same cell. -/
theorem Tracks.shares_iff (tracks : lineage.Tracks) :
    lineage.Shares name other ↔
      ∃ i, lineage.store.cell? name = some i ∧ lineage.store.cell? other = some i := by
  constructor
  · rintro ⟨k, made, made'⟩
    cases bound : lineage.store.cell? name with
    | none => exact absurd (made.symm.trans ((tracks.bound name).mpr bound)) nofun
    | some i =>
      have same := (tracks.same name other).mp (made.trans made'.symm)
      exact ⟨i, rfl, same.symm.trans bound⟩
  · rintro ⟨i, bound, bound'⟩
    cases made : lineage.maker name with
    | none => exact absurd (bound.symm.trans ((tracks.bound name).mp made)) nofun
    | some k =>
      have same := (tracks.same name other).mpr (bound.trans bound'.symm)
      exact ⟨k, made, same.symm.trans made⟩

variable [Ordinate α]

/-- A name that is bound takes over the maker of the coordinates that it takes over; other
coordinates are made by the action itself. -/
def step (memory : Option Nat) (lineage : Lineage α) (action : Action α) : Lineage α where
  store := (lineage.store.step memory action).1
  maker name :=
    if lineage.store.binds memory action name then
      ((lineage.store.source? action).map lineage.maker).getD (some lineage.count)
    else lineage.maker name
  count := lineage.count + 1

/-- Under a name that the action does not bind there is what was there before, or what the action
has made of it through a name that shares it. -/
theorem find?_step_cases (tracks : lineage.Tracks) {action : Action α}
    (spared : lineage.store.binds memory action name = false) :
    (lineage.store.step memory action).1.find? name = lineage.store.find? name ∨
      ∃ source c c', lineage.Shares source name ∧ lineage.store.find? name = some c ∧
        action.Alters source c c' ∧ (lineage.store.step memory action).1.find? name = some c' := by
  obtain ⟨same, -⟩ | ⟨effect, bound⟩ := lineage.store.step_cases memory action
  · exact .inl (by rw [same])
  have unbound : action.target? ≠ some name := of_decide_eq_false ((bound name).symm.trans spared)
  refine (effect.find?_cases tracks.proper unbound).imp_right ?_
  rintro ⟨source, i, c, c', held, cell, altered, found⟩
  obtain ⟨cell', full⟩ := Store.access_eq_ok.mp held
  exact ⟨source, c, c', tracks.shares_iff.mpr ⟨i, cell', cell⟩,
    (Store.find?_of_cell? cell).trans full, altered, found⟩

/-- An action keeps track, whether it fails or not. -/
theorem tracks_step (tracks : lineage.Tracks) (action : Action α) :
    (lineage.step memory action).Tracks := by
  have proper : (lineage.step memory action).store.Proper := Store.proper_step tracks.proper action
  have later : lineage.count < (lineage.step memory action).count := Nat.lt_succ_self _
  obtain ⟨same, spared⟩ | ⟨effect, bound⟩ := lineage.store.step_cases memory action
  · refine tracks.still proper (Nat.le_of_lt later) (fun name => ?_) (fun name => ?_)
    · simp only [step, spared name, Bool.false_eq_true, if_false]
    · simp only [step, same]
  · refine tracks.of_effect proper later effect fun name => ?_
    simp only [step, bound name, decide_eq_true_eq]

theorem tracks_foldl (tracks : lineage.Tracks) (actions : List (Action α)) :
    (actions.foldl (step memory) lineage).Tracks := by
  induction actions generalizing lineage with
  | nil => exact tracks
  | cons action rest ih => exact ih (tracks_step tracks action)

theorem store_foldl (lineage : Lineage α) (actions : List (Action α)) :
    (actions.foldl (step memory) lineage).store = lineage.store.after memory actions := by
  induction actions generalizing lineage with
  | nil => rfl
  | cons action rest ih => exact ih (lineage.step memory action)

def ofActions (memory : Option Nat) (actions : List (Action α)) : Lineage α :=
  actions.foldl (step memory) empty

theorem store_ofActions (memory : Option Nat) (actions : List (Action α)) :
    (ofActions memory actions).store = Store.empty.after memory actions :=
  store_foldl empty actions

theorem tracks_ofActions (memory : Option Nat) (actions : List (Action α)) :
    (ofActions memory actions).Tracks :=
  tracks_foldl tracks_empty actions

end Lineage

variable [Ordinate α]

open Store Lineage

/-- What holds of the store that the actions lead to, whatever is done next. -/
structure Confines (memory : Option Nat) (before : List (Action α)) : Prop where
  /-- Frozen coordinates stay what they are under their name, until it is bound again. -/
  frozen : ∀ name c later, (Store.empty.after memory before).find? name = some c →
    c.frozen = true → (Store.empty.after memory before).Spares memory name later →
    (Store.empty.after memory (before ++ later)).find? name = some c
  /-- An action that fails changes nothing under any name, unless it breaks off a column of
  coordinates that the name shares. -/
  failing : ∀ action failure,
    ((Store.empty.after memory before).step memory action).2 = .error failure → ∀ name,
      (Store.empty.after memory (before ++ [action])).find? name =
          (Store.empty.after memory before).find? name ∨
        ∃ source ordinate column c c', action = .setColumn source ordinate column ∧
          (ofActions memory before).Shares source name ∧
          (Store.empty.after memory before).find? name = some c ∧
          c.Breaks ordinate column failure c' ∧
          (Store.empty.after memory (before ++ [action])).find? name = some c'
  /-- Names that share coordinates show the same ones. -/
  alike : ∀ name other, (ofActions memory before).Shares name other →
    (Store.empty.after memory before).find? name = (Store.empty.after memory before).find? other
  /-- What an action changes under a name that it does not bind it changes through a name that
  shares the coordinates. -/
  changes : ∀ action name, (Store.empty.after memory before).binds memory action name = false →
    (Store.empty.after memory (before ++ [action])).find? name ≠
      (Store.empty.after memory before).find? name →
    ∃ source, action.changes? = some source ∧ (ofActions memory before).Shares source name
  /-- Ordinates change by being written. -/
  writes : ∀ action name c c', (Store.empty.after memory before).binds memory action name = false →
    (Store.empty.after memory before).find? name = some c →
    (Store.empty.after memory (before ++ [action])).find? name = some c' → c'.rows ≠ c.rows →
    ∃ source, action.writes? = some source ∧ (ofActions memory before).Shares source name
  /-- A slice that is not the whole of a sequence stays what it was when it was taken, whatever
  becomes of the sequence. -/
  detached : ∀ name start stop target c later,
    (Store.empty.after memory before).find? name = some c → c.isWhole start stop = false →
    (Store.empty.after memory (before ++ [.slice name start stop target])).Spares memory target
      later →
    (Store.empty.after memory (before ++ .slice name start stop target :: later)).find? target =
      some (c.slice start stop)

def brokenColumn : Action Exact :=
  .setColumn "a" 0 (.each [.ok ⟨some 7⟩, .error .beyondDoubles])

/-- What is written through a slice of the whole range shows under the name that was sliced, and not
under a name that was given a part of it before. -/
example :
    let s := (Store.empty : Store Exact).after none [.make "a" 2 1 none, .slice "a" 0 1 "part",
      .slice "a" 0 2 "whole", .set "whole" 0 0 (.ok ⟨some 7⟩)]
    (s.find? "a").map (·.rows) = some [[⟨some 7⟩], [⟨none⟩]] ∧
      (s.find? "part").map (·.rows) = some [[⟨none⟩]] := by
  decide +kernel

end TripletGeometry
