/-
Lock programs with undefined behaviour.

The body of a stage takes time, from the moment its thread is inside it until it is run.
Two threads race while they are inside stages that touch the same part of the data, one of
them in order to write it.  What the body of a thread leaves behind that races with
another one, or that follows a pointer to something that is gone, is anything at all.
-/

import Ffvms.LockProgram

namespace Ffvms

def Point.inside? {Stage : Type} : Point Stage → Option Stage
  | .inside stage => some stage
  | _ => none

theorem Point.inside?_eq_some {Stage : Type} {point : Point Stage} {stage : Stage} :
    point.inside? = some stage ↔ point = .inside stage := by
  cases point <;> simp [inside?]

namespace LockProgram

open ThreadState

/-- What the bodies of the stages touch, in shared mode if they read it and in exclusive mode
if they write it, and whether they follow a pointer that leads nowhere. -/
structure Hazards (Data Stage Region : Type) where
  touches : Data → Stage → List (Region × LockMode)
  dangles : Data → Stage → Bool

variable {Thread Data Call Stage Lock Region : Type}

def Overlap (first second : List (Region × LockMode)) : Prop :=
  ∃ mine ∈ first, ∃ theirs ∈ second, mine.1 = theirs.1 ∧ mine.2.Conflicts theirs.2

instance [DecidableEq Region] (first second : List (Region × LockMode)) :
    Decidable (Overlap first second) :=
  inferInstanceAs (Decidable (∃ mine ∈ first, ∃ theirs ∈ second, _))

namespace Hazards

variable (hazards : Hazards Data Stage Region)

def touched (state : ThreadState Thread Data Stage Lock) (thread : Thread) :
    List (Region × LockMode) :=
  (state.points thread).inside?.elim [] (hazards.touches state.data)

def Races (state : ThreadState Thread Data Stage Lock) (thread other : Thread) : Prop :=
  thread ≠ other ∧ Overlap (hazards.touched state thread) (hazards.touched state other)

instance [DecidableEq Thread] [DecidableEq Region] (state : ThreadState Thread Data Stage Lock)
    (thread other : Thread) : Decidable (hazards.Races state thread other) :=
  inferInstanceAs (Decidable (_ ∧ _))

def Dangles (state : ThreadState Thread Data Stage Lock) (thread : Thread) : Prop :=
  (state.points thread).inside?.any (hazards.dangles state.data) = true

instance (state : ThreadState Thread Data Stage Lock) (thread : Thread) :
    Decidable (hazards.Dangles state thread) :=
  inferInstanceAs (Decidable (_ = _))

variable {hazards}

theorem Races.inside {state : ThreadState Thread Data Stage Lock} {thread other : Thread}
    (races : hazards.Races state thread other) :
    ∃ stage begun, state.points thread = .inside stage ∧ state.points other = .inside begun ∧
      Overlap (hazards.touches state.data stage) (hazards.touches state.data begun) := by
  obtain ⟨_, overlap⟩ := races
  cases mine : (state.points thread).inside? with
  | none =>
      obtain ⟨_, member, _⟩ := overlap
      rw [touched, mine] at member
      cases member
  | some stage =>
      cases theirs : (state.points other).inside? with
      | none =>
          obtain ⟨_, _, _, member, _⟩ := overlap
          rw [touched, theirs] at member
          cases member
      | some begun =>
          rw [touched, touched, mine, theirs] at overlap
          exact ⟨stage, begun, Point.inside?_eq_some.mp mine, Point.inside?_eq_some.mp theirs,
            overlap⟩

end Hazards

theorem Scopes.Orderly.not_both {program : LockProgram Data Call Stage Lock}
    {scopes : program.Scopes} {state : ThreadState Thread Data Stage Lock} {thread other : Thread}
    {stage begun : Stage} {lock : Lock} {mode taken : LockMode} (orderly : scopes.Orderly state)
    (different : thread ≠ other) (here : state.points thread = .inside stage)
    (there : state.points other = .inside begun) (mine : (lock, mode) ∈ scopes.inner stage)
    (theirs : (lock, taken) ∈ scopes.inner begun) : ¬mode.Conflicts taken := by
  have fits := orderly.fits thread
  have others := orderly.fits other
  rw [here] at fits
  rw [there] at others
  refine orderly.exclusive thread other different lock mode taken ?_ ?_
  · rw [(fits : state.held thread = _)]
    exact mine
  · rw [(others : state.held other = _)]
    exact theirs

/-! ### Runs -/

/-- A step, and the state that it leaves behind if its behaviour is undefined. -/
structure HazardousStep (Thread Data Call Stage Lock : Type) where
  step : ThreadStep Thread Call
  ruin : ThreadState Thread Data Stage Lock

variable [Fintype Thread] [DecidableEq Thread] [DecidableEq Lock] [DecidableEq Region]

def performHazardous (program : LockProgram Data Call Stage Lock)
    (hazards : Hazards Data Stage Region) (state : ThreadState Thread Data Stage Lock)
    (label : HazardousStep Thread Data Call Stage Lock) : ThreadState Thread Data Stage Lock :=
  match label.step with
  | .run thread =>
      if hazards.Dangles state thread ∨ ∃ other, hazards.Races state thread other then label.ruin
      else program.perform state label.step
  | _ => program.perform state label.step

def hazardousMachine (program : LockProgram Data Call Stage Lock)
    (hazards : Hazards Data Stage Region) :
    LabelledMachine (ThreadState Thread Data Stage Lock)
      (HazardousStep Thread Data Call Stage Lock) Unit :=
  { next := program.performHazardous hazards
    emit := fun _ _ => [] }

variable {program : LockProgram Data Call Stage Lock} {hazards : Hazards Data Stage Region}
  {state : ThreadState Thread Data Stage Lock}

theorem performHazardous_eq (alive : ∀ thread, ¬hazards.Dangles state thread)
    (clear : ∀ thread other, ¬hazards.Races state thread other)
    (label : HazardousStep Thread Data Call Stage Lock) :
    program.performHazardous hazards state label = program.perform state label.step := by
  unfold performHazardous
  split
  next thread _ =>
    rw [if_neg]
    rintro (dangles | ⟨other, races⟩)
    · exact alive thread dangles
    · exact clear thread other races
  next => rfl

/-- A run in which nothing dangles and nothing races is a run of the program.  Both may be
concluded with what the states of the program keep. -/
theorem run_hazardous_eq
    {guard : ThreadState Thread Data Stage Lock → HazardousStep Thread Data Call Stage Lock → Prop}
    (inv : ThreadState Thread Data Stage Lock → Prop)
    (keeps : ∀ state step, inv state → inv (program.perform state step))
    (alive : ∀ state label, inv state → guard state label →
      ∀ thread, ¬hazards.Dangles state thread)
    (clear : ∀ state label, inv state → guard state label →
      ∀ thread other, ¬hazards.Races state thread other)
    (holds : inv state) {labels : List (HazardousStep Thread Data Call Stage Lock)}
    (guarded : (program.hazardousMachine hazards).Along guard state labels) :
    (program.hazardousMachine hazards).run state labels =
      program.machine.run state (labels.map HazardousStep.step) := by
  induction labels generalizing state with
  | nil => rfl
  | cons label rest ih =>
      have same : (program.hazardousMachine hazards).next state label =
          program.machine.next state label.step :=
        performHazardous_eq (alive state label holds guarded.1) (clear state label holds guarded.1)
          label
      have onward := guarded.2
      rw [same] at onward
      rw [LabelledMachine.run_cons, List.map_cons, LabelledMachine.run_cons, same]
      exact ih (keeps state label.step holds) onward

end LockProgram

end Ffvms
