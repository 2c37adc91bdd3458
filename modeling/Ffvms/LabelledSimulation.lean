/-
Simulation between two labelled machines.

A step of the concrete machine is matched by any number of steps of the abstract one,
often by none.  The outputs are the same, so what is known of the outputs of abstract
runs holds for concrete ones.
-/

import Ffvms.LabelledRun

namespace Ffvms

namespace LabelledMachine

variable {State View Label Move Output : Type*}

/-- Steps that meet the guard are matched by steps that are allowed. -/
def Simulates (concrete : LabelledMachine State Label Output)
    (abstract : LabelledMachine View Move Output) (related : State → View → Prop)
    (guard : State → Label → Prop) (allowed : View → Move → Prop) : Prop :=
  ∀ state view label, related state view → guard state label →
    ∃ moves, related (concrete.next state label) (abstract.run view moves) ∧
      abstract.trace view moves = concrete.emit state label ∧
        abstract.Along allowed view moves

variable {concrete : LabelledMachine State Label Output}
  {abstract : LabelledMachine View Move Output} {related : State → View → Prop}
  {guard : State → Label → Prop} {allowed : View → Move → Prop}

theorem Simulates.run (simulates : concrete.Simulates abstract related guard allowed)
    {state : State} {view : View} (start : related state view) {labels : List Label}
    (along : concrete.Along guard state labels) :
    ∃ moves, related (concrete.run state labels) (abstract.run view moves) ∧
      abstract.trace view moves = concrete.trace state labels ∧
        abstract.Along allowed view moves := by
  induction labels generalizing state view with
  | nil => exact ⟨[], start, rfl, trivial⟩
  | cons label rest ih =>
      obtain ⟨first, related, outputs, met⟩ := simulates state view label start along.1
      obtain ⟨later, reached, others, stillMet⟩ := ih related along.2
      refine ⟨first ++ later, ?_, ?_, ?_⟩
      · rw [run_append]
        exact reached
      · rw [trace_append, outputs, others]
        rfl
      · exact (along_append allowed view first later).mpr ⟨met, stillMet⟩

theorem matched_by_none {state : State} {view : View} {label : Label}
    (still : related (concrete.next state label) view) (silent : concrete.emit state label = []) :
    ∃ moves, related (concrete.next state label) (abstract.run view moves) ∧
      abstract.trace view moves = concrete.emit state label ∧
        abstract.Along allowed view moves :=
  ⟨[], still, silent.symm, trivial⟩

theorem matched_by_one {state : State} {view : View} {label : Label} (move : Move)
    (reached : related (concrete.next state label) (abstract.next view move))
    (same : abstract.emit view move = concrete.emit state label) (met : allowed view move) :
    ∃ moves, related (concrete.next state label) (abstract.run view moves) ∧
      abstract.trace view moves = concrete.emit state label ∧
        abstract.Along allowed view moves := by
  refine ⟨[move], reached, ?_, met, trivial⟩
  rw [trace_cons, trace_nil, List.append_nil]
  exact same

end LabelledMachine

end Ffvms
