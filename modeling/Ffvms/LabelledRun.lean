/-
Runs of a deterministic labelled machine.  Every choice of the environment is
part of the label, so that a run is a list of labels and a reachable state is
the end of a run.

The rules below turn facts about one step into facts about whole runs: an
invariant rule, a rule that locates an output in the run that produced it, and
a rule that finds the step at which a guard was first ignored.
-/

import Mathlib.Data.List.Basic

namespace Ffvms

/-- A step of the machine moves to `next` and produces the outputs in `emit`. -/
structure LabelledMachine (State Label Output : Type*) where
  next : State → Label → State
  emit : State → Label → List Output

namespace LabelledMachine

variable {State Label Output : Type*} (machine : LabelledMachine State Label Output)

def run (state : State) : List Label → State
  | [] => state
  | label :: rest => run (machine.next state label) rest

def trace (state : State) : List Label → List Output
  | [] => []
  | label :: rest => machine.emit state label ++ trace (machine.next state label) rest

/-- Each label of the run meets the guard in the state it is taken from. -/
def Along (guard : State → Label → Prop) (state : State) : List Label → Prop
  | [] => True
  | label :: rest => guard state label ∧ Along guard (machine.next state label) rest

instance Along.decidable (guard : State → Label → Prop)
    [∀ state label, Decidable (guard state label)] (state : State) :
    (labels : List Label) → Decidable (machine.Along guard state labels)
  | [] => isTrue trivial
  | label :: rest =>
      have := Along.decidable guard (machine.next state label) rest
      inferInstanceAs (Decidable (guard state label ∧ machine.Along guard _ rest))

variable {machine}

@[simp] theorem run_nil (state : State) : machine.run state [] = state := rfl

@[simp] theorem run_cons (state : State) (label : Label) (rest : List Label) :
    machine.run state (label :: rest) = machine.run (machine.next state label) rest := rfl

@[simp] theorem trace_nil (state : State) : machine.trace state [] = [] := rfl

@[simp] theorem trace_cons (state : State) (label : Label) (rest : List Label) :
    machine.trace state (label :: rest) =
      machine.emit state label ++ machine.trace (machine.next state label) rest := rfl

@[simp] theorem along_nil (guard : State → Label → Prop) (state : State) :
    machine.Along guard state [] := trivial

@[simp] theorem along_cons (guard : State → Label → Prop) (state : State)
    (label : Label) (rest : List Label) :
    machine.Along guard state (label :: rest) ↔
      guard state label ∧ machine.Along guard (machine.next state label) rest := Iff.rfl

theorem run_append (state : State) (first second : List Label) :
    machine.run state (first ++ second) = machine.run (machine.run state first) second := by
  induction first generalizing state with
  | nil => rfl
  | cons label rest ih => exact ih (machine.next state label)

theorem trace_append (state : State) (first second : List Label) :
    machine.trace state (first ++ second) =
      machine.trace state first ++ machine.trace (machine.run state first) second := by
  induction first generalizing state with
  | nil => rfl
  | cons label rest ih =>
      simp only [List.cons_append, trace_cons, run_cons, ih, List.append_assoc]

theorem along_append (guard : State → Label → Prop) (state : State)
    (first second : List Label) :
    machine.Along guard state (first ++ second) ↔
      machine.Along guard state first ∧
        machine.Along guard (machine.run state first) second := by
  induction first generalizing state with
  | nil => simp
  | cons label rest ih =>
      simp only [List.cons_append, along_cons, run_cons, ih, and_assoc]

theorem Along.and_labels {guard : State → Label → Prop} {property : Label → Prop}
    {state : State} {labels : List Label} (along : machine.Along guard state labels)
    (each : ∀ label ∈ labels, property label) :
    machine.Along (fun state label => guard state label ∧ property label) state labels := by
  induction labels generalizing state with
  | nil => trivial
  | cons label rest ih =>
      refine ⟨⟨along.1, each label List.mem_cons_self⟩, ih along.2 ?_⟩
      intro other member
      exact each other (List.mem_cons_of_mem label member)

/-! ### From steps to runs -/

theorem Along.invariant {guard : State → Label → Prop} (inv : State → Prop)
    {state : State} {labels : List Label}
    (preserve : ∀ state label, inv state → guard state label → inv (machine.next state label))
    (start : inv state) (along : machine.Along guard state labels) :
    inv (machine.run state labels) := by
  induction labels generalizing state with
  | nil => exact start
  | cons label rest ih => exact ih (preserve _ _ start along.1) along.2

theorem along_true (state : State) (labels : List Label) :
    machine.Along (fun _ _ => True) state labels := by
  induction labels generalizing state with
  | nil => trivial
  | cons label rest ih => exact ⟨trivial, ih _⟩

theorem run_invariant (inv : State → Prop) {state : State}
    (preserve : ∀ state label, inv state → inv (machine.next state label))
    (start : inv state) (labels : List Label) : inv (machine.run state labels) :=
  (along_true state labels).invariant inv (fun _ _ holds _ => preserve _ _ holds) start

theorem Along.trace_invariant {guard : State → Label → Prop} (inv : State → List Output → Prop)
    {state : State} {labels : List Label} {outputs : List Output}
    (preserve : ∀ state outputs label, inv state outputs → guard state label →
      inv (machine.next state label) (outputs ++ machine.emit state label))
    (start : inv state outputs) (along : machine.Along guard state labels) :
    inv (machine.run state labels) (outputs ++ machine.trace state labels) := by
  induction labels generalizing state outputs with
  | nil =>
      rw [run_nil, trace_nil, List.append_nil]
      exact start
  | cons label rest ih =>
      rw [run_cons, trace_cons, ← List.append_assoc]
      exact ih (preserve _ _ _ start along.1) along.2

theorem trace_invariant (inv : State → List Output → Prop) {state : State} {outputs : List Output}
    (preserve : ∀ state outputs label, inv state outputs →
      inv (machine.next state label) (outputs ++ machine.emit state label))
    (start : inv state outputs) (labels : List Label) :
    inv (machine.run state labels) (outputs ++ machine.trace state labels) :=
  (along_true state labels).trace_invariant inv (fun _ _ _ holds _ => preserve _ _ _ holds) start

/-- An invariant that only steps meeting `guard` preserve is available at every
step of the run, so it may be assumed when a second guard is established. -/
theorem Along.strengthen {guard extra : State → Label → Prop} {inv : State → Prop}
    {state : State} {labels : List Label}
    (preserve : ∀ state label, inv state → guard state label → inv (machine.next state label))
    (add : ∀ state label, inv state → guard state label → extra state label)
    (start : inv state) (along : machine.Along guard state labels) :
    machine.Along extra state labels := by
  induction labels generalizing state with
  | nil => trivial
  | cons label rest ih =>
      exact ⟨add _ _ start along.1, ih (preserve _ _ start along.1) along.2⟩

theorem Along.at_step {guard : State → Label → Prop} {state : State}
    {before after : List Label} {label : Label}
    (along : machine.Along guard state (before ++ label :: after)) :
    guard (machine.run state before) label :=
  ((along_append guard state before (label :: after)).mp along).2.1

theorem Along.of_steps {guard : State → Label → Prop} {state : State} {labels : List Label}
    (steps : ∀ before label after, labels = before ++ label :: after →
      guard (machine.run state before) label) :
    machine.Along guard state labels := by
  induction labels generalizing state with
  | nil => trivial
  | cons label rest ih =>
      refine ⟨steps [] label rest rfl, ih ?_⟩
      intro before other after split
      exact steps (label :: before) other after (by rw [split, List.cons_append])

theorem Along.take_prefix {guard : State → Label → Prop} {state : State}
    {before labels : List Label} (along : machine.Along guard state labels)
    (isPrefix : before <+: labels) : machine.Along guard state before := by
  obtain ⟨after, rfl⟩ := isPrefix
  exact ((along_append guard state before after).mp along).1

theorem mem_trace_iff {state : State} {labels : List Label} {output : Output} :
    output ∈ machine.trace state labels ↔
      ∃ before label after, labels = before ++ label :: after ∧
        output ∈ machine.emit (machine.run state before) label := by
  constructor
  · intro member
    induction labels generalizing state with
    | nil => cases member
    | cons label rest ih =>
        rcases List.mem_append.mp member with here | later
        · exact ⟨[], label, rest, rfl, here⟩
        · obtain ⟨before, other, after, split, emitted⟩ := ih later
          exact ⟨label :: before, other, after, by rw [split, List.cons_append], emitted⟩
  · rintro ⟨before, label, after, rfl, emitted⟩
    rw [trace_append, trace_cons]
    exact List.mem_append_right _ (List.mem_append_left _ emitted)

/-- If ignoring the guard once is visible in the state reached, then every state of a
run is good exactly when every step of it meets the guard.  The invariant is kept by
all steps; with it, a state is good when it looks right. -/
theorem states_good_iff_along {guard : State → Label → Prop} (good inv right : State → Prop)
    {state : State} {labels : List Label}
    (keep : ∀ state label, inv state → inv (machine.next state label))
    (preserve : ∀ state label, inv state → right state → guard state label →
      right (machine.next state label))
    (visible : ∀ state label, inv state → right (machine.next state label) → guard state label)
    (judged : ∀ state, inv state → (good state ↔ right state))
    (start : inv state) (first : right state) :
    (∀ before, before <+: labels → good (machine.run state before)) ↔
      machine.Along guard state labels := by
  constructor
  · intro states
    induction labels generalizing state with
    | nil => trivial
    | cons label rest ih =>
        have kept := keep state label start
        have looks : right (machine.next state label) :=
          (judged _ kept).mp (states [label] ((List.prefix_cons_inj label).mpr List.nil_prefix))
        refine ⟨visible _ _ start looks, ih kept looks ?_⟩
        intro before isPrefix
        exact states (label :: before) ((List.prefix_cons_inj label).mpr isPrefix)
  · intro along before isPrefix
    have reached := (along.take_prefix isPrefix).invariant
      (fun state => inv state ∧ right state)
      (fun _ _ both met => ⟨keep _ _ both.1, preserve _ _ both.1 both.2 met⟩) ⟨start, first⟩
    exact (judged _ reached.1).mpr reached.2

/-- If the outputs of a step are good exactly when the step meets the guard, then a
run has only good outputs exactly when every step of it does. -/
theorem trace_good_iff_along {guard : State → Label → Prop} {good : Output → Prop}
    (inv : State → Prop) {state : State} {labels : List Label}
    (preserve : ∀ state label, inv state → guard state label → inv (machine.next state label))
    (visible : ∀ state label, inv state →
      ((∀ output ∈ machine.emit state label, good output) ↔ guard state label))
    (start : inv state) :
    (∀ output ∈ machine.trace state labels, good output) ↔
      machine.Along guard state labels := by
  induction labels generalizing state with
  | nil => exact iff_of_true (fun _ member => nomatch member) trivial
  | cons label rest ih =>
      rw [trace_cons, along_cons, List.forall_mem_append, visible state label start]
      apply and_congr_right
      intro met
      exact ih (preserve _ _ start met)

end LabelledMachine

/-! ### Outputs in order -/

def EachAfter {Output : Type*} (good : List Output → Output → Prop) (outputs : List Output) :
    Prop :=
  ∀ front output back, outputs = front ++ output :: back → good front output

namespace EachAfter

variable {Output : Type*} {good : List Output → Output → Prop}

theorem nil : EachAfter good [] := by
  intro front output back split
  exact absurd split (by simp)

theorem append {first second : List Output} (early : EachAfter good first)
    (late : EachAfter (fun front output => good (first ++ front) output) second) :
    EachAfter good (first ++ second) := by
  intro front output back split
  rcases List.append_eq_append_iff.mp split with ⟨middle, rfl, rest⟩ | ⟨middle, rest, cut⟩
  · exact late middle output back rest
  · cases middle with
    | nil =>
        rw [List.append_nil] at rest
        have here : good (first ++ []) output := late [] output back cut.symm
        rwa [List.append_nil, rest] at here
    | cons head others =>
        obtain ⟨rfl, _⟩ := List.cons.inj cut
        exact early front output others rest

theorem cons {first : Output} {rest : List Output} (head : good [] first)
    (later : EachAfter (fun front output => good (first :: front) output) rest) :
    EachAfter good (first :: rest) := by
  intro front output back split
  cases front with
  | nil =>
      obtain ⟨rfl, _⟩ := List.cons.inj split
      exact head
  | cons other others =>
      obtain ⟨rfl, cut⟩ := List.cons.inj split
      exact later others output back cut

theorem of_forall {outputs : List Output} (each : ∀ output ∈ outputs, ∀ front, good front output) :
    EachAfter good outputs := by
  rintro front output back rfl
  exact each output (List.mem_append_right front List.mem_cons_self) front

end EachAfter

end Ffvms
