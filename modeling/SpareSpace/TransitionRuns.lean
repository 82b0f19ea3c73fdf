import Mathlib.Logic.Basic

/-!
# Guarded runs of labelled transition systems

A labelled transition system is a partial step function on states.  A guarded
run is one in which every step satisfies a condition on the state before it
and on its label; an ordinary run is the special case of the condition that
always holds.  The file packages the induction over runs once and shows that
an executed list of labels is a run.
-/

namespace TransitionRuns

variable {State Label : Type*}

/-- The states met by runs from `start` whose every step is allowed, judged
on the state before the step and its label. -/
inductive Run (step : State → Label → Option State)
    (allowed : State → Label → Prop) (start : State) : State → Prop
  | start : Run step allowed start start
  | step {before after : State} (label : Label) :
      Run step allowed start before → allowed before label →
        step before label = some after → Run step allowed start after

/-- The states met by arbitrary runs. -/
abbrev Reachable (step : State → Label → Option State) (start : State) :
    State → Prop :=
  Run step (fun _ _ => True) start

variable {step : State → Label → Option State}
  {allowed : State → Label → Prop} {start last : State}

/-- An invariant that holds at the start and survives each allowed step holds
in every state of a guarded run. -/
theorem Run.invariant (inv : State → Prop) (atStart : inv start)
    (preserved : ∀ before label after, inv before → allowed before label →
      step before label = some after → inv after)
    (run : Run step allowed start last) : inv last := by
  induction run with
  | start => exact atStart
  | step label _ permitted taken ih =>
      exact preserved _ label _ ih permitted taken

/-- A weaker condition allows the run as well. -/
theorem Run.weaken {weaker : State → Label → Prop}
    (run : Run step allowed start last)
    (weakens : ∀ state label, allowed state label → weaker state label) :
    Run step weaker start last := by
  induction run with
  | start => exact Run.start
  | step label _ permitted taken ih =>
      exact Run.step label ih (weakens _ label permitted) taken

/-- Run a list of labels, failing at the first that has no step. -/
def execute (step : State → Label → Option State) (state : State) :
    List Label → Option State
  | [] => some state
  | label :: rest =>
      match step state label with
      | none => none
      | some next => execute step next rest

/-- Whether every label of an executed list was allowed where it was taken. -/
def Permitted (step : State → Label → Option State)
    (allowed : State → Label → Prop) (state : State) :
    List Label → Prop
  | [] => True
  | label :: rest =>
      allowed state label ∧
        ∀ next, step state label = some next → Permitted step allowed next rest

/-- A list of labels executed up to its last one. -/
theorem execute_concat {labels : List Label} {label : Label} :
    execute step start (labels ++ [label]) = some last ↔
      ∃ middle, execute step start labels = some middle ∧
        step middle label = some last := by
  induction labels generalizing start with
  | nil =>
      simp only [List.nil_append, execute, Option.some.injEq, exists_eq_left']
      cases step start label <;> simp
  | cons first rest ih =>
      simp only [List.cons_append, execute]
      cases step start first with
      | none => simp
      | some next => exact ih

/-- The states that an executed list of labels passes through. -/
def Passes (step : State → Label → Option State) (start : State) (labels : List Label)
    (state : State) : Prop :=
  ∃ before after, labels = before ++ after ∧ execute step start before = some state

theorem passes_of_execute {labels : List Label}
    (executed : execute step start labels = some last) :
    Passes step start labels last :=
  ⟨labels, [], (List.append_nil labels).symm, executed⟩

/-- A longer list passes through the same states. -/
theorem Passes.concat {labels : List Label} {state : State}
    (passes : Passes step start labels state) (label : Label) :
    Passes step start (labels ++ [label]) state := by
  obtain ⟨before, after, rfl, executed⟩ := passes
  exact ⟨before, after ++ [label], List.append_assoc before after [label], executed⟩

theorem run_of_execute {middle : State} {labels : List Label}
    (before : Run step allowed start middle)
    (executed : execute step middle labels = some last)
    (permitted : Permitted step allowed middle labels) :
    Run step allowed start last := by
  induction labels generalizing middle with
  | nil =>
      simp only [execute, Option.some.injEq] at executed
      exact executed ▸ before
  | cons label rest ih =>
      cases taken : step middle label with
      | none => simp [execute, taken] at executed
      | some next =>
          simp only [execute, taken] at executed
          exact ih (Run.step label before permitted.1 taken) executed
            (permitted.2 next taken)

theorem permitted_always (state : State) (labels : List Label) :
    Permitted step (fun _ _ => True) state labels := by
  induction labels generalizing state with
  | nil => trivial
  | cons label rest ih => exact ⟨trivial, fun next _ => ih next⟩

variable (step start) in
/-- Whatever a list of labels leads to is reachable. -/
theorem reachable_of_execute (labels : List Label)
    (executed : execute step start labels = some last) :
    Reachable step start last :=
  run_of_execute Run.start executed (permitted_always start labels)

/-- Run a list of labels, failing at the first that has no step or does not
pass a check. -/
def executeChecked (step : State → Label → Option State)
    (check : State → Label → Bool) (state : State) :
    List Label → Option State
  | [] => some state
  | label :: rest =>
      if check state label then
        match step state label with
        | none => none
        | some next => executeChecked step check next rest
      else
        none

/-- Labels that pass a check which permits them lead on to a state of a guarded
run. -/
theorem Run.executeChecked {middle : State} (before : Run step allowed start middle)
    (check : State → Label → Bool)
    (permits : ∀ state label, check state label = true → allowed state label)
    (labels : List Label)
    (executed : executeChecked step check middle labels = some last) :
    Run step allowed start last := by
  induction labels generalizing middle with
  | nil =>
      simp only [TransitionRuns.executeChecked, Option.some.injEq] at executed
      exact executed ▸ before
  | cons label rest ih =>
      simp only [TransitionRuns.executeChecked] at executed
      split at executed
      · next passed =>
          split at executed
          · contradiction
          · next taken =>
              exact ih (before.step label (permits _ _ passed) taken) executed
      · contradiction

end TransitionRuns
