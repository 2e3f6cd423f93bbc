import Statechart.Proofs.Machine.Editing
import Statechart.Proofs.Machine.Workshop

/-!
Histories with rejected steps. Where a rejected step leaves everything as it was, the
history without it has the same answers and the same end. So it is with the steps of one
machine, and with those of several machines that take turns at one source of ids.
-/

namespace Statechart

/-! ## Calls and answers -/

section Transcript

variable {σ α β : Type}

/-- Calls with their answers, and what they leave. -/
def transcript (perform : σ → α → β × σ) (state : σ) : List α → List (α × β) × σ
  | [] => ([], state)
  | call :: calls =>
      let (answer, after) := perform state call
      let (entries, final) := transcript perform after calls
      ((call, answer) :: entries, final)

/-- The calls that were accepted tell the same history by themselves. -/
theorem transcript_accepted {perform : σ → α → β × σ} {accepted : β → Bool}
    (unmoved : ∀ state call, accepted (perform state call).1 = false →
      (perform state call).2 = state) (state : σ) (calls : List α) :
    let kept := (transcript perform state calls).1.filter fun entry => accepted entry.2
    transcript perform state (kept.map (·.1)) = (kept, (transcript perform state calls).2) := by
  induction calls generalizing state with
  | nil => rfl
  | cons call calls induction =>
      cases outcome : accepted (perform state call).1 with
      | true =>
          have rest := induction (perform state call).2
          simp [transcript, outcome, rest]
      | false =>
          have rest := induction state
          simp [transcript, outcome, unmoved state call outcome, rest]

end Transcript

/-! ## One machine -/

namespace Construction

/-- A history of steps that are carried out in place. -/
def history (construction : Construction) (steps : List ConstructionStep) :
    List (ConstructionStep × Except ConstructionError ConstructionAnswer) × Construction :=
  transcript (fun construction step => step.edit.perform construction) construction steps

theorem run_eq_history (construction : Construction) (steps : List ConstructionStep) :
    construction.run steps =
      ((construction.history steps).1.map (·.2), (construction.history steps).2) := by
  induction steps generalizing construction with
  | nil => rfl
  | cons step steps induction =>
      have rest := induction (step.edit.perform construction).2
      rw [Editing.perform_edit] at rest
      simp [run, history, transcript, Editing.perform_edit, rest]

end Construction

/-! ## Machines that share a source of ids -/

inductive WorkshopAnswer where
  | started (machine : Machine)
  | constructed (answer : Except ConstructionError ConstructionAnswer)
  | taken (snapshot : Snapshot)
  | minted (id : String)
  | absent

def WorkshopAnswer.isAccepted : WorkshopAnswer → Bool
  | .constructed answer => answer.isOk
  | _ => true

namespace Workshop

/-- Goes one step on. What a construction step has written of a machine and of the ids
stays, whether the step is accepted or not. -/
def edit (workshop : Workshop) : WorkshopStep → WorkshopAnswer × Workshop
  | .start name location =>
      (.started (Construction.start name location workshop.ids).machine,
        workshop.perform (.start name location))
  | .construct position step =>
      match workshop.machines[position]? with
      | none => (.absent, workshop)
      | some machine =>
          let edited := step.edit.perform ⟨machine, workshop.ids⟩
          (.constructed edited.1,
            { workshop with
              ids := edited.2.ids
              machines := workshop.machines.set position edited.2.machine })
  | .snapshot inputs nextInput current outputs =>
      (.taken (Snapshot.take inputs nextInput current outputs workshop.ids).1,
        workshop.perform (.snapshot inputs nextInput current outputs))
  | .mint kind => (.minted (workshop.ids.mint kind).1, workshop.perform (.mint kind))

theorem edit_perform (workshop : Workshop) (step : WorkshopStep) :
    (workshop.edit step).2 = workshop.perform step := by
  cases step with
  | construct position step =>
      rw [edit, perform]
      cases workshop.machines[position]? with
      | none => rfl
      | some machine => simp only [Editing.perform_edit]
  | _ => rfl

theorem edit_of_rejected {workshop : Workshop} {step : WorkshopStep}
    (rejected : (workshop.edit step).1.isAccepted = false) : (workshop.edit step).2 = workshop := by
  cases step with
  | construct position step =>
      rw [edit] at rejected ⊢
      cases found : workshop.machines[position]? with
      | none => rfl
      | some machine =>
          simp only [found] at rejected
          have unmoved := Editing.perform_edit_of_rejected rejected
          rcases List.getElem?_eq_some_iff.mp found with ⟨inRange, rfl⟩
          simp only [unmoved, List.set_getElem_self]
  | _ => cases rejected

def history (workshop : Workshop) (steps : List WorkshopStep) :
    List (WorkshopStep × WorkshopAnswer) × Workshop :=
  transcript edit workshop steps

theorem run_eq_history (workshop : Workshop) (steps : List WorkshopStep) :
    workshop.run steps = (workshop.history steps).2 := by
  induction steps generalizing workshop with
  | nil => rfl
  | cons step steps induction =>
      rw [run, List.foldl_cons, ← edit_perform]
      exact induction _

end Workshop

/-! ## Without the rejected steps -/

/-- Although it is carried out in place, a rejected step leaves the machine and the ids as
they are. So a history without its rejected steps gives the others the same answers and
makes the same machines with the same ids. -/
theorem rejected_steps_leave_no_trace :
    (∀ (construction : Construction) (step : ConstructionStep),
      step.edit.perform construction = step.perform construction ∧
        ((step.edit.perform construction).1.isOk = false →
          (step.edit.perform construction).2 = construction)) ∧
    (∀ (construction : Construction) (steps : List ConstructionStep),
      let kept := (construction.history steps).1.filter fun entry => entry.2.isOk
      construction.run steps =
          ((construction.history steps).1.map (·.2), (construction.history steps).2) ∧
        construction.history (kept.map (·.1)) = (kept, (construction.history steps).2)) ∧
    ∀ (workshop : Workshop) (steps : List WorkshopStep),
      let kept := (workshop.history steps).1.filter fun entry => entry.2.isAccepted
      workshop.run steps = (workshop.history steps).2 ∧
        workshop.history (kept.map (·.1)) = (kept, (workshop.history steps).2) := by
  refine ⟨?step, ?oneMachine, ?manyMachines⟩
  case step =>
    intro construction step
    exact ⟨Editing.perform_edit step construction, Editing.perform_edit_of_rejected⟩
  case oneMachine =>
    intro construction steps
    exact ⟨construction.run_eq_history steps,
      transcript_accepted (fun _ _ => Editing.perform_edit_of_rejected) construction steps⟩
  case manyMachines =>
    intro workshop steps
    exact ⟨workshop.run_eq_history steps,
      transcript_accepted (fun _ _ => Workshop.edit_of_rejected) workshop steps⟩

end Statechart
