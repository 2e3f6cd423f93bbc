import Statechart.Proofs.Declaration.Acceptance
import Statechart.Proofs.Machine.Identity

/-!
What a build leaves behind, also when it stops early. A draft is only changed by
steps of the construction, so whatever has been made by then has been made from
the start of the machine, and its ids are exactly those that have been used up.
-/

namespace Statechart

namespace Drafting

/-- The draft that an action leaves, whether it goes through or stops. -/
def leaves {α : Type} (action : Drafting α) (draft : Draft) : Draft :=
  match action draft with
  | .ok _ after => after
  | .error _ after => after

/-- An action that changes the construction by its steps only. -/
def Advances {α : Type} (action : Drafting α) : Prop :=
  ∀ draft : Draft, draft.construction.Reaches (action.leaves draft).construction

variable {α β : Type}

theorem Advances.bind {first : Drafting α} {next : α → Drafting β} (advances : first.Advances)
    (then_advances : ∀ value, (next value).Advances) : (first >>= next).Advances := by
  intro draft
  have reached := advances draft
  cases outcome : first draft with
  | ok value middle =>
      have whole : (first >>= next).leaves draft = (next value).leaves middle := by
        simp [leaves, Bind.bind, EStateM.bind, outcome]
      rw [leaves, outcome] at reached
      rw [whole]
      exact reached.trans (then_advances value middle)
  | error error stopped =>
      have whole : (first >>= next).leaves draft = stopped := by
        simp [leaves, Bind.bind, EStateM.bind, outcome]
      rw [leaves, outcome] at reached
      rwa [whole]

theorem advances_pure (value : α) : Advances (pure value) :=
  fun _ => .refl _

theorem advances_throw (error : BuildError) : Advances (throw error : Drafting α) :=
  fun _ => .refl _

theorem advances_get : Advances (get : Drafting Draft) :=
  fun _ => .refl _

theorem advances_lift (outcome : Except BuildError α) : Advances (lift outcome) := by
  cases outcome with
  | ok value => exact advances_pure value
  | error error => exact advances_throw error

/-- Notes on the side do not touch the construction. -/
theorem advances_modify {change : Draft → Draft}
    (same : ∀ draft, (change draft).construction = draft.construction) :
    Advances (modify change) := by
  intro draft
  have left : (leaves (modify change) draft).construction = draft.construction := same draft
  rw [left]
  exact .refl _

theorem advances_construct {step : Construction → Except ConstructionError (α × Construction)}
    (reaches : ∀ {before after : Construction} {answer : α}, step before = .ok (answer, after) →
      before.Reaches after) : Advances (construct step) := by
  intro draft
  rw [leaves, construct]
  cases outcome : step draft.construction with
  | ok result => exact reaches outcome
  | error error => exact .refl _

/-- A step of the construction that answers nothing. -/
theorem advances_change {change : Construction → Except ConstructionError Construction}
    (reaches : ∀ {before after : Construction}, change before = .ok after →
      before.Reaches after) :
    Advances (construct fun construction => ((), ·) <$> change construction) := by
  refine advances_construct fun changed => ?_
  rcases map_eq_ok.mp changed with ⟨after, changed, same⟩
  cases same
  exact reaches changed

end Drafting

open Drafting

/-! ## The three passes -/

theorem StateDeclaration.draft_advances {maxDepth level : Nat} {state : StateDeclaration}
    (inside : ∀ parent level, (draftAll maxDepth state.states parent level).Advances)
    (parent : Option StateIndex) : (state.draft maxDepth parent level).Advances := by
  have noted : ∀ index, (noteState state.name index state.transitions).Advances :=
    fun _ => advances_modify fun _ => rfl
  cases defective : state.defect maxDepth level with
  | some error =>
      intro draft
      rw [leaves, draft_of_defect defective]
      exact .refl _
  | none =>
      cases composite : state.isComposite with
      | false =>
          rw [draft_simple defective composite]
          exact (advances_construct .of_addSimple).bind noted
      | true =>
          rcases Option.isSome_iff_exists.mp ((defect_eq_none.mp defective).2.1 composite).2 with
            ⟨initial, entered⟩
          rw [draft_composite defective composite entered]
          refine (advances_construct .of_addComposite).bind fun index => ?_
          refine Advances.bind (advances_modify fun _ => rfl) fun _ => ?_
          exact (inside (some index) (level + 1)).bind fun _ => noted index

theorem StateDeclaration.draftAll_advances (maxDepth : Nat) (states : List StateDeclaration)
    (parent : Option StateIndex) (level : Nat) :
    (draftAll maxDepth states parent level).Advances := by
  induction states using states_induction generalizing parent level with
  | nil => exact advances_pure ()
  | cons state states inside later =>
      rw [draftAll]
      exact (draft_advances inside parent).bind fun _ => later parent level

namespace MachineDeclaration

theorem connectAll_advances (transitions : List TransitionDeclaration) :
    (connectAll transitions).Advances := by
  induction transitions with
  | nil => exact advances_pure ()
  | cons transition transitions induction =>
      rw [connectAll]
      refine advances_get.bind fun draft => ?_
      refine (advances_lift _).bind fun source => ?_
      refine advances_get.bind fun draft => ?_
      refine (advances_lift _).bind fun target => ?_
      exact (advances_construct .of_connect).bind fun _ => induction

theorem enterAll_advances (initials : List (StateIndex × String)) :
    (enterAll initials).Advances := by
  induction initials with
  | nil => exact advances_pure ()
  | cons entry initials induction =>
      rcases entry with ⟨composite, name⟩
      rw [enterAll]
      refine advances_get.bind fun draft => ?_
      refine (advances_lift _).bind fun target => ?_
      exact (advances_change .of_setCompositeInitial).bind fun _ => induction

theorem enterMachine_advances (initial : Option String) : (enterMachine initial).Advances := by
  cases initial with
  | none => exact advances_pure ()
  | some name =>
      rw [enterMachine]
      refine advances_get.bind fun draft => ?_
      exact (advances_lift _).bind fun target => advances_change .of_setInitial

theorem draft_advances (declaration : MachineDeclaration) (maxDepth : Nat) :
    (declaration.draft maxDepth).Advances := by
  refine (StateDeclaration.draftAll_advances maxDepth _ none 0).bind fun _ => ?_
  refine Advances.bind (advances_modify fun _ => rfl) fun _ => ?_
  refine advances_get.bind fun draft => ?_
  refine (connectAll_advances _).bind fun _ => ?_
  refine advances_get.bind fun draft => ?_
  exact (enterAll_advances _).bind fun _ => enterMachine_advances _

/-! ## What is left -/

/-- The construction that a build leaves, finished or not. -/
def leftover (declaration : MachineDeclaration) (maxDepth : Nat) (ids : IdSource) : Construction :=
  ((declaration.draft maxDepth).leaves (declaration.emptyDraft maxDepth ids)).construction

variable (declaration : MachineDeclaration) (maxDepth : Nat) (ids : IdSource)

theorem leftover_reached : (Construction.start declaration.name declaration.location ids).Reaches
    (declaration.leftover maxDepth ids) := by
  have started : (Construction.start declaration.name declaration.location ids).Reaches
      (declaration.emptyDraft maxDepth ids).construction := ⟨[.setMaxDepth maxDepth], rfl⟩
  exact started.trans (declaration.draft_advances maxDepth _)

theorem leftover_minted : (declaration.leftover maxDepth ids).Minted ids.next :=
  (declaration.leftover_reached maxDepth ids).preserves Construction.Minted.advance
    (Construction.minted_start _ _ ids)

theorem build_ids : (declaration.build maxDepth ids).2 = (declaration.leftover maxDepth ids).ids := by
  rw [build_eq, leftover, leaves]
  cases declaration.draft maxDepth (declaration.emptyDraft maxDepth ids) <;> rfl

variable {declaration} {maxDepth} {ids}

theorem machine_of_build {machine : Machine}
    (built : (declaration.build maxDepth ids).1 = .ok machine) :
    machine = (declaration.leftover maxDepth ids).machine := by
  rw [build_eq] at built
  rw [leftover, leaves]
  cases outcome : declaration.draft maxDepth (declaration.emptyDraft maxDepth ids) with
  | ok _ draft =>
      rw [outcome] at built
      cases built
      rfl
  | error error draft =>
      rw [outcome] at built
      cases built

end MachineDeclaration

end Statechart
