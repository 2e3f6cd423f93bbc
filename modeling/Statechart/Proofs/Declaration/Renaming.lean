import Statechart.Proofs.Declaration.Leftover
import Statechart.Proofs.Declaration.Usability
import Statechart.Proofs.Machine.Renaming

/-!
Building with other numbers. Names are resolved and states are placed without a look at
an id, so the three passes go the same way wherever the source of ids stands: they stop
at the same place, with as many ids used up, or end with machines that differ in the
numbers of their ids.
-/

namespace Statechart

theorem Machine.findNamed_renameIds (machine : Machine) (rename : String → String)
    (candidates : List StateIndex) (name : String) :
    (machine.renameIds rename).findNamed candidates name = machine.findNamed candidates name := by
  have sameName : ∀ candidate, ((machine.renameIds rename).state? candidate).bind (·.name) =
      (machine.state? candidate).bind (·.name) := by
    intro candidate
    rw [state?_renameIds]
    cases machine.state? candidate <;> rfl
  simp only [findNamed, sameName]

namespace Draft

/-- The same draft with all numbers moved on. What is noted on the side has no ids. -/
def moveBy (offset : UInt64) (draft : Draft) : Draft :=
  { draft with construction := draft.construction.moveBy offset }

variable (offset : UInt64) (draft : Draft)

theorem construction_moveBy :
    (draft.moveBy offset).construction = draft.construction.moveBy offset := by rw [moveBy]

theorem transitions_moveBy : (draft.moveBy offset).transitions = draft.transitions := by rw [moveBy]

theorem initials_moveBy : (draft.moveBy offset).initials = draft.initials := by rw [moveBy]

theorem resolve_moveBy (name : String) : (draft.moveBy offset).resolve name = draft.resolve name := by
  rw [resolve, resolve, moveBy]

theorem findNamed_moveBy (candidates : List StateIndex) (name : String) :
    (draft.moveBy offset).construction.machine.findNamed candidates name =
      draft.construction.machine.findNamed candidates name := by
  rw [construction_moveBy, Construction.moveBy, Machine.findNamed_renameIds]

theorem topLevel_moveBy : (draft.moveBy offset).construction.machine.topLevel =
    draft.construction.machine.topLevel := by
  rw [construction_moveBy, Construction.moveBy, Machine.renameIds]

theorem children_moveBy (composite : StateIndex) :
    ((draft.moveBy offset).construction.machine.state? composite).map (·.children) =
      (draft.construction.machine.state? composite).map (·.children) := by
  rw [construction_moveBy, Construction.moveBy, Machine.state?_renameIds, Option.map_map]
  rfl

end Draft

namespace Drafting

/-- What an action answers, if it goes through, and the draft that it leaves. -/
def outcome {α : Type} (action : Drafting α) (draft : Draft) : Option α × Draft :=
  match action draft with
  | .ok answer after => (some answer, after)
  | .error _ after => (none, after)

/-- An action that does the same whatever the numbers are. With which error it stops is left
aside, since an error of the construction may name an id. -/
def Indifferent {α : Type} (offset : UInt64) (action : Drafting α) : Prop :=
  ∀ draft : Draft, action.outcome (draft.moveBy offset) =
    Prod.map id (Draft.moveBy offset) (action.outcome draft)

variable {α β : Type} {offset : UInt64}

theorem outcome_snd (action : Drafting α) (draft : Draft) :
    (action.outcome draft).2 = action.leaves draft := by
  rw [outcome, leaves]
  cases action draft <;> rfl

theorem outcome_bind (first : Drafting α) (next : α → Drafting β) (draft : Draft) :
    (first >>= next).outcome draft =
      match first.outcome draft with
      | (some answer, middle) => (next answer).outcome middle
      | (none, stopped) => (none, stopped) := by
  simp only [outcome, Bind.bind, EStateM.bind]
  cases first draft <;> rfl

theorem outcome_get (draft : Draft) : (get : Drafting Draft).outcome draft = (some draft, draft) :=
  rfl

theorem outcome_construct
    (step : Construction → Except ConstructionError (α × Construction)) (draft : Draft) :
    (construct step).outcome draft =
      match (step draft.construction).toOption with
      | some (answer, construction) => (some answer, { draft with construction })
      | none => (none, draft) := by
  rw [outcome, construct]
  cases step draft.construction <;> rfl

theorem Indifferent.bind {first : Drafting α} {next : α → Drafting β}
    (indifferent : first.Indifferent offset)
    (then_indifferent : ∀ answer, (next answer).Indifferent offset) :
    (first >>= next).Indifferent offset := by
  intro draft
  rw [outcome_bind, outcome_bind, indifferent draft]
  rcases first.outcome draft with ⟨answer, middle⟩
  cases answer with
  | none => rfl
  | some answer => exact then_indifferent answer middle

/-- What is read of a draft must not be an id. -/
theorem indifferent_get_bind {next : Draft → Drafting β}
    (same : ∀ draft : Draft, next (draft.moveBy offset) = next draft)
    (indifferent : ∀ draft, (next draft).Indifferent offset) :
    (get >>= next : Drafting β).Indifferent offset := by
  intro draft
  rw [outcome_bind, outcome_bind, outcome_get, outcome_get]
  dsimp only
  rw [same]
  exact indifferent draft draft

theorem indifferent_pure (answer : α) : Indifferent offset (pure answer : Drafting α) :=
  fun _ => rfl

theorem indifferent_lift (decided : Except BuildError α) : Indifferent offset (lift decided) := by
  cases decided <;> exact fun _ => rfl

theorem indifferent_modify {change : Draft → Draft}
    (same : ∀ draft : Draft, change (draft.moveBy offset) = (change draft).moveBy offset) :
    Indifferent offset (modify change : Drafting Unit) :=
  fun draft => congrArg (some (), ·) (same draft)

theorem indifferent_construct
    {step : Construction → Except ConstructionError (α × Construction)}
    (moved : ∀ construction : Construction, (step (construction.moveBy offset)).toOption =
      (step construction).toOption.map (Prod.map id (Construction.moveBy offset))) :
    Indifferent offset (construct step) := by
  intro draft
  rw [outcome_construct, outcome_construct]
  change (match (step (draft.construction.moveBy offset)).toOption with
    | some (answer, construction) => _
    | none => _) = _
  rw [moved draft.construction]
  cases (step draft.construction).toOption <;> rfl

theorem indifferent_noteState (name : Option String) (index : StateIndex)
    (transitions : List TransitionDeclaration) :
    Indifferent offset (noteState name index transitions) := by
  apply indifferent_modify
  intro draft
  rw [Draft.moveBy, Draft.moveBy]

theorem indifferent_noteInitial (composite : StateIndex) (name : String) :
    Indifferent offset (noteInitial composite name) := by
  apply indifferent_modify
  intro draft
  rw [Draft.moveBy, Draft.moveBy]

/-- A step of the construction that answers nothing. -/
theorem indifferent_change {change : Construction → Except ConstructionError Construction}
    (moved : ∀ construction : Construction, (change (construction.moveBy offset)).toOption =
      (change construction).toOption.map (Construction.moveBy offset)) :
    Indifferent offset (construct fun construction => ((), ·) <$> change construction) := by
  refine indifferent_construct fun construction => ?_
  have same := moved construction
  cases changed : change construction with
  | error error =>
      rw [changed] at same
      cases changedToo : change (construction.moveBy offset) with
      | error _ => rfl
      | ok after =>
          rw [changedToo] at same
          cases same
  | ok after =>
      rw [changed] at same
      rw [toOption_eq_some.mp same]
      rfl

end Drafting

open Drafting

variable (offset : UInt64)

/-! ## The three passes -/

theorem StateDeclaration.draft_indifferent {maxDepth level : Nat} {state : StateDeclaration}
    (inside : ∀ parent level, (draftAll maxDepth state.states parent level).Indifferent offset)
    (parent : Option StateIndex) : (state.draft maxDepth parent level).Indifferent offset := by
  have noted : ∀ index, (noteState state.name index state.transitions).Indifferent offset :=
    fun index => indifferent_noteState state.name index state.transitions
  cases defective : state.defect maxDepth level with
  | some error =>
      intro draft
      rw [outcome, outcome, draft_of_defect defective, draft_of_defect defective]
      rfl
  | none =>
      cases composite : state.isComposite with
      | false =>
          rw [draft_simple defective composite]
          exact (indifferent_construct fun construction =>
            construction.addState_moveBy offset _ _ _ _ _).bind noted
      | true =>
          rcases Option.isSome_iff_exists.mp ((defect_eq_none.mp defective).2.1 composite).2 with
            ⟨initial, entered⟩
          rw [draft_composite defective composite entered]
          refine (indifferent_construct fun construction =>
            construction.addState_moveBy offset _ _ _ _ _).bind fun index => ?_
          refine (indifferent_noteInitial index initial).bind fun _ => ?_
          exact (inside (some index) (level + 1)).bind fun _ => noted index

theorem StateDeclaration.draftAll_indifferent (maxDepth : Nat) (states : List StateDeclaration)
    (parent : Option StateIndex) (level : Nat) :
    (draftAll maxDepth states parent level).Indifferent offset := by
  induction states using states_induction generalizing parent level with
  | nil => exact indifferent_pure ()
  | cons state states inside later =>
      rw [draftAll]
      exact (draft_indifferent offset inside parent).bind fun _ => later parent level

namespace MachineDeclaration

theorem connectAll_indifferent (transitions : List TransitionDeclaration) :
    (connectAll transitions).Indifferent offset := by
  induction transitions with
  | nil => exact indifferent_pure ()
  | cons transition transitions induction =>
      rw [connectAll]
      refine indifferent_get_bind (fun draft => by rw [draft.resolve_moveBy]) fun draft => ?_
      refine (indifferent_lift _).bind fun source => ?_
      refine indifferent_get_bind (fun draft => by rw [draft.resolve_moveBy]) fun draft => ?_
      refine (indifferent_lift _).bind fun target => ?_
      exact (indifferent_construct fun construction =>
        construction.connect_moveBy offset _ _ _ _ _).bind fun _ => induction

theorem enterAll_indifferent (initials : List (StateIndex × String)) :
    (enterAll initials).Indifferent offset := by
  induction initials with
  | nil => exact indifferent_pure ()
  | cons entry initials induction =>
      rcases entry with ⟨composite, name⟩
      rw [enterAll]
      refine indifferent_get_bind (fun draft => ?_) fun draft => ?_
      case refine_1 =>
        dsimp only
        rw [draft.children_moveBy, draft.findNamed_moveBy]
      case refine_2 =>
        refine (indifferent_lift _).bind fun target => ?_
        exact (indifferent_change fun construction =>
          construction.setCompositeInitial_moveBy offset _ _).bind fun _ => induction

theorem enterMachine_indifferent (initial : Option String) :
    (enterMachine initial).Indifferent offset := by
  cases initial with
  | none => exact indifferent_pure ()
  | some name =>
      rw [enterMachine]
      refine indifferent_get_bind (fun draft => ?_) fun draft => ?_
      case refine_1 =>
        dsimp only
        rw [draft.findNamed_moveBy, draft.topLevel_moveBy]
      case refine_2 =>
        exact (indifferent_lift _).bind fun target =>
          indifferent_change fun construction => construction.setInitial_moveBy offset target

theorem draft_indifferent (declaration : MachineDeclaration) (maxDepth : Nat) :
    (declaration.draft maxDepth).Indifferent offset := by
  refine (StateDeclaration.draftAll_indifferent offset maxDepth _ none 0).bind fun _ => ?_
  have noted : ∀ draft : Draft,
      { draft.moveBy offset with
        transitions := (draft.moveBy offset).transitions ++ declaration.transitions } =
      Draft.moveBy offset
        { draft with transitions := draft.transitions ++ declaration.transitions } := by
    intro draft
    rw [Draft.moveBy, Draft.moveBy]
  refine (indifferent_modify noted).bind fun _ => ?_
  refine indifferent_get_bind (fun draft => by rw [draft.transitions_moveBy]) fun draft => ?_
  refine (connectAll_indifferent offset _).bind fun _ => ?_
  refine indifferent_get_bind (fun draft => by rw [draft.initials_moveBy]) fun draft => ?_
  exact (enterAll_indifferent offset _).bind fun _ => enterMachine_indifferent offset _

/-! ## What is built -/

variable (declaration : MachineDeclaration) (maxDepth : Nat) (ids : IdSource)

theorem emptyDraft_moveBy : (declaration.emptyDraft maxDepth ids).moveBy offset =
    declaration.emptyDraft maxDepth ⟨ids.next + offset⟩ := by
  have started := Construction.start_moveBy offset declaration.name declaration.location ids
  exact congrArg (fun construction => Draft.mk (construction.setMaxDepth maxDepth) [] [] []) started

/-- Whether a build is finished or not, what it leaves has its numbers moved on. -/
theorem leftover_moveBy : declaration.leftover maxDepth ⟨ids.next + offset⟩ =
    (declaration.leftover maxDepth ids).moveBy offset := by
  rw [leftover, leftover, ← emptyDraft_moveBy, ← outcome_snd, ← outcome_snd,
    draft_indifferent offset declaration maxDepth]
  rfl

theorem build_moveBy : declaration.build maxDepth ⟨ids.next + offset⟩ =
    (Machine.renameIds (IdSource.moveBy offset) <$> (declaration.build maxDepth ids).1,
      ⟨(declaration.build maxDepth ids).2.next + offset⟩) := by
  apply Prod.ext
  case fst =>
    cases outcome : (declaration.build maxDepth ids).1 with
    | error error =>
        -- The error is the first defect of the declaration, which has no ids.
        exact build_eq_error.mpr (build_eq_error.mp outcome)
    | ok machine =>
        have decides := declaration.build_decides maxDepth ⟨ids.next + offset⟩
        rw [(build_eq_ok outcome).1] at decides
        rcases decides with ⟨moved, built, -⟩
        rw [built, machine_of_build built, machine_of_build outcome, leftover_moveBy]
        rfl
  case snd =>
    rw [build_ids, build_ids, leftover_moveBy]
    rfl

/-! ## Two sources of ids -/

variable (other : IdSource)

theorem moved_on : (⟨ids.next + (other.next - ids.next)⟩ : IdSource) = other := by
  rw [UInt64.add_comm, UInt64.sub_add_cancel]

/-- Two builds use up as many ids, also when they fail. -/
theorem build_uses_same : ∃ used : Nat,
    (declaration.build maxDepth ids).2 = ⟨ids.next + UInt64.ofNat used⟩ ∧
      (declaration.build maxDepth other).2 = ⟨other.next + UInt64.ofNat used⟩ := by
  have moved := declaration.leftover_moveBy (other.next - ids.next) maxDepth ids
  rw [moved_on] at moved
  have sameLength : (declaration.leftover maxDepth other).machine.ids.length =
      (declaration.leftover maxDepth ids).machine.ids.length := by
    rw [moved, Construction.moveBy, Machine.length_ids, Machine.length_ids]
    simp [Machine.renameIds]
  have otherNext := (declaration.leftover_minted maxDepth other).next
  rw [sameLength] at otherNext
  refine ⟨(declaration.leftover maxDepth ids).machine.ids.length, ?_, ?_⟩
  · rw [build_ids]
    exact congrArg IdSource.mk (declaration.leftover_minted maxDepth ids).next
  · rw [build_ids]
    exact congrArg IdSource.mk otherNext

variable {declaration} {maxDepth} {ids} {other}

/-- Where the numbers do not run out, two builds differ in the numbers that are written
in the ids. -/
theorem build_renumbered (room : ids.next.toNat + declaration.elementCount ≤ 2 ^ 64)
    (otherRoom : other.next.toNat + declaration.elementCount ≤ 2 ^ 64) :
    (declaration.build maxDepth other).1 =
      Machine.renameIds (IdSource.renumber ids.next.toNat other.next.toNat) <$>
        (declaration.build maxDepth ids).1 := by
  have moved := declaration.build_moveBy (other.next - ids.next) maxDepth ids
  rw [moved_on] at moved
  rw [moved]
  cases built : (declaration.build maxDepth ids).1 with
  | error error => rfl
  | ok machine =>
      have realizes := (build_eq_ok built).2
      rcases realizes.made with ⟨left, reaches⟩
      have minted := reaches.preserves Construction.Minted.advance
        (Construction.minted_start declaration.name declaration.location ids)
      refine congrArg Except.ok (Machine.renameIds_congr fun id member => ?_)
      rcases minted.numbered id member with ⟨kind, offset, inRange, rfl⟩
      rw [realizes.length_ids] at inRange
      exact IdSource.moveBy_eq_renumber kind (by omega) (by omega)

end MachineDeclaration

end Statechart
