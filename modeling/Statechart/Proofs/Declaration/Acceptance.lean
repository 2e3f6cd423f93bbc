import Statechart.Proofs.Declaration.Linking

/-!
Acceptance. A declaration becomes a machine exactly when it is buildable; any other
declaration is answered with its first defect.
-/

namespace Statechart

/-- What a finished build leaves behind. -/
structure Machine.Realizes (machine : Machine) (ids : IdSource) (maxDepth : Nat)
    (declaration : MachineDeclaration) : Prop where
  made : ∃ left, (Construction.start declaration.name declaration.location ids).Reaches
    ⟨machine, left⟩
  follows : machine.Follows (ids.next + 1) declaration
  connected : List.Forall₂ declaration.Declares declaration.allTransitions machine.transitions
  numbered : machine.transitions.map (·.id) = Draft.transitionIds
    (ids.next + 1 + UInt64.ofNat machine.states.length) machine.transitions.length
  maxDepth : machine.maxDepth = maxDepth
  entered : ∀ placement ∈ declaration.outline, declaration.EntersAt machine placement
  entersMachine : declaration.EntersMachine machine

namespace MachineDeclaration

open Drafting

/-- The draft that a build begins with. -/
def emptyDraft (declaration : MachineDeclaration) (maxDepth : Nat) (ids : IdSource) : Draft :=
  ⟨(Construction.start declaration.name declaration.location ids).setMaxDepth maxDepth, [], [], []⟩

/-- The checks of a draft in its own order: pass after pass. -/
theorem firstDefect_eq_or (declaration : MachineDeclaration) (maxDepth : Nat) :
    declaration.firstDefect maxDepth =
      (StateDeclaration.firstDefect maxDepth 0 declaration.states).or
        (((declaration.allTransitions.flatMap declaration.endpointDefects).findSome? id).or
          ((declaration.outline.findSome? (·.declaration.initialDefect)).or
            declaration.initialDefect)) := by
  rw [firstDefect, checks, List.append_assoc, List.append_assoc, List.findSome?_append,
    List.findSome?_append, List.findSome?_append, List.findSome?_map, ← outline_declarations,
    List.map_map, List.findSome?_map]
  cases declaration.initialDefect <;> rfl

theorem draft_decides (declaration : MachineDeclaration) (maxDepth : Nat) (ids : IdSource) :
    (declaration.draft maxDepth).Decides (declaration.emptyDraft maxDepth ids)
      (declaration.firstDefect maxDepth)
      fun _ after => after.machine.Realizes ids maxDepth declaration := by
  have numbered : (declaration.emptyDraft maxDepth ids).Numbered (ids.next + 1) :=
    (UInt64.add_zero _).symm
  have started : (Construction.start declaration.name declaration.location ids).Reaches
      (declaration.emptyDraft maxDepth ids).construction :=
    ⟨[.setMaxDepth maxDepth], rfl⟩
  rw [firstDefect_eq_or]
  refine (StateDeclaration.drafts maxDepth (ids.next + 1) declaration.states none 0 _ numbered
    rfl).bind ?_
  intro _ drafted grows
  apply Decides.modify_bind
  apply Decides.get_bind
  have drawn := started.trans grows.reaches
  have contained := drawn.preserves Machine.Contained.advance (Machine.contained_start _ _ _)
  have complete : Draft.Complete (ids.next + 1) declaration
      { drafted with transitions := drafted.transitions ++ declaration.transitions } :=
    { follows := { states := grows.states, contained }
      bearers := grows.bearers }
  have transitions : drafted.transitions ++ declaration.transitions =
      declaration.allTransitions := by
    rw [grows.transitions]
    rfl
  rw [← transitions]
  refine (connectAll_decides complete _).bind ?_
  intro _ connected linked
  rcases linked with ⟨added, links, declared, -, unentered⟩
  apply Decides.get_bind
  have initials : connected.initials = declaration.outline.filterMap (·.entrance?) :=
    links.initials.trans grows.initials
  rw [initials]
  have distinct := declaration.outline_increasing.imp Nat.ne_of_lt
  refine (enterAll_decides (complete.links links) declaration.outline (fun _ member => member)
    distinct).bind ?_
  intro _ entered finished
  rcases finished with ⟨linksEntered, enteredAt, -, stillUnentered⟩
  have completeEntered := (complete.links links).links linksEntered
  have noInitial : entered.machine.initial = none :=
    (stillUnentered.trans unentered).trans grows.entered
  refine (enterMachine_decides completeEntered noInitial).weaken ?_
  intro _ finished entering
  rcases entering with ⟨linksFinished, entersMachine, sameInitials⟩
  have allLinks := (links.trans linksEntered).trans linksFinished
  simp only [List.append_nil] at allLinks
  have onlyAdded : finished.machine.transitions = added := by
    have unconnected : drafted.machine.transitions = [] := grows.connected
    rw [allLinks.connected]
    exact congrArg (· ++ added) unconnected
  have sameStates : finished.machine.states.length = drafted.machine.states.length := by
    have lengths := congrArg List.length allLinks.states
    rwa [Machine.length_unlinkedStates, Machine.length_unlinkedStates] at lengths
  exact
    { made := ⟨_, drawn.trans allLinks.reaches⟩
      follows := (complete.links allLinks).follows
      connected := by
        rw [onlyAdded, ← transitions]
        exact declared
      numbered := by
        rw [onlyAdded, allLinks.numbered, sameStates]
        exact congrArg (Draft.transitionIds · added.length) grows.numbered
      maxDepth := allLinks.maxDepth.trans grows.maxDepth
      entered := by
        intro placement member name noted
        rw [sameInitials]
        exact enteredAt placement member name noted
      entersMachine }

theorem build_eq (declaration : MachineDeclaration) (maxDepth : Nat) (ids : IdSource) :
    declaration.build maxDepth ids =
      match declaration.draft maxDepth (declaration.emptyDraft maxDepth ids) with
      | .ok _ draft => (.ok draft.construction.machine, draft.construction.ids)
      | .error error draft => (.error error, draft.construction.ids) := rfl

/-- A build ends with the first defect or with a machine that realizes the
declaration. -/
theorem build_decides (declaration : MachineDeclaration) (maxDepth : Nat) (ids : IdSource) :
    match declaration.firstDefect maxDepth with
    | none => ∃ machine, (declaration.build maxDepth ids).1 = .ok machine ∧
        machine.Realizes ids maxDepth declaration
    | some error => (declaration.build maxDepth ids).1 = .error error := by
  have decides := declaration.draft_decides maxDepth ids
  rw [build_eq]
  cases defect : declaration.firstDefect maxDepth with
  | none =>
      rw [defect] at decides
      rcases decides with ⟨_, after, finished, realizes⟩
      exact ⟨after.machine, by simp only [finished, Draft.machine], realizes⟩
  | some error =>
      rw [defect] at decides
      rcases decides with ⟨after, stopped⟩
      simp only [stopped]

theorem build_eq_ok {declaration : MachineDeclaration} {maxDepth : Nat} {ids : IdSource}
    {machine : Machine} (built : (declaration.build maxDepth ids).1 = .ok machine) :
    declaration.firstDefect maxDepth = none ∧
      machine.Realizes ids maxDepth declaration := by
  have decides := declaration.build_decides maxDepth ids
  cases defect : declaration.firstDefect maxDepth with
  | none =>
      rw [defect] at decides
      rcases decides with ⟨_, same, realizes⟩
      cases built.symm.trans same
      exact ⟨rfl, realizes⟩
  | some error =>
      rw [defect] at decides
      cases built.symm.trans decides

theorem build_eq_error {declaration : MachineDeclaration} {maxDepth : Nat} {ids : IdSource}
    {error : BuildError} :
    (declaration.build maxDepth ids).1 = .error error ↔
      declaration.firstDefect maxDepth = some error := by
  have decides := declaration.build_decides maxDepth ids
  cases defect : declaration.firstDefect maxDepth with
  | none =>
      rw [defect] at decides
      rcases decides with ⟨machine, built, -⟩
      simp [built]
  | some first =>
      rw [defect] at decides
      simp [decides]

/-- Exactly the buildable declarations become machines; the error for any other one
is its first defect. -/
theorem build_decided_by_checks (declaration : MachineDeclaration) (maxDepth : Nat)
    (ids : IdSource) :
    ((∃ machine, (declaration.build maxDepth ids).1 = .ok machine) ↔
        declaration.Buildable maxDepth) ∧
      ∀ error, (declaration.build maxDepth ids).1 = .error error ↔
        declaration.firstDefect maxDepth = some error := by
  refine ⟨?_, fun error => build_eq_error⟩
  rw [← firstDefect_eq_none]
  constructor
  · intro accepted
    rcases accepted with ⟨machine, built⟩
    exact (build_eq_ok built).1
  · intro sound
    have decides := declaration.build_decides maxDepth ids
    rw [sound] at decides
    rcases decides with ⟨machine, built, -⟩
    exact ⟨machine, built⟩

end MachineDeclaration

end Statechart
