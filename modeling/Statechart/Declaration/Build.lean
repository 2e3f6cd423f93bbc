import Statechart.Declaration.Basic
import Statechart.Declaration.Defect
import Statechart.Machine.Construction

/-!
From a declaration to a machine, in three passes: every state is made, parents
before their children; then the transitions are connected; then the initial
states are set, those of composites first and the machine's last. The passes
before the first problem keep the ids that they have used.
-/

namespace Statechart

/-! What the first pass collects for the later ones: the states that bear a
name, the transition declarations in the order they are connected in, and the
initial names of the composites. -/

structure Draft where
  construction : Construction
  bearers : List (String × StateIndex) := []
  transitions : List TransitionDeclaration := []
  initials : List (StateIndex × String) := []
  deriving DecidableEq, Repr

/-- A pass over a draft that may stop with an error and leaves the draft as far
as it has come. -/
abbrev Drafting := EStateM BuildError Draft

namespace Drafting

def construct (step : Construction → Except ConstructionError (α × Construction)) : Drafting α :=
  fun draft =>
    match step draft.construction with
    | .ok (answer, construction) => .ok answer { draft with construction }
    | .error error => .error (.construction error) draft

def lift : Except BuildError α → Drafting α
  | .ok value => pure value
  | .error error => throw error

def noteInitial (composite : StateIndex) (name : String) : Drafting Unit :=
  modify fun draft => { draft with initials := draft.initials ++ [(composite, name)] }

/-- Notes the name of a finished state, if it has one, and its transitions. -/
def noteState (name : Option String) (index : StateIndex)
    (transitions : List TransitionDeclaration) : Drafting Unit :=
  modify fun draft =>
    { draft with
      bearers := draft.bearers ++ (name.map fun name => (name, index)).toList
      transitions := draft.transitions ++ transitions }

end Drafting

namespace StateDeclaration

open Drafting

mutual
def draft (maxDepth : Nat) : StateDeclaration → Option StateIndex → Nat → Drafting Unit
  | ⟨name, isFinal, initial, states, transitions, location⟩, parent, level => do
      if level > maxDepth then throw (.tree (.recursionLimit maxDepth))
      if states.isEmpty then
        if initial.isSome then throw (.unexpectedInitial name)
        let index ← construct (·.addSimple name parent isFinal location)
        noteState name index transitions
      else
        if isFinal then throw (.finalComposite name)
        match initial with
        | none => throw (.missingInitial name)
        | some initial => do
            let index ← construct (·.addComposite name parent location)
            noteInitial index initial
            draftAll maxDepth states (some index) (level + 1)
            noteState name index transitions

def draftAll (maxDepth : Nat) : List StateDeclaration → Option StateIndex → Nat → Drafting Unit
  | [], _, _ => pure ()
  | state :: states, parent, level => do
      state.draft maxDepth parent level
      draftAll maxDepth states parent level
end

end StateDeclaration

/-! A name stands for a state when it has exactly one bearer. -/

def onlyBearer (name : String) : List StateIndex → Except BuildError StateIndex
  | [] => .error (.unknownState name)
  | [index] => .ok index
  | _ :: _ :: _ => .error (.ambiguousState name)

namespace Draft

/-- The state of that name anywhere in the tree. -/
def resolve (draft : Draft) (name : String) : Except BuildError StateIndex :=
  onlyBearer name (draft.bearers.filterMap fun bearer =>
    if bearer.1 = name then some bearer.2 else none)

end Draft

/-- The state of that name among the candidates. -/
def Machine.findNamed (machine : Machine) (candidates : List StateIndex) (name : String) :
    Except BuildError StateIndex :=
  onlyBearer name (candidates.filter fun candidate =>
    (machine.state? candidate).bind (·.name) == some name)

namespace MachineDeclaration

open Drafting

def connectAll : List TransitionDeclaration → Drafting Unit
  | [] => pure ()
  | transition :: transitions => do
      let source ← lift ((← get).resolve transition.source)
      let target ← lift ((← get).resolve transition.target)
      let _ ← construct (·.connect source target transition.input transition.output
        transition.location)
      connectAll transitions

def enterAll : List (StateIndex × String) → Drafting Unit
  | [] => pure ()
  | (composite, name) :: initials => do
      let machine := (← get).construction.machine
      let children := ((machine.state? composite).map (·.children)).getD []
      let target ← lift (machine.findNamed children name)
      construct fun construction =>
        ((), ·) <$> construction.setCompositeInitial composite target
      enterAll initials

def enterMachine : Option String → Drafting Unit
  | none => pure ()
  | some name => do
      let machine := (← get).construction.machine
      let target ← lift (machine.findNamed machine.topLevel name)
      construct fun construction => ((), ·) <$> construction.setInitial target

def draft (declaration : MachineDeclaration) (maxDepth : Nat) : Drafting Unit := do
  StateDeclaration.draftAll maxDepth declaration.states none 0
  modify fun draft => { draft with transitions := draft.transitions ++ declaration.transitions }
  connectAll (← get).transitions
  enterAll (← get).initials
  enterMachine declaration.initial

/-- Builds the machine of a declaration, with the ids left afterwards, which are
used up even when there is no machine. -/
def build (declaration : MachineDeclaration) (maxDepth : Nat) (ids : IdSource) :
    Except BuildError Machine × IdSource :=
  let construction := Construction.start declaration.name declaration.location ids
  match declaration.draft maxDepth ⟨construction.setMaxDepth maxDepth, [], [], []⟩ with
  | .ok _ draft => (.ok draft.construction.machine, draft.construction.ids)
  | .error error draft => (.error error, draft.construction.ids)

end MachineDeclaration

end Statechart
