import Mathlib.Data.List.Perm.Basic
import Statechart.Snapshot
import Statechart.Proofs.Machine.Element

/-!
Machines and snapshots made side by side. In whatever order the steps for several
machines, snapshots and other ids take turns, one source of ids keeps them apart: no id
is given out twice, and every machine finds exactly its own elements by their ids.
-/

namespace Statechart

/-- What has been made out of one source of ids: machines, which may still grow,
snapshots, and ids for anything else. -/
structure Workshop where
  ids : IdSource
  machines : List Machine := []
  snapshots : List Snapshot := []
  others : List String := []

inductive WorkshopStep where
  | start (name : String) (location : Option Location)
  | construct (position : Nat) (step : ConstructionStep)
  | snapshot (inputs : List String) (nextInput : Option UInt64) (current : StateIndex)
      (outputs : List String)
  | mint (kind : String)

namespace Workshop

/-- Goes one step on. A step for a machine that there is not changes nothing, and neither
does one that the construction rejects. -/
def perform (workshop : Workshop) : WorkshopStep → Workshop
  | .start name location =>
      let started := Construction.start name location workshop.ids
      { workshop with
        ids := started.ids
        machines := workshop.machines ++ [started.machine] }
  | .construct position step =>
      match workshop.machines[position]? with
      | none => workshop
      | some machine =>
          let after := (step.perform ⟨machine, workshop.ids⟩).2
          { workshop with
            ids := after.ids
            machines := workshop.machines.set position after.machine }
  | .snapshot inputs nextInput current outputs =>
      let (snapshot, ids) := Snapshot.take inputs nextInput current outputs workshop.ids
      { workshop with ids, snapshots := workshop.snapshots ++ [snapshot] }
  | .mint kind =>
      let (id, ids) := workshop.ids.mint kind
      { workshop with ids, others := workshop.others ++ [id] }

def run (workshop : Workshop) (steps : List WorkshopStep) : Workshop :=
  steps.foldl perform workshop

/-- All ids that have been given out. -/
def minted (workshop : Workshop) : List String :=
  workshop.machines.flatMap (·.ids) ++ (workshop.snapshots.map (·.id) ++ workshop.others)

/-- The ids that have been given out for anything but the machine at a position. -/
def mintedBeside (workshop : Workshop) (position : Nat) : List String :=
  (workshop.machines.eraseIdx position).flatMap (·.ids) ++
    (workshop.snapshots.map (·.id) ++ workshop.others)

theorem minted_perm {workshop : Workshop} {position : Nat} {machine : Machine}
    (found : workshop.machines[position]? = some machine) :
    workshop.minted.Perm (machine.ids ++ workshop.mintedBeside position) := by
  rcases List.getElem?_eq_some_iff.mp found with ⟨inRange, rfl⟩
  have inFront := (List.getElem_cons_eraseIdx_perm inRange).symm.flatMap_right (·.ids)
  rw [List.flatMap_cons] at inFront
  have whole := inFront.append_right (workshop.snapshots.map (·.id) ++ workshop.others)
  rwa [List.append_assoc] at whole

/-! ## One step -/

/-- The ids that one machine takes up are taken up in the whole workshop. -/
theorem minted_replace {workshop after : Workshop} {position : Nat} {machine grown : Machine}
    (new : List String) (found : workshop.machines[position]? = some machine)
    (machines : after.machines = workshop.machines.set position grown)
    (snapshots : after.snapshots = workshop.snapshots) (others : after.others = workshop.others)
    (more : grown.ids.Perm (new ++ machine.ids)) :
    after.minted.Perm (new ++ workshop.minted) := by
  have inRange := (List.getElem?_eq_some_iff.mp found).1
  have foundAfter : after.machines[position]? = some grown := by
    rw [machines, List.getElem?_set_self inRange]
  have beside : after.mintedBeside position = workshop.mintedBeside position := by
    rw [mintedBeside, machines, snapshots, others, List.eraseIdx_set_eq, mintedBeside]
  have grownInside := (minted_perm foundAfter).trans (more.append_right _)
  rw [beside, List.append_assoc] at grownInside
  exact grownInside.trans ((minted_perm found).symm.append_left new)

/-- A step leaves all ids alone or gives out the next one. -/
theorem perform_minted (workshop : Workshop) (step : WorkshopStep) :
    ((workshop.perform step).minted.Perm workshop.minted ∧
        (workshop.perform step).ids = workshop.ids) ∨
      ∃ kind, (workshop.perform step).minted.Perm
          (IdSource.idAt kind workshop.ids.next :: workshop.minted) ∧
        (workshop.perform step).ids = ⟨workshop.ids.next + 1⟩ := by
  cases step with
  | start name location =>
      refine .inr ⟨"stateMachine", ?_, rfl⟩
      rw [perform, minted, List.flatMap_append, List.append_assoc]
      exact List.perm_middle
  | construct position step =>
      rw [perform]
      split
      case h_1 => exact .inl ⟨.refl _, rfl⟩
      case h_2 machine found =>
        rcases Construction.perform_ids ⟨machine, workshop.ids⟩ step with
          ⟨same, unmoved⟩ | ⟨kind, more, moved⟩
        · refine .inl ⟨?_, unmoved⟩
          exact minted_replace [] found rfl rfl rfl (.of_eq same)
        · refine .inr ⟨kind, ?_, moved⟩
          exact minted_replace [_] found rfl rfl rfl more
  | snapshot inputs nextInput current outputs =>
      refine .inr ⟨"runtimeState", ?_, rfl⟩
      have made : (workshop.perform (.snapshot inputs nextInput current outputs)).minted =
          (workshop.machines.flatMap (·.ids) ++ workshop.snapshots.map (·.id)) ++
            IdSource.idAt "runtimeState" workshop.ids.next :: workshop.others := by
        simp [perform, minted, Snapshot.take, IdSource.mint]
      rw [made, minted, ← List.append_assoc]
      exact List.perm_middle
  | mint kind =>
      refine .inr ⟨kind, ?_, rfl⟩
      have made : (workshop.perform (.mint kind)).minted =
          workshop.minted ++ [IdSource.idAt kind workshop.ids.next] := by
        simp [perform, minted, IdSource.mint]
      rw [made]
      exact List.perm_append_singleton _ _

/-! ## A whole history -/

/-- As many ids have been given out since `start` as numbers. -/
structure Accounts (start : IdSource) (workshop : Workshop) : Prop where
  next : workshop.ids.next = start.next + UInt64.ofNat workshop.minted.length
  given : IdSource.GivenOut start.next workshop.minted

theorem accounts_empty (start : IdSource) : Accounts start { ids := start } where
  next := (UInt64.add_zero start.next).symm
  given := IdSource.givenOut_nil start.next

theorem Accounts.perform {start : IdSource} {workshop : Workshop}
    (accounts : Accounts start workshop) (step : WorkshopStep) :
    Accounts start (workshop.perform step) := by
  rcases workshop.perform_minted step with ⟨same, unmoved⟩ | ⟨kind, more, moved⟩
  · constructor
    case next => rw [unmoved, accounts.next, same.length_eq]
    case given => exact accounts.given.perm same
  · constructor
    case next =>
      rw [moved, accounts.next, more.length_eq, List.length_cons, UInt64.ofNat_add,
        UInt64.add_assoc]
      rfl
    case given =>
      rw [accounts.next] at more
      exact accounts.given.mint more

theorem Accounts.run {start : IdSource} {workshop : Workshop} (accounts : Accounts start workshop)
    (steps : List WorkshopStep) : Accounts start (workshop.run steps) := by
  induction steps generalizing workshop with
  | nil => exact accounts
  | cons step steps induction => exact induction (accounts.perform step)

/-- All ids are different texts, and each machine finds by an id the element that bears it,
and nothing by the id of anything else. -/
structure TellsApart (start : IdSource) (workshop : Workshop) : Prop where
  accounted : workshop.ids.next = start.next + UInt64.ofNat workshop.minted.length
  distinct : workshop.minted.Nodup
  nonempty : ∀ id ∈ workshop.minted, id ≠ ""
  findState : ∀ machine ∈ workshop.machines, ∀ {id index},
    machine.findState id = some index ↔ ∃ state, machine.state? index = some state ∧ state.id = id
  findTransition : ∀ machine ∈ workshop.machines, ∀ {id index},
    machine.findTransition id = some index ↔
      ∃ transition, machine.transition? index = some transition ∧ transition.id = id
  findElement : ∀ machine ∈ workshop.machines, ∀ {id element},
    machine.findElement id = some element ↔
      element ∈ machine.elements ∧ machine.idOf element = id
  foreign : ∀ {position machine}, workshop.machines[position]? = some machine →
    ∀ id ∈ workshop.mintedBeside position,
      machine.findElement id = none ∧ machine.containsId id = false

theorem Accounts.tellsApart {start : IdSource} {workshop : Workshop}
    (accounts : Accounts start workshop) (few : workshop.minted.length < 2 ^ 64) :
    workshop.TellsApart start := by
  have distinct := accounts.given.nodup (Nat.le_of_lt few)
  have split : ∀ {position machine}, workshop.machines[position]? = some machine →
      machine.ids.Nodup ∧ ∀ id ∈ workshop.mintedBeside position, id ∉ machine.ids := by
    intro position machine found
    rcases List.nodup_append.mp ((minted_perm found).nodup_iff.mp distinct) with ⟨own, -, apart⟩
    exact ⟨own, fun id beside member => apart id member id beside rfl⟩
  have own : ∀ machine ∈ workshop.machines, machine.ids.Nodup := by
    intro machine member
    rcases List.mem_iff_getElem?.mp member with ⟨position, found⟩
    exact (split found).1
  constructor
  case accounted => exact accounts.next
  case distinct => exact distinct
  case nonempty => exact accounts.given.ne_empty
  case findState => exact fun machine member => Machine.findState_eq_some (own machine member)
  case findTransition =>
    exact fun machine member => Machine.findTransition_eq_some (own machine member)
  case findElement => exact fun machine member => Machine.findElement_eq_some (own machine member)
  case foreign =>
    intro position machine found id beside
    have unknown := (split found).2 id beside
    refine ⟨Machine.findElement_eq_none.mpr unknown, ?_⟩
    rwa [← Bool.not_eq_true, Machine.containsId_eq_true]

theorem run_tellsApart (start : IdSource) (steps : List WorkshopStep)
    (few : (run { ids := start } steps).minted.length < 2 ^ 64) :
    (run { ids := start } steps).TellsApart start :=
  ((accounts_empty start).run steps).tellsApart few

/-- Two machines by turns over the end of the numbers, with a rejected step, a snapshot and
an id of another kind that looks like one more state. -/
theorem run_tellsApart_twins :
    let start : IdSource := ⟨UInt64.ofNat (2 ^ 64 - 3)⟩
    let steps : List WorkshopStep := [.start "left" none, .start "right" none,
      .construct 0 (.addSimple none none false none), .mint "state-1",
      .construct 1 (.addSimple none none false none), .construct 1 (.connect 0 1 none none none),
      .snapshot ["go"] none 0 [], .construct 0 (.connect 0 0 none none none)]
    (run { ids := start } steps).minted =
        ["stateMachine-18446744073709551613", "state-18446744073709551615", "transition-3",
          "stateMachine-18446744073709551614", "state-1", "runtimeState-2", "state-1-0"] ∧
      (run { ids := start } steps).TellsApart start := by
  intro start steps
  have minted : (run { ids := start } steps).minted =
      ["stateMachine-18446744073709551613", "state-18446744073709551615", "transition-3",
        "stateMachine-18446744073709551614", "state-1", "runtimeState-2", "state-1-0"] := by
    decide +kernel
  refine ⟨minted, run_tellsApart start steps ?_⟩
  rw [minted]
  decide

end Workshop

end Statechart
