import Statechart.Proofs.Identifier
import Statechart.Proofs.Machine.Unlinked

/-!
Identity. The ids of a machine and of everything in it are minted one after the
other, so they are different as long as there are no more of them than numbers.
-/

namespace Statechart

/-- The ids of the machine, of its states and of its transitions. -/
def Machine.ids (machine : Machine) : List String :=
  machine.id :: (machine.states.map (·.id) ++ machine.transitions.map (·.id))

theorem Machine.length_ids (machine : Machine) :
    machine.ids.length = machine.states.length + machine.transitions.length + 1 := by
  simp [Machine.ids]

namespace Construction

/-- All ids have been minted since `start`, and no others. -/
structure Minted (start : UInt64) (construction : Construction) : Prop where
  next : construction.ids.next = start + UInt64.ofNat construction.machine.ids.length
  numbered : ∀ id ∈ construction.machine.ids, ∃ kind offset,
    offset < construction.machine.ids.length ∧ id = IdSource.idAt kind (start + UInt64.ofNat offset)
  nodup : construction.machine.ids.length ≤ 2 ^ 64 → construction.machine.ids.Nodup

variable {start : UInt64} {construction : Construction} {machine : Machine}

theorem minted_start (name : String) (location : Option Location) (ids : IdSource) :
    (Construction.start name location ids).Minted ids.next where
  next := rfl
  numbered id member := by
    cases List.mem_singleton.mp member
    have number : ids.next + UInt64.ofNat 0 = ids.next := UInt64.add_zero ids.next
    exact ⟨"stateMachine", 0, Nat.one_pos, by rw [number]; rfl⟩
  nodup _ := by simp [Machine.ids, start]

theorem Minted.givenOut (minted : construction.Minted start) :
    IdSource.GivenOut start construction.machine.ids :=
  ⟨minted.numbered, minted.nodup⟩

theorem Minted.mint (minted : construction.Minted start) {kind : String}
    (ids : machine.ids.Perm
      (IdSource.idAt kind construction.ids.next :: construction.machine.ids)) :
    Minted start ⟨machine, ⟨construction.ids.next + 1⟩⟩ := by
  have given : IdSource.GivenOut start machine.ids := by
    rw [minted.next] at ids
    exact minted.givenOut.mint ids
  constructor
  case next =>
    rw [minted.next, ids.length_eq, List.length_cons, UInt64.ofNat_add, UInt64.add_assoc]
    rfl
  case numbered => exact given.numbered
  case nodup => exact given.nodup

theorem Minted.of_sameIds (minted : construction.Minted start)
    (same : machine.ids = construction.machine.ids) : Minted start ⟨machine, construction.ids⟩ where
  next := by rw [same]; exact minted.next
  numbered := by rw [same]; exact minted.numbered
  nodup := by rw [same]; exact minted.nodup

theorem ids_withState (machine : Machine) (state : State) :
    (machine.withState state).ids.Perm (state.id :: machine.ids) := by
  rw [Machine.ids, ← Machine.map_id_unlinkedStates, Machine.unlinkedStates_withState,
    List.map_append, Machine.map_id_unlinkedStates, Machine.transitions_withState,
    Machine.id_withState, List.append_assoc]
  exact (List.perm_middle.cons machine.id).trans (List.Perm.swap _ _ _)

theorem ids_withTransition (machine : Machine) (transition : Transition) :
    (machine.withTransition transition).ids.Perm (transition.id :: machine.ids) := by
  rw [Machine.ids, ← Machine.map_id_unlinkedStates, Machine.unlinkedStates_withTransition,
    Machine.map_id_unlinkedStates, Machine.withTransition, List.map_append, ← List.append_assoc,
    ← List.cons_append]
  exact List.perm_append_singleton _ _

/-- An effect leaves all ids alone or adds an element with the next one. -/
theorem Advance.ids {before after : Construction} (advance : Advance before after) :
    (after.machine.ids = before.machine.ids ∧ after.ids = before.ids) ∨
      ∃ kind, after.machine.ids.Perm
          (IdSource.idAt kind before.ids.next :: before.machine.ids) ∧
        after.ids = ⟨before.ids.next + 1⟩ := by
  cases advance with
  | addState state id _ _ _ _ =>
      refine .inr ⟨"state", ?_, rfl⟩
      rw [← id]
      exact ids_withState _ state
  | connect transition id _ _ =>
      refine .inr ⟨"transition", ?_, rfl⟩
      rw [← id]
      exact ids_withTransition _ transition
  | setInitial _ _ => exact .inl ⟨rfl, rfl⟩
  | setCompositeInitial _ _ _ _ =>
      refine .inl ⟨?_, rfl⟩
      rw [Machine.ids, ← Machine.map_id_unlinkedStates,
        Machine.unlinkedStates_withCompositeInitial, Machine.map_id_unlinkedStates]
      rfl
  | setMaxDepth _ => exact .inl ⟨rfl, rfl⟩

/-- A step, accepted or not, leaves all ids alone or adds an element with the next one. -/
theorem perform_ids (construction : Construction) (step : ConstructionStep) :
    ((step.perform construction).2.machine.ids = construction.machine.ids ∧
        (step.perform construction).2.ids = construction.ids) ∨
      ∃ kind, (step.perform construction).2.machine.ids.Perm
          (IdSource.idAt kind construction.ids.next :: construction.machine.ids) ∧
        (step.perform construction).2.ids = ⟨construction.ids.next + 1⟩ := by
  rcases perform_advance construction step with unchanged | advance
  · rw [unchanged]
    exact .inl ⟨rfl, rfl⟩
  · exact advance.ids

theorem Minted.advance {before after : Construction} (advance : Advance before after)
    (minted : before.Minted start) : after.Minted start := by
  rcases after with ⟨machine, left⟩
  rcases advance.ids with ⟨same, unmoved⟩ | ⟨kind, more, moved⟩
  · cases unmoved
    exact minted.of_sameIds same
  · cases moved
    exact minted.mint more

/-- The ids of a machine made in one go are all different. -/
theorem Reaches.nodup_ids {name : String} {location : Option Location} {ids : IdSource}
    (reaches : (Construction.start name location ids).Reaches construction)
    (room : construction.machine.ids.length ≤ 2 ^ 64) : construction.machine.ids.Nodup :=
  (reaches.preserves Minted.advance (minted_start name location ids)).nodup room

end Construction

end Statechart
