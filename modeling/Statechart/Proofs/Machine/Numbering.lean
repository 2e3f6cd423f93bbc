import Statechart.Proofs.Machine.Identity

/-!
Numbers of ids. A machine need not be made in one go: between its steps the same
source may give ids to other machines and to snapshots. As long as the numbers do
not run out, the ids of a machine stay different, and later states and transitions
have larger numbers.
-/

namespace Statechart

namespace IdSource

/-- The number of an id, which stands behind its last dash. -/
def numberOf (id : String) : Nat :=
  Nat.ofDigitChars 10 (id.toList.reverse.takeWhile (· ≠ '-')).reverse 0

/-- Read from its end a text with a number has its digits up to the last dash. -/
theorem ne_dash_of_mem_digits (number : Nat) :
    ∀ digit ∈ (Nat.toDigits 10 number).reverse, decide (digit ≠ '-') = true := by
  intro digit member
  apply decide_eq_true
  rintro rfl
  exact dash_not_mem_digits _ (List.mem_reverse.mp member)

theorem reverse_toList_numbered (kind : String) (number : Nat) :
    (kind ++ "-" ++ toString number).toList.reverse =
      (Nat.toDigits 10 number).reverse ++ '-' :: kind.toList.reverse := by
  rw [toList_numbered, List.reverse_append, List.reverse_cons, List.append_assoc,
    List.singleton_append]

theorem numberOf_numbered (kind : String) (number : Nat) :
    numberOf (kind ++ "-" ++ toString number) = number := by
  rw [numberOf, reverse_toList_numbered,
    List.takeWhile_append_of_pos (ne_dash_of_mem_digits number)]
  simp

theorem numberOf_idAt (kind : String) (number : UInt64) :
    numberOf (idAt kind number) = number.toNat :=
  numberOf_numbered kind number.toNat

end IdSource

namespace Machine

open IdSource

/-- A machine that is being made, with the number of ids that its source has given out.
Ids of others only move the source on; a step uses up one number for each element that
it adds. -/
inductive Grown : Machine → Nat → Prop
  | start (name : String) (location : Option Location) (given : Nat) :
      Grown (Construction.start name location ⟨UInt64.ofNat given⟩).machine (given + 1)
  | wait {machine : Machine} {given later : Nat} (grown : machine.Grown given)
      (passed : given ≤ later) : Grown machine later
  | perform {machine after : Machine} {given : Nat} (grown : machine.Grown given)
      (step : ConstructionStep)
      (performed : (step.perform ⟨machine, ⟨UInt64.ofNat given⟩⟩).2.machine = after) :
      Grown after (given + (after.ids.length - machine.ids.length))

theorem Grown.reachable {machine : Machine} {given : Nat} (grown : machine.Grown given) :
    machine.Reachable := by
  induction grown with
  | start name location given => exact .start name location _
  | wait _ _ reachable => exact reachable
  | perform _ step performed reachable =>
      rw [← performed]
      exact reachable.perform _ step

/-- The ids of a machine have different numbers below `given`, increasing in the order
of the states and in the order of the transitions. -/
structure Numbered (machine : Machine) (given : Nat) : Prop where
  minted : ∀ id ∈ machine.ids, ∃ kind number, id = idAt kind number
  bounded : ∀ id ∈ machine.ids, numberOf id < given
  distinct : machine.ids.Nodup
  states : (machine.states.map (·.id)).Pairwise (numberOf · < numberOf ·)
  transitions : (machine.transitions.map (·.id)).Pairwise (numberOf · < numberOf ·)

variable {machine after : Machine} {given : Nat}

theorem Numbered.wait {later : Nat} (numbered : machine.Numbered given) (passed : given ≤ later) :
    machine.Numbered later :=
  { numbered with
    bounded := fun id member => Nat.lt_of_lt_of_le (numbered.bounded id member) passed }

theorem numberOf_minted (kind : String) (room : given < 2 ^ 64) :
    numberOf (idAt kind (UInt64.ofNat given)) = given := by
  rw [numberOf_idAt, UInt64.toNat_ofNat_of_lt' room]

/-- Among elements of its kind an element with a new id comes last. -/
theorem pairwise_minted {ids : List String} {kind : String} (room : given < 2 ^ 64)
    (bounded : ∀ id ∈ ids, numberOf id < given) (increasing : ids.Pairwise (numberOf · < numberOf ·)) :
    (ids ++ [idAt kind (UInt64.ofNat given)]).Pairwise (numberOf · < numberOf ·) := by
  refine List.pairwise_append.mpr ⟨increasing, List.pairwise_singleton _ _, ?_⟩
  intro earlier member newest isNewest
  cases List.mem_singleton.mp isNewest
  rw [numberOf_minted kind room]
  exact bounded earlier member

/-- An element more, with the next number. -/
theorem Numbered.mint (numbered : machine.Numbered given) {kind : String} (room : given < 2 ^ 64)
    (ids : after.ids.Perm (idAt kind (UInt64.ofNat given) :: machine.ids))
    (states : (after.states.map (·.id)).Pairwise (numberOf · < numberOf ·))
    (transitions : (after.transitions.map (·.id)).Pairwise (numberOf · < numberOf ·)) :
    after.Numbered (given + 1) where
  minted := by
    intro id member
    rcases List.mem_cons.mp (ids.mem_iff.mp member) with rfl | before
    · exact ⟨kind, _, rfl⟩
    · exact numbered.minted id before
  bounded := by
    intro id member
    rcases List.mem_cons.mp (ids.mem_iff.mp member) with rfl | before
    · rw [numberOf_minted kind room]
      exact Nat.lt_succ_self given
    · exact Nat.lt_succ_of_lt (numbered.bounded id before)
  distinct := by
    refine ids.nodup_iff.mpr (List.nodup_cons.mpr ⟨?_, numbered.distinct⟩)
    intro known
    have smaller := numbered.bounded _ known
    rw [numberOf_minted kind room] at smaller
    exact Nat.lt_irrefl given smaller
  states := states
  transitions := transitions

theorem Numbered.of_sameIds (numbered : machine.Numbered given)
    (head : after.id = machine.id)
    (states : after.states.map (·.id) = machine.states.map (·.id))
    (transitions : after.transitions = machine.transitions) : after.Numbered given := by
  have same : after.ids = machine.ids := by
    rw [Machine.ids, head, states, transitions, Machine.ids]
  constructor
  case minted => rw [same]; exact numbered.minted
  case bounded => rw [same]; exact numbered.bounded
  case distinct => rw [same]; exact numbered.distinct
  case states => rw [states]; exact numbered.states
  case transitions => rw [transitions]; exact numbered.transitions

/-- What a step does to the numbers: it leaves all ids alone or adds one. -/
theorem Numbered.advance (numbered : machine.Numbered given)
    {left : IdSource}
    (advance : Construction.Advance ⟨machine, ⟨UInt64.ofNat given⟩⟩ ⟨after, left⟩)
    (room : given + (after.ids.length - machine.ids.length) ≤ 2 ^ 64) :
    after.Numbered (given + (after.ids.length - machine.ids.length)) := by
  have stateBounds : ∀ id ∈ machine.states.map (·.id), numberOf id < given :=
    fun id member => numbered.bounded id (List.mem_cons_of_mem _ (List.mem_append_left _ member))
  have transitionBounds : ∀ id ∈ machine.transitions.map (·.id), numberOf id < given :=
    fun id member => numbered.bounded id (List.mem_cons_of_mem _ (List.mem_append_right _ member))
  cases advance with
  | addState state id _ _ _ _ =>
      have ids := Construction.ids_withState machine state
      have oneMore : (machine.withState state).ids.length - machine.ids.length = 1 := by
        rw [ids.length_eq, List.length_cons, Nat.add_sub_cancel_left]
      rw [oneMore] at room ⊢
      rw [id] at ids
      apply numbered.mint room ids
      · rw [← map_id_unlinkedStates, unlinkedStates_withState, List.map_append,
          map_id_unlinkedStates]
        have newest : [state.unlinked].map (·.id) = [idAt "state" (UInt64.ofNat given)] :=
          congrArg (fun id => [id]) id
        rw [newest]
        exact pairwise_minted room stateBounds numbered.states
      · rw [transitions_withState]
        exact numbered.transitions
  | connect transition id _ _ =>
      have ids := Construction.ids_withTransition machine transition
      have oneMore : (machine.withTransition transition).ids.length - machine.ids.length = 1 := by
        rw [ids.length_eq, List.length_cons, Nat.add_sub_cancel_left]
      rw [oneMore] at room ⊢
      rw [id] at ids
      apply numbered.mint room ids
      · rw [← map_id_unlinkedStates, unlinkedStates_withTransition, map_id_unlinkedStates]
        exact numbered.states
      · rw [withTransition, List.map_append]
        have newest : [transition].map (·.id) = [idAt "transition" (UInt64.ofNat given)] :=
          congrArg (fun id => [id]) id
        rw [newest]
        exact pairwise_minted room transitionBounds numbered.transitions
  | setInitial _ _ => exact (numbered.wait (Nat.le_add_right _ _)).of_sameIds rfl rfl rfl
  | setCompositeInitial _ _ _ _ =>
      refine (numbered.wait (Nat.le_add_right _ _)).of_sameIds rfl ?_ rfl
      rw [← map_id_unlinkedStates, unlinkedStates_withCompositeInitial, map_id_unlinkedStates]
  | setMaxDepth _ => exact (numbered.wait (Nat.le_add_right _ _)).of_sameIds rfl rfl rfl

theorem Grown.numbered (grown : machine.Grown given) (room : given ≤ 2 ^ 64) :
    machine.Numbered given := by
  induction grown with
  | start name location given =>
      constructor
      case minted =>
        intro id member
        exact ⟨"stateMachine", _, List.mem_singleton.mp member⟩
      case bounded =>
        intro id member
        cases List.mem_singleton.mp member
        have number : numberOf (idAt "stateMachine" (UInt64.ofNat given)) = given :=
          numberOf_minted "stateMachine" room
        exact Nat.lt_succ_of_le (Nat.le_of_eq number)
      case distinct => simp [Machine.ids, Construction.start]
      case states => exact .nil
      case transitions => exact .nil
  | wait _ passed induction => exact (induction (Nat.le_trans passed room)).wait passed
  | @perform machine after given _ step performed induction =>
      have numbered := induction (Nat.le_trans (Nat.le_add_right _ _) room)
      rcases Construction.perform_advance ⟨machine, ⟨UInt64.ofNat given⟩⟩ step with
        unchanged | advance
      · have same : machine = after := by rw [← performed, unchanged]
        subst same
        exact numbered.wait (Nat.le_add_right _ _)
      · cases performed
        exact numbered.advance advance room

end Machine

/-! A machine that is made in one go uses the numbers from the start on. -/

namespace Construction

variable {construction : Construction} {start : UInt64}

theorem Advance.length_ids_le {before after : Construction} (advance : Advance before after) :
    before.machine.ids.length ≤ after.machine.ids.length := by
  rcases advance.ids with ⟨same, -⟩ | ⟨kind, more, -⟩
  · exact Nat.le_of_eq (congrArg List.length same.symm)
  · rw [more.length_eq]
    exact Nat.le_succ _

theorem Minted.grown_run (steps : List ConstructionStep) (minted : construction.Minted start)
    (grown : construction.machine.Grown (start.toNat + construction.machine.ids.length)) :
    (construction.run steps).2.machine.Grown
      (start.toNat + (construction.run steps).2.machine.ids.length) := by
  induction steps generalizing construction with
  | nil => exact grown
  | cons step steps induction =>
      have counter : UInt64.ofNat (start.toNat + construction.machine.ids.length) =
          construction.ids.next := by
        rw [minted.next, UInt64.ofNat_add, UInt64.ofNat_toNat]
      have performed := grown.perform step rfl
      rw [counter] at performed
      have mintedAfter : (step.perform construction).2.Minted start := by
        rcases perform_advance construction step with unchanged | advance
        · rwa [unchanged]
        · exact minted.advance advance
      have longer : construction.machine.ids.length ≤
          (step.perform construction).2.machine.ids.length := by
        rcases perform_advance construction step with unchanged | advance
        · exact Nat.le_of_eq (congrArg (·.machine.ids.length) unchanged.symm)
        · exact advance.length_ids_le
      rw [Nat.add_assoc, Nat.add_sub_cancel' longer] at performed
      exact induction mintedAfter performed

theorem grown_run (name : String) (location : Option Location) (ids : IdSource)
    (steps : List ConstructionStep) :
    ((Construction.start name location ids).run steps).2.machine.Grown
      (ids.next.toNat + ((Construction.start name location ids).run steps).2.machine.ids.length) := by
  have started := Machine.Grown.start name location ids.next.toNat
  rw [UInt64.ofNat_toNat] at started
  exact (minted_start name location ids).grown_run steps started

end Construction

end Statechart
