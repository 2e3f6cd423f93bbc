import Mathlib.Data.List.Sort
import Statechart.Proofs.Machine.Numbering
import Statechart.Proofs.Record.Showing

/-!
Faithfulness of renderings. The ids in the record of a machine are different, so
each element has one record that can be found by its id, and the two lists of
outgoing transitions can be merged again by the numbers of their ids. Hence two
machines with one record differ at most in what no record tells.
-/

namespace Statechart

open IdSource

/-- What is related to a member of the list on the left. -/
theorem exists_right {α β : Type _} {related : α → β → Prop} {left : List α} {right : List β}
    (all : List.Forall₂ related left right) {item : α} (member : item ∈ left) :
    ∃ other ∈ right, related item other := by
  rcases List.mem_iff_getElem.mp member with ⟨place, inLeft, rfl⟩
  have inRight : place < right.length := all.length_eq ▸ inLeft
  exact ⟨_, List.getElem_mem inRight, all.get inLeft inRight⟩

theorem exists_left {α β : Type _} {related : α → β → Prop} {left : List α} {right : List β}
    (all : List.Forall₂ related left right) {other : β} (member : other ∈ right) :
    ∃ item ∈ left, related item other :=
  exists_right all.flip member

/-- The records of both lists of transitions in the order of their numbers. -/
def Record.mergedTransitions (record : Record) : List Record :=
  (record.childrenOf "transitions" ++ record.childrenOf "final transitions").mergeSort
    fun left right => decide (numberOf left.id ≤ numberOf right.id)

namespace Machine

theorem stateId_eq_getElem (machine : Machine) :
    machine.stateId = fun index => ((machine.states.map (·.id))[index]?).getD "" := by
  funext index
  rw [stateId, List.getElem?_map]
  rfl

theorem transitionId_eq_getElem (machine : Machine) :
    machine.transitionId = fun index => ((machine.transitions.map (·.id))[index]?).getD "" := by
  funext index
  rw [transitionId, List.getElem?_map]
  rfl

/-! ## One record for each element -/

/-- The record of a machine tells everything about it: each element has one record that
shows it, found by its id, and the lists of transitions can be merged again. -/
structure Portrays (machine : Machine) (outputKey : String) (root : Record) : Prop where
  head : machine.ShowsMachine root
  each : ∃ order, order.Perm machine.elements ∧
    List.Forall₂ (machine.Shows outputKey) order root.preorder
  ids : (root.preorder.map (·.id)).Perm machine.ids
  distinct : (root.preorder.map (·.id)).Nodup
  merged : ∀ {index state record}, machine.state? index = some state → record ∈ root.preorder →
    record.id = state.id →
      List.Forall₂ (machine.ShowsTransition outputKey) state.outgoing record.mergedTransitions

section Merging

variable {machine : Machine} {given : Nat} {outputKey : String}

theorem Numbered.transition_le (numbered : machine.Numbered given) {first second : TransitionIndex}
    (firstInRange : first < machine.transitions.length)
    (secondInRange : second < machine.transitions.length)
    (smaller : numberOf (machine.transitionId first) ≤ numberOf (machine.transitionId second)) :
    first ≤ second := by
  refine Nat.le_of_not_lt fun less => ?_
  have increasing := List.pairwise_iff_getElem.mp numbered.transitions second first
    (by simpa using secondInRange) (by simpa using firstInRange) less
  simp [transitionId, transition?, firstInRange, secondInRange] at smaller increasing
  omega

theorem transition_lt_of_shows {index : TransitionIndex} {record : Record}
    (showing : machine.ShowsTransition outputKey index record) :
    index < machine.transitions.length := by
  rcases showing.content with ⟨_, _, found, -⟩
  exact (List.getElem?_eq_some_iff.mp found).1

theorem ShowsTransition.id {index : TransitionIndex} {record : Record}
    (showing : machine.ShowsTransition outputKey index record) :
    record.id = machine.transitionId index := by
  rcases showing.content with ⟨_, _, found, -, id, -⟩
  exact id.trans (transitionId_of_transition? found).symm

/-- Records of transitions sorted by number show them in the order of the machine. -/
theorem Numbered.pairwise_of_shows (numbered : machine.Numbered given)
    {indices : List TransitionIndex} {records : List Record}
    (related : List.Forall₂ (machine.ShowsTransition outputKey) indices records)
    (sorted : records.Pairwise fun left right => numberOf left.id ≤ numberOf right.id) :
    indices.Pairwise (· ≤ ·) := by
  induction related with
  | nil => exact .nil
  | @cons index record indices records first rest induction =>
      rcases List.pairwise_cons.mp sorted with ⟨below, sortedRest⟩
      refine List.pairwise_cons.mpr ⟨fun later member => ?_, induction sortedRest⟩
      rcases exists_right rest member with ⟨laterRecord, inRecords, shows_⟩
      have smaller := below laterRecord inRecords
      rw [first.id, ShowsTransition.id shows_] at smaller
      exact numbered.transition_le (transition_lt_of_shows first) (transition_lt_of_shows shows_)
        smaller

/-- Sorting the two lists of a state by number gives the list that they are parts of. -/
theorem ShowsState.merged {index : StateIndex} {state : State} {record : Record}
    (showing : machine.ShowsState outputKey state record) (adjacent : machine.Adjacent)
    (numbered : machine.Numbered given) (found : machine.state? index = some state) :
    List.Forall₂ (machine.ShowsTransition outputKey) state.outgoing record.mergedTransitions := by
  have both := List.rel_append showing.transitions showing.finalTransitions
  have sorting : (record.childrenOf "transitions" ++
      record.childrenOf "final transitions").Perm record.mergedTransitions :=
    (List.mergeSort_perm _ _).symm
  have exchanged : Relation.Comp (List.Forall₂ (machine.ShowsTransition outputKey)) List.Perm
      _ record.mergedTransitions := ⟨_, both, sorting⟩
  rw [List.forall₂_comp_perm_eq_perm_comp_forall₂] at exchanged
  rcases exchanged with ⟨sorted, same, related⟩
  have parts : (state.outgoing.filter (fun index => !machine.leadsToFinal index) ++
      state.outgoing.filter machine.leadsToFinal).Perm state.outgoing :=
    List.perm_append_comm.trans (List.filter_append_perm _ _)
  have inOrder : record.mergedTransitions.Pairwise fun left right =>
      numberOf left.id ≤ numberOf right.id := by
    have ordered : record.mergedTransitions.Pairwise fun left right =>
        decide (numberOf left.id ≤ numberOf right.id) = true :=
      List.pairwise_mergeSort (fun first second third => by simpa using Nat.le_trans)
        (fun first second => by simpa using Nat.le_total _ _) _
    exact ordered.imp fun less => of_decide_eq_true less
  have sameOrder : sorted = state.outgoing :=
    List.Perm.eq_of_pairwise (fun _ _ _ _ => Nat.le_antisymm)
      (numbered.pairwise_of_shows related inOrder)
      ((adjacent.increasing_outgoing found).imp Nat.le_of_lt) (same.symm.trans parts)
  rwa [sameOrder] at related

end Merging

section Portrayal

variable {machine : Machine} {outputKey : String} {root record : Record} {order : List Element}
  {records : List Record} {element : Element}

theorem map_id_of_shows (related : List.Forall₂ (machine.Shows outputKey) order records) :
    records.map (·.id) = order.map machine.idOf := by
  induction related with
  | nil => rfl
  | cons first _ induction => rw [List.map_cons, List.map_cons, first.id, induction]

/-- Records that show each element once bear the ids of the machine. -/
theorem ids_perm_of_shows (same : order.Perm machine.elements)
    (related : List.Forall₂ (machine.Shows outputKey) order records) :
    (records.map (·.id)).Perm machine.ids := by
  rw [map_id_of_shows related, ← map_idOf_elements]
  exact same.map _

theorem map_id_of_showsTransition {indices : List TransitionIndex}
    (related : List.Forall₂ (machine.ShowsTransition outputKey) indices records) :
    records.map (·.id) = indices.map machine.transitionId := by
  have shows_ : List.Forall₂ (machine.Shows outputKey) (indices.map .transition) records :=
    List.forall₂_map_left_iff.mpr related
  rw [map_id_of_shows shows_, List.map_map]
  rfl

/-- The record with the id of an element shows it. -/
theorem shows_of_id (related : List.Forall₂ (machine.Shows outputKey) order records)
    (distinct : (records.map (·.id)).Nodup) (member : element ∈ order)
    (inRecords : record ∈ records) (id : record.id = machine.idOf element) :
    machine.Shows outputKey element record := by
  rcases exists_right related member with ⟨shown, inRecordsToo, shows_⟩
  have same : shown = record :=
    List.inj_on_of_nodup_map distinct inRecordsToo inRecords (shows_.id.trans id.symm)
  exact same ▸ shows_

theorem Portrays.exists_shows (portrays : machine.Portrays outputKey root)
    (member : element ∈ machine.elements) :
    ∃ record ∈ root.preorder, machine.Shows outputKey element record := by
  rcases portrays.each with ⟨order, same, related⟩
  exact exists_right related (same.mem_iff.mpr member)

theorem Portrays.shows_of_id (portrays : machine.Portrays outputKey root)
    (member : element ∈ machine.elements) (inRoot : record ∈ root.preorder)
    (id : record.id = machine.idOf element) : machine.Shows outputKey element record := by
  rcases portrays.each with ⟨order, same, related⟩
  exact Machine.shows_of_id related portrays.distinct (same.mem_iff.mpr member) inRoot id

end Portrayal

/-- Rendering loses nothing. -/
theorem Grown.portrays {machine : Machine} {given : Nat} (grown : machine.Grown given)
    (room : given ≤ 2 ^ 64) {configuration : Configuration} {root : Record}
    (rendered : (Renderer.ofConfiguration machine configuration).stateMachine = .ok root) :
    machine.Portrays configuration.outputAttribute.key root := by
  have adjacent := grown.reachable.adjacent
  have numbered := grown.numbered room
  rcases Renderer.stateMachine_shows grown.reachable.contained adjacent rendered with
    ⟨head, order, same, related⟩
  rw [List.flatMap_singleton] at related
  have ids := ids_perm_of_shows same related
  have distinct := ids.nodup_iff.mpr numbered.distinct
  refine ⟨head, ⟨order, same, related⟩, ids, distinct, ?_⟩
  intro index state record found inRoot id
  have inOrder : .state index ∈ order :=
    same.mem_iff.mpr (mem_elements_state (lt_of_state? found))
  rcases shows_of_id related distinct inOrder inRoot (id.trans (stateId_of_state? found).symm) with
    ⟨held, foundToo, showing⟩
  cases found.symm.trans foundToo
  exact showing.merged adjacent numbered found

end Machine

end Statechart
