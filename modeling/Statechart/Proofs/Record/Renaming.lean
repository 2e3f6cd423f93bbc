import Statechart.Proofs.Machine.Renaming
import Statechart.Proofs.Record.Showing

/-!
Records with other ids. A renderer copies the ids of a machine into its records and looks
at none of them: the record of a machine with other ids is the same record with other
ids, in their own place and in the references, and nowhere else.
-/

namespace Statechart

/-- A dictionary with the same keys and other values. -/
def Dictionary.mapValues {β γ : Type} (change : β → γ) (dictionary : Dictionary β) : Dictionary γ where
  entries := dictionary.entries.map fun entry => (entry.1, change entry.2)
  ordered := by
    rw [Entries.Ordered, List.pairwise_map]
    exact dictionary.ordered

namespace Record

/-- An empty reference points at nothing and has no id to rename. -/
def renameRef (rename : String → String) (ref : String) : String :=
  if ref = "" then ref else rename ref

/-! The ids of all records are renamed, and with them the references, wherever they stand
in the tree. Attributes are never ids. -/

mutual
def renameIds (rename : String → String) : Record → Record
  | ⟨id, kind, attributes, children, refs, location⟩ =>
      ⟨rename id, kind, attributes, renameRoles rename children,
        refs.mapValues (renameRef rename), location⟩

def renameRoles (rename : String → String) :
    List (String × Child Record) → List (String × Child Record)
  | [] => []
  | (role, .one record) :: roles =>
      (role, .one (record.renameIds rename)) :: renameRoles rename roles
  | (role, .many records) :: roles =>
      (role, .many (renameAll rename records)) :: renameRoles rename roles

def renameAll (rename : String → String) : List Record → List Record
  | [] => []
  | record :: records => record.renameIds rename :: renameAll rename records
end

theorem renameAll_eq_map (rename : String → String) (records : List Record) :
    renameAll rename records = records.map (renameIds rename) := by
  induction records with
  | nil => rfl
  | cons record records induction => rw [renameAll, induction, List.map_cons]

variable {rename : String → String}

/-- A renaming that keeps the empty id renames every reference alike. -/
theorem renameRef_eq (empty : rename "" = "") (ref : String) : renameRef rename ref = rename ref := by
  rw [renameRef]
  split
  case isTrue isEmpty => rw [isEmpty, empty]
  case isFalse => rfl

theorem mapValues_ref (empty : rename "" = "") (role ref : String) :
    (Dictionary.ofList [(role, ref)]).mapValues (renameRef rename) =
      .ofList [(role, rename ref)] := by
  rw [← renameRef_eq empty]
  rfl

end Record

namespace Renderer

/-- The renderer of the machine with other ids. -/
def renameIds (rename : String → String) (renderer : Renderer) : Renderer :=
  { renderer with machine := renderer.machine.renameIds rename }

variable {rename : String → String} (renderer : Renderer)

variable {renderer} in
theorem state?_renameIds {index : StateIndex} {state : State}
    (found : renderer.machine.state? index = some state) :
    (renderer.renameIds rename).machine.state? index = some (state.renameIds rename) := by
  rw [renameIds]
  dsimp only
  rw [Machine.state?_renameIds, found, Option.map_some]

theorem lookup_renameIds (index : StateIndex) :
    (renderer.renameIds rename).lookup index = State.renameIds rename <$> renderer.lookup index := by
  rw [lookup, lookup, renameIds]
  dsimp only
  rw [Machine.state?_renameIds]
  cases renderer.machine.state? index <;> rfl

theorem edge_renameIds (index : TransitionIndex) :
    (renderer.renameIds rename).edge index =
      Transition.renameIds rename <$> renderer.edge index := by
  rw [edge, edge, renameIds]
  dsimp only
  rw [Machine.transition?_renameIds]
  cases renderer.machine.transition? index <;> rfl

/-- Whether a transition ends the execution does not depend on an id. -/
theorem targetsFinal_renameIds (index : TransitionIndex) :
    (renderer.renameIds rename).targetsFinal index = renderer.targetsFinal index := by
  rw [targetsFinal, targetsFinal, edge_renameIds]
  cases renderer.edge index with
  | error error => rfl
  | ok edge =>
      have sameTarget : (edge.renameIds rename).target = edge.target := rfl
      rw [map_ok, ok_bind, ok_bind, sameTarget, lookup_renameIds]
      cases renderer.lookup edge.target <;> rfl

section References

variable (empty : rename "" = "")
include empty

theorem edgeRecord_renameIds (edge : Transition) (target : State) :
    (renderer.renameIds rename).edgeRecord (edge.renameIds rename) (target.renameIds rename) =
      (renderer.edgeRecord edge target).renameIds rename := by
  rcases target with ⟨id, name, isFinal, parent, outgoing, incoming, location, kind⟩
  cases isFinal with
  | true => rfl
  | false =>
      rw [edgeRecord, edgeRecord, Record.renameIds]
      simp only [Bool.false_eq_true, if_false, State.renameIds, Record.mapValues_ref empty]
      rfl

theorem transition_renameIds (index : TransitionIndex) :
    (renderer.renameIds rename).transition index =
      Record.renameIds rename <$> renderer.transition index := by
  rw [Renderer.transition, Renderer.transition, edge_renameIds]
  cases renderer.edge index with
  | error error => rfl
  | ok edge =>
      have sameTarget : (edge.renameIds rename).target = edge.target := rfl
      rw [map_ok, ok_bind, ok_bind, sameTarget, lookup_renameIds]
      cases renderer.lookup edge.target with
      | error error => rfl
      | ok target =>
          exact congrArg Except.ok (edgeRecord_renameIds renderer empty edge target)

theorem partition_renameIds (indices : List TransitionIndex) :
    (renderer.renameIds rename).partition indices =
      Prod.map (List.map (Record.renameIds rename)) (List.map (Record.renameIds rename)) <$>
        renderer.partition indices := by
  induction indices with
  | nil => rfl
  | cons index indices induction =>
      rw [partition, partition, transition_renameIds renderer empty, targetsFinal_renameIds,
        induction]
      cases renderer.transition index with
      | error error => rfl
      | ok record =>
          cases renderer.targetsFinal index with
          | error error => rfl
          | ok isFinal =>
              cases renderer.partition indices with
              | error error => rfl
              | ok lists => cases isFinal <;> rfl

end References

theorem stateRecord_renameIds (state : State) (others finals : List Record) :
    stateRecord (state.renameIds rename) (others.map (Record.renameIds rename))
        (finals.map (Record.renameIds rename)) =
      (stateRecord state others finals).renameIds rename := by
  simp [stateRecord, Record.renameIds, Record.renameRoles, Record.renameAll_eq_map,
    State.renameIds, Dictionary.mapValues, Dictionary.empty]

theorem compositeRecord_renameIds (empty : rename "" = "") (state target : State)
    (others finals states : List Record) :
    compositeRecord (state.renameIds rename) (target.renameIds rename)
        (others.map (Record.renameIds rename)) (finals.map (Record.renameIds rename))
        (states.map (Record.renameIds rename)) =
      (compositeRecord state target others finals states).renameIds rename := by
  simp [compositeRecord, stateRecord, Record.renameIds, Record.renameRoles,
    Record.renameAll_eq_map, State.renameIds, Record.mapValues_ref empty]

theorem machineRecord_renameIds (empty : rename "" = "") (machine : Machine) (entered : String)
    (states : List Record) :
    machineRecord (machine.renameIds rename) (rename entered)
        (states.map (Record.renameIds rename)) =
      (machineRecord machine entered states).renameIds rename := by
  simp [machineRecord, Record.renameIds, Record.renameRoles, Record.renameAll_eq_map,
    Machine.renameIds, Record.mapValues_ref empty]

variable {renderer}

theorem stateWithin_renameIds (empty : rename "" = "") {levels : Nat} {index : StateIndex}
    {record : Record} (rendered : renderer.stateWithin levels index = .ok record) :
    (renderer.renameIds rename).stateWithin levels index = .ok (record.renameIds rename) := by
  induction levels generalizing index record with
  | zero => cases rendered
  | succ levels induction =>
      rcases stateWithin_eq_ok rendered with ⟨state, others, finals, found, partitioned, shape⟩
      have partitionedToo : (renderer.renameIds rename).partition (state.renameIds rename).outgoing =
          .ok (others.map (Record.renameIds rename), finals.map (Record.renameIds rename)) := by
        change (renderer.renameIds rename).partition state.outgoing = _
        rw [partition_renameIds renderer empty, partitioned]
        rfl
      rcases shape with ⟨simple, rfl⟩ | ⟨-, initial, target, states, shape⟩
      · rw [← stateRecord_renameIds]
        exact stateWithin_simple (state?_renameIds found) simple partitionedToo levels
      · rcases shape with ⟨entered, foundTarget, renderedStates, rfl⟩
        rw [← compositeRecord_renameIds empty]
        apply stateWithin_composite (state?_renameIds found) entered (state?_renameIds foundTarget)
          partitionedToo
        apply mapM_eq_ok.mpr
        apply List.forall₂_map_right_iff.mpr
        exact (mapM_eq_ok.mp renderedStates).imp fun _ _ => induction

theorem initialId_renameIds (empty : rename "" = "") :
    (renderer.renameIds rename).initialId = rename <$> renderer.initialId := by
  have sameInitial : (renderer.renameIds rename).machine.initial = renderer.machine.initial := rfl
  rw [initialId, initialId, sameInitial]
  cases renderer.machine.initial with
  | none => exact congrArg Except.ok empty.symm
  | some initial =>
      dsimp only
      rw [lookup_renameIds]
      cases renderer.lookup initial.target <;> rfl

/-- What is rendered is rendered with other ids in the same way. -/
theorem stateMachine_renameIds (empty : rename "" = "") {root : Record}
    (rendered : renderer.stateMachine = .ok root) :
    (renderer.renameIds rename).stateMachine = .ok (root.renameIds rename) := by
  rcases bind_eq_ok.mp rendered with ⟨states, renderedStates, rest⟩
  rcases bind_eq_ok.mp rest with ⟨entered, looked, same⟩
  cases pure_eq_ok.mp same
  have statesToo : (renderer.renameIds rename).machine.topLevel.mapM
      ((renderer.renameIds rename).stateWithin (renderer.maxDepth + 1)) =
        .ok (states.map (Record.renameIds rename)) := by
    apply mapM_eq_ok.mpr
    apply List.forall₂_map_right_iff.mpr
    exact (mapM_eq_ok.mp renderedStates).imp fun _ _ => stateWithin_renameIds empty
  have lookedToo : (renderer.renameIds rename).initialId = .ok (rename entered) := by
    rw [initialId_renameIds empty, looked, map_ok]
  refine bind_eq_ok.mpr ⟨_, statesToo, bind_eq_ok.mpr ⟨_, lookedToo, ?_⟩⟩
  exact congrArg Except.ok (machineRecord_renameIds empty renderer.machine entered states)

end Renderer

end Statechart
