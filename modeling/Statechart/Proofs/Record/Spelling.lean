import Statechart.Proofs.Record.Faithful

/-!
The spelling of the output key. A machine that is rendered with one spelling is rendered
with the other one too, and the records differ in nothing but that key in the records of
transitions.
-/

namespace Statechart

/-- A dictionary with one of its keys renamed. -/
def Dictionary.respell {β : Type} (old new : String) (dictionary : Dictionary β) : Dictionary β :=
  .ofList (dictionary.entries.map fun entry => (if entry.1 = old then new else entry.1, entry.2))

theorem Dictionary.respell_self {β : Type} (key : String) (dictionary : Dictionary β) :
    dictionary.respell key key = dictionary := by
  have unchanged : (dictionary.entries.map fun entry =>
      (if entry.1 = key then key else entry.1, entry.2)) = dictionary.entries := by
    apply List.map_id''
    intro entry
    split
    case isTrue same => rw [← same]
    case isFalse => rfl
  rw [respell, unchanged, ofList_of_ordered dictionary.ordered]

namespace Record

/-! The key is renamed in the records of transitions, wherever they stand in the tree. -/

mutual
def respell (old new : String) : Record → Record
  | ⟨id, kind, attributes, children, refs, location⟩ =>
      ⟨id, kind, if kind = transitionType then attributes.respell old new else attributes,
        respellRoles old new children, refs, location⟩

def respellRoles (old new : String) : List (String × Child Record) → List (String × Child Record)
  | [] => []
  | (role, .one record) :: roles =>
      (role, .one (record.respell old new)) :: respellRoles old new roles
  | (role, .many records) :: roles =>
      (role, .many (respellAll old new records)) :: respellRoles old new roles

def respellAll (old new : String) : List Record → List Record
  | [] => []
  | record :: records => record.respell old new :: respellAll old new records
end

theorem respellAll_eq_map (old new : String) (records : List Record) :
    respellAll old new records = records.map (respell old new) := by
  induction records with
  | nil => rfl
  | cons record records induction => rw [respellAll, induction, List.map_cons]

mutual
theorem respell_self (key : String) : (record : Record) → record.respell key key = record
  | ⟨id, kind, attributes, children, refs, location⟩ => by
      rw [respell, respellRoles_self key children, Dictionary.respell_self, ite_self]

theorem respellRoles_self (key : String) :
    (roles : List (String × Child Record)) → respellRoles key key roles = roles
  | [] => rfl
  | (role, .one record) :: roles => by
      rw [respellRoles, respell_self key record, respellRoles_self key roles]
  | (role, .many records) :: roles => by
      rw [respellRoles, respellAll_self key records, respellRoles_self key roles]

theorem respellAll_self (key : String) :
    (records : List Record) → respellAll key key records = records
  | [] => rfl
  | record :: records => by
      rw [respellAll, respell_self key record, respellAll_self key records]
end

/-- The records of transitions hold the input and, under this key, the output. -/
def SpellsOutputs (key : String) (root : Record) : Prop :=
  ∀ record ∈ root.preorder, record.kind = transitionType →
    record.attributes.keys = ["input", key]

end Record

/-! ## The attributes of a transition -/

theorem ordered_edgeAttributes (spelling : OutputAttribute) (input output : Attribute) :
    Entries.Ordered [("input", input), (spelling.key, output)] := by
  have less : "input" < spelling.key := by cases spelling <;> decide
  simpa [Entries.Ordered] using less

theorem keys_edgeAttributes (spelling : OutputAttribute) (input output : Attribute) :
    (Dictionary.ofList [("input", input), (spelling.key, output)]).keys =
      ["input", spelling.key] := by
  rw [Dictionary.ofList_of_ordered (ordered_edgeAttributes spelling input output)]
  rfl

theorem respell_edgeAttributes (old new : OutputAttribute) (input output : Attribute) :
    (Dictionary.ofList [("input", input), (old.key, output)]).respell old.key new.key =
      .ofList [("input", input), (new.key, output)] := by
  have different : "input" ≠ old.key := by cases old <;> decide
  rw [Dictionary.respell, Dictionary.ofList_of_ordered (ordered_edgeAttributes old input output)]
  simp [different]

/-- Where all records show elements of a machine, the outputs are spelt in one way. -/
theorem spellsOutputs_of_shows {machine : Machine} {spelling : OutputAttribute} {root : Record}
    {order : List Element}
    (related : List.Forall₂ (machine.Shows spelling.key) order root.preorder) :
    root.SpellsOutputs spelling.key := by
  intro record inRoot isTransition
  rcases exists_left related inRoot with ⟨element, -, shows_⟩
  have tag : element.typeTag = transitionType := shows_.kind.symm.trans isTransition
  cases element with
  | machine => simp [Element.typeTag, machineType, transitionType] at tag
  | state index => simp [Element.typeTag, stateType, transitionType] at tag
  | transition index =>
      rcases Machine.ShowsTransition.content shows_ with ⟨edge, target, -, -, -, attributes, -⟩
      rw [attributes]
      exact keys_edgeAttributes spelling _ _

/-! ## Rendering with either key -/

namespace Renderer

/-- The renderer with the given spelling. -/
def spelling (renderer : Renderer) (spelling : OutputAttribute) : Renderer :=
  { renderer with outputKey := spelling.key }

variable (renderer : Renderer) (old new : OutputAttribute)

theorem edgeRecord_spelling (edge : Transition) (target : State) :
    (renderer.spelling new).edgeRecord edge target =
      ((renderer.spelling old).edgeRecord edge target).respell old.key new.key := by
  simp [edgeRecord, spelling, Record.respell, Record.respellRoles, respell_edgeAttributes]

theorem transition_spelling (index : TransitionIndex) :
    (renderer.spelling new).transition index =
      Record.respell old.key new.key <$> (renderer.spelling old).transition index := by
  rw [Renderer.transition, Renderer.transition]
  change (renderer.edge index >>= fun edge => renderer.lookup edge.target >>= fun target =>
      pure ((renderer.spelling new).edgeRecord edge target)) =
    _ <$> (renderer.edge index >>= fun edge => renderer.lookup edge.target >>= fun target =>
      pure ((renderer.spelling old).edgeRecord edge target))
  simp only [map_bind, map_pure, edgeRecord_spelling renderer old new]

/-- Which list a transition is put in does not depend on the spelling. -/
theorem partition_spelling (indices : List TransitionIndex) :
    (renderer.spelling new).partition indices =
      Prod.map (List.map (Record.respell old.key new.key))
          (List.map (Record.respell old.key new.key)) <$>
        (renderer.spelling old).partition indices := by
  induction indices with
  | nil => rfl
  | cons index indices induction =>
      have sameEnd : (renderer.spelling new).targetsFinal index =
          (renderer.spelling old).targetsFinal index := rfl
      rw [partition, partition, transition_spelling renderer old new, induction, sameEnd]
      cases (renderer.spelling old).transition index with
      | error error => rfl
      | ok record =>
          cases (renderer.spelling old).targetsFinal index with
          | error error => rfl
          | ok isFinal =>
              cases (renderer.spelling old).partition indices with
              | error error => rfl
              | ok lists => cases isFinal <;> rfl

theorem stateRecord_respell (state : State) (others finals : List Record) (old new : String) :
    (stateRecord state others finals).respell old new =
      stateRecord state (others.map (Record.respell old new))
        (finals.map (Record.respell old new)) := by
  simp [stateRecord, Record.respell, Record.respellRoles, Record.respellAll_eq_map, stateType,
    transitionType]

theorem compositeRecord_respell (state target : State) (others finals states : List Record)
    (old new : String) :
    (compositeRecord state target others finals states).respell old new =
      compositeRecord state target (others.map (Record.respell old new))
        (finals.map (Record.respell old new)) (states.map (Record.respell old new)) := by
  simp [compositeRecord, stateRecord, Record.respell, Record.respellRoles,
    Record.respellAll_eq_map, stateType, transitionType]

theorem machineRecord_respell (machine : Machine) (entered : String) (states : List Record)
    (old new : String) :
    (machineRecord machine entered states).respell old new =
      machineRecord machine entered (states.map (Record.respell old new)) := by
  simp [machineRecord, Record.respell, Record.respellRoles, Record.respellAll_eq_map, machineType,
    transitionType]

theorem stateWithin_spelling (levels : Nat) (index : StateIndex) :
    (renderer.spelling new).stateWithin levels index =
      Record.respell old.key new.key <$> (renderer.spelling old).stateWithin levels index := by
  induction levels generalizing index with
  | zero => rfl
  | succ levels induction =>
      have sameState : (renderer.spelling new).lookup = (renderer.spelling old).lookup := rfl
      rw [stateWithin, stateWithin, sameState]
      cases (renderer.spelling old).lookup index with
      | error error => rfl
      | ok state =>
          rw [ok_bind, ok_bind, partition_spelling renderer old new]
          cases entry state with
          | error error => rfl
          | ok entered =>
              rw [ok_bind, ok_bind]
              cases (renderer.spelling old).partition state.outgoing with
              | error error => rfl
              | ok lists =>
                  rcases lists with ⟨others, finals⟩
                  cases entered with
                  | none =>
                      exact congrArg Except.ok
                        (stateRecord_respell state others finals old.key new.key).symm
                  | some target =>
                      rw [map_ok, ok_bind, ok_bind]
                      dsimp only
                      rw [funext induction, mapM_map]
                      cases state.children.mapM ((renderer.spelling old).stateWithin levels) with
                      | error error => rfl
                      | ok states =>
                          cases (renderer.spelling old).lookup target with
                          | error error => rfl
                          | ok target =>
                              exact congrArg Except.ok (compositeRecord_respell state target others
                                finals states old.key new.key).symm

theorem stateMachine_spelling :
    (renderer.spelling new).stateMachine =
      Record.respell old.key new.key <$> (renderer.spelling old).stateMachine := by
  have sameStates : (renderer.spelling new).stateWithin (renderer.maxDepth + 1) = fun index =>
      Record.respell old.key new.key <$>
        (renderer.spelling old).stateWithin (renderer.maxDepth + 1) index :=
    funext (stateWithin_spelling renderer old new (renderer.maxDepth + 1))
  change (renderer.machine.topLevel.mapM
      ((renderer.spelling new).stateWithin (renderer.maxDepth + 1)) >>= fun states =>
        renderer.initialId >>= fun entered => pure (machineRecord renderer.machine entered states)) =
    _ <$> (renderer.machine.topLevel.mapM
      ((renderer.spelling old).stateWithin (renderer.maxDepth + 1)) >>= fun states =>
        renderer.initialId >>= fun entered => pure (machineRecord renderer.machine entered states))
  rw [sameStates, mapM_map]
  simp only [map_bind, map_pure, machineRecord_respell, bind_map_left]

end Renderer

end Statechart
