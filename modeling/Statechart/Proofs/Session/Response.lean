import Statechart.Proofs.Record.Rendering
import Statechart.Session.Basic

/-!
The records that are sent. A machine is sent as it is rendered, and a snapshot whenever the
state that it stands in is one of the machine: its record refers to that state or to nothing,
so there is nothing for the check of references to find.
-/

namespace Statechart

namespace Renderer

/-- What a snapshot tells besides the state that it stands in. -/
def executionAttributes (snapshot : Snapshot) : Dictionary Attribute :=
  .ofList [
    ("inputs", .ofTexts snapshot.inputs),
    ("nextConsumedInputIndex", .ofOption .integer snapshot.nextInput),
    ("outputs", .ofTexts snapshot.outputs)]

/-- The record of a snapshot that stands in `current`. -/
def snapshotRecord (snapshot : Snapshot) (current : State) : Record where
  id := snapshot.id
  kind := snapshotType
  attributes :=
    if current.isFinal then
      (executionAttributes snapshot).insert "currentState" (.text finalStateMark)
    else executionAttributes snapshot
  refs := if current.isFinal then .empty else .ofList [("currentState", current.id)]

theorem snapshot_eq (renderer : Renderer) (snapshot : Snapshot) :
    renderer.snapshot snapshot = snapshotRecord snapshot <$> renderer.lookup snapshot.current := by
  rw [Renderer.snapshot]
  cases renderer.lookup snapshot.current with
  | error error => rfl
  | ok current =>
      rw [ok_bind, map_ok, snapshotRecord]
      cases current.isFinal <;> rfl

variable (snapshot : Snapshot) (current : State)

theorem preorder_snapshotRecord :
    (snapshotRecord snapshot current).preorder = [snapshotRecord snapshot current] :=
  Record.preorder_eq_cons _

/-! ## What the record tells -/

theorem refs_snapshotRecord : (snapshotRecord snapshot current).refs.entries =
    if current.isFinal then [] else [("currentState", current.id)] := by
  rw [snapshotRecord]
  cases current.isFinal <;> rfl

theorem attribute?_snapshotRecord (key : String) :
    (snapshotRecord snapshot current).attribute? key =
      if key = "currentState" then if current.isFinal then some (.text finalStateMark) else none
      else if key = "outputs" then some (.ofTexts snapshot.outputs)
      else if key = "nextConsumedInputIndex" then some (.ofOption .integer snapshot.nextInput)
      else if key = "inputs" then some (.ofTexts snapshot.inputs)
      else none := by
  rw [Record.attribute?, snapshotRecord]
  cases current.isFinal with
  | false =>
      simp only [executionAttributes, Dictionary.ofList, List.foldl, Bool.false_eq_true, if_false,
        Dictionary.get?_insert, Dictionary.get?_empty]
      grind
  | true => simp [executionAttributes, Dictionary.ofList, Dictionary.get?_insert]

/-- Checked against anything that knows the state, the record passes. -/
theorem checkReferencesAgainst_snapshotRecord {known : String → Bool}
    (knows : known current.id = true) :
    (snapshotRecord snapshot current).checkReferencesAgainst known = .ok () := by
  rw [Record.checkReferencesAgainst, Record.descendants_eq_preorder, preorder_snapshotRecord,
    Record.checkAllRefs_eq_ok]
  intro record member ref inRefs
  cases List.mem_singleton.mp member
  rw [refs_snapshotRecord] at inRefs
  split at inRefs
  · cases inRefs
  · cases List.mem_singleton.mp inRefs
    exact .inr knows

end Renderer

namespace Session

/-- A check that may be left out does not change what is answered. -/
theorem eq_of_guarded {ε α : Type _} {asked : Bool} {check : Except ε Unit} {shown root : α}
    (passed : (if asked = true then check >>= fun _ => pure shown else pure shown) = .ok root) :
    shown = root := by
  split at passed
  · exact pure_eq_ok.mp (check_bind_eq_ok.mp passed).2
  · exact pure_eq_ok.mp passed

theorem renderMachine_eq_ok {configuration : Configuration} {machine : Machine} {root : Record}
    (rendered : renderMachine configuration machine = .ok root) :
    (Renderer.ofConfiguration machine configuration).stateMachine = .ok root := by
  rcases bind_eq_ok.mp rendered with ⟨shown, rendered, rest⟩
  cases eq_of_guarded rest
  exact rendered

/-- With an id for every state the check on a snapshot never objects, so nothing but the
state decides whether there is a report. -/
theorem renderSnapshot_eq (configuration : Configuration) (machine : Machine)
    (snapshot : Snapshot) :
    renderSnapshot configuration machine snapshot =
      match machine.state? snapshot.current with
      | some current => .ok (Renderer.snapshotRecord snapshot current)
      | none => .error (.noSuchState snapshot.current) := by
  rw [renderSnapshot, Renderer.snapshot_eq, Renderer.lookup]
  change (_ <$> match machine.state? snapshot.current with
    | some state => Except.ok state
    | none => .error _) >>= _ = _
  cases found : machine.state? snapshot.current with
  | none => rfl
  | some current =>
      have known : machine.containsId current.id = true :=
        Machine.containsId_eq_true.mpr (List.mem_cons_of_mem _ (List.mem_append_left _
          (List.mem_map_of_mem (List.mem_of_getElem? found))))
      rw [map_ok, ok_bind, Renderer.checkReferencesAgainst_snapshotRecord snapshot current known]
      cases configuration.validateReferences <;> rfl

theorem renderSnapshot_preorder {configuration : Configuration} {machine : Machine}
    {snapshot : Snapshot} {root : Record}
    (rendered : renderSnapshot configuration machine snapshot = .ok root) :
    root.preorder.map (·.id) = [snapshot.id] := by
  rw [renderSnapshot_eq] at rendered
  split at rendered
  case h_1 current _ =>
    cases rendered
    rw [Renderer.preorder_snapshotRecord]
    rfl
  case h_2 => cases rendered

end Session

end Statechart
