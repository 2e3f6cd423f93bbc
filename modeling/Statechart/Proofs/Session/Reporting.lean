import Statechart.Proofs.Session.Scope

/-!
Reports. A report about an execution refers to a state of the tree that the latest parse of
the file has sent, or tells that the execution has come to an end, whatever was asked in
between.
-/

namespace Statechart

/-! ## One report -/

/-- What a report tells of an execution besides the state it stands in. -/
structure ExecutionView.Tells {ε : Type} (view : ExecutionView ε) (execution : ε)
    (report : Record) : Prop where
  kind : report.kind = snapshotType
  inputs : report.attribute? "inputs" = some (.ofTexts (view.inputs execution))
  outputs : report.attribute? "outputs" = some (.ofTexts (view.outputs execution))
  nextInput : report.attribute? "nextConsumedInputIndex" = some
    (if view.hasNextTransition execution then .integer (view.nextInput execution) else .null)

/-- A report on an execution that stands in a state, seen from the tree that was sent for
the machine. The state has one record there; a final state is not referred to. -/
structure Machine.Locates (machine : Machine) (outputKey : String) (root : Record)
    (current : StateIndex) (state : State) (shown report : Record) : Prop where
  found : machine.state? current = some state
  sent : shown ∈ root.preorder
  shows_ : machine.ShowsState outputKey state shown
  once : (root.preorder.map (·.id)).count state.id = 1
  refs : report.refs.entries = if state.isFinal then [] else [("currentState", state.id)]
  mark : report.attribute? "currentState" = if state.isFinal then some (.text "FINAL") else none

namespace Session

variable {ε : Type} {backend : Backend ε} {session : Session ε}

theorem current_capture (view : ExecutionView ε) (execution : ε) (ids : IdSource) :
    (Snapshot.capture view execution ids).1.current = view.current execution := rfl

theorem snapshotRecord_tells (view : ExecutionView ε) (execution : ε) (ids : IdSource)
    (current : State) :
    view.Tells execution
      (Renderer.snapshotRecord (Snapshot.capture view execution ids).1 current) where
  kind := rfl
  inputs := by simp [Renderer.attribute?_snapshotRecord, Snapshot.capture, Snapshot.take]
  outputs := by simp [Renderer.attribute?_snapshotRecord, Snapshot.capture, Snapshot.take]
  nextInput := by
    cases pending : view.hasNextTransition execution <;>
      simp [Renderer.attribute?_snapshotRecord, Snapshot.capture, Snapshot.take, pending,
        Attribute.ofOption]

/-- With an execution at hand the report shows its snapshot, and only a state that the
machine does not have stands in the way. -/
theorem getRuntimeState_answer {sourceFile : String} {machine : Machine} {execution : ε}
    (ready : session.executionOf sourceFile = .ok (machine, execution)) :
    (session.getRuntimeState backend ⟨sourceFile⟩).answer =
      match machine.state? (backend.engine.current execution) with
      | some state => .ok ⟨Renderer.snapshotRecord
          (Snapshot.capture backend.engine.toExecutionView execution session.ids).1 state⟩
      | none => .error (.tree (.noSuchState (backend.engine.current execution))) := by
  rw [getRuntimeState_ready ready, renderSnapshot_eq, current_capture]
  cases machine.state? (backend.engine.current execution) <;> rfl

/-! ## The tree that was sent -/

/-- A held execution: there was a parse, and an initialization since the latest one. -/
theorem Tracks.initialized_of_ready {past : List Exchange} {sourceFile : String}
    (tracks : Tracks backend past sourceFile session) {machine : Machine} {execution : ε}
    (ready : session.executionOf sourceFile = .ok (machine, execution)) :
    ∃ parse since, Latest (Exchange.Parsed sourceFile) past parse since ∧
      ∃ later ∈ since, later.Initialized sourceFile := by
  rcases executionOf_eq_ok.mp ready with ⟨registered, running⟩
  have occurs : ∃ exchange ∈ past, exchange.Parsed sourceFile := by
    by_contra unparsed
    push Not at unparsed
    rw [tracks.absent_iff.mpr unparsed] at registered
    cases registered
  rcases exists_latest occurs with ⟨parse, since, latest⟩
  refine ⟨parse, since, latest, ?_⟩
  by_contra uninitialized
  push Not at uninitialized
  rcases tracks.parsed latest with ⟨_, _, -, -, -, idle, -⟩
  rw [idle uninitialized] at running
  cases running

/-- In the tree that shows a machine with different ids every state has one record, to
which a report refers. -/
theorem locates_of_shows {machine : Machine} {outputKey : String} {root : Record}
    {order : List Element} (distinct : machine.ids.Nodup) (same : order.Perm machine.elements)
    (related : List.Forall₂ (machine.Shows outputKey) order root.preorder) (snapshot : Snapshot)
    {current : StateIndex} {state : State} (found : machine.state? current = some state) :
    ∃ shown, machine.Locates outputKey root current state shown
      (Renderer.snapshotRecord snapshot state) := by
  have inOrder : .state current ∈ order :=
    same.mem_iff.mpr (Machine.mem_elements_state (Machine.lt_of_state? found))
  rcases exists_right related inOrder with ⟨shown, sent, held, heldFound, showing⟩
  cases found.symm.trans heldFound
  have sentIds := Machine.ids_perm_of_shows same related
  have bears : state.id ∈ root.preorder.map (·.id) :=
    showing.id ▸ List.mem_map_of_mem sent
  refine ⟨shown, ?_⟩
  constructor
  case found => exact found
  case sent => exact sent
  case shows_ => exact showing
  case once => exact List.count_eq_one_of_mem (sentIds.nodup_iff.mpr distinct) bears
  case refs => exact Renderer.refs_snapshotRecord snapshot state
  case mark => exact Renderer.attribute?_snapshotRecord snapshot state "currentState"

/-- What the session holds for a file was shown by the answer to its latest parse. -/
theorem shown_of_latest {requests : List Request} {sourceFile : String} {parse : Exchange}
    {since : List Exchange}
    (few : ((ledger backend {} requests).flatMap (·.minted)).length < 2 ^ 64)
    (latest : Latest (Exchange.Parsed sourceFile) (history backend {} requests) parse since)
    (initialized : ∃ later ∈ since, later.Initialized sourceFile) :
    ∃ root machine execution order, parse.answer = .ok (.parse ⟨root⟩) ∧
      (run backend {} requests).2.executionOf sourceFile = .ok (machine, execution) ∧
      machine.ids.Nodup ∧ order.Perm machine.elements ∧
      List.Forall₂ (machine.Shows backend.configuration.outputAttribute.key) order
        root.preorder := by
  rcases latest with ⟨parsed, last, before, split⟩
  rcases held_of_history split parsed last initialized with
    ⟨declaration, machine, execution, read, built, ready⟩
  have inHistory : parse ∈ history backend {} requests := by simp [split]
  rw [← map_exchange_ledger] at inHistory
  rcases List.mem_map.mp inHistory with ⟨made, inLedger, rfl⟩
  rcases parsed with ⟨request, response, accepted⟩
  rcases exists_entry_of_mem inLedger with ⟨current, isEntry⟩
  rw [request] at isEntry
  have distinct : made.minted.Nodup :=
    (List.nodup_flatMap.mp ((ledger_givenOut backend {} requests).nodup (Nat.le_of_lt few))).1
      made inLedger
  subst isEntry
  rcases map_eq_ok.mp accepted with ⟨⟨root⟩, answered, rfl⟩
  rcases parse_shows answered with ⟨_, _, readToo, builtToo, minted, order, same, related⟩
  cases read.symm.trans readToo
  cases built.symm.trans builtToo
  refine ⟨root, machine, execution, order, accepted, ready, ?_, same, related⟩
  exact minted ▸ distinct

/-! ## Every report of a run -/

/-- How a session that holds `machine` and `execution` for a file reports, when `root` is
the tree that was last sent for the file: into that tree, unless the engine tells of a
state that the machine does not have. -/
structure ReportsInto (backend : Backend ε) (session : Session ε) (sourceFile : String)
    (machine : Machine) (execution : ε) (root : Record) : Prop where
  ready : session.executionOf sourceFile = .ok (machine, execution)
  sent : machine.ShowsEach backend.configuration.outputAttribute.key machine.elements [root]
  answered : ∀ {report},
    (session.getRuntimeState backend ⟨sourceFile⟩).answer = .ok ⟨report⟩ →
      backend.engine.Tells execution report ∧
        ∃ state shown, machine.Locates backend.configuration.outputAttribute.key root
          (backend.engine.current execution) state shown report
  refused : ∀ {error},
    (session.getRuntimeState backend ⟨sourceFile⟩).answer = .error error ↔
      machine.states.length ≤ backend.engine.current execution ∧
        error = .tree (.noSuchState (backend.engine.current execution))

/-- A session that holds a machine with different ids reports into the tree that shows
its elements. -/
theorem reportsInto_of_shows {sourceFile : String} {machine : Machine} {execution : ε}
    {root : Record} {order : List Element}
    (ready : session.executionOf sourceFile = .ok (machine, execution))
    (distinct : machine.ids.Nodup) (same : order.Perm machine.elements)
    (related : List.Forall₂ (machine.Shows backend.configuration.outputAttribute.key) order
      root.preorder) :
    ReportsInto backend session sourceFile machine execution root := by
  have sent : machine.ShowsEach backend.configuration.outputAttribute.key machine.elements
      [root] := by
    refine ⟨order, same, ?_⟩
    rwa [List.flatMap_singleton]
  have outcome : (session.getRuntimeState backend ⟨sourceFile⟩).answer = _ :=
    getRuntimeState_answer ready
  cases found : machine.state? (backend.engine.current execution) with
  | some state =>
      rw [found] at outcome
      constructor
      case ready => exact ready
      case sent => exact sent
      case answered =>
        intro report answered
        cases outcome.symm.trans answered
        exact ⟨snapshotRecord_tells _ _ _ _, state, locates_of_shows distinct same related _ found⟩
      case refused =>
        intro error
        have inRange := Machine.lt_of_state? found
        constructor
        · intro refused
          cases outcome.symm.trans refused
        · intro outside
          exact absurd outside.1 (Nat.not_le_of_lt inRange)
  | none =>
      rw [found] at outcome
      constructor
      case ready => exact ready
      case sent => exact sent
      case answered =>
        intro report answered
        cases outcome.symm.trans answered
      case refused =>
        intro error
        have outside := List.getElem?_eq_none_iff.mp found
        constructor
        · intro refused
          cases outcome.symm.trans refused
          exact ⟨outside, rfl⟩
        · intro refused
          rw [outcome, refused.2]

/-- A report is given only for a file that has been parsed and, since its latest parse,
initialized. From then on it refers into the tree that this parse has sent, whatever else
has been asked, and it fails only where the engine tells of a state that the tree does not
have. -/
theorem run_reportsInto (backend : Backend ε) (requests : List Request)
    (few : ((ledger backend {} requests).flatMap (·.minted)).length < 2 ^ 64)
    (sourceFile : String) :
    (∀ {response},
      ((run backend {} requests).2.getRuntimeState backend ⟨sourceFile⟩).answer = .ok response →
        ∃ parse since,
          Latest (Exchange.Parsed sourceFile) (history backend {} requests) parse since ∧
            ∃ later ∈ since, later.Initialized sourceFile) ∧
    ∀ {parse since},
      Latest (Exchange.Parsed sourceFile) (history backend {} requests) parse since →
        (∃ later ∈ since, later.Initialized sourceFile) →
          ∃ root machine execution, parse.answer = .ok (.parse ⟨root⟩) ∧
            ReportsInto backend (run backend {} requests).2 sourceFile machine execution root := by
  constructor
  case left =>
    intro response answered
    have tracks := (tracks_fresh backend sourceFile).run requests
    rw [List.nil_append] at tracks
    cases ready : (run backend {} requests).2.executionOf sourceFile with
    | error error =>
        rw [getRuntimeState_refused ready] at answered
        cases answered
    | ok held => exact tracks.initialized_of_ready ready
  case right =>
    intro parse since latest initialized
    rcases shown_of_latest few latest initialized with
      ⟨root, machine, execution, order, sent, ready, distinct, same, related⟩
    exact ⟨root, machine, execution, sent, reportsInto_of_shows ready distinct same related⟩

/-- A door that is reported while it is shut and again when it has been pushed open. -/
theorem run_reportsInto_door :
    let push : TransitionDeclaration := { source := "shut", target := "open", input := some "push" }
    let declaration : MachineDeclaration :=
      { name := "door", initial := some "shut"
        states := [{ name := some "shut", transitions := [push] },
          { name := some "open", isFinal := true }] }
    let backend : Backend InputRun :=
      { parser := fun _ => .ok declaration, engine := .inputDriven }
    let requests : List Request := [.parse ⟨"door"⟩, .init ⟨"door", ["push"]⟩,
      .getRuntimeState ⟨"door"⟩, .step ⟨"door"⟩]
    ∃ parse since root machine execution report,
      Latest (Exchange.Parsed "door") (history backend {} requests) parse since ∧
      parse.answer = .ok (.parse ⟨root⟩) ∧
      ReportsInto backend (run backend {} requests).2 "door" machine execution root ∧
      ((run backend {} requests).2.getRuntimeState backend ⟨"door"⟩).answer = .ok ⟨report⟩ := by
  intro push declaration backend requests
  have few : ((ledger backend {} requests).flatMap (·.minted)).length < 2 ^ 64 := by
    decide +kernel
  have reported :
      ((run backend {} requests).2.getRuntimeState backend ⟨"door"⟩).answer.isOk = true := by
    decide +kernel
  rcases exists_of_isOk reported with ⟨⟨report⟩, answered⟩
  rcases run_reportsInto backend requests few "door" with ⟨ready, reports⟩
  rcases ready answered with ⟨parse, since, latest, initialized⟩
  rcases reports latest initialized with ⟨root, machine, execution, sent, into⟩
  exact ⟨parse, since, root, machine, execution, report, latest, sent, into, answered⟩

end Session

end Statechart
