import Statechart.Engine.InputDriven
import Statechart.Proofs.Record.Faithful
import Statechart.Proofs.Session.Minting
import Statechart.Proofs.Session.Response

/-!
The scope of ids. An id names an element of the machine whose record has sent it, and
of no other machine that the session ever holds. So a breakpoint on an old record, on
the record of another file or on a snapshot is always told apart from one on the
latest record of a file.
-/

namespace Statechart

/-- The ids in the records that are sent with an answer. -/
def Exchange.sentIds (exchange : Exchange) : List String :=
  match exchange.answer with
  | .ok (.parse response) => response.astRoot.preorder.map (·.id)
  | .ok (.getRuntimeState response) => response.runtimeStateRoot.preorder.map (·.id)
  | _ => []

namespace Session

variable {ε : Type} {backend : Backend ε} {session : Session ε}

/-! ## Ids that are sent -/

/-- The record of an accepted parse shows the elements of the machine that is kept, whose
ids are all that have been given out for the parse. -/
theorem parse_shows {arguments : ParseArguments} {root : Record}
    (answered : (session.parse backend arguments).answer = .ok ⟨root⟩) :
    ∃ declaration machine, backend.parser arguments.sourceFile = .ok declaration ∧
      (declaration.build backend.configuration.maxDepth.toNat session.ids).1 = .ok machine ∧
      session.mintedBy backend (.parse arguments) = machine.ids ∧
      ∃ order, order.Perm machine.elements ∧ List.Forall₂
        (machine.Shows backend.configuration.outputAttribute.key) order root.preorder := by
  rcases parse_answered answered with ⟨declaration, machine, ids, parsed, built, rendered, -⟩
  have isLeftover := MachineDeclaration.machine_of_build (congrArg Prod.fst built)
  have reachable : machine.Reachable := by
    rw [isLeftover]
    exact (Machine.Reachable.start _ _ _).reaches (declaration.leftover_reached _ session.ids)
  refine ⟨declaration, machine, parsed, congrArg Prod.fst built, ?_, ?_⟩
  · rw [mintedBy, parsed, isLeftover]
  · rcases (Renderer.stateMachine_shows reachable.contained reachable.adjacent
      (renderMachine_eq_ok rendered)).2 with ⟨order, same, related⟩
    rw [List.flatMap_singleton] at related
    exact ⟨order, same, related⟩

/-- Whatever is sent with an answer has been given out for it. -/
theorem sentIds_minted (request : Request) :
    ∀ id ∈ (session.entry backend request).exchange.sentIds,
      id ∈ session.mintedBy backend request := by
  intro id sent
  cases request with
  | parse arguments =>
      cases outcome : (session.parse backend arguments).answer with
      | error error => simp [Exchange.sentIds, entry, answer, Reply.map, outcome] at sent
      | ok response =>
          rcases response with ⟨root⟩
          rcases parse_shows outcome with ⟨_, machine, -, -, minted, order, same, related⟩
          rw [minted, ← (Machine.ids_perm_of_shows same related).mem_iff]
          simpa [Exchange.sentIds, entry, answer, Reply.map, outcome] using sent
  | getRuntimeState arguments =>
      cases ready : session.executionOf arguments.sourceFile with
      | error error =>
          simp [Exchange.sentIds, entry, answer, Reply.map, getRuntimeState_refused ready, refuse]
            at sent
      | ok pair =>
          have answered : (session.getRuntimeState backend arguments).answer = _ :=
            getRuntimeState_ready ready
          cases rendered : renderSnapshot backend.configuration pair.1
              (Snapshot.capture backend.engine.toExecutionView pair.2 session.ids).1 with
          | error error =>
              rw [rendered] at answered
              simp [Exchange.sentIds, entry, answer, Reply.map, answered] at sent
          | ok root =>
              rw [rendered] at answered
              have held : root.preorder.map (·.id) = [IdSource.idAt "runtimeState" session.ids.next] :=
                renderSnapshot_preorder rendered
              simpa [Exchange.sentIds, entry, answer, Reply.map, answered, held, mintedBy, ready]
                using sent
  | init arguments =>
      cases outcome : (session.init backend arguments).answer <;>
        simp [Exchange.sentIds, entry, answer, Reply.map, outcome] at sent
  | step arguments =>
      cases outcome : (session.step backend arguments).answer <;>
        simp [Exchange.sentIds, entry, answer, Reply.map, outcome] at sent
  | getBreakpointTypes arguments => cases sent
  | checkBreakpoint arguments =>
      cases outcome : (session.checkBreakpoint backend arguments).answer <;>
        simp [Exchange.sentIds, entry, answer, Reply.map, outcome] at sent

/-! ## Breakpoints -/

section Breakpoint

variable {machine : Machine} {execution : ε} {sourceFile typeId elementId : String}
  {breakpointType : BreakpointType}

/-- The reply about an id that the session does not know. -/
def unknownElement (session : Session ε) (elementId : String) : Reply ε CheckBreakpointResponse where
  answer := .ok (.rejected ("unknown element: " ++ elementId))
  session := session
  events := [.unknownBreakpointElement elementId]

/-- The reply about an element: what the engine says, if the type of breakpoint is one for
elements of that tag. -/
def knownElement (backend : Backend ε) (session : Session ε) (machine : Machine) (execution : ε)
    (breakpointType : BreakpointType) (element : Element) (tag : String) :
    Reply ε CheckBreakpointResponse where
  answer := .ok (if breakpointType.accepts tag then
      backend.engine.checkBreakpoint machine execution breakpointType.id element
    else .rejected ("breakpoint " ++ breakpointType.id ++ " does not apply to " ++ tag))
  session := session

theorem checkBreakpoint_unknown
    (ready : session.executionOf sourceFile = .ok (machine, execution))
    (declared : BreakpointType.find? backend.engine.breakpointTypes typeId = some breakpointType)
    (absent : machine.findElement elementId = none) :
    session.checkBreakpoint backend ⟨sourceFile, typeId, elementId⟩ =
      session.unknownElement elementId := by
  simp only [checkBreakpoint, ready, declared, absent]
  rfl

theorem checkBreakpoint_known
    (ready : session.executionOf sourceFile = .ok (machine, execution))
    (declared : BreakpointType.find? backend.engine.breakpointTypes typeId = some breakpointType)
    {element : Element} (found : machine.findElement elementId = some element) :
    session.checkBreakpoint backend ⟨sourceFile, typeId, elementId⟩ =
      session.knownElement backend machine execution breakpointType element element.typeTag := by
  simp only [checkBreakpoint, ready, declared, found, knownElement]
  split <;> rfl

end Breakpoint

/-- How a session that holds `machine` and `execution` for a file answers about ids, when
`root` is the record that was last sent for the file and `foreign` are ids that were
given out for anything else. -/
structure ScopesIds (backend : Backend ε) (session : Session ε) (sourceFile : String)
    (machine : Machine) (execution : ε) (root : Record) (foreign : List String) : Prop where
  ready : session.executionOf sourceFile = .ok (machine, execution)
  resolves : ∀ id, (machine.findElement id).isSome = true ↔ id ∈ root.preorder.map (·.id)
  known : ∀ {typeId breakpointType},
    BreakpointType.find? backend.engine.breakpointTypes typeId = some breakpointType →
    ∀ record ∈ root.preorder, ∃ element, machine.findElement record.id = some element ∧
      element.typeTag = record.kind ∧
      session.checkBreakpoint backend ⟨sourceFile, typeId, record.id⟩ =
        session.knownElement backend machine execution breakpointType element record.kind
  unknown : ∀ {typeId breakpointType},
    BreakpointType.find? backend.engine.breakpointTypes typeId = some breakpointType →
    ∀ id, id ∉ root.preorder.map (·.id) →
      session.checkBreakpoint backend ⟨sourceFile, typeId, id⟩ = session.unknownElement id
  foreign : ∀ id ∈ foreign, id ∉ root.preorder.map (·.id)

/-- What a session holds for a file that has been parsed and initialized. -/
theorem held_of_history {requests : List Request} {sourceFile : String}
    {before since : List Exchange} {parse : Exchange}
    (split : history backend {} requests = before ++ parse :: since)
    (parsed : parse.Parsed sourceFile) (latest : ∀ later ∈ since, ¬ later.Parsed sourceFile)
    (initialized : ∃ later ∈ since, later.Initialized sourceFile) :
    ∃ declaration machine execution, backend.parser sourceFile = .ok declaration ∧
      (declaration.build backend.configuration.maxDepth.toNat parse.ids).1 = .ok machine ∧
      (run backend {} requests).2.executionOf sourceFile = .ok (machine, execution) := by
  have tracks := (tracks_fresh backend sourceFile).run requests
  rw [List.nil_append] at tracks
  rcases tracks.parsed ⟨parsed, latest, before, split⟩ with
    ⟨declaration, machine, read, built, registered, -, held⟩
  rcases exists_latest initialized with ⟨init, later, latestInit⟩
  rcases held latestInit with ⟨inputs, execution, -, -, running⟩
  exact ⟨declaration, machine, _, read, built, executionOf_eq_ok.mpr ⟨registered, running⟩⟩

/-- What has been given out for one request has not been given out for any other. -/
theorem fresh_of_split {requests : List Request} {before since : List Entry} {made : Entry}
    (few : ((ledger backend {} requests).flatMap (·.minted)).length < 2 ^ 64)
    (split : ledger backend {} requests = before ++ made :: since) :
    made.minted.Nodup ∧ ∀ other ∈ before ++ since, ∀ id ∈ other.minted, id ∉ made.minted := by
  have distinct := (ledger_givenOut backend {} requests).nodup (Nat.le_of_lt few)
  have reordered : ((ledger backend {} requests).flatMap (·.minted)).Perm
      (made.minted ++ (before ++ since).flatMap (·.minted)) := by
    rw [split, ← List.flatMap_cons]
    exact List.perm_middle.flatMap_right _
  rcases List.nodup_append.mp (reordered.nodup_iff.mp distinct) with ⟨own, -, apart⟩
  refine ⟨own, fun other member id given known => ?_⟩
  exact apart id known id (List.mem_flatMap.mpr ⟨other, member, given⟩) rfl

/-- A session that holds a machine with different ids answers about ids by the records
that show its elements. -/
theorem scopesIds_of_shows {sourceFile : String} {machine : Machine} {execution : ε}
    {outputKey : String} {root : Record} {order : List Element} {foreign : List String}
    (ready : session.executionOf sourceFile = .ok (machine, execution))
    (distinct : machine.ids.Nodup) (same : order.Perm machine.elements)
    (related : List.Forall₂ (machine.Shows outputKey) order root.preorder)
    (apart : ∀ id ∈ foreign, id ∉ machine.ids) :
    ScopesIds backend session sourceFile machine execution root foreign := by
  have sent := Machine.ids_perm_of_shows same related
  constructor
  case ready => exact ready
  case resolves =>
    intro id
    rw [sent.mem_iff, Option.isSome_iff_ne_none, ne_eq, Machine.findElement_eq_none, not_not]
  case known =>
    intro typeId breakpointType declared record inRoot
    rcases exists_left related inRoot with ⟨element, inOrder, shows_⟩
    have found := Machine.findElement_idOf distinct (same.mem_iff.mp inOrder)
    rw [← shows_.id] at found
    refine ⟨element, found, shows_.kind.symm, ?_⟩
    rw [shows_.kind]
    exact checkBreakpoint_known ready declared found
  case unknown =>
    intro typeId breakpointType declared id notSent
    exact checkBreakpoint_unknown ready declared
      (Machine.findElement_eq_none.mpr fun member => notSent (sent.mem_iff.mpr member))
  case foreign => exact fun id member sentToo => apart id member (sent.mem_iff.mp sentToo)

/-- Once a file has been parsed and initialized, an id names something exactly when it
stands in the record that the latest parse of the file has sent, and then it names what
that record shows. -/
theorem run_scopesIds (backend : Backend ε) (requests : List Request)
    (few : ((ledger backend {} requests).flatMap (·.minted)).length < 2 ^ 64)
    {sourceFile : String} {before since : List Entry} {parse : Entry} {root : Record}
    (split : ledger backend {} requests = before ++ parse :: since)
    (request : parse.exchange.request = .parse ⟨sourceFile⟩)
    (answered : parse.exchange.answer = .ok (.parse ⟨root⟩))
    (latest : ∀ later ∈ since, ¬ later.exchange.Parsed sourceFile)
    (initialized : ∃ later ∈ since, later.exchange.Initialized sourceFile) :
    ∃ machine execution, ScopesIds backend (run backend {} requests).2 sourceFile machine execution
      root ((before ++ since).flatMap fun other => other.minted ++ other.exchange.sentIds) := by
  have historySplit : history backend {} requests =
      before.map (·.exchange) ++ parse.exchange :: since.map (·.exchange) := by
    rw [← map_exchange_ledger, split, List.map_append, List.map_cons]
  rcases held_of_history historySplit ⟨request, _, answered⟩ (by simpa using latest)
    (by simpa using initialized) with ⟨declaration, machine, execution, read, built, ready⟩
  have madeBy : ∀ made ∈ before ++ parse :: since, ∃ current : Session ε,
      made = current.entry backend made.exchange.request := by
    intro made member
    rw [← split] at member
    exact exists_entry_of_mem member
  rcases madeBy parse (by simp) with ⟨current, made⟩
  rw [request] at made
  have accepted : (current.parse backend ⟨sourceFile⟩).answer = .ok ⟨root⟩ := by
    rw [made] at answered
    rcases map_eq_ok.mp answered with ⟨response, accepted, same⟩
    cases same
    exact accepted
  rcases parse_shows accepted with ⟨_, _, readToo, builtToo, minted, order, same, related⟩
  cases read.symm.trans readToo
  rw [made] at built
  cases built.symm.trans builtToo
  have mintedByParse : parse.minted = machine.ids := by rw [made]; exact minted
  rcases fresh_of_split few split with ⟨distinct, apart⟩
  rw [mintedByParse] at distinct apart
  refine ⟨machine, execution, scopesIds_of_shows ready distinct same related ?_⟩
  intro id member
  rcases List.mem_flatMap.mp member with ⟨other, isOther, givenOrSent⟩
  rcases List.mem_append.mp givenOrSent with given | sent
  · exact apart other isOther id given
  · have inLedger : other ∈ before ++ parse :: since := by
      rcases List.mem_append.mp isOther with earlier | later
      · exact List.mem_append_left _ earlier
      · exact List.mem_append_right _ (List.mem_cons_of_mem _ later)
    rcases madeBy other inLedger with ⟨then_, madeThen⟩
    rw [madeThen] at sent
    have given := sentIds_minted _ id sent
    rw [madeThen] at isOther
    exact apart _ isOther id given

/-- A file that is parsed, run and reported, then parsed and run again. -/
theorem run_scopesIds_door :
    let push : TransitionDeclaration := { source := "shut", target := "open", input := some "push" }
    let declaration : MachineDeclaration :=
      { name := "door", initial := some "shut"
        states := [{ name := some "shut", transitions := [push] }, { name := some "open" }] }
    let backend : Backend InputRun :=
      { configuration := { validateReferences := false }, parser := fun _ => .ok declaration
        engine := .inputDriven }
    let requests : List Request := [.parse ⟨"door"⟩, .init ⟨"door", ["push"]⟩,
      .getRuntimeState ⟨"door"⟩, .parse ⟨"door"⟩, .init ⟨"door", []⟩]
    ∃ machine execution root, ScopesIds backend (run backend {} requests).2 "door" machine execution
      root ["stateMachine-0", "state-1", "state-2", "transition-3", "runtimeState-4"] := by
  intro push declaration backend requests
  let opened := (answer backend {} (.parse ⟨"door"⟩)).session
  let started := (opened.answer backend (.init ⟨"door", ["push"]⟩)).session
  let reported := (started.answer backend (.getRuntimeState ⟨"door"⟩)).session
  let reopened := (reported.answer backend (.parse ⟨"door"⟩)).session
  have split : ledger backend {} requests =
      [entry backend {} (.parse ⟨"door"⟩), opened.entry backend (.init ⟨"door", ["push"]⟩),
        started.entry backend (.getRuntimeState ⟨"door"⟩)] ++
      reported.entry backend (.parse ⟨"door"⟩) :: [reopened.entry backend (.init ⟨"door", []⟩)] :=
    rfl
  have few : ((ledger backend {} requests).flatMap (·.minted)).length < 2 ^ 64 := by
    decide +kernel
  have parsed : (reported.parse backend ⟨"door"⟩).answer.isOk = true := by decide +kernel
  have running : (reopened.init backend ⟨"door", []⟩).answer.isOk = true := by decide +kernel
  rcases exists_of_isOk parsed with ⟨⟨root⟩, accepted⟩
  rcases exists_of_isOk running with ⟨response, initialized⟩
  rcases run_scopesIds backend requests few split rfl (congrArg (Response.parse <$> ·) accepted)
    (by simp [Exchange.Parsed, entry])
    ⟨_, List.mem_singleton_self _, ⟨[], rfl⟩, _, congrArg (Response.init <$> ·) initialized⟩ with
    ⟨machine, execution, scopes⟩
  refine ⟨machine, execution, root, { scopes with foreign := fun id member => scopes.foreign id ?_ }⟩
  revert id member
  decide +kernel

end Session

end Statechart
