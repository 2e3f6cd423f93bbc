import Statechart.Proofs.Outcome
import Statechart.Session.Request

/-!
What a request does to a session. Each kind of request has one lemma for when it
is answered and one for when it is refused; both name what the session is
afterwards, so that nothing else needs to look into the requests.
-/

namespace Statechart

namespace Session

variable {ε : Type} {backend : Backend ε} {session : Session ε}

/-! ## Looking machines and executions up -/

theorem machineOf_eq_ok {sourceFile : String} {machine : Machine} :
    session.machineOf sourceFile = .ok machine ↔
      session.registry.get? sourceFile = some machine := by
  rw [machineOf]
  cases session.registry.get? sourceFile <;> simp

theorem executionOf_eq_ok {sourceFile : String} {machine : Machine} {execution : ε} :
    session.executionOf sourceFile = .ok (machine, execution) ↔
      session.registry.get? sourceFile = some machine ∧
        session.executions.get? sourceFile = some execution := by
  rw [executionOf, machineOf]
  cases session.registry.get? sourceFile <;> cases session.executions.get? sourceFile <;>
    simp [bind, Except.bind, pure, Except.pure]

theorem executionOf_eq_error {sourceFile : String} {error : SessionError} :
    session.executionOf sourceFile = .error error ↔
      session.registry.get? sourceFile = none ∧ error = .notParsed sourceFile ∨
        (session.registry.get? sourceFile).isSome = true ∧
          session.executions.get? sourceFile = none ∧ error = .notInitialized sourceFile := by
  rw [executionOf, machineOf]
  cases session.registry.get? sourceFile <;> cases session.executions.get? sourceFile <;>
    simp [bind, Except.bind, pure, Except.pure, eq_comm]

/-! ## Parsing -/

theorem parse_refused {arguments : ParseArguments} {error : SessionError}
    (refused : (session.parse backend arguments).answer = .error error) :
    ∃ ids, (session.parse backend arguments).session = { session with ids } := by
  unfold parse at refused ⊢
  dsimp only at refused ⊢
  split at refused
  · exact ⟨session.ids, rfl⟩
  · split at refused
    · exact ⟨_, rfl⟩
    · split at refused
      · exact ⟨_, rfl⟩
      · cases refused

theorem parse_answered {arguments : ParseArguments} {response : ParseResponse}
    (answered : (session.parse backend arguments).answer = .ok response) :
    ∃ declaration machine ids,
      backend.parser arguments.sourceFile = .ok declaration ∧
      declaration.build backend.configuration.maxDepth.toNat session.ids = (.ok machine, ids) ∧
      renderMachine backend.configuration machine = .ok response.astRoot ∧
      (session.parse backend arguments).session =
        { ids
          registry := session.registry.insert arguments.sourceFile machine
          executions := session.executions.erase arguments.sourceFile } := by
  unfold parse at answered ⊢
  dsimp only at answered ⊢
  split at answered
  · cases answered
  case h_2 declaration parsed =>
    split at answered
    · cases answered
    case h_2 machine ids built =>
      split at answered
      · cases answered
      case h_2 root rendered =>
        cases answered
        exact ⟨declaration, machine, ids, parsed, built, rendered, rfl⟩

theorem parse_unread {arguments : ParseArguments} {error : BuildError}
    (parsed : backend.parser arguments.sourceFile = .error error) :
    session.parse backend arguments = session.refuse (.build error) := by
  simp only [parse, parsed]

/-- A build that fails has used ids up. -/
theorem parse_unbuilt {arguments : ParseArguments} {declaration : MachineDeclaration}
    {error : BuildError} {ids : IdSource}
    (parsed : backend.parser arguments.sourceFile = .ok declaration)
    (built : declaration.build backend.configuration.maxDepth.toNat session.ids =
      (.error error, ids)) :
    session.parse backend arguments = { session with ids }.refuse (.build error) := by
  simp only [parse, parsed, built]

/-- A machine that is built and rendered is sent and kept, and takes the place of the
execution that was held. -/
theorem parse_of_rendered {arguments : ParseArguments} {declaration : MachineDeclaration}
    {machine : Machine} {ids : IdSource} {root : Record}
    (parsed : backend.parser arguments.sourceFile = .ok declaration)
    (built : declaration.build backend.configuration.maxDepth.toNat session.ids = (.ok machine, ids))
    (rendered : renderMachine backend.configuration machine = .ok root) :
    (session.parse backend arguments).answer = .ok ⟨root⟩ ∧
      (session.parse backend arguments).session =
        { ids
          registry := session.registry.insert arguments.sourceFile machine
          executions := session.executions.erase arguments.sourceFile } := by
  simp only [parse, parsed, built, rendered, and_self]

/-! ## Starting and stepping -/

theorem init_refused {arguments : InitArguments} {error : SessionError}
    (refused : (session.init backend arguments).answer = .error error) :
    (session.init backend arguments).session = session := by
  unfold init at refused ⊢
  dsimp only at refused ⊢
  split at refused
  · rfl
  · split at refused
    · rfl
    · cases refused

theorem init_answered {arguments : InitArguments} {response : InitResponse}
    (answered : (session.init backend arguments).answer = .ok response) :
    ∃ machine execution,
      session.registry.get? arguments.sourceFile = some machine ∧
      backend.engine.start machine arguments.inputs = .ok execution ∧
      response.isExecutionDone = backend.engine.isDone execution ∧
      (session.init backend arguments).session =
        { session with executions := session.executions.insert arguments.sourceFile execution } := by
  unfold init at answered ⊢
  dsimp only at answered ⊢
  split at answered
  · cases answered
  case h_2 machine found =>
    split at answered
    · cases answered
    case h_2 execution started =>
      cases answered
      exact ⟨machine, execution, machineOf_eq_ok.mp found, started, rfl, rfl⟩

theorem step_refused {arguments : StepArguments} {error : SessionError}
    (refused : session.executionOf arguments.sourceFile = .error error) :
    session.step backend arguments = session.refuse error := by
  simp [step, refused]

theorem step_done {arguments : StepArguments} {machine : Machine} {execution : ε}
    (found : session.executionOf arguments.sourceFile = .ok (machine, execution))
    (done : backend.engine.isDone execution = true) :
    session.step backend arguments = { answer := .ok ⟨true⟩, session } := by
  simp [step, found, done]

/-- The execution that the engine leaves is kept, also when its step has failed. -/
theorem step_running {arguments : StepArguments} {machine : Machine} {execution : ε}
    (found : session.executionOf arguments.sourceFile = .ok (machine, execution))
    (running : backend.engine.isDone execution = false) :
    (session.step backend arguments).answer =
        (match (backend.engine.step machine execution).1 with
        | .error error => .error (.engine error)
        | .ok _ => .ok ⟨backend.engine.isDone (backend.engine.step machine execution).2⟩) ∧
      (session.step backend arguments).session =
        { session with
          executions := session.executions.insert arguments.sourceFile
            (backend.engine.step machine execution).2 } := by
  simp only [step, found, running]
  cases (backend.engine.step machine execution).1 <;> exact ⟨rfl, rfl⟩

/-! ## Requests that only look -/

theorem getRuntimeState_session (backend : Backend ε) (session : Session ε)
    (arguments : GetRuntimeStateArguments) :
    ∃ ids, (session.getRuntimeState backend arguments).session = { session with ids } := by
  rw [getRuntimeState]
  split
  · exact ⟨session.ids, rfl⟩
  · dsimp only
    split <;> exact ⟨_, rfl⟩

theorem getRuntimeState_refused {arguments : GetRuntimeStateArguments} {error : SessionError}
    (refused : session.executionOf arguments.sourceFile = .error error) :
    session.getRuntimeState backend arguments = session.refuse error := by
  simp [getRuntimeState, refused]

/-- With an execution at hand only the rendering of its snapshot can fail. -/
theorem getRuntimeState_ready {arguments : GetRuntimeStateArguments} {machine : Machine}
    {execution : ε} (found : session.executionOf arguments.sourceFile = .ok (machine, execution)) :
    (session.getRuntimeState backend arguments).answer =
      match renderSnapshot backend.configuration machine
        (Snapshot.capture backend.engine.toExecutionView execution session.ids).1 with
      | .error error => .error (.tree error)
      | .ok root => .ok ⟨root⟩ := by
  simp only [getRuntimeState, found]
  split <;> simp_all [refuse]

theorem checkBreakpoint_session (backend : Backend ε) (session : Session ε)
    (arguments : CheckBreakpointArguments) :
    (session.checkBreakpoint backend arguments).session = session := by
  rw [checkBreakpoint]
  split
  · rfl
  · split
    · rfl
    · split
      · rfl
      · split <;> rfl

theorem checkBreakpoint_refused (backend : Backend ε) (arguments : CheckBreakpointArguments)
    {error : SessionError} (refused : session.executionOf arguments.sourceFile = .error error) :
    session.checkBreakpoint backend arguments = session.refuse error := by
  simp [checkBreakpoint, refused]

/-- With an execution at hand a breakpoint is always answered. -/
theorem checkBreakpoint_ready (backend : Backend ε) (arguments : CheckBreakpointArguments)
    {machine : Machine} {execution : ε}
    (found : session.executionOf arguments.sourceFile = .ok (machine, execution)) :
    ∃ response, (session.checkBreakpoint backend arguments).answer = .ok response := by
  simp only [checkBreakpoint, found]
  split
  · exact ⟨_, rfl⟩
  · split
    · exact ⟨_, rfl⟩
    · split <;> exact ⟨_, rfl⟩

end Session

end Statechart
