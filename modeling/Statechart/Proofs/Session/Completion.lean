import Statechart.Engine.InputDriven
import Statechart.Proofs.Session.Reporting

/-!
Executions that are done. Once a session has told that the execution of a file is done, it
holds that execution and reports the same of it until the file is parsed or initialized anew,
whatever else is asked; the engine is not asked for another step.
-/

namespace Statechart

namespace Exchange

/-- The answer tells that the execution of the file is done. -/
def Finishes (sourceFile : String) (exchange : Exchange) : Prop :=
  (∃ inputs, exchange.request = .init ⟨sourceFile, inputs⟩ ∧
      exchange.answer = .ok (.init ⟨true⟩)) ∨
    exchange.request = .step ⟨sourceFile⟩ ∧ exchange.answer = .ok (.step ⟨true⟩)

/-- An accepted parse or initialization of the file. -/
def Restarts (sourceFile : String) (exchange : Exchange) : Prop :=
  exchange.Parsed sourceFile ∨ exchange.Initialized sourceFile

theorem not_restarts_of_refused {sourceFile : String} {exchange : Exchange} {error : SessionError}
    (refused : exchange.answer = .error error) : ¬ exchange.Restarts sourceFile := by
  rintro (⟨-, response, accepted⟩ | ⟨-, response, accepted⟩) <;>
    cases refused.symm.trans accepted

theorem not_restarts_of_request {sourceFile : String} {exchange : Exchange}
    (notParse : exchange.request ≠ .parse ⟨sourceFile⟩)
    (notInit : ∀ inputs, exchange.request ≠ .init ⟨sourceFile, inputs⟩) :
    ¬ exchange.Restarts sourceFile := by
  rintro (⟨asked, -⟩ | ⟨⟨inputs, asked⟩, -⟩)
  · exact notParse asked
  · exact notInit inputs asked

end Exchange

/-- A report without the id of its snapshot; any other response as it is. -/
def Response.anonymous : Response → Response
  | .getRuntimeState response => .getRuntimeState ⟨{ response.runtimeStateRoot with id := "" }⟩
  | response => response

/-- A backend whose engine makes other steps. -/
def Backend.stepping {ε : Type} (backend : Backend ε)
    (step : Machine → ε → Except EngineError (Option Step) × ε) : Backend ε :=
  { backend with engine := { backend.engine with step } }

namespace Session

variable {ε : Type} {backend : Backend ε} {session : Session ε} {sourceFile : String}
  {machine : Machine} {execution : ε}

/-- The session holds an execution of the file that is done. -/
structure RestsDone (backend : Backend ε) (sourceFile : String) (machine : Machine)
    (execution : ε) (session : Session ε) : Prop where
  ready : session.executionOf sourceFile = .ok (machine, execution)
  done : backend.engine.isDone execution = true

/-! ## Coming to rest -/

theorem restsDone_of_init {inputs : List String} {response : InitResponse}
    (answered : (session.init backend ⟨sourceFile, inputs⟩).answer = .ok response)
    (done : response.isExecutionDone = true) :
    ∃ machine execution, RestsDone backend sourceFile machine execution
      (session.init backend ⟨sourceFile, inputs⟩).session := by
  rcases init_answered answered with ⟨machine, execution, found, -, told, after⟩
  refine ⟨machine, execution, ?_, told.symm.trans done⟩
  rw [after, executionOf_eq_ok]
  exact ⟨found, Dictionary.get?_insert_self _ _ _⟩

theorem restsDone_of_step {response : StepResponse}
    (answered : (session.step backend ⟨sourceFile⟩).answer = .ok response)
    (done : response.isExecutionDone = true) :
    ∃ machine execution, RestsDone backend sourceFile machine execution
      (session.step backend ⟨sourceFile⟩).session := by
  cases ready : session.executionOf sourceFile with
  | error error =>
      rw [step_refused ready] at answered
      cases answered
  | ok held =>
      rcases held with ⟨machine, execution⟩
      cases already : backend.engine.isDone execution with
      | true =>
          rw [step_done ready already]
          exact ⟨machine, execution, ready, already⟩
      | false =>
          rcases step_running ready already with ⟨told, after⟩
          rw [told] at answered
          split at answered
          · cases answered
          · cases answered
            refine ⟨machine, (backend.engine.step machine execution).2, ?_, done⟩
            rw [after, executionOf_eq_ok]
            exact ⟨(executionOf_eq_ok.mp ready).1, Dictionary.get?_insert_self _ _ _⟩

theorem restsDone_of_finishes {request : Request}
    (finishes : (session.entry backend request).exchange.Finishes sourceFile) :
    ∃ machine execution, RestsDone backend sourceFile machine execution
      (session.answer backend request).session := by
  rcases finishes with ⟨inputs, asked, told⟩ | ⟨asked, told⟩
  · change request = _ at asked
    subst asked
    rcases map_eq_ok.mp told with ⟨response, answered, same⟩
    cases same
    exact restsDone_of_init answered rfl
  · change request = _ at asked
    subst asked
    rcases map_eq_ok.mp told with ⟨response, answered, same⟩
    cases same
    exact restsDone_of_step answered rfl

/-! ## Staying at rest -/

/-- One more request. A step of the file finds its execution done, and any other request
leaves it alone unless it restarts it. -/
theorem RestsDone.answer (rests : RestsDone backend sourceFile machine execution session)
    (request : Request)
    (undisturbed : ¬ (session.entry backend request).exchange.Restarts sourceFile) :
    RestsDone backend sourceFile machine execution (session.answer backend request).session := by
  rcases executionOf_eq_ok.mp rests.ready with ⟨found, held⟩
  refine ⟨executionOf_eq_ok.mpr ?_, rests.done⟩
  cases answer_effect backend session sourceFile request with
  | parsed parsed => exact absurd (.inl parsed) undisturbed
  | initialized request accepted => exact absurd (.inr ⟨⟨_, request⟩, accepted⟩) undisturbed
  | stepped request foundToo running registered heldAfter =>
      cases found.symm.trans foundToo
      cases held.symm.trans running
      rw [registered, heldAfter, Engine.proceed, if_pos rests.done]
      exact ⟨found, rfl⟩
  | untouched _ _ _ registered heldAfter =>
      exact ⟨registered.trans found, heldAfter.trans held⟩

theorem RestsDone.run (rests : RestsDone backend sourceFile machine execution session)
    (requests : List Request)
    (undisturbed : ∀ exchange ∈ session.history backend requests,
      ¬ exchange.Restarts sourceFile) :
    RestsDone backend sourceFile machine execution (session.run backend requests).2 := by
  induction requests generalizing session with
  | nil => exact rests
  | cons request requests induction =>
      rw [history] at undisturbed
      have next := rests.answer request (undisturbed _ List.mem_cons_self)
      exact induction next fun exchange member => undisturbed exchange (List.mem_cons_of_mem _ member)

/-! ## What is answered at rest -/

/-- What an execution that is done is reported as. -/
def doneReport (backend : Backend ε) (machine : Machine) (execution : ε) :
    Except SessionError Response :=
  match machine.state? (backend.engine.current execution) with
  | some state => .ok (.anonymous (.getRuntimeState ⟨Renderer.snapshotRecord
      (Snapshot.capture backend.engine.toExecutionView execution {}).1 state⟩))
  | none => .error (.tree (.noSuchState (backend.engine.current execution)))

/-- How a session answers about an execution that has come to its end: a step tells that it is
done and changes nothing, as it would with any other engine that sees this, and a report is
always the same but for the id of its snapshot. -/
structure StaysDone (backend : Backend ε) (sourceFile : String) (machine : Machine)
    (execution : ε) (report : Except SessionError Response) (session : Session ε) : Prop where
  kept : session.executionOf sourceFile = .ok (machine, execution)
  stepped : session.step backend ⟨sourceFile⟩ = { answer := .ok ⟨true⟩, session }
  unasked : ∀ step, session.step (backend.stepping step) ⟨sourceFile⟩ =
    session.step backend ⟨sourceFile⟩
  reported : Response.anonymous <$>
    (session.answer backend (.getRuntimeState ⟨sourceFile⟩)).answer = report

theorem RestsDone.staysDone (rests : RestsDone backend sourceFile machine execution session) :
    StaysDone backend sourceFile machine execution (doneReport backend machine execution)
      session := by
  have stepped : session.step backend ⟨sourceFile⟩ = { answer := .ok ⟨true⟩, session } :=
    step_done rests.ready rests.done
  constructor
  case kept => exact rests.ready
  case stepped => exact stepped
  case unasked =>
    intro step
    have doneToo : (backend.stepping step).engine.isDone execution = true := rests.done
    rw [step_done rests.ready doneToo, stepped]
  case reported =>
    change Response.anonymous <$>
      (Response.getRuntimeState <$> (session.getRuntimeState backend ⟨sourceFile⟩).answer) = _
    rw [getRuntimeState_answer rests.ready, doneReport]
    cases machine.state? (backend.engine.current execution) <;> rfl

/-- Once an initialization or a step has told that the execution of a file is done, this does
not change until the file is parsed or initialized with success, whatever the requests in
between, failed ones of the file included. -/
theorem run_staysDone (backend : Backend ε) (session : Session ε) {finish : Request}
    {sourceFile : String}
    (finishes : (session.entry backend finish).exchange.Finishes sourceFile) :
    ∃ machine execution report, ∀ later : List Request,
      (∀ exchange ∈ (session.answer backend finish).session.history backend later,
        ¬ exchange.Restarts sourceFile) →
      StaysDone backend sourceFile machine execution report
        ((session.answer backend finish).session.run backend later).2 := by
  rcases restsDone_of_finishes finishes with ⟨machine, execution, rests⟩
  refine ⟨machine, execution, doneReport backend machine execution, ?_⟩
  intro later undisturbed
  exact (rests.run later undisturbed).staysDone

/-- A door that has been pushed open stays so while a new start is refused, another door is
parsed and the open one is reported and stepped on. -/
theorem run_staysDone_door :
    let push : TransitionDeclaration := { source := "shut", target := "open", input := some "push" }
    let declaration : MachineDeclaration :=
      { name := "door", initial := some "shut"
        states := [{ name := some "shut", transitions := [push] },
          { name := some "open", isFinal := true }] }
    let start (machine : Machine) (inputs : List String) : Except EngineError InputRun :=
      if inputs.isEmpty then .error (.failed "nobody pushes")
      else Engine.inputDriven.start machine inputs
    let backend : Backend InputRun :=
      { parser := fun _ => .ok declaration, engine := { Engine.inputDriven with start } }
    let session := (run backend {} [.parse ⟨"door"⟩, .init ⟨"door", ["push"]⟩]).2
    let finish : Request := .step ⟨"door"⟩
    let after := (session.answer backend finish).session
    let later : List Request := [.init ⟨"door", []⟩, .parse ⟨"gate"⟩, .getRuntimeState ⟨"door"⟩,
      .step ⟨"door"⟩]
    (session.entry backend finish).exchange.Finishes "door" ∧
      (∀ exchange ∈ after.history backend later, ¬ exchange.Restarts "door") ∧
      ∃ machine execution report,
        StaysDone backend "door" machine execution report (after.run backend later).2 := by
  intro push declaration start backend session finish after later
  have stepped : (session.step backend ⟨"door"⟩).answer = .ok ⟨true⟩ := by decide +kernel
  have finishes : (session.entry backend finish).exchange.Finishes "door" :=
    .inr ⟨rfl, congrArg (Response.step <$> ·) stepped⟩
  have refused : (after.init backend ⟨"door", []⟩).answer =
      .error (.engine (.failed "nobody pushes")) := by decide +kernel
  have undisturbed : ∀ exchange ∈ after.history backend later, ¬ exchange.Restarts "door" := by
    refine List.forall_mem_cons.mpr ⟨?_, List.forall_mem_cons.mpr ⟨?_,
      List.forall_mem_cons.mpr ⟨?_, List.forall_mem_singleton.mpr ?_⟩⟩⟩
    · exact Exchange.not_restarts_of_refused (congrArg (Response.init <$> ·) refused)
    · exact Exchange.not_restarts_of_request (by simp) (by simp)
    · exact Exchange.not_restarts_of_request (by simp) (by simp)
    · exact Exchange.not_restarts_of_request (by simp) (by simp)
  rcases run_staysDone backend session finishes with ⟨machine, execution, report, stays⟩
  exact ⟨finishes, undisturbed, machine, execution, report, stays later undisturbed⟩

end Session

end Statechart
