import Statechart.Engine.InputDriven
import Statechart.Proofs.Session.Minting

/-!
Requests about different files. What a request answers and what it changes is told by what
the session holds for the file that it names and, for the requests that take ids, by the ids
that are left. So two requests about different files can change places, unless both take ids.
-/

namespace Statechart

namespace Request

/-- The file that a request names; a question for the kinds of breakpoints may name none. -/
def sourceFile? : Request → Option String
  | .parse arguments => some arguments.sourceFile
  | .init arguments => some arguments.sourceFile
  | .step arguments => some arguments.sourceFile
  | .getRuntimeState arguments => some arguments.sourceFile
  | .getBreakpointTypes arguments => arguments.sourceFile
  | .checkBreakpoint arguments => some arguments.sourceFile

def takesIds : Request → Bool
  | .parse _ | .getRuntimeState _ => true
  | .init _ | .step _ | .getBreakpointTypes _ | .checkBreakpoint _ => false

end Request

namespace Session

variable {ε : Type} {backend : Backend ε} {left right : Session ε} {request : Request}

/-! ## What a request looks at -/

/-- Two sessions that hold the same for a file. -/
structure SameHoldings (sourceFile : String) (left right : Session ε) : Prop where
  machine : left.registry.get? sourceFile = right.registry.get? sourceFile
  execution : left.executions.get? sourceFile = right.executions.get? sourceFile

theorem SameHoldings.machineOf {sourceFile : String} (same : SameHoldings sourceFile left right) :
    left.machineOf sourceFile = right.machineOf sourceFile := by
  rw [Session.machineOf, Session.machineOf, same.machine]

theorem SameHoldings.executionOf {sourceFile : String}
    (same : SameHoldings sourceFile left right) :
    left.executionOf sourceFile = right.executionOf sourceFile := by
  rw [Session.executionOf, Session.executionOf, same.machineOf, same.execution]

theorem SameHoldings.symm {sourceFile : String} (same : SameHoldings sourceFile left right) :
    SameHoldings sourceFile right left :=
  ⟨same.machine.symm, same.execution.symm⟩

theorem SameHoldings.trans {sourceFile : String} {last : Session ε}
    (same : SameHoldings sourceFile left right) (sameToo : SameHoldings sourceFile right last) :
    SameHoldings sourceFile left last :=
  ⟨same.machine.trans sameToo.machine, same.execution.trans sameToo.execution⟩

/-- A request is treated alike: the same answer, the same holdings of its file afterwards
and, if it takes ids, the same ids left. -/
structure TreatedAlike (backend : Backend ε) (request : Request) (left right : Session ε) :
    Prop where
  answers : (left.answer backend request).answer = (right.answer backend request).answer
  holdings : ∀ sourceFile ∈ request.sourceFile?, SameHoldings sourceFile
    (left.answer backend request).session (right.answer backend request).session
  ids : request.takesIds = true →
    (left.answer backend request).session.ids = (right.answer backend request).session.ids

section Kinds

variable {sourceFile : String} (same : SameHoldings sourceFile left right)
include same

theorem parse_treatedAlike (sameIds : left.ids = right.ids) :
    TreatedAlike backend (.parse ⟨sourceFile⟩) left right := by
  have sameAnswer : (left.parse backend ⟨sourceFile⟩).answer =
      (right.parse backend ⟨sourceFile⟩).answer := by
    simp only [parse, sameIds]
    split
    · rfl
    · split
      · rfl
      · split <;> rfl
  constructor
  case answers => exact congrArg (Response.parse <$> ·) sameAnswer
  case holdings =>
    rintro _ ⟨⟩
    cases outcome : (left.parse backend ⟨sourceFile⟩).answer with
    | error error =>
        rcases parse_refused outcome with ⟨ids, after⟩
        rcases parse_refused (sameAnswer.symm.trans outcome) with ⟨idsToo, afterToo⟩
        simp only [answer, Reply.map, after, afterToo]
        exact ⟨same.machine, same.execution⟩
    | ok response =>
        rcases parse_answered outcome with ⟨declaration, machine, ids, read, built, -, after⟩
        rcases parse_answered (sameAnswer.symm.trans outcome) with
          ⟨declarationToo, machineToo, idsToo, readToo, builtToo, -, afterToo⟩
        cases read.symm.trans readToo
        rw [← sameIds, built] at builtToo
        cases builtToo
        simp only [answer, Reply.map, after, afterToo]
        constructor <;> simp
  case ids =>
    intro _
    change (left.parse backend ⟨sourceFile⟩).session.ids =
      (right.parse backend ⟨sourceFile⟩).session.ids
    rw [parse_ids, parse_ids, sameIds]

theorem init_treatedAlike (inputs : List String) :
    TreatedAlike backend (.init ⟨sourceFile, inputs⟩) left right := by
  have sameAnswer : (left.init backend ⟨sourceFile, inputs⟩).answer =
      (right.init backend ⟨sourceFile, inputs⟩).answer := by
    simp only [init, same.machineOf]
    split
    · rfl
    · split <;> rfl
  constructor
  case answers => exact congrArg (Response.init <$> ·) sameAnswer
  case holdings =>
    rintro _ ⟨⟩
    cases outcome : (left.init backend ⟨sourceFile, inputs⟩).answer with
    | error error =>
        simp only [answer, Reply.map, init_refused outcome,
          init_refused (sameAnswer.symm.trans outcome)]
        exact same
    | ok response =>
        rcases init_answered outcome with ⟨machine, execution, found, started, -, after⟩
        rcases init_answered (sameAnswer.symm.trans outcome) with
          ⟨machineToo, executionToo, foundToo, startedToo, -, afterToo⟩
        rw [← same.machine, found] at foundToo
        cases foundToo
        cases started.symm.trans startedToo
        simp only [answer, Reply.map, after, afterToo]
        exact ⟨same.machine, by simp⟩
  case ids => intro takes; cases takes

theorem step_treatedAlike : TreatedAlike backend (.step ⟨sourceFile⟩) left right := by
  cases ready : left.executionOf sourceFile with
  | error error =>
      have readyToo := same.executionOf.symm.trans ready
      constructor <;>
        simp only [answer, Reply.map, step_refused ready, step_refused readyToo, refuse]
      case holdings =>
        rintro _ ⟨⟩
        exact same
      case ids => intro takes; cases takes
  | ok held =>
      rcases held with ⟨machine, execution⟩
      have readyToo := same.executionOf.symm.trans ready
      cases done : backend.engine.isDone execution with
      | true =>
          constructor <;>
            simp only [answer, Reply.map, step_done ready done, step_done readyToo done]
          case holdings =>
            rintro _ ⟨⟩
            exact same
          case ids => intro takes; cases takes
      | false =>
          constructor <;>
            simp only [answer, Reply.map, step_running ready done, step_running readyToo done]
          case holdings =>
            rintro _ ⟨⟩
            exact ⟨same.machine, by simp⟩
          case ids => intro takes; cases takes

theorem getRuntimeState_treatedAlike (sameIds : left.ids = right.ids) :
    TreatedAlike backend (.getRuntimeState ⟨sourceFile⟩) left right := by
  constructor
  case answers =>
    apply congrArg (Response.getRuntimeState <$> ·)
    simp only [getRuntimeState, same.executionOf, sameIds]
    split
    · rfl
    · split <;> rfl
  case holdings =>
    rintro _ ⟨⟩
    rcases getRuntimeState_session backend left ⟨sourceFile⟩ with ⟨ids, after⟩
    rcases getRuntimeState_session backend right ⟨sourceFile⟩ with ⟨idsToo, afterToo⟩
    simp only [answer, Reply.map, after, afterToo]
    exact ⟨same.machine, same.execution⟩
  case ids =>
    intro _
    change (left.getRuntimeState backend ⟨sourceFile⟩).session.ids =
      (right.getRuntimeState backend ⟨sourceFile⟩).session.ids
    rw [getRuntimeState_ids, getRuntimeState_ids, same.executionOf, sameIds]

theorem checkBreakpoint_treatedAlike (typeId elementId : String) :
    TreatedAlike backend (.checkBreakpoint ⟨sourceFile, typeId, elementId⟩) left right := by
  constructor
  case answers =>
    apply congrArg (Response.checkBreakpoint <$> ·)
    simp only [checkBreakpoint, same.executionOf]
    split
    · rfl
    · split
      · rfl
      · split
        · rfl
        · split <;> rfl
  case holdings =>
    rintro _ ⟨⟩
    simp only [answer, Reply.map, checkBreakpoint_session]
    exact same
  case ids => intro takes; cases takes

end Kinds

/-- What the session holds for the file of a request, and the ids if it takes any, decide how
the request is treated. -/
theorem treatedAlike_of_sameHoldings
    (same : ∀ sourceFile ∈ request.sourceFile?, SameHoldings sourceFile left right)
    (sameIds : request.takesIds = true → left.ids = right.ids) :
    TreatedAlike backend request left right := by
  cases request with
  | parse arguments => exact parse_treatedAlike (same _ rfl) (sameIds rfl)
  | init arguments => exact init_treatedAlike (same _ rfl) arguments.inputs
  | step arguments => exact step_treatedAlike (same _ rfl)
  | getRuntimeState arguments => exact getRuntimeState_treatedAlike (same _ rfl) (sameIds rfl)
  | getBreakpointTypes arguments =>
      exact ⟨rfl, same, fun takes => by cases takes⟩
  | checkBreakpoint arguments =>
      exact checkBreakpoint_treatedAlike (same _ rfl) arguments.typeId arguments.elementId

/-! ## What a request leaves alone -/

theorem sameHoldings_of_otherFile (backend : Backend ε) (session : Session ε) {request : Request}
    {sourceFile : String} (other : sourceFile ∉ request.sourceFile?) :
    SameHoldings sourceFile (session.answer backend request).session session := by
  have unchanged := answer_undisturbed backend session sourceFile request
    (by rintro rfl; exact other rfl)
    (by
      rintro (rfl | ⟨inputs, rfl⟩)
      · exact absurd rfl other
      · exact absurd rfl other)
  exact ⟨unchanged.1, unchanged.2⟩

theorem ids_of_takesNone (backend : Backend ε) (session : Session ε) {request : Request}
    (takesNone : request.takesIds = false) :
    (session.answer backend request).session.ids = session.ids := by
  cases request with
  | parse | getRuntimeState => cases takesNone
  | init arguments => exact init_ids backend session arguments
  | step arguments => exact step_ids backend session arguments
  | getBreakpointTypes arguments => rfl
  | checkBreakpoint arguments =>
      exact congrArg Session.ids (checkBreakpoint_session backend session arguments)

/-! ## Changing places -/

/-- Sessions that hold the same for every file, and the same ids. -/
theorem ext_of_sameHoldings (sameIds : left.ids = right.ids)
    (same : ∀ sourceFile, SameHoldings sourceFile left right) : left = right := by
  have sameRegistry := Dictionary.ext_get? fun sourceFile => (same sourceFile).machine
  have sameExecutions := Dictionary.ext_get? fun sourceFile => (same sourceFile).execution
  cases left
  cases right
  cases sameIds
  cases sameRegistry
  cases sameExecutions
  rfl

section Other

variable {session : Session ε} {other : Request}

/-- A request about another file leaves what the session holds for this one, whatever the
request at hand makes of it afterwards. -/
theorem TreatedAlike.holdings_after
    (alike : TreatedAlike backend request (session.answer backend other).session session)
    {sourceFile : String} (elsewhere : sourceFile ∉ other.sourceFile?) :
    SameHoldings sourceFile
      ((session.answer backend other).session.answer backend request).session
      (session.answer backend request).session := by
  by_cases named : sourceFile ∈ request.sourceFile?
  · exact alike.holdings sourceFile named
  · exact ((sameHoldings_of_otherFile backend _ named).trans
      (sameHoldings_of_otherFile backend session elsewhere)).trans
      (sameHoldings_of_otherFile backend session named).symm

theorem TreatedAlike.ids_after
    (alike : TreatedAlike backend request (session.answer backend other).session session)
    (takesNone : other.takesIds = false) :
    ((session.answer backend other).session.answer backend request).session.ids =
      (session.answer backend request).session.ids := by
  cases takes : request.takesIds with
  | true => exact alike.ids takes
  | false =>
      rw [ids_of_takesNone backend _ takes, ids_of_takesNone backend session takesNone,
        ids_of_takesNone backend session takes]

end Other

theorem treatedAlike_after (backend : Backend ε) (session : Session ε) {request other : Request}
    (apart : ∀ sourceFile ∈ request.sourceFile?, sourceFile ∉ other.sourceFile?)
    (oneTakesNone : request.takesIds = false ∨ other.takesIds = false) :
    TreatedAlike backend request (session.answer backend other).session session := by
  apply treatedAlike_of_sameHoldings
  case same =>
    intro sourceFile named
    exact sameHoldings_of_otherFile backend session (apart sourceFile named)
  case sameIds =>
    intro takes
    rcases oneTakesNone with takesNone | takesNone
    · cases takes.symm.trans takesNone
    · exact ids_of_takesNone backend session takesNone

/-- Two requests about different files, of which one at most takes ids, are answered in either
order as each is when it comes alone, and leave the same session. -/
theorem run_comm_of_apart (backend : Backend ε) (session : Session ε) {first second : Request}
    (apart : ∀ sourceFile ∈ first.sourceFile?, sourceFile ∉ second.sourceFile?)
    (oneTakesNone : first.takesIds = false ∨ second.takesIds = false) :
    ∃ after,
      session.run backend [first, second] =
        ([(session.answer backend first).answer, (session.answer backend second).answer], after) ∧
      session.run backend [second, first] =
        ([(session.answer backend second).answer, (session.answer backend first).answer], after) := by
  have apartToo : ∀ sourceFile ∈ second.sourceFile?, sourceFile ∉ first.sourceFile? :=
    fun sourceFile named inFirst => apart sourceFile inFirst named
  have firstAlike := treatedAlike_after backend session apart oneTakesNone
  have secondAlike := treatedAlike_after backend session apartToo oneTakesNone.symm
  have sameEnd : ((session.answer backend first).session.answer backend second).session =
      ((session.answer backend second).session.answer backend first).session := by
    apply ext_of_sameHoldings
    case sameIds =>
      rcases oneTakesNone with takesNone | takesNone
      · exact (secondAlike.ids_after takesNone).trans (ids_of_takesNone backend _ takesNone).symm
      · exact (ids_of_takesNone backend _ takesNone).trans (firstAlike.ids_after takesNone).symm
    case same =>
      intro sourceFile
      by_cases named : sourceFile ∈ first.sourceFile?
      · have elsewhere := apart sourceFile named
        exact (sameHoldings_of_otherFile backend _ elsewhere).trans
          (firstAlike.holdings_after elsewhere).symm
      · exact (secondAlike.holdings_after named).trans
          (sameHoldings_of_otherFile backend _ named).symm
  refine ⟨((session.answer backend first).session.answer backend second).session, ?_, ?_⟩
  · simp only [run, secondAlike.answers]
  · simp only [run, firstAlike.answers, sameEnd]

/-- A door is parsed again, which takes ids and drops its execution, before or after another
door makes a step. -/
theorem run_comm_of_apart_doors :
    let push : TransitionDeclaration := { source := "shut", target := "open", input := some "push" }
    let declaration : MachineDeclaration :=
      { name := "door", initial := some "shut"
        states := [{ name := some "shut", transitions := [push] },
          { name := some "open", isFinal := true }] }
    let backend : Backend InputRun := { parser := fun _ => .ok declaration, engine := .inputDriven }
    let session := (run backend {} [.parse ⟨"front"⟩, .parse ⟨"back"⟩, .init ⟨"front", ["push"]⟩,
      .init ⟨"back", ["push"]⟩]).2
    let again : Request := .parse ⟨"front"⟩
    let onward : Request := .step ⟨"back"⟩
    (∀ sourceFile ∈ again.sourceFile?, sourceFile ∉ onward.sourceFile?) ∧
      (again.takesIds = false ∨ onward.takesIds = false) ∧
      (session.run backend [again, onward]).2 = (session.run backend [onward, again]).2 ∧
      (session.run backend [again, onward]).1 = (session.run backend [onward, again]).1.reverse := by
  intro push declaration backend session again onward
  have apart : ∀ sourceFile ∈ again.sourceFile?, sourceFile ∉ onward.sourceFile? := by
    rintro _ ⟨⟩
    decide
  have oneTakesNone : again.takesIds = false ∨ onward.takesIds = false := .inr rfl
  rcases run_comm_of_apart backend session apart oneTakesNone with ⟨after, forth, back⟩
  refine ⟨apart, oneTakesNone, ?_, ?_⟩
  · rw [forth, back]
  · rw [forth, back]
    rfl

end Session

end Statechart
