import Statechart.Proofs.Session.Effect

/-!
The lifecycle of a source file. What a session holds for a file is told by the
past of that file alone: its latest accepted parse, the latest accepted
initialization since then, and the step requests after that. The main statement
is `run_followsLifecycle`, for every sequence of requests from a fresh session.
-/

namespace Statechart

/-! ## The past of a session -/

/-- A request with its answer, and the ids that were left when it came. -/
structure Exchange where
  ids : IdSource
  request : Request
  answer : Except SessionError Response

namespace Exchange

def Accepted (exchange : Exchange) : Prop :=
  ∃ response, exchange.answer = .ok response

def Parsed (sourceFile : String) (exchange : Exchange) : Prop :=
  exchange.request = .parse ⟨sourceFile⟩ ∧ exchange.Accepted

def Initialized (sourceFile : String) (exchange : Exchange) : Prop :=
  (∃ inputs, exchange.request = .init ⟨sourceFile, inputs⟩) ∧ exchange.Accepted

def isStepOf (sourceFile : String) (exchange : Exchange) : Bool :=
  exchange.request = .step ⟨sourceFile⟩

end Exchange

namespace Session

variable {ε : Type}

/-- What a sequence of requests leaves in the past. -/
def history (backend : Backend ε) (session : Session ε) : List Request → List Exchange
  | [] => []
  | request :: requests =>
      let reply := session.answer backend request
      ⟨session.ids, request, reply.answer⟩ :: reply.session.history backend requests

theorem answers_history (backend : Backend ε) (session : Session ε) (requests : List Request) :
    (session.history backend requests).map (·.answer) = (session.run backend requests).1 := by
  induction requests generalizing session with
  | nil => rfl
  | cons request requests induction =>
      rw [history, List.map_cons, induction]
      rfl

end Session

/-- The latest entry of a past with a property, and everything after it. -/
def Latest (Property : α → Prop) (past : List α) (entry : α) (since : List α) : Prop :=
  Property entry ∧ (∀ later ∈ since, ¬ Property later) ∧ ∃ before, past = before ++ entry :: since

/-- A past with one more entry. -/
theorem latest_concat {Property : α → Prop} {past since : List α} {newest entry : α}
    (latest : Latest Property (past ++ [newest]) entry since) :
    (Property newest ∧ entry = newest ∧ since = []) ∨
      (¬ Property newest ∧ ∃ earlier, since = earlier ++ [newest] ∧
        Latest Property past entry earlier) := by
  rcases latest with ⟨holds, rest, before, split⟩
  rcases List.eq_nil_or_concat since with rfl | ⟨earlier, last, rfl⟩
  · have parts := List.append_inj' split (by simp)
    cases parts.2
    exact .inl ⟨holds, rfl, rfl⟩
  · rw [List.concat_eq_append] at rest split ⊢
    rw [← List.cons_append, ← List.append_assoc] at split
    have parts := List.append_inj' split (by simp)
    cases parts.2
    have newestFails : ¬ Property newest := rest newest (by simp)
    exact .inr ⟨newestFails, earlier, rfl, holds,
      fun later member => rest later (List.mem_append_left _ member), before, parts.1⟩

theorem latest_before {Property : α → Prop} {past since : List α} {newest entry : α}
    (newestFails : ¬ Property newest) (latest : Latest Property (past ++ [newest]) entry since) :
    ∃ earlier, since = earlier ++ [newest] ∧ Latest Property past entry earlier := by
  rcases latest_concat latest with ⟨holds, -, -⟩ | ⟨-, before⟩
  · exact absurd holds newestFails
  · exact before

/-- An execution after one more step request: one that is done stays as it is, any
other one becomes what the engine leaves. -/
def Engine.proceed {ε : Type} (engine : Engine ε) (machine : Machine) (execution : ε) : ε :=
  if engine.isDone execution then execution else (engine.step machine execution).2

theorem exists_latest {Property : α → Prop} {past : List α}
    (occurs : ∃ entry ∈ past, Property entry) : ∃ entry since, Latest Property past entry since := by
  induction past with
  | nil => simp at occurs
  | cons head rest induction =>
      by_cases later : ∃ entry ∈ rest, Property entry
      · rcases induction later with ⟨entry, since, holds, none, before, split⟩
        exact ⟨entry, since, holds, none, head :: before, by rw [split, List.cons_append]⟩
      · have none : ∀ entry ∈ rest, ¬ Property entry :=
          fun entry member holds => later ⟨entry, member, holds⟩
        rcases occurs with ⟨entry, member, holds⟩
        rcases List.mem_cons.mp member with rfl | member
        · exact ⟨entry, rest, holds, none, [], rfl⟩
        · exact absurd holds (none entry member)

namespace Session

variable {ε : Type}

/-! ## What one request does for one file -/

/-- The four ways in which a request can matter to a file; the last one is not to
matter at all. -/
inductive FileEffect (backend : Backend ε) (sourceFile : String) (before : Session ε)
    (exchange : Exchange) (after : Session ε) : Prop
  | parsed {declaration : MachineDeclaration} {machine : Machine}
      (parsed : exchange.Parsed sourceFile)
      (read : backend.parser sourceFile = .ok declaration)
      (built : (declaration.build backend.configuration.maxDepth.toNat before.ids).1 = .ok machine)
      (registered : after.registry.get? sourceFile = some machine)
      (dropped : after.executions.get? sourceFile = none)
  | initialized {inputs : List String} {machine : Machine} {execution : ε}
      (request : exchange.request = .init ⟨sourceFile, inputs⟩) (accepted : exchange.Accepted)
      (found : before.registry.get? sourceFile = some machine)
      (registered : after.registry = before.registry)
      (started : backend.engine.start machine inputs = .ok execution)
      (held : after.executions.get? sourceFile = some execution)
  | stepped {machine : Machine} {execution : ε}
      (request : exchange.request = .step ⟨sourceFile⟩)
      (found : before.registry.get? sourceFile = some machine)
      (running : before.executions.get? sourceFile = some execution)
      (registered : after.registry = before.registry)
      (held : after.executions.get? sourceFile =
        some (backend.engine.proceed machine execution))
  | untouched (notParsed : ¬ exchange.Parsed sourceFile)
      (notInitialized : ¬ exchange.Initialized sourceFile)
      (unready : exchange.request = .step ⟨sourceFile⟩ →
        before.registry.get? sourceFile = none ∨ before.executions.get? sourceFile = none)
      (registered : after.registry.get? sourceFile = before.registry.get? sourceFile)
      (held : after.executions.get? sourceFile = before.executions.get? sourceFile)

/-- A request that is neither a parse nor an initialization nor a step. -/
theorem FileEffect.of_other {backend : Backend ε} {sourceFile : String} {before after : Session ε}
    {exchange : Exchange} (notParse : exchange.request ≠ .parse ⟨sourceFile⟩)
    (notInit : ∀ inputs, exchange.request ≠ .init ⟨sourceFile, inputs⟩)
    (notStep : exchange.request ≠ .step ⟨sourceFile⟩)
    (registered : after.registry.get? sourceFile = before.registry.get? sourceFile)
    (held : after.executions.get? sourceFile = before.executions.get? sourceFile) :
    FileEffect backend sourceFile before exchange after :=
  .untouched (fun parsed => notParse parsed.1)
    (fun initialized => initialized.1.elim fun inputs same => notInit inputs same)
    (fun same => absurd same notStep) registered held

theorem parse_effect (backend : Backend ε) (session : Session ε) (sourceFile : String)
    (arguments : ParseArguments) :
    FileEffect backend sourceFile session
      ⟨session.ids, .parse arguments, (session.answer backend (.parse arguments)).answer⟩
      (session.answer backend (.parse arguments)).session := by
  simp only [answer, Reply.map]
  cases outcome : (session.parse backend arguments).answer with
  | error error =>
      rcases parse_refused outcome with ⟨ids, unchanged⟩
      rw [unchanged]
      refine .untouched ?_ ?_ (fun same => by cases same) rfl rfl
      · rintro ⟨-, response, accepted⟩
        cases accepted
      · rintro ⟨⟨inputs, same⟩, -⟩
        cases same
  | ok response =>
      rcases parse_answered outcome with ⟨declaration, machine, ids, read, built, -, after⟩
      rw [after]
      by_cases same : sourceFile = arguments.sourceFile
      · subst same
        exact .parsed ⟨rfl, _, rfl⟩ read (congrArg Prod.fst built) (by simp) (by simp)
      · refine .of_other ?_ (fun _ => by simp) (by simp) (by simp [same]) (by simp [same])
        intro equal
        cases equal
        exact same rfl

theorem init_effect (backend : Backend ε) (session : Session ε) (sourceFile : String)
    (arguments : InitArguments) :
    FileEffect backend sourceFile session
      ⟨session.ids, .init arguments, (session.answer backend (.init arguments)).answer⟩
      (session.answer backend (.init arguments)).session := by
  simp only [answer, Reply.map]
  cases outcome : (session.init backend arguments).answer with
  | error error =>
      rw [init_refused outcome]
      refine .untouched ?_ ?_ (fun same => by cases same) rfl rfl
      · rintro ⟨same, -⟩
        cases same
      · rintro ⟨-, response, accepted⟩
        cases accepted
  | ok response =>
      rcases init_answered outcome with ⟨machine, execution, found, started, -, after⟩
      rw [after]
      by_cases same : sourceFile = arguments.sourceFile
      · subst same
        exact .initialized rfl ⟨_, rfl⟩ found rfl started (by simp)
      · refine .of_other (by simp) ?_ (by simp) rfl (by simp [same])
        intro inputs equal
        cases equal
        exact same rfl

theorem step_effect (backend : Backend ε) (session : Session ε) (sourceFile : String)
    (arguments : StepArguments) :
    FileEffect backend sourceFile session
      ⟨session.ids, .step arguments, (session.answer backend (.step arguments)).answer⟩
      (session.answer backend (.step arguments)).session := by
  simp only [answer, Reply.map]
  have notParsed : ∀ response, ¬ Exchange.Parsed sourceFile
      ⟨session.ids, .step arguments, response⟩ := by
    rintro response ⟨same, -⟩
    cases same
  have notInitialized : ∀ response, ¬ Exchange.Initialized sourceFile
      ⟨session.ids, .step arguments, response⟩ := by
    rintro response ⟨⟨inputs, same⟩, -⟩
    cases same
  cases ready : session.executionOf arguments.sourceFile with
  | error error =>
      rw [step_refused ready]
      refine .untouched (notParsed _) (notInitialized _) ?_ rfl rfl
      intro same
      cases same
      rcases executionOf_eq_error.mp ready with ⟨absent, -⟩ | ⟨-, absent, -⟩
      · exact .inl absent
      · exact .inr absent
  | ok pair =>
      rcases pair with ⟨machine, execution⟩
      rcases executionOf_eq_ok.mp ready with ⟨found, running⟩
      cases done : backend.engine.isDone execution with
      | true =>
          rw [step_done ready done]
          by_cases same : sourceFile = arguments.sourceFile
          · subst same
            exact .stepped rfl found running rfl (by simp [Engine.proceed, done, running])
          · refine .untouched (notParsed _) (notInitialized _) ?_ rfl rfl
            intro equal
            cases equal
            exact absurd rfl same
      | false =>
          rw [(step_running ready done).2]
          by_cases same : sourceFile = arguments.sourceFile
          · subst same
            exact .stepped rfl found running rfl (by simp [Engine.proceed, done])
          · refine .untouched (notParsed _) (notInitialized _) ?_ rfl (by simp [same])
            intro equal
            cases equal
            exact absurd rfl same

theorem answer_effect (backend : Backend ε) (session : Session ε) (sourceFile : String)
    (request : Request) :
    FileEffect backend sourceFile session
      ⟨session.ids, request, (session.answer backend request).answer⟩
      (session.answer backend request).session := by
  cases request with
  | parse arguments => exact parse_effect backend session sourceFile arguments
  | init arguments => exact init_effect backend session sourceFile arguments
  | step arguments => exact step_effect backend session sourceFile arguments
  | getRuntimeState arguments =>
      rcases getRuntimeState_session backend session arguments with ⟨ids, unchanged⟩
      refine .of_other (by simp) (by simp) (by simp) ?_ ?_ <;>
        simp [answer, Reply.map, unchanged]
  | getBreakpointTypes arguments =>
      exact .of_other (by simp) (by simp) (by simp) rfl rfl
  | checkBreakpoint arguments =>
      refine .of_other (by simp) (by simp) (by simp) ?_ ?_ <;>
        simp [answer, Reply.map, checkBreakpoint_session]

/-! ## What a whole past does for one file -/

/-- What a session holds for a file, told by its past. -/
structure Tracks (backend : Backend ε) (past : List Exchange) (sourceFile : String)
    (session : Session ε) : Prop where
  unparsed : (∀ exchange ∈ past, ¬ exchange.Parsed sourceFile) →
    session.registry.get? sourceFile = none ∧ session.executions.get? sourceFile = none
  parsed : ∀ {parse since}, Latest (Exchange.Parsed sourceFile) past parse since →
    ∃ declaration machine, backend.parser sourceFile = .ok declaration ∧
      (declaration.build backend.configuration.maxDepth.toNat parse.ids).1 = .ok machine ∧
      session.registry.get? sourceFile = some machine ∧
      ((∀ exchange ∈ since, ¬ exchange.Initialized sourceFile) →
        session.executions.get? sourceFile = none) ∧
      ∀ {init later}, Latest (Exchange.Initialized sourceFile) since init later →
        ∃ inputs execution, init.request = .init ⟨sourceFile, inputs⟩ ∧
          backend.engine.start machine inputs = .ok execution ∧
          session.executions.get? sourceFile =
            some ((later.filter (·.isStepOf sourceFile)).foldl
              (fun execution _ => backend.engine.proceed machine execution) execution)

theorem tracks_fresh (backend : Backend ε) (sourceFile : String) :
    Tracks backend [] sourceFile ({} : Session ε) where
  unparsed _ := ⟨rfl, rfl⟩
  parsed latest := by
    rcases latest with ⟨-, -, before, split⟩
    simp at split

/-- What a session holds for the execution of a machine, told by what came after its
parse. -/
structure Executes (backend : Backend ε) (machine : Machine) (since : List Exchange)
    (sourceFile : String) (session : Session ε) : Prop where
  idle : (∀ exchange ∈ since, ¬ exchange.Initialized sourceFile) →
    session.executions.get? sourceFile = none
  started : ∀ {init later}, Latest (Exchange.Initialized sourceFile) since init later →
    ∃ inputs execution, init.request = .init ⟨sourceFile, inputs⟩ ∧
      backend.engine.start machine inputs = .ok execution ∧
      session.executions.get? sourceFile =
        some ((later.filter (·.isStepOf sourceFile)).foldl
          (fun execution _ => backend.engine.proceed machine execution) execution)

section Concat

variable {backend : Backend ε} {past since : List Exchange} {sourceFile : String}
  {before after : Session ε} {exchange : Exchange} {machine : Machine} {execution : ε}

theorem Executes.initialized {inputs : List String}
    (request : exchange.request = .init ⟨sourceFile, inputs⟩) (accepted : exchange.Accepted)
    (started : backend.engine.start machine inputs = .ok execution)
    (held : after.executions.get? sourceFile = some execution) :
    Executes backend machine (since ++ [exchange]) sourceFile after := by
  have initialized : exchange.Initialized sourceFile := ⟨⟨_, request⟩, accepted⟩
  constructor
  case idle =>
    intro uninitialized
    exact absurd initialized (uninitialized exchange (by simp))
  case started =>
    intro init later latestInit
    rcases latest_concat latestInit with ⟨-, rfl, rfl⟩ | ⟨notInitialized, -⟩
    · exact ⟨_, _, request, started, held⟩
    · exact absurd initialized notInitialized

theorem Executes.stepped (executes : Executes backend machine since sourceFile before)
    (request : exchange.request = .step ⟨sourceFile⟩)
    (running : before.executions.get? sourceFile = some execution)
    (held : after.executions.get? sourceFile = some (backend.engine.proceed machine execution)) :
    Executes backend machine (since ++ [exchange]) sourceFile after := by
  have notInitialized : ¬ exchange.Initialized sourceFile := by
    intro initialized
    rcases initialized with ⟨⟨inputs, same⟩, -⟩
    cases request.symm.trans same
  constructor
  case idle =>
    intro uninitialized
    have none := executes.idle fun entry member =>
      uninitialized entry (List.mem_append_left _ member)
    rw [none] at running
    cases running
  case started =>
    intro init later latestInit
    rcases latest_before notInitialized latestInit with ⟨steps, rfl, latestStart⟩
    rcases executes.started latestStart with ⟨inputs, execution, asked, started, heldBefore⟩
    cases running.symm.trans heldBefore
    refine ⟨inputs, execution, asked, started, held.trans ?_⟩
    simp [List.filter_append, Exchange.isStepOf, request]

/-- A step that finds no execution does not count as one. -/
theorem Executes.untouched (executes : Executes backend machine since sourceFile before)
    (known : before.registry.get? sourceFile = some machine)
    (notInitialized : ¬ exchange.Initialized sourceFile)
    (unready : exchange.request = .step ⟨sourceFile⟩ →
      before.registry.get? sourceFile = none ∨ before.executions.get? sourceFile = none)
    (held : after.executions.get? sourceFile = before.executions.get? sourceFile) :
    Executes backend machine (since ++ [exchange]) sourceFile after := by
  constructor
  case idle =>
    intro uninitialized
    rw [held]
    exact executes.idle fun entry member => uninitialized entry (List.mem_append_left _ member)
  case started =>
    intro init later latestInit
    rcases latest_before notInitialized latestInit with ⟨steps, rfl, latestStart⟩
    rcases executes.started latestStart with ⟨inputs, execution, asked, started, heldBefore⟩
    have notStep : exchange.request ≠ .step ⟨sourceFile⟩ := by
      intro same
      rcases unready same with absent | absent
      · rw [known] at absent
        cases absent
      · rw [heldBefore] at absent
        cases absent
    refine ⟨inputs, execution, asked, started, (held.trans heldBefore).trans ?_⟩
    simp [List.filter_append, Exchange.isStepOf, notStep]

/-- An exchange that parses nothing leaves the latest parse where it was. -/
theorem Tracks.concat_of_notParsed (tracks : Tracks backend past sourceFile before)
    (notParsed : ¬ exchange.Parsed sourceFile)
    (registered : after.registry.get? sourceFile = before.registry.get? sourceFile)
    (absent : before.registry.get? sourceFile = none →
      after.executions.get? sourceFile = before.executions.get? sourceFile)
    (executes : ∀ {machine since}, before.registry.get? sourceFile = some machine →
      Executes backend machine since sourceFile before →
      Executes backend machine (since ++ [exchange]) sourceFile after) :
    Tracks backend (past ++ [exchange]) sourceFile after := by
  constructor
  case unparsed =>
    intro unparsed
    rcases tracks.unparsed fun entry member => unparsed entry (List.mem_append_left _ member) with
      ⟨unknown, idle⟩
    exact ⟨registered.trans unknown, (absent unknown).trans idle⟩
  case parsed =>
    intro parse since latest
    rcases latest_before notParsed latest with ⟨earlier, rfl, latestParse⟩
    rcases tracks.parsed latestParse with ⟨declaration, machine, read, built, known, idle, started⟩
    have now := executes known ⟨idle, started⟩
    exact ⟨declaration, machine, read, built, registered.trans known, now.idle, now.started⟩

/-- One request more. The past grows at its end, so the latest parse and the
latest initialization are either the new request or the ones known before. -/
theorem Tracks.concat (tracks : Tracks backend past sourceFile before)
    (ids : exchange.ids = before.ids)
    (effect : FileEffect backend sourceFile before exchange after) :
    Tracks backend (past ++ [exchange]) sourceFile after := by
  cases effect with
  | parsed parsed read built registered dropped =>
      constructor
      case unparsed =>
        intro unparsed
        exact absurd parsed (unparsed exchange (by simp))
      case parsed =>
        intro parse since latest
        rcases latest_concat latest with ⟨-, rfl, rfl⟩ | ⟨notParsed, -⟩
        · refine ⟨_, _, read, by rw [ids]; exact built, registered, fun _ => dropped, ?_⟩
          rintro init later ⟨-, -, earlier, split⟩
          simp at split
        · exact absurd parsed notParsed
  | initialized request accepted found registered started held =>
      have notParsed : ¬ exchange.Parsed sourceFile := by
        intro parsed
        cases request.symm.trans parsed.1
      apply tracks.concat_of_notParsed notParsed (by rw [registered])
      case absent =>
        intro unknown
        cases unknown.symm.trans found
      case executes =>
        intro machine since known _
        cases found.symm.trans known
        exact .initialized request accepted started held
  | stepped request found running registered held =>
      have notParsed : ¬ exchange.Parsed sourceFile := by
        intro parsed
        cases request.symm.trans parsed.1
      apply tracks.concat_of_notParsed notParsed (by rw [registered])
      case absent =>
        intro unknown
        cases unknown.symm.trans found
      case executes =>
        intro machine since known executes
        cases found.symm.trans known
        exact executes.stepped request running held
  | untouched notParsed notInitialized unready registered held =>
      exact tracks.concat_of_notParsed notParsed registered (fun _ => held)
        fun known executes => executes.untouched known notInitialized unready held

end Concat

theorem Tracks.run {backend : Backend ε} {past : List Exchange} {sourceFile : String}
    {session : Session ε} (tracks : Tracks backend past sourceFile session)
    (requests : List Request) :
    Tracks backend (past ++ session.history backend requests) sourceFile
      (session.run backend requests).2 := by
  induction requests generalizing past session with
  | nil => simpa [history, Session.run] using tracks
  | cons request requests induction =>
      have stepped := tracks.concat rfl (answer_effect backend session sourceFile request)
      rw [history, List.append_cons]
      exact induction stepped

theorem Tracks.absent_iff {backend : Backend ε} {past : List Exchange} {sourceFile : String}
    {session : Session ε} (tracks : Tracks backend past sourceFile session) :
    session.registry.get? sourceFile = none ↔ ∀ exchange ∈ past, ¬ exchange.Parsed sourceFile := by
  constructor
  · intro absent exchange member parsed
    rcases exists_latest ⟨exchange, member, parsed⟩ with ⟨parse, since, latest⟩
    rcases tracks.parsed latest with ⟨declaration, machine, -, -, known, -⟩
    rw [absent] at known
    cases known
  · intro unparsed
    exact (tracks.unparsed unparsed).1

/-- A machine without an execution: there was a parse, and no initialization since
the latest one. -/
theorem Tracks.idle_iff {backend : Backend ε} {past : List Exchange} {sourceFile : String}
    {session : Session ε} (tracks : Tracks backend past sourceFile session) :
    (session.registry.get? sourceFile).isSome = true ∧
        session.executions.get? sourceFile = none ↔
      ∃ parse since, Latest (Exchange.Parsed sourceFile) past parse since ∧
        ∀ exchange ∈ since, ¬ exchange.Initialized sourceFile := by
  constructor
  · rintro ⟨known, idle⟩
    have occurs : ∃ exchange ∈ past, exchange.Parsed sourceFile := by
      refine Classical.byContradiction fun unparsed => ?_
      rw [tracks.absent_iff.mpr fun exchange member parsed =>
        unparsed ⟨exchange, member, parsed⟩] at known
      cases known
    rcases exists_latest occurs with ⟨parse, since, latest⟩
    refine ⟨parse, since, latest, fun exchange member initialized => ?_⟩
    rcases tracks.parsed latest with ⟨declaration, machine, -, -, -, -, initializedHeld⟩
    rcases exists_latest ⟨exchange, member, initialized⟩ with ⟨init, later, latestInit⟩
    rcases initializedHeld latestInit with ⟨inputs, execution, -, -, held⟩
    rw [idle] at held
    cases held
  · rintro ⟨parse, since, latest, uninitialized⟩
    rcases tracks.parsed latest with ⟨declaration, machine, -, -, known, idle, -⟩
    exact ⟨by rw [known]; rfl, idle uninitialized⟩

end Session

/-! ## Answers that depend on the lifecycle -/

/-- The requests about the execution of a file. -/
inductive Request.NeedsExecution (sourceFile : String) : Request → Prop
  | step : NeedsExecution sourceFile (.step ⟨sourceFile⟩)
  | getRuntimeState : NeedsExecution sourceFile (.getRuntimeState ⟨sourceFile⟩)
  | checkBreakpoint (typeId elementId : String) :
      NeedsExecution sourceFile (.checkBreakpoint ⟨sourceFile, typeId, elementId⟩)

/-- The requests about the machine of a file. -/
inductive Request.NeedsMachine (sourceFile : String) : Request → Prop
  | init (inputs : List String) : NeedsMachine sourceFile (.init ⟨sourceFile, inputs⟩)
  | ofExecution {request : Request} (needs : request.NeedsExecution sourceFile) :
      NeedsMachine sourceFile request

namespace Session

variable {ε : Type} {backend : Backend ε} {session : Session ε} {sourceFile : String}

theorem answer_of_unready {request : Request} (needs : request.NeedsExecution sourceFile)
    {error : SessionError} (unready : session.executionOf sourceFile = .error error) :
    (session.answer backend request).answer = .error error := by
  cases needs with
  | step => simp [answer, Reply.map, step_refused unready, refuse]
  | getRuntimeState => simp [answer, Reply.map, getRuntimeState_refused unready, refuse]
  | checkBreakpoint typeId elementId =>
      have refused := checkBreakpoint_refused backend ⟨sourceFile, typeId, elementId⟩ unready
      simp [answer, Reply.map, refused, refuse]

/-- With an execution at hand every failure is the engine's or one of rendering. -/
theorem answer_of_ready {request : Request} (needs : request.NeedsExecution sourceFile)
    {machine : Machine} {execution : ε}
    (ready : session.executionOf sourceFile = .ok (machine, execution)) {error : SessionError}
    (failed : (session.answer backend request).answer = .error error) :
    (∃ cause, error = .engine cause) ∨ ∃ cause, error = .tree cause := by
  cases needs with
  | step =>
      simp only [answer, Reply.map] at failed
      cases done : backend.engine.isDone execution with
      | true => simp [step_done ready done] at failed
      | false =>
          rw [(step_running ready done).1] at failed
          split at failed
          · cases failed
            exact .inl ⟨_, rfl⟩
          · cases failed
  | getRuntimeState =>
      simp only [answer, Reply.map, getRuntimeState_ready ready] at failed
      split at failed
      · cases failed
        exact .inr ⟨_, rfl⟩
      · cases failed
  | checkBreakpoint typeId elementId =>
      rcases checkBreakpoint_ready backend ⟨sourceFile, typeId, elementId⟩ ready with
        ⟨response, answered⟩
      simp [answer, Reply.map, answered] at failed

theorem answer_notParsed_iff {request : Request} (needs : request.NeedsMachine sourceFile) :
    (session.answer backend request).answer = .error (.notParsed sourceFile) ↔
      session.registry.get? sourceFile = none := by
  cases needs with
  | init inputs =>
      simp only [answer, Reply.map, init, machineOf]
      cases session.registry.get? sourceFile with
      | none => simp [refuse]
      | some machine =>
          cases started : backend.engine.start machine inputs <;> simp [refuse, started]
  | ofExecution needs =>
      cases outcome : session.executionOf sourceFile with
      | error error =>
          rw [answer_of_unready needs outcome]
          rcases executionOf_eq_error.mp outcome with ⟨absent, rfl⟩ | ⟨known, -, rfl⟩
          · simp [absent]
          · simp [Option.isSome_iff_ne_none.mp known]
      | ok pair =>
          rw [(executionOf_eq_ok.mp outcome).1]
          constructor
          · intro failed
            rcases answer_of_ready needs outcome failed with ⟨_, same⟩ | ⟨_, same⟩ <;> cases same
          · intro absent
            cases absent

theorem answer_notInitialized_iff {request : Request} (needs : request.NeedsExecution sourceFile) :
    (session.answer backend request).answer = .error (.notInitialized sourceFile) ↔
      (session.registry.get? sourceFile).isSome = true ∧
        session.executions.get? sourceFile = none := by
  cases outcome : session.executionOf sourceFile with
  | error error =>
      rw [answer_of_unready needs outcome]
      rcases executionOf_eq_error.mp outcome with ⟨absent, rfl⟩ | ⟨known, idle, rfl⟩
      · simp [absent]
      · simp [known, idle]
  | ok pair =>
      rw [(executionOf_eq_ok.mp outcome).2]
      constructor
      · intro failed
        rcases answer_of_ready needs outcome failed with ⟨_, same⟩ | ⟨_, same⟩ <;> cases same
      · rintro ⟨-, idle⟩
        cases idle

/-- A request leaves the entries of a file alone unless it is a step of the file, or
an accepted parse or initialization of it. -/
theorem answer_undisturbed (backend : Backend ε) (session : Session ε) (sourceFile : String)
    (request : Request) (notStep : request ≠ .step ⟨sourceFile⟩)
    (refused : request = .parse ⟨sourceFile⟩ ∨ (∃ inputs, request = .init ⟨sourceFile, inputs⟩) →
      ∃ error, (session.answer backend request).answer = .error error) :
    (session.answer backend request).session.registry.get? sourceFile =
        session.registry.get? sourceFile ∧
      (session.answer backend request).session.executions.get? sourceFile =
        session.executions.get? sourceFile := by
  cases answer_effect backend session sourceFile request with
  | parsed parsed =>
      rcases parsed with ⟨same, response, accepted⟩
      rcases refused (.inl same) with ⟨error, failed⟩
      cases accepted.symm.trans failed
  | initialized same accepted =>
      rcases accepted with ⟨response, accepted⟩
      rcases refused (.inr ⟨_, same⟩) with ⟨error, failed⟩
      cases accepted.symm.trans failed
  | stepped same => exact absurd same notStep
  | untouched _ _ _ registered held => exact ⟨registered, held⟩

/-- A session as the lifecycle of one file sees it: what it holds for the file, how
it answers requests about it, and which requests leave it alone. -/
structure FollowsLifecycle (backend : Backend ε) (past : List Exchange) (sourceFile : String)
    (session : Session ε) : Prop extends Tracks backend past sourceFile session where
  notParsed_iff : ∀ {request : Request}, request.NeedsMachine sourceFile →
    ((session.answer backend request).answer = .error (.notParsed sourceFile) ↔
      ∀ exchange ∈ past, ¬ exchange.Parsed sourceFile)
  notInitialized_iff : ∀ {request : Request}, request.NeedsExecution sourceFile →
    ((session.answer backend request).answer = .error (.notInitialized sourceFile) ↔
      ∃ parse since, Latest (Exchange.Parsed sourceFile) past parse since ∧
        ∀ exchange ∈ since, ¬ exchange.Initialized sourceFile)
  undisturbed : ∀ {request : Request}, request ≠ .step ⟨sourceFile⟩ →
    (request = .parse ⟨sourceFile⟩ ∨ (∃ inputs, request = .init ⟨sourceFile, inputs⟩) →
      ∃ error, (session.answer backend request).answer = .error error) →
    (session.answer backend request).session.registry.get? sourceFile =
        session.registry.get? sourceFile ∧
      (session.answer backend request).session.executions.get? sourceFile =
        session.executions.get? sourceFile

theorem run_followsLifecycle (backend : Backend ε) (requests : List Request)
    (sourceFile : String) :
    FollowsLifecycle backend (history backend {} requests) sourceFile
      (run backend {} requests).2 := by
  have tracks := (tracks_fresh backend sourceFile).run requests
  rw [List.nil_append] at tracks
  constructor
  case toTracks => exact tracks
  case notParsed_iff =>
    intro request needs
    rw [answer_notParsed_iff needs]
    exact tracks.absent_iff
  case notInitialized_iff =>
    intro request needs
    rw [answer_notInitialized_iff needs]
    exact tracks.idle_iff
  case undisturbed =>
    intro request notStep refused
    exact answer_undisturbed backend _ sourceFile request notStep refused

end Session

end Statechart
