import Statechart.Proofs.Session.Scope

/-!
Asking the engine about a breakpoint. The engine is asked about elements of the types that
the declared kind of breakpoint takes, and about nothing else: whatever it would say, a
request that it is not meant for is answered without it.
-/

namespace Statechart

/-! ## First items -/

/-- The item has what is wanted, and none of those in front of it does. -/
def IsFirst {α : Type} (wanted : α → Prop) (items : List α) (item : α) : Prop :=
  ∃ before after, items = before ++ item :: after ∧ wanted item ∧ ∀ earlier ∈ before, ¬ wanted earlier

theorem find?_eq_some_iff_isFirst {α : Type} {key : α → String} {wanted : String} {items : List α}
    {item : α} :
    items.find? (key · == wanted) = some item ↔ IsFirst (key · = wanted) items item := by
  rw [List.find?_eq_some_iff_append, IsFirst]
  constructor
  · rintro ⟨same, before, after, split, different⟩
    exact ⟨before, after, split, eq_of_beq same, by simpa using different⟩
  · rintro ⟨before, after, split, same, different⟩
    exact ⟨beq_iff_eq.mpr same, before, after, split, by simpa using different⟩

/-- The position of the first item, looked for among all positions. -/
theorem find?_range_eq_findIdx? {α : Type} (test : α → Bool) (items : List α)
    {testAt : Nat → Bool} (reads : ∀ index (inRange : index < items.length),
      testAt index = test items[index]) :
    (List.range items.length).find? testAt = items.findIdx? test := by
  apply Option.ext
  intro index
  rw [List.find?_range_eq_some, List.findIdx?_eq_some_iff_getElem]
  constructor
  · rintro ⟨holds, inRange, earlier⟩
    have inRange := List.mem_range.mp inRange
    refine ⟨inRange, (reads index inRange) ▸ holds, fun other before => ?_⟩
    have refuted := earlier other before
    rw [reads other (Nat.lt_trans before inRange)] at refuted
    simpa using refuted
  · rintro ⟨inRange, holds, earlier⟩
    refine ⟨(reads index inRange).trans holds, List.mem_range.mpr inRange, fun other before => ?_⟩
    rw [reads other (Nat.lt_trans before inRange)]
    simpa using earlier other before

namespace Machine

/-- An id is looked up in the machine itself, then among the states, then among the
transitions. -/
theorem findElement_eq_find? (machine : Machine) (id : String) :
    machine.findElement id = machine.elements.find? (machine.idOf · == id) := by
  have inStates : (List.range machine.states.length).find? (machine.stateId · == id) =
      machine.findState id := by
    apply find?_range_eq_findIdx?
    intro index inRange
    rw [stateId_of_state? (List.getElem?_eq_getElem inRange)]
  have inTransitions : (List.range machine.transitions.length).find?
      (machine.transitionId · == id) = machine.findTransition id := by
    apply find?_range_eq_findIdx?
    intro index inRange
    rw [transitionId_of_transition? (List.getElem?_eq_getElem inRange)]
  have ofStates : ((machine.idOf · == id) ∘ Element.state) = (machine.stateId · == id) := rfl
  have ofTransitions :
      ((machine.idOf · == id) ∘ Element.transition) = (machine.transitionId · == id) := rfl
  rw [elements, List.find?_cons, List.find?_append, List.find?_map, List.find?_map, ofStates,
    ofTransitions, inStates, inTransitions, findElement]
  cases own : machine.id == id with
  | true => simp [idOf, eq_of_beq own]
  | false =>
      have different : machine.id ≠ id := by simpa using own
      cases machine.findState id <;> simp [idOf, own, different]

theorem findElement_eq_some_iff_isFirst {machine : Machine} {id : String} {element : Element} :
    machine.findElement id = some element ↔ IsFirst (machine.idOf · = id) machine.elements element := by
  rw [findElement_eq_find?]
  exact find?_eq_some_iff_isFirst

end Machine

/-! ## What the engine is meant for -/

section Precondition

variable (types : List BreakpointType) (machine : Machine) (typeId elementId : String)

/-- The id stands for the element, and the first kind of that name takes such elements. -/
structure Concerns (element : Element) : Prop where
  named : IsFirst (machine.idOf · = elementId) machine.elements element
  taken : ∃ kind, IsFirst (·.id = typeId) types kind ∧
    ∃ parameter ∈ kind.parameters, parameter.objectType = some element.typeTag

/-- Why a request is none for the engine. A later reason is only given where the earlier ones
do not hold. -/
inductive Unconcerned : String → Prop
  | unknownType (undeclared : ∀ kind ∈ types, kind.id ≠ typeId) :
      Unconcerned ("unknown breakpoint type: " ++ typeId)
  | unknownElement {kind : BreakpointType} (declared : IsFirst (·.id = typeId) types kind)
      (unnamed : ∀ element ∈ machine.elements, machine.idOf element ≠ elementId) :
      Unconcerned ("unknown element: " ++ elementId)
  | inapplicable {kind : BreakpointType} {element : Element}
      (declared : IsFirst (·.id = typeId) types kind)
      (named : IsFirst (machine.idOf · = elementId) machine.elements element)
      (untaken : ∀ parameter ∈ kind.parameters, parameter.objectType ≠ some element.typeTag) :
      Unconcerned ("breakpoint " ++ typeId ++ " does not apply to " ++ element.typeTag)

end Precondition

theorem BreakpointType.accepts_eq_true {kind : BreakpointType} {tag : String} :
    kind.accepts tag = true ↔ ∃ parameter ∈ kind.parameters, parameter.objectType = some tag := by
  simp [accepts]

theorem concerns_iff {types : List BreakpointType} {machine : Machine} {typeId elementId : String}
    {element : Element} :
    Concerns types machine typeId elementId element ↔
      machine.findElement elementId = some element ∧
        ∃ kind, BreakpointType.find? types typeId = some kind ∧
          kind.accepts element.typeTag = true := by
  simp only [Machine.findElement_eq_some_iff_isFirst, BreakpointType.find?,
    find?_eq_some_iff_isFirst, BreakpointType.accepts_eq_true]
  exact ⟨fun concerns => ⟨concerns.named, concerns.taken⟩, fun both => ⟨both.1, both.2⟩⟩

theorem BreakpointType.id_of_find? {types : List BreakpointType} {typeId : String}
    {kind : BreakpointType} (declared : find? types typeId = some kind) : kind.id = typeId := by
  simpa using List.find?_some declared

/-! ## One request under any judgement -/

/-- The judgement of an engine on a machine, an execution of it, a kind of breakpoint and an
element. -/
abbrev Judge (ε : Type) := Machine → ε → String → Element → CheckBreakpointResponse

/-- A backend whose engine judges breakpoints in another way. -/
def Backend.judging {ε : Type} (backend : Backend ε) (judge : Judge ε) : Backend ε :=
  { backend with engine := { backend.engine with checkBreakpoint := judge } }

namespace Session

variable {ε : Type} {backend : Backend ε} {session : Session ε} {machine : Machine} {execution : ε}
  {sourceFile typeId elementId : String}

theorem checkBreakpoint_concerned {element : Element}
    (ready : session.executionOf sourceFile = .ok (machine, execution))
    (concerns : Concerns backend.engine.breakpointTypes machine typeId elementId element) :
    (session.checkBreakpoint backend ⟨sourceFile, typeId, elementId⟩).answer =
      .ok (backend.engine.checkBreakpoint machine execution typeId element) := by
  obtain ⟨found, kind, declared, accepted⟩ := concerns_iff.mp concerns
  rw [checkBreakpoint_known ready declared found, knownElement, if_pos accepted,
    BreakpointType.id_of_find? declared]

/-- Whatever the engine would say, it is not asked. -/
theorem checkBreakpoint_unconcerned {reason : String}
    (ready : session.executionOf sourceFile = .ok (machine, execution))
    (unconcerned : Unconcerned backend.engine.breakpointTypes machine typeId elementId reason) :
    (session.checkBreakpoint backend ⟨sourceFile, typeId, elementId⟩).answer =
      .ok (.rejected reason) := by
  cases unconcerned with
  | unknownType undeclared =>
      have absent : BreakpointType.find? backend.engine.breakpointTypes typeId = none := by
        simpa [BreakpointType.find?] using undeclared
      simp only [checkBreakpoint, ready, absent]
  | unknownElement declared unnamed =>
      have declared : BreakpointType.find? backend.engine.breakpointTypes typeId = some _ :=
        find?_eq_some_iff_isFirst.mpr declared
      have absent : machine.findElement elementId = none := by
        rw [Machine.findElement_eq_find?]
        simpa using unnamed
      rw [checkBreakpoint_unknown ready declared absent, Session.unknownElement]
  | @inapplicable kind element first named untaken =>
      have declared : BreakpointType.find? backend.engine.breakpointTypes typeId = some kind :=
        find?_eq_some_iff_isFirst.mpr first
      have found := Machine.findElement_eq_some_iff_isFirst.mpr named
      have refused : ¬ kind.accepts element.typeTag = true := by
        rw [BreakpointType.accepts_eq_true]
        rintro ⟨parameter, member, takes⟩
        exact untaken parameter member takes
      rw [checkBreakpoint_known ready declared found, knownElement, if_neg refused,
        BreakpointType.id_of_find? declared]

end Session

/-- A request concerns one element, or there is a reason why it concerns none. -/
theorem concerns_or_unconcerned (types : List BreakpointType) (machine : Machine)
    (typeId elementId : String) :
    (∃ element, Concerns types machine typeId elementId element) ∨
      ∃ reason, Unconcerned types machine typeId elementId reason := by
  cases declared : types.find? (·.id == typeId) with
  | none => exact .inr ⟨_, .unknownType (by simpa using declared)⟩
  | some kind =>
      have first := find?_eq_some_iff_isFirst.mp declared
      cases found : machine.findElement elementId with
      | none =>
          rw [Machine.findElement_eq_find?] at found
          exact .inr ⟨_, .unknownElement first (by simpa using found)⟩
      | some element =>
          have named := Machine.findElement_eq_some_iff_isFirst.mp found
          by_cases taken : ∃ parameter ∈ kind.parameters, parameter.objectType = some element.typeTag
          · exact .inl ⟨element, named, kind, first, taken⟩
          · refine .inr ⟨_, .inapplicable first named fun parameter member takes => ?_⟩
            exact taken ⟨parameter, member, takes⟩

/-! ## A whole session -/

namespace Session

variable {ε : Type}

theorem answer_judging (backend : Backend ε) (judge : Judge ε) (session : Session ε)
    (request : Request) :
    (session.answer (backend.judging judge) request).session =
      (session.answer backend request).session := by
  cases request with
  | checkBreakpoint arguments =>
      exact (checkBreakpoint_session (backend.judging judge) session arguments).trans
        (checkBreakpoint_session backend session arguments).symm
  | parse | init | step | getRuntimeState | getBreakpointTypes => rfl

/-- What the engine says about breakpoints makes no difference to what a session holds. -/
theorem run_judging (backend : Backend ε) (judge : Judge ε) (session : Session ε)
    (requests : List Request) :
    (session.run (backend.judging judge) requests).2 = (session.run backend requests).2 := by
  induction requests generalizing session with
  | nil => rfl
  | cons request requests induction =>
      rw [run, run, ← answer_judging backend judge]
      exact induction _

/-- The reply to a last request about a breakpoint, if the engine judges in some way. -/
def replyJudging (backend : Backend ε) (requests : List Request)
    (arguments : CheckBreakpointArguments) (judge : Judge ε) : Reply ε CheckBreakpointResponse :=
  (run (backend.judging judge) {} requests).2.checkBreakpoint (backend.judging judge) arguments

section Ready

variable {backend : Backend ε} {requests : List Request} {machine : Machine} {execution : ε}
  {sourceFile typeId elementId : String}
  (ready : (run backend {} requests).2.executionOf sourceFile = .ok (machine, execution))

include ready

theorem replyJudging_concerned {element : Element}
    (concerns : Concerns backend.engine.breakpointTypes machine typeId elementId element)
    (judge : Judge ε) :
    (replyJudging backend requests ⟨sourceFile, typeId, elementId⟩ judge).answer =
      .ok (judge machine execution typeId element) := by
  rw [← run_judging backend judge] at ready
  exact checkBreakpoint_concerned ready concerns

theorem replyJudging_unconcerned {reason : String}
    (unconcerned : Unconcerned backend.engine.breakpointTypes machine typeId elementId reason)
    (judge : Judge ε) :
    (replyJudging backend requests ⟨sourceFile, typeId, elementId⟩ judge).answer =
      .ok (.rejected reason) := by
  rw [← run_judging backend judge] at ready
  exact checkBreakpoint_unconcerned ready unconcerned

/-- Only a request that concerns an element is answered by what the engine says about it. -/
theorem concerns_of_replyJudging {element : Element}
    (asked : ∀ judge : Judge ε,
      (replyJudging backend requests ⟨sourceFile, typeId, elementId⟩ judge).answer =
        .ok (judge machine execution typeId element)) :
    Concerns backend.engine.breakpointTypes machine typeId elementId element := by
  rcases concerns_or_unconcerned backend.engine.breakpointTypes machine typeId elementId with
    ⟨other, concerns⟩ | ⟨reason, unconcerned⟩
  · -- An engine that fires on this element only tells it apart from every other one.
    let judge : Judge ε := fun _ _ _ candidate => ⟨decide (candidate = element), none⟩
    have answered := (replyJudging_concerned ready concerns judge).symm.trans (asked judge)
    have same : other = element := by simpa [judge] using answered
    exact same ▸ concerns
  · let judge : Judge ε := fun _ _ _ _ => ⟨true, none⟩
    have answered := (replyJudging_unconcerned ready unconcerned judge).symm.trans (asked judge)
    cases answered

end Ready

/-- After any requests, the engine is asked about a breakpoint in a file that is parsed and
started exactly when the first kind of that name has a parameter for elements of the type of
the element that the id stands for. Then its word is the answer. Otherwise the answer is a
rejection that tells the first thing that is wrong. Nothing that the session holds changes. -/
theorem engine_asked_exactly_when_concerned (backend : Backend ε) (requests : List Request)
    {machine : Machine} {execution : ε} {sourceFile : String}
    (registered : (run backend {} requests).2.registry.get? sourceFile = some machine)
    (held : (run backend {} requests).2.executions.get? sourceFile = some execution)
    (typeId elementId : String) :
    let types := backend.engine.breakpointTypes
    let reply := replyJudging backend requests ⟨sourceFile, typeId, elementId⟩
    (∀ element, (∀ judge, (reply judge).answer = .ok (judge machine execution typeId element)) ↔
      Concerns types machine typeId elementId element) ∧
    ((∀ element, ¬ Concerns types machine typeId elementId element) →
      ∃ reason, Unconcerned types machine typeId elementId reason ∧
        ∀ judge, (reply judge).answer = .ok { isActivated := false, message := some reason }) ∧
    ∀ judge, (reply judge).session = (run backend {} requests).2 := by
  intro types reply
  have ready := executionOf_eq_ok.mpr ⟨registered, held⟩
  refine ⟨?asked, ?rejected, ?unchanged⟩
  case asked =>
    intro element
    exact ⟨concerns_of_replyJudging ready, replyJudging_concerned ready⟩
  case rejected =>
    intro concernsNone
    rcases concerns_or_unconcerned types machine typeId elementId with
      ⟨element, concerns⟩ | ⟨reason, unconcerned⟩
    · exact absurd concerns (concernsNone element)
    · exact ⟨reason, unconcerned, replyJudging_unconcerned ready unconcerned⟩
  case unchanged =>
    intro judge
    rw [← run_judging backend judge]
    exact checkBreakpoint_session (backend.judging judge) _ _

/-- An engine that declares two kinds under one name, the first with a number and a transition
as its parameters, is asked about a transition and not about a state. -/
theorem engine_asked_exactly_when_concerned_door :
    let push : TransitionDeclaration := { source := "shut", target := "open", input := some "push" }
    let declaration : MachineDeclaration :=
      { name := "door", initial := some "shut"
        states := [{ name := some "shut", transitions := [push] }, { name := some "open" }] }
    let types : List BreakpointType := [
      { id := "counts", parameters := [.primitive "limit" .number] },
      { id := "fires",
        parameters := [.primitive "limit" .number, .object "transition" transitionType] },
      { id := "fires", parameters := [.object "state" stateType] }]
    let backend : Backend InputRun :=
      { parser := fun _ => .ok declaration
        engine := { Engine.inputDriven with breakpointTypes := types } }
    let requests : List Request := [.parse ⟨"door"⟩, .init ⟨"door", ["push"]⟩]
    ∃ machine execution,
      (∀ judge, (replyJudging backend requests ⟨"door", "fires", "transition-3"⟩ judge).answer =
        .ok (judge machine execution "fires" (.transition 0))) ∧
      ∃ reason, ∀ judge, (replyJudging backend requests ⟨"door", "fires", "state-1"⟩ judge).answer =
        .ok { isActivated := false, message := some reason } := by
  intro push declaration types backend requests
  let session := (run backend {} requests).2
  have parsed : (session.registry.get? "door").isSome = true := by decide +kernel
  have started : (session.executions.get? "door").isSome = true := by decide +kernel
  obtain ⟨machine, registered⟩ := Option.isSome_iff_exists.mp parsed
  obtain ⟨execution, held⟩ := Option.isSome_iff_exists.mp started
  have asked := engine_asked_exactly_when_concerned backend requests registered held "fires"
  have firing : (session.registry.get? "door").bind (·.findElement "transition-3") =
      some (.transition 0) := by decide +kernel
  have shut : (session.registry.get? "door").bind (·.findElement "state-1") = some (.state 0) := by
    decide +kernel
  rw [registered, Option.bind_some] at firing shut
  have concerned : Concerns types machine "fires" "transition-3" (.transition 0) :=
    concerns_iff.mpr ⟨firing, _, rfl, by decide⟩
  have concernsNone : ∀ element, ¬ Concerns types machine "fires" "state-1" element := by
    intro element concerns
    obtain ⟨found, kind, declared, accepted⟩ := concerns_iff.mp concerns
    cases shut.symm.trans found
    cases declared
    revert accepted
    decide
  obtain ⟨reason, -, rejected⟩ := (asked "state-1").2.1 concernsNone
  exact ⟨machine, execution, ((asked "transition-3").1 _).mpr concerned, reason, rejected⟩

end Session

end Statechart
