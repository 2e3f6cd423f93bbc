import Statechart.Proofs.Record.Spelling
import Statechart.Proofs.Session.Parsing
import Statechart.Proofs.Session.Reporting

/-!
The switches of the configuration. How outputs are spelt and whether references are checked
does not show in what a session does: two sessions that are asked the same and nest equally
deep hold the same and answer the same, up to the key under which the trees of parsed sources
have the outputs of transitions.
-/

namespace Statechart

/-- A backend with another configuration. -/
def Backend.under {ε : Type} (backend : Backend ε) (configuration : Configuration) : Backend ε :=
  { backend with configuration }

/-- Two answers that are the same, or both the tree of a parsed source, each with its own
spelling of the outputs. -/
inductive SameAnswer (left right : OutputAttribute) :
    Except SessionError Response → Except SessionError Response → Prop
  | parsed {root : Record} (spelt : root.SpellsOutputs left.key)
      (speltToo : (root.respell left.key right.key).SpellsOutputs right.key) :
      SameAnswer left right (.ok (.parse ⟨root⟩))
        (.ok (.parse ⟨root.respell left.key right.key⟩))
  | same {answer : Except SessionError Response}
      (noTree : ∀ response, answer ≠ .ok (.parse response)) : SameAnswer left right answer answer

theorem SameAnswer.eq_of_spelling {spelling : OutputAttribute}
    {answer other : Except SessionError Response} (same : SameAnswer spelling spelling answer other) :
    answer = other := by
  cases same with
  | parsed => rw [Record.respell_self]
  | same => rfl

theorem sameAnswer_of_error {left right : OutputAttribute} (error : SessionError) :
    SameAnswer left right (.error error) (.error error) := by
  apply SameAnswer.same
  intro response same
  cases same

/-- Responses of another kind are no trees of parsed sources. -/
theorem sameAnswer_of_map {left right : OutputAttribute} {α : Type} {wrap : α → Response}
    (other : ∀ value response, wrap value ≠ .parse response) (outcome : Except SessionError α) :
    SameAnswer left right (wrap <$> outcome) (wrap <$> outcome) := by
  apply SameAnswer.same
  intro response same
  rcases map_eq_ok.mp same with ⟨value, -, parsed⟩
  exact other value response parsed

namespace Session

variable {ε : Type} {backend : Backend ε} {left right : Configuration}

/-! ## One request -/

/-- A usable machine is rendered under both configurations. -/
theorem renderMachine_respell (sameDepth : left.maxDepth = right.maxDepth) {machine : Machine}
    (usable : machine.Usable left.maxDepth.toNat) :
    ∃ root, renderMachine left machine = .ok root ∧
      renderMachine right machine =
        .ok (root.respell left.outputAttribute.key right.outputAttribute.key) := by
  have usableToo : machine.Usable right.maxDepth.toNat := sameDepth ▸ usable
  rcases renderMachine_of_usable usable with ⟨root, rendered⟩
  rcases renderMachine_of_usable usableToo with ⟨other, renderedToo⟩
  have respelt := Renderer.stateMachine_spelling (Renderer.ofConfiguration machine left)
    left.outputAttribute right.outputAttribute
  have isLeft : (Renderer.ofConfiguration machine left).spelling left.outputAttribute =
      Renderer.ofConfiguration machine left := rfl
  have isRight : (Renderer.ofConfiguration machine left).spelling right.outputAttribute =
      Renderer.ofConfiguration machine right := by
    rw [Renderer.ofConfiguration, Renderer.ofConfiguration, sameDepth]
    rfl
  rw [isLeft, isRight, renderMachine_eq_ok rendered, renderMachine_eq_ok renderedToo] at respelt
  cases respelt
  exact ⟨root, rendered, renderedToo⟩

/-- A machine that is built has as many elements as ids are given out for it. -/
theorem elementCount_of_built {session : Session ε} {arguments : ParseArguments}
    {declaration : MachineDeclaration} {machine : Machine}
    (parsed : backend.parser arguments.sourceFile = .ok declaration)
    (built : (declaration.build backend.configuration.maxDepth.toNat session.ids).1 = .ok machine) :
    declaration.elementCount = (session.mintedBy backend (.parse arguments)).length := by
  rw [mintedBy, parsed]
  dsimp only
  rw [← MachineDeclaration.machine_of_build built]
  exact (MachineDeclaration.build_eq_ok built).2.length_ids.symm

/-- Both configurations let the session go on in the same way, with the same answer. -/
def AnswersAlike (backend : Backend ε) (left right : Configuration) (session : Session ε)
    (request : Request) : Prop :=
  (session.answer (backend.under left) request).session =
      (session.answer (backend.under right) request).session ∧
    SameAnswer left.outputAttribute right.outputAttribute
      (session.answer (backend.under left) request).answer
      (session.answer (backend.under right) request).answer

theorem parse_alike (sameDepth : left.maxDepth = right.maxDepth) (session : Session ε)
    (arguments : ParseArguments)
    (few : (session.mintedBy (backend.under left) (.parse arguments)).length ≤ 2 ^ 64) :
    AnswersAlike backend left right session (.parse arguments) := by
  rw [AnswersAlike, answer, answer]
  cases parsed : backend.parser arguments.sourceFile with
  | error error =>
      have unread : ∀ configuration : Configuration,
          (backend.under configuration).parser arguments.sourceFile = .error error :=
        fun _ => parsed
      rw [parse_unread (unread left), parse_unread (unread right)]
      exact ⟨rfl, sameAnswer_of_error _⟩
  | ok declaration =>
      have read : ∀ configuration : Configuration,
          (backend.under configuration).parser arguments.sourceFile = .ok declaration :=
        fun _ => parsed
      rcases built : declaration.build left.maxDepth.toNat session.ids with ⟨outcome, ids⟩
      have builtToo : declaration.build right.maxDepth.toNat session.ids = (outcome, ids) :=
        sameDepth ▸ built
      cases outcome with
      | error error =>
          rw [parse_unbuilt (read left) built, parse_unbuilt (read right) builtToo]
          exact ⟨rfl, sameAnswer_of_error _⟩
      | ok machine =>
          have accepted : (declaration.build left.maxDepth.toNat session.ids).1 = .ok machine :=
            congrArg Prod.fst built
          have usable := MachineDeclaration.usable_of_build accepted
            ((elementCount_of_built (read left) accepted).trans_le few)
          rcases renderMachine_respell sameDepth usable with ⟨root, rendered, renderedToo⟩
          rcases parse_of_rendered (read left) built rendered with ⟨answered, after⟩
          rcases parse_of_rendered (read right) builtToo renderedToo with ⟨answeredToo, afterToo⟩
          rcases parse_shows answered with ⟨_, _, -, -, -, _, -, related⟩
          rcases parse_shows answeredToo with ⟨_, _, -, -, -, _, -, relatedToo⟩
          have spelt := spellsOutputs_of_shows related
          have speltToo := spellsOutputs_of_shows relatedToo
          rw [Reply.map, Reply.map, after, afterToo, answered, answeredToo]
          exact ⟨rfl, .parsed spelt speltToo⟩

theorem getRuntimeState_under (session : Session ε) (arguments : GetRuntimeStateArguments) :
    session.getRuntimeState (backend.under left) arguments =
      session.getRuntimeState (backend.under right) arguments := by
  simp only [getRuntimeState, renderSnapshot_eq]
  rfl

/-- Only parsing looks at the configuration in a way that can be seen. -/
theorem answer_alike (sameDepth : left.maxDepth = right.maxDepth) (session : Session ε)
    (request : Request)
    (few : (session.mintedBy (backend.under left) request).length ≤ 2 ^ 64) :
    AnswersAlike backend left right session request := by
  cases request with
  | parse arguments => exact parse_alike sameDepth session arguments few
  | getRuntimeState arguments =>
      have same : session.getRuntimeState (backend.under left) arguments =
          session.getRuntimeState (backend.under right) arguments :=
        getRuntimeState_under session arguments
      simp only [AnswersAlike, answer, same]
      exact ⟨trivial, sameAnswer_of_map (fun _ _ same => by cases same) _⟩
  | init | step | getBreakpointTypes | checkBreakpoint =>
      exact ⟨rfl, sameAnswer_of_map (fun _ _ same => by cases same) _⟩

/-! ## A whole run -/

theorem run_alike (sameDepth : left.maxDepth = right.maxDepth) (session : Session ε)
    (requests : List Request)
    (few : ((session.ledger (backend.under left) requests).flatMap (·.minted)).length ≤ 2 ^ 64) :
    (session.run (backend.under left) requests).2 = (session.run (backend.under right) requests).2 ∧
      List.Forall₂ (SameAnswer left.outputAttribute right.outputAttribute)
        (session.run (backend.under left) requests).1
        (session.run (backend.under right) requests).1 := by
  induction requests generalizing session with
  | nil => exact ⟨rfl, .nil⟩
  | cons request requests induction =>
      rw [ledger, List.flatMap_cons, List.length_append] at few
      have first : AnswersAlike backend left right session request :=
        answer_alike sameDepth session request (Nat.le_trans (Nat.le_add_right _ _) few)
      rcases first with ⟨sameSession, sameAnswer⟩
      rcases induction _ (Nat.le_trans (Nat.le_add_left _ _) few) with ⟨sameEnd, sameAnswers⟩
      rw [run, run, ← sameSession]
      exact ⟨sameEnd, .cons sameAnswer sameAnswers⟩

/-- The switches change nothing that a session holds and nothing that it answers except the
one key, and the check of references by itself changes no answer at all. -/
theorem run_indifferent_to_switches (backend : Backend ε) {left right : Configuration}
    (sameDepth : left.maxDepth = right.maxDepth) (requests : List Request)
    (few : ((ledger (backend.under left) {} requests).flatMap (·.minted)).length < 2 ^ 64) :
    (run (backend.under left) {} requests).2 = (run (backend.under right) {} requests).2 ∧
      List.Forall₂ (SameAnswer left.outputAttribute right.outputAttribute)
        (run (backend.under left) {} requests).1 (run (backend.under right) {} requests).1 ∧
      (left.outputAttribute = right.outputAttribute →
        (run (backend.under left) {} requests).1 = (run (backend.under right) {} requests).1) := by
  rcases run_alike sameDepth {} requests (Nat.le_of_lt few) with ⟨sameSession, sameAnswers⟩
  refine ⟨sameSession, sameAnswers, ?_⟩
  intro sameSpelling
  rw [sameSpelling] at sameAnswers
  exact List.forall₂_eq_eq_eq ▸ sameAnswers.imp fun _ _ => SameAnswer.eq_of_spelling

/-- One session checks references and writes the key as front-ends in use read it, the
other does neither. -/
theorem run_indifferent_to_switches_door :
    let push : TransitionDeclaration := { source := "shut", target := "open", input := some "push" }
    let declaration : MachineDeclaration :=
      { name := "door", initial := some "shut"
        states := [{ name := some "shut", transitions := [push] },
          { name := some "open", isFinal := true }] }
    let backend : Backend InputRun := { parser := fun _ => .ok declaration, engine := .inputDriven }
    let left : Configuration := { outputAttribute := .corrected, validateReferences := false }
    let requests : List Request := [.parse ⟨"door"⟩, .init ⟨"door", ["push"]⟩, .step ⟨"door"⟩,
      .getRuntimeState ⟨"door"⟩]
    (run (backend.under left) {} requests).2 = (run (backend.under {}) {} requests).2 ∧
      ∃ root, (run (backend.under left) {} requests).1.head? = some (.ok (.parse ⟨root⟩)) ∧
        root.SpellsOutputs "output" ∧
        (run (backend.under {}) {} requests).1.head? =
          some (.ok (.parse ⟨root.respell "output" "ouptut"⟩)) := by
  intro push declaration backend left requests
  have few : ((ledger (backend.under left) {} requests).flatMap (·.minted)).length < 2 ^ 64 := by
    decide +kernel
  have parsed : (parse (backend.under left) ⟨"door"⟩ {}).answer.isOk = true := by decide +kernel
  rcases exists_of_isOk parsed with ⟨⟨root⟩, answered⟩
  have first : (answer (backend.under left) {} (.parse ⟨"door"⟩)).answer = .ok (.parse ⟨root⟩) :=
    congrArg (Response.parse <$> ·) answered
  have sameDepth : left.maxDepth = ({} : Configuration).maxDepth := rfl
  rcases run_indifferent_to_switches backend sameDepth requests few with ⟨sameSession, alike, -⟩
  have headed : (run (backend.under left) {} requests).1 =
      .ok (.parse ⟨root⟩) :: (run (backend.under left) {} requests).1.tail := by
    rw [← first]
    rfl
  rw [headed] at alike
  rcases List.forall₂_cons_left_iff.mp alike with ⟨other, others, sameFirst, -, split⟩
  refine ⟨sameSession, root, by rw [headed]; rfl, ?_⟩
  rw [split]
  cases sameFirst with
  | parsed spelt => exact ⟨spelt, rfl⟩
  | same noTree => exact absurd rfl (noTree _)

end Session

end Statechart
