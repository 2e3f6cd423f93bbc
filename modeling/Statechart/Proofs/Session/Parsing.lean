import Statechart.Engine.InputDriven
import Statechart.Proofs.Declaration.Usability
import Statechart.Proofs.Session.Effect

/-!
Parsing. Whatever the builder lets through the renderer and the checks let through
as well, so a source that cannot be parsed is one that the parser or the builder
refuses.
-/

namespace Statechart

namespace Session

variable {ε : Type}

theorem renderMachine_of_usable {machine : Machine} {configuration : Configuration}
    (usable : machine.Usable configuration.maxDepth.toNat) :
    ∃ root, renderMachine configuration machine = .ok root := by
  rcases usable.renders configuration (Nat.le_refl _) with ⟨root, rendered, accepted⟩
  refine ⟨root, ?_⟩
  rw [renderMachine, rendered, ok_bind]
  cases configuration.validateReferences with
  | false => rfl
  | true => simp [accepted, pure, Except.pure]

/-- The parser refuses a source, or the builder refuses its declaration. -/
def ParseFails (backend : Backend ε) (session : Session ε) (sourceFile : String)
    (failure : BuildError) : Prop :=
  backend.parser sourceFile = .error failure ∨
    ∃ declaration, backend.parser sourceFile = .ok declaration ∧
      (declaration.build backend.configuration.maxDepth.toNat session.ids).1 = .error failure

theorem parse_eq_error {backend : Backend ε} {session : Session ε} {arguments : ParseArguments}
    (room : ∀ declaration, backend.parser arguments.sourceFile = .ok declaration →
      declaration.elementCount ≤ 2 ^ 64) {error : SessionError} :
    (session.parse backend arguments).answer = .error error ↔
      ∃ failure, error = .build failure ∧ session.ParseFails backend arguments.sourceFile failure := by
  constructor
  · intro refused
    unfold parse at refused
    dsimp only at refused
    split at refused
    case h_1 failure parsed =>
      cases refused
      exact ⟨failure, rfl, .inl parsed⟩
    case h_2 declaration parsed =>
      split at refused
      case h_1 failure ids built =>
        cases refused
        exact ⟨failure, rfl, .inr ⟨declaration, parsed, congrArg Prod.fst built⟩⟩
      case h_2 machine ids built =>
        have usable := MachineDeclaration.usable_of_build (congrArg Prod.fst built)
          (room declaration parsed)
        rcases renderMachine_of_usable usable with ⟨root, rendered⟩
        rw [rendered] at refused
        cases refused
  · intro fails
    rcases fails with ⟨failure, rfl, parserFails | ⟨declaration, parsed, builderFails⟩⟩
    · rw [parse_unread parserFails]
      rfl
    · rcases built : declaration.build backend.configuration.maxDepth.toNat session.ids with
        ⟨outcome, ids⟩
      rw [built] at builderFails
      cases builderFails
      rw [parse_unbuilt parsed built]
      rfl

/-- Builder, resolution, renderer and checks agree. What is built can be entered
everywhere, rendered and sent; a declaration that would not fit is refused while it
is built, by a check of the builder and never by a step of the construction. The
only demand is that the ids of one machine do not run out of numbers, wherever the
source of ids stands. -/
theorem builder_agrees_with_renderer :
    (∀ (declaration : MachineDeclaration) (maxDepth : Nat) (ids : IdSource) (machine : Machine),
      declaration.elementCount ≤ 2 ^ 64 →
        (declaration.build maxDepth ids).1 = .ok machine → machine.Usable maxDepth) ∧
    (∀ (declaration : MachineDeclaration) (maxDepth : Nat) (ids : IdSource)
      (failure : ConstructionError),
      (declaration.build maxDepth ids).1 ≠ .error (.construction failure)) ∧
    ∀ (ε : Type) (backend : Backend ε) (session : Session ε) (arguments : ParseArguments),
      (∀ declaration, backend.parser arguments.sourceFile = .ok declaration →
        declaration.elementCount ≤ 2 ^ 64) →
      ∀ error, (session.parse backend arguments).answer = .error error ↔
        ∃ failure, error = .build failure ∧
          session.ParseFails backend arguments.sourceFile failure := by
  refine ⟨?_, ?_, ?_⟩
  · intro declaration maxDepth ids machine room built
    rcases MachineDeclaration.build_eq_ok built with ⟨sound, realizes⟩
    exact realizes.usable (MachineDeclaration.firstDefect_eq_none.mp sound) room
  · intro declaration maxDepth ids failure refused
    exact declaration.firstDefect_ne_construction failure maxDepth
      (MachineDeclaration.build_eq_error.mp refused)
  · intro ε backend session arguments room error
    exact parse_eq_error room

/-- A composite with a transition that leaves it for a final state, under the least
ceiling that takes it, with exactly as many numbers left as there are ids. -/
theorem builder_agrees_with_renderer_door :
    let push : TransitionDeclaration := { source := "shut", target := "open", input := some "push" }
    let declaration : MachineDeclaration :=
      { name := "door", initial := some "closed"
        states := [
          { name := some "closed", initial := some "locked"
            states := [{ name := some "locked" }, { name := some "shut", transitions := [push] }] },
          { name := some "open", isFinal := true }] }
    let ids : IdSource := ⟨UInt64.ofNat (2 ^ 64 - 6)⟩
    let backend : Backend InputRun :=
      { configuration := { maxDepth := 1 }, parser := fun _ => .ok declaration
        engine := .inputDriven }
    declaration.elementCount = 6 ∧
      (∃ machine, (declaration.build 1 ids).1 = .ok machine ∧ machine.Usable 1) ∧
      (∀ failure, (declaration.build 0 ids).1 ≠ .error (.construction failure)) ∧
      ∀ error, (parse backend ⟨"door"⟩ { ids }).answer ≠ .error (.tree error) := by
  intro push declaration ids backend
  have count : declaration.elementCount = 6 := rfl
  have room : declaration.elementCount ≤ 2 ^ 64 := by
    rw [count]
    decide
  have sound : declaration.firstDefect 1 = none := rfl
  have builds := declaration.build_decides 1 ids
  rw [sound] at builds
  rcases builds with ⟨machine, built, -⟩
  refine ⟨count, ⟨machine, built, ?_⟩, ?_, ?_⟩
  · exact builder_agrees_with_renderer.1 declaration 1 ids machine room built
  · exact builder_agrees_with_renderer.2.1 declaration 0 ids
  · intro error refused
    have parserRoom : ∀ given, backend.parser "door" = .ok given → given.elementCount ≤ 2 ^ 64 := by
      intro given parsed
      cases parsed
      exact room
    rcases (builder_agrees_with_renderer.2.2 InputRun backend { ids } ⟨"door"⟩ parserRoom _).mp
      refused with ⟨_, different, _⟩
    cases different

end Session

end Statechart
