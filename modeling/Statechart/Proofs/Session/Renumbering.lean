import Statechart.Proofs.Declaration.Renaming
import Statechart.Proofs.Record.Renaming
import Statechart.Proofs.Session.Parsing
import Statechart.Proofs.Session.Response

/-!
Parsing again. What a session makes of a declaration depends on the source of its ids in
nothing but the numbers of the ids: wherever the source stands, the declaration is refused
for the same reason or sent as the same tree of records, and as many ids are used up.
-/

namespace Statechart

namespace MachineDeclaration

/-- The record that is sent for a declaration, or why there is none, with the ids left
afterwards. -/
def document (declaration : MachineDeclaration) (configuration : Configuration) (ids : IdSource) :
    Except SessionError Record × IdSource :=
  let (outcome, left) := declaration.build configuration.maxDepth.toNat ids
  let answer := do
    let machine ← outcome.mapError SessionError.build
    (Session.renderMachine configuration machine).mapError SessionError.tree
  (answer, left)

variable {declaration : MachineDeclaration} {configuration : Configuration} {ids other : IdSource}

theorem document_of_unbuilt {error : BuildError}
    (refused : (declaration.build configuration.maxDepth.toNat ids).1 = .error error) :
    (declaration.document configuration ids).1 = .error (.build error) := by
  rw [document]
  dsimp only
  rw [refused]
  rfl

theorem document_of_built {machine : Machine}
    (built : (declaration.build configuration.maxDepth.toNat ids).1 = .ok machine) :
    (declaration.document configuration ids).1 =
      (Session.renderMachine configuration machine).mapError .tree := by
  rw [document]
  dsimp only
  rw [built]
  rfl

theorem document_ids : (declaration.document configuration ids).2 =
    (declaration.build configuration.maxDepth.toNat ids).2 := rfl

end MachineDeclaration

namespace Session

/-- A request to parse is answered with the document of what the parser reads. -/
theorem parse_document {ε : Type} {backend : Backend ε} {session : Session ε}
    {arguments : ParseArguments} {declaration : MachineDeclaration}
    (parsed : backend.parser arguments.sourceFile = .ok declaration) :
    let document := declaration.document backend.configuration session.ids
    (session.parse backend arguments).answer = ParseResponse.mk <$> document.1 ∧
      (session.parse backend arguments).session.ids = document.2 := by
  rcases built : declaration.build backend.configuration.maxDepth.toNat session.ids with
    ⟨outcome, left⟩
  have leftover : (declaration.document backend.configuration session.ids).2 = left := by
    rw [MachineDeclaration.document_ids, built]
  have made := congrArg Prod.fst built
  cases outcome with
  | error error =>
      intro document
      rw [parse_unbuilt parsed built, MachineDeclaration.document_of_unbuilt made, leftover]
      exact ⟨rfl, rfl⟩
  | ok machine =>
      intro document
      rw [MachineDeclaration.document_of_built made, leftover]
      cases rendered : renderMachine backend.configuration machine <;>
        simp [parse, parsed, built, rendered, Except.mapError]

/-- What can be rendered and sent is sent with other ids in the same way. -/
theorem renderMachine_renameIds {configuration : Configuration} {machine : Machine}
    {rename : String → String} (empty : rename "" = "")
    (usable : machine.Usable configuration.maxDepth.toNat)
    (usableToo : (machine.renameIds rename).Usable configuration.maxDepth.toNat) :
    ∃ root, renderMachine configuration machine = .ok root ∧
      renderMachine configuration (machine.renameIds rename) = .ok (root.renameIds rename) := by
  rcases renderMachine_of_usable usable with ⟨root, rendered⟩
  rcases renderMachine_of_usable usableToo with ⟨renamed, renderedToo⟩
  have same := Renderer.stateMachine_renameIds empty (renderMachine_eq_ok rendered)
  have isRenamed := renderMachine_eq_ok renderedToo
  cases same.symm.trans isRenamed
  exact ⟨root, rendered, renderedToo⟩

end Session

open IdSource

/-- Wherever the source of ids stands, if only its numbers do not run out, a declaration is
refused for the same reason or sent as the same record, in which the numbers of the ids, in
their own place and in the references, count on from where the source stood. As many ids
are used up either way. -/
theorem document_renumbered (declaration : MachineDeclaration) (configuration : Configuration)
    (ids other : IdSource) (room : ids.next.toNat + declaration.elementCount ≤ 2 ^ 64)
    (otherRoom : other.next.toNat + declaration.elementCount ≤ 2 ^ 64) :
    let first := declaration.document configuration ids
    let second := declaration.document configuration other
    second.1 = Record.renameIds (renumber ids.next.toNat other.next.toNat) <$> first.1 ∧
      ∃ used : Nat, first.2 = ⟨ids.next + UInt64.ofNat used⟩ ∧
        second.2 = ⟨other.next + UInt64.ofNat used⟩ := by
  intro first second
  have renumbered : (declaration.build configuration.maxDepth.toNat other).1 = _ :=
    MachineDeclaration.build_renumbered room otherRoom
  refine ⟨?_, declaration.build_uses_same configuration.maxDepth.toNat ids other⟩
  cases built : (declaration.build configuration.maxDepth.toNat ids).1 with
  | error error =>
      rw [built] at renumbered
      have refused : first.1 = _ := MachineDeclaration.document_of_unbuilt built
      have refusedToo : second.1 = _ := MachineDeclaration.document_of_unbuilt renumbered
      rw [refused, refusedToo]
      rfl
  | ok machine =>
      rw [built] at renumbered
      have few : declaration.elementCount ≤ 2 ^ 64 := Nat.le_trans (Nat.le_add_left _ _) room
      have usable := MachineDeclaration.usable_of_build built few
      have usableToo := MachineDeclaration.usable_of_build renumbered few
      rcases Session.renderMachine_renameIds (renumber_empty _ _) usable usableToo with
        ⟨root, rendered, renderedToo⟩
      have sent : first.1 = _ := MachineDeclaration.document_of_built built
      have sentToo : second.1 = _ := MachineDeclaration.document_of_built renumbered
      rw [sent, sentToo, rendered, renderedToo]
      rfl

/-- Names and an input that look like ids, a machine that enters no state, and numbers that
get a digit more on the way. -/
theorem document_renumbered_lookalike :
    let leave : TransitionDeclaration :=
      { source := "transition-12", target := "state-100", input := some "state-10" }
    let declaration : MachineDeclaration :=
      { name := "stateMachine-8"
        states := [
          { name := some "state-9", initial := some "transition-12"
            states := [{ name := some "transition-12", transitions := [leave] }] },
          { name := some "state-100" }] }
    let first := declaration.document {} ⟨8⟩
    let second := declaration.document {} ⟨98⟩
    (∃ root, first.1 = .ok root ∧ second.1 = .ok (root.renameIds (renumber 8 98)) ∧
      root.preorder.map (·.id) =
        ["stateMachine-8", "state-9", "state-10", "transition-12", "state-11"]) ∧
      ∃ used : Nat, first.2 = ⟨8 + UInt64.ofNat used⟩ ∧ second.2 = ⟨98 + UInt64.ofNat used⟩ := by
  intro leave declaration first second
  have renumbered := document_renumbered declaration {} ⟨8⟩ ⟨98⟩ (by decide) (by decide)
  have ids : first.1.toOption.map (·.preorder.map (·.id)) =
      some ["stateMachine-8", "state-9", "state-10", "transition-12", "state-11"] := by
    decide +kernel
  refine ⟨?_, renumbered.2⟩
  have answered : second.1 = Record.renameIds (renumber 8 98) <$> first.1 := renumbered.1
  cases outcome : first.1 with
  | error error =>
      rw [outcome] at ids
      cases ids
  | ok root =>
      rw [outcome] at ids answered
      exact ⟨root, rfl, answered, Option.some.inj ids⟩

end Statechart
