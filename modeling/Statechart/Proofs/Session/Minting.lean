import Statechart.Proofs.Declaration.Leftover
import Statechart.Proofs.Session.Lifecycle

/-!
Ids that a session gives out. Only two kinds of requests take ids from the source:
parsing, for the elements of the machine that is built, finished or not, and
reporting, for a snapshot. Together the requests of a run take number after number,
so no id is given out twice before the numbers run out.
-/

namespace Statechart

/-! ## The ledger of a session -/

/-- An exchange with the ids that were given out for it. -/
structure Entry where
  exchange : Exchange
  minted : List String

namespace Session

open IdSource

variable {ε : Type}

def mintedBy (backend : Backend ε) (session : Session ε) : Request → List String
  | .parse arguments =>
      match backend.parser arguments.sourceFile with
      | .error _ => []
      | .ok declaration =>
          (declaration.leftover backend.configuration.maxDepth.toNat session.ids).machine.ids
  | .getRuntimeState arguments =>
      match session.executionOf arguments.sourceFile with
      | .error _ => []
      | .ok _ => [idAt "runtimeState" session.ids.next]
  | _ => []

def entry (backend : Backend ε) (session : Session ε) (request : Request) : Entry where
  exchange := ⟨session.ids, request, (session.answer backend request).answer⟩
  minted := session.mintedBy backend request

def ledger (backend : Backend ε) (session : Session ε) : List Request → List Entry
  | [] => []
  | request :: requests =>
      session.entry backend request ::
        (session.answer backend request).session.ledger backend requests

theorem map_exchange_ledger (backend : Backend ε) (session : Session ε) (requests : List Request) :
    (session.ledger backend requests).map (·.exchange) = session.history backend requests := by
  induction requests generalizing session with
  | nil => rfl
  | cons request requests induction =>
      rw [ledger, List.map_cons, induction]
      rfl

/-- Every entry was made by some session on the way. -/
theorem exists_entry_of_mem {backend : Backend ε} {session : Session ε} {requests : List Request}
    {made : Entry} (member : made ∈ session.ledger backend requests) :
    ∃ current : Session ε, made = current.entry backend made.exchange.request := by
  induction requests generalizing session with
  | nil => cases member
  | cons request requests induction =>
      rcases List.mem_cons.mp member with rfl | later
      · exact ⟨session, rfl⟩
      · exact induction later

/-! ## One request -/

section Request

variable (backend : Backend ε) (session : Session ε)

theorem mintedBy_givenOut (request : Request) :
    GivenOut session.ids.next (session.mintedBy backend request) := by
  cases request with
  | parse arguments =>
      rw [mintedBy]
      split
      · exact givenOut_nil _
      · exact (MachineDeclaration.leftover_minted _ _ session.ids).givenOut
  | getRuntimeState arguments =>
      rw [mintedBy]
      split
      · exact givenOut_nil _
      · exact givenOut_singleton _ _
  | init | step | getBreakpointTypes | checkBreakpoint => exact givenOut_nil _

theorem parse_ids (arguments : ParseArguments) :
    (session.parse backend arguments).session.ids =
      match backend.parser arguments.sourceFile with
      | .error _ => session.ids
      | .ok declaration =>
          (declaration.leftover backend.configuration.maxDepth.toNat session.ids).ids := by
  cases parsed : backend.parser arguments.sourceFile with
  | error error => simp [parse, parsed, refuse]
  | ok declaration =>
      have left := declaration.build_ids backend.configuration.maxDepth.toNat session.ids
      rcases built : declaration.build backend.configuration.maxDepth.toNat session.ids with
        ⟨outcome, ids⟩
      rw [built] at left
      cases outcome with
      | error error => simp [parse, parsed, built, refuse, ← left]
      | ok machine =>
          cases rendered : renderMachine backend.configuration machine <;>
            simp [parse, parsed, built, rendered, ← left]

theorem init_ids (arguments : InitArguments) :
    (session.init backend arguments).session.ids = session.ids := by
  cases outcome : (session.init backend arguments).answer with
  | error error => rw [init_refused outcome]
  | ok response =>
      rcases init_answered outcome with ⟨_, _, -, -, -, after⟩
      rw [after]

theorem step_ids (arguments : StepArguments) :
    (session.step backend arguments).session.ids = session.ids := by
  cases ready : session.executionOf arguments.sourceFile with
  | error error =>
      rw [step_refused ready]
      rfl
  | ok pair =>
      cases done : backend.engine.isDone pair.2 with
      | true => rw [step_done ready done]
      | false => rw [(step_running ready done).2]

theorem getRuntimeState_ids (arguments : GetRuntimeStateArguments) :
    (session.getRuntimeState backend arguments).session.ids =
      match session.executionOf arguments.sourceFile with
      | .error _ => session.ids
      | .ok _ => ⟨session.ids.next + 1⟩ := by
  cases ready : session.executionOf arguments.sourceFile with
  | error error =>
      rw [getRuntimeState_refused ready]
      rfl
  | ok pair =>
      simp only [getRuntimeState, ready]
      split <;> rfl

/-- The source goes on by as many numbers as ids are given out. -/
theorem answer_next (request : Request) :
    (session.answer backend request).session.ids.next =
      session.ids.next + UInt64.ofNat (session.mintedBy backend request).length := by
  have unmoved : session.ids.next = session.ids.next + UInt64.ofNat 0 :=
    (UInt64.add_zero session.ids.next).symm
  cases request with
  | parse arguments =>
      change (session.parse backend arguments).session.ids.next = _
      rw [parse_ids, mintedBy]
      split
      · exact unmoved
      · exact (MachineDeclaration.leftover_minted _ _ session.ids).next
  | init arguments =>
      change (session.init backend arguments).session.ids.next = _
      rw [init_ids]
      exact unmoved
  | step arguments =>
      change (session.step backend arguments).session.ids.next = _
      rw [step_ids]
      exact unmoved
  | getRuntimeState arguments =>
      change (session.getRuntimeState backend arguments).session.ids.next = _
      rw [getRuntimeState_ids, mintedBy]
      split
      · exact unmoved
      · rfl
  | getBreakpointTypes arguments => exact unmoved
  | checkBreakpoint arguments =>
      change (session.checkBreakpoint backend arguments).session.ids.next = _
      rw [checkBreakpoint_session]
      exact unmoved

end Request

/-! ## A whole run -/

/-- The ids of a run have consecutive numbers. -/
theorem ledger_givenOut (backend : Backend ε) (session : Session ε) (requests : List Request) :
    GivenOut session.ids.next ((session.ledger backend requests).flatMap (·.minted)) := by
  induction requests generalizing session with
  | nil => exact givenOut_nil _
  | cons request requests induction =>
      rw [ledger, List.flatMap_cons]
      have later := induction (session.answer backend request).session
      rw [answer_next] at later
      exact (mintedBy_givenOut backend session request).append later

end Session

end Statechart
