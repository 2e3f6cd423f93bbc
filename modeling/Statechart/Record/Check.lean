import Statechart.Machine.Defect
import Statechart.Record.Traversal

/-!
Checks on a finished response. Ids must be unique in the tree of a record, and
every reference must name a known id; an empty reference says that there is
nothing to point at and is always in order. The first defect in the order of
the text is the one reported.
-/

namespace Statechart.Record

/-- Looks for the first record whose id is among those already seen. -/
def checkUnique : List String → List Record → Except TreeError Unit
  | _, [] => .ok ()
  | seen, record :: records =>
      if seen.contains record.id then .error (.duplicateId record.id)
      else checkUnique (record.id :: seen) records

def checkRefs (known : String → Bool) : List (String × String) → Except TreeError Unit
  | [] => .ok ()
  | (role, id) :: refs =>
      if !id.isEmpty && !known id then .error (.unresolvedReference role id)
      else checkRefs known refs

def checkAllRefs (known : String → Bool) : List Record → Except TreeError Unit
  | [] => .ok ()
  | record :: records => do
      checkRefs known record.refs.entries
      checkAllRefs known records

/-! A snapshot points into a machine that was sent before, so its references
are checked against ids from elsewhere. -/

def checkReferencesAgainst (known : String → Bool) (record : Record) : Except TreeError Unit :=
  checkAllRefs known record.descendants

/-- A response that stands alone: its references stay inside its own tree. -/
def checkResponse (record : Record) : Except TreeError Unit := do
  let records := record.descendants
  checkUnique [] records
  let ids := records.map (·.id)
  checkReferencesAgainst ids.contains record

end Statechart.Record
