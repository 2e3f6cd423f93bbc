import Statechart.Machine.Basic

/-!
Snapshots of an execution, each taken for one report and with an id of its own.
-/

namespace Statechart

structure Snapshot where
  id : String
  inputs : List String
  nextInput : Option UInt64
  current : StateIndex
  outputs : List String
  deriving DecidableEq, Repr

namespace Snapshot

def take (inputs : List String) (nextInput : Option UInt64) (current : StateIndex)
    (outputs : List String) (ids : IdSource) : Snapshot × IdSource :=
  let (id, ids) := ids.mint "runtimeState"
  ({ id, inputs, nextInput, current, outputs }, ids)

end Snapshot

end Statechart
