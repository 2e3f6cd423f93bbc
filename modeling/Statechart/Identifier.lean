/-!
Identifiers of one debug session. Every element of a machine and every snapshot
of an execution gets an id of its own, a word for its kind and a number. The
numbers come from one source for the whole session, so an id is never given
out twice until the 64-bit counter has gone round.
-/

namespace Statechart

structure IdSource where
  next : UInt64 := 0
  deriving DecidableEq, Repr

namespace IdSource

def idAt (kind : String) (number : UInt64) : String :=
  kind ++ "-" ++ toString number.toNat

def mint (kind : String) (ids : IdSource) : String × IdSource :=
  (idAt kind ids.next, ⟨ids.next + 1⟩)

end IdSource

end Statechart
