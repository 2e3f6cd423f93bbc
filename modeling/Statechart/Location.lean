import Statechart.Json.Structure

/-!
Source spans. Lines and columns count from one, and the end lies behind the
last character.
-/

namespace Statechart

open Json

structure Location where
  line : UInt32 := 0
  column : UInt32 := 0
  endLine : UInt32 := 0
  endColumn : UInt32 := 0
  deriving DecidableEq, Repr

def Location.codec : Codec Location :=
  .ofFields {} [
    .required "line" .word32 (·.line) ({ · with line := · }),
    .required "column" .word32 (·.column) ({ · with column := · }),
    .required "endLine" .word32 (·.endLine) ({ · with endLine := · }),
    .required "endColumn" .word32 (·.endColumn) ({ · with endColumn := · })
  ]

end Statechart
