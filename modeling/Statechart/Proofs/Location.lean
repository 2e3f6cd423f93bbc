import Statechart.Location
import Statechart.Proofs.Json.Structure

/-!
A written location is read back, whatever stands around it.
-/

namespace Statechart.Location

open Json StructField

theorem readsBack (location : Location) (limit : Nat) : codec.ReadsBack limit location :=
  Codec.ReadsBack.mono (Nat.le_succ limit) <| Codec.readsBack_ofFields
    (.cons (puts_required (Codec.readsBack_word32 location.line)) <|
      .cons (puts_required (Codec.readsBack_word32 location.column)) <|
      .cons (puts_required (Codec.readsBack_word32 location.endLine)) <|
      .cons (puts_required (Codec.readsBack_word32 location.endColumn)) .nil)
    (by decide) (by simp [Json.commute_iff]) rfl

theorem neverNull : codec.NeverNull :=
  Codec.neverNull_ofFields

end Statechart.Location
