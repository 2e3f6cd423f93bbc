import Statechart.Declaration.Basic
import Statechart.Proofs.Location

/-!
Written declarations are read back. States nest, and every level of them takes a
bracket at least, so that the room for brackets bounds the levels to be read.
-/

namespace Statechart

open Json StructField

namespace TransitionDeclaration

theorem readsBack (declaration : TransitionDeclaration) (limit : Nat) :
    codec.ReadsBack (limit + 1) declaration :=
  Codec.readsBack_ofFields
    (.cons (puts_required (Codec.readsBack_text declaration.source)) <|
      .cons (puts_required (Codec.readsBack_text declaration.target)) <|
      .cons (puts_nullable Codec.neverNull_text fun input _ => Codec.readsBack_text input) <|
      .cons (puts_nullable Codec.neverNull_text fun output _ => Codec.readsBack_text output) <|
      .cons (puts_nullable Location.neverNull fun location _ => location.readsBack limit) .nil)
    (by decide) (by simp [Json.commute_iff]) rfl

end TransitionDeclaration

namespace StateDeclaration

variable {decode : Nat → Reading → Except Fault StateDeclaration}

theorem encodeAll_eq_map (states : List StateDeclaration) :
    encodeAll states = states.map encode := by
  induction states with
  | nil => rfl
  | cons state states induction => rw [encodeAll, induction, List.map_cons]

/-- A state is written field by field. -/
theorem encode_eq_ofFields (declaration : StateDeclaration) :
    declaration.encode = (Codec.ofFields {} (fields ⟨encode, decode⟩)).encode declaration := by
  cases declaration
  rw [encode, encodeAll_eq_map]
  rfl

theorem readsBack_ofFields {inner : Codec StateDeclaration} {declaration : StateDeclaration}
    {limit : Nat} (readsBack : ∀ state ∈ declaration.states, inner.ReadsBack limit state) :
    (Codec.ofFields {} (fields inner)).ReadsBack (limit + 2) declaration := by
  have distinct : ((fields inner).map (·.key)).Nodup := by
    change ["name", "isFinal", "initial", "states", "transitions", "location"].Nodup
    decide
  have transitions : TransitionDeclaration.codec.list.ReadsBack (limit + 1) declaration.transitions :=
    (Codec.readsBack_list fun transition _ => transition.readsBack limit).mono (Nat.le_succ _)
  refine Codec.readsBack_ofFields
    (.cons (puts_nullable Codec.neverNull_text fun name _ => Codec.readsBack_text name) <|
      .cons (puts_defaulted (Codec.readsBack_flag declaration.isFinal)) <|
      .cons (puts_nullable Codec.neverNull_text fun initial _ => Codec.readsBack_text initial) <|
      .cons (puts_defaulted (Codec.readsBack_list readsBack)) <|
      .cons (puts_defaulted transitions) <|
      .cons (puts_nullable Location.neverNull fun location _ => location.readsBack (limit + 1)) .nil)
    distinct (by simp [Json.commute_iff]) ?_
  cases declaration
  rfl

/-- Each level of states opens a bracket, so the levels suffice for that room. -/
theorem readsBack_decodeWithin (levels : Nat) (declaration : StateDeclaration) :
    Codec.ReadsBack ⟨encode, decodeWithin levels⟩ levels declaration := by
  induction levels generalizing declaration with
  | zero => exact fun room below => absurd below (Nat.not_lt_zero room)
  | succ levels induction =>
      have inner : ∀ state ∈ declaration.states,
          Codec.ReadsBack ⟨encode, decodeWithin levels⟩ levels state :=
        fun state _ => induction state
      have whole := readsBack_ofFields inner
      intro room below
      have decoded := whole room (Nat.lt_succ_of_lt below)
      rw [← encode_eq_ofFields] at decoded
      exact decoded

theorem readsBack (declaration : StateDeclaration) (limit : Nat) :
    codec.ReadsBack limit declaration :=
  fun room _ => readsBack_decodeWithin (room + 1) declaration room (Nat.lt_succ_self room)

end StateDeclaration

namespace MachineDeclaration

theorem readsBack (declaration : MachineDeclaration) (limit : Nat) :
    codec.ReadsBack (limit + 2) declaration :=
  Codec.readsBack_ofFields
    (.cons (puts_required (Codec.readsBack_text declaration.name)) <|
      .cons (puts_nullable Codec.neverNull_text fun initial _ => Codec.readsBack_text initial) <|
      .cons (puts_defaulted (Codec.readsBack_list fun state _ => state.readsBack limit)) <|
      .cons (puts_defaulted
        ((Codec.readsBack_list fun transition _ => transition.readsBack limit).mono
          (Nat.le_succ _))) <|
      .cons (puts_nullable Location.neverNull fun location _ => location.readsBack (limit + 1)) .nil)
    (by decide) (by simp [Json.commute_iff]) rfl

end MachineDeclaration

end Statechart
