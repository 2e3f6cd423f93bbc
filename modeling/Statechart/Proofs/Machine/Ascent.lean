import Mathlib.Logic.Relation
import Statechart.Proofs.Loop
import Statechart.Proofs.Machine.Depth

/-!
Ascent. The walk up the parents of a state has no bound of its own. It ends because a
parent stands before its children, so that with every turn the walk is further in front;
what it has counted by then are the states around the one it started from.
-/

namespace Statechart

/-- A walk up the parents: how many have been passed, and the one that is next. -/
structure Ascent where
  passed : Nat
  next : Option StateIndex

namespace Ascent

def start (machine : Machine) (index : StateIndex) : Ascent :=
  ⟨0, machine.parent? index⟩

/-- The walk goes on as long as there is a parent to look at. -/
def turn (machine : Machine) : Ascent → Option Ascent
  | ⟨_, none⟩ => none
  | ⟨passed, some current⟩ => some ⟨passed + 1, machine.parent? current⟩

end Ascent

namespace Machine

/-- The states around a state, from the inside to the outside. -/
inductive WayUp (machine : Machine) : StateIndex → List StateIndex → Prop
  | outermost {index : StateIndex} (topLevel : machine.parent? index = none) :
      WayUp machine index []
  | leave {index parent : StateIndex} {way : List StateIndex}
      (nested : machine.parent? index = some parent) (rest : WayUp machine parent way) :
      WayUp machine index (parent :: way)

variable {machine : Machine} {index : StateIndex} {way : List StateIndex}

theorem Contained.exists_wayUp (contained : machine.Contained) (index : StateIndex) :
    ∃ way, machine.WayUp index way := by
  induction index using Nat.strongRecOn with
  | ind index induction =>
      cases nested : machine.parent? index with
      | none => exact ⟨[], .outermost nested⟩
      | some parent =>
          rcases induction parent (contained.parent?_lt nested) with ⟨way, rest⟩
          exact ⟨parent :: way, .leave nested rest⟩

namespace WayUp

theorem depth_eq_length (contained : machine.Contained) (up : machine.WayUp index way) :
    machine.depth index = way.length := by
  induction up with
  | outermost topLevel => exact depth_topLevel topLevel
  | leave nested _ induction => rw [contained.depth_nested nested, induction, List.length_cons]

/-- What is on the way are the states that parents of parents lead to. -/
theorem mem_iff (up : machine.WayUp index way) (outer : StateIndex) :
    outer ∈ way ↔
      Relation.TransGen (fun inner outer => machine.parent? inner = some outer) index outer := by
  induction up with
  | outermost topLevel =>
      rw [Relation.TransGen.head'_iff]
      simp [topLevel]
  | leave nested _ induction =>
      rw [Relation.TransGen.head'_iff, List.mem_cons, induction]
      simp [nested, Relation.reflTransGen_iff_eq_or_transGen]

theorem decreasing (contained : machine.Contained) (up : machine.WayUp index way) :
    (index :: way).Pairwise (· > ·) := by
  induction up with
  | outermost _ => exact List.pairwise_singleton _ _
  | leave nested _ induction =>
      have earlier := contained.parent?_lt nested
      refine List.pairwise_cons.mpr ⟨fun outer member => ?_, induction⟩
      rcases List.mem_cons.mp member with rfl | later
      · exact earlier
      · exact Nat.lt_trans ((List.pairwise_cons.mp induction).1 outer later) earlier

/-- Each turn of the walk passes one state of the way. -/
theorem endsAfter (up : machine.WayUp index way) (passed : Nat) :
    EndsAfter (Ascent.turn machine) way.length ⟨passed, machine.parent? index⟩
      ⟨passed + way.length, none⟩ := by
  induction up generalizing passed with
  | outermost topLevel =>
      rw [topLevel]
      exact .stop rfl
  | @leave index parent way nested _ induction =>
      have goes : Ascent.turn machine ⟨passed, machine.parent? index⟩ =
          some ⟨passed + 1, machine.parent? parent⟩ := by
        rw [nested]
        rfl
      have rest := induction (passed + 1)
      rw [Nat.add_right_comm] at rest
      exact .go goes rest

end WayUp

/-- The walk up makes a turn for each level. -/
theorem Contained.ascent_endsAfter (contained : machine.Contained) (index : StateIndex) :
    EndsAfter (Ascent.turn machine) (machine.depth index) (Ascent.start machine index)
      ⟨machine.depth index, none⟩ := by
  rcases contained.exists_wayUp index with ⟨way, up⟩
  have ends := up.endsAfter 0
  rwa [Nat.zero_add, ← up.depth_eq_length contained] at ends

theorem Contained.exists_around (contained : machine.Contained) (index : StateIndex) :
    ∃ around : List StateIndex, around.Nodup ∧ around.length = machine.depth index ∧
      ∀ outer, outer ∈ around ↔
        Relation.TransGen (fun inner outer => machine.parent? inner = some outer) index outer := by
  rcases contained.exists_wayUp index with ⟨way, up⟩
  have decreasing := (List.pairwise_cons.mp (up.decreasing contained)).2
  exact ⟨way, decreasing.imp Nat.ne_of_gt, (up.depth_eq_length contained).symm, up.mem_iff⟩

theorem parent?_of_not_lt (outside : machine.states.length ≤ index) :
    machine.parent? index = none := by
  rw [parent?, state?, List.getElem?_eq_none outside]
  rfl

theorem Contained.mem_topLevel_iff (contained : machine.Contained)
    (inRange : index < machine.states.length) :
    index ∈ machine.topLevel ↔ machine.parent? index = none := by
  rcases exists_state? inRange with ⟨state, found⟩
  have listed : index ∈ machine.childrenOf none ↔ _ := contained.mem_childrenOf
  change index ∈ machine.topLevel ↔ _ at listed
  rw [listed, parent?, found]
  simp

theorem Contained.depth_eq_zero_iff (contained : machine.Contained)
    (inRange : index < machine.states.length) :
    machine.depth index = 0 ↔ index ∈ machine.topLevel := by
  refine ⟨fun atTop => ?_, contained.depth_eq_zero⟩
  rw [contained.mem_topLevel_iff inRange, Option.eq_none_iff_forall_ne_some]
  intro parent nested
  rw [contained.depth_nested nested] at atTop
  cases atTop

end Machine

end Statechart
