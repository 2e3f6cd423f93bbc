import Mathlib.Data.List.Perm.Basic
import Statechart.Proofs.Machine.Depth

/-!
Subtrees. Going down from the top level as deep as the deepest state one meets
every state once. Level by level: what the subtrees of some height hold, together
with the states further down, is always the whole machine.
-/

namespace Statechart

/-- Walking over a list is walking over its positions. -/
theorem flatMap_eq_flatMap_range {α β : Type _} (items : List α) (part : α → List β) :
    items.flatMap part =
      (List.range items.length).flatMap fun position => (items[position]?.map part).getD [] := by
  induction items with
  | nil => rfl
  | cons item items induction =>
      rw [List.flatMap_cons, induction, List.length_cons, List.range_succ_eq_map,
        List.flatMap_cons, List.flatMap_map]
      rfl

namespace Machine

/-- A state and the states inside it, `levels` levels in all, each before those
inside it. -/
def subtree (machine : Machine) : Nat → StateIndex → List StateIndex
  | 0, _ => []
  | levels + 1, index =>
      index :: (machine.childrenOf (some index)).flatMap (machine.subtree levels)

/-- The states so many levels below the given ones. -/
def generation (machine : Machine) : Nat → List StateIndex → List StateIndex
  | 0, indices => indices
  | levels + 1, indices =>
      machine.generation levels (indices.flatMap fun index => machine.childrenOf (some index))

theorem generation_append (machine : Machine) (levels : Nat) (indices others : List StateIndex) :
    machine.generation levels (indices ++ others) =
      machine.generation levels indices ++ machine.generation levels others := by
  induction levels generalizing indices others with
  | zero => rfl
  | succ levels induction => rw [generation, List.flatMap_append, induction, generation, generation]

theorem generation_perm (machine : Machine) (levels : Nat) {indices others : List StateIndex}
    (same : indices.Perm others) :
    (machine.generation levels indices).Perm (machine.generation levels others) := by
  induction levels generalizing indices others with
  | zero => exact same
  | succ levels induction => exact induction (same.flatMap_right _)

variable {machine : Machine}

theorem Contained.depth_generation (contained : machine.Contained) {levels : Nat}
    {indices : List StateIndex} {index : StateIndex}
    (member : index ∈ machine.generation levels indices) :
    ∃ ancestor ∈ indices, machine.depth index = machine.depth ancestor + levels := by
  induction levels generalizing indices with
  | zero => exact ⟨index, member, rfl⟩
  | succ levels induction =>
      rcases induction member with ⟨child, inChildren, below⟩
      rcases List.mem_flatMap.mp inChildren with ⟨ancestor, inIndices, nested⟩
      have deeper := contained.depth_child nested
      exact ⟨ancestor, inIndices, by omega⟩

theorem generation_succ_eq_flatMap (machine : Machine) (levels : Nat) (indices : List StateIndex) :
    machine.generation (levels + 1) indices =
      (machine.generation levels indices).flatMap fun index => machine.childrenOf (some index) := by
  induction levels generalizing indices with
  | zero => rfl
  | succ levels induction => rw [generation, induction, generation]

theorem generation_nil (machine : Machine) (levels : Nat) : machine.generation levels [] = [] := by
  induction levels with
  | zero => rfl
  | succ levels induction => exact induction

theorem generation_eq_nil {levels : Nat} {indices : List StateIndex}
    (empty : ∀ index ∈ indices, machine.generation levels [index] = []) :
    machine.generation levels indices = [] := by
  induction indices with
  | nil => exact generation_nil machine levels
  | cons index indices induction =>
      have alone := empty index List.mem_cons_self
      have rest := induction fun later member => empty later (List.mem_cons_of_mem _ member)
      rw [← List.singleton_append, generation_append, alone, rest, List.append_nil]

/-- A state stands in the generation of its depth. -/
theorem Contained.mem_generation_depth (contained : machine.Contained) (index : StateIndex)
    (inRange : index < machine.states.length) :
    index ∈ machine.generation (machine.depth index) machine.topLevel := by
  induction index using Nat.strongRecOn with
  | ind index induction =>
      rcases exists_state? inRange with ⟨state, found⟩
      have member := contained.mem_childrenOf.mpr ⟨state, found, rfl⟩
      cases nested : state.parent with
      | none =>
          have topLevel : machine.parent? index = none := by rw [parent?, found]; exact nested
          rw [nested] at member
          rw [depth_topLevel topLevel]
          exact member
      | some parent =>
          rw [nested] at member
          have earlier := contained.parent_lt found nested
          have above := induction parent earlier (Nat.lt_trans earlier inRange)
          rw [contained.depth_child member, generation_succ_eq_flatMap]
          exact List.mem_flatMap.mpr ⟨parent, above, member⟩

/-- Below a generation without states there are no states. -/
theorem Contained.depth_lt_of_generation_eq_nil (contained : machine.Contained) {levels : Nat}
    (empty : machine.generation levels machine.topLevel = []) :
    ∀ index < machine.states.length, machine.depth index < levels := by
  have emptyBelow : ∀ more, machine.generation (levels + more) machine.topLevel = [] := by
    intro more
    induction more with
    | zero => exact empty
    | succ more induction =>
        rw [← Nat.add_assoc, generation_succ_eq_flatMap, induction]
        rfl
  intro index inRange
  refine Nat.lt_of_not_le fun deep => ?_
  have member := contained.mem_generation_depth index inRange
  rw [← Nat.add_sub_cancel' deep, emptyBelow] at member
  cases member

theorem flatMap_subtree_zero (indices : List StateIndex) :
    indices.flatMap (machine.subtree 0) = [] :=
  List.flatMap_eq_nil_iff.mpr fun _ _ => rfl

/-- The roots of subtrees and the subtrees below them. -/
theorem subtree_succ_perm (levels : Nat) (indices : List StateIndex) :
    (indices.flatMap (machine.subtree (levels + 1))).Perm
      (indices ++ (indices.flatMap fun index => machine.childrenOf (some index)).flatMap
        (machine.subtree levels)) := by
  have split := List.flatMap_append_perm indices (fun index => [index])
    fun index => (machine.childrenOf (some index)).flatMap (machine.subtree levels)
  rw [List.flatMap_singleton', ← List.flatMap_assoc] at split
  exact split.symm

/-- Subtrees one level higher hold one generation more. -/
theorem subtree_grow (levels : Nat) (indices : List StateIndex) :
    (indices.flatMap (machine.subtree (levels + 1))).Perm
      (indices.flatMap (machine.subtree levels) ++ machine.generation levels indices) := by
  induction levels generalizing indices with
  | zero =>
      have roots := machine.subtree_succ_perm 0 indices
      rw [flatMap_subtree_zero, List.append_nil] at roots
      rwa [flatMap_subtree_zero]
  | succ levels induction =>
      let children := indices.flatMap fun index => machine.childrenOf (some index)
      have larger : (indices.flatMap (machine.subtree (levels + 2))).Perm
          (indices ++ children.flatMap (machine.subtree (levels + 1))) :=
        subtree_succ_perm (levels + 1) indices
      have smaller : (indices ++ children.flatMap (machine.subtree levels)).Perm
          (indices.flatMap (machine.subtree (levels + 1))) :=
        (subtree_succ_perm levels indices).symm
      have grown : (indices ++ children.flatMap (machine.subtree (levels + 1))).Perm
          (indices ++ (children.flatMap (machine.subtree levels) ++
            machine.generation levels children)) :=
        (induction children).append_left indices
      rw [← List.append_assoc] at grown
      exact larger.trans (grown.trans (smaller.append_right _))

/-- A state is at the top level or a child of exactly one state. -/
theorem Contained.range_perm (contained : machine.Contained) :
    (List.range machine.states.length).Perm
      (machine.topLevel ++ (List.range machine.states.length).flatMap fun index =>
        machine.childrenOf (some index)) := by
  have listed := contained.listed_once
  rw [flatMap_eq_flatMap_range] at listed
  exact listed.symm

theorem Contained.subtrees_and_generation_perm (contained : machine.Contained) (levels : Nat) :
    (machine.topLevel.flatMap (machine.subtree levels) ++
        machine.generation levels (List.range machine.states.length)).Perm
      (List.range machine.states.length) := by
  induction levels with
  | zero => rw [flatMap_subtree_zero, List.nil_append, generation]
  | succ levels induction =>
      let everyone := List.range machine.states.length
      have next : (machine.generation levels everyone).Perm
          (machine.generation levels machine.topLevel ++ machine.generation (levels + 1) everyone) := by
        have split := machine.generation_perm levels contained.range_perm
        rwa [generation_append] at split
      have grown : (machine.topLevel.flatMap (machine.subtree (levels + 1)) ++
            machine.generation (levels + 1) everyone).Perm
          (machine.topLevel.flatMap (machine.subtree levels) ++
            (machine.generation levels machine.topLevel ++
              machine.generation (levels + 1) everyone)) := by
        rw [← List.append_assoc]
        exact (subtree_grow levels machine.topLevel).append_right _
      exact grown.trans ((next.symm.append_left _).trans induction)

/-- The subtrees of the top level hold every state once when they are high enough. -/
theorem Contained.subtrees_perm (contained : machine.Contained) {deepest : Nat}
    (depths : ∀ index < machine.states.length, machine.depth index ≤ deepest) :
    (machine.topLevel.flatMap (machine.subtree (deepest + 1))).Perm
      (List.range machine.states.length) := by
  have everyone := contained.subtrees_and_generation_perm (deepest + 1)
  have noneDeeper : machine.generation (deepest + 1) (List.range machine.states.length) = [] := by
    apply List.eq_nil_iff_forall_not_mem.mpr
    intro index member
    rcases contained.depth_generation member with ⟨ancestor, inRange, below⟩
    have inMachine := everyone.mem_iff.mp (List.mem_append_right _ member)
    have shallow := depths index (List.mem_range.mp inMachine)
    omega
  rwa [noneDeeper, List.append_nil] at everyone

/-- The states in the order in which a document lists them: each before those inside it, and
those inside it as they are listed there. -/
def documentOrder (machine : Machine) : List StateIndex :=
  machine.topLevel.flatMap (machine.subtree machine.states.length)

theorem Contained.documentOrder_perm (contained : machine.Contained) :
    machine.documentOrder.Perm (List.range machine.states.length) := by
  cases length : machine.states.length with
  | zero =>
      have empty : machine.topLevel = [] := by
        apply List.eq_nil_iff_forall_not_mem.mpr
        intro index member
        have inRange := contained.lt_length (show index ∈ machine.childrenOf none from member)
        rw [length] at inRange
        exact absurd inRange (Nat.not_lt_zero index)
      rw [documentOrder, empty]
      rfl
  | succ deepest =>
      have depths : ∀ index < machine.states.length, machine.depth index ≤ deepest := by
        intro index inRange
        rw [length] at inRange
        exact Nat.le_trans (contained.depth_le index) (Nat.le_of_lt_succ inRange)
      have everyone := contained.subtrees_perm depths
      rwa [← length] at everyone ⊢

end Machine

end Statechart
