import Statechart.Proofs.Loop
import Statechart.Proofs.Record.Codec
import Statechart.Proofs.Text.Bytes

/-!
Occurrences. A record may stand at several places of a tree, and each of them has an
address: the roles and the places in their lists that lead down to it. The walk with a
stack has no bound of its own. It ends, and by then it has met what stands at each address
once, in the order of the addresses, in which the address of a record comes before those
of the records below it.
-/

namespace Statechart.Record

/-! ## The walk as a loop -/

/-- A walk over a tree: the records visited so far, and the stack of those to be visited. -/
structure Walk where
  visited : List Record
  pending : List Record

/-- The walk goes on as long as there is a record on the stack. -/
def Walk.turn : Walk → Option Walk
  | ⟨_, []⟩ => none
  | ⟨visited, record :: pending⟩ => some ⟨visited ++ [record], record.pushChildren pending⟩

/-- A turn for each record on the stack and below it, in the order in which they are written,
clears the stack. -/
theorem walk_endsAfter {turns : Nat} {pending : List Record}
    (all : (pending.flatMap (·.preorder)).length = turns) (visited : List Record) :
    EndsAfter Walk.turn turns ⟨visited, pending⟩
      ⟨visited ++ pending.flatMap (·.preorder), []⟩ := by
  -- For every stack at once: what is pushed lies above siblings from all the levels before.
  induction turns generalizing pending visited with
  | zero =>
      cases pending with
      | nil =>
          rw [List.flatMap_nil, List.append_nil]
          exact .stop rfl
      | cons record pending =>
          rw [flatMap_preorder_cons] at all
          cases all
  | succ turns induction =>
      cases pending with
      | nil => cases all
      | cons record pending =>
          have goes : Walk.turn ⟨visited, record :: pending⟩ =
              some ⟨visited ++ [record], record.parts ++ pending⟩ := by
            rw [Walk.turn, pushChildren_eq_append]
          rw [flatMap_preorder_cons] at all ⊢
          have rest := induction (Nat.succ.inj all) (visited ++ [record])
          rw [List.append_assoc, List.singleton_append] at rest
          exact .go goes rest

/-- The loop ends in one way only, with the records that the walk with a bound has met. -/
theorem walk_endsAfter_iff (record : Record) (turns : Nat) (last : Walk) :
    EndsAfter Walk.turn turns ⟨[], [record]⟩ last ↔
      turns = record.descendants.length ∧ last = ⟨record.descendants, []⟩ := by
  have whole : [record].flatMap (·.preorder) = record.descendants := by
    rw [List.flatMap_singleton, descendants_eq_preorder]
  have ends := walk_endsAfter (congrArg List.length whole) []
  rw [whole] at ends
  exact ends.iff turns last

/-! ## Addresses -/

/-- A step down from a record: the role under which to go on, and the place in the list there. -/
abbrev Step := String × Nat

abbrev Address := List Step

def at? : Record → Address → Option Record
  | record, [] => some record
  | record, (role, place) :: address =>
      (record.childrenOf role)[place]?.bind fun part => part.at? address

/-- Roles come in the order of their bytes, and under a role places in the order of the list. -/
def Step.Before (left right : Step) : Prop :=
  Text.bytes left.1 < Text.bytes right.1 ∨ left.1 = right.1 ∧ left.2 < right.2

/-- The first step in which two addresses differ decides, or else the shorter one comes first. -/
def Address.Before : Address → Address → Prop :=
  List.Lex Step.Before

theorem Step.before_irrefl (step : Step) : ¬step.Before step := by
  rintro (lower | ⟨-, earlier⟩)
  · exact List.lt_irrefl _ lower
  · exact Nat.lt_irrefl _ earlier

/-- What comes later is not above. -/
theorem Address.Before.not_prefix {earlier later : Address} (before : earlier.Before later) :
    ¬later <+: earlier := by
  induction before with
  | nil => simp
  | cons _ induction => simpa using induction
  | rel stepBefore =>
      intro above
      rw [List.cons_prefix_cons] at above
      rw [above.1] at stepBefore
      exact Step.before_irrefl _ stepBefore

/-! ## The steps down from a record -/

def steps (record : Record) : List (Step × Record) :=
  record.children.flatMap fun entry =>
    entry.2.toList.zipIdx.map fun placed => ((entry.1, placed.2), placed.1)

variable {record part inner : Record}

theorem map_snd_steps (record : Record) : record.steps.map (·.2) = record.parts := by
  have each : ∀ entry : String × Child Record,
      (entry.2.toList.zipIdx.map fun placed => ((entry.1, placed.2), placed.1)).map (·.2) =
        entry.2.toList := by
    intro entry
    rw [List.map_map]
    exact List.zipIdx_map_fst 0 entry.2.toList
  rw [steps, List.map_flatMap, parts]
  simp only [each]

theorem part_of_step {entry : Step × Record} (isStep : entry ∈ record.steps) :
    entry.2 ∈ record.parts := by
  rw [← map_snd_steps]
  exact List.mem_map.mpr ⟨entry, isStep, rfl⟩

/-- A step is one of a record when there is a part at its place in the list of its role. -/
theorem mem_steps (ordered : Entries.Ordered record.children) {step : Step} :
    (step, part) ∈ record.steps ↔ (record.childrenOf step.1)[step.2]? = some part := by
  simp only [steps, List.mem_flatMap, List.mem_map]
  constructor
  · rintro ⟨⟨role, child⟩, isChild, ⟨_, place⟩, placed, same⟩
    cases same
    rw [childrenOf, (Entries.lookup?_eq_some ordered).mpr isChild]
    exact List.mem_zipIdx_iff_getElem?.mp placed
  · intro placed
    rw [childrenOf] at placed
    cases found : Entries.lookup? step.1 record.children with
    | none =>
        rw [found] at placed
        cases placed
    | some child =>
        rw [found] at placed
        have isChild := (Entries.lookup?_eq_some ordered).mp found
        have isPlaced : (part, step.2) ∈ child.toList.zipIdx :=
          List.mem_zipIdx_iff_getElem?.mpr placed
        exact ⟨(step.1, child), isChild, (part, step.2), isPlaced, rfl⟩

theorem pairwise_steps (ordered : Entries.Ordered record.children) :
    (record.steps.map (·.1)).Pairwise Step.Before := by
  rw [steps, List.map_flatMap, List.pairwise_flatMap]
  constructor
  · intro entry _
    rw [List.map_map, List.pairwise_map]
    have places : (entry.2.toList.zipIdx.map (·.2)).Pairwise (· < ·) := by
      rw [List.zipIdx_map_snd]
      exact List.pairwise_lt_range' 1
    rw [List.pairwise_map] at places
    exact places.imp fun earlier => .inr ⟨rfl, earlier⟩
  · refine ordered.imp fun {left right} less step inLeft other inRight => .inl ?_
    simp only [List.map_map, List.mem_map] at inLeft inRight
    rcases inLeft with ⟨_, -, rfl⟩
    rcases inRight with ⟨_, -, rfl⟩
    exact Text.lt_iff_bytes_lt.mp less

/-! ## Occurrences -/

theorem size_le_sizeOfAll {records : List Record} (member : part ∈ records) :
    part.size ≤ sizeOfAll records := by
  induction records with
  | nil => cases member
  | cons record records induction =>
      rw [sizeOfAll]
      rcases List.mem_cons.mp member with rfl | member
      · exact Nat.le_add_right _ _
      · exact Nat.le_trans (induction member) (Nat.le_add_left _ _)

theorem size_lt_of_step {entry : Step × Record} (isStep : entry ∈ record.steps) :
    entry.2.size < record.size := by
  rw [size_eq_succ record]
  exact Nat.lt_succ_of_le (size_le_sizeOfAll (part_of_step isStep))

/-- All records of the tree with their addresses. -/
def occurrences (record : Record) : List (Address × Record) :=
  ([], record) :: record.steps.attach.flatMap fun entry =>
    entry.1.2.occurrences.map fun occurrence => (entry.1.1 :: occurrence.1, occurrence.2)
termination_by record.size
decreasing_by exact size_lt_of_step entry.2

theorem occurrences_eq_cons (record : Record) :
    record.occurrences = ([], record) :: record.steps.flatMap fun entry =>
      entry.2.occurrences.map fun occurrence => (entry.1 :: occurrence.1, occurrence.2) := by
  rw [occurrences]
  simp only [List.flatMap_subtype, List.unattach_attach]

/-- Without their addresses the occurrences are the records in the order of the walk. -/
theorem map_snd_occurrences (record : Record) :
    record.occurrences.map (·.2) = record.preorder := by
  induction record using occurrences.induct with
  | case1 record induction =>
      rw [occurrences_eq_cons, List.map_cons, List.map_flatMap, preorder_eq_cons, ← map_snd_steps,
        List.flatMap_map]
      refine congrArg _ (List.flatMap_congr fun entry member => ?_)
      rw [List.map_map]
      exact induction ⟨entry, member⟩

theorem map_fst_occurrences (record : Record) :
    record.occurrences.map (·.1) = [] :: record.steps.flatMap fun entry =>
      (entry.2.occurrences.map (·.1)).map (entry.1 :: ·) := by
  rw [occurrences_eq_cons, List.map_cons, List.map_flatMap]
  simp only [List.map_map, Function.comp_def]

/-- What occurs below a record occurs in one of its parts, at the address without the first
step. -/
theorem mem_occurrences_cons {step : Step} {address : Address} :
    (step :: address, inner) ∈ record.occurrences ↔
      ∃ part, (step, part) ∈ record.steps ∧ (address, inner) ∈ part.occurrences := by
  rw [occurrences_eq_cons]
  simp only [List.mem_cons, Prod.mk.injEq, List.mem_flatMap, List.mem_map]
  constructor
  · rintro (⟨nowhere, -⟩ | ⟨⟨_, part⟩, isStep, ⟨_, _⟩, member, same, rfl⟩)
    · cases nowhere
    · cases same
      exact ⟨part, isStep, member⟩
  · rintro ⟨part, isStep, member⟩
    exact .inr ⟨(step, part), isStep, (address, inner), member, rfl, rfl⟩

/-- What occurs in a record with an address is what stands there. -/
theorem mem_occurrences (ordered : record.Ordered) {address : Address} :
    (address, inner) ∈ record.occurrences ↔ record.at? address = some inner := by
  induction address generalizing record with
  | nil =>
      rw [occurrences_eq_cons, at?]
      simp [eq_comm]
  | cons step address induction =>
      rw [mem_occurrences_cons, at?, Option.bind_eq_some_iff]
      refine exists_congr fun part => ?_
      rw [← mem_steps ordered.children]
      exact and_congr_right fun isStep => induction (ordered.part (part_of_step isStep))

/-- The walk meets what stands at the addresses in the order of the addresses. -/
theorem pairwise_occurrences (ordered : record.Ordered) :
    (record.occurrences.map (·.1)).Pairwise Address.Before := by
  induction record using occurrences.induct with
  | case1 record induction =>
      rw [map_fst_occurrences, List.pairwise_cons, List.pairwise_flatMap]
      refine ⟨?root, ?inside, ?apart⟩
      case root =>
        intro address below
        rcases List.mem_flatMap.mp below with ⟨entry, -, member⟩
        rcases List.mem_map.mp member with ⟨_, -, rfl⟩
        exact .nil
      case inside =>
        intro entry isStep
        have part := induction ⟨entry, isStep⟩ (ordered.part (part_of_step isStep))
        exact List.pairwise_map.mpr (part.imp .cons)
      case apart =>
        have steps := List.pairwise_map.mp (pairwise_steps ordered.children)
        refine steps.imp fun before left inLeft right inRight => ?_
        rcases List.mem_map.mp inLeft with ⟨_, -, rfl⟩
        rcases List.mem_map.mp inRight with ⟨_, -, rfl⟩
        exact .rel before

/-! ## The order of the walk -/

/-- The parts of a record, role by role. -/
theorem flatMap_childrenOf (ordered : Entries.Ordered record.children) :
    (record.children.map (·.1)).flatMap record.childrenOf = record.parts := by
  rw [List.flatMap_map, parts]
  refine List.flatMap_congr fun entry isChild => ?_
  rw [childrenOf, (Entries.lookup?_eq_some ordered).mpr isChild]

theorem descendants_eq_cons (ordered : Entries.Ordered record.children) :
    record.descendants = record :: (record.children.map (·.1)).flatMap fun role =>
      (record.childrenOf role).flatMap (·.descendants) := by
  simp only [descendants_eq_preorder]
  rw [preorder_eq_cons, ← flatMap_childrenOf ordered, List.flatMap_assoc]

/-- The walk ends, it goes through the tree role by role in the order of their bytes, and it
meets what stands at each address once, what is above before what is below. -/
structure WalksInOrder (record : Record) : Prop where
  ends : ∀ turns last, EndsAfter Walk.turn turns ⟨[], [record]⟩ last ↔
    turns = record.descendants.length ∧ last = ⟨record.descendants, []⟩
  recursive : ∃ roles : List String,
    roles.Pairwise (fun left right => Text.bytes left < Text.bytes right) ∧
    (∀ role, role ∈ roles ↔ ∃ child, Entries.lookup? role record.children = some child) ∧
    record.descendants =
      record :: roles.flatMap fun role => (record.childrenOf role).flatMap (·.descendants)
  occurrences : ∃ occurrences : List (Address × Record),
    occurrences.map (·.2) = record.descendants ∧
    (∀ address inner, (address, inner) ∈ occurrences ↔ record.at? address = some inner) ∧
    (occurrences.map (·.1)).Nodup ∧
    (occurrences.map (·.1)).Pairwise (fun earlier later => ¬later <+: earlier) ∧
    (occurrences.map (·.1)).Pairwise Address.Before

theorem descendants_walksInOrder (record : Record) (ordered : record.Ordered) :
    record.WalksInOrder := by
  constructor
  case ends => exact record.walk_endsAfter_iff
  case recursive =>
    refine ⟨record.children.map (·.1), ?_, ?_, descendants_eq_cons ordered.children⟩
    · exact List.pairwise_map.mpr (ordered.children.imp Text.lt_iff_bytes_lt.mp)
    · intro role
      simp only [Entries.lookup?_eq_some ordered.children, List.mem_map, Prod.exists,
        exists_and_right, exists_eq_right]
  case occurrences =>
    have sorted := pairwise_occurrences ordered
    have above : (record.occurrences.map (·.1)).Pairwise fun earlier later => ¬later <+: earlier :=
      sorted.imp Address.Before.not_prefix
    refine ⟨record.occurrences, ?_, fun address inner => mem_occurrences ordered, ?_, above, sorted⟩
    · rw [map_snd_occurrences, descendants_eq_preorder]
    · refine above.imp ?_
      rintro address _ notAbove rfl
      exact notAbove List.prefix_rfl

/-- One record that stands in two places of a list, and another under a role that comes
before that of the list. -/
theorem descendants_walksInOrder_house :
    let room : Record := { id := "room", children := [("door", .one { id := "door" })] }
    let house : Record :=
      { id := "house"
        children := [("cellar", .one { id := "cellar" }), ("rooms", .many [room, room])] }
    house.Ordered ∧ house.WalksInOrder ∧
      house.descendants.map (·.id) = ["house", "cellar", "room", "door", "room", "door"] := by
  intro room house
  have ordered : house.Ordered := by decide
  exact ⟨ordered, descendants_walksInOrder house ordered, rfl⟩

end Statechart.Record
