import Statechart.Proofs.Json.Yield
import Statechart.Proofs.Record.Codec
import Statechart.Proofs.Record.Faithful

/-!
How deep the record of a machine nests. Depth counts the states around a state, nesting
the lists and objects around a place in the text. A level of states costs three of them:
the record of the container, its children and the list of states among them. The records
of transitions lie in lists of their own, so they cost as much as a level without states
does, two more where there are any.
-/

namespace Statechart

open Json

namespace Json

theorem nestingOfItems_le_iff {items : List Json} {room : Nat} :
    nestingOfItems items ≤ room ↔ ∀ item ∈ items, item.nesting ≤ room := by
  refine ⟨fun within => ?_, nestingOfItems_le⟩
  induction items with
  | nil => exact List.forall_mem_nil _
  | cons item items induction =>
      rw [nestingOfItems, Nat.max_le] at within
      exact List.forall_mem_cons.mpr ⟨within.1, induction within.2⟩

theorem nestingOfMembers_le_iff {members : List (String × Json)} {room : Nat} :
    nestingOfMembers members ≤ room ↔ ∀ member ∈ members, member.2.nesting ≤ room := by
  refine ⟨fun within => ?_, nestingOfMembers_le⟩
  induction members with
  | nil => exact List.forall_mem_nil _
  | cons first members induction =>
      rcases first with ⟨key, value⟩
      rw [nestingOfMembers, Nat.max_le] at within
      exact List.forall_mem_cons.mpr ⟨within.1, induction within.2⟩

theorem nesting_list_le {items : List Json} {room : Nat} :
    (Json.list items).nesting ≤ room + 1 ↔ ∀ item ∈ items, item.nesting ≤ room := by
  rw [nesting, Nat.add_le_add_iff_right, nestingOfItems_le_iff]

theorem nesting_object_le {members : List (String × Json)} {room : Nat} :
    (Json.object members).nesting ≤ room + 1 ↔ ∀ member ∈ members, member.2.nesting ≤ room := by
  rw [nesting, Nat.add_le_add_iff_right, nestingOfMembers_le_iff]

end Json

namespace Dictionary

variable {β : Type} {entry : String × β}

theorem mem_foldl_insert {entries : List (String × β)} {found : Dictionary β}
    (member : entry ∈ (entries.foldl (fun dictionary new => dictionary.insert new.1 new.2)
      found).entries) : entry ∈ found.entries ∨ entry ∈ entries := by
  induction entries generalizing found with
  | nil => exact .inl member
  | cons head rest induction =>
      rcases induction member with inserted | later
      · rcases Entries.mem_insert inserted with rfl | held
        · exact .inr List.mem_cons_self
        · exact .inl held
      · exact .inr (List.mem_cons_of_mem _ later)

/-- A dictionary holds none but the entries that it was made of. -/
theorem mem_of_mem_ofList {entries : List (String × β)}
    (member : entry ∈ (ofList entries).entries) : entry ∈ entries := by
  rcases mem_foldl_insert member with nothing | listed
  · cases nothing
  · exact listed

end Dictionary

namespace Record

/-! ## Records over lists of records -/

/-- No attribute opens a bracket, and under each role stands a list. -/
structure Tabular (record : Record) : Prop where
  attributes : ∀ entry ∈ record.attributes.entries, entry.2.encode.nesting = 0
  children : ∀ entry ∈ record.children, ∃ records, entry.2 = .many records

theorem nesting_refs_le (refs : Dictionary String) (room : Nat) :
    (Codec.text.dictionary.encode refs).nesting ≤ room + 1 := by
  rw [Codec.dictionary, nesting_object_le]
  intro member isMember
  obtain ⟨entry, -, rfl⟩ := List.mem_map.mp isMember
  exact Nat.zero_le room

theorem Tabular.nesting_attributes_le {record : Record} (tabular : record.Tabular) (room : Nat) :
    (Attribute.codec.dictionary.encode record.attributes).nesting ≤ room + 1 := by
  rw [Codec.dictionary, nesting_object_le]
  intro member isMember
  obtain ⟨entry, isEntry, rfl⟩ := List.mem_map.mp isMember
  exact Nat.le_trans (Nat.le_of_eq (tabular.attributes entry isEntry)) (Nat.zero_le room)

/-- Under a role the records stand one bracket deeper. -/
theorem Tabular.nestingOfRoles_le {record : Record} (tabular : record.Tabular) {room : Nat} :
    nestingOfMembers (encodeRoles record.children) ≤ room + 1 ↔
      ∀ part ∈ record.parts, part.encode.nesting ≤ room := by
  have byRole : ∀ entry ∈ record.children,
      ((Child.codec codec).encode entry.2).nesting ≤ room + 1 ↔
        ∀ part ∈ entry.2.toList, part.encode.nesting ≤ room := by
    intro entry isEntry
    obtain ⟨records, list⟩ := tabular.children entry isEntry
    rw [list, Child.toList, Child.codec]
    simp only [Codec.list, nesting_list_le, List.forall_mem_map]
    rfl
  rw [nestingOfMembers_le_iff, @encodeRoles_eq_map codec.decode, List.forall_mem_map, parts,
    List.forall_mem_flatMap]
  exact forall₂_congr byRole

theorem encode_members (record : Record) :
    record.encode = .object ([
      ("id", .text record.id),
      ("type", .text record.kind),
      ("attributes", Attribute.codec.dictionary.encode record.attributes),
      ("children", .object (encodeRoles record.children)),
      ("refs", Codec.text.dictionary.encode record.refs)
    ] ++ (record.location.map fun location => ("location", Location.codec.encode location)).toList) := by
  cases record
  rw [encode]

/-- What does not stand under a role opens no more brackets than an empty record has. -/
theorem Tabular.nesting_encode {record : Record} (tabular : record.Tabular) :
    record.encode.nesting = nestingOfMembers (encodeRoles record.children) + 2 := by
  have attributes := tabular.nesting_attributes_le 0
  have refs := nesting_refs_le record.refs 0
  have location : nestingOfMembers (record.location.map fun location =>
      ("location", Location.codec.encode location)).toList ≤ 1 := by
    cases record.location with
    | none => exact Nat.zero_le 1
    | some location => exact Nat.le_refl 1
  rw [encode_members, nesting, List.cons_append, List.cons_append, List.cons_append,
    List.cons_append, List.cons_append, List.nil_append]
  simp only [nestingOfMembers, nesting]
  omega

/-- Where a record with roles stands `outer` brackets deep, its parts stand three deeper. -/
theorem Tabular.add_nesting_le {record : Record} (tabular : record.Tabular)
    (roles : record.children ≠ []) {outer room : Nat} :
    outer + record.encode.nesting ≤ room ↔
      outer + 3 ≤ room ∧ ∀ part ∈ record.parts, outer + 3 + part.encode.nesting ≤ room := by
  have list : 1 ≤ nestingOfMembers (encodeRoles record.children) := by
    cases children : record.children with
    | nil => exact absurd children roles
    | cons entry others =>
        rcases entry with ⟨role, child⟩
        obtain ⟨records, rfl⟩ := tabular.children (role, child) (by simp [children])
        exact Nat.le_trans (Nat.le_add_left 1 _) (Nat.le_max_left _ _)
  rw [tabular.nesting_encode]
  by_cases enough : outer + 3 ≤ room
  · obtain ⟨rest, rfl⟩ := Nat.exists_eq_add_of_le enough
    have inside : nestingOfMembers (encodeRoles record.children) ≤ rest + 1 ↔
        ∀ part ∈ record.parts, part.encode.nesting ≤ rest := tabular.nestingOfRoles_le
    simp only [Nat.add_le_add_iff_left, enough, true_and, ← inside]
    omega
  · constructor <;> omega

end Record

/-! ## Rendered records -/

/-- How deep the record of a state nests apart from the states inside it. -/
def State.ownNesting (state : State) : Nat :=
  if state.outgoing = [] then 3 else 5

namespace Renderer

open Machine

variable {renderer : Renderer}

theorem nesting_ofOption_text (value : Option String) :
    (Attribute.ofOption .text value).encode.nesting = 0 := by
  cases value <;> rfl

theorem ShowsTransition.nesting {index : TransitionIndex} {record : Record}
    (shows_ : renderer.machine.ShowsTransition renderer.outputKey index record) :
    record.encode.nesting = 2 := by
  obtain ⟨transition, target, -, -, -, attributes, -⟩ := shows_.content
  have tabular : record.Tabular := by
    constructor
    case attributes =>
      rw [attributes]
      intro entry member
      have listed := Dictionary.mem_of_mem_ofList member
      simp only [List.mem_cons, List.not_mem_nil, or_false] at listed
      rcases listed with rfl | rfl <;> exact nesting_ofOption_text _
    case children =>
      rw [shows_.children]
      exact List.forall_mem_nil _
  rw [tabular.nesting_encode, shows_.children]
  rfl

theorem tabular_stateRecord (state : State) (others finals : List Record) :
    (stateRecord state others finals).Tabular where
  attributes := by
    intro entry member
    cases List.mem_singleton.mp member
    exact nesting_ofOption_text _
  children := by simp [stateRecord]

theorem tabular_compositeRecord (state target : State) (others finals states : List Record) :
    (compositeRecord state target others finals states).Tabular where
  attributes := (tabular_stateRecord state others finals).attributes
  children := by simp [compositeRecord]

theorem tabular_machineRecord (machine : Machine) (entered : String) (states : List Record) :
    (machineRecord machine entered states).Tabular where
  attributes := by
    intro entry member
    cases List.mem_singleton.mp member
    rfl
  children := by simp [machineRecord]

/-- The transitions of a state take up two brackets more, if there are any. -/
theorem add_ownNesting_le {state : State} {others finals : List Record}
    (partitioned : renderer.partition state.outgoing = .ok (others, finals)) {outer room : Nat} :
    outer + state.ownNesting ≤ room ↔
      outer + 3 ≤ room ∧ ∀ part ∈ finals ++ others, outer + 3 + part.encode.nesting ≤ room := by
  obtain ⟨showOthers, showFinals⟩ := partition_shows partitioned
  have each : ∀ part ∈ finals ++ others, part.encode.nesting = 2 := by
    intro part member
    rcases List.mem_append.mp member with isFinal | isOther
    · obtain ⟨index, -, shows_⟩ := exists_left showFinals isFinal
      exact ShowsTransition.nesting shows_
    · obtain ⟨index, -, shows_⟩ := exists_left showOthers isOther
      exact ShowsTransition.nesting shows_
  have count : (finals ++ others).length = state.outgoing.length := by
    rw [List.length_append, ← showFinals.length_eq, ← showOthers.length_eq, ← List.length_append]
    exact (List.filter_append_perm _ _).length_eq
  rw [State.ownNesting]
  split
  case isTrue none =>
    have noParts : finals ++ others = [] := by
      rw [← List.length_eq_zero_iff, count, none, List.length_nil]
    simp [noParts]
  case isFalse some =>
    have hasParts : finals ++ others ≠ [] := by
      rw [← List.length_pos_iff, count]
      exact List.length_pos_iff.mpr some
    obtain ⟨part, member⟩ := List.exists_mem_of_ne_nil _ hasParts
    constructor
    · intro within
      refine ⟨by omega, fun other isPart => ?_⟩
      rw [each other isPart]
      exact within
    · rintro ⟨-, within⟩
      have inside := within part member
      rwa [each part member] at inside

theorem forall_mem_iff_of_forall₂ {α β : Type} {related : α → β → Prop} {left : List α}
    {right : List β} (all : List.Forall₂ related left right) {property : α → Prop}
    {other : β → Prop} (same : ∀ item ∈ left, ∀ image, related item image →
      (property item ↔ other image)) :
    (∀ item ∈ left, property item) ↔ ∀ image ∈ right, other image := by
  induction all with
  | nil => simp
  | cons first rest induction =>
      rw [List.forall_mem_cons, List.forall_mem_cons, same _ List.mem_cons_self _ first,
        induction fun item member => same item (List.mem_cons_of_mem _ member)]

/-- The record of a state nests as deep as those of the states inside it and its own
transitions make it, three brackets for each level. -/
theorem nesting_stateWithin_le (contained : renderer.machine.Contained) (levels : Nat)
    {index : StateIndex} {record : Record}
    (rendered : renderer.stateWithin levels index = .ok record) {outer room : Nat} :
    outer + 3 * renderer.machine.depth index + record.encode.nesting ≤ room ↔
      ∀ inner ∈ renderer.machine.subtree levels index, ∀ state,
        renderer.machine.state? inner = some state →
          outer + 3 * renderer.machine.depth inner + state.ownNesting ≤ room := by
  induction levels generalizing index record with
  | zero => cases rendered
  | succ levels induction =>
      obtain ⟨state, others, finals, found, partitioned, shape⟩ := stateWithin_eq_ok rendered
      have own : (∀ held, renderer.machine.state? index = some held →
          outer + 3 * renderer.machine.depth index + held.ownNesting ≤ room) ↔
          outer + 3 * renderer.machine.depth index + state.ownNesting ≤ room := by
        simp [found]
      rw [subtree, List.forall_mem_cons, own, add_ownNesting_le partitioned,
        childrenOf_of_state? found, List.forall_mem_flatMap]
      rcases shape with ⟨simple, rfl⟩ | ⟨composite, initial, target, states, shape⟩
      · rw [(tabular_stateRecord _ _ _).add_nesting_le (by simp [stateRecord]),
          parts_stateRecord, State.children_of_simple simple]
        simp
      · obtain ⟨-, -, renderedStates, rfl⟩ := shape
        have inside : (∀ child ∈ state.children, ∀ inner ∈ renderer.machine.subtree levels child,
              ∀ held, renderer.machine.state? inner = some held →
                outer + 3 * renderer.machine.depth inner + held.ownNesting ≤ room) ↔
            ∀ part ∈ states, outer + 3 * renderer.machine.depth index + 3 + part.encode.nesting ≤
              room := by
          apply forall_mem_iff_of_forall₂ (mapM_eq_ok.mp renderedStates)
          intro child member part renderedChild
          rw [← childrenOf_of_state? found] at member
          have deeper : outer + 3 * renderer.machine.depth child =
              outer + 3 * renderer.machine.depth index + 3 := by
            rw [contained.depth_child member]
            omega
          rw [← induction renderedChild, deeper]
        rw [(tabular_compositeRecord _ _ _ _ _).add_nesting_le (by simp [compositeRecord]),
          parts_compositeRecord, inside]
        simp only [List.forall_mem_append]
        tauto

/-- The record of a machine nests as deep as its deepest states make it. -/
theorem nesting_stateMachine_le (contained : renderer.machine.Contained)
    (depths : ∀ index < renderer.machine.states.length,
      renderer.machine.depth index ≤ renderer.maxDepth)
    {root : Record} (rendered : renderer.stateMachine = .ok root) {outer room : Nat} :
    outer + root.encode.nesting ≤ room ↔
      outer + 3 ≤ room ∧ ∀ index state, renderer.machine.state? index = some state →
        outer + 3 + 3 * renderer.machine.depth index + state.ownNesting ≤ room := by
  obtain ⟨states, renderedStates, rest⟩ := bind_eq_ok.mp rendered
  obtain ⟨entered, -, same⟩ := bind_eq_ok.mp rest
  have isRoot : machineRecord renderer.machine entered states = root := pure_eq_ok.mp same
  have atTop : (∀ index ∈ renderer.machine.topLevel,
      ∀ inner ∈ renderer.machine.subtree (renderer.maxDepth + 1) index, ∀ state,
        renderer.machine.state? inner = some state →
          outer + 3 + 3 * renderer.machine.depth inner + state.ownNesting ≤ room) ↔
      ∀ part ∈ states, outer + 3 + part.encode.nesting ≤ room := by
    apply forall_mem_iff_of_forall₂ (mapM_eq_ok.mp renderedStates)
    intro index member part renderedPart
    rw [← nesting_stateWithin_le contained _ renderedPart, contained.depth_eq_zero member]
  have everyState : (∀ inner ∈ renderer.machine.topLevel.flatMap
        (renderer.machine.subtree (renderer.maxDepth + 1)), ∀ state,
        renderer.machine.state? inner = some state →
          outer + 3 + 3 * renderer.machine.depth inner + state.ownNesting ≤ room) ↔
      ∀ index state, renderer.machine.state? index = some state →
        outer + 3 + 3 * renderer.machine.depth index + state.ownNesting ≤ room := by
    have listed : ∀ inner, inner ∈ renderer.machine.topLevel.flatMap
        (renderer.machine.subtree (renderer.maxDepth + 1)) ↔ inner < renderer.machine.states.length :=
      fun inner => (contained.subtrees_perm depths).mem_iff.trans List.mem_range
    constructor
    · intro all index state found
      exact all index ((listed index).mpr (lt_of_state? found)) state found
    · intro all inner _ state found
      exact all inner state found
  rw [← isRoot, (tabular_machineRecord _ _ _).add_nesting_le (by simp [machineRecord]),
    parts_machineRecord, ← atTop, ← everyState, List.forall_mem_flatMap]

/-! ## The order of roles -/

theorem ordered_of_roles {record : Record} {roles : List String}
    (same : record.children.map (·.1) = roles) (increasing : roles.Pairwise (· < ·)) :
    Entries.Ordered record.children := by
  rw [← same, List.pairwise_map] at increasing
  exact increasing

/-- Each record that shows an element has its roles in order. -/
theorem ordered_of_shows {machine : Machine} {outputKey : String} {element : Element}
    {record : Record} (shows_ : machine.Shows outputKey element record) :
    Entries.Ordered record.children := by
  cases element with
  | machine => exact ordered_of_roles (ShowsMachine.roles shows_) (by decide)
  | state index =>
      obtain ⟨state, -, showsState⟩ := shows_
      apply ordered_of_roles showsState.roles
      cases state.isComposite <;> decide
  | transition index =>
      rw [ShowsTransition.children shows_]
      exact .nil

theorem ordered_stateMachine (contained : renderer.machine.Contained)
    (adjacent : renderer.machine.Adjacent) {root : Record}
    (rendered : renderer.stateMachine = .ok root) : root.Ordered := by
  obtain ⟨-, order, -, related⟩ := stateMachine_shows contained adjacent rendered
  intro inner member
  rw [List.flatMap_singleton] at related
  obtain ⟨element, -, shows_⟩ := exists_left related member
  exact ordered_of_shows shows_

end Renderer

end Statechart
