import Mathlib.Logic.Relation
import Statechart.Proofs.Machine.Depth

/-!
Descent. From a state the initial states lead down, each to a state one level deeper
that stands further behind in the list, so there is a last one. It is simple, or a
composite that does not say how it is entered. A limit only decides whether the way
is walked to its end: `descend` answers what it finds there as soon as the limit
admits all entrances on the way. So a machine that says everywhere where it is entered
leads to a simple state within its depth.
-/

namespace Statechart.Machine

/-- The states on the way down from a state, which is the first of them: each is entered from
the one before, and the last one, which is `held` there, enters no other. -/
inductive WayDown (machine : Machine) (last : StateIndex) (held : State) :
    StateIndex → List StateIndex → Prop
  | arrive (found : machine.state? last = some held) (stops : held.initial = none) :
      WayDown machine last held last [last]
  | enter {index : StateIndex} {state : State} {initial : InitialState} {way : List StateIndex}
      (found : machine.state? index = some state) (entered : state.initial = some initial)
      (rest : WayDown machine last held initial.target way) :
      WayDown machine last held index (index :: way)

variable {machine : Machine} {index last : StateIndex} {held state : State}
  {initial : InitialState} {way : List StateIndex}

/-! ## The way -/

theorem Contained.lt_of_entered (contained : machine.Contained)
    (found : machine.state? index = some state) (entered : state.initial = some initial) :
    index < initial.target :=
  contained.parent?_lt (contained.parent?_of_child (contained.entered_child found entered).1)

/-- Entered states stand further behind, so with as many entrances as there are states
behind a state its way ends. -/
theorem Contained.exists_wayDown (contained : machine.Contained) (bound : Nat)
    (inRange : index < machine.states.length) (enough : machine.states.length ≤ bound + index) :
    ∃ last held way, machine.WayDown last held index way := by
  induction bound generalizing index with
  | zero =>
      rw [Nat.zero_add] at enough
      exact absurd inRange (Nat.not_lt_of_le enough)
  | succ bound induction =>
      rcases exists_state? inRange with ⟨state, found⟩
      cases entered : state.initial with
      | none => exact ⟨index, state, [index], .arrive found entered⟩
      | some initial =>
          have inside := (contained.entered_child found entered).1
          have enoughBehind := contained.length_le_of_child inside enough
          rcases induction (contained.lt_length inside) enoughBehind with ⟨last, held, way, rest⟩
          exact ⟨last, held, index :: way, .enter found entered rest⟩

namespace WayDown

theorem last_found (down : machine.WayDown last held index way) :
    machine.state? last = some held ∧ held.initial = none := by
  induction down with
  | arrive found stops => exact ⟨found, stops⟩
  | enter _ _ _ induction => exact induction

theorem length_le (contained : machine.Contained) (down : machine.WayDown last held index way) :
    index + way.length ≤ machine.states.length := by
  induction down with
  | arrive found _ => exact lt_of_state? found
  | enter found entered _ induction =>
      have behind := contained.lt_of_entered found entered
      rw [List.length_cons, Nat.add_comm _ 1, ← Nat.add_assoc]
      exact Nat.le_trans (Nat.add_le_add_right behind _) induction

theorem le_of_mem (contained : machine.Contained) (down : machine.WayDown last held index way) :
    ∀ passed ∈ way, index ≤ passed := by
  induction down with
  | arrive _ _ => simp
  | enter found entered _ induction =>
      have behind := contained.lt_of_entered found entered
      intro passed member
      rcases List.mem_cons.mp member with rfl | later
      · exact Nat.le_refl _
      · exact Nat.le_trans (Nat.le_of_lt behind) (induction passed later)

theorem increasing (contained : machine.Contained) (down : machine.WayDown last held index way) :
    way.Pairwise (· < ·) := by
  induction down with
  | arrive _ _ => exact List.pairwise_singleton _ _
  | enter found entered rest induction =>
      have behind := contained.lt_of_entered found entered
      exact List.pairwise_cons.mpr
        ⟨fun passed later => Nat.lt_of_lt_of_le behind (rest.le_of_mem contained passed later),
          induction⟩

/-- Each entrance goes one level down. -/
theorem depth_getElem? (contained : machine.Contained) (down : machine.WayDown last held index way)
    {place : Nat} {passed : StateIndex} (found : way[place]? = some passed) :
    machine.depth passed = machine.depth index + place := by
  induction down generalizing place with
  | arrive _ _ =>
      cases place with
      | zero =>
          cases found
          rfl
      | succ place => cases found
  | enter foundState entered _ induction =>
      cases place with
      | zero =>
          cases found
          rfl
      | succ place =>
          have deeper := contained.depth_child (contained.entered_child foundState entered).1
          rw [induction found, deeper, Nat.add_right_comm, Nat.add_assoc]

theorem depth_last (contained : machine.Contained) (down : machine.WayDown last held index way) :
    machine.depth last + 1 = machine.depth index + way.length := by
  induction down with
  | arrive _ _ => rfl
  | enter found entered _ induction =>
      have deeper := contained.depth_child (contained.entered_child found entered).1
      rw [induction, deeper, List.length_cons, Nat.add_right_comm, Nat.add_assoc]

theorem last_inside (contained : machine.Contained) (down : machine.WayDown last held index way) :
    Relation.ReflTransGen (fun inner outer => machine.parent? inner = some outer) last index := by
  induction down with
  | arrive _ _ => exact .refl
  | enter found entered _ induction =>
      have inside := (contained.entered_child found entered).1
      exact induction.tail (contained.parent?_of_child inside)

/-! ## Walking it -/

/-- The walk is cut short, or it comes to the end of the way. -/
theorem descend_eq (down : machine.WayDown last held index way) (limit looks : Nat) :
    machine.descend limit looks index =
      if looks < way.length then .error (.recursionLimit limit)
      else if held.isComposite then .error (.malformedTree held.id)
      else .ok last := by
  induction down generalizing looks with
  | arrive found stops =>
      cases looks with
      | zero => rfl
      | succ looks =>
          rw [descend, found, if_neg (by simp)]
          rcases held with ⟨id, _, _, _, _, _, _, _ | ⟨children, entrance⟩⟩
          · rfl
          · cases stops
            rfl
  | @enter index state initial way found entered _ induction =>
      cases looks with
      | zero => rw [descend, if_pos (by simp)]
      | succ looks =>
          have further : machine.descend limit (looks + 1) index =
              machine.descend limit looks initial.target := by
            rw [descend, found]
            rcases state with ⟨_, _, _, _, _, _, _, _ | ⟨children, entrance⟩⟩
            · cases entered
            · cases entered
              rfl
          simp only [further, induction, List.length_cons, Nat.add_lt_add_iff_right]

end WayDown

/-- Where every composite says how it is entered, a look for each level that may lie below
a state is enough to come to a simple one. -/
theorem Contained.descend_eq_ok (contained : machine.Contained) (entered : machine.Entered)
    {deepest : Nat} (depths : ∀ index < machine.states.length, machine.depth index ≤ deepest)
    (limit looks : Nat) (inRange : index < machine.states.length)
    (enough : deepest < looks + machine.depth index) :
    ∃ simple state, machine.descend limit looks index = .ok simple ∧
      machine.state? simple = some state ∧ state.isComposite = false := by
  rcases contained.exists_wayDown machine.states.length inRange (Nat.le_add_right _ _) with
    ⟨last, held, way, down⟩
  rcases down.last_found with ⟨found, stops⟩
  have simple : held.isComposite = false := by
    rw [← Bool.not_eq_true]
    intro composite
    rcases entered.exists_initial found composite with ⟨initial, set⟩
    cases stops.symm.trans set
  have toTheEnd : ¬looks < way.length := by
    have shallow := depths last (lt_of_state? found)
    have level := down.depth_last contained
    omega
  refine ⟨last, held, ?_, found, simple⟩
  rw [down.descend_eq, if_neg toTheEnd, simple]
  rfl

/-! ## Entering a state -/

/-- What entering a state comes to under each limit, told by the way down from it. -/
structure Resolves (machine : Machine) (index : StateIndex) (way : List StateIndex)
    (last : StateIndex) (held : State) : Prop where
  down : machine.WayDown last held index way
  stops : machine.state? last = some held ∧ held.initial = none
  short : way.length ≤ machine.states.length
  increasing : way.Pairwise (· < ·)
  deeper : ∀ {place passed}, way[place]? = some passed →
    machine.depth passed = machine.depth index + place
  limited : ∀ {limit}, machine.nestedInitialWithin limit index = .error (.recursionLimit limit) ↔
    limit < way.length - 1
  arrives : ∀ {limit}, way.length - 1 ≤ limit → machine.nestedInitialWithin limit index =
    if held.isComposite then .error (.malformedTree held.id) else .ok last
  inside : ∀ {limit entered}, machine.nestedInitialWithin limit index = .ok entered →
    Relation.ReflTransGen (fun inner outer => machine.parent? inner = some outer) entered index
  settled : ∀ {limit other}, way.length - 1 ≤ limit → way.length - 1 ≤ other →
    machine.nestedInitialWithin limit index = machine.nestedInitialWithin other index
  stays : ∀ {limit entered}, machine.nestedInitialWithin limit index = .ok entered →
    ∀ other, machine.nestedInitialWithin other entered = .ok entered
  initial : ∀ initial : InitialState, initial.target = index →
    initial.nested machine = machine.nestedInitialWithin machine.maxDepth index

theorem WayDown.resolves (contained : machine.Contained)
    (down : machine.WayDown last held index way) : machine.Resolves index way last held := by
  have outcome : ∀ limit, machine.nestedInitialWithin limit index =
      if limit < way.length - 1 then .error (.recursionLimit limit)
      else if held.isComposite then .error (.malformedTree held.id)
      else .ok last := by
    intro limit
    rw [nestedInitialWithin, down.descend_eq]
    simp only [Nat.lt_sub_iff_add_lt]
  have arrives : ∀ {limit}, way.length - 1 ≤ limit → machine.nestedInitialWithin limit index =
      if held.isComposite then .error (.malformedTree held.id) else .ok last := by
    intro limit enough
    rw [outcome, if_neg (Nat.not_lt_of_le enough)]
  -- Only a simple state is ever the answer, and it stands at the end of the way.
  have answered : ∀ {limit entered}, machine.nestedInitialWithin limit index = .ok entered →
      entered = last ∧ held.isComposite = false := by
    intro limit entered resolved
    rw [outcome] at resolved
    split at resolved
    case isTrue => cases resolved
    case isFalse =>
      cases composite : held.isComposite with
      | true => simp [composite] at resolved
      | false =>
          simp only [composite, Bool.false_eq_true, if_false, Except.ok.injEq] at resolved
          exact ⟨resolved.symm, rfl⟩
  constructor
  case down => exact down
  case stops => exact down.last_found
  case short => exact Nat.le_trans (Nat.le_add_left _ _) (down.length_le contained)
  case increasing => exact down.increasing contained
  case deeper => exact fun found => down.depth_getElem? contained found
  case limited =>
    intro limit
    rw [outcome]
    split
    case isTrue early => simp [early]
    case isFalse notEarly => cases held.isComposite <;> simp [notEarly]
  case arrives => exact arrives
  case inside =>
    intro limit entered resolved
    rw [(answered resolved).1]
    exact down.last_inside contained
  case settled =>
    intro limit other enough enoughToo
    rw [arrives enough, arrives enoughToo]
  case stays =>
    intro limit entered resolved other
    rcases answered resolved with ⟨rfl, simple⟩
    have arrived : machine.WayDown entered held entered [entered] :=
      .arrive down.last_found.1 down.last_found.2
    rw [nestedInitialWithin, arrived.descend_eq]
    simp [simple]
  case initial =>
    rintro initial rfl
    rfl

/-- Entering a state is decided by the way down from it, which every state has. -/
theorem Reachable.exists_resolves (reachable : machine.Reachable)
    (inRange : index < machine.states.length) :
    ∃ way last held, machine.Resolves index way last held := by
  have contained := reachable.contained
  rcases contained.exists_wayDown machine.states.length inRange (Nat.le_add_right _ _) with
    ⟨last, held, way, down⟩
  exact ⟨way, last, held, down.resolves contained⟩

/-- A composite inside a composite, entered first through one and then through another of
its states, which is reached under a limit of two entrances and not of one; beside them a
composite that does not say how it is entered. -/
theorem exists_resolves_door :
    let machine := ((Construction.start "door" none {}).run [
      .addComposite (some "shut") none none, .addComposite (some "locked") (some 0) none,
      .addSimple (some "once") (some 1) false none, .addSimple (some "twice") (some 1) false none,
      .addComposite (some "open") none none, .setCompositeInitial 0 1, .setCompositeInitial 1 2,
      .setCompositeInitial 1 3]).2.machine
    (∃ way last held, machine.Resolves 0 way last held) ∧
      machine.nestedInitialWithin 1 0 = .error (.recursionLimit 1) ∧
      machine.nestedInitialWithin 2 0 = .ok 3 ∧
      machine.nestedInitialWithin 2 4 = .error (.malformedTree "state-5") := by
  intro machine
  have reachable : machine.Reachable := reachable_run _ _ _ _
  exact ⟨reachable.exists_resolves (by decide), rfl, rfl, rfl⟩

end Statechart.Machine
