import Mathlib.Data.List.Forall2
import Mathlib.Data.List.Nodup
import Mathlib.Data.List.Pairwise
import Mathlib.Logic.Function.Conjugate
import Statechart.Json.Structure
import Statechart.Proofs.Json.Codec

/-!
Structures that are read back. A field that is written is read into the structure at
hand, and one that is left out is filled in. Written members come first and missing
ones are filled at the end, so fields must not get in each other's way; then nothing is
left of the structure that reading began with.
-/

namespace Statechart.Json

variable {σ α : Type} {limit : Nat} {whole : σ}

theorem commute_iff {first second : σ → σ} :
    Function.Commute first second ↔ ∀ held, first (second held) = second (first held) :=
  Iff.rfl

namespace StructField

/-- Reading back what the field writes of `whole` changes a structure by `put`, and so
does filling the field in where it is left out. -/
structure Puts (field : StructField σ) (limit : Nat) (whole : σ) (put : σ → σ) : Prop where
  written : ∀ json, field.write whole = some json → ∀ room < limit, ∀ held,
    field.read room (Reading.ofJson json) held = within room json.nesting (put held)
  missing : field.write whole = none → ∀ held, field.absent held = some (put held)

variable {key : String} {codec : Codec α}

theorem puts_required {get : σ → α} {set : σ → α → σ}
    (readsBack : codec.ReadsBack limit (get whole)) :
    (required key codec get set).Puts limit whole fun held => set held (get whole) where
  written json write room below held := by
    cases write
    exact (congrArg (set held <$> ·) (readsBack room below)).trans (map_within (set held))
  missing write := by cases write

theorem puts_defaulted {default : α} {get : σ → α} {set : σ → α → σ}
    (readsBack : codec.ReadsBack limit (get whole)) :
    (defaulted key codec default get set).Puts limit whole fun held => set held (get whole) where
  written json write room below held := by
    cases write
    exact (congrArg (set held <$> ·) (readsBack room below)).trans (map_within (set held))
  missing write := by cases write

theorem puts_nullable {get : σ → Option α} {set : σ → Option α → σ} (neverNull : codec.NeverNull)
    (readsBack : ∀ value ∈ get whole, codec.ReadsBack limit value) :
    (nullable key codec get set).Puts limit whole fun held => set held (get whole) :=
  puts_defaulted (Codec.readsBack_optional neverNull readsBack)

theorem puts_omittable {get : σ → Option α} {set : σ → Option α → σ} (neverNull : codec.NeverNull)
    (readsBack : ∀ value ∈ get whole, codec.ReadsBack limit value) :
    (omittable key codec get set).Puts limit whole fun held => set held (get whole) where
  written json write room below held := by
    rcases Option.map_eq_some_iff.mp write with ⟨value, present, rfl⟩
    have read := Codec.readsBack_optional neverNull readsBack room below
    rw [present] at read
    rw [present]
    exact (congrArg (set held <$> ·) read).trans (map_within (set held))
  missing write held := by
    rw [Option.map_eq_none_iff.mp write]
    rfl

end StructField

/-! ## Reading members -/

/-- Fields with what each of them puts into a structure. -/
abbrev Laws (σ : Type) := List (StructField σ × (σ → σ))

namespace Laws

def putAll (laws : Laws σ) (held : σ) : σ :=
  laws.foldl (fun held law => law.2 held) held

def written (laws : Laws σ) (whole : σ) : Laws σ :=
  laws.filter fun law => (law.1.write whole).isSome

def missing (laws : Laws σ) (whole : σ) : Laws σ :=
  laws.filter fun law => !(law.1.write whole).isSome

def members (laws : Laws σ) (whole : σ) : List (String × Json) :=
  laws.filterMap fun law => (law.1.write whole).map fun value => (law.1.key, value)

/-- In any order the fields put the same. -/
theorem putAll_perm {laws others : Laws σ} (same : laws.Perm others)
    (commute : ∀ first ∈ laws, ∀ second ∈ laws, Function.Commute first.2 second.2) (held : σ) :
    laws.putAll held = others.putAll held :=
  same.foldl_eq' (fun first isFirst second isSecond held =>
    commute second isSecond first isFirst held) held

theorem written_missing_perm (laws : Laws σ) (whole : σ) :
    (laws.written whole ++ laws.missing whole).Perm laws :=
  List.filter_append_perm _ _

/-- The first field with the key of a field is that field. -/
theorem find?_key {laws : Laws σ} (distinct : (laws.map (·.1.key)).Nodup)
    {law : StructField σ × (σ → σ)} (member : law ∈ laws) :
    (laws.map (·.1)).find? (·.key == law.1.key) = some law.1 := by
  cases found : (laws.map (·.1)).find? (·.key == law.1.key) with
  | none =>
      have absent := List.find?_eq_none.mp found law.1 (List.mem_map_of_mem member)
      simp at absent
  | some field =>
      rcases List.mem_map.mp (List.mem_of_find?_eq_some found) with ⟨other, otherMember, rfl⟩
      have sameKey := List.find?_some found
      rw [List.inj_on_of_nodup_map distinct otherMember member (eq_of_beq sameKey)]

variable {laws : Laws σ} {room : Nat}

theorem readFields_members {fields : List (StructField σ)}
    (puts : ∀ law ∈ laws, law.1.Puts limit whole law.2) (below : room < limit)
    (known : ∀ law ∈ laws, fields.find? (·.key == law.1.key) = some law.1)
    (distinct : (laws.map (·.1.key)).Nodup) {seen : List String}
    (fresh : ∀ law ∈ laws, law.1.key ∉ seen) (held : σ) :
    (Members.ofJson (members laws whole)).readFields fields room seen held =
      within room (nestingOfMembers (members laws whole))
        (((written laws whole).map (·.1.key)).reverse ++ seen,
          putAll (written laws whole) held) := by
  induction laws generalizing seen held with
  | nil => exact within_zero.symm
  | cons law laws induction =>
      have own := puts law List.mem_cons_self
      have foundOwn := known law List.mem_cons_self
      have freshOwn := fresh law List.mem_cons_self
      rcases List.nodup_cons.mp distinct with ⟨newKey, distinctRest⟩
      have rest := @induction (fun later member => puts later (List.mem_cons_of_mem _ member))
        (fun later member => known later (List.mem_cons_of_mem _ member)) distinctRest
      have freshRest : ∀ later ∈ laws, later.1.key ∉ seen :=
        fun later member => fresh later (List.mem_cons_of_mem _ member)
      cases write : law.1.write whole with
      | none =>
          have sameMembers : members (law :: laws) whole = members laws whole := by
            simp [members, write]
          have sameWritten : written (law :: laws) whole = written laws whole := by
            simp [written, write]
          rw [sameMembers, sameWritten]
          exact rest freshRest held
      | some json =>
          have moreMembers : members (law :: laws) whole =
              (law.1.key, json) :: members laws whole := by
            simp [members, write]
          have moreWritten : written (law :: laws) whole = law :: written laws whole := by
            simp [written, write]
          have freshLater : ∀ later ∈ laws, later.1.key ∉ law.1.key :: seen := by
            intro later member among
            rcases List.mem_cons.mp among with same | among
            · exact newKey (List.mem_map.mpr ⟨later, member, same⟩)
            · exact freshRest later member among
          have notSeen : seen.contains law.1.key = false := by simpa using freshOwn
          rw [moreMembers, moreWritten, Members.ofJson, Members.readFields, foundOwn]
          simp only [notSeen, own.written json write room below held]
          rw [nestingOfMembers]
          apply within_bind
          rw [rest freshLater]
          simp [putAll]

theorem fillAbsent_missing {seen : List String}
    (puts : ∀ law ∈ laws, law.1.Puts limit whole law.2)
    (exact : ∀ law ∈ laws, law.1.key ∈ seen ↔ (law.1.write whole).isSome = true) (held : σ) :
    fillAbsent (laws.map (·.1)) seen held = .ok (putAll (missing laws whole) held) := by
  induction laws generalizing held with
  | nil => rfl
  | cons law laws induction =>
      have own := puts law List.mem_cons_self
      have rest := induction (fun later member => puts later (List.mem_cons_of_mem _ member))
        fun later member => exact later (List.mem_cons_of_mem _ member)
      have seenOwn := exact law List.mem_cons_self
      rw [List.map_cons, fillAbsent]
      cases write : law.1.write whole with
      | none =>
          have notSeen : seen.contains law.1.key = false := by simpa [write] using seenOwn
          simp only [notSeen, own.missing write held]
          rw [if_neg (by decide), rest]
          simp [missing, write, putAll]
      | some json =>
          have wasSeen : seen.contains law.1.key = true := by simpa [write] using seenOwn
          rw [if_pos wasSeen, rest]
          simp [missing, write]

theorem mem_written_iff (distinct : (laws.map (·.1.key)).Nodup) :
    ∀ law ∈ laws, law.1.key ∈ ((written laws whole).map (·.1.key)).reverse ++ [] ↔
      (law.1.write whole).isSome = true := by
  intro law member
  rw [List.append_nil, List.mem_reverse]
  constructor
  · intro listed
    rcases List.mem_map.mp listed with ⟨other, isWritten, sameKey⟩
    rcases List.mem_filter.mp isWritten with ⟨otherMember, holds⟩
    rwa [List.inj_on_of_nodup_map distinct otherMember member sameKey] at holds
  · intro holds
    exact List.mem_map_of_mem (List.mem_filter.mpr ⟨member, holds⟩)

end Laws

namespace Codec

theorem neverNull_ofFields {start : σ} {fields : List (StructField σ)} :
    (ofFields start fields).NeverNull := by
  intro value same
  cases same

theorem readsBack_ofLaws {laws : Laws σ} {start : σ}
    (puts : ∀ law ∈ laws, law.1.Puts limit whole law.2)
    (distinct : (laws.map (·.1.key)).Nodup)
    (commute : ∀ first ∈ laws, ∀ second ∈ laws, Function.Commute first.2 second.2)
    (complete : laws.putAll start = whole) :
    (ofFields start (laws.map (·.1))).ReadsBack (limit + 1) whole := by
  intro room below
  have encoded : (ofFields start (laws.map (·.1))).encode whole = .object (laws.members whole) := by
    simp [ofFields, Laws.members, List.filterMap_map]
  rw [encoded]
  cases room with
  | zero => exact within_no_room.symm
  | succ room =>
      have read := Laws.readFields_members puts (Nat.lt_of_succ_lt_succ below)
        (fun law member => Laws.find?_key distinct member) distinct (fun _ _ => List.not_mem_nil)
        start
      have filled := Laws.fillAbsent_missing puts (Laws.mem_written_iff distinct)
        ((laws.written whole).putAll start)
      have inOrder := Laws.putAll_perm (Laws.written_missing_perm laws whole).symm commute start
      have split : Laws.putAll (laws.written whole ++ laws.missing whole) start =
          (laws.missing whole).putAll ((laws.written whole).putAll start) := List.foldl_append
      rw [← split, ← inOrder, complete] at filled
      have next : (fun held : List String × σ => fillAbsent (laws.map (·.1)) held.1 held.2)
          (((laws.written whole).map (·.1.key)).reverse ++ [], (laws.written whole).putAll start) =
          within room 0 whole := filled.trans within_zero.symm
      have bothRead := congrArg (· >>= fun held => fillAbsent (laws.map (·.1)) held.1 held.2) read
      refine (bothRead.trans (within_bind next)).trans ?_
      rw [Nat.max_zero]
      exact within_succ.symm

/-- A structure is read back when its fields are, when their keys are different and
when together they make the whole of it. -/
theorem readsBack_ofFields {fields : List (StructField σ)} {puts : List (σ → σ)} {start : σ}
    (lawful : List.Forall₂ (fun field put => field.Puts limit whole put) fields puts)
    (distinct : (fields.map (·.key)).Nodup)
    (commute : puts.Pairwise Function.Commute)
    (complete : puts.foldl (fun held put => put held) start = whole) :
    (ofFields start fields).ReadsBack (limit + 1) whole := by
  rcases List.forall₂_iff_zip.mp lawful with ⟨length, lawfulPairs⟩
  have sameFields : (fields.zip puts).map (·.1) = fields :=
    List.map_fst_zip (Nat.le_of_eq length)
  have samePuts : (fields.zip puts).map (·.2) = puts :=
    List.map_snd_zip (Nat.le_of_eq length.symm)
  have symmetric : Std.Symm (@Function.Commute σ) := ⟨fun _ _ => Function.Commute.symm⟩
  have commuteAll := List.Pairwise.forall_of_forall (fun put _ => Function.Commute.refl put) commute
  rw [← sameFields]
  apply readsBack_ofLaws
  case puts => exact fun law member => lawfulPairs member
  case distinct =>
    rw [← sameFields, List.map_map] at distinct
    exact distinct
  case commute =>
    intro first isFirst second isSecond
    exact commuteAll (List.of_mem_zip isFirst).2 (List.of_mem_zip isSecond).2
  case complete =>
    rw [← samePuts, List.foldl_map] at complete
    exact complete

/-- A structure of one field. -/
theorem readsBack_ofField {field : StructField σ} {put : σ → σ} {start : σ}
    (lawful : field.Puts limit whole put) (complete : put start = whole) :
    (ofFields start [field]).ReadsBack (limit + 1) whole :=
  readsBack_ofFields (.cons lawful .nil) (List.nodup_singleton _) (List.pairwise_singleton _ _)
    complete

end Codec

end Statechart.Json
