import Statechart.Declaration.Build

/-!
Actions on a draft that check something. `Drafting.Decides` says of an action that
it goes through exactly when there is no defect, and stops with the defect
otherwise; a sequence of such actions stops with the first defect among theirs.
-/

namespace Statechart.Drafting

def Decides {α : Type} (action : Drafting α) (draft : Draft) (defect : Option BuildError)
    (Result : α → Draft → Prop) : Prop :=
  match defect with
  | none => ∃ value after, action draft = .ok value after ∧ Result value after
  | some error => ∃ after, action draft = .error error after

variable {α β : Type} {draft : Draft}

theorem Decides.bind {first : Drafting α} {next : α → Drafting β} {early late : Option BuildError}
    {Middle : α → Draft → Prop} {Result : β → Draft → Prop}
    (decides : first.Decides draft early Middle)
    (then_decides : ∀ value middle, Middle value middle → (next value).Decides middle late Result) :
    (first >>= next).Decides draft (early.or late) Result := by
  cases early with
  | some error =>
      rcases decides with ⟨after, stopped⟩
      exact ⟨after, by simp [Bind.bind, EStateM.bind, stopped]⟩
  | none =>
      rcases decides with ⟨value, middle, passed, holds⟩
      have followed := then_decides value middle holds
      cases late with
      | some error =>
          rcases followed with ⟨after, stopped⟩
          exact ⟨after, by simp [Bind.bind, EStateM.bind, passed, stopped]⟩
      | none =>
          rcases followed with ⟨answer, after, passedToo, result⟩
          exact ⟨answer, after, by simp [Bind.bind, EStateM.bind, passed, passedToo], result⟩

/-- What follows has nothing to check. -/
theorem Decides.bind_pass {first : Drafting α} {next : α → Drafting β} {defect : Option BuildError}
    {Middle : α → Draft → Prop} {Result : β → Draft → Prop}
    (decides : first.Decides draft defect Middle)
    (then_passes : ∀ value middle, Middle value middle → (next value).Decides middle none Result) :
    (first >>= next).Decides draft defect Result := by
  have decided := decides.bind then_passes
  rwa [Option.or_none] at decided

theorem Decides.weaken {action : Drafting α} {defect : Option BuildError}
    {Strong Weak : α → Draft → Prop} (decides : action.Decides draft defect Strong)
    (implies : ∀ value after, Strong value after → Weak value after) :
    action.Decides draft defect Weak := by
  cases defect with
  | some error => exact decides
  | none =>
      rcases decides with ⟨value, after, passed, holds⟩
      exact ⟨value, after, passed, implies value after holds⟩

/-! Actions without a check of their own, last and before others. -/

theorem decides_pure {value : α} {Result : α → Draft → Prop} (holds : Result value draft) :
    Decides (pure value) draft none Result :=
  ⟨value, draft, rfl, holds⟩

theorem decides_modify {change : Draft → Draft} {Result : Unit → Draft → Prop}
    (holds : Result () (change draft)) : Decides (modify change) draft none Result :=
  ⟨(), change draft, rfl, holds⟩

theorem decides_construct {step : Construction → Except ConstructionError (α × Construction)}
    {answer : α} {construction : Construction} {Result : α → Draft → Prop}
    (accepted : step draft.construction = .ok (answer, construction))
    (holds : Result answer { draft with construction }) :
    Decides (construct step) draft none Result :=
  ⟨answer, { draft with construction }, by simp [construct, accepted], holds⟩

variable {defect : Option BuildError} {Result : β → Draft → Prop}

theorem Decides.get_bind {next : Draft → Drafting β}
    (decides : (next draft).Decides draft defect Result) :
    Decides (get >>= next) draft defect Result :=
  decides

theorem Decides.modify_bind {change : Draft → Draft} {next : Unit → Drafting β}
    (decides : (next ()).Decides (change draft) defect Result) :
    Decides (modify change >>= next) draft defect Result :=
  decides

theorem Decides.construct_bind {step : Construction → Except ConstructionError (α × Construction)}
    {answer : α} {construction : Construction} {next : α → Drafting β}
    (accepted : step draft.construction = .ok (answer, construction))
    (decides : (next answer).Decides { draft with construction } defect Result) :
    (Drafting.construct step >>= next).Decides draft defect Result := by
  have same : (Drafting.construct step >>= next) draft = next answer { draft with construction } := by
    simp [Bind.bind, EStateM.bind, construct, accepted]
  unfold Decides at decides ⊢
  rwa [same]

end Statechart.Drafting
