/-!
Loops without a bound. A loop is given by what one turn makes of the data that it
works on, which is nothing where its condition no longer holds. A function with a
bound stands for such a loop when the loop ends, and ends with the same data.
-/

namespace Statechart

/-- The loop makes exactly so many turns and then stops with the last data. -/
inductive EndsAfter {σ : Type} (turn : σ → Option σ) : Nat → σ → σ → Prop
  | stop {last : σ} (stops : turn last = none) : EndsAfter turn 0 last last
  | go {turns : Nat} {held next last : σ} (goes : turn held = some next)
      (rest : EndsAfter turn turns next last) : EndsAfter turn (turns + 1) held last

namespace EndsAfter

variable {σ : Type} {turn : σ → Option σ} {turns others : Nat} {first last other : σ}

theorem unique (ends : EndsAfter turn turns first last)
    (endsToo : EndsAfter turn others first other) : others = turns ∧ other = last := by
  induction ends generalizing others with
  | stop stops =>
      cases endsToo with
      | stop _ => exact ⟨rfl, rfl⟩
      | go goes _ => cases stops.symm.trans goes
  | go goes _ induction =>
      cases endsToo with
      | stop stops => cases stops.symm.trans goes
      | go goesToo rest =>
          cases goes.symm.trans goesToo
          rcases induction rest with ⟨rfl, rfl⟩
          exact ⟨rfl, rfl⟩

/-- A loop that ends has one end only, after one number of turns. -/
theorem iff (ends : EndsAfter turn turns first last) (count : Nat) (reached : σ) :
    EndsAfter turn count first reached ↔ count = turns ∧ reached = last := by
  constructor
  · exact ends.unique
  · rintro ⟨rfl, rfl⟩
    exact ends

end EndsAfter

end Statechart
