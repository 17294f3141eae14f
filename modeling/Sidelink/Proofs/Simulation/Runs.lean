import Sidelink.Proofs.Fault
import Sidelink.Simulation.Run

/-!
# States of a run

The states that a run goes through between its events, and that its loop gives no others.
-/

namespace Sidelink

def Stepped.ok? {ε σ : Type} (r : Stepped ε σ) : Option σ := r.1.toOption.map fun _ => r.2

theorem Stepped.of_ok? {ε σ : Type} {r : Stepped ε σ} {s : σ} (h : r.ok? = some s) : r = (.ok (), s) := by
  obtain ⟨u, hu, rfl⟩ := Option.map_eq_some_iff.1 h
  exact Prod.ext (ok_of_toOption hu) rfl

namespace World

variable {α γ : Type} [Analysis α] [RandomSource γ]

/-- The states of a run after some of its events, none of which ended in an error. -/
inductive Reached (endUs : Nat) (w₀ : World α γ) : World α γ → Prop where
  | start : Reached endUs w₀ w₀
  | event {w w' : World α γ} {m : Moment} {e : Event} {agenda : Agenda Event} : Reached endUs w₀ w →
      w.agenda.pop = some ((m, e), agenda) → m.time < endUs → handle e { w with agenda } = (.ok (), w') →
      Reached endUs w₀ w'

variable {endUs : Nat} {w₀ w w' : World α γ}

theorem Reached.keeps {P : World α γ → Prop} (h : Reached endUs w₀ w)
    (hevent : ∀ w e agenda w', P w → handle e { w with agenda } = (.ok (), w') → P w') (h₀ : P w₀) : P w := by
  induction h with
  | start => exact h₀
  | event _ _ _ hhandle ih => exact hevent _ _ _ _ ih hhandle

theorem handleUntil_succ {n : Nat} {m : Moment} {e : Event} {agenda : Agenda Event}
    (hpop : w.agenda.pop = some ((m, e), agenda)) (hbefore : m.time < endUs)
    (hhandle : handle e { w with agenda } = (.ok (), w')) :
    handleUntil endUs (n + 1) w = handleUntil endUs n w' := by
  rw [handleUntil, hpop]
  simp only [if_neg (Nat.not_le.2 hbefore), hhandle]

theorem reached_of_handleUntil {n : Nat} (h : Reached endUs w₀ w) (hend : handleUntil endUs n w = (.ok (), w')) :
    Reached endUs w₀ w' := by
  induction n generalizing w with
  | zero => cases hend; exact h
  | succ n ih =>
    unfold handleUntil at hend
    split at hend
    · cases hend; exact h
    · rename_i hpop
      split at hend
      · cases hend; exact h
      · rename_i hbefore
        split at hend
        · cases hend
        · rename_i hhandle
          exact ih (h.event hpop (Nat.not_le.1 hbefore) hhandle) hend

theorem handleUntil_of_event {n : Nat} {w₁ : World α γ} {m : Moment} {e : Event} {agenda : Agenda Event}
    (h : handleUntil endUs n w = (.ok (), w₁)) (hpop : w₁.agenda.pop = some ((m, e), agenda))
    (hbefore : m.time < endUs) (hhandle : handle e { w₁ with agenda } = (.ok (), w')) :
    ∃ k, handleUntil endUs k w = (.ok (), w') := by
  induction n generalizing w with
  | zero =>
    cases h
    exact ⟨1, handleUntil_succ hpop hbefore hhandle⟩
  | succ n ih =>
    unfold handleUntil at h
    split at h
    · rename_i hnone
      cases h
      rw [hpop] at hnone
      cases hnone
    · rename_i hpop₀
      split at h
      · cases h
        rename_i hlate
        rw [hpop] at hpop₀
        cases hpop₀
        omega
      · rename_i hbefore₀
        split at h
        · cases h
        · rename_i hhandle₀
          obtain ⟨k, hk⟩ := ih h
          exact ⟨k + 1, by rw [handleUntil_succ hpop₀ (Nat.not_le.1 hbefore₀) hhandle₀, hk]⟩

/-- The states of a run are those in which its loop ends for some number of events. -/
theorem reached_iff : Reached endUs w₀ w ↔ ∃ n, handleUntil endUs n w₀ = (.ok (), w) := by
  constructor
  · intro h
    induction h with
    | start => exact ⟨0, rfl⟩
    | event _ hpop hbefore hhandle ih =>
      obtain ⟨n, hn⟩ := ih
      exact handleUntil_of_event hn hpop hbefore hhandle
  · rintro ⟨n, hn⟩
    exact reached_of_handleUntil .start hn

theorem reached_of_run (h : w₀.run = (.ok (), w)) :
    Reached (w₀.setup.config.simulation.durationMs * 1000) w₀ w := by
  unfold run runUntil at h
  split at h
  · cases h
  · rename_i hword
    unfold word64 at hword
    split at hword
    · cases hword
      exact reached_of_handleUntil .start h
    · cases hword

end World

end Sidelink
