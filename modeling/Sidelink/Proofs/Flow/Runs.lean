import Mathlib.Data.List.Chain
import Sidelink.Proofs.Flow.Calls

/-!
# Runs of a flow

A run is any number of calls in any order, each with any random outcome.
-/

namespace Sidelink.Flow

variable {α : Type}

inductive Call (α : Type) where
  | sense (r : Report α)
  | enqueue (now : Slot) (nowUs : Nat) (p : Packet) (pool : ResourcePool)
  | onSlot (now : Slot) (nowUs : Nat)
  | teardown

def Call.slot? : Call α → Option Slot
  | .onSlot now _ => some now
  | _ => none

def slots (calls : List (Call α)) : List Slot := calls.filterMap Call.slot?

/-- No slot is skipped and none is visited again before a turn of the ring. -/
def Consecutive (calls : List (Call α)) : Prop := (slots calls).IsChain fun s t => t = s.next

instance (calls : List (Call α)) : Decidable (Consecutive calls) := inferInstanceAs (Decidable (List.IsChain _ _))

theorem slots_snoc (calls : List (Call α)) (c : Call α) : slots (calls ++ [c]) = slots calls ++ c.slot?.toList := by
  unfold slots
  rw [List.filterMap_append]
  cases hslot : c.slot? <;> simp [hslot]

theorem Consecutive.of_append {calls later : List (Call α)} (h : Consecutive (calls ++ later)) :
    Consecutive calls := by
  unfold Consecutive slots at h
  rw [List.filterMap_append] at h
  exact (List.isChain_append.1 h).1

theorem Consecutive.eq_next {calls : List (Call α)} {last now : Slot} {nowUs : Nat}
    (h : Consecutive (calls ++ [.onSlot now nowUs])) (hlast : (slots calls).getLast? = some last) :
    now = last.next := by
  unfold Consecutive at h
  rw [slots_snoc] at h
  exact (List.isChain_append.1 h).2.2 last hlast now rfl

/-- What a call gives back. -/
inductive Reply where
  | done
  | decided (d : Except FlowError Decision)
  | sent (t : Option Transmission)

/-! ## Parameters -/

section

variable {γ : Type} [RandomSource γ]

theorem Closed.params {f f' : Flow α} {r : Reservation} {used : Bool} (h : Closed γ f r used f') :
    f'.params = f.params := by
  cases h <;> rfl

theorem Passed.params {f f' : Flow α} {now : Slot} {nowUs : Nat} (h : Passed γ f now nowUs f') :
    f'.params = f.params := by
  cases h with
  | occasion _ _ hclosed => rw [noted_params, hclosed.params]; rfl
  | between => rw [noted_params]; rfl

end

section

variable [Analysis α] (γ : Type) [RandomSource γ]

inductive Step (f : Flow α) : Call α → Flow α → Prop where
  | sense {r : Report α} {f' : Flow α} : f.sense r = .ok f' → Step f (.sense r) f'
  | enqueue {now : Slot} {nowUs : Nat} {p : Packet} {pool : ResourcePool} (g : γ) :
      Step f (.enqueue now nowUs p pool) (f.enqueue now nowUs p pool g).2.1
  | onSlot {now : Slot} {nowUs : Nat} (g : γ) : Step f (.onSlot now nowUs) (f.onSlot now nowUs g).2.1
  | teardown : Step f .teardown f.teardown

inductive Run (f : Flow α) : List (Call α) → Flow α → Prop where
  | none : Run f [] f
  | snoc {calls : List (Call α)} {f' f'' : Flow α} {c : Call α} : Run f calls f' → Step γ f' c f'' →
      Run f (calls ++ [c]) f''

/-- A call with what it gives back. -/
inductive Exchange (f : Flow α) : Call α → Reply → Flow α → Prop where
  | sense {r : Report α} {f' : Flow α} : f.sense r = .ok f' → Exchange f (.sense r) .done f'
  | enqueue {now : Slot} {nowUs : Nat} {p : Packet} {pool : ResourcePool} (g : γ) :
      Exchange f (.enqueue now nowUs p pool) (.decided (f.enqueue now nowUs p pool g).1)
        (f.enqueue now nowUs p pool g).2.1
  | onSlot {now : Slot} {nowUs : Nat} (g : γ) :
      Exchange f (.onSlot now nowUs) (.sent (f.onSlot now nowUs g).1) (f.onSlot now nowUs g).2.1
  | teardown : Exchange f .teardown .done f.teardown

/-- A run with what each of its calls gave back. -/
inductive Recorded (f : Flow α) : List (Call α × Reply) → Flow α → Prop where
  | none : Recorded f [] f
  | snoc {log : List (Call α × Reply)} {f' f'' : Flow α} {c : Call α} {reply : Reply} : Recorded f log f' →
      Exchange γ f' c reply f'' → Recorded f (log ++ [(c, reply)]) f''

variable {γ}

theorem Run.append {f f' f'' : Flow α} {calls later : List (Call α)} (h : Run γ f calls f')
    (hlater : Run γ f' later f'') : Run γ f (calls ++ later) f'' := by
  induction hlater with
  | none => rwa [List.append_nil]
  | snoc _ hstep ih =>
    rw [← List.append_assoc]
    exact ih.snoc hstep

theorem Run.keeps {P : Flow α → Prop} {f f' : Flow α} {calls : List (Call α)} (h : Run γ f calls f')
    (hstep : ∀ a c b, c ∈ calls → P a → Step γ a c b → P b) (h₀ : P f) : P f' := by
  induction h with
  | none => exact h₀
  | snoc _ hlast ih =>
    refine hstep _ _ _ (by simp) (ih fun a c b hc => hstep a c b ?_) hlast
    exact List.mem_append_left _ hc

theorem Step.handed {f f' : Flow α} {now : Slot} {nowUs : Nat} {p : Packet} {pool : ResourcePool}
    (h : Step γ f (.enqueue now nowUs p pool) f') :
    ∃ (g : γ) (d : Except FlowError Decision) (g' : γ), Handed f now nowUs p pool g d f' g' := by
  cases h with
  | enqueue g => exact ⟨g, _, _, enqueue_handed rfl⟩

theorem Step.passed {f f' : Flow α} {now : Slot} {nowUs : Nat} (h : Step γ f (.onSlot now nowUs) f') :
    Passed γ f now nowUs f' := by
  cases h with
  | onSlot g => exact (onSlot_passed rfl).2

theorem Handed.params {f f' : Flow α} {now : Slot} {nowUs : Nat} {p : Packet} {pool : ResourcePool} {g g' : γ}
    {d : Except FlowError Decision} (h : Handed f now nowUs p pool g d f' g') : f'.params = f.params := by
  cases h with
  | dropped => exact refreshed_params f nowUs
  | reused => rw [queue_params]; exact refreshed_params f nowUs
  | selected => rw [reserved_params]; exact selecting_params f nowUs
  | refused => exact selecting_params f nowUs

theorem Step.params {f f' : Flow α} {c : Call α} (h : Step γ f c f') : f'.params = f.params := by
  cases h with
  | sense hsense =>
    obtain ⟨_, -, rfl⟩ := sense_heard hsense
    exact awake_params f
  | enqueue g => exact (enqueue_handed rfl).params
  | onSlot g => exact (onSlot_passed rfl).2.params
  | teardown => rfl

theorem Run.params {f f' : Flow α} {calls : List (Call α)} (h : Run γ f calls f') : f'.params = f.params :=
  h.keeps (P := fun a => a.params = f.params) (fun _ _ _ _ ha hstep => hstep.params.trans ha) rfl

end

end Sidelink.Flow
