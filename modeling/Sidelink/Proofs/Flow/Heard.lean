import Sidelink.Proofs.Fault
import Sidelink.Proofs.Flow.Runs

/-!
# What a flow has heard

A message stays in the history of a flow, one entry for each of its sub-channels, until it is older than the sensing
window or the flow ends.
-/

namespace Sidelink

variable {α : Type}

/-! ## Sub-channels of a message -/

theorem Resource.subchannels_of_rbs {r : Resource} {size : Nat} (hsize : 0 < size) (hcount : 0 < r.count) :
    List.range' (r.rbStart size / size) ((max (r.rbCount size) 1 + size - 1) / size) = r.subchannels := by
  have hfirst : r.rbStart size / size = r.start := Nat.mul_div_cancel _ hsize
  have hrbs : max (r.rbCount size) 1 = r.count * size := Nat.max_eq_left (Nat.mul_pos hcount hsize)
  have hlength : (r.count * size + size - 1) / size = r.count := by
    rw [Nat.add_sub_assoc hsize, Nat.add_comm, Nat.add_mul_div_right _ _ hsize,
      Nat.div_eq_of_lt (by omega), Nat.zero_add]
  rw [hfirst, hrbs, hlength, subchannels]

/-- The entries of a message, one for each sub-channel from its first RB on. -/
def Report.entries (r : Report α) (size : Nat) : List (Sensed α) :=
  if size = 0 ∨ r.rbCount = 0 then []
  else (List.range' (r.rbStart / size) ((r.rbCount + size - 1) / size)).map r.on

namespace History

variable {ε : Type} [OfFault ε] {h h' : History α} {r : Report α} {size : Nat}

theorem record_ok_iff : h.record (ε := ε) r size = .ok h' ↔
    (size = 0 ∨ r.rbCount = 0 ∨ r.rbStart / size + (r.rbCount + size - 1) / size < limit16) ∧
      h' = { h with sensed := h.sensed ++ r.entries size } := by
  unfold record Report.entries
  by_cases hempty : size = 0 ∨ r.rbCount = 0
  · rw [if_pos hempty, if_pos hempty, List.append_nil, ← or_assoc]
    simp only [hempty, true_or, true_and]
    exact ⟨fun hok => (Except.ok.inj hok).symm, fun heq => heq ▸ rfl⟩
  · rw [if_neg hempty, if_neg hempty, ← or_assoc, or_iff_right hempty]
    constructor
    · intro hok
      obtain ⟨_, hword, hok⟩ := ok_of_bind hok
      cases hok
      exact ⟨(of_word16 hword).2, rfl⟩
    · rintro ⟨hword, rfl⟩
      dsimp only
      rw [(Gives.word16 _).ok hword]
      rfl

theorem mem_of_record (hrecord : h.record (ε := ε) r size = .ok h') {s : Sensed α} (hs : s ∈ h.sensed) :
    s ∈ h'.sensed := by
  obtain ⟨-, rfl⟩ := record_ok_iff.1 hrecord
  exact List.mem_append_left _ hs

theorem of_mem_record (hrecord : h.record (ε := ε) r size = .ok h') {s : Sensed α} (hs : s ∈ h'.sensed) :
    s ∈ h.sensed ∨ ∃ subchannel, s = r.on subchannel := by
  obtain ⟨-, rfl⟩ := record_ok_iff.1 hrecord
  refine (List.mem_append.1 hs).imp_right fun hs => ?_
  unfold Report.entries at hs
  split at hs
  · cases hs
  · obtain ⟨subchannel, -, rfl⟩ := List.mem_map.1 hs
    exact ⟨subchannel, rfl⟩

theorem on_mem_of_record (hrecord : h.record (ε := ε) r size = .ok h') (hsize : 0 < size) (hrbs : 0 < r.rbCount)
    {subchannel : Nat} (hmem : subchannel ∈ List.range' (r.rbStart / size) ((r.rbCount + size - 1) / size)) :
    r.on subchannel ∈ h'.sensed := by
  obtain ⟨-, rfl⟩ := record_ok_iff.1 hrecord
  refine List.mem_append_right _ ?_
  rw [Report.entries, if_neg (by omega)]
  exact List.mem_map_of_mem hmem

theorem mem_prune {nowUs windowUs : Nat} {s : Sensed α} (hs : s ∈ h.sensed)
    (hwindow : nowUs - windowUs ≤ s.receivedUs) : s ∈ (h.prune nowUs windowUs).sensed :=
  List.mem_filter.2 ⟨hs, by simpa using hwindow⟩

end History

/-! ## Calls -/

namespace Flow

/-- A call that takes in no packet later than a time, and does not end the flow. -/
def Call.Until (nowUs : Nat) : Call α → Prop
  | .enqueue _ arrivedUs _ _ => arrivedUs ≤ nowUs
  | .teardown => False
  | _ => True

theorem noted_sensed (f : Flow α) (sent : Option Transmission) (now : Slot) (nowUs : Nat) :
    (f.noted sent now nowUs).history.sensed = f.history.sensed := by
  cases sent <;> rfl

section

variable {γ : Type} [RandomSource γ] {f f' : Flow α}

theorem Closed.history {r : Reservation} {used : Bool} (h : Closed γ f r used f') : f'.history = f.history := by
  cases h <;> rfl

theorem Passed.sensed {now : Slot} {nowUs : Nat} (h : Passed γ f now nowUs f') :
    f'.history.sensed = f.history.sensed := by
  cases h with
  | occasion _ _ hclosed => rw [noted_sensed, hclosed.history]; rfl
  | between => rw [noted_sensed]; rfl

end

section

variable [Analysis α] {γ : Type} [RandomSource γ] {f f' : Flow α}

theorem Handed.history {now : Slot} {nowUs : Nat} {p : Packet} {pool : ResourcePool} {g g' : γ}
    {d : Except FlowError Decision} (h : Handed f now nowUs p pool g d f' g') :
    f'.history = f.history.prune nowUs f.params.sensingWindowUs := by
  cases h with
  | dropped => exact refreshed_history f nowUs
  | reused => rw [queue_history]; exact refreshed_history f nowUs
  | selected => rw [reserved_history, selecting_history, refreshed_history]
  | refused => exact (selecting_history f nowUs).trans (refreshed_history f nowUs)

theorem Step.keeps_sensed {c : Call α} {s : Sensed α} {nowUs : Nat} (h : Step γ f c f') (huntil : c.Until nowUs)
    (hwindow : nowUs - f.params.sensingWindowUs ≤ s.receivedUs) (hs : s ∈ f.history.sensed) :
    s ∈ f'.history.sensed := by
  cases c with
  | sense r =>
    cases h with
    | sense hsense =>
      obtain ⟨history, hrecord, rfl⟩ := sense_heard hsense
      exact History.mem_of_record hrecord hs
  | enqueue now arrivedUs p pool =>
    obtain ⟨_, _, _, hhanded⟩ := h.handed
    have hearlier : arrivedUs ≤ nowUs := huntil
    rw [hhanded.history]
    exact History.mem_prune hs (by omega)
  | onSlot now atUs =>
    rw [h.passed.sensed]
    exact hs
  | teardown => exact huntil.elim

theorem Run.keeps_sensed {calls : List (Call α)} {s : Sensed α} {nowUs : Nat} (h : Run γ f calls f')
    (huntil : ∀ c ∈ calls, c.Until nowUs) (hwindow : nowUs - f.params.sensingWindowUs ≤ s.receivedUs)
    (hs : s ∈ f.history.sensed) : s ∈ f'.history.sensed := by
  refine (h.keeps (P := fun a => a.params = f.params ∧ s ∈ a.history.sensed) (fun a c b hc ha hstep => ?_)
    ⟨rfl, hs⟩).2
  exact ⟨hstep.params.trans ha.1, hstep.keeps_sensed (huntil c hc) (ha.1 ▸ hwindow) ha.2⟩

end

end Flow

end Sidelink
