import Sidelink.Proofs.Flow.Fit
import Sidelink.Proofs.Flow.Occasions
import Sidelink.Proofs.Sensing.Coverage
import Sidelink.Proofs.Simulation.Avoidance

/-!
# Foreseen occasions

A first transmission advertises how often its reservation will still be used, itself included. The sender takes one off
with every occasion. A receiver that follows the counter goes that many intervals ahead, and so it knows every occasion
that the sender has left.
-/

namespace Sidelink

namespace Flow

variable {α : Type} [Analysis α] {γ : Type} [RandomSource γ] {f f' : Flow α} {t : Transmission} {calls : List (Call α)}

/-! ## The sender -/

theorem Run.size_pos {params : FlowParams α} (h : Run γ { params } calls f) {r : Reservation}
    (hr : f.reservation = some r) : 0 < params.subchannelSize := by
  let Sized (a : Flow α) : Prop := a.params = params ∧ (a.reservation.isSome = true → 0 < params.subchannelSize)
  have hsized : Sized f := by
    refine h.keeps (fun a c b _ ha hstep => ⟨hstep.params.trans ha.1, fun hb => ?_⟩) ⟨rfl, by simp⟩
    cases c with
    | sense report =>
      cases hstep with
      | sense hsense =>
        obtain ⟨_, -, rfl⟩ := sense_heard hsense
        exact ha.2 (awake_reservation a ▸ hb)
    | enqueue now nowUs p pool =>
      obtain ⟨g, d, g', hhanded⟩ := hstep.handed
      rcases hhanded.reservation with ⟨-, size, hreservation⟩ | ⟨-, choice, hchoose, -⟩
      · rw [hreservation, Option.isSome_map] at hb
        exact ha.2 hb
      · have hsizing := (choose_chosen hchoose).sized.1
        rw [refreshed_params, ha.1] at hsizing
        exact (sizing_carries hsizing).size_pos
    | onSlot now nowUs =>
      cases hr : a.reservation with
      | some r => exact ha.2 (by rw [hr]; rfl)
      | none =>
        rw [(hstep.passed.between_reservation (by simp [hr])).2, hr] at hb
        cases hb
    | teardown =>
      cases hstep
      cases hb
  exact hsized.2 (by rw [hr]; rfl)

/-- What is left of a reservation that a transmission advertised, some intervals later. -/
def CountsDown (t : Transmission) (f : Flow α) : Prop :=
  ∀ r, f.reservation = some r → r.rriMs = t.rriMs ∧
    ∃ k, 1 ≤ k ∧ k + r.counter = t.counter ∧ r.resource.slot = t.slot + k * f.params.slotsInMs t.rriMs

theorem CountsDown.step {c : Call α} (h : f.CountsDown t) (hkeep : ¬(0.0 : α) < f.params.keepProbability)
    (hend : c ≠ .teardown) (hstep : Step γ f c f') (hsame : f'.stats.selections = f.stats.selections) :
    f'.CountsDown t := by
  intro r' hr'
  rw [hstep.params]
  cases hc : c.slot? with
  | none =>
    obtain ⟨-, size, hreservation⟩ := hstep.rests hc hend hsame
    rw [hreservation, Option.map_eq_some_iff] at hr'
    obtain ⟨r, hr, rfl⟩ := hr'
    exact h r hr
  | some now =>
    obtain ⟨nowUs, rfl⟩ : ∃ nowUs, c = .onSlot now nowUs := by
      cases c <;> cases hc
      exact ⟨_, rfl⟩
    by_cases hoccasion : ∃ r, f.reservation = some r ∧ r.resource.slot = now
    · obtain ⟨r, hr, hslot⟩ := hoccasion
      obtain ⟨hrri, k, hk, hcounter, hfrom⟩ := h r hr
      obtain ⟨-, hreservation⟩ := hstep.occasion hkeep hr hslot
      rw [hreservation] at hr'
      split at hr'
      · cases hr'
        refine ⟨hrri, k + 1, by omega, ?_, ?_⟩
        · simp only [Reservation.advance]
          omega
        · rw [Reservation.advance, Resource.shifted_slot, hfrom, Slot.add_add, hrri, Nat.succ_mul]
      · cases hr'
    · rw [(hstep.passed.between_reservation fun r hr hslot => hoccasion ⟨r, hr, hslot⟩).2] at hr'
      exact h r' hr'

theorem CountsDown.run (h : f.CountsDown t) (hkeep : ¬(0.0 : α) < f.params.keepProbability)
    (hend : ∀ c ∈ calls, c ≠ .teardown) (hrun : Run γ f calls f') (hsame : f'.stats.selections = f.stats.selections) :
    f'.CountsDown t := by
  induction hrun with
  | none => exact h
  | @snoc calls a b c hrun hstep ih =>
    have hle := hrun.selections_le
    have hle' := hstep.selections_le
    have ha := ih (fun c hc => hend c (by simp [hc])) (by omega)
    exact ha.step (hrun.params ▸ hkeep) (hend c (by simp)) hstep (by omega)

theorem Consistent.countsDown {now : Slot} {nowUs : Nat} {g g' : γ} (h : f.Consistent)
    (hsent : f.onSlot now nowUs g = (some t, f', g')) (hfirst : t.isRetransmission = false) (hreserved : 0 < t.rriMs)
    (hkeep : ¬(0.0 : α) < f.params.keepProbability) : f'.CountsDown t := by
  have hstep : Step γ f (.onSlot now nowUs) f' := by
    have hcall : Step γ f (.onSlot now nowUs) (f.onSlot now nowUs g).2.1 := .onSlot g
    rwa [hsent] at hcall
  cases due_sent (onSlot_passed hsent).1.symm with
  | second | owed => cases hfirst
  | @first q hq hunsent hnow =>
    obtain ⟨r, hr, hrri, hcounter⟩ := transmission_held hreserved
    obtain ⟨r', hr', hresource, -⟩ := h.unsent q hq hunsent
    rw [hr] at hr'
    cases hr'
    obtain ⟨-, hreservation⟩ := hstep.occasion hkeep hr (hresource ▸ hnow)
    intro s hs
    rw [hreservation] at hs
    split at hs
    · cases hs
      refine ⟨hrri.symm, 1, le_rfl, ?_, ?_⟩
      · rw [hcounter, Reservation.advance]
        dsimp only
        omega
      · rw [Reservation.advance, Resource.shifted_slot, hresource, hstep.params, hrri, Nat.one_mul]
        rfl
    · cases hs

omit [Analysis α] in
theorem Sent.advertised {now : Slot} (h : f.Sent now t) (hreserved : 0 < t.rriMs) :
    ∃ r, f.reservation = some r ∧ t.rriMs = r.rriMs ∧ t.counter = r.counter := by
  obtain ⟨-, q, -, ht, -⟩ := h.held
  rw [ht] at hreserved ⊢
  exact transmission_held hreserved

end Flow

/-! ## The receiver -/

section

variable {α : Type} {p : Projection} {s : Sensed α}

theorem Sensed.inWords_of_bounded (hrri : s.rriMs ≤ 1000) (hcounter : s.counter ≤ 75) (hslots : p.slotsPerMs ≤ 4)
    (ht2 : p.t2 + 4000 ≤ limit32) : s.InWords p := by
  intro _
  have hinterval : s.interval p ≤ 4000 := Nat.mul_le_mul hrri hslots
  have hcounted : s.counter * s.interval p ≤ 75 * 4000 := Nat.mul_le_mul hcounter hinterval
  have hcovered : (p.t2 + s.interval p - 1) / s.interval p * s.interval p ≤ p.t2 + s.interval p - 1 :=
    Nat.div_mul_le_self ..
  simp only [limit32] at ht2 ⊢
  refine ⟨by omega, ?_⟩
  have hcovering : (if s.interval p < p.t2 ∧ p.now.since s.slot ≤ s.interval p ∧ ¬s.isRetransmission then
      (p.t2 + s.interval p - 1) / s.interval p else 1) * s.interval p < 4294967296 := by
    split <;> omega
  unfold followed
  dsimp only
  generalize (if s.interval p < p.t2 ∧ p.now.since s.slot ≤ s.interval p ∧ ¬s.isRetransmission then
    (p.t2 + s.interval p - 1) / s.interval p else 1) = covering at hcovering ⊢
  split
  · rcases Nat.le_total covering s.counter with hle | hle
    · rw [Nat.max_eq_right hle]
      omega
    · rwa [Nat.max_eq_left hle]
  · exact hcovering

end

/-! ## From one node to another -/

section

variable {α : Type} [Analysis α] {γ : Type} [RandomSource γ] {ε : Type} [OfFault ε]

/-- Node `a` sends a packet for the first time and advertises its reservation, and node `b` hears it and projects what
it has heard, with counters followed, at some later slot. Whatever else it has heard, its map has a cell on every
sub-channel of the transmission in each slot from then on that is an occasion of the reservation, as `a` holds it after
any further calls without a new selection. The projection itself fails only for another report that is out of bounds. -/
theorem occasions_foreseen {params : FlowParams α} {before after calls : List (Flow.Call α)} {a a₁ a₂ b b₁ b₂ : Flow α}
    {sentAt : Slot} {sentUs heardUs : Nat} {g g' : γ} {t : Transmission} {onAir : OnAir α} {signalMw : α}
    {report : Report α} {p : Projection}
    (hreach : Flow.Run γ { params } before a) (hkeep : ¬(0.0 : α) < params.keepProbability)
    (hsent : a.onSlot sentAt sentUs g = (some t, a₁, g')) (hfirst : t.isRetransmission = false)
    (hreserved : 0 < t.rriMs) (hair : onAir.tx = t)
    (hreport : AtNode.reportOf onAir heardUs (max t.rbCount 1) signalMw = .ok report)
    (hheard : b.sense report = .ok b₁) (hsize : b.params.subchannelSize = params.subchannelSize)
    (hrun : Flow.Run γ b₁ calls b₂) (huntil : ∀ c ∈ calls, c.Until p.nowUs)
    (hfollow : p.followCounters = true) (hslots : p.slotsPerMs = params.slotsInMs 1)
    (hprocessed : p.sensingDelay ≤ p.now.since t.slot) (hwindowUs : p.windowUs = b.params.sensingWindowUs)
    (hwindow : p.nowUs - p.windowUs ≤ report.receivedUs)
    (hlater : Flow.Run γ a₁ after a₂) (hend : ∀ c ∈ after, c ≠ .teardown)
    (hsame : a₂.stats.selections = a₁.stats.selections) :
    (∀ o, b₂.history.project (ε := ε) p = .ok o → ∀ r, a₂.reservation = some r → ∀ j < r.counter, ∀ n < 10240,
      p.now.since t.slot ≤ n → r.resource.slot + j * params.slotsInMs r.rriMs = t.slot + n →
        ∀ subchannel ∈ t.resource.subchannels, (o.powerDbm? (t.slot + n) subchannel).isSome) ∧
    (p.t2 + 4000 ≤ limit32 →
      (∀ s ∈ b₂.history.sensed, (∀ subchannel, s ≠ report.on subchannel) → s.InWords p) →
        ∃ o, b₂.history.project (ε := ε) p = .ok o) := by
  subst hair
  have hreports := reportOf_reports hreport
  have hconsistent := hreach.keeps (fun _ _ _ _ h hstep => Flow.Consistent.step h hstep) (Flow.consistent_new params)
  have hparams : a.params = params := hreach.params
  have hdue := Flow.due_sent (Flow.onSlot_passed hsent).1.symm
  obtain ⟨r₀, hr₀, hrri₀, hcounter₀⟩ := hdue.advertised hreserved
  have hsound := hconsistent.reservation r₀ hr₀
  have hrri : onAir.tx.rriMs ≤ 1000 := hrri₀ ▸ Flow.interval_le hsound.interval
  have hslots₁ : params.slotsInMs 1 ≤ 4 := params.numerology.slotsInMs_one_le
  have hslots₀ : 0 < p.slotsPerMs := hslots ▸ params.numerology.slotsInMs_one_pos
  constructor
  · intro o ho r hr j hj n hn hage hwhere subchannel hsubchannel
    have hparams₁ : a₁.params = params := (Flow.onSlot_passed hsent).2.params.trans hparams
    have hstarted := hconsistent.countsDown hsent hfirst hreserved (hparams ▸ hkeep)
    obtain ⟨hrri', k, hk, hcounter, hfrom⟩ := hstarted.run (hparams₁ ▸ hkeep) hend hlater hsame r hr
    rw [hlater.params, hparams₁] at hfrom
    have hinterval : params.slotsInMs onAir.tx.rriMs = onAir.tx.rriMs * p.slotsPerMs := by
      rw [hslots]
      apply Numerology.slotsInMs_eq
      have hfits := Nat.mul_le_mul hrri hslots₁
      simp only [limit32]
      exact lt_of_le_of_lt hfits (by decide)
    -- The occasion is `k + j` intervals after the transmission, and not past.
    have hreached : onAir.tx.slot + (k + j) * params.slotsInMs onAir.tx.rriMs = onAir.tx.slot + n := by
      rw [← hwhere, hfrom, hrri', Slot.add_add, Nat.add_mul]
    have hbeyond : n ≤ (k + j) * params.slotsInMs onAir.tx.rriMs := by
      have hoffset := congrArg (·.since onAir.tx.slot) hreached
      simp only [Slot.since_add, Nat.mod_eq_of_lt hn] at hoffset
      omega
    have hheld : report.on subchannel ∈ b₂.history.sensed := by
      have hpos := hreach.size_pos hr₀
      have hparams₂ : b₁.params = b.params := by
        obtain ⟨_, -, rfl⟩ := Flow.sense_heard hheard
        exact Flow.awake_params b
      have hrecorded : report.on subchannel ∈ b₁.history.sensed :=
        Flow.on_mem_of_sense hdue hreports hheard (by rw [hparams]; exact hsize) (hsize ▸ hpos)
          (Resource.mem_subchannels.1 hsubchannel)
      exact hrun.keeps_sensed huntil (by rw [hparams₂, ← hwindowUs]; exact hwindow) hrecorded
    -- The report as it is followed: it is processed by now, and every interval of its counter is gone.
    have hinterval' : (report.on subchannel).interval p = params.slotsInMs onAir.tx.rriMs := by
      rw [hinterval, ← hreports.rriMs]
      rfl
    have hreported : (report.on subchannel).slot = onAir.tx.slot := hreports.slot
    have hfollowed : k + j ≤ (report.on subchannel).followed p := by
      have hadvertised : (report.on subchannel).counter = onAir.tx.counter := hreports.counter
      unfold Sensed.followed
      rw [if_pos hfollow, hadvertised]
      omega
    have hready : (report.on subchannel).Processed p := by
      have hrri' : (report.on subchannel).rriMs = onAir.tx.rriMs := hreports.rriMs
      have hat : (report.on subchannel).receivedUs = report.receivedUs := rfl
      rw [Sensed.Processed, hreported, hrri', hat]
      omega
    have huse : (report.on subchannel).useAt p (k + j) ∈ b₂.history.uses p := by
      refine List.mem_flatMap.2 ⟨_, hheld, Sensed.useAt_mem_uses hready (by omega) hfollowed ?_⟩
      rw [hreported, hinterval']
      exact hage.trans hbeyond
    have hcell := History.powerDbm?_isSome ho hslots₀ huse
    rwa [Sensed.useAt, hreported, hinterval', hreached] at hcell
  · intro ht2 hothers
    refine ⟨_, (b₂.history.project_gives p hslots₀).ok fun s hs => ?_⟩
    by_cases hours : ∃ subchannel, s = report.on subchannel
    · obtain ⟨subchannel, rfl⟩ := hours
      exact Sensed.inWords_of_bounded (hreports.rriMs.le.trans hrri)
        ((hreports.counter.trans hcounter₀).le.trans hsound.counter_le) (hslots ▸ hslots₁) ht2
    · exact hothers s hs fun subchannel heq => hours ⟨subchannel, heq⟩

end

/-- The other node, two slots before the next occasion. -/
def lookingAhead : Projection where
  now := .ofIndex 218
  nowUs := 218000
  t2 := 3
  sensingDelay := (FlowParams.standard (α := ℚ)).numerology.sensingDelay
  windowUs := (FlowParams.standard (α := ℚ)).sensingWindowUs
  slotsPerMs := 1
  followCounters := true

theorem sender_keeps : ((sender.onSlot (.ofIndex 20) 20000 Zeros.zeros).2.1.reservation.map
    fun r => (r.resource.slot, r.rriMs, r.counter)) = some (.ofIndex 220, 200, 4) := by
  decide +kernel

theorem occasions_foreseen_listener : ∃ o, listener.history.project (ε := FlowError) lookingAhead = .ok o ∧
    ∀ j < 4, (o.powerDbm? (firstTransmission.slot + (j + 1) * 200) 0).isSome := by
  have hsent : sender.onSlot (.ofIndex 20) 20000 Zeros.zeros = (some firstTransmission, _, _) :=
    Prod.ext sender_sends rfl
  have hreport : AtNode.reportOf ⟨1, ⟨0, 0⟩, 23, firstTransmission⟩ 20000 (max firstTransmission.rbCount 1)
      (1.2e-6 : ℚ) = .ok firstReport := rfl
  have hheard : Flow.sense { params := .standard } firstReport = .ok _ := rfl
  have hreach : Flow.Run Zeros { params := .standard } _ sender := .snoc .none (.enqueue Zeros.zeros)
  have hrun : Flow.Run Zeros _ ([] ++ [.onSlot (.ofIndex 30) 30000]) listener := .snoc .none (.onSlot Zeros.zeros)
  obtain ⟨r, hr, hkept⟩ := Option.map_eq_some_iff.1 sender_keeps
  simp only [Prod.mk.injEq] at hkept
  obtain ⟨hslot, hrri, hcounter⟩ := hkept
  obtain ⟨hcells, hprojects⟩ := occasions_foreseen (ε := FlowError) (p := lookingAhead) hreach (by decide +kernel)
    hsent rfl (by decide) rfl hreport hheard rfl hrun (by simp [Flow.Call.Until, lookingAhead]) rfl (by decide)
    (by decide) rfl (by decide) .none (by simp) rfl
  have hheardOnly : listener.history.sensed = [firstReport.on 0] := rfl
  obtain ⟨o, ho⟩ := hprojects (by decide) fun s hs hother =>
    absurd (List.mem_singleton.1 (hheardOnly ▸ hs)) (hother 0)
  have hoccasions : ∀ j < 4, Slot.ofIndex 220 + j * (FlowParams.standard (α := ℚ)).slotsInMs 200 =
      firstTransmission.slot + (j + 1) * 200 := by decide
  refine ⟨o, ho, fun j hj => hcells o ho r hr j (by omega) ((j + 1) * 200) (by omega) ?_ ?_ 0 (by decide)⟩
  · have hage : lookingAhead.now.since firstTransmission.slot = 198 := by decide
    omega
  · rw [hslot, hrri]
    exact hoccasions j hj

end Sidelink
