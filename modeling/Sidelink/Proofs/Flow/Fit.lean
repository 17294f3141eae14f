import Sidelink.Proofs.Flow.DataSlots
import Sidelink.Proofs.Flow.Owed
import Sidelink.Proofs.Pool.Width
import Sidelink.Proofs.TransportBlock

/-!
# What is sent has room

A reservation is sized for the packet that it is made for, and laid into the pool. Other packets use it later, at other
slots, and what they send has room in it too.
-/

namespace Sidelink.Flow

variable {α : Type}

/-- A packet that the arithmetic of sizes can take. -/
def Call.Small : Call α → Prop
  | .enqueue _ _ p _ => p.size < 2 ^ 29
  | _ => True

section

variable [Analysis α] {γ : Type} [RandomSource γ] {pool : ResourcePool} {f₀ f made : Flow α} {calls : List (Call α)}
  {r : Reservation} {t : Transmission}

/-! ## A reservation -/

theorem sizing_carries {params : FlowParams α} {p : Packet} {a : Allocation} (h : sizing params pool p = .ok a) :
    a.Carries (max p.size (params.reservationSize.getD 0)) params.subchannelSize (min pool.dataRbCount 65535) := by
  unfold sizing at h
  split at h
  · cases h
  · exact SlotLayout.allocate_carries (ok_of_mapError h)

theorem Made.chosen (h : Made γ pool f₀ calls made r) : ∃ earlier now nowUs p, ∃ before : Flow α,
    ∃ choice : Choice α, ∃ g g' : γ, calls = earlier ++ [.enqueue now nowUs p pool] ∧ before.params = f₀.params ∧
      before.choose now nowUs p pool g = (.ok choice, g') ∧ choice.reservation = r := by
  obtain ⟨⟨earlier, before, now, nowUs, p, rfl, hrun, hstep, hselections⟩, hr⟩ := h
  obtain ⟨g, d, g', hhanded⟩ := hstep.handed
  rcases hhanded.reservation with ⟨hsame, -⟩ | ⟨-, choice, hchoose, hnew⟩
  · omega
  · rw [hr] at hnew
    refine ⟨earlier, now, nowUs, p, before.refreshed nowUs, choice, g, g', rfl, ?_, hchoose, (Option.some.inj hnew).symm⟩
    rw [refreshed_params, hrun.params]

/-- A resource of an allocation lies in the pool. -/
structure Lies (pool : ResourcePool) (subchannelSize : Nat) (a : Allocation) (x : Resource) : Prop where
  count : x.count = a.subchannels
  fits : x.start + x.count ≤ pool.subchannelCount subchannelSize

theorem lies_of_choose {now : Slot} {nowUs : Nat} {p : Packet} {choice : Choice α} {g g' : γ}
    (h : f.choose now nowUs p pool g = (.ok choice, g')) {x : Resource} (hx : x ∈ choice.set.resources) :
    Lies pool f.params.subchannelSize choice.reservation.allocation x := by
  have hchosen := choose_chosen h
  have hselectable := Candidates.selectable_of_candidates hchosen.candidates hx
  have hpos := (sizing_carries hchosen.sized.1).subchannels_pos
  have hcount : x.count = max choice.reservation.allocation.subchannels 1 := hselectable.count
  exact ⟨by omega, hselectable.fits⟩

theorem mem_of_part {now : Slot} {nowUs : Nat} {p : Packet} {choice : Choice α} {g g' : γ} {again : Bool} {x : Resource}
    (h : f.choose now nowUs p pool g = (.ok choice, g'))
    (hx : (if again then choice.reservation.retransmission else some choice.reservation.resource) = some x) :
    x ∈ choice.set.resources := by
  obtain ⟨-, hfirst, hother⟩ := choose_drawn h
  cases again with
  | false =>
    cases hx
    exact hfirst
  | true => exact hother x hx

theorem Lies.shifted {subchannelSize : Nat} {a : Allocation} {x : Resource} (h : Lies pool subchannelSize a x) (n : Nat) :
    Lies pool subchannelSize a (x.shifted n) := ⟨h.count, h.fits⟩

theorem Lies.rbs_le {subchannelSize : Nat} {a : Allocation} {x : Resource} (h : Lies pool subchannelSize a x) :
    x.rbStart subchannelSize + x.rbCount subchannelSize ≤ pool.dataRbCount := by
  calc x.rbStart subchannelSize + x.rbCount subchannelSize
      = (x.start + x.count) * subchannelSize := (Nat.add_mul ..).symm
    _ ≤ pool.subchannelCount subchannelSize * subchannelSize := Nat.mul_le_mul_right _ h.fits
    _ ≤ pool.dataRbCount := pool.subchannels_le _

theorem Lies.checked {subchannelSize : Nat} {a : Allocation} {x : Resource} (h : Lies pool subchannelSize a x)
    (hpos : 0 < subchannelSize) (hwidth : pool.dataRbCount < limit16) :
    x.checked (ε := Fault) subchannelSize = .ok x := by
  have hrbs := h.rbs_le
  have hsubchannels : x.start + x.count ≤ x.rbStart subchannelSize + x.rbCount subchannelSize := by
    calc x.start + x.count ≤ (x.start + x.count) * subchannelSize := Nat.le_mul_of_pos_right _ hpos
      _ = x.rbStart subchannelSize + x.rbCount subchannelSize := Nat.add_mul ..
  unfold Resource.checked word16
  rw [if_pos (by omega), if_pos (by omega), if_pos (by omega)]
  rfl

/-! ## A transmission -/

variable (γ) in
/-- The packet of a transmission was queued for an occasion of a reservation, which was made for a packet `p`. -/
structure QueuedOn (pool : ResourcePool) (f₀ : Flow α) (calls : List (Call α)) (f : Flow α) (t : Transmission)
    (r : Reservation) (p : Packet) : Prop where
  origin : ∃ earlier now nowUs later rest made taken n,
    calls = earlier ++ [.enqueue now nowUs p pool] ++ later ++ rest ∧
      Made γ pool f₀ (earlier ++ [.enqueue now nowUs p pool]) made r ∧ Elapsed γ made later taken n ∧
      Run γ taken rest f ∧ taken.queued.map (·.packet.id) = some t.packet ∧
      (if t.isRetransmission then r.retransmission else some r.resource).map
        (·.shifted (n * f₀.params.slotsInMs r.rriMs)) = some t.resource

theorem Sent.queuedOn {now : Slot} (h : Sent f now t) (htracked : Tracked γ pool f₀ calls f)
    (hsmall : ∀ c ∈ calls, c.Small) : ∃ r p, QueuedOn γ pool f₀ calls f t r p ∧
      sizing f₀.params pool p = .ok r.allocation ∧ Lies pool f₀.params.subchannelSize r.allocation t.resource ∧
      t.size ≤ r.allocation.tbsBytes := by
  obtain ⟨-, q, hq, ht, hresource⟩ := h.held
  obtain ⟨earlier, later, rest, made, taken, r, n, rfl, hmade, helapsed, hrun, htaken, hsuits, hinitial, hsecond⟩ :=
    hq.elim (htracked.queued q) (htracked.owed q)
  obtain ⟨earlier, now, nowUs, p, before, choice, g, g', rfl, hparams, hchoose, rfl⟩ := hmade.chosen
  obtain ⟨hsizing, -, hbytes⟩ := (choose_chosen hchoose).sized
  rw [hparams] at hsizing
  have hid : taken.queued.map (·.packet.id) = some t.packet := by
    have hpacket : t.packet = q.packet.id := congrArg Transmission.packet ht
    rw [hpacket]
    simpa using congrArg (Option.map Packet.id) htaken
  -- The resource is one of the two that were drawn, some intervals later.
  obtain ⟨x, hx, hshift⟩ : ∃ x, (if t.isRetransmission then choice.reservation.retransmission
      else some choice.reservation.resource) = some x ∧
      t.resource = x.shifted (n * f₀.params.slotsInMs choice.reservation.rriMs) := by
    cases hagain : t.isRetransmission with
    | false =>
      simp only [hagain, Bool.false_eq_true, if_false] at hresource
      exact ⟨_, rfl, hresource.symm.trans hinitial⟩
    | true =>
      simp only [hagain, if_true] at hresource
      exact hsecond _ hresource
  have hlies := lies_of_choose hchoose (mem_of_part hchoose hx)
  rw [hparams] at hlies
  refine ⟨choice.reservation, p, ⟨earlier, now, nowUs, later, rest, made, taken, n, rfl, hmade, helapsed, hrun, hid, ?_⟩,
    hsizing, ?_, ?_⟩
  · rw [hx, hshift]
    rfl
  · rw [hshift]
    exact hlies.shifted _
  · have hsize : t.size = q.packet.size := congrArg Transmission.size ht
    rw [hsize]
    rcases hsuits with hfits | ⟨_, _, hlast⟩
    · omega
    · simp only [List.getLast?_append, List.getLast?_singleton, Option.some_or, Option.some.injEq,
        Call.enqueue.injEq] at hlast
      obtain ⟨-, -, rfl, -⟩ := hlast
      have hsize : q.packet.size < 2 ^ 29 := hsmall (.enqueue now nowUs _ pool) (by simp)
      apply (sizing_carries hsizing).tbsBytes_ge (Nat.le_max_left ..)
      simp only [limit32]
      omega

/-- What a flow sends lies in the pool that it uses, from its first RB to its last, and has room in the block of the
reservation that its packet was queued on. -/
theorem sent_fits {record : PoolRecord} {params : FlowParams α} {f₁ : Flow α} {now : Slot} {nowUs : Nat} {g g' : γ}
    (hpool : ResourcePool.ofRecord record = .ok pool) (hword : record.data.Worded) (hrun : Run γ { params } calls f)
    (hon : ∀ c ∈ calls, c.On pool) (hsmall : ∀ c ∈ calls, c.Small)
    (hsent : f.onSlot now nowUs g = (some t, f₁, g')) :
    0 < t.rbCount ∧ t.rbStart + t.rbCount ≤ pool.dataRbCount ∧ t.rbStart + t.rbCount < limit16 ∧
      t.resource.checked (ε := Fault) params.subchannelSize = .ok t.resource ∧
      t.rbCount = t.resource.count * params.subchannelSize ∧
      ∃ r p, QueuedOn γ pool { params } calls f t r p ∧ sizing params pool p = .ok r.allocation ∧
        t.size ≤ r.allocation.tbsBytes ∧ r.allocation.subchannels = t.resource.count := by
  have hdue : Sent f now t := due_sent (onSlot_passed hsent).1.symm
  obtain ⟨r, p, hqueued, hsizing, hlies, hsize⟩ := hdue.queuedOn (hrun.tracked hon) hsmall
  obtain ⟨-, q, -, ht, -⟩ := hdue.held
  have hparams : f.params = params := hrun.params
  have hstart : t.rbStart = t.resource.rbStart params.subchannelSize := by
    rw [← hparams]
    exact congrArg Transmission.rbStart ht
  have hcount : t.rbCount = t.resource.rbCount params.subchannelSize := by
    rw [← hparams]
    exact congrArg Transmission.rbCount ht
  have hcarries := sizing_carries hsizing
  have hpos : 0 < t.rbCount := by
    rw [hcount, Resource.rbCount, hlies.count]
    exact Nat.mul_pos hcarries.subchannels_pos hcarries.size_pos
  have hend : t.rbStart + t.rbCount ≤ pool.dataRbCount := by
    rw [hstart, hcount]
    exact hlies.rbs_le
  have hwidth := ResourcePool.dataRbCount_lt hpool hword
  exact ⟨hpos, hend, by omega, hlies.checked hcarries.size_pos hwidth, hcount, r, p, hqueued, hsizing, hsize,
    hlies.count.symm⟩

end

/-! ## A packet on the second occasion -/

theorem sent_fits_secondQueued : ∃ t r p, 0 < t.rbCount ∧ t.rbStart + t.rbCount ≤ 20 ∧
    QueuedOn Zeros narrowPool { params := .standard } hundredthCalls secondQueued t r p ∧
    t.size ≤ r.allocation.tbsBytes := by
  obtain ⟨t, f, g, hsent, -⟩ := secondQueued_sends
  obtain ⟨hpos, hend, -, -, -, r, p, hqueued, -, hsize, -⟩ := sent_fits narrowPool_ofRecord trivial run_hundredthCalls
    hundredthCalls_on (by simp [hundredthCalls, Call.Small, hundredthPacket]) hsent
  exact ⟨t, r, p, hpos, hend, hqueued, hsize⟩

end Sidelink.Flow
