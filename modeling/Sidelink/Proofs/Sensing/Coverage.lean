import Sidelink.Proofs.Sensing.Occupancy
import Sidelink.Proofs.Sensing.Projection

/-!
# Covering the window

A fresh reservation with an interval shorter than the selection window is followed over as many intervals as the window
is long, counted from the report on. What the report is old is missing at the end. Nothing falls due there as long as
that is less than an interval. When it is a whole interval, an occasion in the last slot of the window is left out.
-/

namespace Sidelink

namespace Sensed

variable {α : Type} {p : Projection} {s : Sensed α} {q : Nat}

/-- The conditions under which a report is followed over the window. -/
structure Fresh (p : Projection) (s : Sensed α) : Prop where
  processed : s.Processed p
  age_le : p.now.since s.slot ≤ s.interval p
  interval_lt : s.interval p < p.t2
  first : s.isRetransmission = false

/-- The occasion that many intervals after the report is in the window. -/
def InWindow (p : Projection) (s : Sensed α) (q : Nat) : Prop :=
  p.now.since s.slot ≤ q * s.interval p ∧ q * s.interval p ≤ p.now.since s.slot + p.t2

/-- The occasion in the last slot of the window, of a report that is a whole interval old and has no counter that
reaches so far. -/
def IsLeftOut (p : Projection) (s : Sensed α) (q : Nat) : Prop :=
  p.now.since s.slot = s.interval p ∧ q * s.interval p = p.now.since s.slot + p.t2 ∧
    (p.followCounters = true → s.counter < q)

instance (p : Projection) (s : Sensed α) (q : Nat) : Decidable (s.InWindow p q) := inferInstanceAs (Decidable (_ ∧ _))

instance (p : Projection) (s : Sensed α) (q : Nat) : Decidable (s.IsLeftOut p q) :=
  inferInstanceAs (Decidable (_ ∧ _ ∧ _))

/-- The intervals that cover the window reach every occasion in it but one. -/
theorem Fresh.le_covering_iff (h : s.Fresh p) (hpos : 0 < s.interval p) (hq : s.InWindow p q) :
    q ≤ (p.t2 + s.interval p - 1) / s.interval p ↔
      ¬(p.now.since s.slot = s.interval p ∧ q * s.interval p = p.now.since s.slot + p.t2) := by
  have hage := h.age_le
  have hend := hq.2
  rw [Nat.le_div_iff_mul_le hpos]
  omega

theorem Fresh.le_followed_iff (h : s.Fresh p) (hpos : 0 < s.interval p) (hq : s.InWindow p q) :
    q ≤ s.followed p ↔ ¬s.IsLeftOut p q := by
  have hcovering := h.le_covering_iff hpos hq
  have hshort : s.interval p < p.t2 ∧ p.now.since s.slot ≤ s.interval p ∧ ¬s.isRetransmission :=
    ⟨h.interval_lt, h.age_le, by simp [h.first]⟩
  unfold followed IsLeftOut
  simp only [if_pos hshort]
  generalize (p.t2 + s.interval p - 1) / s.interval p = covering at hcovering
  cases p.followCounters with
  | false => simpa using hcovering
  | true =>
    have hlonger : q ≤ max covering s.counter ↔ q ≤ covering ∨ q ≤ s.counter := by omega
    simp only [if_true, hlonger, hcovering, true_imp_iff]
    omega

variable [Analysis α] {ε : Type} [OfFault ε]

/-- A use of a report is in this slot and on this sub-channel. -/
def Reaches (p : Projection) (s : Sensed α) (slot : Slot) (subchannel : Nat) : Prop :=
  ∃ hit ∈ s.uses p, hit.slot = slot ∧ hit.subchannel = subchannel

theorem Fresh.not_reaches (h : s.Fresh p) (hpos : 0 < s.interval p) (hturn : p.t2 < ringLength)
    (hleft : s.IsLeftOut p q) : ¬s.Reaches p (s.slot + q * s.interval p) s.subchannel := by
  rintro ⟨hit, hhit, hslot, -⟩
  have hend := hleft.2.1
  have hbeyond : s.followed p < q := by
    have hwindow : s.InWindow p q := ⟨by omega, by omega⟩
    exact Nat.lt_of_not_le (mt (h.le_followed_iff hpos hwindow).1 (not_not_intro hleft))
  unfold uses at hhit
  rw [if_pos h.processed] at hhit
  obtain ⟨m, hm, rfl⟩ := List.mem_map.1 hhit
  rw [List.mem_filter, List.mem_range'_1, decide_eq_true_eq] at hm
  obtain ⟨⟨-, hfollowed⟩, hahead⟩ := hm
  have hearlier : m * s.interval p < q * s.interval p := Nat.mul_lt_mul_of_pos_right (by omega) hpos
  simp only [ringLength] at hturn
  exact Slot.add_ne_add_of_lt hearlier (by omega) hslot

theorem Fresh.interval_pos (h : s.Fresh p) {hits : List (Hit α)} (hhits : s.hits (ε := ε) p = .ok hits) :
    0 < s.interval p := by
  -- Without slots in a millisecond there is no number of intervals that covers the window.
  refine Nat.pos_of_ne_zero fun hzero => ?_
  unfold Sensed.hits at hhits
  dsimp only at hhits
  rw [if_neg h.processed] at hhits
  obtain ⟨interval, hword, hhits⟩ := ok_of_bind hhits
  obtain rfl := (Gives.word32 (s.interval p)).of_ok hword
  obtain ⟨count, hcount, -⟩ := ok_of_bind hhits
  unfold occasionCount at hcount
  dsimp only at hcount
  rw [if_pos ⟨h.interval_lt, h.age_le, by simp [h.first]⟩, hzero] at hcount
  cases hcount

end Sensed

section

variable {α : Type} [Analysis α] {ε : Type} [OfFault ε]

namespace History

variable {h : History α} {p : Projection} {o : Occupancy α}

theorem powerDbm?_isSome (hproject : h.project (ε := ε) p = .ok o) (hslots : 0 < p.slotsPerMs) {hit : Hit α}
    (hhit : hit ∈ h.uses p) : (o.powerDbm? hit.slot hit.subchannel).isSome := by
  obtain rfl := (h.project_gives p hslots).of_ok hproject
  exact Occupancy.powerDbm?_isSome_iff.2 ⟨hit, hhit, rfl, rfl⟩

theorem interval_pos (hproject : h.project (ε := ε) p = .ok o) {s : Sensed α} (hs : s ∈ h.sensed)
    (hfresh : s.Fresh p) : 0 < s.interval p := by
  obtain ⟨_, hmap⟩ := hits_of_project hproject
  obtain ⟨_, hhits⟩ := ok_of_mapM hmap s hs
  exact hfresh.interval_pos hhits

/-- Every occasion of a fresh reservation that is in the window has a cell, unless it is the one that is left out. That
one only has a cell if another report reaches it. The projection only fails for a report that is out of bounds. -/
theorem window_covered (h : History α) (p : Projection) :
    (∀ o, h.project (ε := ε) p = .ok o → ∀ s ∈ h.sensed, s.Fresh p → ∀ q, 1 ≤ q → s.InWindow p q →
      (¬s.IsLeftOut p q → (o.powerDbm? (s.slot + q * s.interval p) s.subchannel).isSome) ∧
      (s.IsLeftOut p q → p.t2 < ringLength → (o.powerDbm? (s.slot + q * s.interval p) s.subchannel).isSome →
        ∃ s' ∈ h.sensed, s' ≠ s ∧ s'.Reaches p (s.slot + q * s.interval p) s.subchannel)) ∧
    (0 < p.slotsPerMs → (∀ s ∈ h.sensed, s.InWords p) → ∃ o, h.project (ε := ε) p = .ok o) := by
  refine ⟨fun o ho s hs hfresh q hone hq => ?_, fun hslots hwords => ⟨_, (h.project_gives p hslots).ok hwords⟩⟩
  have hpos := interval_pos ho hs hfresh
  have hslots : 0 < p.slotsPerMs := Nat.pos_of_mul_pos_left hpos
  constructor
  · intro hkept
    have hfollowed := (hfresh.le_followed_iff hpos hq).2 hkept
    have huse : s.useAt p q ∈ h.uses p :=
      List.mem_flatMap.2 ⟨s, hs, Sensed.useAt_mem_uses hfresh.processed hone hfollowed hq.1⟩
    have hcell := powerDbm?_isSome ho hslots huse
    exact hcell
  · intro hleft hturn hcell
    obtain rfl := (h.project_gives p hslots).of_ok ho
    obtain ⟨hit, hhit, hwhere⟩ := Occupancy.powerDbm?_isSome_iff.1 hcell
    obtain ⟨s', hs', hhit⟩ := List.mem_flatMap.1 hhit
    refine ⟨s', hs', ?_, hit, hhit, hwhere⟩
    rintro rfl
    exact hfresh.not_reaches hpos hturn hleft ⟨hit, hhit, hwhere⟩

end History

end

/-- A report of an interval of 20 ms, heard in the given slot. -/
def shortInterval (heard : Nat) : Sensed ℚ where
  node := 1
  slot := .ofIndex heard
  receivedUs := heard * 1000
  subchannel := 0
  rsrpDbm := -90
  rriMs := 20
  counter := 5
  isRetransmission := false

/-- A selection in slot 100 with a window of so many slots. -/
def selecting (t2 : Nat) : Projection where
  now := .ofIndex 100
  nowUs := 100000
  t2
  sensingDelay := 1
  windowUs := 1000000
  slotsPerMs := 1
  followCounters := false

theorem History.window_covered_shortInterval :
    ∃ o, History.project (ε := Fault) { sensed := [shortInterval 90] } (selecting 99) = .ok o ∧
      ∀ q, 1 ≤ q → q ≤ 5 → (o.powerDbm? (Slot.ofIndex 90 + q * 20) 0).isSome := by
  obtain ⟨hcells, hprojects⟩ := History.window_covered (ε := Fault) { sensed := [shortInterval 90] } (selecting 99)
  obtain ⟨o, ho⟩ := hprojects (by decide) fun s hs _ => by
    rw [List.mem_singleton.1 hs]
    decide
  have hfresh : (shortInterval 90).Fresh (selecting 99) := ⟨by decide, by decide, by decide, rfl⟩
  refine ⟨o, ho, fun q hone hq => ?_⟩
  have hwindow : (shortInterval 90).InWindow (selecting 99) q ∧ ¬(shortInterval 90).IsLeftOut (selecting 99) q := by
    decide +revert
  exact (hcells o ho _ (List.mem_singleton_self _) hfresh q hone hwindow.1).1 hwindow.2

/-- A report that is a whole interval old is not followed to the last slot of the window. -/
theorem History.last_slot_uncovered : ¬∀ (h : History ℚ) (p : Projection) (o : Occupancy ℚ),
    h.project (ε := Fault) p = .ok o → ∀ s ∈ h.sensed, s.Fresh p → ∀ q, 1 ≤ q → s.InWindow p q →
      (o.powerDbm? (s.slot + q * s.interval p) s.subchannel).isSome := by
  intro h
  have hfresh : (shortInterval 80).Fresh (selecting 40) := ⟨by decide, by decide, by decide, rfl⟩
  have hprojects := (History.project_gives (ε := Fault) { sensed := [shortInterval 80] } (selecting 40) (by decide)).ok
    fun s hs _ => by
      rw [List.mem_singleton.1 hs]
      decide
  have hcell := h _ _ _ hprojects _ (List.mem_singleton_self _) hfresh 3 (by decide) (by decide)
  exact absurd hcell (by decide +kernel)

end Sidelink
