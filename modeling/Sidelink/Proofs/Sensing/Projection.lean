import Sidelink.Proofs.Numerology
import Sidelink.Proofs.Scalar.Decibel
import Sidelink.Sensing.Occupancy

/-!
# Uses to come

The uses of a reservation that was heard, as far as it is followed.
-/

namespace Sidelink

variable {α : Type}

namespace Sensed

def Processed (p : Projection) (s : Sensed α) : Prop :=
  ¬(s.receivedUs < p.nowUs - p.windowUs ∨ s.rriMs = 0 ∨ p.now.since s.slot < p.sensingDelay)

instance (p : Projection) (s : Sensed α) : Decidable (s.Processed p) := inferInstanceAs (Decidable (¬_))

def interval (p : Projection) (s : Sensed α) : Nat := s.rriMs * p.slotsPerMs

/-- The occasions of a reservation that are followed. -/
def followed (p : Projection) (s : Sensed α) : Nat :=
  let covering :=
    if s.interval p < p.t2 ∧ p.now.since s.slot ≤ s.interval p ∧ ¬s.isRetransmission then
      (p.t2 + s.interval p - 1) / s.interval p
    else 1
  if p.followCounters then max covering s.counter else covering

theorem followed_pos {p : Projection} (s : Sensed α) (hslots : 0 < p.slotsPerMs) (hrri : s.rriMs ≠ 0) :
    0 < s.followed p := by
  have hinterval : 0 < s.interval p := Nat.mul_pos (Nat.pos_of_ne_zero hrri) hslots
  unfold followed
  dsimp only
  have hcovering : 0 < if s.interval p < p.t2 ∧ p.now.since s.slot ≤ s.interval p ∧ ¬s.isRetransmission then
      (p.t2 + s.interval p - 1) / s.interval p else 1 := by
    split
    · exact Nat.div_pos (by omega) hinterval
    · decide
  split <;> omega

def InWords (p : Projection) (s : Sensed α) : Prop :=
  s.Processed p → s.interval p < limit32 ∧ s.followed p * s.interval p < limit32

variable {ε : Type} [OfFault ε]

theorem occasionCount_gives (p : Projection) (s : Sensed α) (h : s.interval p ≠ 0) :
    Gives (ε := ε) (s.occasionCount p (p.now.since s.slot) (s.interval p)) (s.followed p) True := by
  have hfollow (n : Nat) : Gives (ε := ε) (Except.ok (if p.followCounters then max n s.counter else n))
      (if p.followCounters then max n s.counter else n) True := .pure _ _
  unfold occasionCount followed
  dsimp only
  split
  · exact ((Gives.quotient _ _).bind (hfollow _)).mono fun _ => ⟨h, trivial⟩
  · exact hfollow 1

variable [Analysis α]

/-- The use of a report so many occasions later. -/
def useAt (p : Projection) (s : Sensed α) (q : Nat) : Hit α :=
  ⟨s.slot + q * s.interval p, s.subchannel, dbmToMw s.rsrpDbm, s.node⟩

def uses (p : Projection) (s : Sensed α) : List (Hit α) :=
  if s.Processed p then
    ((List.range' 1 (s.followed p)).filter fun q => p.now.since s.slot ≤ q * s.interval p).map (s.useAt p)
  else []

theorem hits_gives (p : Projection) (s : Sensed α) (hslots : 0 < p.slotsPerMs) :
    Gives (ε := ε) (s.hits p) (s.uses p) (s.InWords p) := by
  unfold hits uses
  dsimp only
  by_cases hprocessed : s.Processed p
  · rw [if_neg hprocessed, if_pos hprocessed]
    have hne : s.interval p ≠ 0 := by
      have hrri : s.rriMs ≠ 0 := fun hzero => hprocessed (.inr (.inl hzero))
      exact Nat.mul_ne_zero hrri (by omega)
    have hmap : ((((List.range' 1 (s.followed p)).map (· * s.interval p)).filter (p.now.since s.slot ≤ ·)).map
        fun slots => (⟨s.slot + slots, s.subchannel, dbmToMw s.rsrpDbm, s.node⟩ : Hit α)) =
        ((List.range' 1 (s.followed p)).filter fun q => p.now.since s.slot ≤ q * s.interval p).map (s.useAt p) := by
      rw [List.filter_map, List.map_map]
      rfl
    rw [← hmap]
    have hall := (Gives.word32 (ε := ε) (s.interval p)).bind
      (k := fun interval => s.occasionCount p (p.now.since s.slot) interval >>= fun count =>
        word32 (count * interval) >>= fun _ => Except.ok ((((List.range' 1 count).map (· * interval)).filter
          (p.now.since s.slot ≤ ·)).map fun slots =>
            (⟨s.slot + slots, s.subchannel, dbmToMw s.rsrpDbm, s.node⟩ : Hit α)))
      ((s.occasionCount_gives p hne).bind ((Gives.word32 _).bind (.pure _ True)))
    exact hall.mono fun hfits => ⟨(hfits hprocessed).1, trivial, (hfits hprocessed).2, trivial⟩
  · rw [if_pos (Decidable.not_not.1 hprocessed), if_neg hprocessed]
    exact .pure _ _

theorem interval_of_hits {p : Projection} {s : Sensed α} {hits : List (Hit α)} (h : s.hits (ε := ε) p = .ok hits)
    (hprocessed : s.Processed p) : s.interval p < limit32 := by
  unfold Sensed.hits at h
  dsimp only at h
  rw [if_neg hprocessed] at h
  obtain ⟨_, hinterval, -⟩ := ok_of_bind h
  unfold word32 at hinterval
  split at hinterval
  · assumption
  · cases hinterval

theorem isPower_of_mem {p : Projection} {s : Sensed α} {hit : Hit α} (h : hit ∈ s.uses p) : IsPower hit.powerMw := by
  unfold uses at h
  split at h
  · obtain ⟨q, -, rfl⟩ := List.mem_map.1 h
    exact .ofDbm _
  · cases h

theorem useAt_mem_uses {p : Projection} {s : Sensed α} {q : Nat} (hprocessed : s.Processed p) (hpos : 1 ≤ q)
    (hfollowed : q ≤ s.followed p) (hage : p.now.since s.slot ≤ q * s.interval p) : s.useAt p q ∈ s.uses p := by
  unfold uses
  rw [if_pos hprocessed]
  refine List.mem_map_of_mem (List.mem_filter.2 ⟨List.mem_range'_1.2 ⟨hpos, ?_⟩, ?_⟩)
  · omega
  · simpa using hage

theorem useAt_one_mem_uses {p : Projection} {s : Sensed α} (hslots : 0 < p.slotsPerMs) (hprocessed : s.Processed p)
    (hage : p.now.since s.slot ≤ s.interval p) : s.useAt p 1 ∈ s.uses p := by
  have hfollowed := s.followed_pos hslots fun hzero => hprocessed (.inr (.inl hzero))
  exact useAt_mem_uses hprocessed (Nat.le_refl 1) hfollowed (by rwa [Nat.one_mul])

end Sensed

namespace History

variable [Analysis α] {ε : Type} [OfFault ε]

def uses (h : History α) (p : Projection) : List (Hit α) := h.sensed.flatMap (Sensed.uses p)

theorem hits_gives (h : History α) (p : Projection) (hslots : 0 < p.slotsPerMs) :
    Gives (ε := ε) (h.hits p) (h.uses p) (∀ s ∈ h.sensed, s.InWords p) :=
  (Gives.mapM h.sensed fun s _ => s.hits_gives p hslots).map List.flatten

theorem project_gives (h : History α) (p : Projection) (hslots : 0 < p.slotsPerMs) :
    Gives (ε := ε) (h.project p) (Occupancy.ofHits (h.uses p)) (∀ s ∈ h.sensed, s.InWords p) :=
  (h.hits_gives p hslots).map Occupancy.ofHits

theorem hits_of_project {h : History α} {p : Projection} {o : Occupancy α} (hproject : h.project (ε := ε) p = .ok o) :
    ∃ hits, h.sensed.mapM (Sensed.hits (ε := ε) p) = .ok hits := by
  obtain ⟨_, hhits, -⟩ := ok_of_map hproject
  obtain ⟨hits, hmap, -⟩ := ok_of_map hhits
  exact ⟨hits, hmap⟩

theorem isPower_of_mem {h : History α} {p : Projection} {hit : Hit α} (hhit : hit ∈ h.uses p) :
    IsPower hit.powerMw := by
  obtain ⟨s, -, hs⟩ := List.mem_flatMap.1 hhit
  exact Sensed.isPower_of_mem hs

end History

end Sidelink
