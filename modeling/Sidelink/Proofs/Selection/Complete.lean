import Sidelink.Proofs.Pool.Accepted
import Sidelink.Proofs.Scalar.Rational
import Sidelink.Proofs.Selection.Window
import Sidelink.Proofs.Slot

/-!
# The whole window

As long as a window does not reach around the ring, its slots are told apart by their distance from the arrival. Then
each resource is in it once, slot by slot and from the lowest sub-channel up.
-/

namespace Sidelink

variable {α : Type} {pool : ResourcePool} {params : FlowParams α} {request : Request} {window : List Resource}

/-! ## Slots -/

theorem dataSlots_eq_nil_iff {now : Slot} {t1 t2 : Nat} :
    dataSlots pool now t1 t2 = [] ↔ ∀ i, t1 ≤ i → i ≤ t2 → pool.isDataSlot (now + i) = false := by
  constructor
  · intro hnil i hlow hhigh
    refine Bool.eq_false_iff.2 fun hdata => ?_
    have hmem : now + i ∈ dataSlots pool now t1 t2 := mem_dataSlots.2 ⟨⟨i, hlow, hhigh, rfl⟩, hdata⟩
    rw [hnil] at hmem
    cases hmem
  · intro hnone
    refine List.eq_nil_iff_forall_not_mem.2 fun s hs => ?_
    obtain ⟨⟨i, hlow, hhigh, rfl⟩, hdata⟩ := mem_dataSlots.1 hs
    rw [hnone i hlow hhigh] at hdata
    cases hdata

theorem dataSlots_ordered (pool : ResourcePool) (now : Slot) (t1 : Nat) {t2 : Nat} (hring : t2 < 10240) :
    (dataSlots pool now t1 t2).Pairwise fun a b => a.since now < b.since now := by
  refine List.Pairwise.filter _ (List.pairwise_map.2 ?_)
  refine (List.pairwise_lt_range' (s := t1) (n := t2 + 1 - t1)).imp_of_mem fun {i j} hi hj hlt => ?_
  rw [List.mem_range'_1] at hi hj
  rw [Slot.since_add, Slot.since_add, Nat.mod_eq_of_lt (by omega), Nat.mod_eq_of_lt (by omega)]
  exact hlt

/-! ## Resources -/

/-- An earlier slot, counted from `now`, or a lower sub-channel of the same slot. -/
def Resource.Precedes (now : Slot) (a b : Resource) : Prop :=
  a.slot.since now < b.slot.since now ∨ a.slot = b.slot ∧ a.start < b.start

theorem Resource.Precedes.ne {now : Slot} {a b : Resource} (h : a.Precedes now b) : a ≠ b := by
  rintro rfl
  rcases h with h | ⟨-, h⟩
  · exact Nat.lt_irrefl _ h
  · exact Nat.lt_irrefl _ h

theorem selectionWindow_ordered (h : selectionWindow pool params request = .ok window)
    (hring : params.t2 request.pdbMs < 10240) : window.Pairwise (Resource.Precedes request.now) := by
  unfold selectionWindow at h
  dsimp only at h
  split at h
  · cases h
  · split at h
    · cases h
    · cases h
      rw [List.pairwise_flatMap]
      constructor
      · intro slot _
        refine List.pairwise_map.2 (List.pairwise_lt_range.imp fun hlt => ?_)
        exact .inr ⟨rfl, hlt⟩
      · refine (dataSlots_ordered pool request.now params.t1 hring).imp fun {s t} hlt a ha b hb => ?_
        obtain ⟨_, -, rfl⟩ := List.mem_map.1 ha
        obtain ⟨_, -, rfl⟩ := List.mem_map.1 hb
        exact .inl hlt

/-- The resources of `needed` sub-channels in the data slots from `t1` to `t2` after `now`, once and in order. -/
structure CompleteWindow (pool : ResourcePool) (available needed t1 t2 : Nat) (now : Slot) (window : List Resource) :
    Prop where
  mem_iff : ∀ r, r ∈ window ↔ ∃ i start, t1 ≤ i ∧ i ≤ t2 ∧ pool.isDataSlot (now + i) = true ∧
    start + needed ≤ available ∧ r = ⟨now + i, start, needed⟩
  nodup : window.Nodup
  ordered : window.Pairwise (Resource.Precedes now)

theorem selectable_iff {r : Resource} : Selectable pool params request r ↔
    ∃ i start, params.t1 ≤ i ∧ i ≤ params.t2 request.pdbMs ∧ pool.isDataSlot (request.now + i) = true ∧
      start + max request.needed 1 ≤ pool.subchannelCount params.subchannelSize ∧
      r = ⟨request.now + i, start, max request.needed 1⟩ := by
  constructor
  · rintro ⟨hslot, hcount, hfits⟩
    obtain ⟨⟨i, hlow, hhigh, heq⟩, hdata⟩ := mem_dataSlots.1 hslot
    rw [heq] at hdata
    rw [hcount] at hfits
    refine ⟨i, r.start, hlow, hhigh, hdata, hfits, ?_⟩
    rw [← heq, ← hcount]
  · rintro ⟨i, start, hlow, hhigh, hdata, hfits, rfl⟩
    exact ⟨mem_dataSlots.2 ⟨⟨i, hlow, hhigh, rfl⟩, hdata⟩, rfl, hfits⟩

theorem CompleteWindow.of_selectionWindow (h : selectionWindow pool params request = .ok window)
    (hring : params.t2 request.pdbMs < 10240) :
    CompleteWindow pool (pool.subchannelCount params.subchannelSize) (max request.needed 1) params.t1
      (params.t2 request.pdbMs) request.now window where
  mem_iff r := (mem_selectionWindow h r).trans selectable_iff
  nodup := (selectionWindow_ordered h hring).imp Resource.Precedes.ne
  ordered := selectionWindow_ordered h hring

/-! ## Outcomes -/

theorem selectionWindow_outcomes (pool : ResourcePool) (params : FlowParams α) (request : Request) :
    let available := pool.subchannelCount params.subchannelSize
    let needed := max request.needed 1
    let t2 := params.t2 request.pdbMs
    (available < needed ∧ selectionWindow pool params request = .error (.notEnoughSubchannels needed available)) ∨
    (needed ≤ available ∧ (∀ i, params.t1 ≤ i → i ≤ t2 → pool.isDataSlot (request.now + i) = false) ∧
      selectionWindow pool params request = .error (.emptyWindow request.now params.t1 t2)) ∨
    (needed ≤ available ∧ (∃ i, params.t1 ≤ i ∧ i ≤ t2 ∧ pool.isDataSlot (request.now + i) = true) ∧
      ∃ window, selectionWindow pool params request = .ok window) := by
  intro available needed t2
  rcases Nat.lt_or_ge available needed with hlt | hle
  · exact .inl ⟨hlt, if_pos hlt⟩
  · have houtcome : selectionWindow pool params request = _ := if_neg (Nat.not_lt.2 hle)
    cases hslots : dataSlots pool request.now params.t1 t2 with
    | nil =>
      rw [hslots] at houtcome
      exact .inr (.inl ⟨hle, dataSlots_eq_nil_iff.1 hslots, houtcome⟩)
    | cons slot rest =>
      rw [hslots] at houtcome
      have hmem : slot ∈ dataSlots pool request.now params.t1 t2 := by simp [hslots]
      obtain ⟨⟨i, hlow, hhigh, rfl⟩, hdata⟩ := mem_dataSlots.1 hmem
      exact .inr (.inr ⟨hle, ⟨i, hlow, hhigh, hdata⟩, _, houtcome⟩)

/-- Each outcome has its own condition, and a window that is given is whole. -/
theorem selectionWindow_complete (pool : ResourcePool) (params : FlowParams α) (request : Request)
    {available needed t2 : Nat} (havailable : available = pool.subchannelCount params.subchannelSize)
    (hneeded : needed = max 1 request.needed) (ht2 : t2 = max (params.slotsInMs request.pdbMs) 1 - 1)
    (hring : t2 < 10240) :
    (selectionWindow pool params request = .error (.notEnoughSubchannels needed available) ↔ available < needed) ∧
    (selectionWindow pool params request = .error (.emptyWindow request.now params.t1 t2) ↔
      needed ≤ available ∧ ∀ i, params.t1 ≤ i → i ≤ t2 → pool.isDataSlot (request.now + i) = false) ∧
    (needed ≤ available → (∃ i, params.t1 ≤ i ∧ i ≤ t2 ∧ pool.isDataSlot (request.now + i) = true) →
      ∃ window, selectionWindow pool params request = .ok window ∧
        CompleteWindow pool available needed params.t1 t2 request.now window) := by
  have hneeded' : max request.needed 1 = needed := hneeded ▸ Nat.max_comm ..
  have ht2' : params.t2 request.pdbMs = t2 := by
    rw [FlowParams.t2]
    omega
  have houtcomes := selectionWindow_outcomes pool params request
  dsimp only at houtcomes
  rw [hneeded', ht2', ← havailable] at houtcomes
  rcases houtcomes with ⟨hlt, houtcome⟩ | ⟨hle, hnone, houtcome⟩ | ⟨hle, ⟨i, hlow, hhigh, hdata⟩, window, houtcome⟩
  · have hnot : ¬needed ≤ available := Nat.not_le.2 hlt
    simp [houtcome, hlt, hnot]
  · have hsome : ¬∃ i, params.t1 ≤ i ∧ i ≤ t2 ∧ pool.isDataSlot (request.now + i) = true := by
      rintro ⟨i, hlow, hhigh, hdata⟩
      simp [hnone i hlow hhigh] at hdata
    exact ⟨by simp [houtcome, hle], iff_of_true houtcome ⟨hle, hnone⟩, fun _ h => absurd h hsome⟩
  · have hcomplete := CompleteWindow.of_selectionWindow houtcome (ht2' ▸ hring)
    rw [hneeded', ht2', ← havailable] at hcomplete
    refine ⟨by simp [houtcome, hle], iff_of_false (by simp [houtcome]) fun h => ?_, fun _ _ => ⟨window, houtcome, hcomplete⟩⟩
    simp [h.2 i hlow hhigh] at hdata

/-- A request at the end of the ring. The control slot in its window is the first of the next turn. -/
def turningRequest : Request := ⟨.ofIndex 10237, 10237000, 6, 1, 100, 5⟩

theorem selectionWindow_complete_turning : max ((FlowParams.standard (α := ℚ)).slotsInMs 6) 1 - 1 < 10240 ∧
    selectionWindow narrowPool (.standard (α := ℚ)) turningRequest =
      .ok ([10239, 1, 2].flatMap fun n => [⟨.ofIndex n, 0, 1⟩, ⟨.ofIndex n, 1, 1⟩]) ∧
    ∃ window, selectionWindow narrowPool (.standard (α := ℚ)) turningRequest = .ok window ∧
      CompleteWindow narrowPool 2 1 2 5 (.ofIndex 10237) window := by
  have hdata : narrowPool.isDataSlot (Slot.ofIndex 10237 + 2) = true := by decide
  exact ⟨by decide, by decide +kernel,
    (selectionWindow_complete narrowPool (.standard (α := ℚ)) turningRequest (by decide) (by decide) (by decide)
      (by decide)).2.2 (by decide) ⟨2, by decide, by decide, hdata⟩⟩

end Sidelink
