import Sidelink.Selection.Window

/-!
# Resources of a window

A selection window has every resource of the size that is needed in its data slots, and no other.
-/

namespace Sidelink

variable {α : Type}

theorem mem_dataSlots {pool : ResourcePool} {now s : Slot} {t1 t2 : Nat} :
    s ∈ dataSlots pool now t1 t2 ↔ (∃ d, t1 ≤ d ∧ d ≤ t2 ∧ s = now + d) ∧ pool.isDataSlot s = true := by
  simp only [dataSlots, List.mem_filter, List.mem_map, List.mem_range'_1]
  constructor
  · rintro ⟨⟨d, hd, rfl⟩, hdata⟩
    exact ⟨⟨d, hd.1, by omega, rfl⟩, hdata⟩
  · rintro ⟨⟨d, hlow, hhigh, rfl⟩, hdata⟩
    exact ⟨⟨d, ⟨hlow, by omega⟩, rfl⟩, hdata⟩

structure Selectable (pool : ResourcePool) (params : FlowParams α) (request : Request) (r : Resource) : Prop where
  slot : r.slot ∈ dataSlots pool request.now params.t1 (params.t2 request.pdbMs)
  count : r.count = max request.needed 1
  fits : r.start + r.count ≤ pool.subchannelCount params.subchannelSize

theorem mem_selectionWindow {pool : ResourcePool} {params : FlowParams α} {request : Request} {window : List Resource}
    (h : selectionWindow pool params request = .ok window) (r : Resource) :
    r ∈ window ↔ Selectable pool params request r := by
  unfold selectionWindow at h
  dsimp only at h
  split at h
  · cases h
  · rename_i hroom
    split at h
    · cases h
    · cases h
      simp only [List.mem_flatMap, List.mem_map, List.mem_range]
      constructor
      · rintro ⟨s, hs, start, hstart, rfl⟩
        exact ⟨hs, rfl, by simp only; omega⟩
      · rintro ⟨hs, hcount, hfits⟩
        refine ⟨r.slot, hs, r.start, by omega, ?_⟩
        rw [← hcount]

theorem selectionWindow_ne_nil {pool : ResourcePool} {params : FlowParams α} {request : Request}
    {window : List Resource} (h : selectionWindow pool params request = .ok window) : window ≠ [] := by
  unfold selectionWindow at h
  dsimp only at h
  split at h
  · cases h
  · split at h
    · cases h
    · rename_i hslots
      cases h
      rcases hlist : dataSlots pool request.now params.t1 (params.t2 request.pdbMs) with _ | ⟨s, rest⟩
      · exact absurd hlist hslots
      · simp

theorem of_selectionWindow_error {pool : ResourcePool} {params : FlowParams α} {request : Request} {e : FlowError}
    (h : selectionWindow pool params request = .error e)
    (hroom : max request.needed 1 ≤ pool.subchannelCount params.subchannelSize) :
    e = .emptyWindow request.now params.t1 (params.t2 request.pdbMs) ∧
      dataSlots pool request.now params.t1 (params.t2 request.pdbMs) = [] := by
  unfold selectionWindow at h
  dsimp only at h
  rw [if_neg (by omega)] at h
  split at h
  · rename_i hslots
    cases h
    exact ⟨rfl, hslots⟩
  · cases h

end Sidelink
