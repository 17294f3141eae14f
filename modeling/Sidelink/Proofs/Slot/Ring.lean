import Sidelink.Proofs.Fault
import Sidelink.Proofs.Slot

/-!
# The ring of slots

Slots and the distances between them obey the laws of counting modulo 10240. Frames and their subframes are 32-bit words,
and the index that slots are added to is a 64-bit word. No step of the arithmetic leaves its word.
-/

namespace Sidelink.Slot

/-! ## Laws -/

@[simp] theorem ofIndex_index (s : Slot) : ofIndex s.index = s := by
  ext
  rw [index_ofIndex, Nat.mod_eq_of_lt s.isLt]

@[simp] theorem add_mod (s : Slot) (n : Nat) : s + n % 10240 = s + n := by
  ext
  simp only [index_later, Nat.add_mod_mod]

theorem since_add_since (a b c : Slot) : (c.since b + b.since a) % 10240 = c.since a := by
  have hroute : a + (b.since a + c.since b) = c := by rw [← add_add, add_since, add_since]
  rw [Nat.add_comm, ← since_add a, hroute]

/-! ## In machine words -/

/-- A difference that is a word. -/
def difference (n d : Nat) : Except Fault Nat := if d ≤ n then .ok (n - d) else .error .overflow

/-- The index of a slot, computed in 32-bit words. -/
def indexWord (s : Slot) : Except Fault Nat := do
  let whole ← word32 (s.frame * 10)
  let rest ← difference s.subframe 1
  word32 (whole + rest)

/-- The frame and the subframe at an index of 64 bits. -/
def partsWords (index : Nat) : Except Fault (Nat × Nat) := do
  let position ← word32 (index % 10240)
  let subframe ← word32 (position % 10 + 1)
  return (position / 10, subframe)

/-- The frame and the subframe of a later slot. -/
def laterWords (s : Slot) (slots : Nat) : Except Fault (Nat × Nat) := do
  let index ← s.indexWord
  let sum ← word64 (index + slots)
  partsWords sum

/-- The distance from one slot to a later one. -/
def sinceWord (s now : Slot) : Except Fault Nat := do
  let index ← s.indexWord
  let turned ← word32 (index + 10240)
  let start ← now.indexWord
  let ahead ← difference turned start
  return ahead % 10240

theorem difference_eq {n d : Nat} (h : d ≤ n) : difference n d = .ok (n - d) := if_pos h

theorem word32_eq {n : Nat} (h : n < 4294967296) : word32 (ε := Fault) n = .ok n := if_pos h

theorem word64_eq {n : Nat} (h : n < 18446744073709551616) : word64 (ε := Fault) n = .ok n := if_pos h

theorem indexWord_eq (s : Slot) : s.indexWord = .ok s.index := by
  have hframe := s.frame_lt
  obtain ⟨hone, hten⟩ := s.subframe_le
  rw [indexWord, word32_eq (by omega), ok_bind, difference_eq hone, ok_bind]
  exact word32_eq (by omega)

theorem partsWords_eq (n : Nat) : partsWords n = .ok ((ofIndex n).frame, (ofIndex n).subframe) := by
  rw [partsWords, word32_eq (by omega), ok_bind, word32_eq (by omega), ok_bind]
  rfl

theorem laterWords_eq (s : Slot) {slots : Nat} (h : slots < 4294967296) :
    s.laterWords slots = .ok ((s + slots).frame, (s + slots).subframe) := by
  have hindex := s.isLt
  rw [laterWords, indexWord_eq, ok_bind, word64_eq (by omega), ok_bind]
  exact partsWords_eq (s.index + slots)

theorem sinceWord_eq (s now : Slot) : s.sinceWord now = .ok (s.since now) := by
  have hindex := s.isLt
  have hnow := now.isLt
  rw [sinceWord, indexWord_eq, indexWord_eq, ok_bind, word32_eq (by omega), ok_bind, ok_bind, difference_eq (by omega),
    ok_bind]
  rfl

/-- The words are a frame and a subframe within their bounds, and those of the slot. -/
def Tells (words : Except Fault (Nat × Nat)) (s : Slot) : Prop :=
  ∃ frame subframe, words = .ok (frame, subframe) ∧ frame ≤ 1023 ∧ 1 ≤ subframe ∧ subframe ≤ 10 ∧
    s.frame = frame ∧ s.subframe = subframe

theorem tells_parts (s : Slot) : Tells (.ok (s.frame, s.subframe)) s :=
  ⟨s.frame, s.subframe, rfl, Nat.le_of_lt_succ s.frame_lt, s.subframe_le.1, s.subframe_le.2, rfl, rfl⟩

/-- Slots are counted modulo the ring, for all offsets of 32 bits, and every step stays in its word. -/
theorem cyclic_arithmetic (a b c : Slot) (k m : UInt32) :
    (ofIndex a.index = a ∧
      (a + k.toNat).since a = k.toNat % 10240 ∧
      a + b.since a = b ∧
      a + k.toNat + m.toNat = a + (k.toNat + m.toNat) % 10240 ∧
      c.since a = (c.since b + b.since a) % 10240) ∧
    a.indexWord = .ok a.index ∧ b.sinceWord a = .ok (b.since a) ∧ Tells (a.laterWords k.toNat) (a + k.toNat) ∧
    ∀ n : UInt64, Tells (partsWords n.toNat) (ofIndex n.toNat) := by
  have hlaws : a + k.toNat + m.toNat = a + (k.toNat + m.toNat) % 10240 := by rw [add_add, add_mod]
  refine ⟨⟨ofIndex_index a, since_add a k.toNat, add_since b a, hlaws, (since_add_since a b c).symm⟩, indexWord_eq a,
    sinceWord_eq b a, ?_, fun n => ?_⟩
  · rw [laterWords_eq a k.toNat_lt]
    exact tells_parts _
  · rw [partsWords_eq]
    exact tells_parts _

end Sidelink.Slot
