import Sidelink.Fault

/-!
# Slots

Slots are counted in frames of ten, and frames wrap after 1024. A slot is a frame and a place in it, and so a position
on a ring of 10240. The distance from one slot to a later one is taken forward through the wrap.
-/

namespace Sidelink

abbrev ringLength : Nat := 10240

structure Slot where
  frame : Nat
  /-- The place in the frame, counted from one. -/
  subframe : Nat
  frame_lt : frame < 1024
  subframe_le : 1 ≤ subframe ∧ subframe ≤ 10
deriving Repr, DecidableEq

inductive SlotError (α : Type) where
  | frameOutOfRange (frame : Nat)
  | subframeOutOfRange (subframe : Nat)
  | slotLengthNotPositive (ms : α)
  | fault (f : Fault)
deriving Repr, DecidableEq

instance {α : Type} : OfFault (SlotError α) := ⟨.fault⟩

def SlotError.message {α : Type} (text : α → String) : SlotError α → String
  | frameOutOfRange n => s!"frame number {n} out of range 0..=1023"
  | subframeOutOfRange n => s!"subframe number {n} out of range 1..=10"
  | slotLengthNotPositive ms => "slot duration must be positive, got " ++ text ms ++ " ms"
  | fault _ => "arithmetic fault"

namespace Slot

/-- The position of an index. Indexes past the ring wrap. -/
def ofIndex (n : Nat) : Slot := ⟨n % 10240 / 10, n % 10240 % 10 + 1, by omega, by omega⟩

/-- The position on the ring, counted from zero. -/
def index (s : Slot) : Nat := s.frame * 10 + (s.subframe - 1)

instance : Inhabited Slot := ⟨ofIndex 0⟩

def ofFrame {α : Type} (frame subframe : Nat) : Except (SlotError α) Slot :=
  if hframe : 1024 ≤ frame then .error (.frameOutOfRange frame)
  else if hsubframe : subframe = 0 ∨ 10 < subframe then .error (.subframeOutOfRange subframe)
  else .ok ⟨frame, subframe, by omega, by omega⟩

def later (s : Slot) (slots : Nat) : Slot := ofIndex (s.index + slots)

instance : HAdd Slot Nat Slot := ⟨later⟩

/-- How many slots `s` comes after `now`. -/
def since (s now : Slot) : Nat := (s.index + 10240 - now.index) % 10240

def next (s : Slot) : Slot := s + 1

instance : Ord Slot := ⟨fun a b => compare a.index b.index⟩

instance : ToString Slot := ⟨fun s => s!"{s.frame}/{s.subframe}"⟩

/-- The distance of two slots. The wrap counts only when the frames lie more than `maxFrames` apart. -/
def gap (a b : Slot) (maxFrames : Nat) : Nat :=
  let far := maxFrames < (a.frame - b.frame) + (b.frame - a.frame)
  let fa := if far ∧ a.frame < b.frame then a.frame + 1024 else a.frame
  let fb := if far ∧ ¬ a.frame < b.frame then b.frame + 1024 else b.frame
  let ia := fa * 10 + a.subframe
  let ib := fb * 10 + b.subframe
  (ia - ib) + (ib - ia)

attribute [simp] frame_lt

theorem isLt (s : Slot) : s.index < 10240 := by
  have := s.frame_lt
  have := s.subframe_le
  simp only [index]
  omega

@[simp] theorem index_ofIndex (n : Nat) : (ofIndex n).index = n % 10240 := by
  simp only [ofIndex, index]
  omega

@[simp] theorem index_later (s : Slot) (n : Nat) : (s + n).index = (s.index + n) % 10240 := index_ofIndex _

/-- A slot has one index, which tells the frame and the place in it. -/
@[ext] theorem ext_index {a b : Slot} (h : a.index = b.index) : a = b := by
  obtain ⟨frame, subframe, hframe, hsubframe⟩ := a
  obtain ⟨frame', subframe', hframe', hsubframe'⟩ := b
  simp only [index] at h
  rw [mk.injEq]
  omega

@[simp] theorem add_zero (s : Slot) : s + 0 = s := by
  ext
  rw [index_later, Nat.add_zero]
  exact Nat.mod_eq_of_lt s.isLt

theorem add_add (s : Slot) (m n : Nat) : s + m + n = s + (m + n) := by
  ext
  simp only [index_later]
  omega

end Slot

end Sidelink
