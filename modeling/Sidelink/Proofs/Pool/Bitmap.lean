import Sidelink.Pool.Bitmap
import Sidelink.Proofs.Fault

/-!
# Bitmaps and their texts

A bitmap and its text say the same, bit by bit and character by character, and each is found from the other. Any other
text is refused for its number of characters or, with the right number, for its first character that is no bit.
-/

namespace Sidelink.SubframeBitmap

variable {b : Bool} {bits : List Bool} {c : Char} {cs : List Char} {e : PoolError} {text : String}

/-! ## One character -/

/-- A character that stands for a bit. -/
def IsBit (c : Char) : Prop := c = '0' ∨ c = '1'

instance (c : Char) : Decidable (IsBit c) := inferInstanceAs (Decidable (_ ∨ _))

theorem isBit_charOfBit (b : Bool) : IsBit (charOfBit b) := by
  cases b with
  | false => exact .inl rfl
  | true => exact .inr rfl

theorem charOfBit_eq_one_iff : charOfBit b = '1' ↔ b = true := by cases b <;> decide

theorem bitOfChar_charOfBit (b : Bool) : bitOfChar (charOfBit b) = .ok b := by cases b <;> rfl

theorem bitOfChar_eq_ok_iff : bitOfChar c = .ok b ↔ charOfBit b = c := by
  constructor
  · intro h
    unfold bitOfChar at h
    split at h
    · rename_i hzero
      cases h
      exact hzero.symm
    · split at h
      · rename_i hone
        cases h
        exact hone.symm
      · cases h
  · rintro rfl
    exact bitOfChar_charOfBit b

theorem bitOfChar_eq_error_iff : bitOfChar c = .error e ↔ ¬IsBit c ∧ e = .invalidBitmapCharacter c := by
  unfold bitOfChar IsBit
  split
  · rename_i hzero
    exact iff_of_false nofun fun h => h.1 (.inl hzero)
  · split
    · rename_i hone
      exact iff_of_false nofun fun h => h.1 (.inr hone)
    · rename_i hzero hone
      rw [and_iff_right (not_or.2 ⟨hzero, hone⟩), Except.error.injEq, eq_comm]

/-! ## Many characters -/

theorem bitsOfChars_eq_ok_iff : bitsOfChars cs = .ok bits ↔ bits.map charOfBit = cs := by
  induction cs generalizing bits with
  | nil =>
    rw [List.map_eq_nil_iff, bitsOfChars, Except.ok.injEq]
    exact eq_comm
  | cons c rest ih =>
    rw [List.map_eq_cons_iff]
    constructor
    · intro h
      obtain ⟨b, hb, h⟩ := ok_of_bind h
      obtain ⟨bs, hbs, h⟩ := ok_of_bind h
      cases h
      exact ⟨b, bs, rfl, bitOfChar_eq_ok_iff.1 hb, ih.1 hbs⟩
    · rintro ⟨b, bs, rfl, hb, hbs⟩
      rw [bitsOfChars, bitOfChar_eq_ok_iff.2 hb, ok_bind, ih.2 hbs, ok_bind]
      rfl

theorem bitsOfChars_eq_error_iff : bitsOfChars cs = .error e ↔
    ∃ before c after, cs = before ++ c :: after ∧ (∀ d ∈ before, IsBit d) ∧ ¬IsBit c ∧
      e = .invalidBitmapCharacter c := by
  induction cs with
  | nil => exact iff_of_false nofun fun ⟨_, _, _, h, _⟩ => by simp at h
  | cons first rest ih =>
    constructor
    · intro h
      rcases error_of_bind h with h | ⟨b, hb, h⟩
      · obtain ⟨hbad, he⟩ := bitOfChar_eq_error_iff.1 h
        exact ⟨[], first, rest, rfl, nofun, hbad, he⟩
      · have hrest : bitsOfChars rest = .error e := by
          rcases error_of_bind h with h | ⟨bs, -, h⟩
          · exact h
          · cases h
        obtain ⟨before, c, after, rfl, hbefore, hbad, he⟩ := ih.1 hrest
        have hfirst : IsBit first := bitOfChar_eq_ok_iff.1 hb ▸ isBit_charOfBit b
        exact ⟨first :: before, c, after, rfl, List.forall_mem_cons.2 ⟨hfirst, hbefore⟩, hbad, he⟩
    · rintro ⟨before, c, after, hcs, hbefore, hbad, he⟩
      cases before with
      | nil =>
        cases hcs
        rw [bitsOfChars, bitOfChar_eq_error_iff.2 ⟨hbad, he⟩]
        rfl
      | cons d before =>
        cases hcs
        obtain ⟨hfirst, hbefore⟩ := List.forall_mem_cons.1 hbefore
        cases hb : bitOfChar first with
        | error e' => exact absurd hfirst (bitOfChar_eq_error_iff.1 hb).1
        | ok b =>
          rw [bitsOfChars, hb, ok_bind, ih.2 ⟨before, c, after, rfl, hbefore, hbad, he⟩]
          rfl

/-! ## Texts -/

theorem toList_toText (b : SubframeBitmap) : b.toText.toList = b.bits.map charOfBit := String.toList_ofList

theorem length_toText (b : SubframeBitmap) : b.toText.length = 40 := by
  rw [← String.length_toList, toList_toText, List.length_map, b.length_eq]

theorem ofText_of_length (h : text.length = 40) :
    ofText text = (bitsOfChars text.toList).bind fun bits =>
      if h : bits.length = 40 then .ok ⟨bits, h⟩ else .error (.inconsistentBitmapSize bits.length) := by
  unfold ofText
  dsimp only
  rw [String.length_toList, if_neg fun hne => hne h]
  cases bitsOfChars text.toList <;> rfl

theorem ofText_of_length_ne (h : text.length ≠ 40) : ofText text = .error (.inconsistentBitmapSize text.length) := by
  unfold ofText
  dsimp only
  rw [String.length_toList, if_pos h]

theorem ofText_eq_ok_iff {b : SubframeBitmap} : ofText text = .ok b ↔ b.toText = text := by
  rw [← String.toList_inj, toList_toText]
  by_cases hlength : text.length = 40
  · rw [ofText_of_length hlength, ← bitsOfChars_eq_ok_iff]
    constructor
    · intro h
      obtain ⟨bits, hbits, h⟩ := ok_of_bind h
      split at h
      · cases h
        exact hbits
      · cases h
    · intro h
      rw [h]
      exact dif_pos b.length_eq
  · rw [ofText_of_length_ne hlength]
    refine iff_of_false nofun fun h => hlength ?_
    rw [← String.length_toList, ← h, List.length_map, b.length_eq]

theorem ofText_eq_error_iff : ofText text = .error e ↔
    (text.length ≠ 40 ∧ e = .inconsistentBitmapSize text.length) ∨
    (text.length = 40 ∧ ∃ before c after, text.toList = before ++ c :: after ∧ (∀ d ∈ before, IsBit d) ∧ ¬IsBit c ∧
      e = .invalidBitmapCharacter c) := by
  by_cases hlength : text.length = 40
  · rw [ofText_of_length hlength, ← bitsOfChars_eq_error_iff]
    simp only [hlength, ne_eq, not_true_eq_false, false_and, false_or, true_and]
    constructor
    · intro h
      rcases error_of_bind h with h | ⟨bits, hbits, h⟩
      · exact h
      · -- As many bits are read as there are characters.
        have hbits : bits.length = 40 := by
          rw [← hlength, ← String.length_toList, ← bitsOfChars_eq_ok_iff.1 hbits, List.length_map]
        rw [dif_pos hbits] at h
        cases h
    · intro h
      rw [h]
      rfl
  · rw [ofText_of_length_ne hlength, Except.error.injEq]
    simp only [hlength, ne_eq, not_false_eq_true, false_and, or_false, true_and]
    exact eq_comm

/-! ## The bits of a text -/

/-- What a bitmap says and what a text says is the same. -/
structure Agrees (b : SubframeBitmap) (text : String) : Prop where
  /-- Offsets past the end use the text again from its start. -/
  isSet_iff (i : Nat) : b.isSet i = true ↔ text.toList[i % 40]? = some '1'
  countOnes_eq : b.countOnes = text.toList.count '1'
  toText_eq : b.toText = text

theorem agrees_toText (b : SubframeBitmap) : b.Agrees b.toText where
  isSet_iff i := by
    have hlt : i % 40 < b.bits.length := by
      rw [b.length_eq]
      exact Nat.mod_lt _ (by decide)
    rw [toList_toText, List.getElem?_map, List.getElem?_eq_getElem hlt, Option.map_some, Option.some.injEq,
      charOfBit_eq_one_iff]
    rfl
  countOnes_eq := by
    rw [toList_toText, countOnes, List.count, List.count, List.countP_map]
    refine List.countP_congr fun b _ => ?_
    rw [Function.comp_apply, beq_iff_eq, beq_iff_eq, charOfBit_eq_one_iff]
  toText_eq := rfl

/-- Forty characters are read if all of them are bits, as the bitmap that agrees with them, and every bitmap is read
from its own text. A text of another length is refused for its length, and else the first character that is no bit is
named. -/
theorem ofText_agrees (text : String) :
    ((∃ b, ofText text = .ok b) ↔ text.length = 40 ∧ ∀ c ∈ text.toList, IsBit c) ∧
    (∀ b, ofText text = .ok b → b.Agrees text) ∧
    (∀ b : SubframeBitmap, ofText b.toText = .ok b) ∧
    ∀ e, ofText text = .error e ↔
      (text.length ≠ 40 ∧ e = .inconsistentBitmapSize text.length) ∨
      (text.length = 40 ∧ ∃ before c after, text.toList = before ++ c :: after ∧ (∀ d ∈ before, IsBit d) ∧ ¬IsBit c ∧
        e = .invalidBitmapCharacter c) := by
  refine ⟨⟨?_, ?_⟩, ?_, fun b => ofText_eq_ok_iff.2 rfl, fun e => ofText_eq_error_iff⟩
  · rintro ⟨b, h⟩
    obtain rfl := ofText_eq_ok_iff.1 h
    refine ⟨length_toText b, fun c hc => ?_⟩
    rw [toList_toText, List.mem_map] at hc
    obtain ⟨bit, -, rfl⟩ := hc
    exact isBit_charOfBit bit
  · rintro ⟨hlength, hbits⟩
    cases h : ofText text with
    | ok b => exact ⟨b, rfl⟩
    | error e =>
      rcases ofText_eq_error_iff.1 h with ⟨hne, -⟩ | ⟨-, before, c, after, hcs, -, hbad, -⟩
      · exact absurd hlength hne
      · exact absurd (hbits c (by simp [hcs])) hbad
  · intro b h
    obtain rfl := ofText_eq_ok_iff.1 h
    exact agrees_toText b

/-- The third subframe and the last one, and forty characters in more bytes, of which two are no bits. -/
theorem ofText_agrees_forty :
    (∃ b, ofText "0010000000000000000000000000000000000001" = .ok b ∧
      b.Agrees "0010000000000000000000000000000000000001") ∧
    ofText "00é000000000000000000000000000000000000x" = .error (.invalidBitmapCharacter 'é') := by
  constructor
  · obtain ⟨hok, hagrees, -, -⟩ := ofText_agrees "0010000000000000000000000000000000000001"
    have hbits : "0010000000000000000000000000000000000001".toList.all (fun c => decide (IsBit c)) := by decide
    obtain ⟨b, h⟩ := hok.2 ⟨by decide, fun c hc => of_decide_eq_true (List.all_eq_true.1 hbits c hc)⟩
    exact ⟨b, h, hagrees b h⟩
  · obtain ⟨-, -, -, herror⟩ := ofText_agrees "00é000000000000000000000000000000000000x"
    have hbefore : ∀ d ∈ ['0', '0'], IsBit d := by simp [IsBit]
    exact (herror _).2 (.inr ⟨by decide, ['0', '0'], 'é', _, rfl, hbefore, by decide, rfl⟩)

end Sidelink.SubframeBitmap
