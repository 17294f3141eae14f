import Mathlib.Data.Int.Log
import Sidelink.Proofs.Scalar.Powers
import Sidelink.TransportBlock

/-!
# The size of a block

In exact arithmetic a size is rounded three times: to a grid of powers of two, to an entry of the table or to whole
bytes of every code block, and into a 32-bit word. Each rounding keeps the order of its arguments. A grid gets coarser
at a power of two, which both grids have, and a code block is added where the blocks before it are full.
-/

namespace Sidelink

open Scalar Exact ExactPowers

/-! ## Rounding to a grid -/

/-- A rounding of real numbers to whole ones. -/
structure Rounding (f : ℝ → ℤ) : Prop where
  mono {r s : ℝ} : r ≤ s → f r ≤ f s
  whole (z : ℤ) : f z = z

theorem rounding_floor : Rounding Int.floor := ⟨fun h => Int.floor_mono h, Int.floor_intCast⟩

theorem rounding_round : Rounding round where
  mono h := by
    rw [round_eq, round_eq]
    exact Int.floor_mono (by gcongr)
  whole := round_intCast

/-- A number rounded to a multiple of a power of two. -/
noncomputable def onGrid (f : ℝ → ℤ) (n : ℤ) (r : ℝ) : ℝ := ((2 : ℕ) : ℝ) ^ n * f (r / ((2 : ℕ) : ℝ) ^ n)

theorem onGrid_eq (f : ℝ → ℤ) (n : ℤ) (r : ℝ) : onGrid f n r = 2 ^ n * f (r / 2 ^ n) := by
  unfold onGrid
  rw [Nat.cast_ofNat]

namespace Rounding

variable {f : ℝ → ℤ} {n m k : ℤ} {r s : ℝ}

theorem onGrid_mono (hf : Rounding f) (n : ℤ) (h : r ≤ s) : onGrid f n r ≤ onGrid f n s := by
  have hstep : (0 : ℝ) < 2 ^ n := zpow_pos two_pos _
  rw [onGrid_eq, onGrid_eq]
  exact mul_le_mul_of_nonneg_left (Int.cast_le.2 (hf.mono (div_le_div_of_nonneg_right h hstep.le))) hstep.le

theorem onGrid_twoPow (hf : Rounding f) (h : n ≤ k) : onGrid f n (2 ^ k) = 2 ^ k := by
  have hquotient : (2 : ℝ) ^ k / 2 ^ n = ((2 ^ (k - n).toNat : ℤ) : ℝ) := by
    rw [← zpow_sub₀ two_ne_zero]
    push_cast
    rw [← zpow_natCast, Int.toNat_of_nonneg (by omega)]
  rw [onGrid_eq, hquotient, hf.whole, ← hquotient, mul_div_cancel₀ _ (zpow_ne_zero _ two_ne_zero)]

theorem onGrid_le (hf : Rounding f) (hn : n ≤ k) (hm : m ≤ k) (hr : r ≤ 2 ^ k) (hs : 2 ^ k ≤ s) :
    onGrid f n r ≤ onGrid f m s :=
  calc onGrid f n r ≤ onGrid f n (2 ^ k) := hf.onGrid_mono n hr
    _ = onGrid f m (2 ^ k) := by rw [hf.onGrid_twoPow hn, hf.onGrid_twoPow hm]
    _ ≤ onGrid f m s := hf.onGrid_mono m hs

theorem onGrid_log_le (hf : Rounding f) (grid : ℤ → ℤ)
    (hgrid : ∀ j k, j < k → grid j = grid k ∨ grid j ≤ k ∧ grid k ≤ k) (hr : 0 < r) (h : r ≤ s) :
    onGrid f (grid (Int.log 2 r)) r ≤ onGrid f (grid (Int.log 2 s)) s := by
  rcases (Int.log_mono_right hr h : Int.log 2 r ≤ Int.log 2 s).eq_or_lt with heq | hlt
  · rw [heq]
    exact hf.onGrid_mono _ h
  · rcases hgrid _ _ hlt with heq | ⟨hn, hm⟩
    · rw [heq]
      exact hf.onGrid_mono _ h
    · have hbelow : r < 2 ^ Int.log 2 s := mod_cast (Int.lt_zpow_iff_log_lt (by norm_num) hr).2 hlt
      exact hf.onGrid_le hn hm hbelow.le (mod_cast Int.zpow_log_le_self (by norm_num) (hr.trans_le h))

end Rounding

/-- Information bits of a size in the table, rounded down. -/
noncomputable def roundedDown (r : ℝ) : ℝ := max (onGrid Int.floor (max (Int.log 2 r - 6) 3) r) 24

/-- Information bits of a size beyond the table, rounded to the nearest. -/
noncomputable def roundedNear (r : ℝ) : ℝ :=
  max (onGrid round (Int.log 2 (r - 24) - 5) (r - 24)) 3840

section

variable {r s : ℝ}

theorem roundedNear_nonneg (r : ℝ) : 0 ≤ roundedNear r := le_max_of_le_right (by norm_num)

theorem roundedDown_le (hr : 0 < r) (h : r ≤ s) : roundedDown r ≤ roundedDown s :=
  max_le_max_right _ (rounding_floor.onGrid_log_le (fun k => max (k - 6) 3) (by omega) hr h)

theorem roundedNear_le (hr : 24 < r) (h : r ≤ s) : roundedNear r ≤ roundedNear s :=
  max_le_max_right _
    (rounding_round.onGrid_log_le (fun k => k - 5) (by omega) (sub_pos.2 hr) (sub_le_sub_right h _))

end

/-! ## Sizes of the table -/

theorem find?_getD_mem (l : List ℕ) (p : ℕ → Bool) (last : ℕ) : (l.find? p).getD last ∈ last :: l := by
  cases hfind : l.find? p with
  | none => exact List.mem_cons_self
  | some a => exact List.mem_cons_of_mem _ (List.mem_of_find?_eq_some hfind)

theorem find?_getD_le {l : List ℕ} {p q : ℕ → Bool} {last : ℕ} (hsorted : l.Pairwise (· ≤ ·))
    (hlast : ∀ a ∈ l, a ≤ last) (himp : ∀ a, q a → p a) : (l.find? p).getD last ≤ (l.find? q).getD last := by
  induction l with
  | nil => rfl
  | cons a rest ih =>
    rw [List.pairwise_cons] at hsorted
    by_cases hp : p a
    · rw [List.find?_cons_of_pos hp, Option.getD_some]
      rcases List.mem_cons.1 (find?_getD_mem (a :: rest) q last) with heq | hmem
      · rw [heq]
        exact hlast a List.mem_cons_self
      · rcases List.mem_cons.1 hmem with heq | hmem
        · exact heq.ge
        · exact hsorted.1 _ hmem
    · rw [List.find?_cons_of_neg hp, List.find?_cons_of_neg (mt (himp a) hp)]
      exact ih hsorted.2 fun b hb => hlast b (List.mem_cons_of_mem _ hb)

/-- The first size of the table that is long enough. -/
noncomputable def smallSize (v : ℝ) : ℕ := (smallBlocks.find? fun size : ℕ => decide (v ≤ size)).getD 3824

theorem smallSize_mono : Monotone smallSize := fun _ _ h =>
  find?_getD_le (by decide) (by decide) fun _ hsize => decide_eq_true (h.trans (of_decide_eq_true hsize))

theorem smallSize_legal (v : ℝ) : 8 ∣ smallSize v ∧ 24 ≤ smallSize v ∧ smallSize v ≤ 3824 := by
  have hall : ∀ size ∈ 3824 :: smallBlocks, 8 ∣ size ∧ 24 ≤ size ∧ size ≤ 3824 := by decide
  exact hall _ (find?_getD_mem _ _ _)

/-! ## Sizes of code blocks -/

/-- The bits of so many code blocks of the same number of bytes, which have room for `v` bits. -/
noncomputable def padded (blocks : ℤ) (v : ℝ) : ℤ := 8 * blocks * ⌈(v + 24) / (8 * blocks)⌉ - 24

section

variable {blocks : ℤ} {v w : ℝ}

theorem dvd_padded (blocks : ℤ) (v : ℝ) : 8 ∣ padded blocks v := by
  unfold padded
  rw [mul_assoc]
  omega

theorem padded_mono (hpos : 0 < blocks) (h : v ≤ w) : padded blocks v ≤ padded blocks w := by
  unfold padded
  gcongr

theorem le_padded (hpos : 0 < blocks) (v : ℝ) : v ≤ padded blocks v := by
  have h8 : (0 : ℝ) < 8 * blocks := by positivity
  have hceil := (div_le_iff₀' h8).1 (Int.le_ceil ((v + 24) / (8 * blocks)))
  unfold padded
  push_cast
  linarith

theorem padded_lt (hpos : 0 < blocks) (v : ℝ) : padded blocks v < v + 8 * blocks := by
  have h8 : (0 : ℝ) < 8 * blocks := by positivity
  have hceil := mul_lt_mul_of_pos_left (Int.ceil_lt_add_one ((v + 24) / (8 * blocks))) h8
  rw [mul_add, mul_div_cancel₀ _ h8.ne'] at hceil
  unfold padded
  push_cast
  linarith

theorem padded_le (hpos : 0 < blocks) {bytes : ℤ} (h : v + 24 ≤ 8 * blocks * bytes) :
    padded blocks v ≤ 8 * blocks * bytes - 24 := by
  have h8 : (0 : ℝ) < 8 * blocks := by positivity
  unfold padded
  gcongr
  exact Int.ceil_le.2 ((div_le_iff₀' h8).2 h)

variable (low : Prop) [Decidable low]

/-- The code blocks of a size beyond the table. Low rates have shorter ones. -/
noncomputable def blockCount (v : ℝ) : ℤ :=
  if low then ⌈(v + 24) / 3816⌉ else if 8424 < v then ⌈(v + 24) / 8424⌉ else 1

noncomputable def largeSize (v : ℝ) : ℤ := padded (blockCount low v) v

theorem blockCount_pos (hv : 0 ≤ v) : 0 < blockCount low v := by
  unfold blockCount
  split_ifs
  · exact Int.ceil_pos.2 (by positivity)
  · exact Int.ceil_pos.2 (by positivity)
  · exact one_pos

theorem blockCount_le (hv : 0 ≤ v) : blockCount low v ≤ (v + 24) / 3816 + 1 := by
  unfold blockCount
  split_ifs
  · exact (Int.ceil_lt_add_one _).le
  · refine (Int.ceil_lt_add_one _).le.trans ?_
    gcongr
    norm_num
  · push_cast
    linarith [show 0 ≤ (v + 24) / 3816 by positivity]

theorem ceil_eq_or_full {maxBits : ℝ} (bytes : ℤ) (hmax : maxBits = 8 * bytes) (hpos : 0 < bytes) (h : v ≤ w) :
    ⌈(v + 24) / maxBits⌉ = ⌈(w + 24) / maxBits⌉ ∨
      ∃ bytes : ℤ, v + 24 ≤ 8 * ⌈(v + 24) / maxBits⌉ * bytes ∧ 8 * ⌈(v + 24) / maxBits⌉ * bytes ≤ w + 24 := by
  subst hmax
  have h8 : (0 : ℝ) < 8 * bytes := by positivity
  have hmono : ⌈(v + 24) / (8 * bytes)⌉ ≤ ⌈(w + 24) / (8 * bytes)⌉ := by gcongr
  refine hmono.eq_or_lt.imp_right fun hlt => ⟨bytes, ?_⟩
  have hbelow := (div_le_iff₀' h8).1 (Int.le_ceil ((v + 24) / (8 * bytes)))
  have habove := (lt_div_iff₀' h8).1 (Int.lt_ceil.1 hlt)
  constructor <;> linarith

theorem blockCount_eq_or_full (h : v ≤ w) :
    blockCount low v = blockCount low w ∨
      ∃ bytes : ℤ, v + 24 ≤ 8 * blockCount low v * bytes ∧ 8 * blockCount low v * bytes ≤ w + 24 := by
  unfold blockCount
  split_ifs with hlow hv hw hw
  · exact ceil_eq_or_full 477 (by norm_num) (by norm_num) h
  · exact ceil_eq_or_full 1053 (by norm_num) (by norm_num) h
  · exact absurd (hv.trans_le h) hw
  -- A single block is never filled up to more than 1056 bytes.
  · refine .inr ⟨1056, ?_, ?_⟩ <;> push_cast <;> linarith
  · exact .inl rfl

theorem largeSize_le (hv : 0 ≤ v) (h : v ≤ w) : largeSize low v ≤ largeSize low w := by
  have hpos := blockCount_pos low hv
  unfold largeSize
  rcases blockCount_eq_or_full low h with heq | ⟨bytes, hfits, hfull⟩
  · rw [← heq]
    exact padded_mono hpos h
  · have hleft := padded_le hpos hfits
    have hright := le_padded (blockCount_pos low (hv.trans h)) w
    have : ((8 * blockCount low v * bytes - 24 : ℤ) : ℝ) ≤ padded (blockCount low w) w := by
      push_cast
      linarith
    exact hleft.trans (mod_cast this)

theorem le_largeSize (hv : 0 ≤ v) : v ≤ largeSize low v := le_padded (blockCount_pos low hv) v

theorem largeSize_lt (hv : 0 ≤ v) : (largeSize low v : ℝ) < v + 8 * ((v + 24) / 3816 + 1) := by
  have hlt := padded_lt (blockCount_pos low hv) v
  have hle := blockCount_le low hv
  unfold largeSize
  linarith

end

/-! ## Sizes before they are cut to a word -/

section

variable (low : Prop) [Decidable low] {r s : ℝ}

/-- The size of a block in bits, without a limit. -/
noncomputable def exactSize (r : ℝ) : ℕ :=
  if r ≤ 3824 then smallSize (roundedDown r) else (largeSize low (roundedNear r)).toNat

theorem exactSize_of_le (hr : r ≤ 3824) : exactSize low r = smallSize (roundedDown r) := if_pos hr

theorem exactSize_of_lt (hr : 3824 < r) : (exactSize low r : ℤ) = largeSize low (roundedNear r) := by
  have hnonneg : (0 : ℝ) ≤ largeSize low (roundedNear r) :=
    (roundedNear_nonneg r).trans (le_largeSize low (roundedNear_nonneg r))
  unfold exactSize
  rw [if_neg hr.not_ge]
  exact Int.toNat_of_nonneg (mod_cast hnonneg)

theorem roundedNear_le_exactSize (hr : 3824 < r) : roundedNear r ≤ exactSize low r := by
  have hle := le_largeSize low (roundedNear_nonneg r)
  rwa [← exactSize_of_lt low hr, Int.cast_natCast] at hle

theorem exactSize_lt (hr : 3824 < r) :
    (exactSize low r : ℝ) < roundedNear r + 8 * ((roundedNear r + 24) / 3816 + 1) := by
  have hlt := largeSize_lt low (roundedNear_nonneg r)
  rwa [← exactSize_of_lt low hr, Int.cast_natCast] at hlt

theorem le_exactSize (hr : 3824 < r) : 3840 ≤ exactSize low r := by
  have hle := (le_max_right _ _).trans (roundedNear_le_exactSize low hr)
  exact_mod_cast hle

theorem exactSize_le (hr : 0 < r) (h : r ≤ s) : exactSize low r ≤ exactSize low s := by
  rcases le_or_gt s 3824 with hs | hs
  · rw [exactSize_of_le low hs, exactSize_of_le low (h.trans hs)]
    exact smallSize_mono (roundedDown_le hr h)
  · rcases le_or_gt r 3824 with hr' | hr'
    · rw [exactSize_of_le low hr']
      exact (smallSize_legal _).2.2.trans (le_trans (by norm_num) (le_exactSize low hs))
    · have hle := largeSize_le low (roundedNear_nonneg r) (roundedNear_le (by linarith) h)
      rw [← exactSize_of_lt low hr', ← exactSize_of_lt low hs] at hle
      exact_mod_cast hle

theorem exactSize_legal (r : ℝ) : 8 ∣ exactSize low r ∧ 24 ≤ exactSize low r := by
  rcases le_or_gt r 3824 with hr | hr
  · rw [exactSize_of_le low hr]
    exact ⟨(smallSize_legal _).1, (smallSize_legal _).2.1⟩
  · have hdvd : (8 : ℤ) ∣ exactSize low r := by
      rw [exactSize_of_lt low hr]
      exact dvd_padded _ _
    exact ⟨mod_cast hdvd, le_trans (by norm_num) (le_exactSize low hr)⟩

end

/-! ## The size of a block -/

variable {α : Type} [Scalar α]

theorem toWord32_eq [Exact α] {x : α} {z : ℤ} (h : Is x z) : toWord32 x = min z.toNat (limit32 - 1) := by
  unfold toWord32
  rw [toNat_eq h, ← Int.floor_toNat, Int.floor_intCast]

theorem is_padded [Exact α] {blocks info : α} {c : ℤ} {v : ℝ} (hblocks : Is blocks c) (hinfo : Is info v) (hc : 0 < c) :
    Is (8.0 * blocks * Scalar.ceil ((info + 24.0) / (8.0 * blocks)) - 24.0) (padded c v) := by
  have h8 : Is (8.0 : α) 8 := mod_cast is_whole 8
  have h24 : Is (24.0 : α) 24 := mod_cast is_whole 24
  have hfilled := is_sub (is_mul (is_mul h8 hblocks)
    (is_ceil (is_div (is_add hinfo h24) (is_mul h8 hblocks) (by positivity)))) h24
  unfold padded
  push_cast
  exact hfilled

theorem is_padded_one [Exact α] {info : α} {v : ℝ} (hinfo : Is info v) :
    Is (8.0 * Scalar.ceil ((info + 24.0) / 8.0) - 24.0) (padded 1 v) := by
  have h8 : Is (8.0 : α) 8 := mod_cast is_whole 8
  have h24 : Is (24.0 : α) 24 := mod_cast is_whole 24
  have hfilled := is_sub (is_mul h8 (is_ceil (is_div (is_add hinfo h24) h8 (by norm_num)))) h24
  unfold padded
  push_cast
  rw [mul_one]
  exact hfilled

theorem segmentedSize_eq [Exact α] {info maxBits : α} {v m : ℝ} (hinfo : Is info v) (hmax : Is maxBits m) (hv : 0 ≤ v)
    (hm : 0 < m) : segmentedSize info maxBits = min (padded ⌈(v + 24) / m⌉ v).toNat (limit32 - 1) := by
  have h24 : Is (24.0 : α) 24 := mod_cast is_whole 24
  exact toWord32_eq (is_padded (is_ceil (is_div (is_add hinfo h24) hmax hm.ne')) hinfo (Int.ceil_pos.2 (by positivity)))

variable [ExactPowers α] {x y : α} {r s : ℝ}

theorem floorLog2_eq (h : Is x r) (hr : 0 < r) : floorLog2 x = Int.log 2 r := by
  refine le_antisymm ?_ (Int.lt_add_one_iff.1 ?_)
  · exact (Int.zpow_le_iff_le_log (by norm_num) hr).1 (mod_cast twoPow_floorLog2_le h hr)
  · exact (Int.lt_zpow_iff_log_lt (by norm_num) hr).1 (mod_cast lt_twoPow_floorLog2 h hr)

theorem is_down (h : Is x r) (hr : 0 < r) :
    Is (twoPow (max (floorLog2 x - 6) 3) * Scalar.floor (x / twoPow (max (floorLog2 x - 6) 3)))
      (onGrid Int.floor (max (Int.log 2 r - 6) 3) r) := by
  rw [floorLog2_eq h hr, onGrid_eq]
  exact is_mul (is_twoPow _) (is_floor (is_div h (is_twoPow _) (zpow_ne_zero _ two_ne_zero)))

theorem is_near (h : Is x r) (hr : 0 < r) :
    Is (twoPow (floorLog2 x - 5) * Scalar.round (x / twoPow (floorLog2 x - 5)))
      (onGrid round (Int.log 2 r - 5) r) := by
  have hstep : (0 : ℝ) < 2 ^ (Int.log 2 r - 5) := zpow_pos two_pos _
  rw [floorLog2_eq h hr, onGrid_eq, round_eq]
  exact is_mul (is_twoPow _) (is_round (is_div h (is_twoPow _) hstep.ne') (div_pos hr hstep).le)

/-- A block has the exact size, cut to a 32-bit word. -/
theorem blockSize_eq (rate : α) (h : Is x r) (hr : 0 < r) :
    blockSize x rate = min (exactSize (rate ≤ 0.25) r) (limit32 - 1) := by
  have h24 : Is (24.0 : α) 24 := mod_cast is_whole 24
  have h3824 : Is (3824.0 : α) 3824 := mod_cast is_whole 3824
  unfold blockSize exactSize
  rw [if_neg (not_not.2 ((lt_iff is_zero h).2 hr))]
  by_cases hsmall : r ≤ 3824
  · have hrounded := is_larger (is_down h hr) h24
    have hpredicate : (fun size : ℕ => decide (larger _ (24.0 : α) ≤ Scalar.ofNat size)) =
        fun size : ℕ => decide (roundedDown r ≤ size) :=
      funext fun size => decide_eq_decide.2 (le_iff hrounded (is_ofNat size))
    rw [if_pos ((le_iff h h3824).2 hsmall), if_pos hsmall]
    dsimp only
    rw [hpredicate]
    exact (Nat.min_eq_left ((smallSize_legal _).2.2.trans (by decide))).symm
  · have hrounded := is_larger (is_near (is_sub h h24) (by linarith)) (mod_cast is_whole 3840 : Is (3840.0 : α) 3840)
    have hv := roundedNear_nonneg r
    rw [if_neg (mt (le_iff h h3824).1 hsmall), if_neg hsmall]
    change Is _ (roundedNear r) at hrounded
    dsimp only
    generalize larger _ (3840.0 : α) = rounded at hrounded ⊢
    unfold largeSize blockCount
    by_cases hlow : rate ≤ 0.25
    · rw [if_pos hlow, if_pos hlow]
      exact segmentedSize_eq hrounded (mod_cast is_whole 3816) hv (by norm_num)
    · rw [if_neg hlow, if_neg hlow]
      have h8424 : Is (8424.0 : α) 8424 := mod_cast is_whole 8424
      by_cases hlong : 8424 < roundedNear r
      · rw [if_pos ((lt_iff h8424 hrounded).2 hlong), if_pos hlong]
        exact segmentedSize_eq hrounded h8424 hv (by norm_num)
      · rw [if_neg (mt (lt_iff h8424 hrounded).1 hlong), if_neg hlong]
        exact toWord32_eq (is_padded_one hrounded)

end Sidelink
