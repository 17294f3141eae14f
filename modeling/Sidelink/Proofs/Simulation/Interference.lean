import Mathlib.Algebra.BigOperators.Group.List.Basic
import Mathlib.Algebra.Order.BigOperators.Group.List
import Sidelink.Proofs.Scalar.Levels
import Sidelink.Proofs.Simulation.Tallies

/-!
# Interference

The power of the other transmissions in a band is the sum of their shares, and a share goes by the RBs that a
transmission has in the band. So it is zero exactly when no other transmission that is heard has any, and a failure
counts as one of propagation then.
-/

namespace Sidelink

open Scalar Exact

/-! ## RBs in a band -/

namespace Band

def Has (band : Band) (rb : Nat) : Prop := band.start ≤ rb ∧ rb < band.stop

theorem overlap_split {a b c : Nat} (hab : a ≤ b) (hbc : b ≤ c) (band : Band) :
    overlap ⟨a, b⟩ band + overlap ⟨b, c⟩ band = overlap ⟨a, c⟩ band := by
  unfold overlap
  dsimp only
  omega

theorem overlap_of_within {band : Band} {start count : Nat} (hword : start + count ≤ 65535)
    (hstart : band.start ≤ start) (hstop : start + count ≤ band.stop) : band.overlap (ofRbs start count) = count := by
  unfold overlap ofRbs
  dsimp only
  omega

theorem overlap_ofRbs_zero (band : Band) (start : Nat) : band.overlap (ofRbs start 0) = 0 := by
  unfold overlap ofRbs
  dsimp only
  omega

theorem overlap_pos_iff {band : Band} (hword : band.stop ≤ 65535) (start count : Nat) :
    0 < band.overlap (ofRbs start count) ↔ ∃ rb, band.Has rb ∧ start ≤ rb ∧ rb < start + count := by
  -- The end of a band is a word, so it does not matter that the range of a transmission is cut at the last word.
  unfold overlap ofRbs Has
  dsimp only
  constructor
  · intro h
    exact ⟨max band.start start, by omega, by omega, by omega⟩
  · rintro ⟨rb, ⟨hfrom, hto⟩, hstart, hstop⟩
    omega

end Band

/-! ## Shares -/

namespace Heard

def rbsIn {α : Type} (h : Heard α) (band : Band) : Nat :=
  band.overlap (Band.ofRbs h.onAir.tx.rbStart h.onAir.tx.rbCount)

variable {α : Type} [Analysis α] [Exact α] {h : Heard α} {p : α} {r : ℝ} {band : Band}

/-- Its power, if it is received, is a number and not negative. -/
def Measured (h : Heard α) : Prop := ∀ p, h.powerMw = some p → ∃ r, 0 ≤ r ∧ Is p r

/-- The power as a number, zero if it is not received. -/
noncomputable def valueMw (h : Heard α) : ℝ := h.powerMw.elim 0 Exact.value

noncomputable def shareIn (h : Heard α) (band : Band) : ℝ := h.valueMw * h.rbsIn band / h.onAir.tx.rbCount

theorem valueMw_eq (hpower : h.powerMw = some p) (hp : Is p r) : h.valueMw = r := by
  rw [valueMw, hpower]
  exact value_eq hp

theorem Measured.valueMw_nonneg (hh : h.Measured) : 0 ≤ h.valueMw := by
  cases hpower : h.powerMw with
  | none => simp [valueMw, hpower]
  | some p =>
    obtain ⟨r, hr, hp⟩ := hh p hpower
    rwa [valueMw_eq hpower hp]

theorem Measured.shareIn_nonneg (hh : h.Measured) (band : Band) : 0 ≤ h.shareIn band :=
  div_nonneg (mul_nonneg hh.valueMw_nonneg (Nat.cast_nonneg _)) (Nat.cast_nonneg _)

omit [Analysis α] [Exact α] in
theorem rbCount_pos_of_rbsIn_pos (hrbs : 0 < h.rbsIn band) : 0 < h.onAir.tx.rbCount := by
  apply Nat.pos_of_ne_zero
  intro hzero
  rw [rbsIn, hzero, Band.overlap_ofRbs_zero] at hrbs
  exact Nat.lt_irrefl 0 hrbs

theorem Measured.shareIn_pos_iff (hh : h.Measured) (band : Band) :
    0 < h.shareIn band ↔ 0 < h.valueMw ∧ 0 < h.rbsIn band := by
  constructor
  · intro hpos
    have hvalue : h.valueMw ≠ 0 := by
      intro hzero
      simp [shareIn, hzero] at hpos
    have hrbs : h.rbsIn band ≠ 0 := by
      intro hzero
      simp [shareIn, hzero] at hpos
    exact ⟨lt_of_le_of_ne hh.valueMw_nonneg hvalue.symm, Nat.pos_of_ne_zero hrbs⟩
  · rintro ⟨hvalue, hrbs⟩
    have hcount := rbCount_pos_of_rbsIn_pos hrbs
    exact div_pos (mul_pos hvalue (Nat.cast_pos.2 hrbs)) (Nat.cast_pos.2 hcount)

theorem shareIn_of_within (hpower : h.powerMw = some p) (hp : Is p r) (hcount : 0 < h.onAir.tx.rbCount)
    (hword : h.onAir.tx.rbStart + h.onAir.tx.rbCount ≤ 65535) (hstart : band.start ≤ h.onAir.tx.rbStart)
    (hstop : h.onAir.tx.rbStart + h.onAir.tx.rbCount ≤ band.stop) : h.shareIn band = r := by
  rw [shareIn, valueMw_eq hpower hp, rbsIn, Band.overlap_of_within hword hstart hstop]
  exact mul_div_cancel_right₀ r (Nat.cast_ne_zero.2 hcount.ne')

theorem shareIn_split {a b c : Nat} (hab : a ≤ b) (hbc : b ≤ c) (h : Heard α) :
    h.shareIn ⟨a, b⟩ + h.shareIn ⟨b, c⟩ = h.shareIn ⟨a, c⟩ := by
  have hrbs : h.rbsIn ⟨a, b⟩ + h.rbsIn ⟨b, c⟩ = h.rbsIn ⟨a, c⟩ := Band.overlap_split hab hbc _
  unfold shareIn
  rw [← hrbs, Nat.cast_add]
  ring

theorem Measured.is_powerIn (hh : h.Measured) (band : Band) :
    match h.powerIn? band with
    | some p => Is p (h.shareIn band)
    | none => h.shareIn band = 0 := by
  unfold powerIn? shareIn
  dsimp only
  cases hpower : h.powerMw with
  | none => simp [valueMw, hpower]
  | some p =>
    obtain ⟨r, -, hp⟩ := hh p hpower
    rw [valueMw_eq hpower hp]
    dsimp only
    by_cases hshared : 0 < h.rbsIn band
    · have hcount := rbCount_pos_of_rbsIn_pos hshared
      rw [if_pos ⟨hshared, hcount⟩]
      exact is_div (is_mul hp (is_ofNat _)) (is_ofNat _) (Nat.cast_ne_zero.2 hcount.ne')
    · rw [if_neg fun hboth => hshared hboth.1]
      simp [Nat.eq_zero_of_not_pos hshared]

end Heard

/-! ## Sums of shares -/

section

variable {α : Type} [Analysis α] [Exact α] {heard : List (Heard α)} {skip : Nat} {band : Band}

theorem is_sum_filterMap {β : Type} {f : β → Option α} {v : β → ℝ} (xs : List β)
    (h : ∀ x ∈ xs, match f x with | some y => Is y (v x) | none => v x = 0) :
    Is (Scalar.sum (xs.filterMap f)) (xs.map v).sum := by
  have hfrom (start : α) (r : ℝ) (hstart : Is start r) :
      Is ((xs.filterMap f).foldl (· + ·) start) (r + (xs.map v).sum) := by
    induction xs generalizing start r with
    | nil => simpa using hstart
    | cons x rest ih =>
      obtain ⟨hx, hrest⟩ := List.forall_mem_cons.1 h
      cases hf : f x with
      | none =>
        rw [hf] at hx
        rw [List.filterMap_cons_none hf, List.map_cons, List.sum_cons, hx, zero_add]
        exact ih hrest start r hstart
      | some y =>
        rw [hf] at hx
        rw [List.filterMap_cons_some hf, List.foldl_cons, List.map_cons, List.sum_cons, ← add_assoc]
        exact ih hrest _ _ (is_add hstart hx)
  have hsum := hfrom 0.0 0 is_zero
  rwa [zero_add] at hsum

/-- The share of each transmission in a band, and zero for the one that is left out. -/
noncomputable def sharesIn (heard : List (Heard α)) (skip : Nat) (band : Band) : List ℝ :=
  heard.mapIdx fun j h => if j = skip then 0 else h.shareIn band

theorem is_interference (hheard : ∀ h ∈ heard, h.Measured) (skip : Nat) (band : Band) :
    Is (interference heard skip band) (sharesIn heard skip band).sum := by
  unfold interference sharesIn
  rw [List.filterMap_filter, List.mapIdx_eq_zipIdx_map]
  apply is_sum_filterMap
  rintro ⟨h, j⟩ hmem
  have hh := hheard h (List.fst_mem_of_mem_zipIdx hmem)
  by_cases hj : j = skip
  · simp [hj]
  · simpa [hj] using hh.is_powerIn band

theorem sharesIn_split {a b c : Nat} (hab : a ≤ b) (hbc : b ≤ c) (heard : List (Heard α)) (skip : Nat) :
    (sharesIn heard skip ⟨a, b⟩).sum + (sharesIn heard skip ⟨b, c⟩).sum = (sharesIn heard skip ⟨a, c⟩).sum := by
  unfold sharesIn
  rw [List.mapIdx_eq_zipIdx_map, List.mapIdx_eq_zipIdx_map, List.mapIdx_eq_zipIdx_map, ← List.sum_map_add]
  congr 1
  apply List.map_congr_left
  rintro ⟨h, j⟩ -
  by_cases hj : j = skip
  · simp [hj]
  · simp [hj, Heard.shareIn_split hab hbc]

theorem sharesIn_set {j : Nat} {h : Heard α} (hj : heard[j]? = some h) (hskip : j ≠ skip) (band : Band) :
    (sharesIn (heard.set j { h with powerMw := none }) skip band).sum + h.shareIn band =
      (sharesIn heard skip band).sum := by
  obtain ⟨hlt, hget⟩ := List.getElem?_eq_some_iff.1 hj
  have hsilent : Heard.shareIn { h with powerMw := none } band = 0 := by simp [Heard.shareIn, Heard.valueMw]
  unfold sharesIn
  rw [List.mapIdx_set, List.sum_set', dif_pos (by simpa using hlt), List.getElem_mapIdx, hget, if_neg hskip,
    if_neg hskip, hsilent]
  ring

theorem sharesIn_sum_pos_iff (hheard : ∀ h ∈ heard, h.Measured) (skip : Nat) (band : Band) :
    0 < (sharesIn heard skip band).sum ↔ ∃ j h, j ≠ skip ∧ heard[j]? = some h ∧ 0 < h.shareIn band := by
  have hnonneg : ∀ x ∈ sharesIn heard skip band, 0 ≤ x := by
    intro x hx
    obtain ⟨j, hj, rfl⟩ := List.mem_mapIdx.1 hx
    split
    · exact le_rfl
    · exact (hheard _ (List.getElem_mem hj)).shareIn_nonneg band
  constructor
  · intro hpos
    obtain ⟨x, hx, hne⟩ := List.exists_mem_ne_zero_of_sum_ne_zero hpos.ne'
    have hxpos : 0 < x := lt_of_le_of_ne (hnonneg x hx) hne.symm
    obtain ⟨j, hj, rfl⟩ := List.mem_mapIdx.1 hx
    split at hxpos
    · exact absurd hxpos (lt_irrefl 0)
    · exact ⟨j, heard[j], ‹_›, List.getElem?_eq_getElem hj, hxpos⟩
  · rintro ⟨j, h, hskip, hj, hpos⟩
    obtain ⟨hlt, rfl⟩ := List.getElem?_eq_some_iff.1 hj
    have hmem : heard[j].shareIn band ∈ sharesIn heard skip band :=
      List.mem_mapIdx.2 ⟨j, hlt, by rw [if_neg hskip]⟩
    exact lt_of_lt_of_le hpos (List.single_le_sum hnonneg _ hmem)

/-- Another transmission that is heard has some RB of a band. -/
def Disturbed (heard : List (Heard α)) (skip : Nat) (band : Band) : Prop :=
  ∃ j h p rb, j ≠ skip ∧ heard[j]? = some h ∧ h.powerMw = some p ∧ 0.0 < p ∧ band.Has rb ∧
    h.onAir.tx.rbStart ≤ rb ∧ rb < h.onAir.tx.rbStart + h.onAir.tx.rbCount

theorem interference_pos_iff (hheard : ∀ h ∈ heard, h.Measured) (skip : Nat) (hword : band.stop ≤ 65535) :
    0.0 < interference heard skip band ↔ Disturbed heard skip band := by
  rw [lt_iff is_zero (is_interference hheard skip band), sharesIn_sum_pos_iff hheard]
  constructor
  · rintro ⟨j, h, hskip, hj, hshare⟩
    have hh := hheard h (List.mem_of_getElem? hj)
    obtain ⟨hvalue, hrbs⟩ := (hh.shareIn_pos_iff band).1 hshare
    obtain ⟨rb, hband, hrb⟩ := (Band.overlap_pos_iff hword _ _).1 hrbs
    cases hpower : h.powerMw with
    | none => simp [Heard.valueMw, hpower] at hvalue
    | some p =>
      obtain ⟨r, -, hp⟩ := hh p hpower
      rw [Heard.valueMw_eq hpower hp] at hvalue
      exact ⟨j, h, p, rb, hskip, hj, hpower, (lt_iff is_zero hp).2 hvalue, hband, hrb⟩
  · rintro ⟨j, h, p, rb, hskip, hj, hpower, hpos, hband, hrb⟩
    have hh := hheard h (List.mem_of_getElem? hj)
    obtain ⟨r, -, hp⟩ := hh p hpower
    refine ⟨j, h, hskip, hj, (hh.shareIn_pos_iff band).2 ⟨?_, (Band.overlap_pos_iff hword _ _).2 ⟨rb, hband, hrb⟩⟩⟩
    rw [Heard.valueMw_eq hpower hp]
    exact (lt_iff is_zero hp).1 hpos

/-- The sum over bands and over transmissions, and what there is to a sum above zero. -/
structure AddsUp (heard : List (Heard α)) (skip : Nat) : Prop where
  split {a b c : Nat} : a ≤ b → b ≤ c → ∃ r s, Is (interference heard skip ⟨a, b⟩) r ∧
    Is (interference heard skip ⟨b, c⟩) s ∧ Is (interference heard skip ⟨a, c⟩) (r + s)
  /-- A transmission that lies within the band brings all of its power. -/
  whole {j : Nat} {h : Heard α} {p : α} {r : ℝ} {band : Band} : j ≠ skip → heard[j]? = some h →
    h.powerMw = some p → Is p r → 0 < h.onAir.tx.rbCount → h.onAir.tx.rbStart + h.onAir.tx.rbCount ≤ 65535 →
    band.start ≤ h.onAir.tx.rbStart → h.onAir.tx.rbStart + h.onAir.tx.rbCount ≤ band.stop →
    ∃ s, Is (interference (heard.set j { h with powerMw := none }) skip band) s ∧
      Is (interference heard skip band) (s + r)
  pos_iff {band : Band} : band.stop ≤ 65535 → (0.0 < interference heard skip band ↔ Disturbed heard skip band)

theorem AddsUp.of_measured (hheard : ∀ h ∈ heard, h.Measured) (skip : Nat) : AddsUp heard skip where
  split hab hbc := by
    refine ⟨_, _, is_interference hheard skip _, is_interference hheard skip _, ?_⟩
    rw [sharesIn_split hab hbc]
    exact is_interference hheard skip _
  whole := by
    intro j h p r band hskip hj hpower hp hcount hword hstart hstop
    have hothers : ∀ h' ∈ heard.set j { h with powerMw := none }, h'.Measured := by
      intro h' hmem
      rcases List.mem_or_eq_of_mem_set hmem with hmem | rfl
      · exact hheard h' hmem
      · rintro _ ⟨⟩
    refine ⟨_, is_interference hothers skip band, ?_⟩
    rw [← Heard.shareIn_of_within hpower hp hcount hword hstart hstop, sharesIn_set hj hskip]
    exact is_interference hheard skip band
  pos_iff hword := interference_pos_iff hheard skip hword

end

/-! ## Failures -/

section

variable {α γ : Type} [Analysis α] [RandomSource γ] {outcome : ReceptionOutcome}

/-- What a failure to decode counts as. It goes by the RBs of the data, also if the control message was lost. -/
def failureOf (heard : List (Heard α)) (skip : Nat) (data : Band) : ReceptionOutcome :=
  if 0.0 < interference heard skip data then .collision else .propagation

namespace AtNode

variable {s : Setup α} {r r' : AtNode α γ} {a : OnAir α} {key : BlockKey} {nowUs : Nat} {los : Bool}
  {attempt : Attempt α}

theorem outcome_of_listen {heard : List (Heard α)} {i : Nat} {signalMw : α}
    (hok : listen s r heard i a key nowUs los signalMw = (.ok attempt, r')) :
    attempt.outcome = .success ∨
      attempt.outcome = failureOf heard i (.ofRbs a.tx.rbStart (max a.tx.rbCount 1)) := by
  obtain ⟨source, failure, hfailure, ⟨_, hlost, -⟩ | ⟨r₁, sinr, -, hdecoded⟩⟩ := of_listen hok
  · exact .inr (hlost.trans hfailure)
  · exact (of_decodeData hdecoded).1.imp_right fun hfailed => hfailed.trans hfailure

end AtNode

namespace Hearing

variable {h : Hearing α γ} {r' : AtNode α γ}

/-- The RBs of the data. A transmission without any is listened to on its first one. -/
def dataBand (h : Hearing α γ) : Band := .ofRbs h.onAir.tx.rbStart (max h.onAir.tx.rbCount 1)

omit [Analysis α] [RandomSource γ] in
theorem dataBand_stop (h : Hearing α γ) : h.dataBand.stop ≤ 65535 := Nat.min_le_right _ _

theorem attempt_of_outcome (houtcome : h.outcome? = some outcome) :
    ∃ attempt r₁, h.attempt? = some (.ok attempt, r₁) ∧ attempt.outcome = outcome := by
  unfold outcome? at houtcome
  obtain ⟨⟨attempted, r₁⟩, hattempt, houtcome⟩ := Option.bind_eq_some_iff.1 houtcome
  cases attempted with
  | error e => cases houtcome
  | ok attempt => exact ⟨attempt, r₁, hattempt, Option.some.inj houtcome⟩

theorem outcome_of_listening (hlistens : h.transmitting = false) (houtcome : h.outcome? = some outcome) :
    outcome = .success ∨ outcome = failureOf h.heard h.entry.2 h.dataBand := by
  obtain ⟨attempt, r₁, hattempt, rfl⟩ := attempt_of_outcome houtcome
  rcases of_attempt hattempt with ⟨hsends, -⟩ | ⟨-, los, signalMw, hlisten⟩
  · rw [hlistens] at hsends
    cases hsends
  · exact AtNode.outcome_of_listen hlisten

/-- How an attempt is filed: what a failure counts as, what is kept and counted of the first attempt, and the row of
each one that counts. -/
structure Filed (h : Hearing α γ) (outcome : ReceptionOutcome) : Prop where
  kind : outcome = .success ∨ outcome = .collision ∧ Disturbed h.heard h.entry.2 h.dataBand ∨
    outcome = .propagation ∧ ¬Disturbed h.heard h.entry.2 h.dataBand
  kept {r' : AtNode α γ} : h.earlier = none → h.result = (.ok (), r') →
    (r'.node.known h.onAir.key).map Prod.fst = some outcome
  counted {r' : AtNode α γ} : h.earlier = none → h.result = (.ok (), r') → h.counted →
    ∀ o, r'.shared.stats.counter o = h.before.shared.stats.counter o + if outcome = o then 1 else 0
  traced {r' : AtNode α γ} : h.result = (.ok (), r') → h.counted →
    ∃ row, row.outcome = outcome ∧ r'.shared.trace = h.before.shared.trace.reception row

theorem known_of_first (hearlier : h.earlier = none) (houtcome : h.outcome? = some outcome)
    (hok : h.result = (.ok (), r')) : (r'.node.known h.onAir.key).map Prod.fst = some outcome := by
  rw [known_of_result hok, houtcome, hearlier]
  dsimp only
  rw [if_pos rfl]
  rfl

theorem counter_of_first (hearlier : h.earlier = none) (houtcome : h.outcome? = some outcome)
    (hok : h.result = (.ok (), r')) (hcounted : h.counted) (o : ReceptionOutcome) :
    r'.shared.stats.counter o = h.before.shared.stats.counter o + if outcome = o then 1 else 0 := by
  obtain ⟨s, hsame, hstats⟩ := stats_of_result hok
  have htally : h.tally? = some (.reception h.distanceM outcome) := by
    rw [tally?, houtcome, hearlier]
    simp [hcounted, Tally.ofAttempt]
  rw [htally] at hstats
  obtain ⟨-, hs⟩ := Tally.of_apply rfl hstats
  rw [hs, RunStats.atBin_counter, Tally.recount, RunStats.counter_count, hsame.counter]

theorem trace_of_result (houtcome : h.outcome? = some outcome) (hok : h.result = (.ok (), r'))
    (hcounted : h.counted) :
    ∃ row, row.outcome = outcome ∧ r'.shared.trace = h.before.shared.trace.reception row := by
  obtain ⟨attempt, r₁, hattempt, rfl⟩ := attempt_of_outcome houtcome
  have hlistened : r₁.shared.trace = h.before.shared.trace := by
    rcases of_attempt hattempt with ⟨-, hsends⟩ | ⟨-, los, signalMw, hlisten⟩
    · cases hsends
      rfl
    · obtain ⟨source, sciFailures, hshared⟩ := AtNode.shared_listen hlisten
      rw [hshared]
  rw [result_eq, hattempt] at hok
  unfold finish at hok
  dsimp only at hok
  split at hok
  · cases hok
  · rename_i r₂ hsettle
    rw [if_pos hcounted] at hok
    cases hok
    obtain ⟨stats, rfl⟩ := AtNode.of_settle hsettle
    have hsettled := congrArg (·.trace) (r₁.shared_settled h.onAir.key h.earlier attempt.outcome h.nowUs)
    exact ⟨⟨_, _, _, _, _, _, _, _⟩, rfl, congrArg (Trace.reception · _) (hsettled.trans hlistened)⟩

theorem Filed.of_measured [Exact α] (hheard : ∀ x ∈ h.heard, x.Measured) (hlistens : h.transmitting = false)
    (houtcome : h.outcome? = some outcome) : h.Filed outcome where
  kind := by
    have hpos := interference_pos_iff hheard h.entry.2 h.dataBand_stop
    rcases outcome_of_listening hlistens houtcome with hsuccess | hfailure
    · exact .inl hsuccess
    · unfold failureOf at hfailure
      split at hfailure
      · rename_i hdisturbed
        exact .inr (.inl ⟨hfailure, hpos.1 hdisturbed⟩)
      · rename_i hquiet
        exact .inr (.inr ⟨hfailure, mt hpos.2 hquiet⟩)
  kept hearlier hok := known_of_first hearlier houtcome hok
  counted hearlier hok hcounted := counter_of_first hearlier houtcome hok hcounted
  traced hok hcounted := trace_of_result houtcome hok hcounted

end Hearing

/-- Interference adds up over bands and over transmissions, and it is what tells a collision from a failure of
propagation. -/
theorem interference_accounts [Exact α] {heard : List (Heard α)} (hheard : ∀ h ∈ heard, h.Measured) :
    (∀ skip, AddsUp heard skip) ∧ ∀ h : Hearing α γ, h.heard = heard → h.transmitting = false →
      ∀ outcome, h.outcome? = some outcome → h.Filed outcome := by
  refine ⟨.of_measured hheard, ?_⟩
  rintro h rfl hlistens outcome houtcome
  exact .of_measured hheard hlistens houtcome

end

def sentOn (node rbStart rbCount : Nat) : OnAir Extended where
  node := node
  position := ⟨0.0, 0.0⟩
  txPowerDbm := 23.0
  tx := ⟨0, .ofIndex 20, ⟨.ofIndex 20, 0, 1⟩, rbStart, rbCount, 200, 14, false, 0, 0, 20000⟩

/-- Two transmissions that share four RBs, as a third node gets to the first one of them. -/
def crossing : Hearing Extended Zeros where
  setup :=
    { config := .standard
      scene :=
        { topLeft := ⟨0.0, 0.0⟩, bottomRight := ⟨100.0, 100.0⟩, nodes := [], pool := narrowRecord
          propagation := .ofScenario .highway, regions := {} }
      pool := narrowPool, region := {}, numerology := (FlowParams.standard (α := Extended)).numerology
      mobilityUs := 100000, reportUs := 1000000 }
  nowUs := 21000
  heard := [⟨sentOn 1 0 10, some 1.0⟩, ⟨sentOn 2 6 10, some 1.0⟩]
  transmitting := false
  countedHere := true
  entry := (⟨sentOn 1 0 10, some 1.0⟩, 0)
  before :=
    { node :=
        { id := 3, position := ⟨10.0, 10.0⟩, velocity := ⟨0.0, 0.0⟩, txPowerDbm := 23.0
          flow := { params := .standard }, generator := .periodic 0 0, timer := 0 }
      shared :=
        { links := .ofParams (.ofScenario .highway), source := .zeros, stats := { binM := 10.0 }
          trace := .disabled } }

theorem interference_accounts_crossing :
    (∀ h ∈ crossing.heard, h.Measured) ∧ crossing.outcome? = some .collision ∧ AddsUp crossing.heard 0 ∧
      crossing.Filed .collision := by
  have hone : ∀ h ∈ crossing.heard, h.powerMw = some 1.0 := by
    simp [crossing]
  have hheard : ∀ h ∈ crossing.heard, h.Measured := by
    intro h hmem p hpower
    obtain rfl := Option.some.inj ((hone h hmem).symm.trans hpower)
    exact ⟨1, zero_le_one, is_one⟩
  have houtcome : crossing.outcome? = some .collision := by decide +kernel
  obtain ⟨hadds, hfiled⟩ := interference_accounts (γ := Zeros) hheard
  exact ⟨hheard, houtcome, hadds 0, hfiled crossing rfl rfl .collision houtcome⟩

end Sidelink
