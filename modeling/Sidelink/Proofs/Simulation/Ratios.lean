import Mathlib.Data.List.Nodup
import Mathlib.Data.List.Perm.Subperm
import Sidelink.Proofs.Simulation.Outcomes

/-!
# Reception ratios

A packet that is repaired counts as a success where the receiver is by then. The statistics agree with each other as
long as that is where it was counted at the first attempt.
-/

namespace Sidelink

/-- A share of a whole is at most one. -/
class Scalar.LawfulShares (α : Type) [Scalar α] : Prop where
  share_le_one {m n : Nat} : m ≤ n → 0 < n → (Scalar.ofNat m / Scalar.ofNat n : α) ≤ 1.0

instance : Scalar.LawfulShares ℚ where
  share_le_one {m n} hle hpos := by
    have hn : (0 : ℚ) < n := Nat.cast_pos.2 hpos
    have hone : (1.0 : ℚ) = 1 := by norm_num
    rw [hone]
    exact (div_le_one hn).2 (Nat.cast_le.2 hle)

variable {α γ : Type} [Analysis α] [RandomSource γ]

/-! ## What is counted of a log -/

/-- All attempts at a packet at one receiver are counted, or none is. -/
def CountedAlike (log : List (Hearing α γ)) : Prop :=
  ∀ h ∈ log, ∀ h' ∈ log, h.delivery = h'.delivery → h.outcome?.isSome → h'.outcome?.isSome → h.counted = h'.counted

/-- And all have one bin. -/
def Steady (binM : α) (log : List (Hearing α γ)) : Prop :=
  ∀ h ∈ log, ∀ h' ∈ log, h.delivery = h'.delivery → h.outcome?.isSome → h'.outcome?.isSome →
    h.counted = h'.counted ∧ RunStats.binAt? binM h.distanceM = RunStats.binAt? binM h'.distanceM

instance (binM : α) (log : List (Hearing α γ)) : Decidable (Steady binM log) :=
  inferInstanceAs (Decidable (∀ h ∈ log, ∀ h' ∈ log, _ → _ → _ → _ ∧ _))

section

variable {binM : α} {log later pre post : List (Hearing α γ)} {h : Hearing α γ}

theorem countP_tallies (p : Tally α → Bool) (log : List (Hearing α γ)) :
    (tallies log).countP p = log.countP fun h => h.tally?.any p := by
  rw [tallies, List.countP_filterMap]
  refine List.countP_congr fun h _ => ?_
  cases h.tally? <;> exact Iff.rfl

theorem CountedAlike.of_append (h : CountedAlike (log ++ later)) : CountedAlike log :=
  fun h₁ hh₁ h₂ hh₂ => h h₁ (List.mem_append_left _ hh₁) h₂ (List.mem_append_left _ hh₂)

theorem Steady.countedAlike (h : Steady binM log) : CountedAlike log :=
  fun h₁ hh₁ h₂ hh₂ hdelivery hfirst hsecond => (h h₁ hh₁ h₂ hh₂ hdelivery hfirst hsecond).1

theorem Heeded.of_append (h : Heeded (log ++ later)) : Heeded log := by
  induction later using List.reverseRecOn with
  | nil => rwa [List.append_nil] at h
  | append_singleton later x ih =>
    rw [← List.append_assoc] at h
    generalize hlog : log ++ later ++ [x] = whole at h
    cases h with
    | nil => simp at hlog
    | snoc hbefore =>
      rw [← (List.append_inj' hlog rfl).1] at hbefore
      exact ih hbefore

theorem Heeded.countedOnce (hlog : Heeded log) (d : Delivery) : CountedOnce (hearingsOf d log) :=
  Sidelink.countedOnce _ fun _ _ _ hsplit => hlog.earlier hsplit

theorem Hearing.distanceM_of_tally {t : Tally α} (htally : h.tally? = some t) : t.distanceM = h.distanceM := by
  obtain ⟨outcome, -, -, hof⟩ := of_tally htally
  unfold Tally.ofAttempt at hof
  split at hof
  · cases hof
    rfl
  · split at hof <;> cases hof
    rfl

theorem repairs_success {t : Tally α} (ht : t ∈ tallies log) : t.repairs .success = false := by
  obtain ⟨h, -, htally⟩ := List.mem_filterMap.1 ht
  cases t with
  | reception d o => rfl
  | recovery d o => exact decide_eq_false (Hearing.of_recovery htally).2.2

theorem Heeded.first_of_repair (hlog : Heeded log) (halike : CountedAlike log) (hsplit : log = pre ++ h :: post)
    {distanceM : α} {failure : ReceptionOutcome} (htally : h.tally? = some (.recovery distanceM failure)) :
    ∃ h₀ ∈ pre, h₀.delivery = h.delivery ∧ h₀.outcome? = some failure ∧
      h₀.tally? = some (.reception h₀.distanceM failure) := by
  obtain ⟨houtcome, hearlier, hfailure⟩ := Hearing.of_recovery htally
  obtain ⟨-, -, hcounted, -⟩ := Hearing.of_tally htally
  have hown : hearingsOf h.delivery log = hearingsOf h.delivery pre ++ h :: hearingsOf h.delivery post := by
    rw [hsplit, hearingsOf_append]
    congr 1
    exact List.filter_cons_of_pos (decide_eq_true rfl)
  rw [hlog.earlier hown] at hearlier
  obtain ⟨pre', h₀, post', hpre, hnone, hfirst⟩ := first_of_verdict hearlier hfailure
  rw [hpre, List.append_assoc, List.cons_append] at hown
  have hmem : h₀ ∈ hearingsOf h.delivery pre := by
    rw [hpre]
    exact List.mem_append_right _ List.mem_cons_self
  obtain ⟨hmem, hdelivery⟩ := List.mem_filter.1 hmem
  replace hdelivery := of_decide_eq_true hdelivery
  have hsame := halike h₀ (by rw [hsplit]; exact List.mem_append_left _ hmem) h (by rw [hsplit]; simp) hdelivery
    (by rw [hfirst]; rfl) (by rw [houtcome]; rfl)
  refine ⟨h₀, hmem, hdelivery, hfirst, ?_⟩
  rw [Hearing.tally?, hfirst, Option.bind_some, hsame, hcounted, if_pos rfl, hlog.earlier hown, hnone]
  rfl

/-! ### Numbers of tallies -/

namespace Tally

variable {α : Type}

theorem countP_succeeded (p : Tally α → Bool) (ts : List (Tally α)) :
    (ts.countP fun t => p t && t.succeeded) + (ts.countP fun t => p t && (t.isReception && !t.succeeded)) =
      (ts.countP fun t => p t && t.isReception) + ts.countP fun t => p t && !t.isReception := by
  induction ts with
  | nil => rfl
  | cons t ts ih =>
    simp only [List.countP_cons]
    have hkind : t.isReception = true ∨ t.succeeded = true := by
      cases t
      · exact .inl rfl
      · exact .inr rfl
    generalize p t = counts, t.isReception = received, t.succeeded = succeeded at hkind ⊢
    cases counts <;> cases received <;> cases succeeded <;> simp at hkind ⊢ <;> omega

theorem countP_outcomes {ts : List (Tally α)} (hts : ∀ t ∈ ts, t.repairs .success = false) :
    ts.countP (·.succeeded) = ts.countP (·.receives .success) +
        (ts.countP (·.repairs .halfDuplex) + ts.countP (·.repairs .propagation) + ts.countP (·.repairs .collision)) ∧
      ts.countP (·.isReception) = ts.countP (·.receives .success) +
        (ts.countP (·.receives .halfDuplex) + ts.countP (·.receives .propagation) +
          ts.countP (·.receives .collision)) := by
  have hone (t : Tally α) (ht : t.repairs .success = false) :
      t.succeeded.toNat = (t.receives .success).toNat +
          ((t.repairs .halfDuplex).toNat + (t.repairs .propagation).toNat + (t.repairs .collision).toNat) ∧
        t.isReception.toNat = (t.receives .success).toNat +
          ((t.receives .halfDuplex).toNat + (t.receives .propagation).toNat + (t.receives .collision).toNat) := by
    cases t with
    | reception d o => cases o <;> exact ⟨rfl, rfl⟩
    | recovery d o =>
      cases o with
      | success => cases ht
      | _ => exact ⟨rfl, rfl⟩
  induction ts with
  | nil => exact ⟨rfl, rfl⟩
  | cons t ts ih =>
    obtain ⟨ht, hts⟩ := List.forall_mem_cons.1 hts
    obtain ⟨hsucceeded, hreceived⟩ := ih hts
    obtain ⟨hsucceeded', hreceived'⟩ := hone t ht
    have htoNat (b : Bool) : (if b = true then 1 else 0) = b.toNat := by cases b <;> rfl
    simp only [List.countP_cons, htoNat]
    omega

end Tally

omit [Analysis α] [RandomSource γ] in
theorem countP_le_of_delivery {p q : Hearing α γ → Bool} (hone : ∀ d, (hearingsOf d log).countP p ≤ 1)
    (hpaired : ∀ h ∈ log, p h → ∃ h₀ ∈ log, h₀.delivery = h.delivery ∧ q h₀) : log.countP p ≤ log.countP q := by
  have hdistinct : ((log.filter p).map (·.delivery)).Nodup := by
    refine List.nodup_iff_count_le_one.2 fun d => ?_
    refine le_trans (le_of_eq ?_) (hone d)
    rw [List.count, List.countP_map, List.countP_filter, hearingsOf, List.countP_filter]
    exact List.countP_congr fun h _ => by simp [and_comm]
  have hsubset : (log.filter p).map (·.delivery) ⊆ (log.filter q).map (·.delivery) := by
    intro d hd
    obtain ⟨h, hh, rfl⟩ := List.mem_map.1 hd
    obtain ⟨hmem, hp⟩ := List.mem_filter.1 hh
    obtain ⟨h₀, hmem₀, hdelivery, hq⟩ := hpaired h hmem hp
    exact List.mem_map.2 ⟨h₀, List.mem_filter.2 ⟨hmem₀, hq⟩, hdelivery⟩
  have hlength := (hdistinct.subperm hsubset).length_le
  rwa [List.length_map, List.length_map, ← List.countP_eq_length_filter, ← List.countP_eq_length_filter] at hlength

theorem Heeded.repairs_le (hlog : Heeded log) (halike : CountedAlike log) {p q : Tally α → Bool}
    (hrepair : ∀ t, p t = true → t.isReception = false)
    (hpaired : ∀ h₀ ∈ log, ∀ h ∈ log, h₀.delivery = h.delivery → h₀.outcome?.isSome → h.outcome?.isSome →
      ∀ failure, failure ≠ .success → p (.recovery h.distanceM failure) = true →
        q (.reception h₀.distanceM failure) = true) :
    (tallies log).countP p ≤ (tallies log).countP q := by
  rw [countP_tallies, countP_tallies]
  refine countP_le_of_delivery (fun d => ?_) fun h hh hp => ?_
  · refine le_trans (List.countP_mono_left fun h _ hp => ?_) (hlog.countedOnce d).recoveries
    obtain ⟨t, htally, hp⟩ := (Option.any_eq_true ..).1 hp
    exact (Option.any_eq_true ..).2 ⟨t, htally, by rw [hrepair t hp]; rfl⟩
  · obtain ⟨t, htally, hp⟩ := (Option.any_eq_true ..).1 hp
    cases t with
    | reception d o => cases hrepair _ hp
    | recovery distanceM failure =>
      obtain ⟨pre, post, hsplit⟩ := List.append_of_mem hh
      obtain ⟨h₀, hmem, hdelivery, hfirst, htally₀⟩ := hlog.first_of_repair halike hsplit htally
      obtain ⟨houtcome, -, hfailure⟩ := Hearing.of_recovery htally
      have hlogged : h₀ ∈ log := by
        rw [hsplit]
        exact List.mem_append_left _ hmem
      have hdistance : distanceM = h.distanceM := Hearing.distanceM_of_tally htally
      refine ⟨h₀, hlogged, hdelivery, ?_⟩
      rw [htally₀]
      exact hpaired h₀ hlogged h hh hdelivery (by rw [hfirst]; rfl) (by rw [houtcome]; rfl) failure hfailure
        (hdistance ▸ hp)

theorem Heeded.repairs_le_failures (hlog : Heeded log) (halike : CountedAlike log) (o : ReceptionOutcome) :
    (tallies log).countP (·.repairs o) ≤ (tallies log).countP (·.receives o) := by
  refine hlog.repairs_le halike (fun t ht => ?_) fun _ _ _ _ _ _ _ _ _ hrepairs => hrepairs
  cases t with
  | reception d o => cases ht
  | recovery d o => rfl

theorem Heeded.successes_le (hlog : Heeded log) (hsteady : Steady binM log) (i : Nat) :
    ((tallies log).countP fun t => t.bin? binM = some i && t.succeeded) ≤
      (tallies log).countP fun t => t.bin? binM = some i && t.isReception := by
  have hrepairs : ((tallies log).countP fun t => t.bin? binM = some i && !t.isReception) ≤
      (tallies log).countP fun t => t.bin? binM = some i && (t.isReception && !t.succeeded) := by
    refine hlog.repairs_le hsteady.countedAlike (fun t ht => ?_)
      fun h₀ hh₀ h hh hdelivery hfirst hsecond failure hfailure hin => ?_
    · simpa using (Bool.and_eq_true_iff.1 ht).2
    · have hbin := (hsteady h₀ hh₀ h hh hdelivery hfirst hsecond).2
      have hindex : RunStats.binAt? binM h.distanceM = some i := of_decide_eq_true (Bool.and_eq_true_iff.1 hin).1
      simp [Tally.bin?, Tally.distanceM, Tally.isReception, Tally.succeeded, hbin, hindex, hfailure]
  have hkinds := Tally.countP_succeeded (fun t => t.bin? binM = some i) (tallies log)
  omega

end

/-! ## Consistent statistics -/

/-- The statistics agree with each other and with the hearings that they count, as far as the attempts at a packet have
one bin, or are all counted or not. The sum over the bins asks for nothing of the kind. -/
structure Consistent (binM : α) (log : List (Hearing α γ)) (s : RunStats α) : Prop where
  bins : Steady binM log → ∀ i, (s.bin i).successes ≤ (s.bin i).attempts
  ratios : Steady binM log → ∀ ratio ∈ s.receptionRatios, ratio.2 ≤ 1.0
  successes : (∀ h ∈ log, h.tally?.isSome → Scalar.isFinite h.distanceM ∧ ¬h.distanceM < 0.0) →
    s.binSuccesses = s.successes
  /-- Before a recovery a failure was counted. -/
  recoveries : CountedAlike log → ∀ pre h post, log = pre ++ h :: post → ∀ distanceM failure,
    h.tally? = some (.recovery distanceM failure) →
      ∃ h₀ ∈ pre, h₀.delivery = h.delivery ∧ h₀.tally? = some (.reception h₀.distanceM failure)
  receptions : CountedAlike log → s.successes + s.failures = log.countP fun h => h.tally?.any (·.isReception)

section

variable {binM : α} {log : List (Hearing α γ)} {s : RunStats α}

theorem RunStats.binned_of_index {distanceM : α} (hbinM : (0.0 : α) < binM)
    (hfinite : Scalar.isFinite distanceM = true) (hpos : ¬distanceM < 0.0) {index : Option Nat}
    (hindex : binIndex? (ε := SimulationError α) binM distanceM = .ok index) : index.isSome := by
  unfold binIndex? at hindex
  rw [if_neg (by simp [hbinM, hfinite, hpos])] at hindex
  dsimp only at hindex
  split at hindex
  · cases hindex
  · cases hindex
    rfl

theorem Reflects.consistent [Scalar.LawfulShares α] (hbinM : (0.0 : α) < binM) (hs : Reflects binM (tallies log) s)
    (hlog : Heeded log) : Consistent binM log s := by
  have hbins (hsteady : Steady binM log) (i : Nat) : (s.bin i).successes ≤ (s.bin i).attempts := by
    rw [hs.attempts, hs.binned]
    exact hlog.successes_le hsteady i
  constructor
  case bins => exact hbins
  case ratios =>
    intro hsteady ratio hratio
    obtain ⟨⟨i, b⟩, hb, rfl⟩ := List.mem_map.1 hratio
    obtain ⟨hmem, hattempts⟩ := List.mem_filter.1 hb
    have hbin : s.bin i = b := by
      rw [RunStats.bin, Std.TreeMap.getD_eq_getD_getElem?, Std.TreeMap.mem_toList_iff_getElem?_eq_some.1 hmem]
      rfl
    exact Scalar.LawfulShares.share_le_one (hbin ▸ hbins hsteady i) (of_decide_eq_true hattempts)
  case successes =>
    intro hplaced
    rw [hs.allBinned, hs.successes]
    refine List.countP_congr fun t ht => ?_
    obtain ⟨h, hh, htally⟩ := List.mem_filterMap.1 ht
    have hdistance := Hearing.distanceM_of_tally htally
    obtain ⟨hfinite, hpos⟩ := hplaced h hh (by rw [htally]; rfl)
    rw [RunStats.binned_of_index hbinM (hdistance ▸ hfinite) (hdistance ▸ hpos) (hs.indexed t ht), Bool.true_and]
  case recoveries =>
    intro halike pre h post hsplit distanceM failure htally
    obtain ⟨h₀, hh₀, hdelivery, -, htally₀⟩ := hlog.first_of_repair halike hsplit htally
    exact ⟨h₀, hh₀, hdelivery, htally₀⟩
  case receptions =>
    intro halike
    -- What was counted up to any time is that of a part of the log.
    have hrepairs (o : ReceptionOutcome) : ∀ earlier, earlier <+: tallies log →
        earlier.countP (·.repairs o) ≤ earlier.countP (·.receives o) := by
      intro earlier hearlier
      obtain ⟨before, ⟨later, rfl⟩, rfl⟩ := List.prefix_filterMap_iff.1 hearlier
      exact hlog.of_append.repairs_le_failures halike.of_append o
    obtain ⟨hsucceeded, hreceived⟩ := Tally.countP_outcomes fun t (ht : t ∈ tallies log) => repairs_success ht
    have hhalfDuplex := hs.failures .halfDuplex (by decide) (hrepairs _)
    have hpropagation := hs.failures .propagation (by decide) (hrepairs _)
    have hcollision := hs.failures .collision (by decide) (hrepairs _)
    have hsuccesses := hs.successes
    rw [← countP_tallies]
    simp only [RunStats.failures, RunStats.counter] at hhalfDuplex hpropagation hcollision ⊢
    omega

end

namespace World

variable [Scalar.LawfulSlots α] [Scalar.PositiveSlots α] [Scalar.LawfulShares α] {config : Config α} {scene : Scene α}
  {trace : Trace α} {sourceOfSeed : Nat → γ} {endUs : Nat} {w₀ w : World α γ} {turns : List (Turn α γ)}

/-- In every state of a run the statistics agree with each other, as far as no packet changes its bin between two
attempts, or whether it counts. -/
theorem consistent_of_course (hscene : scene.validate = .ok ())
    (hstart : start config scene trace sourceOfSeed = .ok w₀) (hend : endUs < limit64)
    (hcourse : Course endUs w₀ turns (.ok (), w)) :
    Consistent config.simulation.prrBinM (heardIn turns) w.shared.stats := by
  obtain ⟨haccepted, -, -, hstats, -⟩ := of_start hstart
  have hempty : Reflects config.simulation.prrBinM [] w₀.shared.stats := by
    rw [hstats]
    exact .empty _
  have hs := (counts_of_course hcourse w rfl).reflects hempty fun t ht => repairs_success ht
  exact hs.consistent (Config.accepted_of_validate haccepted).bin (heeded_of_course hscene hstart hend hcourse).1

/-- In fourteen events both nodes miss a packet, and the second one hears the repeat of its packet in the same bin. -/
theorem consistent_of_course_pair : ∃ w₀ w : World ℚ Script, ∃ turns,
    (pairScene 60).validate = .ok () ∧ start repeating (pairScene 60) .disabled (fun _ => firstTogether) = .ok w₀ ∧
      Course 10000000 w₀ turns (.ok (), w) ∧ Steady 50.0 (heardIn turns) ∧ w.shared.stats.bin 1 = ⟨2, 1⟩ ∧
      (∀ i, (w.shared.stats.bin i).successes ≤ (w.shared.stats.bin i).attempts) ∧
      w.shared.stats.binSuccesses = w.shared.stats.successes ∧
      w.shared.stats.successes + w.shared.stats.failures = 2 := by
  have hend : ((start repeating (pairScene 60) .disabled fun _ => firstTogether).toOption.bind fun w₀ =>
      (handleUntil 10000000 14 w₀).ok?.map fun w =>
        let log := heardIn (turnsUntil 10000000 14 w₀)
        (decide (Steady 50.0 log), w.shared.stats.bin 1, log.all fun h => !decide (h.distanceM < 0.0),
          log.countP fun h => h.tally?.any (·.isReception))) = some (true, ⟨2, 1⟩, true, 2) := by
    rw [start_periodic repeating _ _ (by decide +kernel) rfl]
    decide +kernel
  obtain ⟨w₀, hstart, hend⟩ := Option.bind_eq_some_iff.1 hend
  obtain ⟨w, hhandled, hend⟩ := Option.map_eq_some_iff.1 hend
  simp only [Prod.mk.injEq] at hend
  obtain ⟨hsteady, hbin, hdistances, hreceptions⟩ := hend
  replace hstart := ok_of_toOption hstart
  replace hsteady := of_decide_eq_true hsteady
  have hcourse := course_of_turnsUntil 10000000 14 w₀
  rw [Stepped.of_ok? hhandled] at hcourse
  have hconsistent := consistent_of_course pairScene_valid hstart (by decide) hcourse
  refine ⟨w₀, w, _, pairScene_valid, hstart, hcourse, hsteady, hbin, hconsistent.bins hsteady, ?_, ?_⟩
  · refine hconsistent.successes fun h hh _ => ⟨by simp [Scalar.isFinite], ?_⟩
    simpa using List.all_eq_true.1 hdistances h hh
  · rw [hconsistent.receptions hsteady.countedAlike, hreceptions]

/-- The second node misses a packet in one bin and hears its repeat in the next one, where no attempt is counted. -/
theorem repaired_elsewhere : ¬ ∀ (config : Config ℚ) (scene : Scene ℚ) (g : Script) (endUs : Nat)
    (w₀ w : World ℚ Script) (turns : List (Turn ℚ Script)), scene.validate = .ok () →
      start config scene .disabled (fun _ => g) = .ok w₀ → endUs < limit64 → Course endUs w₀ turns (.ok (), w) →
      ∀ i, (w.shared.stats.bin i).successes ≤ (w.shared.stats.bin i).attempts := by
  intro hall
  have hend : ((start repeating (pairScene 50.1) .disabled fun _ => firstTogether).toOption.bind fun w₀ =>
      (handleUntil 10000000 14 w₀).ok?.map fun w => w.shared.stats.bin 0) = some ⟨0, 1⟩ := by
    rw [start_periodic repeating _ _ (by decide +kernel) rfl]
    decide +kernel
  obtain ⟨w₀, hstart, hend⟩ := Option.bind_eq_some_iff.1 hend
  obtain ⟨w, hhandled, hbin⟩ := Option.map_eq_some_iff.1 hend
  have hcourse := course_of_turnsUntil 10000000 14 w₀
  rw [Stepped.of_ok? hhandled] at hcourse
  have hvalid : (pairScene 50.1).validate = .ok () := ok_of_toOption (by decide +kernel)
  have hle := hall _ _ _ _ w₀ w _ hvalid (ok_of_toOption hstart) (by decide) hcourse 0
  rw [hbin] at hle
  exact absurd hle (by decide)

end World

end Sidelink
