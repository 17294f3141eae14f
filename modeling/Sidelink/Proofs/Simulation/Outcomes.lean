import Sidelink.Proofs.Simulation.Tallies

/-!
# Outcomes

What a receiver keeps of a packet is how all attempts at it so far ended. It is kept as long as another attempt can
come, so that each packet counts once at each receiver.
-/

namespace Sidelink

variable {α γ : Type} [Analysis α] [RandomSource γ]

/-! ## Attempts at one packet -/

def hearingsOf (d : Delivery) (log : List (Hearing α γ)) : List (Hearing α γ) := log.filter fun h => h.delivery = d

/-- How a packet stands after some attempts. -/
def verdict (hs : List (Hearing α γ)) : Option ReceptionOutcome :=
  hs.foldl (fun earlier h => h.outcome?.elim earlier fun outcome => some (.after earlier outcome)) none

section

variable {d : Delivery} {log hs : List (Hearing α γ)} {h : Hearing α γ} {outcome : ReceptionOutcome}

omit [Analysis α] [RandomSource γ] in
theorem hearingsOf_append (d : Delivery) (log later : List (Hearing α γ)) :
    hearingsOf d (log ++ later) = hearingsOf d log ++ hearingsOf d later := List.filter_append ..

omit [Analysis α] [RandomSource γ] in
theorem hearingsOf_singleton (d : Delivery) (h : Hearing α γ) :
    hearingsOf d [h] = if h.delivery = d then [h] else [] := by
  unfold hearingsOf
  rw [List.filter_singleton]
  split <;> simp_all

theorem verdict_snoc (hs : List (Hearing α γ)) (h : Hearing α γ) :
    verdict (hs ++ [h]) = h.outcome?.elim (verdict hs) fun outcome => some (.after (verdict hs) outcome) := by
  rw [verdict, List.foldl_append]
  rfl

theorem verdict_eq_none (hs : List (Hearing α γ)) : verdict hs = none ↔ ∀ h ∈ hs, h.outcome? = none := by
  induction hs using List.reverseRecOn with
  | nil => simp [verdict]
  | append_singleton hs h ih =>
    rw [verdict_snoc, List.forall_mem_append, List.forall_mem_singleton, ← ih]
    cases h.outcome? <;> simp

theorem verdict_eq_success (hs : List (Hearing α γ)) :
    verdict hs = some .success ↔ ∃ h ∈ hs, h.outcome? = some .success := by
  induction hs using List.reverseRecOn with
  | nil => simp [verdict]
  | append_singleton hs h ih =>
    rw [verdict_snoc]
    cases houtcome : h.outcome? with
    | none => simp [houtcome, ih]
    | some outcome =>
      cases hverdict : verdict hs with
      | none =>
        have hnone := (verdict_eq_none hs).1 hverdict
        simp only [Option.elim, ReceptionOutcome.after, Option.some.injEq, List.mem_append, List.mem_singleton]
        constructor
        · rintro rfl
          exact ⟨h, .inr rfl, houtcome⟩
        · rintro ⟨h', hh' | rfl, hsuccess⟩
          · rw [hnone h' hh'] at hsuccess
            cases hsuccess
          · rw [houtcome] at hsuccess
            exact Option.some.inj hsuccess
      | some previous =>
        rw [hverdict, Option.some.injEq] at ih
        simp only [Option.elim, ReceptionOutcome.after, Option.some.injEq, List.mem_append, List.mem_singleton,
          or_and_right, exists_or, ← ih, exists_eq_left, houtcome]
        split <;> simp_all

theorem first_of_verdict (hverdict : verdict hs = some outcome) (hfailure : outcome ≠ .success) :
    ∃ pre h post, hs = pre ++ h :: post ∧ verdict pre = none ∧ h.outcome? = some outcome := by
  induction hs using List.reverseRecOn generalizing outcome with
  | nil => cases hverdict
  | append_singleton hs h ih =>
    have hearlier (hverdict : verdict hs = some outcome) : ∃ pre h' post,
        hs ++ [h] = pre ++ h' :: post ∧ verdict pre = none ∧ h'.outcome? = some outcome := by
      obtain ⟨pre, h', post, rfl, hfirst⟩ := ih hverdict hfailure
      exact ⟨pre, h', post ++ [h], by simp, hfirst⟩
    rw [verdict_snoc] at hverdict
    cases houtcome : h.outcome? with
    | none =>
      rw [houtcome] at hverdict
      exact hearlier hverdict
    | some o =>
      rw [houtcome] at hverdict
      replace hverdict := Option.some.inj hverdict
      unfold ReceptionOutcome.after at hverdict
      split at hverdict
      · subst hverdict
        exact ⟨hs, h, [], rfl, ‹_›, houtcome⟩
      · split at hverdict
        · exact absurd hverdict.symm hfailure
        · subst hverdict
          exact hearlier ‹_›

end

/-! ## What a node keeps -/

/-- A node keeps how the attempts at each packet ended, unless one of them is so long ago that it forgot it. -/
structure Node.Heeds (log : List (Hearing α γ)) (nowUs : Nat) (n : Node α) : Prop where
  known : ∀ key outcome firstUs, n.known key = some (outcome, firstUs) →
    verdict (hearingsOf ⟨key, n.id⟩ log) = some outcome ∧ ∃ h ∈ hearingsOf ⟨key, n.id⟩ log, h.nowUs = firstUs
  unknown : ∀ key, n.known key = none → verdict (hearingsOf ⟨key, n.id⟩ log) = none ∨
    ∃ h ∈ hearingsOf ⟨key, n.id⟩ log, h.nowUs + blockLifetimeUs ≤ nowUs

/-- Every receiver knows how its earlier attempts at a packet ended. -/
inductive Heeded : List (Hearing α γ) → Prop where
  | nil : Heeded []
  | snoc {log : List (Hearing α γ)} {h : Hearing α γ} : Heeded log → h.earlier = verdict (hearingsOf h.delivery log) →
      Heeded (log ++ [h])

/-- Hearings of one packet come soon after each other. -/
def Close (log : List (Hearing α γ)) : Prop :=
  ∀ h ∈ log, ∀ h' ∈ log, h.onAir.key = h'.onAir.key → h'.nowUs < h.nowUs + blockLifetimeUs

omit [Analysis α] [RandomSource γ] in
theorem Close.of_append {log later : List (Hearing α γ)} (h : Close (log ++ later)) : Close log :=
  fun h₁ hh₁ h₂ hh₂ => h h₁ (List.mem_append_left _ hh₁) h₂ (List.mem_append_left _ hh₂)

namespace Node.Heeds

variable {log later : List (Hearing α γ)} {nowUs laterUs : Nat} {n n' : Node α} {h : Hearing α γ} {r r' : AtNode α γ}

theorem mono (hn : n.Heeds log nowUs) (hle : nowUs ≤ laterUs) : n.Heeds log laterUs :=
  ⟨hn.known, fun key hkey => (hn.unknown key hkey).imp_right fun ⟨h, hh, hold⟩ => ⟨h, hh, hold.trans hle⟩⟩

theorem congr (hn : n.Heeds log nowUs) (hid : n'.id = n.id) (hblocks : n'.blocks = n.blocks) : n'.Heeds log nowUs := by
  have hknown (key : BlockKey) : n'.known key = n.known key := by rw [Node.known, Node.known, hblocks]
  constructor
  · intro key
    rw [hknown, hid]
    exact hn.known key
  · intro key
    rw [hknown, hid]
    exact hn.unknown key

theorem other (hn : n.Heeds log nowUs) (hlater : ∀ h ∈ later, h.before.node.id ≠ n.id) :
    n.Heeds (log ++ later) nowUs := by
  have hsame (key : BlockKey) : hearingsOf ⟨key, n.id⟩ (log ++ later) = hearingsOf ⟨key, n.id⟩ log := by
    have hnone : hearingsOf ⟨key, n.id⟩ later = [] := by
      refine List.filter_eq_nil_iff.2 fun h hh => ?_
      simpa [Hearing.delivery] using fun _ => hlater h hh
    rw [hearingsOf_append, hnone, List.append_nil]
  constructor
  · intro key
    rw [hsame]
    exact hn.known key
  · intro key
    rw [hsame]
    exact hn.unknown key

theorem forget (hr : r.node.Heeds log nowUs) : (r.forgetBlocks nowUs).node.Heeds log nowUs := by
  constructor
  · intro key outcome firstUs hknown
    rw [AtNode.known_forgetBlocks] at hknown
    exact hr.known key outcome firstUs (Option.filter_eq_some_iff.1 hknown).1
  · intro key hunknown
    rw [AtNode.known_forgetBlocks] at hunknown
    cases hknown : r.node.known key with
    | none => exact hr.unknown key hknown
    | some x =>
      obtain ⟨-, h, hh, hfirst⟩ := hr.known key x.1 x.2 hknown
      rw [hknown, Option.filter_some] at hunknown
      refine .inr ⟨h, hh, ?_⟩
      rw [hfirst]
      simpa using hunknown

theorem earlier_eq (hn : h.before.node.Heeds log h.nowUs) (hclose : Close (log ++ [h])) :
    h.earlier = verdict (hearingsOf h.delivery log) := by
  unfold Hearing.earlier
  cases hknown : h.before.node.known h.onAir.key with
  | some x => exact (hn.known _ x.1 x.2 hknown).1.symm
  | none =>
    rcases hn.unknown _ hknown with hnone | ⟨h₀, hh₀, hold⟩
    · exact hnone.symm
    · -- A receiver gets to a packet before it forgets it.
      obtain ⟨hmem, hdelivery⟩ := List.mem_filter.1 hh₀
      have hkey : h₀.onAir.key = h.onAir.key := congrArg Delivery.packet (of_decide_eq_true hdelivery)
      have hsoon := hclose h₀ (List.mem_append_left _ hmem) h (by simp) hkey
      omega

theorem result (hn : h.before.node.Heeds log h.nowUs) (hclose : Close (log ++ [h])) (hok : h.result = (.ok (), r')) :
    r'.node.Heeds (log ++ [h]) h.nowUs := by
  have hearlier := earlier_eq hn hclose
  have hid : r'.node.id = h.before.node.id := by
    have := h.id_of_result
    rwa [hok] at this
  have hresult := Hearing.known_of_result hok
  have hlog (key : BlockKey) : hearingsOf ⟨key, r'.node.id⟩ (log ++ [h]) =
      hearingsOf ⟨key, h.before.node.id⟩ log ++ if h.onAir.key = key then [h] else [] := by
    rw [hearingsOf_append, hearingsOf_singleton, hid]
    simp [Hearing.delivery]
  constructor
  case known =>
    intro key outcome firstUs hknown
    rw [hresult] at hknown
    rw [hlog]
    by_cases hkey : h.onAir.key = key
    · subst hkey
      rw [if_pos rfl, verdict_snoc]
      cases houtcome : h.outcome? with
      | none =>
        rw [houtcome] at hknown
        obtain ⟨hverdict, h₀, hh₀, hfirst⟩ := hn.known _ outcome firstUs hknown
        exact ⟨hverdict, h₀, List.mem_append_left _ hh₀, hfirst⟩
      | some o =>
        simp only [houtcome, if_true, Option.some.injEq, Prod.mk.injEq] at hknown
        obtain ⟨rfl, rfl⟩ := hknown
        rw [hearlier]
        refine ⟨rfl, ?_⟩
        cases hbefore : h.before.node.known h.onAir.key with
        | none => exact ⟨h, by simp, rfl⟩
        | some x =>
          obtain ⟨-, h₀, hh₀, hfirst⟩ := hn.known _ x.1 x.2 hbefore
          exact ⟨h₀, List.mem_append_left _ hh₀, hfirst⟩
    · rw [if_neg hkey, List.append_nil]
      refine hn.known key outcome firstUs ?_
      rw [← hknown]
      cases h.outcome? <;> simp [hkey]
  case unknown =>
    intro key hunknown
    rw [hresult] at hunknown
    have hbefore : h.before.node.known key = none ∧ (h.onAir.key = key → h.outcome? = none) := by
      cases houtcome : h.outcome? with
      | none => simpa [houtcome] using hunknown
      | some o =>
        rw [houtcome] at hunknown
        dsimp only at hunknown
        split at hunknown
        · cases hunknown
        · exact ⟨hunknown, fun hkey => absurd hkey ‹_›⟩
    rw [hlog]
    refine (hn.unknown key hbefore.1).imp (fun hverdict => ?_) fun ⟨h₀, hh₀, hold⟩ =>
      ⟨h₀, List.mem_append_left _ hh₀, hold⟩
    split
    · rw [verdict_snoc, hbefore.2 ‹_›]
      exact hverdict
    · rwa [List.append_nil]

end Node.Heeds

/-! ## Counts of one packet at one receiver -/

section

variable {d : Delivery} {log hs pre post : List (Hearing α γ)} {h : Hearing α γ}

theorem Heeded.earlier (hlog : Heeded log) (hsplit : hearingsOf d log = pre ++ h :: post) :
    h.earlier = verdict pre := by
  induction hlog generalizing post with
  | nil => simp [hearingsOf] at hsplit
  | @snoc log h' hlog hearlier ih =>
    rw [hearingsOf_append, hearingsOf_singleton] at hsplit
    split at hsplit
    · rename_i hdelivery
      rcases List.eq_nil_or_concat post with rfl | ⟨post, last, rfl⟩
      · obtain ⟨hpre, hlast⟩ := List.append_inj' hsplit rfl
        rw [← hpre, ← hdelivery, List.head_eq_of_cons_eq hlast.symm]
        exact hearlier
      · rw [List.concat_eq_append, ← List.cons_append, ← List.append_assoc] at hsplit
        exact ih (List.append_inj' hsplit rfl).1
    · rw [List.append_nil] at hsplit
      exact ih hsplit

theorem Hearing.attempt_of_success (h : Hearing α γ) (hsuccess : h.earlier = some .success) :
    h.attempt? = none ∧ h.result = (.ok (), h.before) := by
  have hnone : h.attempt? = none := by
    unfold attempt?
    split
    · rfl
    · rw [if_pos hsuccess]
  rw [result_eq, hnone]
  exact ⟨rfl, rfl⟩

theorem Hearing.of_tally {tally : Tally α} (htally : h.tally? = some tally) : ∃ outcome, h.outcome? = some outcome ∧
    h.counted = true ∧ Tally.ofAttempt h.earlier outcome h.distanceM = some tally := by
  obtain ⟨outcome, houtcome, hcounted⟩ := Option.bind_eq_some_iff.1 htally
  rw [Option.ite_none_right_eq_some] at hcounted
  exact ⟨outcome, houtcome, hcounted⟩

theorem Hearing.of_reception {distanceM : α} {outcome : ReceptionOutcome}
    (htally : h.tally? = some (.reception distanceM outcome)) : h.outcome? = some outcome ∧ h.earlier = none := by
  obtain ⟨o, houtcome, -, hof⟩ := of_tally htally
  unfold Tally.ofAttempt at hof
  split at hof
  · cases hof
    exact ⟨houtcome, ‹_›⟩
  · split at hof <;> cases hof

theorem Hearing.of_recovery {distanceM : α} {failure : ReceptionOutcome}
    (htally : h.tally? = some (.recovery distanceM failure)) :
    h.outcome? = some .success ∧ h.earlier = some failure ∧ failure ≠ .success := by
  obtain ⟨o, houtcome, -, hof⟩ := of_tally htally
  unfold Tally.ofAttempt at hof
  split at hof
  · cases hof
  · rename_i previous hprevious
    split at hof
    · rename_i hsuccess
      cases hof
      refine ⟨hsuccess ▸ houtcome, hprevious, ?_⟩
      rintro rfl
      rw [outcome?, (attempt_of_success h hprevious).1] at houtcome
      cases houtcome
    · cases hof

/-- What one receiver does for one packet. -/
structure CountedOnce (hs : List (Hearing α γ)) : Prop where
  /-- A reception is counted of the first attempt, if at all. -/
  reception : ∀ pre h post, hs = pre ++ h :: post → ∀ distanceM outcome,
    h.tally? = some (.reception distanceM outcome) → h.outcome? = some outcome ∧ ∀ h₀ ∈ pre, h₀.outcome? = none
  /-- A recovery is counted after an attempt that failed. -/
  recovery : ∀ pre h post, hs = pre ++ h :: post → ∀ distanceM failure, h.tally? = some (.recovery distanceM failure) →
    h.outcome? = some .success ∧ failure ≠ .success ∧ ∃ h₀ ∈ pre, h₀.outcome? = some failure
  receptions : (hs.countP fun h => h.tally?.any (·.isReception)) ≤ 1
  recoveries : (hs.countP fun h => h.tally?.any (!·.isReception)) ≤ 1
  afterSuccess : ∀ pre h post, hs = pre ++ h :: post → (∃ h₀ ∈ pre, h₀.outcome? = some .success) →
    h.attempt? = none ∧ h.result = (.ok (), h.before)

omit [Analysis α] [RandomSource γ] in
theorem countP_le_one {p : Hearing α γ → Bool}
    (h : ∀ pre x post, hs = pre ++ x :: post → p x = true → ∀ y ∈ pre, p y = false) : hs.countP p ≤ 1 := by
  induction hs using List.reverseRecOn with
  | nil => simp
  | append_singleton hs x ih =>
    have hrest := ih fun pre y post hsplit => h pre y (post ++ [x]) (by rw [hsplit]; simp)
    rw [List.countP_append, List.countP_singleton]
    split
    · rename_i hx
      rw [List.countP_eq_zero.2 fun y hy => by simp [h hs x [] rfl hx y hy]]
    · exact hrest

theorem countedOnce (hs : List (Hearing α γ))
    (hearlier : ∀ pre h post, hs = pre ++ h :: post → h.earlier = verdict pre) : CountedOnce hs := by
  have hover (pre : List (Hearing α γ)) (h : Hearing α γ) (post : List (Hearing α γ)) (hsplit : hs = pre ++ h :: post)
      (hsuccess : ∃ h₀ ∈ pre, h₀.outcome? = some .success) : h.earlier = some .success := by
    rw [hearlier pre h post hsplit]
    exact (verdict_eq_success pre).2 hsuccess
  constructor
  case reception =>
    intro pre h post hsplit distanceM outcome htally
    obtain ⟨houtcome, hnone⟩ := Hearing.of_reception htally
    rw [hearlier pre h post hsplit] at hnone
    exact ⟨houtcome, (verdict_eq_none pre).1 hnone⟩
  case recovery =>
    intro pre h post hsplit distanceM failure htally
    obtain ⟨houtcome, hfailure, hne⟩ := Hearing.of_recovery htally
    rw [hearlier pre h post hsplit] at hfailure
    obtain ⟨_, h₀, _, rfl, -, hfirst⟩ := first_of_verdict hfailure hne
    exact ⟨houtcome, hne, h₀, by simp, hfirst⟩
  case afterSuccess => exact fun pre h post hsplit hsuccess => h.attempt_of_success (hover pre h post hsplit hsuccess)
  case receptions =>
    refine countP_le_one fun pre h post hsplit hh y hy => ?_
    obtain ⟨_ | _, htally, hkind⟩ := (Option.any_eq_true ..).1 hh
    · have hnone := (Hearing.of_reception htally).2
      rw [hearlier pre h post hsplit] at hnone
      rw [Hearing.tally?, (verdict_eq_none pre).1 hnone y hy]
      rfl
    · cases hkind
  case recoveries =>
    refine countP_le_one fun pre h post hsplit hh y hy => ?_
    obtain ⟨_ | _, htally, hkind⟩ := (Option.any_eq_true ..).1 hh
    · cases hkind
    · obtain ⟨-, hfailure, hne⟩ := Hearing.of_recovery htally
      rw [← Bool.not_eq_true]
      intro hy'
      -- After one recovery the packet stands as a success.
      obtain ⟨_ | _, htally', hkind'⟩ := (Option.any_eq_true ..).1 hy'
      · cases hkind'
      · rw [hover pre h post hsplit ⟨y, hy, (Hearing.of_recovery htally').1⟩] at hfailure
        exact hne (Option.some.inj hfailure).symm

end

/-! ## A reception -/

namespace World

variable {w w' : World α γ} {log : List (Hearing α γ)} {onAir : List (OnAir α)} {id : Nat}

theorem receiveAt_heeds (hw : ∀ n ∈ w.nodes, n.Heeds log w.nowUs) (hlog : Heeded log)
    (hclose : Close (log ++ hearingsAt onAir id w)) :
    Heeded (log ++ hearingsAt onAir id w) ∧ ∀ w', receiveAt onAir id w = (.ok (), w') →
      ∀ n ∈ w'.nodes, n.Heeds (log ++ hearingsAt onAir id w) w.nowUs := by
  have hid {h : Hearing α γ} (hh : h ∈ hearingsAt onAir id w) : h.before.node.id = id := (of_mem_hearingsAt hh).receiver
  unfold receiveAt
  dsimp only
  cases hn : w.node? id with
  | none =>
    rw [hearingsAt, hn, List.append_nil]
    refine ⟨hlog, ?_⟩
    rintro w' ⟨⟩
    exact hw
  | some n =>
    obtain ⟨hmem, rfl⟩ := mem_of_node? hn
    rcases hheard : heardAt n onAir w.shared with ⟨heard, shared⟩
    let transmitting := onAir.any fun a => a.node = n.id
    let counted := w.setup.region.isInside .rx n.position
    have hlogged : hearingsAt onAir n.id w = logEach (AtNode.receive w.setup heard w.nowUs transmitting counted)
        (fun entry r => [⟨w.setup, w.nowUs, heard, transmitting, counted, entry, r⟩]) heard.zipIdx ⟨n, shared⟩ := by
      rw [hearingsAt, hn]
      dsimp only
      rw [hheard]
    obtain ⟨hheeded, hafter⟩ := logEach_keeps (B := Close)
      (P := fun log r => r.node.id = n.id ∧ r.node.Heeds log w.nowUs) (Q := Heeded) (fun _ _ => Close.of_append)
      (fun done entry r hr hdone hbounds => by
        obtain ⟨hrid, hr⟩ := hr
        refine ⟨hdone.snoc (Node.Heeds.earlier_eq hr hbounds), fun r' hok => ⟨?_, Node.Heeds.result hr hbounds hok⟩⟩
        rw [← hrid, ← Hearing.id_of_result ⟨w.setup, w.nowUs, heard, transmitting, counted, entry, r⟩]
        exact congrArg (·.2.node.id) hok.symm)
      ⟨rfl, hw n hmem⟩ hlog (hlogged ▸ hclose)
    rw [← hlogged] at hheeded hafter
    refine ⟨hheeded, fun w' hok => ?_⟩
    dsimp only at hok
    rw [hheard] at hok
    dsimp only at hok
    split at hok
    · cases hok
    · rename_i r hsteps
      cases hok
      obtain ⟨hrid, hr⟩ := hafter r hsteps
      intro m hm
      rcases of_mem_setNode hm with rfl | ⟨hm, hne⟩
      · exact hr.forget
      · refine (hw m hm).other fun h hh hsame => hne ?_
        rw [← hsame, hid hh]
        exact hrid.symm

theorem receiveAll_heeds (hw : ∀ n ∈ w.nodes, n.Heeds log w.nowUs) (hlog : Heeded log)
    (hclose : Close (log ++ w.hearings)) :
    Heeded (log ++ w.hearings) ∧
      ∀ w', w.receiveAll = (.ok (), w') → ∀ n ∈ w'.nodes, n.Heeds (log ++ w.hearings) w.nowUs := by
  revert hclose
  unfold hearings receiveAll
  cases honAir : w.onAir with
  | nil =>
    intro _
    dsimp only
    rw [List.append_nil]
    refine ⟨hlog, ?_⟩
    rintro w' ⟨⟩
    exact hw
  | cons a rest =>
    intro hclose
    obtain ⟨hheeded, hafter⟩ := logEach_keeps (B := Close) (Q := Heeded) (s := { w with onAir := [] })
      (P := fun log (w' : World α γ) => w'.nowUs = w.nowUs ∧ ∀ n ∈ w'.nodes, n.Heeds log w.nowUs)
      (fun _ _ => Close.of_append)
      (fun done id w₁ hw₁ hdone hbounds => by
        obtain ⟨hnow, hw₁⟩ := hw₁
        obtain ⟨hheeded, hafter⟩ := receiveAt_heeds (hnow ▸ hw₁) hdone hbounds
        refine ⟨hheeded, fun w₂ hok => ⟨?_, hnow ▸ hafter w₂ hok⟩⟩
        rw [← hnow, ← receiveAt_nowUs (a :: rest) id w₁, hok])
      ⟨rfl, hw⟩ hlog hclose
    exact ⟨hheeded, fun w' hok => (hafter w' hok).2⟩

/-! ### Any other event -/

theorem served_blocks {now : Slot} {nowUs : Nat} {n n' : Node α} {sent : Option (OnAir α)} {s : Setup α}
    (h : n.Served γ s now nowUs sent n') : n'.blocks = n.blocks := by
  obtain ⟨shared, r, r', hdelivered, hsend, rfl⟩ := h
  obtain ⟨⟨flow, arrivals, hnode⟩, -⟩ := AtNode.of_serve hdelivered hsend
  rw [hnode]

theorem fireTimer_blocks (hok : w.fireTimer id = (.ok (), w')) :
    ∀ n' ∈ w'.nodes, ∃ n ∈ w.nodes, n'.id = n.id ∧ n'.blocks = n.blocks := by
  obtain ⟨-, rfl⟩ | ⟨n, n', hn, hn', hrearm⟩ := of_fireTimer hok
  · exact fun n hn => ⟨n, hn, rfl, rfl⟩
  · obtain ⟨delay, g, -, rfl⟩ := of_rearm hrearm
    have hgenerated : ∀ m ∈ (w.generate n).nodes, ∃ m₀ ∈ w.nodes, m.id = m₀.id ∧ m.blocks = m₀.blocks := by
      intro m hm
      obtain ⟨m₀, hm₀, generator, arrivals, rfl⟩ := (generate_generated (mem_of_node? hn).1).nodes m hm
      exact ⟨m₀, hm₀, rfl, rfl⟩
    intro m hm
    rcases of_mem_setNode hm with rfl | ⟨hm, -⟩
    · exact hgenerated n' (mem_of_node? hn').1
    · exact hgenerated m hm

theorem blocks_of_handle {e : Event} (he : e ≠ .reception) (hdistinct : (w.nodes.map (·.id)).Nodup)
    (honAir : e = .mac → w.onAir = []) (hok : handle e w = (.ok (), w')) :
    ∀ n' ∈ w'.nodes, ∃ n ∈ w.nodes, n'.id = n.id ∧ n'.blocks = n.blocks := by
  cases e with
  | reception => exact absurd rfl he
  | mobility =>
    cases hok
    refine moveAll_keeps
      (P := fun w' : World α γ => ∀ n' ∈ w'.nodes, ∃ n ∈ w.nodes, n'.id = n.id ∧ n'.blocks = n.blocks)
      (fun n hn => ⟨n, hn, rfl, rfl⟩) (fun w₁ place hw₁ m hm => ?_) (fun w₁ id hw₁ m hm => ?_)
      (fun _ _ _ hw₁ => hw₁)
    · obtain ⟨n, hn, rfl⟩ := List.mem_map.1 hm
      exact hw₁ n hn
    · unfold removeNode at hm
      split at hm
      · exact hw₁ m hm
      · exact hw₁ m (List.mem_filter.1 hm).1
  | traffic id => exact fireTimer_blocks hok
  | mac =>
    obtain ⟨now, -, -, -, hserved⟩ := served_of_serveAll hdistinct (honAir rfl) hok
    intro n' hn'
    obtain ⟨n, hn, sent, hserved, -⟩ := hserved n' hn'
    exact ⟨n, hn, hserved.id.1, served_blocks hserved⟩
  | report =>
    cases hok
    exact fun n hn => ⟨n, hn, rfl, rfl⟩

/-! ## Runs -/

section

variable [Scalar.LawfulSlots α] [Scalar.PositiveSlots α] {config : Config α} {scene : Scene α} {trace : Trace α}
  {sourceOfSeed : Nat → γ} {endUs : Nat} {w₀ : World α γ} {turns : List (Turn α γ)} {t : Turn α γ}
  {r : Stepped (SimulationError α) (World α γ)} {d : Delivery}

omit [Analysis α] [Scalar.LawfulSlots α] [Scalar.PositiveSlots α] in
theorem placeNodes_blocks (params : FlowParams α) (generators : List (Nat × Generator α)) (specs : List (NodeSpec α))
    (agenda : Agenda Event) (g : γ) : ∀ n ∈ (placeNodes params generators specs agenda g).1, n.blocks = ∅ := by
  induction specs generalizing agenda g with
  | nil => simp [placeNodes]
  | cons spec rest ih =>
    unfold placeNodes
    split
    · exact ih agenda g
    · intro n hn
      rcases List.mem_cons.1 hn with rfl | hn
      · rfl
      · exact ih _ _ n hn

omit [Scalar.LawfulSlots α] [Scalar.PositiveSlots α] in
theorem start_heeds (hstart : start config scene trace sourceOfSeed = .ok w₀) (nowUs : Nat) :
    ∀ n ∈ w₀.nodes, n.Heeds ([] : List (Hearing α γ)) nowUs := by
  obtain ⟨-, -, -, -, params, generators, nodes, agenda, g, g', -, hplaced, hnodes, -⟩ := of_start hstart
  intro n hn
  rw [hnodes, List.mem_mergeSort] at hn
  have hblocks := placeNodes_blocks params generators scene.nodes {} g n (by rwa [hplaced])
  have hknown (key : BlockKey) : n.known key = none := by
    rw [Node.known, hblocks]
    rfl
  refine ⟨fun key outcome firstUs h => ?_, fun _ _ => .inl rfl⟩
  rw [hknown] at h
  cases h

/-- All hearings of a packet come before a receiver may forget it. -/
theorem close_of_course (hscene : scene.validate = .ok ())
    (hstart : start config scene trace sourceOfSeed = .ok w₀) (hend : endUs < limit64)
    (hcourse : Course endUs w₀ turns r) : Close (heardIn turns) := by
  intro h hh h' hh' hkey
  obtain ⟨t, ht, hh⟩ := List.mem_flatMap.1 hh
  obtain ⟨u, hu, hh'⟩ := List.mem_flatMap.1 hh'
  have hamong := of_mem_hearings hh
  have hamong' := of_mem_hearings hh'
  have hphase := hcourse.phase hscene hstart
  have hsoon := soon_of_course hscene hstart hend hcourse ht hu hamong.mem hamong'.mem hkey
  have hlimit := (Config.accepted_of_validate (of_start hstart).1).budget.2.1
  rw [hamong.nowUs, hamong'.nowUs, (hphase t (List.mem_filter.1 ht).1).2.1, (hphase u (List.mem_filter.1 hu).1).2.1]
  simp only [delayBudgetLimitMs, blockLifetimeUs] at hlimit ⊢
  omega

theorem heeded_of_course (hscene : scene.validate = .ok ())
    (hstart : start config scene trace sourceOfSeed = .ok w₀) (hend : endUs < limit64)
    (hcourse : Course endUs w₀ turns r) :
    Heeded (heardIn turns) ∧ ∀ w, r = (.ok (), w) → ∀ nowUs, (∀ t ∈ turns, t.moment.time ≤ nowUs) →
      ∀ n ∈ w.nodes, n.Heeds (heardIn turns) nowUs := by
  induction hcourse with
  | start =>
    refine ⟨.nil, ?_⟩
    rintro w ⟨⟩ nowUs -
    exact start_heeds hstart nowUs
  | @turn turns w m e agenda hcourse hpop hbefore ih =>
    obtain ⟨hheeded, hheeds⟩ := ih
    have hcourse' := hcourse.turn hpop hbefore
    have hclose := close_of_course hscene hstart hend hcourse'
    have hnodes := hheeds w rfl m.time (hcourse'.time_le hscene hstart hend rfl).1
    rw [heardIn_snoc] at hclose ⊢
    by_cases he : e = .reception
    · subst he
      rw [if_pos rfl] at hclose ⊢
      have hnow : nowUs { w with agenda } = m.time := (Agenda.of_pop hpop).2.1
      obtain ⟨hheeded', hafter⟩ := receiveAll_heeds (w := { w with agenda }) (hnow ▸ hnodes) hheeded hclose
      refine ⟨hheeded', fun w' hok nowUs hlater n hn => ?_⟩
      have hn' := hafter w' hok n hn
      rw [hnow] at hn'
      exact hn'.mono (hlater ⟨m, .reception, { w with agenda }⟩ (by simp))
    · rw [if_neg he, List.append_nil]
      refine ⟨hheeded, fun w' hok nowUs hlater n hn => ?_⟩
      have hpunctual := punctual_of_course hscene hstart hend hcourse
      have hawaits := (awaits_of_course hscene hstart hend hcourse).2 w rfl
      have honAir : e = .mac → w.onAir = [] := by
        rintro rfl
        exact (hawaits.pop_slot hpunctual.agenda.ordered hpunctual.agenda.phases hpop).2.2.2.1
      have hdistinct := (accounted_of_reached hscene hstart (hcourse.reached rfl)).distinct
      obtain ⟨n₀, hn₀, hid, hblocks⟩ := blocks_of_handle (w := { w with agenda }) he hdistinct honAir hok n hn
      exact ((hnodes n₀ hn₀).congr hid hblocks).mono (hlater ⟨m, e, { w with agenda }⟩ (by simp))

omit [Scalar.LawfulSlots α] [Scalar.PositiveSlots α] in
theorem Course.split {before after : List (Turn α γ)} (hcourse : Course endUs w₀ turns r)
    (hsplit : turns = before ++ t :: after) : ∃ w agenda, Course endUs w₀ before (.ok (), w) ∧
      t.before = { w with agenda } ∧
      ((∃ w', handle t.event t.before = (.ok (), w')) ∨ after = [] ∧ ∃ e w', r = (.error e, w')) := by
  induction hcourse generalizing after with
  | start => simp at hsplit
  | @turn turns w m e agenda hcourse hpop hbefore ih =>
    rcases List.eq_nil_or_concat after with rfl | ⟨after, last, rfl⟩
    · obtain ⟨rfl, hlast⟩ := List.append_inj' hsplit rfl
      rw [← List.head_eq_of_cons_eq hlast]
      refine ⟨w, agenda, hcourse, rfl, ?_⟩
      rcases handle e { w with agenda } with ⟨_ | _, w'⟩
      · exact .inr ⟨rfl, _, w', rfl⟩
      · exact .inl ⟨w', rfl⟩
    · rw [List.concat_eq_append, ← List.cons_append, ← List.append_assoc] at hsplit
      obtain ⟨w', agenda', hearlier, hfound, hdone | ⟨-, _, _, herror⟩⟩ := ih (List.append_inj' hsplit rfl).1
      · exact ⟨w', agenda', hearlier, hfound, .inl hdone⟩
      · cases herror

theorem awaited_of_course (hscene : scene.validate = .ok ())
    (hstart : start config scene trace sourceOfSeed = .ok w₀) (hend : endUs < limit64)
    {before after : List (Turn α γ)} (hcourse : Course endUs w₀ (before ++ t :: after) r) {d : Delivery}
    {h h' : Hearing α γ} (hh : h ∈ hearingsOf d (heardIn before)) (hh' : h' ∈ hearingsOf d (heardIn (t :: after))) :
    t.moment.time < h.nowUs + blockLifetimeUs := by
  obtain ⟨hmem, hd⟩ := List.mem_filter.1 hh
  obtain ⟨hmem', hd'⟩ := List.mem_filter.1 hh'
  have hkey : h.onAir.key = h'.onAir.key :=
    congrArg Delivery.packet ((of_decide_eq_true hd).trans (of_decide_eq_true hd').symm)
  have hclose := close_of_course hscene hstart hend hcourse
  rw [heardIn_append] at hclose
  have hsoon := hclose h (List.mem_append_left _ hmem) h' (List.mem_append_right _ hmem') hkey
  obtain ⟨u, hu, hheard⟩ := List.mem_flatMap.1 hmem'
  have hu := (List.mem_filter.1 hu).1
  rw [(of_mem_hearings hheard).nowUs, (hcourse.phase hscene hstart u (List.mem_append_right _ hu)).2.1] at hsoon
  exact Nat.lt_of_le_of_lt ((hcourse.time_le hscene hstart hend rfl).2 u hu) hsoon

/-- In every run each packet counts once at each receiver, and nothing is done for it after a success. What is counted
are the tallies of the hearings, each with one call. As long as another attempt is to come the receiver keeps how the
ones before it ended. -/
theorem counted_once (hscene : scene.validate = .ok ())
    (hstart : start config scene trace sourceOfSeed = .ok w₀) (hend : endUs < limit64)
    (hcourse : Course endUs w₀ turns r) (d : Delivery) :
    CountedOnce (hearingsOf d (heardIn turns)) ∧
      (∀ h ∈ heardIn turns, ∀ r', h.result = (.ok (), r') →
        Counts h.before.shared.stats h.tally?.toList r'.shared.stats) ∧
      (∀ w, r = (.ok (), w) → Counts w₀.shared.stats (tallies (heardIn turns)) w.shared.stats) ∧
      ∀ before t after, turns = before ++ t :: after →
        (∃ h ∈ hearingsOf d (heardIn before), h.outcome?.isSome) → hearingsOf d (heardIn (t :: after)) ≠ [] →
        ∀ n ∈ t.before.nodes, n.id = d.receiver →
          ∃ b, n.blocks[d.packet]? = some b ∧ verdict (hearingsOf d (heardIn before)) = some b.outcome := by
  refine ⟨countedOnce _ fun _ _ _ hsplit => (heeded_of_course hscene hstart hend hcourse).1.earlier hsplit,
    fun h _ _ => Hearing.counts_of_result, counts_of_course hcourse, ?_⟩
  rintro before t after rfl ⟨h, hh, hattempted⟩ hlater n hn hid
  obtain ⟨w, agenda, hcourse', hbefore, -⟩ := hcourse.split rfl
  rw [hbefore] at hn
  have hn' := (heeded_of_course hscene hstart hend hcourse').2 w rfl t.moment.time
    (hcourse.time_le hscene hstart hend rfl).1 n hn
  have hdelivery : (⟨d.packet, n.id⟩ : Delivery) = d := by rw [hid]
  cases hknown : n.known d.packet with
  | some x =>
    obtain ⟨hverdict, -⟩ := hn'.known d.packet x.1 x.2 hknown
    rw [hdelivery] at hverdict
    obtain ⟨b, hb, rfl⟩ := Option.map_eq_some_iff.1 hknown
    exact ⟨b, hb, hverdict⟩
  | none =>
    -- Then an earlier attempt would be longer ago than any attempt still to come allows.
    have hold := hn'.unknown d.packet hknown
    rw [hdelivery] at hold
    rcases hold with hnone | ⟨h₀, hh₀, hold⟩
    · rw [(verdict_eq_none _).1 hnone h hh] at hattempted
      cases hattempted
    · obtain ⟨h', hh'⟩ := List.exists_mem_of_ne_nil _ hlater
      exact absurd hold (Nat.not_le.2 (awaited_of_course hscene hstart hend hcourse hh₀ hh'))

end

/-! ## A run of two nodes -/

/-- Nothing has to be sorted at the start of periodic traffic in a scene that lists its nodes by ascending number. -/
theorem start_periodic {α γ : Type} [Scalar α] [RandomSource γ] (config : Config α) {scene : Scene α} (trace : Trace α)
    (sourceOfSeed : Nat → γ) (hordered : (scene.nodes.map (·.id)).Pairwise (· ≤ ·))
    (hmodel : config.traffic.model = .ok .periodic) :
    start config scene trace sourceOfSeed = do
      config.validate.mapError .ofConfig
      let params ← config.flowParams.mapError SimulationError.ofConfig
      let numerology ← config.numerology.mapError SimulationError.ofConfig
      let pool ← scene.resourcePool.mapError SimulationError.ofPool
      let region ← scene.region.mapError SimulationError.region
      let generators := scene.nodes.map fun spec => (spec.id, .ofPeriodic config.traffic)
      let g := sourceOfSeed (config.simulation.seed ^^^ config.simulation.run)
      let (nodes, agenda, g) := placeNodes params generators scene.nodes {} g
      let mobilityUs ← word64 (config.simulation.mobilityIntervalMs * 1000)
      let reportUs ← word64 (config.simulation.reportIntervalMs * 1000)
      let (_, agenda) := agenda.scheduleAt 0 .reception .reception
      let (_, agenda) := agenda.scheduleAt 0 .mac .mac
      let (_, agenda) := agenda.scheduleAt mobilityUs .mobility .mobility
      let (_, agenda) := agenda.scheduleAt reportUs .report .report
      return {
        setup := { config, scene, pool, region, numerology, mobilityUs, reportUs }
        agenda, nodes, nextPacket := 0
        shared :=
          { links := .ofParams scene.propagation, source := g, stats := { binM := config.simulation.prrBinM }, trace }
        onAir := [] } := by
  have hids : (scene.nodes.map (·.id)).mergeSort = scene.nodes.map (·.id) :=
    List.mergeSort_of_pairwise (hordered.imp decide_eq_true)
  have hnodes (params : FlowParams α) (generators : List (Nat × Generator α)) (agenda : Agenda Event) (g : γ) :
      (placeNodes params generators scene.nodes agenda g).1.mergeSort (fun a b => a.id ≤ b.id) =
        (placeNodes params generators scene.nodes agenda g).1 := by
    refine List.mergeSort_of_pairwise ?_
    have hplaced := hordered.sublist (placeNodes_fresh params generators scene.nodes agenda g).1
    exact (List.pairwise_map.1 hplaced).imp decide_eq_true
  unfold start
  rw [hmodel]
  simp only [assignTraffic, hids, hnodes, List.map_map, Function.comp_def]
  rfl

/-- Two nodes at a distance, the second one on its way to the first. -/
def pairScene (distanceM : ℚ) : Scene ℚ where
  topLeft := ⟨0, 0⟩
  bottomRight := ⟨2000, 100⟩
  nodes := [⟨1, ⟨0, 50⟩, ⟨0, 0⟩, 23⟩, ⟨2, ⟨distanceM, 50⟩, ⟨-40, 0⟩, 23⟩]
  pool := narrowRecord
  propagation := { (.ofScenario .highway : PropagationParams ℚ) with shadowing := false }
  regions := {}

/-- Each packet is sent twice, and nodes move every millisecond. -/
def repeating : Config ℚ :=
  let c : Config ℚ := .standard
  { c with
    simulation := { c.simulation with mobilityIntervalMs := 1 }
    scheduler := { c.scheduler with blindRetransmission := true } }

/-- Draws with which both nodes send for the first time in one slot, and only one of them in the slot after it. -/
def firstTogether : Script := ⟨[0, 0, 0, 0, 0, 0x80000000]⟩

theorem pairScene_valid : (pairScene 60).validate = .ok () := ok_of_toOption (by decide +kernel)

/-- In fourteen events the second node misses the first transmission of a packet, since it sends itself, and hears the
second one. A failure of each node is counted, and one of them is repaired. -/
theorem counted_once_pair : ∃ w₀ w : World ℚ Script, ∃ turns,
    (pairScene 60).validate = .ok () ∧ start repeating (pairScene 60) .disabled (fun _ => firstTogether) = .ok w₀ ∧
      Course 10000000 w₀ turns (.ok (), w) ∧
      (hearingsOf ⟨⟨1, 0⟩, 2⟩ (heardIn turns)).map (·.outcome?) = [some .halfDuplex, some .success] ∧
      CountedOnce (hearingsOf ⟨⟨1, 0⟩, 2⟩ (heardIn turns)) ∧
      (tallies (heardIn turns)).map (·.isReception) = [true, true, false] ∧
      Counts w₀.shared.stats (tallies (heardIn turns)) w.shared.stats := by
  have hheard : ((start repeating (pairScene 60) .disabled fun _ => firstTogether).toOption.bind fun w₀ =>
      (handleUntil 10000000 14 w₀).ok?.map fun _ =>
        let log := heardIn (turnsUntil 10000000 14 w₀)
        ((hearingsOf ⟨⟨1, 0⟩, 2⟩ log).map (·.outcome?), (tallies log).map (·.isReception))) =
      some ([some .halfDuplex, some .success], [true, true, false]) := by
    rw [start_periodic repeating _ _ (by decide +kernel) rfl]
    decide +kernel
  obtain ⟨w₀, hstart, hheard⟩ := Option.bind_eq_some_iff.1 hheard
  obtain ⟨w, hhandled, hheard⟩ := Option.map_eq_some_iff.1 hheard
  obtain ⟨houtcomes, htallies⟩ := Prod.mk.inj hheard
  replace hstart := ok_of_toOption hstart
  have hcourse := course_of_turnsUntil 10000000 14 w₀
  rw [Stepped.of_ok? hhandled] at hcourse
  obtain ⟨honce, -, hcounts, -⟩ := counted_once pairScene_valid hstart (by decide) hcourse ⟨⟨1, 0⟩, 2⟩
  exact ⟨w₀, w, _, pairScene_valid, hstart, hcourse, houtcomes, honce, htallies, hcounts w rfl⟩

end World

end Sidelink
