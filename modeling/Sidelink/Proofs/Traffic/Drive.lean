import Mathlib.Data.List.Induction
import Mathlib.Data.Nat.ModEq
import Sidelink.Proofs.Scalar.Rational
import Sidelink.Traffic.Cam

/-!
# Drives

Over the checks of a drive the first one gives a message, and any other one gives a message if the vehicle has changed
enough since the message before. A check without a message leaves the generator as it is, so that small changes add up.
-/

namespace Sidelink

variable {α : Type} [Analysis α]

/-- A second has gone by since a message, or the vehicle has turned, moved or changed its speed. -/
def Cam.Changed (last now : CamState α) : Prop :=
  last.timeUs + maxIntervalUs ≤ now.timeUs ∨
  (0.0 < speed now.velocity ∧ maxHeadingDeg < headingChange last.velocity now.velocity) ∨
  maxDistanceM < now.position.distance last.position ∨
  maxSpeedMps < Scalar.abs (speed now.velocity - speed last.velocity)

/-- Any first message is due. -/
def Cam.Due (last : Option (CamState α)) (now : CamState α) : Prop := ∀ message ∈ last, Changed message now

/-- A generator after some checks, with where the vehicle was at each message so far and the size of the message. -/
structure Drive (α : Type) where
  generator : CamGenerator α
  messages : List (CamState α × Nat)

namespace CamGenerator

/-- A generator without a message. -/
def ofSizes (size largeSize largeEvery : Nat) : CamGenerator α := { size, largeSize, largeEvery }

def checkAt (c : CamGenerator α) (now : CamState α) : Option Nat × CamGenerator α :=
  c.check now.timeUs now.position now.velocity

end CamGenerator

namespace Drive

def next (d : Drive α) (now : CamState α) : Drive α :=
  let (size, generator) := d.generator.checkAt now
  ⟨generator, d.messages ++ (size.map fun size => (now, size)).toList⟩

def through (d : Drive α) (checks : List (CamState α)) : Drive α := checks.foldl next d

def lastSent (d : Drive α) : Option (CamState α) := d.messages.getLast?.map Prod.fst

end Drive

def CamGenerator.drive (c : CamGenerator α) (checks : List (CamState α)) : Drive α := Drive.through ⟨c, []⟩ checks

/-! ## One check -/

namespace CamGenerator

variable {c : CamGenerator α} {last : Option (CamState α)} {now : CamState α}

theorem isDue_iff : isDue now.timeUs now.position now.velocity last = true ↔ Cam.Due last now := by
  cases last with
  | none => simp [isDue, Cam.Due]
  | some last =>
    have htime : Cam.maxIntervalUs ≤ now.timeUs - last.timeUs ↔ last.timeUs + Cam.maxIntervalUs ≤ now.timeUs := by
      unfold Cam.maxIntervalUs
      omega
    simp [isDue, Cam.Due, Cam.Changed, htime, or_assoc]

theorem checkAt_of_due (h : Cam.Due c.last now) :
    c.checkAt now = (some (c.sizeOf (c.count + 1)), { c with last := some now, count := c.count + 1 }) := by
  unfold checkAt check
  rw [if_pos (isDue_iff.2 h)]

theorem checkAt_of_not_due (h : ¬Cam.Due c.last now) : c.checkAt now = (none, c) := by
  unfold checkAt check
  rw [if_neg (mt isDue_iff.1 h)]

theorem checkAt_of_none (h : (c.checkAt now).1 = none) : (c.checkAt now).2 = c := by
  by_cases hdue : Cam.Due c.last now
  · rw [checkAt_of_due hdue] at h
    cases h
  · rw [checkAt_of_not_due hdue]

theorem checkAt_isSome_iff : (c.checkAt now).1.isSome = true ↔ Cam.Due c.last now := by
  by_cases h : Cam.Due c.last now
  · simp [checkAt_of_due h, h]
  · simp [checkAt_of_not_due h, h]

omit [Analysis α] in
theorem sizeOf_succ (c : CamGenerator α) (k : Nat) :
    c.sizeOf (k + 1) = if max 1 c.largeEvery ∣ k then c.largeSize else c.size := by
  have hlarge (every : Nat) : (k + 1) % every = 1 ∨ every = 1 ↔ every ∣ k := by
    by_cases hone : every = 1
    · simp [hone]
    · have hturn := Nat.modEq_iff_dvd' (n := every) (Nat.le_add_left 1 k)
      rw [Nat.ModEq, Nat.one_mod_eq_one.2 hone, Nat.add_sub_cancel, eq_comm] at hturn
      simp [hone, hturn]
  unfold sizeOf
  dsimp only
  simp only [hlarge, Nat.max_comm c.largeEvery]

end CamGenerator

/-! ## Many checks -/

namespace Drive

variable {d : Drive α} {now : CamState α}

theorem next_of_due (h : Cam.Due d.generator.last now) : d.next now =
    ⟨{ d.generator with last := some now, count := d.generator.count + 1 },
      d.messages ++ [(now, d.generator.sizeOf (d.generator.count + 1))]⟩ := by
  unfold next
  rw [CamGenerator.checkAt_of_due h]
  rfl

theorem next_of_not_due (h : ¬Cam.Due d.generator.last now) : d.next now = d := by
  unfold next
  rw [CamGenerator.checkAt_of_not_due h]
  simp

theorem messages_next (d : Drive α) (now : CamState α) : d.messages <+: (d.next now).messages :=
  List.prefix_append ..

theorem messages_through (d : Drive α) (checks : List (CamState α)) : d.messages <+: (d.through checks).messages := by
  induction checks generalizing d with
  | nil => exact List.prefix_rfl
  | cons now rest ih => exact (d.messages_next now).trans (ih (d.next now))

theorem through_of_silent {silent : List (CamState α)} (h : (d.through silent).messages = d.messages) :
    d.through silent = d ∧ ∀ now ∈ silent, ¬Cam.Due d.generator.last now := by
  induction silent with
  | nil => exact ⟨rfl, by simp⟩
  | cons now rest ih =>
    change ((d.next now).through rest).messages = d.messages at h
    have hnot : ¬Cam.Due d.generator.last now := by
      intro hdue
      have hlonger := (messages_through (d.next now) rest).length_le
      rw [h, next_of_due hdue, List.length_append, List.length_singleton] at hlonger
      omega
    rw [next_of_not_due hnot] at h
    obtain ⟨hsame, hrest⟩ := ih h
    refine ⟨?_, List.forall_mem_cons.2 ⟨hnot, hrest⟩⟩
    change (d.next now).through rest = d
    rw [next_of_not_due hnot, hsame]

/-- The generator keeps where the last message was sent, and how many messages there are. Their sizes are in turn. -/
structure Follows (c : CamGenerator α) (d : Drive α) : Prop where
  generator : d.generator = { c with last := d.lastSent, count := d.messages.length }
  sizes : ∀ k message, d.messages[k]? = some message → message.2 = c.sizeOf (k + 1)

theorem Follows.next {c : CamGenerator α} (h : Follows c d) (now : CamState α) : Follows c (d.next now) := by
  by_cases hdue : Cam.Due d.generator.last now
  · have hsize : d.generator.sizeOf (d.generator.count + 1) = c.sizeOf (d.messages.length + 1) := by
      rw [h.generator]
      rfl
    rw [next_of_due hdue, hsize]
    constructor
    · simp [h.generator, lastSent]
    · intro k message hmessage
      rcases Nat.lt_or_ge k d.messages.length with hlt | hge
      · rw [List.getElem?_append_left hlt] at hmessage
        exact h.sizes k message hmessage
      · rw [List.getElem?_append_right hge, List.getElem?_singleton] at hmessage
        split at hmessage
        · have hk : k = d.messages.length := by omega
          cases hmessage
          rw [hk]
        · cases hmessage
  · rw [next_of_not_due hdue]
    exact h

theorem follows_drive (size largeSize largeEvery : Nat) (checks : List (CamState α)) :
    Follows (.ofSizes size largeSize largeEvery) ((CamGenerator.ofSizes size largeSize largeEvery).drive checks) := by
  induction checks using List.reverseRecOn with
  | nil => exact ⟨rfl, by simp [CamGenerator.drive, through]⟩
  | append_singleton checks now ih =>
    have hsnoc (c : CamGenerator α) : c.drive (checks ++ [now]) = (c.drive checks).next now := by
      simp [CamGenerator.drive, through]
    rw [hsnoc]
    exact ih.next now

section

variable {c : CamGenerator α} {last : CamState α}

theorem Follows.sends_iff (h : Follows c d) (hsent : d.lastSent = some last) :
    (d.generator.checkAt now).1.isSome = true ↔ Cam.Changed last now := by
  rw [CamGenerator.checkAt_isSome_iff, h.generator]
  simp [Cam.Due, hsent]

omit [Analysis α] in
theorem Follows.size_eq (h : Follows c d) {k : Nat} {message : CamState α × Nat}
    (hmessage : d.messages[k]? = some message) :
    message.2 = if max 1 c.largeEvery ∣ k then c.largeSize else c.size := by
  rw [h.sizes k message hmessage, CamGenerator.sizeOf_succ]

theorem Follows.drift (h : Follows c d) {later : List (CamState α)} (hsame : (d.through later).messages = d.messages) :
    (d.through later).generator = d.generator ∧ ∀ last ∈ d.lastSent, ∀ now ∈ later, ¬Cam.Changed last now := by
  obtain ⟨hstill, hnone⟩ := through_of_silent hsame
  refine ⟨congrArg Drive.generator hstill, fun last hlast now hnow hchanged => hnone now hnow ?_⟩
  rw [h.generator]
  intro message hmessage
  rw [Option.mem_unique hmessage hlast]
  exact hchanged

theorem head?_messages_drive (hnew : c.last = none) (hcount : c.count = 0) (now : CamState α)
    (rest : List (CamState α)) : (c.drive (now :: rest)).messages.head? = some (now, c.largeSize) := by
  have hfirst : Drive.next ⟨c, []⟩ now = ⟨{ c with last := some now, count := 1 }, [(now, c.largeSize)]⟩ := by
    have hdue : Cam.Due c.last now := by simp [Cam.Due, hnew]
    have hsize := c.sizeOf_succ 0
    rw [if_pos (Nat.dvd_zero _)] at hsize
    rw [next_of_due hdue, hcount, hsize]
    rfl
  obtain ⟨others, hmessages⟩ := messages_through (Drive.next ⟨c, []⟩ now) rest
  change ((Drive.next ⟨c, []⟩ now).through rest).messages.head? = _
  rw [← hmessages, hfirst]
  rfl

end

/-- When the vehicle sends after some checks, and what it has sent. -/
structure Regular (c : CamGenerator α) (checks : List (CamState α)) : Prop where
  first : ∀ now rest, checks = now :: rest → (c.drive checks).messages.head? = some (now, c.largeSize)
  /-- Changes are measured against the last message. -/
  sends_iff : ∀ last now, (c.drive checks).lastSent = some last →
    (((c.drive checks).generator.checkAt now).1.isSome = true ↔ Cam.Changed last now)
  late : ∀ last now, (c.drive checks).lastSent = some last → last.timeUs + 1000000 ≤ now.timeUs →
    ((c.drive checks).generator.checkAt now).1.isSome = true
  silent : ∀ now, ((c.drive checks).generator.checkAt now).1 = none →
    ((c.drive checks).generator.checkAt now).2 = (c.drive checks).generator
  /-- However long a stretch without a message is, all of it is near the last message. -/
  drift : ∀ later, (c.drive (checks ++ later)).messages = (c.drive checks).messages →
    (c.drive (checks ++ later)).generator = (c.drive checks).generator ∧
    ∀ last ∈ (c.drive checks).lastSent, ∀ now ∈ later, ¬Cam.Changed last now
  sizes : ∀ k message, (c.drive checks).messages[k]? = some message →
    message.2 = if max 1 c.largeEvery ∣ k then c.largeSize else c.size

/-- A vehicle sends at the first check, and later when it has changed since its last message or when that is a second
old. The messages take turns in their sizes. -/
theorem drive_regular (size largeSize largeEvery : Nat) (checks : List (CamState α)) :
    Regular (.ofSizes size largeSize largeEvery) checks := by
  have hfollows := follows_drive size largeSize largeEvery checks
  constructor
  case first =>
    rintro now rest rfl
    exact head?_messages_drive rfl rfl now rest
  case sends_iff =>
    intro last now hsent
    exact hfollows.sends_iff hsent
  case late =>
    intro last now hsent hlate
    exact (hfollows.sends_iff hsent).2 (.inl hlate)
  case silent =>
    intro now hnone
    exact CamGenerator.checkAt_of_none hnone
  case drift =>
    intro later hsame
    have hgoes : (CamGenerator.ofSizes size largeSize largeEvery).drive (checks ++ later) =
        ((CamGenerator.ofSizes size largeSize largeEvery).drive checks).through later := List.foldl_append
    rw [hgoes] at hsame ⊢
    exact hfollows.drift hsame
  case sizes =>
    intro k message hmessage
    exact hfollows.size_eq hmessage

/-- A turn, a stop and a second of standing still. The fifth message after a large one is large again. -/
example :
    let moving : Point ℚ := ⟨10, 0⟩
    let still : Point ℚ := ⟨0, 0⟩
    (CamGenerator.ofSizes 190 300 5 |>.drive [⟨0, ⟨0, 0⟩, moving⟩, ⟨100000, ⟨1, 0⟩, moving⟩, ⟨200000, ⟨5, 0⟩, moving⟩,
      ⟨300000, ⟨11 / 2, 0⟩, ⟨9, 2⟩⟩, ⟨400000, ⟨6, 0⟩, still⟩, ⟨900000, ⟨6, 0⟩, still⟩, ⟨1400000, ⟨6, 0⟩, still⟩,
      ⟨2400000, ⟨6, 0⟩, still⟩]).messages.map (fun m => (m.1.timeUs, m.2)) =
    [(0, 300), (200000, 190), (300000, 190), (400000, 190), (1400000, 190), (2400000, 300)] := by
  decide +kernel

end Drive

end Sidelink
