import Sidelink.Proofs.Flow.Accounts
import Sidelink.Proofs.Flow.DataSlots

/-!
# The ledger of a flow

The counters of a flow against what its calls gave back: the packets that it accepted and the transmissions that it
handed out.
-/

namespace Sidelink.Flow

variable {α : Type}

/-! ## Replies -/

namespace Reply

/-- A packet was taken in, also if only to be dropped. -/
def accepts : Reply → Bool
  | .decided (.ok _) => true
  | _ => false

theorem accepts_decided (d : Except FlowError Decision) : (decided d).accepts.toNat = taken d := by
  cases d <;> rfl

def sends : Reply → Bool
  | .sent t => t.isSome
  | _ => false

def sendsFirst : Reply → Bool
  | .sent t => sentFirst t
  | _ => false

end Reply

theorem countP_snoc {β : Type} (p : β → Bool) (xs : List β) (x : β) :
    (xs ++ [x]).countP p = xs.countP p + (p x).toNat := by
  rw [List.countP_append, List.countP_singleton]
  cases p x <;> rfl

section

variable [Analysis α] {γ : Type} [RandomSource γ]

theorem Exchange.balanced {f f' : Flow α} {c : Call α} {reply : Reply} (hserved : f.Served)
    (h : Exchange γ f c reply f') :
    Balanced f f' reply.accepts.toNat reply.sendsFirst.toNat reply.sends.toNat := by
  cases h with
  | sense hsense => exact sense_balanced hserved hsense
  | enqueue g =>
    rw [Reply.accepts_decided]
    exact enqueue_balanced hserved rfl
  | onSlot g => exact onSlot_balanced hserved rfl
  | teardown => exact teardown_balanced f

/-- The counters agree with a log of calls. -/
structure Booked (log : List (Call α × Reply)) (f : Flow α) : Prop where
  served : f.Served
  accepted : log.countP (·.2.accepts) = f.stats.usedReservations + f.stats.droppedPackets + f.waiting
  first : log.countP (·.2.sendsFirst) = f.stats.usedReservations
  all : log.countP (·.2.sends) = f.stats.transmissions

theorem Booked.exchange {log : List (Call α × Reply)} {f f' : Flow α} {c : Call α} {reply : Reply}
    (h : Booked log f) (hexchange : Exchange γ f c reply f') : Booked (log ++ [(c, reply)]) f' := by
  have hbalanced := hexchange.balanced h.served
  have hpackets := hbalanced.packets
  have hused := hbalanced.used
  have haccepted := h.accepted
  constructor
  case served => exact hbalanced.served
  case accepted => rw [countP_snoc]; dsimp only; omega
  case first => rw [countP_snoc, h.first, hused]
  case all => rw [countP_snoc, h.all, hbalanced.transmissions]

/-- Every packet that a flow accepted was sent, was dropped or waits for its first transmission, and the flow counts
what it sends. -/
theorem accepted_packets_booked {params : FlowParams α} {log : List (Call α × Reply)} {f : Flow α}
    (h : Recorded γ { params } log f) :
    log.countP (·.2.accepts) = f.stats.usedReservations + f.stats.droppedPackets + f.waiting ∧
      log.countP (·.2.sendsFirst) = f.stats.usedReservations ∧
      log.countP (·.2.sends) = f.stats.transmissions := by
  have hbooked : Booked log f := by
    induction h with
    | none => exact ⟨served_of_none rfl, rfl, rfl, rfl⟩
    | snoc _ hexchange ih => exact ih.exchange hexchange
  exact ⟨hbooked.accepted, hbooked.first, hbooked.all⟩

end

/-! ## A packet that was sent and one that waits -/

def hundredthLog : List (Call ℚ × Reply) :=
  [(.enqueue (.ofIndex 18) 18000 (hundredthPacket 18) narrowPool,
      .decided (({ params := .standard } : Flow ℚ).enqueue (.ofIndex 18) 18000 (hundredthPacket 18) narrowPool
        Zeros.zeros).1),
    (.onSlot (.ofIndex 20) 20000, .sent (firstQueued.onSlot (.ofIndex 20) 20000 Zeros.zeros).1),
    (.enqueue (.ofIndex 118) 118000 (hundredthPacket 118) narrowPool,
      .decided (firstSent.enqueue (.ofIndex 118) 118000 (hundredthPacket 118) narrowPool Zeros.zeros).1)]

theorem recorded_hundredthLog : Recorded Zeros { params := .standard } hundredthLog secondQueued := by
  have hfirst : Exchange Zeros _ _ _ firstQueued := .enqueue Zeros.zeros
  have hsent : Exchange Zeros _ _ _ firstSent := .onSlot Zeros.zeros
  have hsecond : Exchange Zeros _ _ _ secondQueued := .enqueue Zeros.zeros
  exact ((Recorded.none.snoc hfirst).snoc hsent).snoc hsecond

theorem accepted_hundredthLog_booked : hundredthLog.countP (·.2.accepts) = 2 ∧
    hundredthLog.countP (·.2.accepts) = secondQueued.stats.usedReservations + secondQueued.stats.droppedPackets +
      secondQueued.waiting ∧
    hundredthLog.countP (·.2.sendsFirst) = secondQueued.stats.usedReservations ∧
    hundredthLog.countP (·.2.sends) = secondQueued.stats.transmissions :=
  ⟨by decide +kernel, accepted_packets_booked recorded_hundredthLog⟩

end Sidelink.Flow
