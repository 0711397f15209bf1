import Mathlib.Order.Basic

/-! A single-value broadcast channel with versions. Each send replaces the value
and moves to the next version; a receiver remembers the last version it saw,
and a clone starts from what the original remembers. -/
namespace Osxrdp.Watch

/-- The sender of a channel that keeps its last value. -/
structure Sender (α : Type) where
  value : α
  version : Nat
  deriving DecidableEq, Repr

/-- A receiver, with the version that it has seen. -/
structure Receiver where
  seen : Nat
  deriving DecidableEq, Repr

variable {α : Type}

/-- The receiver made with a channel has seen the initial value. -/
def channel (init : α) : Sender α × Receiver := (⟨init, 0⟩, ⟨0⟩)

/-- The value is replaced. -/
def Sender.send (tx : Sender α) (value : α) : Sender α := ⟨value, tx.version + 1⟩

@[simp] theorem Sender.send_version (tx : Sender α) (value : α) :
    (tx.send value).version = tx.version + 1 := rfl

namespace Receiver
variable {rx : Receiver} {tx : Sender α}

/-- There is a version that the receiver has not seen. -/
def hasChanged (rx : Receiver) (tx : Sender α) : Bool := rx.seen != tx.version

/-- The value, which the receiver has now seen. -/
def borrowAndUpdate (_ : Receiver) (tx : Sender α) : α × Receiver := (tx.value, ⟨tx.version⟩)

/-- No receiver is ahead of its sender. -/
def Behind (rx : Receiver) (tx : Sender α) : Prop := rx.seen ≤ tx.version

theorem hasChanged_iff : rx.hasChanged tx = true ↔ rx.seen ≠ tx.version := by
  simp [hasChanged]

/-- Nothing has changed for a receiver that has seen the latest version. -/
theorem not_hasChanged_iff : rx.hasChanged tx = false ↔ rx.seen = tx.version := by
  simp [hasChanged]

/-- A receiver that finds a change is behind. -/
theorem Behind.lt (behind : rx.Behind tx) (changed : rx.hasChanged tx = true) :
    rx.seen < tx.version :=
  Nat.lt_of_le_of_ne behind (hasChanged_iff.mp changed)

/-- A receiver is behind after a value was sent. -/
theorem Behind.send (behind : rx.Behind tx) (value : α) : rx.Behind (tx.send value) :=
  Nat.le_succ_of_le behind

/-- A send is unseen by every receiver of the channel. -/
theorem Behind.hasChanged_send (behind : rx.Behind tx) (value : α) :
    rx.hasChanged (tx.send value) = true :=
  hasChanged_iff.mpr (Nat.ne_of_lt (Nat.lt_succ_of_le behind))

end Receiver

/-- Two channels that differ only in how many versions they have behind them:
receivers at matching positions cannot tell them apart. -/
structure Shifted (offset : Nat) (tx : Sender α) (base : Sender α) : Prop where
  version : tx.version = base.version + offset
  value : 0 < base.version → tx.value = base.value

/-- The receiver of a channel that began earlier. -/
def Receiver.Shifted (offset : Nat) (rx base : Receiver) : Prop := rx.seen = base.seen + offset

section Shift
variable {offset : Nat} {tx base : Sender α} {rx rxBase : Receiver}

/-- Channels that began apart stay apart. -/
theorem Shifted.send (shifted : Shifted offset tx base) (value : α) :
    Shifted offset (tx.send value) (base.send value) :=
  ⟨by simp only [Sender.send_version, shifted.version]; omega, fun _ => rfl⟩

/-- They tell the same changes. -/
theorem Shifted.hasChanged_eq (shifted : Shifted offset tx base) (receivers : rx.Shifted offset rxBase) :
    rx.hasChanged tx = rxBase.hasChanged base := by
  rw [Bool.eq_iff_iff, Receiver.hasChanged_iff, Receiver.hasChanged_iff, shifted.version, receivers]
  omega

end Shift
end Osxrdp.Watch
