import Mathlib.Init

/-! Sets of named bits of a machine word, as `bitflags!` declares them. A set
holds no bit without a name; bits from outside are cut off or refused. -/
namespace Osxrdp.Bitflags

variable {w : Nat} {all : BitVec w}

/-- A word all of whose bits are named. -/
structure Flags {w : Nat} (all : BitVec w) where
  bits : BitVec w
  named : bits &&& all = bits
  deriving DecidableEq

namespace Flags

/-- Flags are known by their bits. -/
@[ext] theorem ext {flags other : Flags all} (same : flags.bits = other.bits) : flags = other := by
  cases flags
  cases other
  cases same
  rfl

def empty : Flags all := ⟨0, BitVec.zero_and⟩

/-- `from_bits_truncate` drops what has no name. -/
def fromBitsTruncate (bits : BitVec w) : Flags all := ⟨bits &&& all, by rw [BitVec.and_assoc, BitVec.and_self]⟩

/-- `from_bits` refuses what has no name. -/
def fromBits (bits : BitVec w) : Option (Flags all) :=
  if named : bits &&& all = bits then some ⟨bits, named⟩ else none

def contains (flags : Flags all) (flag : BitVec w) : Bool := flags.bits &&& flag = flag

@[simp] theorem fromBitsTruncate_bits (flags : Flags all) : fromBitsTruncate flags.bits = flags := ext flags.named

/-- Bits of named flags are flags. -/
@[simp] theorem fromBits_bits (flags : Flags all) : fromBits flags.bits = some flags := dif_pos flags.named

end Flags
end Osxrdp.Bitflags
