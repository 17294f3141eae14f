/-!
# Faults

Counts of the model live in machine words. A result that leaves its word, a division by zero and an index
past the end are causes of failure of their own, apart from the rules of each component.
-/

namespace Sidelink

inductive Fault where
  | overflow
  | divisionByZero
  | outOfBounds
deriving Repr, DecidableEq

/-- An error type in which a fault has a place. -/
class OfFault (ε : Type) where
  ofFault : Fault → ε

instance : OfFault Fault := ⟨id⟩

/-- The first count past a 16-bit word. -/
def limit16 : Nat := 65536

def limit32 : Nat := 4294967296

def limit64 : Nat := 18446744073709551616

variable {ε : Type} [OfFault ε]

/-- `n`, if it is a 16-bit word. -/
def word16 (n : Nat) : Except ε Nat :=
  if n < limit16 then .ok n else .error (OfFault.ofFault .overflow)

def word32 (n : Nat) : Except ε Nat :=
  if n < limit32 then .ok n else .error (OfFault.ofFault .overflow)

def word64 (n : Nat) : Except ε Nat :=
  if n < limit64 then .ok n else .error (OfFault.ofFault .overflow)

def quotient (n d : Nat) : Except ε Nat :=
  if d = 0 then .error (OfFault.ofFault .divisionByZero) else .ok (n / d)

def remainder (n d : Nat) : Except ε Nat :=
  if d = 0 then .error (OfFault.ofFault .divisionByZero) else .ok (n % d)

def entry {β : Type} (xs : List β) (i : Nat) : Except ε β :=
  match xs[i]? with
  | some x => .ok x
  | none => .error (OfFault.ofFault .outOfBounds)

end Sidelink
