import Sidelink.Pool.Error

/-!
# Subframe bitmaps

Forty bits, the first for the first subframe of a period. Offsets past the end use the bitmap again from its
start. As text a bitmap is forty characters, `1` for a subframe in use and `0` for any other.
-/

namespace Sidelink

structure SubframeBitmap where
  bits : List Bool
  length_eq : bits.length = 40
deriving Repr, DecidableEq

namespace SubframeBitmap

def isSet (b : SubframeBitmap) (offset : Nat) : Bool :=
  b.bits.get ⟨offset % 40, by rw [b.length_eq]; exact Nat.mod_lt _ (by decide)⟩

def countOnes (b : SubframeBitmap) : Nat := b.bits.count true

def bitOfChar (c : Char) : Except PoolError Bool :=
  if c = '0' then .ok false else if c = '1' then .ok true else .error (.invalidBitmapCharacter c)

def charOfBit (b : Bool) : Char := if b then '1' else '0'

/-- Reads the characters from the left. The first that is no bit is reported. -/
def bitsOfChars : List Char → Except PoolError (List Bool)
  | [] => .ok []
  | c :: rest => do
    let b ← bitOfChar c
    let bs ← bitsOfChars rest
    return b :: bs

def ofText (text : String) : Except PoolError SubframeBitmap :=
  let cs := text.toList
  if cs.length ≠ 40 then .error (.inconsistentBitmapSize cs.length)
  else
    match bitsOfChars cs with
    | .error e => .error e
    | .ok bits =>
      if h : bits.length = 40 then .ok ⟨bits, h⟩ else .error (.inconsistentBitmapSize bits.length)

def toText (b : SubframeBitmap) : String := String.ofList (b.bits.map charOfBit)

end SubframeBitmap

end Sidelink
