import Sidelink.Random.Source

/-!
# The ChaCha generator

Twelve rounds over a key and a block counter give sixteen words at a time. The words of all blocks in a row are
the stream, and a 64-bit word is two of them with the low half first.
-/

namespace Sidelink

structure Quad where
  a : UInt32
  b : UInt32
  c : UInt32
  d : UInt32
deriving Repr, DecidableEq

namespace Quad

def zip (f : UInt32 → UInt32 → UInt32) (x y : Quad) : Quad := ⟨f x.a y.a, f x.b y.b, f x.c y.c, f x.d y.d⟩

def rotateBits (k : UInt32) (x : Quad) : Quad :=
  let r (w : UInt32) := (w <<< k) ||| (w >>> (32 - k))
  ⟨r x.a, r x.b, r x.c, r x.d⟩

def shift (x : Quad) : Quad := ⟨x.b, x.c, x.d, x.a⟩

def toList (x : Quad) : List UInt32 := [x.a, x.b, x.c, x.d]

end Quad

namespace ChaCha

structure Block where
  r0 : Quad
  r1 : Quad
  r2 : Quad
  r3 : Quad
deriving Repr, DecidableEq

namespace Block

def columns (s : Block) : Block :=
  let a := s.r0.zip (· + ·) s.r1
  let d := (s.r3.zip (· ^^^ ·) a).rotateBits 16
  let c := s.r2.zip (· + ·) d
  let b := (s.r1.zip (· ^^^ ·) c).rotateBits 12
  let a := a.zip (· + ·) b
  let d := (d.zip (· ^^^ ·) a).rotateBits 8
  let c := c.zip (· + ·) d
  let b := (b.zip (· ^^^ ·) c).rotateBits 7
  ⟨a, b, c, d⟩

/-- Turns the diagonals into columns. -/
def skew (s : Block) : Block := ⟨s.r0, s.r1.shift, s.r2.shift.shift, s.r3.shift.shift.shift⟩

def unskew (s : Block) : Block := ⟨s.r0, s.r1.shift.shift.shift, s.r2.shift.shift, s.r3.shift⟩

def doubleRound (s : Block) : Block := s.columns.skew.columns.unskew

def add (s t : Block) : Block :=
  ⟨s.r0.zip (· + ·) t.r0, s.r1.zip (· + ·) t.r1, s.r2.zip (· + ·) t.r2, s.r3.zip (· + ·) t.r3⟩

def words (s : Block) : List UInt32 := s.r0.toList ++ s.r1.toList ++ s.r2.toList ++ s.r3.toList

end Block

structure Key where
  low : Quad
  high : Quad
deriving Repr, DecidableEq

/-- What the rounds start from: four constants, the key, the block counter and no nonce. -/
def start (key : Key) (counter : UInt64) : Block :=
  ⟨⟨0x61707865, 0x3320646e, 0x79622d32, 0x6b206574⟩, key.low, key.high,
    ⟨counter.toUInt32, (counter >>> 32).toUInt32, 0, 0⟩⟩

def block (key : Key) (counter : UInt64) : Block :=
  let s := start key counter
  s.add (Nat.repeat Block.doubleRound 6 s)

end ChaCha

/-- A place in the stream: the words left of the current block and the counter of the next one. -/
structure ChaCha12 where
  key : ChaCha.Key
  counter : UInt64
  rest : List UInt32
deriving Repr

namespace ChaCha12

def next32 (g : ChaCha12) : UInt32 × ChaCha12 :=
  match g.rest with
  | w :: rest => (w, { g with rest })
  | [] =>
    match (ChaCha.block g.key g.counter).words with
    | w :: rest => (w, { g with counter := g.counter + 1, rest })
    | [] => (0, g)

def next64 (g : ChaCha12) : UInt64 × ChaCha12 :=
  let (low, g) := g.next32
  let (high, g) := g.next32
  (low.toUInt64 ||| (high.toUInt64 <<< 32), g)

instance : RandomSource ChaCha12 := ⟨next32, next64⟩

/-! ## Seeding -/

def seedStep (state : UInt64) : UInt64 := state * 6364136223846793005 + 11634580027462260723

/-- The key word of a state: some of its upper bits, turned right by its top five. -/
def seedWord (state : UInt64) : UInt32 :=
  let x := (((state >>> 18) ^^^ state) >>> 27).toUInt32
  let k := (state >>> 59).toUInt32
  if k = 0 then x else (x >>> k) ||| (x <<< (32 - k))

def seedStates : Nat → UInt64 → List UInt64
  | 0, _ => []
  | n + 1, s => seedStep s :: seedStates n (seedStep s)

def ofSeed (seed : UInt64) : ChaCha12 :=
  let key : ChaCha.Key :=
    match (seedStates 8 seed).map seedWord with
    | [a, b, c, d, e, f, g, h] => ⟨⟨a, b, c, d⟩, ⟨e, f, g, h⟩⟩
    | _ => ⟨⟨0, 0, 0, 0⟩, ⟨0, 0, 0, 0⟩⟩
  ⟨key, 0, []⟩

/-- The stream of a seed given as a count. Only its low 64 bits matter. -/
def ofNat (seed : Nat) : ChaCha12 := ofSeed (UInt64.ofNat seed)

end ChaCha12

end Sidelink
