/-!
# Random sources

A source yields words and a source for the words that follow. A draw is a function of its source, so what a
program does with randomness can be stated for every source.
-/

namespace Sidelink

class RandomSource (γ : Type) where
  next32 : γ → UInt32 × γ
  next64 : γ → UInt64 × γ

end Sidelink
