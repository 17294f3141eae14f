import Sidelink.Decimal.Basic

/-!
# Rows of error tables

A row holds the samples of one curve as published.
-/

namespace Sidelink.BlockError

/-- Error rates at levels `minDb`, `minDb + stepDb` and so on. Samples past `maxDb` fill up the row. -/
structure GridRow where
  minDb : Decimal
  maxDb : Decimal
  stepDb : Decimal
  samples : List Decimal
deriving Repr, DecidableEq

/-- Pairs of a level in dB and an error rate. -/
abbrev PointRow := List (Decimal × Decimal)

end Sidelink.BlockError
