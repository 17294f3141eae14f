import Sidelink.Data.Toml.Reader
import Sidelink.Data.Value
import Sidelink.Decimal.Nearest

/-!
# Numbers and moments

A number may group its digits with underscores, each between two digits. Moments of time are read by their rules, but
no entry of a record holds one.
-/

namespace Sidelink.Toml.Reader

/-- The digits of a run without its underscores. -/
def ungrouped? : List Char → Option (List Char)
  | [] => none
  | c :: rest =>
    if c = '_' then none
    else
      match rest with
      | [] => some [c]
      | '_' :: more => (ungrouped? more).map (c :: ·)
      | more => (ungrouped? more).map (c :: ·)

def grouped (p : Char → Bool) : Reader (List Char) := do
  match ungrouped? (← run fun c => p c || c = '_') with
  | some ds => return ds
  | none => failure

/-- The first integer past a signed word of 64 bits. -/
def wordLimit : Int := 9223372036854775808

def word (n : Int) : Reader Value := if -wordLimit ≤ n ∧ n < wordLimit then return .int n else failure

/-- A minus sign. A plus sign says nothing. -/
def sign : Reader Bool := do
  if ← accept "-" then return true
  discard (accept "+")
  return false

/-- Digits after a point, if there is one. -/
def fraction : Reader (Option (List Char)) := do
  if ← accept "." then return some (← grouped Digit.isDecimal) else return none

/-- A power of ten, if there is one. -/
def exponent : Reader (Option Int) := do
  if (← accept "e") || (← accept "E") then
    let negative ← sign
    let n := Digit.number 10 (← grouped Digit.isDecimal)
    return some (if negative then -n else n)
  else return none

/-- A decimal number after its sign. A float may not be too large, but for a negative one. -/
def decimal (negative : Bool) : Reader Value := do
  let whole ← grouped Digit.isDecimal
  if whole.head? = some '0' ∧ 1 < whole.length then failure
  let frac ← fraction
  let power ← exponent
  if frac.isNone && power.isNone then
    let n : Int := Digit.number 10 whole
    word (if negative then -n else n)
  else
    let places := frac.getD []
    let x := Decimal.nearest (Digit.number 10 (whole ++ places)) (power.getD 0 - places.length)
    if negative then return .float (-x) else if x.isInf then failure else return .float x

def number : Reader Value := do
  if ← accept "0x" then word (Digit.number 16 (← grouped (Digit.isIn 16)))
  else if ← accept "0o" then word (Digit.number 8 (← grouped (Digit.isIn 8)))
  else if ← accept "0b" then word (Digit.number 2 (← grouped (Digit.isIn 2)))
  else
    let negative ← sign
    if ← accept "inf" then return .float (if negative then -1.0 / 0.0 else 1.0 / 0.0)
    else if ← accept "nan" then return .float (0.0 / 0.0)
    else decimal negative

/-! ## Moments -/

def part (width low high : Nat) : Reader Nat := do
  let n ← digits width
  if low ≤ n ∧ n ≤ high then return n else failure

def daysOf (year month : Nat) : Nat :=
  if month = 2 then if year % 4 = 0 ∧ (year % 100 ≠ 0 ∨ year % 400 = 0) then 29 else 28
  else if [4, 6, 9, 11].contains month then 30
  else 31

def date : Reader Unit := do
  let year ← digits 4
  expect "-"
  let month ← part 2 1 12
  expect "-"
  discard (part 2 1 (daysOf year month))

def clock : Reader Unit := do
  discard (part 2 0 23)
  expect ":"
  discard (part 2 0 59)

/-- A time of day. The seconds leave room for a leap second. -/
def time : Reader Unit := do
  clock
  expect ":"
  discard (part 2 0 60)
  if ← accept "." then
    if (← run Digit.isDecimal).isEmpty then failure

/-- The distance from universal time, if it is told. -/
def offset : Reader Unit := do
  if (← accept "Z") || (← accept "z") then return
  if (← accept "+") || (← accept "-") then clock

def dateStart : List (Char → Bool) := List.replicate 4 Digit.isDecimal ++ [(· == '-')]

def timeStart : List (Char → Bool) := List.replicate 2 Digit.isDecimal ++ [(· == ':')]

/-- A value for a moment. It is none that an entry of a record takes. -/
def moment : Value := .object [("moment", .null)]

def numberOrMoment : Reader Value := do
  if ← looksLike dateStart then
    date
    if ← looksLike ((fun c => c == 'T' || c == 't' || c == ' ') :: timeStart) then
      discard next
      time
      offset
    return moment
  else if ← looksLike timeStart then
    time
    return moment
  else number

end Sidelink.Toml.Reader
