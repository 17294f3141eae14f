import Sidelink.Data.Digit
import Sidelink.Data.Value
import Sidelink.Fault

/-!
# JSON

A strict reader: no comment, no spare comma, nothing after the value. Integers that fit a signed or unsigned
64-bit word stay integers, every other number becomes a float.
-/

namespace Sidelink.Json

/-! ## Numbers -/

/-- Decimal digits gathered into one 64-bit word. -/
structure Significand where
  value : Nat
  /-- Powers of ten owed to digits that found no room or stood after the point. -/
  power : Int

/-- Digits before the point. Once one finds no room, each of them only counts as a power. -/
def Significand.whole : Significand → List Char → Significand
  | s, [] => s
  | s, c :: rest =>
    let next := s.value * 10 + (Digit.value? 10 c).getD 0
    if s.power = 0 ∧ next < limit64 then whole ⟨next, 0⟩ rest
    else whole ⟨s.value, s.power + 1⟩ rest

/-- Digits after the point. The first that finds no room ends them. -/
def Significand.decimals : Significand → List Char → Significand
  | s, [] => s
  | s, c :: rest =>
    let next := s.value * 10 + (Digit.value? 10 c).getD 0
    if next < limit64 then decimals ⟨next, s.power - 1⟩ rest else s

/-- `f · 10 ^ power` by rounded steps of at most 308 places. Nothing when the value is out of range. -/
def scale (f : Float) (power : Int) : Nat → Option Float
  | 0 => some f
  | fuel + 1 =>
    if power.natAbs ≤ 308 then
      if 0 ≤ power then
        let g := f * Float.ofScientific 1 false power.toNat
        if g.isInf then none else some g
      else some (f / Float.ofScientific 1 false power.natAbs)
    else if f == 0.0 then some f
    else if 0 ≤ power then none
    else scale (f / 1e308) (power + 308) fuel

/-- From here on a written exponent is out of range whatever the digits are. -/
def exponentLimit : Nat := 2147483648

/-- The value of a number with a fraction, an exponent or too many digits. -/
def floatValue (negative : Bool) (intDigits fracDigits : List Char) (expNegative : Bool) (expDigits : List Char) :
    Value :=
  let s := (Significand.whole ⟨0, 0⟩ intDigits).decimals fracDigits
  let written := Digit.number 10 expDigits
  let signed (f : Float) : Value := .float (if negative then -f else f)
  if exponentLimit ≤ written then
    if expNegative ∨ s.value = 0 then signed 0.0 else .unreadable
  else
    let power := if expNegative then s.power - written else s.power + written
    let fuel := power.natAbs / 308 + 1
    -- After three steps down nothing is left of a 64-bit word.
    match scale (Float.ofNat s.value) power (min fuel 4) with
    | some f => signed f
    | none => .unreadable

def expSign : List Char → Bool × List Char
  | '-' :: rest => (true, rest)
  | '+' :: rest => (false, rest)
  | rest => (false, rest)

def unsigned (negative : Bool) (cs : List Char) : Option (Value × List Char) :=
  let whole := cs.takeWhile Digit.isDecimal
  let rest := cs.dropWhile Digit.isDecimal
  if whole = [] ∨ (whole.head? = some '0' ∧ 1 < whole.length) then none
  else
    let (frac, rest) : Option (List Char) × List Char :=
      match rest with
      | '.' :: more => (some (more.takeWhile Digit.isDecimal), more.dropWhile Digit.isDecimal)
      | _ => (none, rest)
    if frac = some [] then none
    else
      let (exp, rest) : Option (Bool × List Char) × List Char :=
        match rest with
        | 'e' :: more | 'E' :: more =>
          let (sign, digits) := expSign more
          (some (sign, digits.takeWhile Digit.isDecimal), digits.dropWhile Digit.isDecimal)
        | _ => (none, rest)
      match frac, exp with
      | _, some (_, []) => none
      | none, none =>
        let n := Digit.number 10 whole
        if negative then
          if n = 0 ∨ limit64 < 2 * n then some (floatValue true whole [] false [], rest)
          else some (.int (-(n : Int)), rest)
        else if n < limit64 then some (.int n, rest)
        else some (floatValue false whole [] false [], rest)
      | _, _ =>
        let (sign, digits) := exp.getD (false, [])
        some (floatValue negative whole (frac.getD []) sign digits, rest)

def number : List Char → Option (Value × List Char)
  | '-' :: rest => unsigned true rest
  | cs => unsigned false cs

/-! ## Strings -/

def hexUnit : List Char → Option (Nat × List Char)
  | a :: b :: c :: d :: rest =>
    if [a, b, c, d].all (Digit.isIn 16) then some (Digit.number 16 [a, b, c, d], rest) else none
  | _ => none

/-- The character behind a backslash, or nothing for half a surrogate pair. -/
def escape : List Char → Option (Option Char × List Char)
  | '"' :: rest => some ('"', rest)
  | '\\' :: rest => some ('\\', rest)
  | '/' :: rest => some ('/', rest)
  | 'b' :: rest => some ('\x08', rest)
  | 'f' :: rest => some ('\x0c', rest)
  | 'n' :: rest => some ('\n', rest)
  | 'r' :: rest => some ('\r', rest)
  | 't' :: rest => some ('\t', rest)
  | 'u' :: rest => do
    let (u, rest) ← hexUnit rest
    if 0xD800 ≤ u ∧ u < 0xDC00 then
      match rest with
      | '\\' :: 'u' :: more =>
        let (v, after) ← hexUnit more
        if 0xDC00 ≤ v ∧ v < 0xE000 then
          return (Char.ofNat (0x10000 + (u - 0xD800) * 0x400 + (v - 0xDC00)), after)
        else return (none, rest)
      | _ => return (none, rest)
    else if 0xDC00 ≤ u ∧ u < 0xE000 then return (none, rest)
    else return (Char.ofNat u, rest)
  | _ => none

/-- The rest of a string after its opening quote, the characters read so far standing reversed. -/
def stringBody : Nat → Option (List Char) → List Char → Option (Option String × List Char)
  | 0, _, _ => none
  | _ + 1, _, [] => none
  | fuel + 1, read, c :: rest =>
    if c = '"' then some (read.map fun cs => String.ofList cs.reverse, rest)
    else if c = '\\' then
      match escape rest with
      | none => none
      | some (e, more) => stringBody fuel (read.bind fun cs => e.map (· :: cs)) more
    else if c.toNat < 32 then none
    else stringBody fuel (read.map (c :: ·)) rest

/-! ## Values -/

/-- What was read, and the text after it unless something was wrong before its end. -/
abbrev Reading (β : Type) := β × Option (List Char)

def skipBlank (cs : List Char) : List Char :=
  cs.dropWhile fun c => c = ' ' || c = '\t' || c = '\n' || c = '\r'

/-- The reading of a value that may not be there. -/
def reading : Option (Value × List Char) → Reading Value
  | some (v, rest) => (v, some rest)
  | none => (.broken, none)

def keyword (word : String) (v : Value) (cs : List Char) : Option (Value × List Char) :=
  if word.toList.isPrefixOf cs then some (v, cs.drop word.length) else none

def quoted (cs : List Char) : Option (Value × List Char) :=
  (stringBody (cs.length + 1) (some []) cs).map fun (s, rest) => ((s.map Value.str).getD .unreadable, rest)

def objectOf (entries : List (Option String × Value)) : Value :=
  match entries.mapM fun (k, v) => k.map (·, v) with
  | some es => .object es
  | none => if entries.all fun (_, v) => v.isWhole then .unreadable else .broken

def keyOf (cs : List Char) : Option (Option String × List Char) :=
  match skipBlank cs with
  | '"' :: rest =>
    match stringBody (rest.length + 1) (some []) rest with
    | some (key, rest) =>
      match skipBlank rest with
      | ':' :: rest => some (key, rest)
      | _ => none
    | none => none
  | _ => none

mutual

def value : Nat → List Char → Reading Value
  | 0, _ => (.broken, none)
  | fuel + 1, cs =>
    match skipBlank cs with
    | 'n' :: rest => reading (keyword "null" .null ('n' :: rest))
    | 't' :: rest => reading (keyword "true" (.bool true) ('t' :: rest))
    | 'f' :: rest => reading (keyword "false" (.bool false) ('f' :: rest))
    | '"' :: rest => reading (quoted rest)
    | '[' :: rest =>
      match skipBlank rest with
      | ']' :: more => (.array [], some more)
      | _ => (items fuel rest).map Value.array id
    | '\x7b' :: rest =>
      match skipBlank rest with
      | '\x7d' :: more => (.object [], some more)
      | _ => (entries fuel rest).map objectOf id
    | cs => reading (number cs)

/-- The items of a list that is not empty, up to its closing bracket. -/
def items : Nat → List Char → Reading (List Value)
  | 0, _ => ([.broken], none)
  | fuel + 1, cs =>
    match value fuel cs with
    | (v, none) => ([v], none)
    | (v, some rest) =>
      match skipBlank rest with
      | ',' :: more => (items fuel more).map (v :: ·) id
      | ']' :: more => ([v], some more)
      | _ => ([v, .broken], none)

/-- The entries of an object that is not empty, up to its closing brace. -/
def entries : Nat → List Char → Reading (List (Option String × Value))
  | 0, _ => ([("", .broken)], none)
  | fuel + 1, cs =>
    match keyOf cs with
    | none => ([("", .broken)], none)
    | some (key, rest) =>
      match value fuel rest with
      | (v, none) => ([(key, v)], none)
      | (v, some rest) =>
        match skipBlank rest with
        | ',' :: more => (entries fuel more).map ((key, v) :: ·) id
        | '\x7d' :: more => ([(key, v)], some more)
        | _ => ([(key, v), ("", .broken)], none)

end

/-- The value at the start of a text as far as it can be read, and whether the whole text is right in form. -/
def readPart (text : String) : Value × Bool :=
  let cs := text.toList
  (value (2 * cs.length + 2) cs).map id fun rest => (rest.map skipBlank) = some []

def read (text : String) : Option Value :=
  match readPart text with
  | (v, true) => some v
  | (_, false) => none

/-! ## Writing -/

def hex4 (n : Nat) : String :=
  String.ofList ([n / 4096, n / 256, n / 16, n].map fun k => Nat.digitChar (k % 16))

def quoteChar (c : Char) : String :=
  if c = '"' then "\\\""
  else if c = '\\' then "\\\\"
  else if c = '\n' then "\\n"
  else if c = '\r' then "\\r"
  else if c = '\t' then "\\t"
  else if c.toNat < 32 then "\\u" ++ hex4 c.toNat
  else String.singleton c

def quote (s : String) : String := "\"" ++ String.join (s.toList.map quoteChar) ++ "\""

def write (floatText : Float → String) : Value → String
  | .null => "null"
  | .bool b => if b then "true" else "false"
  | .int n => toString n
  | .float x => floatText x
  | .str s => quote s
  | .array items =>
    "[" ++ String.intercalate "," (items.attach.map fun ⟨v, _⟩ => write floatText v) ++ "]"
  | .object entries =>
    "\x7b" ++ String.intercalate "," (entries.attach.map fun ⟨(k, v), _⟩ => quote k ++ ":" ++ write floatText v)
      ++ "\x7d"
  | .unreadable | .broken => "null"
decreasing_by
  all_goals simp_wf
  · rename_i h
    have := List.sizeOf_lt_of_mem h
    omega
  · rename_i h
    have := List.sizeOf_lt_of_mem h
    simp at this
    omega

end Sidelink.Json
