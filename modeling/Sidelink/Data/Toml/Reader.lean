import Sidelink.Data.Digit

/-!
# Reading from the front of a text

A reader takes a value off the front of a text, or refuses the text.
-/

namespace Sidelink.Toml

abbrev Reader := StateT (List Char) Option

namespace Reader

def next : Reader Char := do
  match ← get with
  | c :: rest =>
    set rest
    return c
  | [] => failure

def run (p : Char → Bool) : Reader (List Char) := do
  let cs ← get
  set (cs.dropWhile p)
  return cs.takeWhile p

/-- Whether the text goes on with a word. If so, it is taken. -/
def accept (word : String) : Reader Bool := do
  let cs ← get
  if word.toList.isPrefixOf cs then
    set (cs.drop word.length)
    return true
  else return false

def expect (word : String) : Reader Unit := do
  unless ← accept word do failure

/-- Whether the text goes on with characters of these classes. Nothing is taken. -/
def looksLike (classes : List (Char → Bool)) : Reader Bool := do
  let cs ← get
  return classes.length ≤ cs.length && (classes.zip cs).all fun (p, c) => p c

/-- More steps than there are characters left. -/
def fuel : Reader Nat := return (← get).length + 1

def digits (n : Nat) : Reader Nat := do
  let cs ← get
  let ds := cs.take n
  if ds.length = n ∧ ds.all Digit.isDecimal then
    set (cs.drop n)
    return Digit.number 10 ds
  else failure

/-! ## Blanks and comments -/

def isBlank (c : Char) : Bool := c = ' ' || c = '\t'

/-- What may stand in a comment or a quoted line: all but control characters, of which only the tab. -/
def isPrintable (c : Char) : Bool := c = '\t' || (32 ≤ c.toNat && c.toNat ≠ 127)

def blanks : Reader Unit := discard (run isBlank)

/-- A line feed, with a carriage return before it or not. -/
def newline? : Reader Bool := do
  if ← accept "\n" then return true
  accept "\r\n"

def newline : Reader Unit := do
  unless ← newline? do failure

def comment : Reader Unit := do
  if ← accept "#" then discard (run isPrintable)

def lineEnd : Reader Unit := do
  blanks
  comment
  unless (← get).isEmpty do newline

/-- Blanks, comments and line ends between the parts of a list. -/
def gapWithin : Nat → Reader Unit
  | 0 => failure
  | fuel + 1 => do
    blanks
    comment
    if ← newline? then gapWithin fuel

def gap : Reader Unit := do gapWithin (← fuel)

end Reader

end Sidelink.Toml
