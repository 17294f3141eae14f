import Sidelink.Data.Toml.Reader

/-!
# Quoted texts and keys
-/

namespace Sidelink.Toml.Reader

/-- A pair of quotes, and whether a backslash between them is special. -/
structure Quotes where
  mark : Char
  escapes : Bool

def Quotes.basic : Quotes := ⟨'\x22', true⟩

def Quotes.literal : Quotes := ⟨'\x27', false⟩

/-- Three marks, which open and close a text of several lines. -/
def Quotes.fence (q : Quotes) : String := String.ofList [q.mark, q.mark, q.mark]

/-- A character by its code, in a fixed number of hexadecimal digits. -/
def unicode (n : Nat) : Reader Char := do
  let cs ← get
  let ds := cs.take n
  let code := Digit.number 16 ds
  if ds.length = n ∧ ds.all (Digit.isIn 16) ∧ code.isValidChar then
    set (cs.drop n)
    return Char.ofNat code
  else failure

def escape : Reader Char := do
  match ← next with
  | 'b' => return '\x08'
  | 't' => return '\t'
  | 'n' => return '\n'
  | 'f' => return '\x0c'
  | 'r' => return '\r'
  | '\x22' => return '\x22'
  | '\\' => return '\\'
  | 'u' => unicode 4
  | 'U' => unicode 8
  | _ => failure

/-- A text of one line after its opening mark, the characters read so far standing reversed. -/
def restOfLine (q : Quotes) : Nat → List Char → Reader String
  | 0, _ => failure
  | fuel + 1, read => do
    let c ← next
    if c = q.mark then return String.ofList read.reverse
    else if q.escapes && c = '\\' then restOfLine q fuel ((← escape) :: read)
    else if isPrintable c then restOfLine q fuel (c :: read)
    else failure

/-- Line ends and blanks that a backslash at the end of a line swallows. -/
def swallow : Nat → Reader Unit
  | 0 => failure
  | fuel + 1 => do
    blanks
    if ← newline? then swallow fuel

/-- A text of several lines after its opening marks. Up to two marks may stand before the three that close it. -/
def restOfBlock (q : Quotes) : Nat → List Char → Reader String
  | 0, _ => failure
  | fuel + 1, read => do
    let marks ← run (· = q.mark)
    if 5 < marks.length then failure
    else if 3 ≤ marks.length then return String.ofList (marks.drop 3 ++ read).reverse
    else
      let read := marks ++ read
      if ← newline? then restOfBlock q fuel ('\n' :: read)
      else
        let c ← next
        if q.escapes && c = '\\' then
          if ← lineGoesOn then
            swallow (← Reader.fuel)
            restOfBlock q fuel read
          else restOfBlock q fuel ((← escape) :: read)
        else if isPrintable c then restOfBlock q fuel (c :: read)
        else failure
where
  /-- Whether only blanks are left on the line. -/
  lineGoesOn : Reader Bool := do
    let rest := (← get).dropWhile isBlank
    return rest.head? = some '\n' || rest.take 2 = ['\r', '\n']

def quotedBy (q : Quotes) : Reader String := do
  expect (String.singleton q.mark)
  restOfLine q (← fuel) []

/-- A quoted value. A line end right after three marks does not belong to it. -/
def textBy (q : Quotes) : Reader String := do
  if ← accept q.fence then
    discard newline?
    restOfBlock q (← fuel) []
  else quotedBy q

/-! ## Keys -/

def isBare (c : Char) : Bool :=
  Digit.isDecimal c || ('a' ≤ c && c ≤ 'z') || ('A' ≤ c && c ≤ 'Z') || c = '_' || c = '-'

def keyPart : Reader String := do
  match (← get).head? with
  | some '\x22' => quotedBy .basic
  | some '\x27' => quotedBy .literal
  | _ =>
    let cs ← run isBare
    if cs.isEmpty then failure else return String.ofList cs

/-- Fewer parts than these make up a key. -/
def keyLimit : Nat := 80

def keyWithin : Nat → Reader (List String)
  | 0 => failure
  | limit + 1 => do
    blanks
    let part ← keyPart
    blanks
    if ← accept "." then return part :: (← keyWithin limit) else return [part]

def key : Reader (List String) := keyWithin (keyLimit - 1)

end Sidelink.Toml.Reader
