import Sidelink.Data.Toml.Number
import Sidelink.Data.Toml.Table
import Sidelink.Data.Toml.Text

/-!
# TOML

A document is read line by line, and its lines together make one object.
-/

namespace Sidelink.Toml

namespace Reader

/-- Items up to a closing bracket with commas between them, and one after the last if that is allowed. -/
def listed {β : Type} (item : Reader β) (between : Reader Unit) (close : String) (spareComma : Bool) :
    Bool → Nat → Reader (List β)
  | _, 0 => failure
  | mayEnd, fuel + 1 => do
    between
    if mayEnd then
      if ← accept close then return []
    let x ← item
    between
    if ← accept "," then return x :: (← listed item between close spareComma spareComma fuel)
    expect close
    return [x]

def keyed (value : Reader Value) : Reader (List String × Value) := do
  let path ← key
  expect "="
  blanks
  return (path, ← value)

/-- A value with at most so many brackets and braces around its innermost part. -/
def value : Nat → Reader Value
  | 0 => failure
  | depth + 1 => do
    match (← get).head? with
    | some '\x22' => return .str (← textBy .basic)
    | some '\x27' => return .str (← textBy .literal)
    | some '[' =>
      discard next
      return .array (← listed (value depth) gap "]" true true (← fuel))
    | some '\x7b' =>
      discard next
      match Node.ofEntries (← listed (keyed (value depth)) blanks "\x7d" false true (← fuel)) with
      | some v => return v
      | none => failure
    | some 't' =>
      expect "true"
      return .bool true
    | some 'f' =>
      expect "false"
      return .bool false
    | _ => numberOrMoment

/-- One more than the brackets and braces that may stand around a value. -/
def depthLimit : Nat := 80

/-- A header after its first bracket. -/
def header : Reader Line := do
  if ← accept "[" then
    let path ← key
    expect "]]"
    return .row path
  else
    let path ← key
    expect "]"
    return .header path

/-- A line. Blank ones and comments say nothing. -/
def line : Reader (Option Line) := do
  blanks
  match (← get).head? with
  | none | some '#' | some '\n' | some '\r' =>
    lineEnd
    return none
  | some '[' =>
    discard next
    let l ← header
    lineEnd
    return some l
  | _ =>
    let (path, v) ← keyed (value depthLimit)
    lineEnd
    return some (.entry path v)

def linesWithin : Nat → Reader (List Line)
  | 0 => failure
  | fuel + 1 => do
    if (← get).isEmpty then return []
    let l ← line
    return l.toList ++ (← linesWithin fuel)

/-- A document. A mark of byte order may stand at its start. -/
def document : Reader (List Line) := do
  discard (accept "\ufeff")
  linesWithin (← fuel)

end Reader

def read (text : String) : Option Value := do
  let (lines, _) ← Reader.document text.toList
  Line.toValue? lines

end Sidelink.Toml
