/-!
# Structured values

What a configuration or scene text holds once its notation is read. Integers and floats stay apart, and an
object keeps its entries as written, so that a repeated key can be refused where a record is expected.
-/

namespace Sidelink

inductive Value where
  | null
  | bool (b : Bool)
  | int (n : Int)
  | float (x : Float)
  | str (s : String)
  | array (items : List Value)
  | object (entries : List (String × Value))
  /-- Right in form, but it stands for no value. It can be skipped and not read. -/
  | unreadable
  /-- The place where a text went wrong. It can be neither skipped nor read. -/
  | broken

/-- The notation a value was written in. They differ in what else may stand for a record or a choice. -/
inductive Notation where
  | json
  | toml
deriving DecidableEq

/-- Why a value does not fit. -/
inductive Refusal where
  /-- The wrong kind of value, a missing or repeated entry, a number out of range. -/
  | shape
  /-- A text that its own rule refuses, with the wording of that rule. -/
  | rule (message : String)
deriving DecidableEq

namespace Value

/-- Containers around the innermost value, itself included. -/
def depth : Value → Nat
  | .array items => 1 + ((items.attach.map fun ⟨v, _⟩ => depth v).foldl max 0)
  | .object entries => 1 + ((entries.attach.map fun ⟨(_, v), _⟩ => depth v).foldl max 0)
  | _ => 0
decreasing_by
  all_goals simp_wf
  · rename_i h
    have := List.sizeOf_lt_of_mem h
    omega
  · rename_i h
    have := List.sizeOf_lt_of_mem h
    simp at this
    omega

/-- Whether a test holds of every part that is no container. -/
def all (p : Value → Bool) : Value → Bool
  | .array items => items.attach.all fun ⟨v, _⟩ => all p v
  | .object entries => entries.attach.all fun ⟨(_, v), _⟩ => all p v
  | v => p v
decreasing_by
  all_goals simp_wf
  · rename_i h
    have := List.sizeOf_lt_of_mem h
    omega
  · rename_i h
    have := List.sizeOf_lt_of_mem h
    simp at this
    omega

def readable (v : Value) : Bool :=
  v.all fun
    | .unreadable | .broken => false
    | _ => true

def isWhole (v : Value) : Bool :=
  v.all fun
    | .broken => false
    | _ => true

/-! ## Plain values -/

def asBool : Value → Except Refusal Bool
  | .bool b => .ok b
  | _ => .error .shape

def asString : Value → Except Refusal String
  | .str s => .ok s
  | _ => .error .shape

/-- A float may be written as an integer. -/
def asFloat : Value → Except Refusal Float
  | .float x => .ok x
  | .int n => .ok (Float.ofInt n)
  | _ => .error .shape

/-- An integer from `low` up to and without `high`. A number with a fraction or an exponent is refused. -/
def asIntIn (low high : Int) : Value → Except Refusal Int
  | .int n => if low ≤ n ∧ n < high then .ok n else .error .shape
  | _ => .error .shape

/-- A count of at most `bits` bits. -/
def asWord (bits : Nat) (v : Value) : Except Refusal Nat :=
  (asIntIn 0 (1 <<< bits : Nat) v).map Int.toNat

def asList {β : Type} (item : Value → Except Refusal β) : Value → Except Refusal (List β)
  | .array items => items.mapM item
  | _ => .error .shape

def asOption {β : Type} (item : Value → Except Refusal β) : Value → Except Refusal (Option β)
  | .null => .ok none
  | v => (item v).map some

/-- One of some named choices. It may also stand as the only key over an empty value. -/
def asChoice {β : Type} (form : Notation) (choices : List (String × β)) (v : Value) : Except Refusal β :=
  let name : Except Refusal String :=
    match form, v with
    | _, .str s => .ok s
    | .json, .object [(s, .null)] => .ok s
    | .toml, .object [(s, .object [])] => .ok s
    | .toml, .object [(s, .array [])] => .ok s
    | _, _ => .error .shape
  name.bind fun s =>
    match choices.lookup s with
    | some c => .ok c
    | none => .error .shape

end Value

/-! ## Records -/

/-- A named entry of a record and how its value is read. -/
structure Field (β : Type) where
  name : String
  read : Value → Except Refusal β

namespace Field

variable {β : Type}

def check (f : Field β) : String × (Value → Except Refusal Unit) :=
  (f.name, fun v => (f.read v).map fun _ => ())

end Field

/-- The entries of a record that are known, at most one of each name. -/
structure Record where
  entries : List (String × Value)

namespace Record

/-- The known entries, tested in the order in which they are written. The first fault counts. -/
def collect (fields : List (String × (Value → Except Refusal Unit))) :
    List (String × Value) → List (String × Value) → Except Refusal Record
  | seen, [] => .ok ⟨seen⟩
  | seen, (name, v) :: rest =>
    match fields.lookup name with
    | none => if v.isWhole then collect fields seen rest else .error .shape
    | some test =>
      if (seen.lookup name).isSome then .error .shape
      else
        match test v with
        | .error e => .error e
        | .ok () => collect fields ((name, v) :: seen) rest

/-- A record is an object with named entries or a list of its values in field order. -/
def ofValue (form : Notation) (fields : List (String × (Value → Except Refusal Unit))) :
    Value → Except Refusal Record
  | .object entries => collect fields [] entries
  | .array items =>
    match collect fields [] ((fields.map Prod.fst).zip items) with
    | .error e => .error e
    | .ok r => if form = .json ∧ fields.length < items.length then .error .shape else .ok r
  | _ => .error .shape

variable {β : Type}

def get (r : Record) (f : Field β) : Except Refusal β :=
  match r.entries.lookup f.name with
  | some v => f.read v
  | none => .error .shape

def getD (r : Record) (f : Field β) (default : β) : Except Refusal β :=
  match r.entries.lookup f.name with
  | some v => f.read v
  | none => .ok default

end Record

end Sidelink
