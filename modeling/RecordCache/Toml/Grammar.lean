import RecordCache.Toml.Scalar
import RecordCache.Toml.Text
/-! Keys and values of TOML. Arrays and tables in braces may be nested less than eighty deep, and a
key may have less than eighty parts. Part of the stand-in for the external reader of documents,
which no theorem reaches. -/
namespace RecordCache.Toml

def nestingLimit : Nat := 80

/-- One or more items with a separator between them. A separator that no item follows is left in the
text. Each item takes at least one character. -/
def separated? {α : Type} (item : Reader α) (separator : Char) (cs : List Char) :
    Option (List α × List Char) :=
  match item cs with
  | none => none
  | some (a, r) =>
    match r with
    | c :: r' =>
      if c = separator ∧ r'.length < cs.length then
        match separated? item separator r' with
        | some (as, r) => some (a :: as, r)
        | none => some ([a], c :: r')
      else some ([a], c :: r')
    | [] => some ([a], [])
termination_by cs.length

def keyPart? : Reader String := fun cs => do
  let (part, r) ← simpleKey? (skipSpaces cs)
  return (part, skipSpaces r)

def key? : Reader (List String × String) := fun cs => do
  let (parts, r) ← separated? keyPart? '.' cs
  if nestingLimit ≤ parts.length then none
  else return ((parts.dropLast, ← parts.getLast?), r)

def binding? (value : Reader Value) : Reader ((List String × String) × Value) := fun cs => do
  let (key, r) ← key? cs
  let r ← skip? '=' r
  let (v, r) ← value (skipSpaces r)
  return ((key, v), r)

def arrayItem? (value : Reader Value) : Reader Value := fun cs => do
  let (v, r) ← value (skipLines false cs)
  return (v, skipLines false r)

def arrayRest? (value : Reader Value) : Reader Value := fun cs => do
  let (items, r) := (separated? (arrayItem? value) ',' cs).getD ([], cs)
  let r := if items.isEmpty then r else (skip? ',' r).getD r
  return (.array items, ← skip? ']' (skipLines false r))

def insertAll? : List ((List String × String) × Value) → Entries → Option Entries
  | [], es => some es
  | ((path, key), v) :: rest, es => do insertAll? rest (← insertDotted? .inline v key path es)

def inlineRest? (value : Reader Value) : Reader Value := fun cs => do
  let item : Reader ((List String × String) × Value) := fun cs =>
    (binding? value cs).map fun (b, r) => (b, skipSpaces r)
  let (bindings, r) := (separated? item ',' cs).getD ([], cs)
  let r ← skip? '}' (skipSpaces r)
  return (.table .inline (← insertAll? bindings []), r)

/-- A value inside which arrays and tables may be nested `depth` deep. -/
def valueWithin? : Nat → Reader Value
  | depth, cs =>
    match cs with
    | [] => none
    | c :: r =>
      if c = '"' ∨ c = '\'' then (string? cs).map fun (s, r) => (.text s, r)
      else if c = '[' ∨ c = '\x7b' then
        match depth with
        | 0 => none
        | depth + 1 =>
          if c = '[' then arrayRest? (valueWithin? depth) r else inlineRest? (valueWithin? depth) r
      else if c = '+' ∨ c = '-' ∨ c.isDigit then numberOrDate? cs
      else word? cs

def value? : Reader Value := valueWithin? (nestingLimit - 1)

end RecordCache.Toml
