import RecordCache.Decimal.Render
import RecordCache.Settings.Basic
import RecordCache.Toml.Document
/-! Settings from a TOML document. The sections are tables, or arrays of their fields in order. The
first entry that does not fit gives the error. -/
namespace RecordCache

open Toml

abbrev Decoded := Except SchemaError

def describe : Value → String
  | .text s => "string " ++ quoted s
  | .integer n => "integer " ++ SchemaError.backquoted (toString n)
  | .float x =>
    "floating point " ++ SchemaError.backquoted (shortestText .positional x)
  | .boolean b => "boolean " ++ SchemaError.backquoted (toString b)
  | .array _ | .tables _ => "sequence"
  | .table .. | .dateTime => "map"

def decodeText (expected : String) : Value → Decoded String
  | .text s => .ok s
  | v => .error (.invalidType (describe v) expected)

def decodeBelow (bound : Nat) (expected : String) : Value → Decoded Nat
  | .integer n =>
    if 0 ≤ n ∧ n < bound then .ok n.toNat
    else .error (.invalidValue (describe (.integer n)) expected)
  | v => .error (.invalidType (describe v) expected)

def decodeFloat : Value → Decoded Float
  | .float x => .ok x
  | .integer n => .ok (Float.ofInt n)
  | v => .error (.invalidType (describe v) "f64")

abbrev Field (σ : Type) := String × (Value → σ → Decoded σ)

namespace PoolSettings

def fields : List (Field PoolSettings) :=
  [("store_name", fun v s => return { s with storeName? := ← decodeText "a string" v }),
   ("bytes_per_record", fun v s =>
     return { s with bytesPerRecord? := ← decodeBelow (twoTo 32) "u32" v }),
   ("target_bytes_per_page", fun v s =>
     return { s with targetBytesPerPage? := ← decodeBelow (twoTo 32) "u32" v }),
   ("capacity", fun v s => return { s with capacity? := ← decodeBelow (twoTo 64) "usize" v }),
   ("report_interval", fun v s =>
     return { s with reportInterval? := ← decodeBelow (twoTo 64) "u64" v }),
   ("protected_fraction", fun v s => return { s with protectedFraction? := ← decodeFloat v }),
   ("long_term_fraction", fun v s => return { s with longTermFraction? := ← decodeFloat v })]

end PoolSettings

namespace MapperSettings

def fields : List (Field MapperSettings) :=
  [("kind", fun v s => return { s with kind? := ← decodeText "a string" v }),
   ("path", fun v s => return { s with path? := ← decodeText "path string" v })]

end MapperSettings

section

variable {σ : Type}

def decodeEntries (fields : List (Field σ)) : Entries → σ → Decoded σ
  | [], s => .ok s
  | (key, v) :: rest, s =>
    match fields.lookup key with
    | none => .error (.unknownField key (fields.map (·.1)))
    | some decode => do decodeEntries fields rest (← decode v s)

def decodeItems : List (Field σ) → List Value → σ → Decoded σ
  | [], _, s => .ok s
  | _ :: _, [], _ => .error .malformed
  | (_, decode) :: fields, v :: rest, s => do decodeItems fields rest (← decode v s)

/-- A section. A date counts as a table of its own kind, whose only entry is no field. -/
def decodeSection (fields : List (Field σ)) (expected : String) (start : σ) : Value → Decoded σ
  | .table _ entries => decodeEntries fields entries start
  | .array items | .tables items => decodeItems fields items start
  | .dateTime => .error (.unknownField "$__toml_private_datetime" (fields.map (·.1)))
  | v => .error (.invalidType (describe v) expected)

end

namespace Settings

def fields : List (Field Settings) :=
  [("pool", fun v s =>
     return { s with pool? := ← decodeSection PoolSettings.fields "struct PoolConfigSpec" {} v }),
   ("mapper", fun v s =>
     return { s with
       mapper? := ← decodeSection MapperSettings.fields "struct MapperConfigSpec" {} v })]

def ofDocument (text : String) : Except SettingsError Settings :=
  match document? text with
  | none => .error (.document .malformed)
  | some entries =>
    match decodeEntries fields entries {} with
    | .ok s => .ok s
    | .error e => .error (.document e)

end Settings

end RecordCache
