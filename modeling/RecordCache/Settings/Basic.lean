import RecordCache.Pool.Config
import RecordCache.Store.Basic
/-! Settings: the parts of a pool's configuration that were given, each of which may be missing. -/
namespace RecordCache

structure PoolSettings where
  storeName? : Option String := none
  bytesPerRecord? : Option Nat := none
  targetBytesPerPage? : Option Nat := none
  capacity? : Option Nat := none
  reportInterval? : Option Nat := none
  protectedFraction? : Option Float := none
  longTermFraction? : Option Float := none

structure MapperSettings where
  kind? : Option String := none
  /-- A path is a text: only paths in Unicode are covered. -/
  path? : Option String := none
  deriving DecidableEq, Repr

structure Settings where
  pool? : Option PoolSettings := none
  mapper? : Option MapperSettings := none

inductive SchemaError where
  | unknownField (name : String) (expected : List String)
  | invalidType (found expected : String)
  | invalidValue (found expected : String)
  /-- The text is no document, or a section given by its fields in order lacks some of them. -/
  | malformed
  deriving DecidableEq, Repr

namespace SchemaError

def backquoted (s : String) : String := "`" ++ s ++ "`"

def choice (names : List String) : String :=
  match names.map backquoted with
  | [a, b] => a ++ " or " ++ b
  | names => "one of " ++ ", ".intercalate names

def message? : SchemaError → Option String
  | unknownField name expected =>
    some ("unknown field " ++ backquoted name ++ ", expected " ++ choice expected)
  | invalidType found expected => some ("invalid type: " ++ found ++ ", expected " ++ expected)
  | invalidValue found expected => some ("invalid value: " ++ found ++ ", expected " ++ expected)
  | malformed => none

end SchemaError

inductive SettingsError where
  | io (cause : IoError)
  | document (cause : SchemaError)
  | invalidValue (key value : String)
  | unknownKey (key : String)
  | missingField (key : String)
  | pool (cause : PoolError)
  deriving DecidableEq, Repr

def SettingsError.message : SettingsError → String
  | io cause => "io error: " ++ cause.message
  | document cause => cause.message?.getD "malformed document"
  | invalidValue key value => "invalid value for " ++ key ++ ": " ++ value
  | unknownKey key => "unknown config key: " ++ key
  | missingField key => "missing required field: " ++ key
  | pool cause => "invalid pool configuration: " ++ cause.message

structure MapperChoice where
  kind : MapperKind
  path : String
  deriving DecidableEq, Repr

namespace PoolSettings

def applyTo (s : PoolSettings) (c : PoolConfig) : PoolConfig :=
  { c with
    storeName := s.storeName?.getD c.storeName
    bytesPerRecord := s.bytesPerRecord?.getD c.bytesPerRecord
    targetBytesPerPage := s.targetBytesPerPage?.getD c.targetBytesPerPage
    capacity := s.capacity?.getD c.capacity
    reportInterval := s.reportInterval?.getD c.reportInterval
    protectedFraction := (s.protectedFraction?.map clampUnit).getD c.protectedFraction
    longTermFraction := (s.longTermFraction?.map clampUnit).getD c.longTermFraction }

end PoolSettings

def MapperSettings.resolve (s : MapperSettings) : Except SettingsError MapperChoice := do
  let kind ← match s.kind? with
    | none => pure default
    | some text => match MapperKind.ofText text with
      | .ok kind => pure kind
      | .error lower => throw (.invalidValue "mapper.kind" lower)
  match s.path? with
  | some path => return { kind, path }
  | none => throw (.missingField "mapper.path")

namespace Settings

/-- The configuration of the pool. Without a store name, the path of the store names it. -/
def poolConfig (s : Settings) : PoolConfig :=
  let base : PoolConfig := {}
  let named := match s.mapper?.bind (·.path?) with
    | some path => { base with storeName := path }
    | none => base
  match s.pool? with
  | some pool => pool.applyTo named
  | none => named

def mapperChoice (s : Settings) : Except SettingsError (Option MapperChoice) :=
  match s.mapper? with
  | some mapper => mapper.resolve.map some
  | none => .ok none

end Settings

end RecordCache
