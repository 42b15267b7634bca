import RecordCache.Settings.Basic
import RecordCache.Text.Blank
import RecordCache.Text.Number
/-! Overrides. A key such as `OXIWINDOW__pool__capacity` names one setting, in any case of the ASCII
letters after the first part; its value is a text. The environment gives overrides in its order. -/
namespace RecordCache

inductive SettingPath where
  | storeName
  | bytesPerRecord
  | targetBytesPerPage
  | capacity
  | reportInterval
  | protectedFraction
  | longTermFraction
  | mapperKind
  | mapperPath
  deriving DecidableEq, Repr

inductive SettingKind where
  | text
  /-- A whole number of so many bits. -/
  | whole (bits : Nat)
  | fraction
  deriving DecidableEq, Repr

namespace SettingKind

def Value : SettingKind → Type
  | text => String
  | whole _ => Nat
  | fraction => Float

def read? : (kind : SettingKind) → String → Option kind.Value
  | text, s => some s
  | whole bits, s => readBelow? (twoTo bits) s
  | fraction, s => readFloat? s

end SettingKind

/-- The parts of a text between double underscores. Of three in a row the first two divide. -/
def dividedParts : List Char → List (List Char)
  | [] => [[]]
  | '_' :: '_' :: cs => [] :: dividedParts cs
  | c :: cs => (dividedParts cs).modifyHead (c :: ·)

namespace SettingPath

def all : List SettingPath :=
  [storeName, bytesPerRecord, targetBytesPerPage, capacity, reportInterval, protectedFraction,
   longTermFraction, mapperKind, mapperPath]

def kind : SettingPath → SettingKind
  | storeName | mapperKind | mapperPath => .text
  | bytesPerRecord | targetBytesPerPage => .whole 32
  | capacity | reportInterval => .whole 64
  | protectedFraction | longTermFraction => .fraction

def sectionName : SettingPath → String
  | mapperKind | mapperPath => "mapper"
  | _ => "pool"

def fieldName : SettingPath → String
  | storeName => "store_name"
  | bytesPerRecord => "bytes_per_record"
  | targetBytesPerPage => "target_bytes_per_page"
  | capacity => "capacity"
  | reportInterval => "report_interval"
  | protectedFraction => "protected_fraction"
  | longTermFraction => "long_term_fraction"
  | mapperKind => "kind"
  | mapperPath => "path"

def ofParts? : List (List Char) → Option SettingPath
  | [sectionPart, fieldPart] => all.find? fun path =>
    path.sectionName.toList = sectionPart ∧ path.fieldName.toList = fieldPart
  | _ => none

def keyStart : String := "OXIWINDOW__"

def isKey (key : String) : Bool := keyStart.toList.isPrefixOf key.toList

def ofKey? (key : String) : Option SettingPath :=
  match keyStart.toList.isPrefixOf? key.toList with
  | some rest => ofParts? (dividedParts (rest.map Char.toLower))
  | none => none

end SettingPath

namespace Settings

def setPool (s : Settings) (f : PoolSettings → PoolSettings) : Settings :=
  { s with pool? := some (f (s.pool?.getD {})) }

def setMapper (s : Settings) (f : MapperSettings → MapperSettings) : Settings :=
  { s with mapper? := some (f (s.mapper?.getD {})) }

/-- Sets one setting. A section that is missing is made for it. -/
def put (s : Settings) : (path : SettingPath) → path.kind.Value → Settings
  | .storeName, v => s.setPool ({ · with storeName? := some v })
  | .bytesPerRecord, v => s.setPool ({ · with bytesPerRecord? := some v })
  | .targetBytesPerPage, v => s.setPool ({ · with targetBytesPerPage? := some v })
  | .capacity, v => s.setPool ({ · with capacity? := some v })
  | .reportInterval, v => s.setPool ({ · with reportInterval? := some v })
  | .protectedFraction, v => s.setPool ({ · with protectedFraction? := some v })
  | .longTermFraction, v => s.setPool ({ · with longTermFraction? := some v })
  | .mapperKind, v => s.setMapper ({ · with kind? := some v })
  | .mapperPath, v => s.setMapper ({ · with path? := some v })

/-- What becomes of the settings under an override, and why it is refused, if it is. The value is
read before the settings are touched. -/
def override (s : Settings) (key value : String) : Option SettingsError × Settings :=
  match SettingPath.ofKey? key with
  | none => (some (.unknownKey key), s)
  | some path =>
    match path.kind.read? value with
    | none => (some (.invalidValue key value), s)
    | some v => (none, s.put path v)

def applyOverride (s : Settings) (key value : String) : Except SettingsError Settings :=
  match s.override key value with
  | (some e, _) => .error e
  | (none, s) => .ok s

end Settings

abbrev Environment := List (String × String)

namespace Environment

/-- Sets a variable: in its place if it is there, else at the end. -/
def set (e : Environment) (name value : String) : Environment :=
  if (e.lookup name).isSome then e.map fun (n, v) => if n = name then (n, value) else (n, v)
  else e ++ [(name, value)]

def ofList (vars : List (String × String)) : Environment :=
  vars.foldl (fun e (name, value) => e.set name value) []

end Environment

namespace Settings

/-- Applies the overrides of an environment in order, each value without the blanks at its ends. It
stops at the first that fails, and what was applied before stays. -/
def applyEnvironment (s : Settings) : Environment → Option SettingsError × Settings
  | [] => (none, s)
  | (name, value) :: rest =>
    if SettingPath.isKey name then
      match s.override name (trimBlanks value) with
      | (some e, s) => (some e, s)
      | (none, s) => s.applyEnvironment rest
    else s.applyEnvironment rest

end Settings

end RecordCache
