import RecordCache.Pool.Basic
import RecordCache.Settings.Override
import RecordCache.Settings.Schema
/-! Settings files and the stores that settings name. `Files` stands in for the file system, so that
opening a pool from a file can be run; no theorem reaches it. -/
namespace RecordCache

abbrev Files := List (String × List UInt8)

namespace Files

def hasDirectory (files : Files) (directory : List String) : Bool :=
  directory.isEmpty || files.any fun (path, _) =>
    directory.isPrefixOf (pathComponents path) && directory.length < (pathComponents path).length

def file? (files : Files) (components : List String) : Option (List UInt8) :=
  (files.find? fun (path, _) => pathComponents path == components).map (·.2)

inductive Target where
  | file (bytes : List UInt8)
  | directory

def componentLimit : Nat := 255

def pathLimit : Nat := 4095

/-- Follows a path from a directory; `none` stands for the places outside the working directory,
where there is nothing to be found. -/
def follow (files : Files) : List String → Option (List String) → Except IoError Target
  | [], _ => .ok .directory
  | step :: rest, place =>
    if step = "" ∨ step = "." then files.follow rest place
    else if step = ".." then
      files.follow rest (match place with
        | some (d :: ds) => some (d :: ds).dropLast
        | _ => none)
    else if componentLimit < step.utf8ByteSize then .error .nameTooLong
    else
      match place with
      | none => .error .noSuchFile
      | some directory =>
        let reached := directory ++ [step]
        match files.file? reached with
        | some bytes => if rest.isEmpty then .ok (.file bytes) else .error .notADirectory
        | none =>
          if files.hasDirectory reached then files.follow rest (some reached)
          else .error .noSuchFile

def target (files : Files) (path : String) : Except IoError Target :=
  if path.contains '\x00' then .error .nulInPath
  else if path.isEmpty then .error .noSuchFile
  else if pathLimit < path.utf8ByteSize then .error .nameTooLong
  else
    files.follow (path.splitOn "/") (if path.startsWith "/" then none else some [])

def read (files : Files) (path : String) : Except IoError String := do
  match ← files.target path with
  | .directory => throw .isADirectory
  | .file bytes =>
    match String.fromUTF8? ⟨bytes.toArray⟩ with
    | some text => return text
    | none => throw .invalidUtf8

def openStore (files : Files) (choice : MapperChoice) : Except IoError Store := do
  let backing := Backing.file choice.kind choice.path
  match ← files.target choice.path with
  | .directory => return { backing, bytes := [] }
  | .file bytes => return { backing, bytes }

end Files

namespace Settings

def load (files : Files) (path : String) : Except SettingsError Settings := do
  match files.read path with
  | .error e => throw (.io e)
  | .ok text => ofDocument text

def fileVariable : String := "OXIWINDOW_CONFIG"

def loadEnvironment (files : Files) (environment : Environment) :
    Except SettingsError Settings := do
  let base ← match environment.lookup fileVariable with
    | some path => load files path
    | none => pure {}
  match base.applyEnvironment environment with
  | (some e, _) => throw e
  | (none, s) => return s

def openStore (s : Settings) (files : Files) : Except SettingsError (Option Store) := do
  match ← s.mapperChoice with
  | none => return none
  | some choice =>
    match files.openStore choice with
    | .error e => throw (.io e)
    | .ok store => return some store

def openPool (s : Settings) (files : Files) : Except Fault (Except SettingsError Pool) :=
  match s.openStore files with
  | .error e => .ok (.error e)
  | .ok none => .ok (.error (.missingField "mapper.path"))
  | .ok (some store) => do
    match ← Pool.ofSource s.poolConfig { store } with
    | .error e => return .error (.pool e)
    | .ok pool => return .ok pool

end Settings

end RecordCache
