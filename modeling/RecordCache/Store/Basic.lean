import RecordCache.IoError
import RecordCache.Power
import RecordCache.Window
/-! Record stores and the ways to make a window of one: from memory, by mapping a file, and by
reading a file at an offset. -/
namespace RecordCache

inductive MapperKind where
  | mmap
  | read
  deriving DecidableEq, Repr

namespace MapperKind

instance : Inhabited MapperKind := ⟨mmap⟩

def name : MapperKind → String
  | mmap => "mmap"
  | read => "read"

def ofText (s : String) : Except String MapperKind :=
  match s.map Char.toLower with
  | "mmap" => .ok mmap
  | "read" => .ok read
  | other => .error other

end MapperKind

inductive Backing where
  | memory
  | file (kind : MapperKind) (path : String)
  deriving DecidableEq, Repr

structure Store where
  backing : Backing
  bytes : List UInt8
  deriving DecidableEq, Repr

inductive Serving where
  | interrupted
  /-- With at most `spare + 1` of the bytes asked for. -/
  | upTo (spare : Nat)
  deriving DecidableEq, Repr

structure WindowRequest where
  firstRecord : Nat
  recordsPerPage : Nat
  bytesPerRecord : Nat
  deriving DecidableEq, Repr

namespace WindowRequest

def offset (r : WindowRequest) : Nat := r.firstRecord * r.bytesPerRecord

def span (r : WindowRequest) : Nat := r.recordsPerPage * r.bytesPerRecord

def window (r : WindowRequest) (mapped : Bool) (bytes : List UInt8) : Window :=
  { firstRecord := r.firstRecord, recordsPerPage := r.recordsPerPage,
    bytesPerRecord := r.bytesPerRecord, mapped, bytes }

def unaddressable (r : WindowRequest) : IoError :=
  ⟨.invalidInput, s!"record {r.firstRecord} is beyond the addressable file range"⟩

/-- The offset of a window and its length, clamped to the bytes present. An offset that takes more
than 64 bits is an error. -/
def range (r : WindowRequest) (fileLength : Nat) : Except IoError (Nat × Nat) :=
  if r.offset < twoTo 64 then .ok (r.offset, min (fileLength - r.offset) r.span)
  else .error r.unaddressable

end WindowRequest

namespace Store

def size (s : Store) : Nat := s.bytes.length

def append (s : Store) (bytes : List UInt8) : Store := { s with bytes := s.bytes ++ bytes }

def slice (s : Store) (offset length : Nat) : List UInt8 := (s.bytes.drop offset).take length

/-- Reads on behind the bytes `read` until there are `length` of them or the store ends. Each read
is served as `servings` says, and in full when they are used up. -/
def fill (s : Store) (offset length : Nat) : List Serving → List UInt8 → List UInt8
  | [], read => read ++ s.slice (offset + read.length) (length - read.length)
  | serving :: servings, read =>
    if length ≤ read.length then read
    else match serving with
      | .interrupted => s.fill offset length servings read
      | .upTo spare =>
        let served := s.slice (offset + read.length) (min (spare + 1) (length - read.length))
        if served.isEmpty then read else s.fill offset length servings (read ++ served)

/-- Makes a window. A store in memory is cut by its offset, which must not lie beyond its end; an
empty map is replaced by no bytes; a read begins with a seek, and offsets of 63 bits are the last it
can reach. -/
def windowServed (s : Store) (servings : List Serving) (r : WindowRequest) :
    Except Fault (Except IoError Window) :=
  match r.range s.size with
  | .error e => .ok (.error e)
  | .ok (offset, length) =>
    match s.backing with
    | .memory =>
      if s.size < offset + length then .error .sliceOutOfRange
      else .ok (.ok (r.window false (s.slice offset length)))
    | .file .mmap _ =>
      if length = 0 then .ok (.ok (r.window false []))
      else .ok (.ok (r.window true (s.slice offset length)))
    | .file .read _ =>
      if offset < twoTo 63 then .ok (.ok (r.window false (s.fill offset length servings [])))
      else .ok (.error .invalidArgument)

def window (s : Store) (r : WindowRequest) : Except Fault (Except IoError Window) :=
  s.windowServed [] r

end Store

def numberedRecords (records size : Nat) : List UInt8 :=
  (List.range records).flatMap fun n => List.replicate size n.toUInt8

end RecordCache
