import RecordCache.Fault
import RecordCache.Power
/-! Windows: the bytes of a run of records of one size, as they were when the window was made.
Records past the end of the store are absent. -/
namespace RecordCache

structure Window where
  firstRecord : Nat
  /-- The number of records covered, present or not. -/
  recordsPerPage : Nat
  bytesPerRecord : Nat
  /-- Whether the bytes are mapped from the store rather than copied. -/
  mapped : Bool
  bytes : List UInt8
  deriving DecidableEq, Repr

namespace Window

def length (w : Window) : Nat := w.bytes.length

def available (w : Window) : Except Fault Nat :=
  if w.bytesPerRecord = 0 then .error .divideByZero
  else .ok (w.length / w.bytesPerRecord % twoTo 32)

def contains (w : Window) (position : Nat) : Bool :=
  w.firstRecord ≤ position ∧ position - w.firstRecord < w.recordsPerPage

def bytesFrom (w : Window) (position : Nat) : List UInt8 :=
  w.bytes.drop ((position - w.firstRecord) * w.bytesPerRecord)

def record? (w : Window) (position : Nat) : Option (List UInt8) :=
  if w.contains position then
    if w.bytesPerRecord ≤ (w.bytesFrom position).length then
      some ((w.bytesFrom position).take w.bytesPerRecord)
    else none
  else none

def diagnostic (w : Window) : String :=
  "MappedWindow \x7b first_record: " ++ toString w.firstRecord
    ++ ", records_per_page: " ++ toString w.recordsPerPage
    ++ ", bytes_per_record: " ++ toString w.bytesPerRecord
    ++ ", len: " ++ toString w.length ++ ", mapped: " ++ toString w.mapped ++ " \x7d"

end Window

end RecordCache
