import RecordCache.Decimal.Render
import RecordCache.Pool.Error
import RecordCache.Replacement.Limits
import RecordCache.Text.Quoted
/-! The configuration of a window pool. -/
namespace RecordCache

structure PoolConfig where
  storeName : String := "store"
  bytesPerRecord : Nat := 9
  /-- The page size to aim for. A page holds as many whole records as fit. -/
  targetBytesPerPage : Nat := 1024 * 1024
  capacity : Nat := 1024
  /-- The acquisitions between two samples, or zero for no samples. -/
  reportInterval : Nat := 100000
  protectedFraction : Float := Limits.defaultProtectedFraction
  longTermFraction : Float := Limits.defaultLongTermFraction
  /-- Whether samples are handed to a listener. -/
  hasListener : Bool := false

namespace PoolConfig

def withProtectedFraction (c : PoolConfig) (fraction : Float) : PoolConfig :=
  { c with protectedFraction := clampUnit fraction }

def withLongTermFraction (c : PoolConfig) (fraction : Float) : PoolConfig :=
  { c with longTermFraction := clampUnit fraction }

def recordsPerPage (bytesPerRecord targetBytesPerPage : Nat) : Except PoolError Nat :=
  if bytesPerRecord = 0 ∨ targetBytesPerPage < bytesPerRecord then
    .error (.invalidRecordSize bytesPerRecord targetBytesPerPage)
  else .ok (targetBytesPerPage / bytesPerRecord)

/-- Checks the configuration, the record size first. The result is the number of records per page.
-/
def validate (c : PoolConfig) : Except PoolError Nat := do
  let records ← recordsPerPage c.bytesPerRecord c.targetBytesPerPage
  if c.capacity = 0 then throw (.invalidCapacity c.capacity)
  return records

theorem validate_eq_ok_iff {c : PoolConfig} {records : Nat} : c.validate = .ok records ↔
    (0 < c.bytesPerRecord ∧ c.bytesPerRecord ≤ c.targetBytesPerPage) ∧ c.capacity ≠ 0 ∧
      c.targetBytesPerPage / c.bytesPerRecord = records := by
  unfold validate recordsPerPage
  by_cases hsize : c.bytesPerRecord = 0 ∨ c.targetBytesPerPage < c.bytesPerRecord
  · rw [if_pos hsize]
    refine iff_of_false nofun ?_
    omega
  · have hfits : 0 < c.bytesPerRecord ∧ c.bytesPerRecord ≤ c.targetBytesPerPage := by omega
    rw [if_neg hsize]
    by_cases hc : c.capacity = 0 <;>
      simp [hc, hfits, bind, Except.bind, pure, Except.pure, throw, throwThe, MonadExceptOf.throw]

def diagnostic (c : PoolConfig) : String :=
  "WindowPoolConfig \x7b store_name: " ++ quoted c.storeName
    ++ ", bytes_per_record: " ++ toString c.bytesPerRecord
    ++ ", target_bytes_per_page: " ++ toString c.targetBytesPerPage
    ++ ", capacity: " ++ toString c.capacity
    ++ ", report_interval: " ++ toString c.reportInterval
    ++ ", protected_fraction: " ++ shortestText .diagnostic c.protectedFraction
    ++ ", long_term_fraction: " ++ shortestText .diagnostic c.longTermFraction
    ++ ", sample_callback: " ++ toString c.hasListener ++ " \x7d"

end PoolConfig

end RecordCache
