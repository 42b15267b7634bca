import RecordCache.Store.Basic
/-! Sources: a store as a pool sees it, with the calls counted. The reported size may differ from
the store's, and calls may be made to fail. -/
namespace RecordCache

structure Source where
  store : Store
  /-- What the source answers for its size, if not the size of the store. -/
  reported? : Option (Except IoError Nat) := none
  /-- How many of the next calls fail. -/
  failing : Nat := 0
  failure : IoError := ⟨.other, ""⟩
  calls : Nat := 0

namespace Source

def size (s : Source) : Except IoError Nat := s.reported?.getD (.ok s.store.size)

def failNext (s : Source) (count : Nat) (error : IoError) : Source :=
  { s with failing := count, failure := error }

def append (s : Source) (bytes : List UInt8) : Source := { s with store := s.store.append bytes }

def window (s : Source) (r : WindowRequest) : Except Fault (Except IoError Window × Source) :=
  let s := { s with calls := s.calls + 1 }
  if 0 < s.failing then .ok (.error s.failure, { s with failing := s.failing - 1 })
  else (s.store.window r).map fun result => (result, s)

end Source

end RecordCache
