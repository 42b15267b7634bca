/-! Digits and the numbers they write. -/
namespace RecordCache

def digitValue (c : Char) : Nat :=
  if c.isDigit then c.toNat - '0'.toNat else c.toLower.toNat - 'a'.toNat + 10

def isHexDigit (c : Char) : Bool := c.isDigit || ('a' ≤ c.toLower && c.toLower ≤ 'f')

def isBaseDigit (base : Nat) (c : Char) : Bool :=
  if base = 16 then isHexDigit c else c.isDigit && digitValue c < base

def numeral (base : Nat) (ds : List Char) : Nat := ds.foldl (fun n c => n * base + digitValue c) 0

end RecordCache
