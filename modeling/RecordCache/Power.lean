/-! Powers of two and of ten. Two to the 32nd and to the 64th bound the numbers of 32 and 64 bits.
-/
namespace RecordCache

def twoTo (n : Nat) : Nat := Nat.pow 2 n

def tenTo (n : Nat) : Nat := Nat.pow 10 n

end RecordCache
