import RecordCache.Decimal.Read
import RecordCache.Decimal.Shortest
/-! Texts of numbers: the shortest digits in positional or scientific form, and a fixed number of
decimal places. -/
namespace RecordCache

structure NumberStyle where
  /-- Magnitudes with a smaller leading exponent are scientific. -/
  leastPositional? : Option Int := none
  /-- Magnitudes with a greater leading exponent are scientific. -/
  greatestPositional? : Option Int := none
  deriving DecidableEq, Repr

namespace NumberStyle

def diagnostic : NumberStyle := { leastPositional? := some (-4), greatestPositional? := some 15 }

def positional : NumberStyle := {}

def isScientific (style : NumberStyle) (leading : Int) : Bool :=
  style.leastPositional?.any (leading < ·) || style.greatestPositional?.any (· < leading)

end NumberStyle

namespace Decimal

def zeros (n : Nat) : String := String.ofList (List.replicate n '0')

def positional (d : Decimal) : String :=
  let digits := Nat.toDigits 10 d.digits
  let whole := digits.length + d.exponent
  if 0 ≤ d.exponent then String.ofList digits ++ zeros d.exponent.toNat ++ ".0"
  else if 0 < whole then
    String.ofList (digits.take whole.toNat) ++ "." ++ String.ofList (digits.drop whole.toNat)
  else "0." ++ zeros (-whole).toNat ++ String.ofList digits

def scientific (d : Decimal) : String :=
  match Nat.toDigits 10 d.digits with
  | [] => ""
  | lead :: rest =>
    let point := if rest.isEmpty then "" else "." ++ String.ofList rest
    String.singleton lead ++ point ++ "e" ++ toString (d.exponent + rest.length)

def render (style : NumberStyle) (d : Decimal) : String :=
  let leading := d.exponent + (Nat.toDigits 10 d.digits).length - 1
  if d.digits ≠ 0 ∧ style.isScientific leading then d.scientific else d.positional

end Decimal

def signText (negative : Bool) : String := if negative then "-" else ""

def shortestText (style : NumberStyle) (x : Float) : String :=
  match Binary64.ofFloat x with
  | .notANumber => "NaN"
  | .infinite negative => signText negative ++ "inf"
  | .finite b => signText b.negative ++ (Decimal.shortest b).render style

def fixedText (places n : Nat) : String :=
  let fraction := Nat.toDigits 10 (n % tenTo places)
  toString (n / tenTo places) ++ "." ++ Decimal.zeros (places - fraction.length)
    ++ String.ofList fraction

def twoPlaces (x : Float) : String :=
  match Binary64.ofFloat x with
  | .notANumber => "NaN"
  | .infinite negative => signText negative ++ "inf"
  | .finite b =>
    let (n, d) := b.ratio
    signText b.negative ++ fixedText 2 (roundHalfEven (100 * n) d)

end RecordCache
