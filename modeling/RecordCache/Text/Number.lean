import RecordCache.Decimal.Read
import RecordCache.Text.Digits
/-! Numbers written by hand: whole ones with a plus sign at most, and floats with a point, an
exponent or a name. -/
namespace RecordCache

/-- A whole number below `bound`: digits, after a plus sign if there is one. -/
def readBelow? (bound : Nat) (s : String) : Option Nat :=
  let digits := match s.toList with
    | '+' :: r => r
    | cs => cs
  if digits.isEmpty ∨ ¬digits.all Char.isDigit then none
  else if numeral 10 digits < bound then some (numeral 10 digits)
  else none

def readExponent? : List Char → Option Int
  | [] => some 0
  | c :: r =>
    if c = 'e' ∨ c = 'E' then
      let (negative, ds) := match r with
        | '-' :: ds => (true, ds)
        | '+' :: ds => (false, ds)
        | ds => (false, ds)
      if ds.isEmpty ∨ ¬ds.all Char.isDigit then none
      else some (if negative then -(numeral 10 ds : Int) else numeral 10 ds)
    else none

/-- A number without sign: `inf`, `infinity` or `nan` in any case, or digits with a point among them
or at one end, and an exponent. -/
def readMagnitude? (negative : Bool) (cs : List Char) : Option Float :=
  match String.ofList (cs.map Char.toLower) with
  | "inf" | "infinity" => some (if negative then -1.0 / 0.0 else 1.0 / 0.0)
  | "nan" => some (0.0 / 0.0)
  | _ =>
    let whole := cs.takeWhile Char.isDigit
    let (fraction, rest) := match cs.dropWhile Char.isDigit with
      | '.' :: r => (r.takeWhile Char.isDigit, r.dropWhile Char.isDigit)
      | r => ([], r)
    if whole.isEmpty ∧ fraction.isEmpty then none
    else (readExponent? rest).map fun exponent =>
      Binary64.ofDecimal negative (numeral 10 (whole ++ fraction)) (exponent - fraction.length)

def readFloat? (s : String) : Option Float :=
  match s.toList with
  | '-' :: r => readMagnitude? true r
  | '+' :: r => readMagnitude? false r
  | cs => readMagnitude? false cs

end RecordCache
