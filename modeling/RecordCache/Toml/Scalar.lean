import RecordCache.Decimal.Read
import RecordCache.Power
import RecordCache.Text.Digits
import RecordCache.Toml.Scan
import RecordCache.Toml.Value
/-! Numbers, dates and truth values of TOML. Part of the stand-in for the external reader of
documents, which no theorem reaches. -/
namespace RecordCache.Toml

/-- Digits after the first one, with single underscores between digits. -/
def moreDigits (isDigit : Char → Bool) : List Char → Option (List Char × List Char)
  | '_' :: c :: r =>
    if isDigit c then (moreDigits isDigit r).map fun (ds, r) => (c :: ds, r) else none
  | ['_'] => none
  | c :: r =>
    if isDigit c then (moreDigits isDigit r).map fun (ds, r) => (c :: ds, r) else some ([], c :: r)
  | [] => some ([], [])

def digitRun? (isDigit : Char → Bool) : Reader (List Char)
  | [] => none
  | c :: r => if isDigit c then (moreDigits isDigit r).map fun (ds, r) => (c :: ds, r) else none

def integer? (n : Int) : Option Value :=
  if -(twoTo 63 : Int) ≤ n ∧ n < twoTo 63 then some (.integer n) else none

def sign : List Char → Bool × List Char
  | '+' :: r => (false, r)
  | '-' :: r => (true, r)
  | cs => (false, cs)

def wholeDigits? : Reader (List Char)
  | '0' :: r => some (['0'], r)
  | cs => digitRun? Char.isDigit cs

def exponent? : Reader Int
  | c :: r =>
    if c = 'e' ∨ c = 'E' then do
      let (negative, r) := sign r
      let (ds, r) ← digitRun? Char.isDigit r
      let n : Int := numeral 10 ds
      return (if negative then -n else n, r)
    else some (0, c :: r)
  | [] => some (0, [])

/-- A float after its sign and whole digits. Too great a number is an error, unless it is negative.
-/
def float? (negative : Bool) (whole fraction : List Char) (exponent : Int) : Option Value :=
  let x := Binary64.ofDecimal negative (numeral 10 (whole ++ fraction)) (exponent - fraction.length)
  if x.isInf ∧ ¬negative then none else some (.float x)

def special? (negative : Bool) : Reader Value
  | 'i' :: 'n' :: 'f' :: r => some (.float (if negative then -1.0 / 0.0 else 1.0 / 0.0), r)
  | 'n' :: 'a' :: 'n' :: r => some (.float (0.0 / 0.0), r)
  | _ => none

def decimal? : Reader Value := fun cs => do
  let (negative, cs) := sign cs
  if let some found := special? negative cs then return found
  let (whole, r) ← wholeDigits? cs
  match r with
  | '.' :: r =>
    let (fraction, r) ← digitRun? Char.isDigit r
    let (exponent, r) ← exponent? r
    return (← float? negative whole fraction exponent, r)
  | c :: r' =>
    if c = 'e' ∨ c = 'E' then
      let (exponent, r) ← exponent? (c :: r')
      return (← float? negative whole [] exponent, r)
    else
      let n : Int := numeral 10 whole
      return (← integer? (if negative then -n else n), r)
  | [] =>
    let n : Int := numeral 10 whole
    return (← integer? (if negative then -n else n), [])

def based? (base : Nat) : Reader Value := fun cs => do
  let (ds, r) ← digitRun? (isBaseDigit base) cs
  return (← integer? (numeral base ds), r)

def number? : Reader Value
  | '0' :: 'x' :: r => based? 16 r
  | '0' :: 'o' :: r => based? 8 r
  | '0' :: 'b' :: r => based? 2 r
  | cs => decimal? cs

/-! Dates and times. Only their form matters here, so nothing of them is kept. -/

def field? (width low high : Nat) : Reader Nat := fun cs =>
  let ds := cs.take width
  if ds.length = width ∧ ds.all Char.isDigit then
    let n := numeral 10 ds
    if low ≤ n ∧ n ≤ high then some (n, cs.drop width) else none
  else none

def skip? (c : Char) : List Char → Option (List Char)
  | d :: r => if d = c then some r else none
  | [] => none

def daysInMonth (year month : Nat) : Nat :=
  if month = 2 then
    if year % 4 = 0 ∧ (year % 100 ≠ 0 ∨ year % 400 = 0) then 29 else 28
  else if month = 4 ∨ month = 6 ∨ month = 9 ∨ month = 11 then 30
  else 31

def date? (cs : List Char) : Option (List Char) := do
  let (year, r) ← field? 4 0 9999 cs
  let (month, r) ← field? 2 1 12 (← skip? '-' r)
  let (_, r) ← field? 2 1 (daysInMonth year month) (← skip? '-' r)
  return r

def time? (cs : List Char) : Option (List Char) := do
  let (_, r) ← field? 2 0 23 cs
  let (_, r) ← field? 2 0 59 (← skip? ':' r)
  let (_, r) ← field? 2 0 60 (← skip? ':' r)
  match r with
  | '.' :: c :: r' => if c.isDigit then return r'.dropWhile Char.isDigit else return r
  | _ => return r

def offset? : List Char → Option (List Char)
  | c :: r =>
    if c = 'Z' ∨ c = 'z' then some r
    else if c = '+' ∨ c = '-' then do
      let (_, r) ← field? 2 0 23 r
      let (_, r) ← field? 2 0 59 (← skip? ':' r)
      return r
    else some (c :: r)
  | [] => some []

def timeOfDay? : List Char → Option (List Char)
  | c :: r =>
    if c = 'T' ∨ c = 't' ∨ c = ' ' then
      match time? r with
      | some r => offset? r
      | none => some (c :: r)
    else some (c :: r)
  | [] => some []

def dateTime? (cs : List Char) : Option (List Char) :=
  match date? cs with
  | some r => timeOfDay? r
  | none => time? cs

def numberOrDate? : Reader Value := fun cs =>
  match dateTime? cs with
  | some r => some (.dateTime, r)
  | none => number? cs

def word? : Reader Value
  | 't' :: 'r' :: 'u' :: 'e' :: r => some (.boolean true, r)
  | 'f' :: 'a' :: 'l' :: 's' :: 'e' :: r => some (.boolean false, r)
  | cs => special? false cs

end RecordCache.Toml
