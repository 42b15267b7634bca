import RecordCache.Text.Digits
import RecordCache.Toml.Scan
/-! Strings of TOML: basic and literal ones, each on one line or on several. Part of the stand-in
for the external reader of documents, which no theorem reaches. -/
namespace RecordCache.Toml

def codePoint? (width : Nat) (cs : List Char) : Option Char :=
  let ds := cs.take width
  let n := numeral 16 ds
  if ds.length = width ∧ ds.all isHexDigit ∧ n.isValidChar then some (Char.ofNat n) else none

def escape? : List Char → Option (Char × Nat)
  | 'b' :: _ => some ('\x08', 1)
  | 'f' :: _ => some ('\x0c', 1)
  | 'n' :: _ => some ('\n', 1)
  | 'r' :: _ => some ('\r', 1)
  | 't' :: _ => some ('\t', 1)
  | '"' :: _ => some ('"', 1)
  | '\\' :: _ => some ('\\', 1)
  | 'u' :: r => (codePoint? 4 r).map (·, 5)
  | 'U' :: r => (codePoint? 8 r).map (·, 9)
  | _ => none

def prepend (added : List Char) (found : List Char × List Char) : List Char × List Char :=
  (added ++ found.1, found.2)

def basicRest (cs : List Char) : Option (List Char × List Char) :=
  match cs with
  | [] => none
  | '"' :: r => some ([], r)
  | '\\' :: r =>
    match escape? r with
    | none => none
    | some (c, n) => (basicRest (r.drop n)).map (prepend [c])
  | c :: r => if isVisible c then (basicRest r).map (prepend [c]) else none
termination_by cs.length
decreasing_by all_goals simp only [List.length_drop, List.length_cons]; omega

def literalRest (cs : List Char) : Option (List Char × List Char) :=
  match cs with
  | [] => none
  | '\'' :: r => some ([], r)
  | c :: r => if isVisible c then (literalRest r).map (prepend [c]) else none

/-- The rest of a string on several lines, after its opening quotes and the line break that may
follow them. A run of three to five quotes ends it, and those before the last three belong to it; a
shorter run belongs to it wholly. In a basic string a backslash at the end of a line takes the blank
space after it away. -/
def linesRest (quote : Char) (cs : List Char) : Option (List Char × List Char) :=
  match cs with
  | [] => none
  | c :: r =>
    if c = quote then
      let quotes := (c :: r).takeWhile (· == quote)
      if quotes.length < 3 then
        (linesRest quote (r.drop (quotes.length - 1))).map (prepend quotes)
      else if quotes.length ≤ 5 then some (quotes.drop 3, (c :: r).drop quotes.length)
      else none
    else if c = '\\' ∧ quote = '"' then
      match _h : newline? (skipSpaces r) with
      | some s => linesRest quote (skipBlankLines s)
      | none =>
        match escape? r with
        | none => none
        | some (e, n) => (linesRest quote (r.drop n)).map (prepend [e])
    else
      match _h : newline? (c :: r) with
      | some s => (linesRest quote s).map (prepend ['\n'])
      | none => if isVisible c then (linesRest quote r).map (prepend [c]) else none
termination_by cs.length
decreasing_by
  · simp only [List.length_drop, List.length_cons]; omega
  · have := length_skipBlankLines_le s
    have := length_lt_of_newline? ‹_›
    have := length_dropWhile_le (p := isSpace) r
    simp only [skipSpaces, List.length_cons] at *; omega
  · simp only [List.length_drop, List.length_cons]; omega
  · exact length_lt_of_newline? ‹_›
  · simp only [List.length_cons]; omega

def afterNewline (cs : List Char) : List Char := (newline? cs).getD cs

def string? : Reader String
  | '"' :: '"' :: '"' :: r => found (linesRest '"' (afterNewline r))
  | '"' :: r => found (basicRest r)
  | '\'' :: '\'' :: '\'' :: r => found (linesRest '\'' (afterNewline r))
  | '\'' :: r => found (literalRest r)
  | _ => none
where
  found (rest : Option (List Char × List Char)) : Option (String × List Char) :=
    rest.map fun (text, r) => (String.ofList text, r)

def simpleKey? : Reader String
  | '"' :: r => (basicRest r).map fun (text, r) => (String.ofList text, r)
  | '\'' :: r => (literalRest r).map fun (text, r) => (String.ofList text, r)
  | cs =>
    let bare := cs.takeWhile isBareKeyChar
    if bare.isEmpty then none else some (String.ofList bare, cs.dropWhile isBareKeyChar)

end RecordCache.Toml
