/-! The JSON texts of reports: objects of numbers, texts and objects, on one line or indented. -/
namespace RecordCache

inductive JsonText where
  | number (n : Nat)
  | text (s : String)
  | object (fields : List (String × JsonText))

namespace JsonText

def hexByte (n : Nat) : String :=
  String.ofList [Nat.digitChar (n / 16 % 16), Nat.digitChar (n % 16)]

def escape (c : Char) : String :=
  match c with
  | '"' => "\\\""
  | '\\' => "\\\\"
  | '\x08' => "\\b"
  | '\x0c' => "\\f"
  | '\n' => "\\n"
  | '\r' => "\\r"
  | '\t' => "\\t"
  | _ => if c.toNat < 0x20 then "\\u00" ++ hexByte c.toNat else String.singleton c

def quote (s : String) : String := "\"" ++ String.join (s.toList.map escape) ++ "\""

def newLine (depth : Nat) : String := "\n" ++ String.ofList (List.replicate (2 * depth) ' ')

mutual

def compact : JsonText → String
  | number n => toString n
  | text s => quote s
  | object fields => "\x7b" ++ ",".intercalate (compactFields fields) ++ "\x7d"

def compactFields : List (String × JsonText) → List String
  | [] => []
  | (key, value) :: fields => (quote key ++ ":" ++ value.compact) :: compactFields fields

end

mutual

def indented (depth : Nat) : JsonText → String
  | number n => toString n
  | text s => quote s
  | object [] => "\x7b\x7d"
  | object (field :: fields) =>
    "\x7b" ++ newLine (depth + 1)
      ++ ("," ++ newLine (depth + 1)).intercalate (indentedFields (depth + 1) (field :: fields))
      ++ newLine depth ++ "\x7d"

def indentedFields (depth : Nat) : List (String × JsonText) → List String
  | [] => []
  | (key, value) :: fields =>
    (quote key ++ ": " ++ value.indented depth) :: indentedFields depth fields

end

end JsonText

end RecordCache
