import RecordCache.Text.Hidden
/-! Quoted text for diagnostics. -/
namespace RecordCache

/-- One character inside double quotes: the usual controls, the quote and the backslash have short
escapes, and what does not show as itself is given by its code point. -/
def escapeQuoted (c : Char) : String :=
  match c with
  | '\x00' => "\\0"
  | '\t' => "\\t"
  | '\r' => "\\r"
  | '\n' => "\\n"
  | '"' => "\\\""
  | '\\' => "\\\\"
  | _ =>
    if isHidden c then "\\u\x7b" ++ String.ofList (Nat.toDigits 16 c.toNat) ++ "\x7d"
    else String.singleton c

def quoted (s : String) : String := "\"" ++ String.join (s.toList.map escapeQuoted) ++ "\""

end RecordCache
