import ModelFleet.Text.Hex
import ModelFleet.Text.Visible

/-!
# Quoted text

A text between double quotes, as it is shown inside messages: a quote and a backslash are escaped,
the usual control characters have a short form, and any other character that would not be visible
is written by its code point.
-/

namespace ModelFleet.Quoted

def escape (c : Char) : String :=
  match c with
  | '\x00' => "\\0"
  | '\t' => "\\t"
  | '\r' => "\\r"
  | '\n' => "\\n"
  | '\\' => "\\\\"
  | '"' => "\\\""
  | c =>
    if Visible.isInvisible c.toNat then "\\u" ++ "\x7b" ++ Hex.ofNat c.toNat ++ "\x7d"
    else String.singleton c

def quote (s : String) : String :=
  "\"" ++ String.join (s.toList.map escape) ++ "\""

end ModelFleet.Quoted
