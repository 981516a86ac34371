import DocumentLink.Text.Invisible

/-! Text between double quotes, as diagnostics show it.  Quotes, backslashes and the common control
characters are written with a backslash, and any other character that does not show by its code
point. -/

namespace DocumentLink.Text

/-- The lower case hexadecimal digits of `n`. -/
def hexadecimal (n : Nat) : String := String.ofList (Nat.toDigits 16 n)

/-- Two lower case hexadecimal digits. -/
def hexadecimalByte (b : UInt8) : String :=
  let digits := hexadecimal b.toNat
  if digits.length < 2 then "0" ++ digits else digits

/-- One character as it stands between quotes. -/
def escape (c : Char) : String :=
  match c with
  | '\x00' => "\\0"
  | '\t' => "\\t"
  | '\n' => "\\n"
  | '\r' => "\\r"
  | '"' => "\\\""
  | '\\' => "\\\\"
  | _ =>
    if isInvisible c then "\\u\x7b" ++ hexadecimal c.toNat ++ "\x7d" else c.toString

def quoted (s : String) : String := "\"" ++ String.join (s.toList.map escape) ++ "\""

end DocumentLink.Text
