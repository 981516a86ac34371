import DocumentLink.Bson.Value
import DocumentLink.Text.Base64
import DocumentLink.Text.Calendar
import DocumentLink.Text.Decimal
import DocumentLink.Text.Quoted

/-! Documents as text for people to read.  Texts stand between quotes as they are. -/

namespace DocumentLink.Bson

/-- Milliseconds since the start of 1970, between the years -9999 and 9999; what lies outside is
moved to the nearer end. -/
def dateText (milliseconds : Int64) : String :=
  let n := milliseconds.toInt
  if n < -377705116800000 then Text.instant (-377705116800000)
  else if 253402300799999 < n then "9999-12-31 23:59:59.999999999 +00:00:00"
  else Text.instant n

/-- The digits of a decimal number and its exponent.  Small exponents are written out. -/
def scientificText (digits : Nat) (exponent : Int) : String :=
  let text := toString digits
  let leading := exponent + text.length - 1
  if exponent ≤ 0 ∧ -6 ≤ leading then (Text.Decimal.mk digits exponent).positional
  else
    let mantissa := match text.toList with
      | [] => ""
      | [first] => first.toString
      | first :: rest => first.toString ++ "." ++ String.ofList rest
    mantissa ++ "E" ++ (if 0 < leading then "+" else "") ++ toString leading

/-- A decimal number of 128 bits: a sign, an exponent and an integer of at most 34 digits. -/
def decimal128Text (bits : Block 16) : String :=
  let n := Bytes.ofLittleEndian bits.val
  let sign := if n >>> 127 = 0 then "" else "-"
  let combination := n >>> 122 % 32
  if combination = 31 then sign ++ "NaN"
  else if combination = 30 then sign ++ "Infinity"
  else
    let isLarge := 24 ≤ combination
    let exponent := if isLarge then n >>> 111 % 16384 else n >>> 113 % 16384
    let digits := if isLarge then 0 else n % (1 <<< 113)
    let digits := if (toString digits).length ≤ 34 then digits else 0
    sign ++ scientificText digits (Int.ofNat exponent - 6176)

mutual

def Value.text : Value → String
  | .null => "null"
  | .undefined => "undefined"
  | .minKey => "MinKey"
  | .maxKey => "MaxKey"
  | .boolean b => if b then "true" else "false"
  | .int32 n => toString n.toInt
  | .int64 n => toString n.toInt
  | .unsigned n => toString n.toNat
  | .double bits => Text.double bits
  | .date milliseconds => "DateTime(\"" ++ dateText milliseconds ++ "\")"
  | .timestamp time increment =>
    "Timestamp(" ++ toString time.toNat ++ ", " ++ toString increment.toNat ++ ")"
  | .objectId id =>
    "ObjectId(\"" ++ String.join (id.val.map fun b => Text.hexadecimalByte b) ++ "\")"
  | .decimal128 bits => decimal128Text bits
  | .string text => "\"" ++ text ++ "\""
  | .code text => text
  | .codeWithScope text _ => text
  | .symbol text => "Symbol(\"" ++ text ++ "\")"
  | .regex pattern options => "/" ++ pattern ++ "/" ++ options
  | .binary subtype content =>
    "Binary(0x" ++ Text.hexadecimal subtype.toNat ++ ", " ++ Text.base64 content ++ ")"
  | .document fields => documentText fields
  | .array items => "[" ++ ", ".intercalate (itemTexts items) ++ "]"
  | .failing message => message

/-- A document between braces, with a blank inside each unless it is empty. -/
def documentText (fields : List (String × Value)) : String :=
  if fields.isEmpty then "\x7b\x7d"
  else "\x7b " ++ ", ".intercalate (fieldTexts fields) ++ " \x7d"

def fieldTexts : List (String × Value) → List String
  | [] => []
  | (key, v) :: rest => ("\"" ++ key ++ "\": " ++ v.text) :: fieldTexts rest

def itemTexts : List Value → List String
  | [] => []
  | v :: rest => v.text :: itemTexts rest

end

def Document.text (doc : Document) : String := documentText doc

end DocumentLink.Bson
