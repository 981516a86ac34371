import DocumentLink.Bytes

/-! Documents and the values they hold.  A document is a list of keys and values in which order
matters; `put` gives a key its value where the key stands, or at the end when it is new, and
`collapse` does so for every pair of a list, so each key stays where it first stood and keeps the
value it was given last. -/

namespace DocumentLink.Bson

/-- Exactly `n` bytes. -/
abbrev Block (n : Nat) := { b : Bytes // b.length = n }

/-- A value of a document.  `unsigned` and `failing` can only be written: the format has no
unsigned integers, and a failing value stands for one that refuses to be written at all. -/
inductive Value where
  | null
  | undefined
  | minKey
  | maxKey
  | boolean (b : Bool)
  | int32 (n : Int32)
  | int64 (n : Int64)
  | unsigned (n : UInt64)
  /-- A double by its IEEE 754 bits. -/
  | double (bits : UInt64)
  /-- Milliseconds since the start of 1970. -/
  | date (milliseconds : Int64)
  | timestamp (time increment : UInt32)
  | objectId (id : Block 12)
  | decimal128 (bits : Block 16)
  | string (text : String)
  | code (text : String)
  | symbol (text : String)
  | regex (pattern options : String)
  | binary (subtype : UInt8) (content : Bytes)
  | document (fields : List (String × Value))
  | array (items : List Value)
  | codeWithScope (text : String) (scope : List (String × Value))
  | failing (message : String)
  deriving Inhabited

abbrev Document := List (String × Value)

/-- Gives `key` the value `v`: in place if the key is there, at the end if it is not. -/
def Document.put {α : Type} : List (String × α) → String → α → List (String × α)
  | [], key, v => [(key, v)]
  | (k, old) :: rest, key, v =>
    if k = key then (k, v) :: rest else (k, old) :: Document.put rest key v

/-- Each key once, where it first stood, with the value it was given last. -/
def Document.collapse {α : Type} (fields : List (String × α)) : List (String × α) :=
  fields.foldl (fun doc field => Document.put doc field.1 field.2) []

/-- The options of a regular expression in the one order in which they are stored. -/
def sortedOptions (options : String) : String :=
  String.ofList (options.toList.mergeSort (· ≤ ·))

/-- The kinds of value that the format distinguishes.  Pointers into a database, which `0x0c` would
announce, are left out: no value stands for one, and an element with that byte is not read. -/
inductive Kind where
  | double
  | string
  | document
  | array
  | binary
  | undefined
  | objectId
  | boolean
  | date
  | null
  | regex
  | code
  | symbol
  | codeWithScope
  | int32
  | timestamp
  | int64
  | decimal128
  | minKey
  | maxKey
  deriving DecidableEq

namespace Kind

/-- The byte that announces an element of this kind. -/
def tag : Kind → UInt8
  | double => 0x01
  | string => 0x02
  | document => 0x03
  | array => 0x04
  | binary => 0x05
  | undefined => 0x06
  | objectId => 0x07
  | boolean => 0x08
  | date => 0x09
  | null => 0x0a
  | regex => 0x0b
  | code => 0x0d
  | symbol => 0x0e
  | codeWithScope => 0x0f
  | int32 => 0x10
  | timestamp => 0x11
  | int64 => 0x12
  | decimal128 => 0x13
  | maxKey => 0x7f
  | minKey => 0xff

def all : List Kind :=
  [double, string, document, array, binary, undefined, objectId, boolean, date, null, regex, code,
    symbol, codeWithScope, int32, timestamp, int64, decimal128, minKey, maxKey]

/-- The kind that a byte announces, if any. -/
def ofTag? (b : UInt8) : Option Kind := all.find? fun kind => kind.tag == b

theorem ofTag?_tag (kind : Kind) : ofTag? kind.tag = some kind := by cases kind <;> rfl

/-- The name by which an error speaks of the kind. -/
def name : Kind → String
  | double => "Double"
  | string => "String"
  | document => "EmbeddedDocument"
  | array => "Array"
  | binary => "Binary"
  | undefined => "Undefined"
  | objectId => "ObjectId"
  | boolean => "Boolean"
  | date => "DateTime"
  | null => "Null"
  | regex => "RegularExpression"
  | code => "JavaScriptCode"
  | symbol => "Symbol"
  | codeWithScope => "JavaScriptCodeWithScope"
  | int32 => "Int32"
  | timestamp => "Timestamp"
  | int64 => "Int64"
  | decimal128 => "Decimal128"
  | minKey => "MinKey"
  | maxKey => "MaxKey"

end Kind

end DocumentLink.Bson
