import DocumentLink.Bson.Value
import DocumentLink.Field

/-! Writing values.  A document is written element by element, depth first; an element is the tag
of its kind, its key up to a zero byte and its payload.  The first thing that cannot be written
decides the error, and a key is looked at before its value. -/

namespace DocumentLink.Bson

/-- Why a value cannot be written. -/
inductive EncodeError where
  /-- Only a document can stand on its own. -/
  | notDocument (kind : Kind)
  /-- A text that is written up to a zero byte contains one itself. -/
  | embeddedZero (text : String)
  /-- An unsigned number above every signed one. -/
  | unsignedTooLarge (n : UInt64)
  | refused (message : String)
  deriving DecidableEq

/-- A text up to a zero byte, unless it contains one. -/
def encodeTerminated (s : String) : Except EncodeError Bytes :=
  if 0 ∈ Field.utf8 s then .error (.embeddedZero s) else .ok (Field.terminated s)

mutual

/-- The kind under which a value is written, and its payload. -/
def Value.encode : Value → Except EncodeError (Kind × Bytes)
  | .null => .ok (.null, [])
  | .undefined => .ok (.undefined, [])
  | .minKey => .ok (.minKey, [])
  | .maxKey => .ok (.maxKey, [])
  | .boolean b => .ok (.boolean, [if b then 1 else 0])
  | .int32 n => .ok (.int32, Bytes.ofInt32 n)
  | .int64 n => .ok (.int64, Bytes.ofInt64 n)
  | .unsigned n =>
    if n ≤ Int64.maxValue.toUInt64 then .ok (.int64, Bytes.ofUInt64 n)
    else .error (.unsignedTooLarge n)
  | .double bits => .ok (.double, Bytes.ofUInt64 bits)
  | .date milliseconds => .ok (.date, Bytes.ofInt64 milliseconds)
  | .timestamp time increment =>
    .ok (.timestamp, Bytes.ofUInt32 increment ++ Bytes.ofUInt32 time)
  | .objectId id => .ok (.objectId, id.val)
  | .decimal128 bits => .ok (.decimal128, bits.val)
  | .string text => .ok (.string, Field.counted text)
  | .code text => .ok (.code, Field.counted text)
  | .symbol text => .ok (.symbol, Field.counted text)
  | .regex pattern options => do
    let pattern ← encodeTerminated pattern
    let options ← encodeTerminated (sortedOptions options)
    pure (.regex, pattern ++ options)
  | .binary subtype content => .ok (.binary, Field.blob subtype content)
  | .document fields => do
    let elements ← encodeFields fields
    pure (.document, Field.framed elements)
  | .array items => do
    let elements ← encodeItems 0 items
    pure (.array, Field.framed elements)
  | .codeWithScope text scope => do
    let elements ← encodeFields scope
    let content := Field.counted text ++ Field.framed elements
    pure (.codeWithScope, Bytes.ofInt32 (Int32.ofNat (content.length + 4)) ++ content)
  | .failing message => .error (.refused message)

/-- The elements of a document. -/
def encodeFields : List (String × Value) → Except EncodeError Bytes
  | [] => .ok []
  | (key, v) :: rest => do
    let key ← encodeTerminated key
    let (kind, payload) ← v.encode
    let rest ← encodeFields rest
    pure (kind.tag :: key ++ payload ++ rest)

/-- The elements of an array whose first index is `i`: the keys are the indices in decimal. -/
def encodeItems : Nat → List Value → Except EncodeError Bytes
  | _, [] => .ok []
  | i, v :: rest => do
    let (kind, payload) ← v.encode
    let rest ← encodeItems (i + 1) rest
    pure (kind.tag :: Field.terminated i.repr ++ payload ++ rest)

end

/-- The bytes of a value that stands on its own.  A value of another kind than a document is
refused as such even where its parts could not be written either. -/
def Value.marshal : Value → Except EncodeError Bytes
  | .document fields => (encodeFields fields).map Field.framed
  | .regex .. => .error (.notDocument .regex)
  | .codeWithScope .. => .error (.notDocument .codeWithScope)
  | .array _ => .error (.notDocument .array)
  | v => v.encode.bind fun (kind, _) => .error (.notDocument kind)

end DocumentLink.Bson
