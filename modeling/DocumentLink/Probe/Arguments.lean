import DocumentLink.Config

/-! The command line: an address, a collection and options.  An option's value follows it, or is
attached to it; a value that stands alone never starts with a dash, unless it is a single dash.
After a double dash everything is positional. -/

namespace DocumentLink.Probe

structure Arguments where
  address : String
  collection : String
  /-- Fields that the documents must match. -/
  filters : List (String × String) := []
  /-- Fields of a document to insert first; no document if there are none. -/
  inserts : List (String × String) := []
  skip : Int32 := 0
  limit : Int32 := 0
  slaveOk : Bool := false
  config : Config := {}

/-- Why a text is no field. -/
structure NotAField where
  text : String

def NotAField.message (e : NotAField) : String :=
  "expected KEY=VALUE, got '" ++ e.text ++ "'"

/-- Splits at the first equals sign, if there is one. -/
def splitAtEquals? (cs : List Char) : Option (List Char × List Char) :=
  match cs.dropWhile (· != '=') with
  | [] => none
  | _ :: value => some (cs.takeWhile (· != '='), value)

/-- A key and a value, from the text before and after the first equals sign. -/
def field (s : String) : Except NotAField (String × String) :=
  match splitAtEquals? s.toList with
  | some (key, value) => .ok (String.ofList key, String.ofList value)
  | none => .error ⟨s⟩

/-- A number in decimal, which may have leading zeros. -/
def digits? (cs : List Char) : Option Nat :=
  if cs.isEmpty then none
  else cs.foldl (fun n c => n.bind fun n =>
    if '0' ≤ c ∧ c ≤ '9' then some (10 * n + (c.toNat - '0'.toNat)) else none) (some 0)

/-- An unsigned number of 64 bits, possibly after a plus sign. -/
def unsigned? (s : String) : Option Nat := do
  let n ← match s.toList with
    | '+' :: cs => digits? cs
    | cs => digits? cs
  if n < UInt64.size then some n else none

/-- A signed number of 32 bits, possibly after a sign. -/
def signed? (s : String) : Option Int32 := do
  let n : Int ← match s.toList with
    | '+' :: cs => (digits? cs).map Int.ofNat
    | '-' :: cs => (digits? cs).map fun n => -Int.ofNat n
    | cs => (digits? cs).map Int.ofNat
  if Int32.minValue.toInt ≤ n ∧ n ≤ Int32.maxValue.toInt then some (Int32.ofInt n) else none

inductive Opt where
  | filter
  | insert
  | skip
  | limit
  | slaveOk
  | maxMessageSize
  | writeTimeoutMs
  deriving DecidableEq

namespace Opt

def ofLong? : String → Option Opt
  | "filter" => some filter
  | "insert" => some insert
  | "skip" => some skip
  | "limit" => some limit
  | "slave-ok" => some slaveOk
  | "max-message-size" => some maxMessageSize
  | "write-timeout-ms" => some writeTimeoutMs
  | _ => none

def ofShort? : Char → Option Opt
  | 'f' => some filter
  | 'i' => some insert
  | _ => none

def isRepeatable : Opt → Bool
  | filter | insert => true
  | _ => false

end Opt

/-- An argument by its form. -/
inductive Word where
  /-- A double dash. -/
  | escape
  | long (name : List Char) (value : Option (List Char))
  /-- A dash, a letter and what is attached to it. -/
  | short (letter : Char) (attached : List Char)
  | plain (text : String)

def Word.ofString (s : String) : Word :=
  match s.toList with
  | ['-', '-'] => .escape
  | '-' :: '-' :: cs =>
    match splitAtEquals? cs with
    | some (name, value) => .long name (some value)
    | none => .long cs none
  | '-' :: c :: cs => .short c cs
  | _ => .plain s

/-- An option with its value, or a positional argument. -/
inductive Item where
  | option (o : Opt) (value : String)
  | positional (text : String)

/-- Puts values to their options; nothing if an option is unknown, has no value or has one that it
does not take. -/
def items? : List String → Option (List Item)
  | [] => some []
  | s :: rest =>
    match Word.ofString s with
    | .escape => some (rest.map .positional)
    | .plain text => (items? rest).map (.positional text :: ·)
    | .long name value =>
      match Opt.ofLong? (String.ofList name), value with
      | none, _ => none
      | some .slaveOk, none => (items? rest).map (.option .slaveOk "" :: ·)
      | some .slaveOk, some _ => none
      | some o, some value => (items? rest).map (.option o (String.ofList value) :: ·)
      | some o, none => next o rest
    | .short letter attached =>
      match Opt.ofShort? letter, attached with
      | none, _ => none
      | some o, [] => next o rest
      | some o, '=' :: value => (items? rest).map (.option o (String.ofList value) :: ·)
      | some o, value => (items? rest).map (.option o (String.ofList value) :: ·)
where
  /-- The value of `o` is the next argument. -/
  next (o : Opt) : List String → Option (List Item)
    | [] => none
    | s :: rest =>
      match Word.ofString s with
      | .plain value => (items? rest).map (.option o value :: ·)
      | _ => none

/-- Sets an option to a value that it can have. -/
def Arguments.set? (a : Arguments) (o : Opt) (value : String) : Option Arguments :=
  match o with
  | .filter => (field value).toOption.map fun f => { a with filters := a.filters ++ [f] }
  | .insert => (field value).toOption.map fun f => { a with inserts := a.inserts ++ [f] }
  | .skip => (signed? value).map fun n => { a with skip := n }
  | .limit => (signed? value).map fun n => { a with limit := n }
  | .slaveOk => some { a with slaveOk := true }
  | .maxMessageSize =>
    (unsigned? value).map fun n => { a with config := { a.config with maxMessageSize := n } }
  | .writeTimeoutMs =>
    (unsigned? value).map fun n => { a with config := { a.config with writeTimeout := some n } }

/-- The command line with the given arguments, if it is a proper one: two positional arguments,
every other option at most once. -/
def Arguments.ofList? (args : List String) : Option Arguments := do
  let items ← items? args
  let positionals := items.filterMap fun
    | .positional text => some text
    | .option .. => none
  let options := items.filterMap fun
    | .positional _ => none
    | .option o value => some (o, value)
  let single := (options.map Prod.fst).filter fun o => !o.isRepeatable
  match positionals with
  | [address, collection] =>
    if single.Nodup then
      options.foldlM (fun a (o, value) => a.set? o value) { address, collection }
    else none
  | _ => none

end DocumentLink.Probe
