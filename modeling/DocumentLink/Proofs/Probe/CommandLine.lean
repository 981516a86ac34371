import DocumentLink.Probe.Arguments
import DocumentLink.Proofs.Outcome
import Mathlib.Data.List.TakeWhile

/-! Command lines.  The fields that a command line sets are those that its texts say, split at their
first equals signs, in the order in which they are given; and whatever is asked for, some command
line asks for it. -/

namespace DocumentLink.Probe

/-! ### Fields -/

theorem splitAtEquals?_append {key : List Char} (h : '=' ∉ key) (value : List Char) :
    splitAtEquals? (key ++ '=' :: value) = some (key, value) := by
  have hBefore : ∀ c ∈ key, (c != '=') = true := by
    intro c hc
    rw [bne_iff_ne]
    rintro rfl
    exact h hc
  unfold splitAtEquals?
  rw [List.dropWhile_append_of_pos hBefore, List.takeWhile_append_of_pos hBefore]
  simp

theorem splitAtEquals?_eq_some_iff {cs key value : List Char} :
    splitAtEquals? cs = some (key, value) ↔ '=' ∉ key ∧ cs = key ++ '=' :: value := by
  constructor
  · intro h
    unfold splitAtEquals? at h
    split at h
    next => cases h
    next c rest hDrop =>
      cases h
      refine ⟨fun hMem => ?_, ?_⟩
      · simpa using List.mem_takeWhile_imp hMem
      · have hHead := List.head_dropWhile_not (· != '=') (l := cs) (by rw [hDrop]; simp)
        have hSplit := List.takeWhile_append_dropWhile (p := (· != '=')) (l := cs)
        simp only [hDrop, List.head_cons, bne_eq_false_iff_eq] at hHead
        rw [hDrop, hHead] at hSplit
        exact hSplit.symm
  · rintro ⟨hKey, rfl⟩
    exact splitAtEquals?_append hKey value

/-- A field as it is given. -/
def joined (f : String × String) : String := f.1 ++ "=" ++ f.2

theorem toList_joined (f : String × String) :
    (joined f).toList = f.1.toList ++ '=' :: f.2.toList := by
  simp [joined]

theorem field_eq_ok_iff {text : String} {f : String × String} :
    field text = .ok f ↔ '=' ∉ f.1.toList ∧ text = joined f := by
  rw [← String.toList_inj, toList_joined, ← splitAtEquals?_eq_some_iff, field]
  cases splitAtEquals? text.toList with
  | none => simp
  | some parts =>
    obtain ⟨key, value⟩ := parts
    obtain ⟨key', value'⟩ := f
    simp [← String.toList_inj]

theorem mapM_field_eq_ok_iff {texts : List String} {fields : List (String × String)} :
    texts.mapM field = .ok fields ↔
      (∀ f ∈ fields, '=' ∉ f.1.toList) ∧ texts = fields.map joined := by
  rw [mapM_eq_ok_iff]
  constructor
  · intro h
    induction h with
    | nil => exact ⟨nofun, rfl⟩
    | cons hHere _ ih =>
      obtain ⟨hKey, rfl⟩ := field_eq_ok_iff.mp hHere
      exact ⟨List.forall_mem_cons.mpr ⟨hKey, ih.1⟩, congrArg (_ :: ·) ih.2⟩
  · rintro ⟨hKeys, rfl⟩
    rw [List.forall₂_map_left_iff, List.forall₂_same]
    exact fun f hf => field_eq_ok_iff.mpr ⟨hKeys f hf, rfl⟩

theorem exists_field {text : String} (h : '=' ∈ text.toList) : ∃ f, field text = .ok f := by
  obtain ⟨key, value, hText, hKey⟩ := List.eq_append_cons_of_mem h
  refine ⟨(String.ofList key, String.ofList value), field_eq_ok_iff.mpr ?_⟩
  rw [← String.toList_inj, toList_joined, String.toList_ofList, String.toList_ofList]
  exact ⟨hKey, hText⟩

theorem exists_mapM_field {texts : List String} (h : ∀ text ∈ texts, '=' ∈ text.toList) :
    ∃ fields, texts.mapM field = .ok fields := by
  induction texts with
  | nil => exact ⟨[], rfl⟩
  | cons text texts ih =>
    obtain ⟨hHere, hRest⟩ := List.forall_mem_cons.mp h
    obtain ⟨f, hf⟩ := exists_field hHere
    obtain ⟨fields, hFields⟩ := ih hRest
    exact ⟨f :: fields, mapM_eq_ok_iff.mpr (.cons hf (mapM_eq_ok_iff.mp hFields))⟩

/-! ### What a command line sets -/

namespace Arguments

/-- The fields of an option that can be repeated. -/
def fields (a : Arguments) : Opt → List (String × String)
  | .filter => a.filters
  | .insert => a.inserts
  | _ => []

end Arguments

/-- The values that options give to one of them, in order. -/
def valuesOf (o : Opt) (options : List (Opt × String)) : List String :=
  options.filterMap fun option => if option.1 = o then some option.2 else none

theorem valuesOf_cons_self (o : Opt) (value : String) (options : List (Opt × String)) :
    valuesOf o ((o, value) :: options) = value :: valuesOf o options := by
  simp [valuesOf]

theorem valuesOf_cons_of_ne {o o' : Opt} (h : o' ≠ o) (value : String)
    (options : List (Opt × String)) : valuesOf o ((o', value) :: options) = valuesOf o options := by
  simp [valuesOf, h]

def optionsOf (items : List Item) : List (Opt × String) :=
  items.filterMap fun
    | .positional _ => none
    | .option o value => some (o, value)

def positionalsOf (items : List Item) : List String :=
  items.filterMap fun
    | .positional text => some text
    | .option .. => none

/-- The values that a command line gives to an option, in order. -/
def given (args : List String) (o : Opt) : List String :=
  valuesOf o (optionsOf ((items? args).getD []))

namespace Arguments

variable {a a' : Arguments} {o o' : Opt} {value : String} {args : List String}

/-- An option that can be repeated adds its field to those that there are. -/
theorem fields_of_set?_self (h : a.set? o value = some a') (hRepeatable : o.isRepeatable) :
    ∃ f, field value = .ok f ∧ a'.fields o = a.fields o ++ [f] := by
  have hOk {f : String × String} (hField : (field value).toOption = some f) :
      field value = .ok f := by
    cases hParsed : field value with
    | error e => rw [hParsed] at hField; cases hField
    | ok f' => rw [hParsed] at hField; cases hField; rfl
  cases o with
  | filter | insert =>
    obtain ⟨f, hField, rfl⟩ := Option.map_eq_some_iff.mp h
    exact ⟨f, hOk hField, rfl⟩
  | _ => cases hRepeatable

theorem fields_of_set?_of_ne (h : a.set? o value = some a') (hOther : o ≠ o') :
    a'.fields o' = a.fields o' := by
  cases o with
  | slaveOk =>
    cases h
    rfl
  | _ =>
    obtain ⟨_, _, rfl⟩ := Option.map_eq_some_iff.mp h
    cases o' <;> first | rfl | exact absurd rfl hOther

/-- A command line is accepted if it has two positional items, no option twice that cannot be
repeated, and values that its options can have. -/
theorem ofList?_eq (args : List String) : ofList? args = (items? args).bind fun items =>
    match positionalsOf items with
    | [address, collection] =>
      if (((optionsOf items).map Prod.fst).filter fun o => !o.isRepeatable).Nodup then
        (optionsOf items).foldlM (fun a (o, value) => a.set? o value) { address, collection }
      else none
    | _ => none :=
  rfl

theorem fields_of_foldlM {options : List (Opt × String)}
    (h : options.foldlM (fun a (o, value) => a.set? o value) a = some a')
    (hRepeatable : o.isRepeatable) :
    ∃ added, (valuesOf o options).mapM field = .ok added ∧ a'.fields o = a.fields o ++ added := by
  induction options generalizing a with
  | nil =>
    cases h
    exact ⟨[], rfl, (List.append_nil _).symm⟩
  | cons option options ih =>
    rw [List.foldlM_cons, Option.bind_eq_bind, Option.bind_eq_some_iff] at h
    obtain ⟨next, hSet, hRest⟩ := h
    obtain ⟨added, hAdded, hFields⟩ := ih hRest
    obtain ⟨o', value⟩ := option
    by_cases hHere : o' = o
    · subst hHere
      obtain ⟨f, hField, hNext⟩ := fields_of_set?_self hSet hRepeatable
      refine ⟨f :: added, ?_, by rw [hFields, hNext, List.append_assoc, List.singleton_append]⟩
      rw [valuesOf_cons_self, mapM_eq_ok_iff]
      exact .cons hField (mapM_eq_ok_iff.mp hAdded)
    · refine ⟨added, ?_, by rw [hFields, fields_of_set?_of_ne hSet hHere]⟩
      rwa [valuesOf_cons_of_ne hHere]

/-- A command line that is accepted sets the fields that its texts say. -/
theorem mapM_given (h : ofList? args = some a) (hRepeatable : o.isRepeatable) :
    (given args o).mapM field = .ok (a.fields o) := by
  obtain ⟨items, hItems, h⟩ := Option.bind_eq_some_iff.mp (ofList?_eq args ▸ h)
  split at h
  next address collection _ =>
    rw [Option.ite_none_right_eq_some] at h
    obtain ⟨added, hAdded, hFields⟩ := fields_of_foldlM h.2 hRepeatable
    have hEmpty : fields { address, collection } o = [] := by cases o <;> rfl
    rw [given, hItems, Option.getD_some, hFields, hEmpty, List.nil_append]
    exact hAdded
  next => cases h

end Arguments

/-! ### Numbers -/

theorem digits?_of_isDigit {cs : List Char} (hSome : cs ≠ []) (h : ∀ c ∈ cs, c.isDigit) :
    digits? cs = some (Nat.ofDigitChars 10 cs 0) := by
  have hFold (n : Nat) : cs.foldl (fun n c => n.bind fun n =>
      if '0' ≤ c ∧ c ≤ '9' then some (10 * n + (c.toNat - '0'.toNat)) else none) (some n) =
        some (Nat.ofDigitChars 10 cs n) := by
    clear hSome
    induction cs generalizing n with
    | nil => rfl
    | cons c cs ih =>
      obtain ⟨hHere, hRest⟩ := List.forall_mem_cons.mp h
      have hRange : '0' ≤ c ∧ c ≤ '9' := by
        simpa [Char.isDigit, Char.le_def] using hHere
      rw [List.foldl_cons, Option.bind_some, if_pos hRange, ih hRest, Nat.ofDigitChars_cons]
  rw [digits?, if_neg (by simpa using hSome), hFold]

theorem digits?_toDigits (n : Nat) : digits? (Nat.toDigits 10 n) = some n := by
  rw [digits?_of_isDigit Nat.toDigits_ne_nil
    fun c hc => Nat.isDigit_of_mem_toDigits (by decide) (by decide) hc,
    Nat.ofDigitChars_toDigits (by decide) (by decide)]

/-- The number that a text says, however large it is. -/
def whole? : List Char → Option Int
  | '+' :: cs => (digits? cs).map Int.ofNat
  | '-' :: cs => (digits? cs).map fun n => -Int.ofNat n
  | cs => (digits? cs).map Int.ofNat

theorem signed?_eq (s : String) : signed? s = (whole? s.toList).bind fun n =>
    if Int32.minValue.toInt ≤ n ∧ n ≤ Int32.maxValue.toInt then some (Int32.ofInt n) else none := by
  unfold signed?
  generalize s.toList = cs
  split
  next => rfl
  next => rfl
  next hPlus hMinus =>
    rw [whole?]
    · rfl
    · exact hPlus
    · exact hMinus

theorem whole?_toDigits (n : Nat) : whole? (Nat.toDigits 10 n) = some (n : Int) := by
  have hDigits := fun c => Nat.isDigit_of_mem_toDigits (b := 10) (n := n) (c := c) (by decide)
    (by decide)
  unfold whole?
  split
  next hPlus => exact absurd (hDigits '+' (by rw [hPlus]; exact List.mem_cons_self)) (by decide)
  next hMinus => exact absurd (hDigits '-' (by rw [hMinus]; exact List.mem_cons_self)) (by decide)
  next =>
    rw [digits?_toDigits]
    rfl

/-- A number is read as it is written. -/
theorem signed?_repr (n : Int32) : signed? n.toInt.repr = some n := by
  have hWhole : whole? n.toInt.repr.toList = some n.toInt := by
    rw [Int.repr_eq_if]
    split
    next hPositive =>
      rw [Nat.repr_eq_ofList_toDigits, String.toList_ofList, whole?_toDigits,
        Int.toNat_of_nonneg hPositive]
    next hNegative =>
      rw [Nat.repr_eq_ofList_toDigits, String.toList_append, String.toList_ofList,
        String.toList_ofList, List.singleton_append, whole?, digits?_toDigits, Option.map_some,
        Option.some.injEq, Int.ofNat_eq_natCast]
      have := Int.toNat_of_nonneg (Int.neg_nonneg_of_nonpos (Int.le_of_not_le hNegative))
      omega
  rw [signed?_eq, hWhole, Option.bind_some, if_pos ⟨n.le_toInt, n.toInt_le⟩, Int32.ofInt_toInt]

/-! ### Whatever is asked for -/

/-- The name of an option. -/
def Opt.name : Opt → String
  | filter => "filter"
  | insert => "insert"
  | skip => "skip"
  | limit => "limit"
  | slaveOk => "slave-ok"
  | maxMessageSize => "max-message-size"
  | writeTimeoutMs => "write-timeout-ms"

/-- The argument that sets an option. -/
def argument (o : Opt) (value : String) : String :=
  if o = .slaveOk then "--slave-ok" else "--" ++ o.name ++ "=" ++ value

theorem ofString_argument {o : Opt} (h : o ≠ .slaveOk) (value : String) :
    Word.ofString (argument o value) = .long o.name.toList (some value.toList) := by
  have hText : (argument o value).toList =
      '-' :: '-' :: (o.name.toList ++ '=' :: value.toList) := by
    simp [argument, h]
  have hName : '=' ∉ o.name.toList := by cases o <;> decide
  unfold Word.ofString
  rw [hText]
  split
  next hShort => simp at hShort
  next hLong =>
    cases hLong
    rw [splitAtEquals?_append hName]
  next hNoDash hShort =>
    cases hShort
    exact (hNoDash rfl).elim
  next hNoDashes _ => exact (hNoDashes _ rfl).elim

theorem ofString_slaveOk : Word.ofString "--slave-ok" = .long "slave-ok".toList none := by
  simp [Word.ofString, splitAtEquals?]

theorem items?_argument {o : Opt} {value : String} (h : o = .slaveOk → value = "")
    (rest : List String) :
    items? (argument o value :: rest) = (items? rest).map (.option o value :: ·) := by
  have hName : Opt.ofLong? o.name = some o := by cases o <;> simp [Opt.name, Opt.ofLong?]
  by_cases hFlag : o = .slaveOk
  · subst hFlag
    rw [argument, if_pos rfl, items?, ofString_slaveOk, h rfl]
    dsimp only
    rw [String.ofList_toList, ← Opt.name, hName]
  · rw [items?, ofString_argument hFlag]
    dsimp only
    rw [String.ofList_toList, hName]
    cases o <;> first | exact absurd rfl hFlag | simp

theorem items?_arguments {options : List (Opt × String)}
    (h : ∀ option ∈ options, option.1 = .slaveOk → option.2 = "") (rest : List String) :
    items? (options.map (fun (o, value) => argument o value) ++ rest) =
      (items? rest).map (options.map (fun (o, value) => .option o value) ++ ·) := by
  induction options with
  | nil => cases hRest : items? rest <;> simp [hRest]
  | cons option options ih =>
    obtain ⟨hHere, hLater⟩ := List.forall_mem_cons.mp h
    rw [List.map_cons, List.cons_append, items?_argument hHere, ih hLater, Option.map_map]
    rfl

/-- More fields for an option that can be repeated. -/
def Arguments.add (a : Arguments) (o : Opt) (fields : List (String × String)) : Arguments :=
  match o with
  | .filter => { a with filters := a.filters ++ fields }
  | .insert => { a with inserts := a.inserts ++ fields }
  | _ => a

theorem Arguments.foldlM_set?_repeated {o : Opt} (hRepeatable : o.isRepeatable)
    {values : List String} {fields : List (String × String)}
    (h : values.mapM field = .ok fields) (a : Arguments) :
    (values.map (o, ·)).foldlM (fun a (o, value) => a.set? o value) a =
      some (a.add o fields) := by
  rw [mapM_eq_ok_iff] at h
  induction h generalizing a with
  | nil =>
    cases o with
    | filter | insert => simp [add]
    | _ => cases hRepeatable
  | @cons value f values fields hHere _ ih =>
    have hSet : a.set? o value = some (a.add o [f]) := by
      cases o with
      | filter | insert => rw [set?, hHere]; rfl
      | _ => cases hRepeatable
    rw [List.map_cons, List.foldlM_cons, Option.bind_eq_bind]
    dsimp only
    rw [hSet, Option.bind_some, ih]
    cases o with
    | filter | insert => simp [add]
    | _ => cases hRepeatable

/-- What somebody wants of the command. -/
structure Inquiry where
  address : String
  collection : String
  /-- Fields as they are given, each a key and a value with an equals sign between them. -/
  filters : List String := []
  inserts : List String := []
  skip : Int32 := 0
  limit : Int32 := 0
  slaveOk : Bool := false

namespace Inquiry

/-- The options that are given once. -/
def single (i : Inquiry) : List (Opt × String) :=
  let numbers : List (Opt × String) :=
    [(.skip, i.skip.toInt.repr), (.limit, i.limit.toInt.repr)]
  let flags : List (Opt × String) := if i.slaveOk then [(.slaveOk, "")] else []
  numbers ++ flags

def options (i : Inquiry) : List (Opt × String) :=
  i.filters.map (Opt.filter, ·) ++ (i.inserts.map (Opt.insert, ·) ++ i.single)

/-- A command line that asks for it. -/
def commandLine (i : Inquiry) : List String :=
  i.options.map (fun (o, value) => argument o value) ++ ["--", i.address, i.collection]

/-- What the command line consists of. -/
def items (i : Inquiry) : List Item :=
  i.options.map (fun (o, value) => .option o value) ++
    [.positional i.address, .positional i.collection]

theorem items?_commandLine (i : Inquiry) : items? i.commandLine = some i.items := by
  have hEscape : items? ["--", i.address, i.collection] =
      some [.positional i.address, .positional i.collection] := by
    simp [items?, Word.ofString]
  have hFlag : ∀ option ∈ i.options, option.1 = .slaveOk → option.2 = "" := by
    cases h : i.slaveOk <;> grind [options, single]
  rw [commandLine, items?_arguments hFlag, hEscape]
  rfl

theorem optionsOf_items (i : Inquiry) : optionsOf i.items = i.options := by
  simp [optionsOf, items]

theorem positionalsOf_items (i : Inquiry) : positionalsOf i.items = [i.address, i.collection] := by
  simp [positionalsOf, items]

theorem nodup_single (i : Inquiry) :
    ((i.options.map Prod.fst).filter fun o => !o.isRepeatable).Nodup := by
  have hRepeated {o : Opt} (h : o.isRepeatable) (values : List String) :
      ((values.map (o, ·)).map Prod.fst).filter (fun o => !o.isRepeatable) = [] := by
    simp [h]
  rw [options, List.map_append, List.filter_append, hRepeated rfl, List.map_append,
    List.filter_append, hRepeated rfl, single]
  cases i.slaveOk <;> simp [Opt.isRepeatable]

theorem foldlM_single (i : Inquiry) {a : Arguments} (h : a.slaveOk = false) :
    i.single.foldlM (fun a (o, value) => a.set? o value) a =
      some { a with skip := i.skip, limit := i.limit, slaveOk := i.slaveOk } := by
  have hSkip := signed?_repr i.skip
  have hLimit := signed?_repr i.limit
  cases hFlag : i.slaveOk <;> simp [single, hFlag, Arguments.set?, hSkip, hLimit, h]

/-- The command line is accepted and sets what is asked for. -/
theorem ofList?_commandLine (i : Inquiry) {filters inserts : List (String × String)}
    (hFilters : i.filters.mapM field = .ok filters)
    (hInserts : i.inserts.mapM field = .ok inserts) :
    Arguments.ofList? i.commandLine = some {
      address := i.address, collection := i.collection, filters, inserts
      skip := i.skip, limit := i.limit, slaveOk := i.slaveOk } := by
  rw [Arguments.ofList?_eq, items?_commandLine, Option.bind_some, positionalsOf_items,
    optionsOf_items]
  dsimp only
  rw [if_pos i.nodup_single, options, List.foldlM_append,
    Arguments.foldlM_set?_repeated (o := .filter) rfl hFilters, Option.bind_eq_bind,
    Option.bind_some, List.foldlM_append,
    Arguments.foldlM_set?_repeated (o := .insert) rfl hInserts, Option.bind_eq_bind,
    Option.bind_some, foldlM_single]
  · rfl
  · rfl

theorem valuesOf_options (i : Inquiry) :
    valuesOf .filter i.options = i.filters ∧ valuesOf .insert i.options = i.inserts := by
  cases h : i.slaveOk <;> simp [options, single, h, valuesOf]

/-- An accepted command line asks for exactly this. -/
structure AskedBy (i : Inquiry) (args : List String) (a : Arguments) : Prop where
  accepted : Arguments.ofList? args = some a
  address : a.address = i.address
  collection : a.collection = i.collection
  filters : given args .filter = i.filters
  inserts : given args .insert = i.inserts
  skip : a.skip = i.skip
  limit : a.limit = i.limit
  slaveOk : a.slaveOk = i.slaveOk

/-- Whatever somebody wants, there is a command line that asks for it and leaves the rest as it
is. -/
theorem exists_askedBy (i : Inquiry)
    (hEquals : ∀ text ∈ i.filters ++ i.inserts, '=' ∈ text.toList) :
    ∃ args a, i.AskedBy args a ∧ a.config = {} := by
  rw [List.forall_mem_append] at hEquals
  obtain ⟨filters, hFilters⟩ := exists_mapM_field hEquals.1
  obtain ⟨inserts, hInserts⟩ := exists_mapM_field hEquals.2
  have hAccepted := i.ofList?_commandLine hFilters hInserts
  have hGiven (o : Opt) : given i.commandLine o = valuesOf o i.options := by
    rw [given, items?_commandLine, Option.getD_some, optionsOf_items]
  exact ⟨i.commandLine, _, {
    accepted := hAccepted
    address := rfl
    collection := rfl
    filters := (hGiven .filter).trans i.valuesOf_options.1
    inserts := (hGiven .insert).trans i.valuesOf_options.2
    skip := rfl
    limit := rfl
    slaveOk := rfl }, rfl⟩

end Inquiry

end DocumentLink.Probe
