import ClusterManifest.Network.Cidr
import ClusterManifest.Schema.Issue

/-! Checks of single values and of fields. Values are taken for what they clearly mean: a
whole number may come as a number without a fraction, as a truth value or as a text, a
text as bytes, a list as a set. A field may have two names; the first one that is there
counts, and issues are placed under the name that was found. -/

namespace ClusterManifest.Schema

def text : Value → Checked Phrase
  | .scalar (.text s) => .valid (.text s)
  | .scalar (.illFormed value) => .valid (.illFormed value)
  | .scalar (.bytes data) =>
    match Text.Utf8.decode data with
    | .ok s => .valid (.text (String.ofList s))
    | .error _ => .fail .notUnicode
  | _ => .fail .notText

/-- An unsigned numeral without the zeros before it, which may have underscores among them;
none when it does not start with a digit. The digit before a point stays. -/
def dropLeadingZeros? : List Char → Option (List Char)
  | '0' :: rest =>
    let zeros := '0' :: rest.takeWhile (fun c => c == '0' || c == '_')
    match rest.dropWhile (fun c => c == '0' || c == '_') with
    | [] => some (zeros.getLast?.toList)
    | '.' :: fraction => some (zeros.getLast?.toList ++ '.' :: fraction)
    | c :: more => if Text.isAsciiDigit c then some (c :: more) else none
  | c :: rest => if Text.isAsciiDigit c then some (c :: rest) else none
  | [] => none

def dropZeroFraction (s : List Char) : List Char :=
  let whole := s.takeWhile (· != '.')
  match s.dropWhile (· != '.') with
  | '.' :: fraction => if !fraction.isEmpty && fraction.all (· == '0') then whole else s
  | _ => s

/-- A whole number from its text: white space around it, a sign, zeros before it, single
underscores between digits and a fraction of zeros are allowed. -/
def integerOfText (s : List Char) : Checked Int :=
  let (negative, unsigned) :=
    Text.Numeral.splitSign (Text.trimWhere Text.isUnicodeSpace s)
  match dropLeadingZeros? unsigned with
  | none => .fail .notIntegerText
  | some body =>
    let whole := dropZeroFraction body
    let digits := whole.filter (· != '_')
    if whole.isEmpty || whole.head? == some '_' || !Text.Numeral.singleUnderscores whole ||
        !digits.all Text.isAsciiDigit then .fail .notIntegerText
    else if Text.Numeral.digitLimit < digits.length then .fail .tooLarge
    else
      let n : Int := Text.ofDigits 10 (digits.map Text.asciiDigitValue)
      .valid (if negative then -n else n)

/-- A whole number from a floating-point one of less than sixty-four bits. -/
def integerOfFloat (x : Binary64) : Checked Int :=
  if !x.isFinite then .fail .notFinite
  else
    match x.toInt? with
    | none => .fail .fraction
    | some n => if -0x8000000000000000 < n ∧ n < 0x8000000000000000 then .valid n else .fail .tooLarge

def integer : Value → Checked Int
  | .scalar (.int n) => .valid n
  | .scalar (.bool b) => .valid (if b then 1 else 0)
  | .scalar (.float x) => integerOfFloat x
  | .scalar (.text s) => integerOfText s.toList
  | .scalar (.illFormed _) => .fail .notUnicode
  | .scalar (.bytes data) =>
    match Text.Utf8.decode data with
    | .ok s => integerOfText s
    | .error _ => .fail .notIntegerText
  | _ => .fail .notInteger

def count (v : Value) : Checked Nat :=
  (integer v).bind (fun n => if n < 0 then .fail .negative else .valid n.toNat)

def orNull {α : Type} (check : Value → Checked α) (v : Value) : Checked (Option α) :=
  if v.isNull then .valid none else (check v).map some

def network : Value → Checked Cidr
  | .scalar (.text s) =>
    match Cidr.ofText? s.toList with
    | some network => .valid network
    | none =>
      .fail (.refused
        (Text.quotedString s ++ " does not appear to be an IPv4 or IPv6 network"))
  | .scalar (.illFormed value) =>
    .fail (.refused (String.ofList (Text.quotedCodes (value.codes.map Fin.val)) ++
      " does not appear to be an IPv4 or IPv6 network"))
  | .scalar (.int n) => ofOption (Cidr.ofNumber? n)
  | .scalar (.bool b) => ofOption (Cidr.ofNumber? (if b then 1 else 0))
  | .scalar (.bytes data) => ofOption (Cidr.ofBytes? data)
  | _ => .fail .notNetwork
where
  ofOption : Option Cidr → Checked Cidr
    | some network => .valid network
    | none => .fail .notNetwork

def items? : Value → Option (List Value)
  | .list items => some items
  | .pairs items => some (items.map (fun (a, b) => .list [a, b]))
  | .set items => some (items.map .scalar)
  | _ => none

def itemsFrom {α : Type} (check : Value → Checked α) (index : Nat) :
    List Value → Checked (List α)
  | [] => .valid []
  | item :: items =>
    ((Checked.valid List.cons).part ((check item).under (.index index))).part
      (itemsFrom check (index + 1) items)

def list {α : Type} (check : Value → Checked α) (v : Value) : Checked (List α) :=
  match items? v with
  | none => .fail .notList
  | some items => itemsFrom check 0 items

/-- A key as a step of a path: a text as it is, a small whole number as an index, anything
else as it would be recorded. -/
def keyStep : Scalar → Step
  | .text s => .key s
  | .illFormed value => .key (Phrase.illFormed value).spelling
  | .bool b => .index (if b then 1 else 0)
  | .int n =>
    if -0x8000000000000000 ≤ n ∧ n < 0x8000000000000000 then .index n
    else
      match Text.Numeral.write n with
      | .ok s => .key (String.ofList s)
      | .error _ => .key "<unprintable int object>"
  | .null => .key "None"
  | .float x => .key (String.ofList x.text)
  | .bytes data => .key (String.ofList (Text.quotedBytes data))
  | .date d => .key (String.ofList d.record)
  | .moment m => .key (String.ofList m.record)

/-- Entries whose keys and values are texts. A bad key is placed under the key and a mark
that it is the key that is bad. -/
def textEntries : List (Scalar × Value) → Checked (List (Phrase × Phrase))
  | [] => .valid []
  | (key, value) :: rest =>
    let step := keyStep key
    let name := ((text (.scalar key)).under (.key "[key]")).under step
    let pair := ((Checked.valid Prod.mk).part name).part ((text value).under step)
    ((Checked.valid List.cons).part pair).part (textEntries rest)

/-- Sets a name: in its place when it is there, at the end when it is not. -/
def putName {α β : Type} [DecidableEq α] (entries : List (α × β)) (name : α) (value : β) :
    List (α × β) :=
  match entries with
  | [] => [(name, value)]
  | entry :: rest =>
    if entry.1 = name then (name, value) :: rest else entry :: putName rest name value

def putNames {α β : Type} [DecidableEq α] (settings : List (α × β)) : List (α × β) :=
  settings.foldl (fun made setting => putName made setting.1 setting.2) []

/-- A mapping from texts to texts. Keys that are read as one text are one key. -/
def textMapping : Value → Checked (List (Phrase × Phrase))
  | .map entries =>
    (textEntries entries).map putNames
  | _ => .fail .notMapping

def record (name : String) : Value → Checked (List (Scalar × Value))
  | .map entries => .valid entries
  | _ => .fail (.notRecord name)

def find? (entries : List (Scalar × Value)) : List String → Option (String × Value)
  | [] => none
  | name :: names =>
    match Value.lookup? name entries with
    | some value => some (name, value)
    | none => find? entries names

def required {α : Type} (names : List String) (check : Value → Checked α)
    (entries : List (Scalar × Value)) : Checked α :=
  match find? entries names with
  | some (name, value) => (check value).under (.key name)
  | none => (Checked.fail .missing).under (.key (names.headD ""))

def optional {α : Type} (names : List String) (check : Value → Checked α) (default : α)
    (entries : List (Scalar × Value)) : Checked α :=
  match find? entries names with
  | some (name, value) => (check value).under (.key name)
  | none => .valid default

def optionalChecked {α : Type} (names : List String) (check : Value → Checked α)
    (default : Value) (entries : List (Scalar × Value)) : Checked α :=
  match find? entries names with
  | some (name, value) => (check value).under (.key name)
  | none => (check default).under (.key (names.headD ""))

end ClusterManifest.Schema
