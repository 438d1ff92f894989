import ClusterManifest.Calendar
import ClusterManifest.Value
import ClusterManifest.Yaml.Fault

/-! Dates and times as YAML writes them: a date alone, or a date with a time of day, which
may have a fraction of a second and an offset from universal time. -/

namespace ClusterManifest.Yaml.Timestamp

/-- An offset as it is written: universal time itself, or a sign with hours and minutes. -/
inductive Zone
  | universal
  | offset (negative : Bool) (hours minutes : Nat)
  deriving DecidableEq, Repr

structure Time where
  hour : Nat
  minute : Nat
  second : Nat
  /-- The digits after the point. -/
  fraction : List Char
  zone : Option Zone
  deriving DecidableEq, Repr

/-- The parts of a date or time; month and day as digits, of which there may be one or
two. -/
structure Parts where
  year : Nat
  month : List Char
  day : List Char
  time : Option Time
  deriving DecidableEq, Repr

def number (digits : List Char) : Nat := Text.ofDigits 10 (digits.map Text.asciiDigitValue)

/-- The digits at the start of a text, as many as there are up to a limit, and what follows
them; none when there are too few. -/
def digits? (least most : Nat) (s : List Char) : Option (List Char × List Char) :=
  let run := (s.take most).takeWhile Text.isAsciiDigit
  if run.length < least then none else some (run, s.drop run.length)

def after? (c : Char) : List Char → Option (List Char)
  | [] => none
  | d :: rest => if d = c then some rest else none

/-- The offset at the end of a time, white space before it allowed; nothing when the time
ends without one. -/
def zone? (s : List Char) : Option (Option Zone) :=
  if s.isEmpty then some none
  else
    match s.dropWhile (fun c => c == ' ' || c == '\t') with
    | ['Z'] => some (some .universal)
    | sign :: rest => do
      if sign = '+' ∨ sign = '-' then
        let (hours, rest) ← digits? 1 2 rest
        if rest.isEmpty then some (some (.offset (sign = '-') (number hours) 0))
        else do
          let (minutes, rest) ← digits? 2 2 (← after? ':' rest)
          if rest.isEmpty then
            some (some (.offset (sign = '-') (number hours) (number minutes)))
          else none
      else none
    | [] => none

def time? (s : List Char) : Option Time := do
  let (hour, s) ← digits? 1 2 s
  let (minute, s) ← digits? 2 2 (← after? ':' s)
  let (second, s) ← digits? 2 2 (← after? ':' s)
  let (fraction, s) :=
    match s with
    | '.' :: rest => (rest.takeWhile Text.isAsciiDigit, rest.dropWhile Text.isAsciiDigit)
    | s => ([], s)
  let zone ← zone? s
  some ⟨number hour, number minute, number second, fraction, zone⟩

def afterSeparator? : List Char → Option (List Char)
  | 'T' :: rest => some rest
  | 't' :: rest => some rest
  | s =>
    let rest := s.dropWhile (fun c => c == ' ' || c == '\t')
    if rest.length < s.length then some rest else none

def parts? (s : List Char) : Option Parts := do
  let (year, s) ← digits? 4 4 s
  let (month, s) ← digits? 1 2 (← after? '-' s)
  let (day, s) ← digits? 1 2 (← after? '-' s)
  if s.isEmpty then some ⟨number year, month, day, none⟩
  else
    let time ← time? (← afterSeparator? s)
    some ⟨number year, month, day, some time⟩

/-- What a plain scalar must look like to be a date or time: a date alone has two digits
for month and day. -/
def isPlain (s : List Char) : Bool :=
  match parts? s with
  | none => false
  | some parts => parts.time.isSome || (parts.month.length = 2 && parts.day.length = 2)

def microseconds (fraction : List Char) : Nat :=
  let kept := fraction.take 6
  number (kept ++ List.replicate (6 - kept.length) '0')

def Zone.seconds : Zone → Int
  | .universal => 0
  | .offset negative hours minutes =>
    let seconds : Int := hours * 3600 + minutes * 60
    if negative then -seconds else seconds

def ofParts (parts : Parts) : Except Calendar.Fault Scalar := do
  match parts.time with
  | none =>
    let date ← Calendar.date parts.year (number parts.month) (number parts.day)
    .ok (.date date)
  | some time =>
    let offset ←
      match time.zone with
      | none => pure none
      | some zone => do
        let seconds ← Calendar.offset zone.seconds
        pure (some seconds)
    let date ← Calendar.date parts.year (number parts.month) (number parts.day)
    let moment ← Calendar.moment date time.hour time.minute time.second
      (microseconds time.fraction) offset
    .ok (.moment moment)

/-- The date or moment that a text names, a line feed at its end not counting. -/
def read (s : List Char) : Except Fault Scalar :=
  let body := if s.getLast? == some '\n' then s.dropLast else s
  match parts? body with
  | none => .error .notTimestamp
  | some parts =>
    match ofParts parts with
    | .ok scalar => .ok scalar
    | .error fault => .error (.calendar fault)

end ClusterManifest.Yaml.Timestamp
