import ClusterManifest.Json.Reader

/-! The grammar of JSON texts, in which the names NaN, Infinity and -Infinity are values besides. A
word is exactly what writes a value; the white space around it belongs to what it stands in. Which
digits a whole number may have is left open, since a reader has a limit where the grammar has
none. -/

namespace ClusterManifest.Json

open Text (isAsciiDigit)
open Text.Utf16 (isHighSurrogate isLowSurrogate pairCode)

def Spaces (s : List Char) : Prop := ∀ c ∈ s, c ∈ [' ', '\t', '\n', '\r']

theorem spaces_nil : Spaces [] := fun _ among => nomatch among

inductive Word : List Char → Json → Prop
  | null : Word "null".toList .null
  | true : Word "true".toList (.bool Bool.true)
  | false : Word "false".toList (.bool Bool.false)
  | nan : Word "NaN".toList (.float .nan)
  | infinity : Word "Infinity".toList (.float (.infinite Bool.false))
  | negativeInfinity : Word "-Infinity".toList (.float (.infinite Bool.true))

/-- One digit or more. -/
structure Digits (s : List Char) : Prop where
  nonempty : s ≠ []
  plain : ∀ c ∈ s, isAsciiDigit c = true

/-- The digits of a number before its point: a zero stands in front of no other digit. -/
structure Whole (s : List Char) : Prop extends Digits s where
  leading : ∀ t, s = '0' :: t → t = []

def worth (digits : List Char) : Nat := Text.ofDigits 10 (digits.map Text.asciiDigitValue)

/-- What may follow the whole part of a number: nothing, or a point and digits. -/
inductive Fraction : List Char → List Char → Prop
  | none : Fraction [] []
  | some {digits : List Char} : Digits digits → Fraction ('.' :: digits) digits

inductive ExponentSign : List Char → Bool → Prop
  | none : ExponentSign [] false
  | plus : ExponentSign ['+'] false
  | minus : ExponentSign ['-'] true

def signed (negative : Bool) (n : Nat) : Int := if negative then -n else n

inductive Exponent : List Char → Int → Prop
  | none : Exponent [] 0
  | some {letter : Char} {sign digits : List Char} {negative : Bool} :
    letter = 'e' ∨ letter = 'E' → ExponentSign sign negative → Digits digits →
    Exponent (letter :: (sign ++ digits)) (signed negative (worth digits))

def minus (negative : Bool) (s : List Char) : List Char := if negative then '-' :: s else s

inductive Number (fits : List Char → Prop) : List Char → Json → Prop
  | whole {negative : Bool} {digits : List Char} : Whole digits → fits digits →
    Number fits (minus negative digits) (.int (signed negative (worth digits)))
  | decimal {negative : Bool} {digits point places power : List Char} {exponent : Int} :
    Whole digits → Fraction point places → Exponent power exponent → point ++ power ≠ [] →
    Number fits (minus negative (digits ++ (point ++ power)))
      (.float (Binary64.ofDecimal negative (worth (digits ++ places)) (exponent - places.length)))

/-- Four hexadecimal digits and the code they write. -/
inductive Hex : List Char → Nat → Prop
  | digits {a b c d : Char} {i j k l : Nat} : Text.hexDigit? a = some i →
    Text.hexDigit? b = some j → Text.hexDigit? c = some k → Text.hexDigit? d = some l →
    Hex [a, b, c, d] (Text.ofDigits 16 [i, j, k, l])

/-- The escapes of one letter. -/
inductive Letter : Char → Char → Prop
  | quote : Letter '"' '"'
  | backslash : Letter '\\' '\\'
  | slash : Letter '/' '/'
  | backspace : Letter 'b' '\x08'
  | formFeed : Letter 'f' '\x0c'
  | lineFeed : Letter 'n' '\n'
  | carriageReturn : Letter 'r' '\r'
  | tab : Letter 't' '\t'

def StartsLow (s : List Char) : Prop :=
  ∃ digits code rest, s = '\\' :: 'u' :: (digits ++ rest) ∧ Hex digits code ∧
    isLowSurrogate code = true

/-- What stands between the quotes of a string, and the text it writes. Two escapes that are a pair
of surrogates write one character; a surrogate by itself writes none and is replaced. -/
inductive Body : List Char → List Char → Prop
  | empty : Body [] []
  | plain {c : Char} {s text : List Char} : 32 ≤ c.toNat → c ≠ '"' → c ≠ '\\' → Body s text →
    Body (c :: s) (c :: text)
  | letter {l c : Char} {s text : List Char} : Letter l c → Body s text →
    Body ('\\' :: l :: s) (c :: text)
  | unit {digits s text : List Char} {code : Nat} : Hex digits code →
    isHighSurrogate code = false → isLowSurrogate code = false → Body s text →
    Body ('\\' :: 'u' :: (digits ++ s)) (Char.ofNat code :: text)
  | pair {first second s text : List Char} {high low : Nat} : Hex first high → Hex second low →
    isHighSurrogate high = true → isLowSurrogate low = true → Body s text →
    Body ('\\' :: 'u' :: (first ++ ('\\' :: 'u' :: (second ++ s))))
      (Char.ofNat (pairCode high low) :: text)
  | alone {digits s text : List Char} {code : Nat} : Hex digits code →
    (isHighSurrogate code = true ∧ ¬StartsLow s) ∨ isLowSurrogate code = true → Body s text →
    Body ('\\' :: 'u' :: (digits ++ s)) ('\uFFFD' :: text)

mutual

inductive Value (fits : List Char → Prop) : List Char → Json → Prop
  | word {w : List Char} {v : Json} : Word w v → Value fits w v
  | number {w : List Char} {v : Json} : Number fits w v → Value fits w v
  | string {s text : List Char} : Body s text →
    Value fits ('"' :: (s ++ ['"'])) (.string (String.ofList text))
  | emptyArray {a : List Char} : Spaces a → Value fits ('[' :: (a ++ [']'])) (.array [])
  | array {a w : List Char} {items : List Json} : Spaces a → Elements fits w items →
    Value fits ('[' :: (a ++ (w ++ [']']))) (.array items)
  | emptyObject {a : List Char} : Spaces a → Value fits ('\x7b' :: (a ++ ['\x7d'])) (.object [])
  | object {a w : List Char} {members : List (String × Json)} : Spaces a →
    Members fits w members → Value fits ('\x7b' :: (a ++ (w ++ ['\x7d']))) (.object members)

/-- Values with commas between them, from the first one to the closing bracket. -/
inductive Elements (fits : List Char → Prop) : List Char → List Json → Prop
  | last {w a : List Char} {v : Json} : Value fits w v → Spaces a → Elements fits (w ++ a) [v]
  | more {w a b s : List Char} {v : Json} {items : List Json} : Value fits w v → Spaces a →
    Spaces b → Elements fits s items → Elements fits (w ++ (a ++ ',' :: (b ++ s))) (v :: items)

/-- Names with values, and commas between them, from the first one to the closing brace. -/
inductive Members (fits : List Char → Prop) : List Char → List (String × Json) → Prop
  | last {n name a b w c : List Char} {v : Json} : Body n name → Spaces a → Spaces b →
    Value fits w v → Spaces c →
    Members fits ('"' :: (n ++ '"' :: (a ++ ':' :: (b ++ (w ++ c))))) [(String.ofList name, v)]
  | more {n name a b w c d s : List Char} {v : Json} {members : List (String × Json)} :
    Body n name → Spaces a → Spaces b → Value fits w v → Spaces c → Spaces d →
    Members fits s members →
    Members fits ('"' :: (n ++ '"' :: (a ++ ':' :: (b ++ (w ++ (c ++ ',' :: (d ++ s)))))))
      ((String.ofList name, v) :: members)

end

/-- A whole text: one value, and white space around it. -/
def Writes (fits : List Char → Prop) (s : List Char) (v : Json) : Prop :=
  ∃ a w b, s = a ++ (w ++ b) ∧ Spaces a ∧ Value fits w v ∧ Spaces b

section Wider

variable {fits fits' : List Char → Prop} {w : List Char} {v : Json}

theorem Number.imp (wider : ∀ digits, fits digits → fits' digits) :
    Number fits w v → Number fits' w v
  | .whole digits fit => .whole digits (wider _ fit)
  | .decimal digits fraction exponent longer => .decimal digits fraction exponent longer

mutual

theorem Value.imp (wider : ∀ digits, fits digits → fits' digits) {w : List Char} {v : Json} :
    Value fits w v → Value fits' w v
  | .word written => .word written
  | .number written => .number (written.imp wider)
  | .string body => .string body
  | .emptyArray spaces => .emptyArray spaces
  | .array spaces written => .array spaces (Elements.imp wider written)
  | .emptyObject spaces => .emptyObject spaces
  | .object spaces written => .object spaces (Members.imp wider written)

theorem Elements.imp (wider : ∀ digits, fits digits → fits' digits) {w : List Char}
    {items : List Json} : Elements fits w items → Elements fits' w items
  | .last written spaces => .last (Value.imp wider written) spaces
  | .more written spaces spaces' others =>
    .more (Value.imp wider written) spaces spaces' (Elements.imp wider others)

theorem Members.imp (wider : ∀ digits, fits digits → fits' digits) {w : List Char}
    {members : List (String × Json)} : Members fits w members → Members fits' w members
  | .last name spaces spaces' written after =>
    .last name spaces spaces' (Value.imp wider written) after
  | .more name spaces spaces' written after between others =>
    .more name spaces spaces' (Value.imp wider written) after between (Members.imp wider others)

end

theorem Writes.imp {s : List Char} (wider : ∀ digits, fits digits → fits' digits)
    (written : Writes fits s v) : Writes fits' s v := by
  obtain ⟨a, w, b, same, spaces, written, spaces'⟩ := written
  exact ⟨a, w, b, same, spaces, written.imp wider, spaces'⟩

end Wider

/-- What the reader can take as a whole number. -/
def Short (digits : List Char) : Prop := digits.length ≤ Text.Numeral.digitLimit

def NoDigit (rest : List Char) : Prop := ∀ c t, rest = c :: t → isAsciiDigit c = false

def NoFraction (rest : List Char) : Prop :=
  ∀ point places t, Fraction point places → rest = point ++ t → point = []

def NoExponent (rest : List Char) : Prop :=
  ∀ power exponent t, Exponent power exponent → rest = power ++ t → power = []

/-- A whole number goes on neither with digits nor as a decimal. -/
structure NumberEnd (rest : List Char) : Prop where
  digit : NoDigit rest
  fraction : NoFraction rest
  exponent : NoExponent rest

mutual

/-- Texts that begin like a value, with nothing wrong before a whole number in it that has too many
digits to be taken. What comes after the number is left open. -/
inductive Overlong : List Char → Prop
  | number {negative : Bool} {digits rest : List Char} : Whole digits → ¬Short digits →
    NumberEnd rest → Overlong (minus negative digits ++ rest)
  | array {a s : List Char} : Spaces a → OverlongElements s → Overlong ('[' :: (a ++ s))
  | object {a s : List Char} : Spaces a → OverlongMembers s → Overlong ('\x7b' :: (a ++ s))

inductive OverlongElements : List Char → Prop
  | here {s : List Char} : Overlong s → OverlongElements s
  | later {w a b s : List Char} {v : Json} : Value Short w v → Spaces a → Spaces b →
    OverlongElements s → OverlongElements (w ++ (a ++ ',' :: (b ++ s)))

inductive OverlongMembers : List Char → Prop
  | here {n name a b s : List Char} : Body n name → Spaces a → Spaces b → Overlong s →
    OverlongMembers ('"' :: (n ++ '"' :: (a ++ ':' :: (b ++ s))))
  | later {n name a b w c d s : List Char} {v : Json} : Body n name → Spaces a → Spaces b →
    Value Short w v → Spaces c → Spaces d → OverlongMembers s →
    OverlongMembers ('"' :: (n ++ '"' :: (a ++ ':' :: (b ++ (w ++ (c ++ ',' :: (d ++ s)))))))

end

def OverlongText (s : List Char) : Prop := ∃ a t, s = a ++ t ∧ Spaces a ∧ Overlong t

end ClusterManifest.Json
