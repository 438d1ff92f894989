import ClusterManifest.Text.Utf8

/-! UTF-16 as bytes, in either byte order. Decoding is strict: a surrogate stands only in
a pair, and the data ends with a whole unit. -/

namespace ClusterManifest.Text.Utf16

inductive ByteOrder
  | little
  | big
  deriving DecidableEq, Repr

def units? (order : ByteOrder) : Bytes → Option (List Nat)
  | [] => some []
  | [_] => none
  | a :: b :: rest =>
    let unit :=
      match order with
      | .little => a.toNat + 256 * b.toNat
      | .big => 256 * a.toNat + b.toNat
    (units? order rest).map (unit :: ·)

def isHighSurrogate (unit : Nat) : Bool := 0xD800 ≤ unit && unit ≤ 0xDBFF

def isLowSurrogate (unit : Nat) : Bool := 0xDC00 ≤ unit && unit ≤ 0xDFFF

def pairCode (high low : Nat) : Nat :=
  0x10000 + (high - 0xD800) * 1024 + (low - 0xDC00)

/-- The text of a list of units; none when a surrogate stands alone. -/
def ofUnits? : List Nat → Option (List Char)
  | [] => some []
  | [unit] =>
    if isHighSurrogate unit || isLowSurrogate unit then none else some [Char.ofNat unit]
  | unit :: next :: rest =>
    if isHighSurrogate unit then
      if isLowSurrogate next then
        (ofUnits? rest).map (Char.ofNat (pairCode unit next) :: ·)
      else none
    else if isLowSurrogate unit then none
    else (ofUnits? (next :: rest)).map (Char.ofNat unit :: ·)

/-- The text that data encodes; none when it is not well formed. -/
def decode? (order : ByteOrder) (bytes : Bytes) : Option (List Char) :=
  (units? order bytes).bind ofUnits?

end ClusterManifest.Text.Utf16
