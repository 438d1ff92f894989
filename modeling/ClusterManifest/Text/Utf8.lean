/-! UTF-8 as bytes: encoding, and strict decoding that says which bytes are wrong and
why. Over-long forms, surrogates and code points above the last one are refused at the
first byte that rules them out. -/

namespace ClusterManifest.Text

abbrev Bytes := List UInt8

namespace Utf8

def encodeChar (c : Char) : Bytes :=
  let n := c.toNat
  if n < 0x80 then [n.toUInt8]
  else if n < 0x800 then [(0xC0 + n / 64).toUInt8, (0x80 + n % 64).toUInt8]
  else if n < 0x10000 then
    [(0xE0 + n / 4096).toUInt8, (0x80 + n / 64 % 64).toUInt8, (0x80 + n % 64).toUInt8]
  else
    [(0xF0 + n / 262144).toUInt8, (0x80 + n / 4096 % 64).toUInt8,
      (0x80 + n / 64 % 64).toUInt8, (0x80 + n % 64).toUInt8]

def encode (s : List Char) : Bytes := s.flatMap encodeChar

inductive Reason
  | invalidStart
  | invalidContinuation
  | endOfData
  deriving DecidableEq, Repr

/-- The first bytes of some data that are no character: where they start, which they
are (one to three of them), and why. -/
structure Fault where
  position : Nat
  bytes : Bytes
  reason : Reason
  deriving DecidableEq, Repr

def isTail (b : UInt8) : Bool := 0x80 ≤ b && b ≤ 0xBF

/-- How a character begins: how many bytes follow the first, and the range that the
second one lies in. -/
structure Lead where
  tails : Nat
  low : UInt8
  high : UInt8

def lead? (b : UInt8) : Option Lead :=
  if 0xC2 ≤ b && b ≤ 0xDF then some ⟨1, 0x80, 0xBF⟩
  else if b == 0xE0 then some ⟨2, 0xA0, 0xBF⟩
  else if b == 0xED then some ⟨2, 0x80, 0x9F⟩
  else if 0xE1 ≤ b && b ≤ 0xEF then some ⟨2, 0x80, 0xBF⟩
  else if b == 0xF0 then some ⟨3, 0x90, 0xBF⟩
  else if 0xF1 ≤ b && b ≤ 0xF3 then some ⟨3, 0x80, 0xBF⟩
  else if b == 0xF4 then some ⟨3, 0x80, 0x8F⟩
  else none

def tailBits (b : UInt8) : Nat := b.toNat % 64

def decodeFrom (position : Nat) : Bytes → Except Fault (List Char)
  | [] => .ok []
  | a :: rest =>
    if a < 0x80 then
      (decodeFrom (position + 1) rest).map (Char.ofNat a.toNat :: ·)
    else
      match lead? a with
      | none => .error ⟨position, [a], .invalidStart⟩
      | some lead =>
        match rest with
        | [] => .error ⟨position, [a], .endOfData⟩
        | b :: rest =>
          if !(lead.low ≤ b && b ≤ lead.high) then
            .error ⟨position, [a], .invalidContinuation⟩
          else if lead.tails = 1 then
            (decodeFrom (position + 2) rest).map
              (Char.ofNat (a.toNat % 32 * 64 + tailBits b) :: ·)
          else
            match rest with
            | [] => .error ⟨position, [a, b], .endOfData⟩
            | c :: rest =>
              if !isTail c then .error ⟨position, [a, b], .invalidContinuation⟩
              else if lead.tails = 2 then
                (decodeFrom (position + 3) rest).map
                  (Char.ofNat ((a.toNat % 16 * 64 + tailBits b) * 64 + tailBits c) :: ·)
              else
                match rest with
                | [] => .error ⟨position, [a, b, c], .endOfData⟩
                | d :: rest =>
                  if !isTail d then .error ⟨position, [a, b, c], .invalidContinuation⟩
                  else
                    (decodeFrom (position + 4) rest).map
                      (Char.ofNat (((a.toNat % 8 * 64 + tailBits b) * 64 + tailBits c) * 64
                        + tailBits d) :: ·)

def decode (bytes : Bytes) : Except Fault (List Char) := decodeFrom 0 bytes

def Reason.message : Reason → String
  | .invalidStart => "invalid start byte"
  | .invalidContinuation => "invalid continuation byte"
  | .endOfData => "unexpected end of data"

/-- The fault in words: the byte itself when it is one, else the range of positions. -/
def Fault.message (fault : Fault) : String :=
  let last := fault.position + fault.bytes.length - 1
  let place :=
    match fault.bytes with
    | [b] =>
      "byte 0x" ++ String.ofList [Nat.digitChar (b.toNat / 16), Nat.digitChar (b.toNat % 16)] ++
        " in position " ++ toString fault.position
    | _ => "bytes in position " ++ toString fault.position ++ "-" ++ toString last
  "'utf-8' codec can't decode " ++ place ++ ": " ++ fault.reason.message

end Utf8

end ClusterManifest.Text
