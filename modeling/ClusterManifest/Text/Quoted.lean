import ClusterManifest.Text.Digit
import ClusterManifest.Text.Printable
import ClusterManifest.Text.Utf8

/-! How a text is quoted inside a message: between single quotes, or between double ones
when it holds a single quote and no double one, with an escape for everything that is not
printable. The same for raw bytes, where all but ASCII is escaped. -/

namespace ClusterManifest.Text

def quoteMark (codes : List Nat) : Nat :=
  if codes.contains 39 && !codes.contains 34 then 34 else 39

def quotedCode (mark code : Nat) : List Char :=
  if code = mark || code = 92 then ['\\', Char.ofNat code]
  else if code = 9 then ['\\', 't']
  else if code = 10 then ['\\', 'n']
  else if code = 13 then ['\\', 'r']
  else if isPrintable code then [Char.ofNat code]
  else if code < 0x100 then '\\' :: 'x' :: hexPadded 2 code
  else if code < 0x10000 then '\\' :: 'u' :: hexPadded 4 code
  else '\\' :: 'U' :: hexPadded 8 code

def quotedCodes (codes : List Nat) : List Char :=
  let mark := quoteMark codes
  Char.ofNat mark :: codes.flatMap (quotedCode mark) ++ [Char.ofNat mark]

def quoted (s : List Char) : List Char := quotedCodes (s.map Char.toNat)

def quotedString (s : String) : String := String.ofList (quoted s.toList)

def quotedByte (mark : Nat) (byte : UInt8) : List Char :=
  let code := byte.toNat
  if code < 0x7F then quotedCode mark code else '\\' :: 'x' :: hexPadded 2 code

def quotedBytes (bytes : Bytes) : List Char :=
  let mark := quoteMark (bytes.map UInt8.toNat)
  'b' :: Char.ofNat mark :: bytes.flatMap (quotedByte mark) ++ [Char.ofNat mark]

example : quotedString "it's \"so\"" = "'it\\'s \"so\"'" := by decide +kernel
example : quotedString "it's" = "\"it's\"" := by decide +kernel

end ClusterManifest.Text
