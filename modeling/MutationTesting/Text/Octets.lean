import MutationTesting.Text.Utf8

/-!
# Octets

Texts whose characters are bytes: what a shell and its utilities count and cut are bytes, whatever
characters they belong to. A text of octets holds characters below 256 only, one for each byte.
-/

namespace MutationTesting.Octets

/-- The text whose characters are some bytes. -/
def ofBytes (bytes : List UInt8) : List Char :=
  bytes.map fun b => Char.ofNat b.toNat

/-- The bytes that the characters of a text are. -/
def toBytes (cs : List Char) : List UInt8 :=
  cs.map fun c => UInt8.ofNat c.toNat

/-- A text has ASCII characters only, which are their own octets. -/
def isAscii (text : String) : Bool :=
  text.toUTF8.size == text.length

/-- The octets of a text. -/
def ofText (text : String) : String :=
  if isAscii text then text else String.ofList (ofBytes text.toUTF8.toList)

/-- The text that octets encode; bytes that encode no character are replaced. -/
def toText (octets : String) : String :=
  if isAscii octets then octets
  else Utf8.decodeText ⟨(toBytes octets.toList).toArray⟩

/-- The bytes of octets. -/
def bytes (octets : String) : ByteArray :=
  if isAscii octets then octets.toUTF8 else ⟨(toBytes octets.toList).toArray⟩

/-- The octets of bytes. -/
def chars (bytes : ByteArray) : List Char :=
  ofBytes bytes.toList

end MutationTesting.Octets
