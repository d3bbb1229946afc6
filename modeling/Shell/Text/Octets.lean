import Shell.Text.Bytes

/-!
# Texts of octets

Programs handle text byte by byte and keep bytes that are no characters of their own. For them a
text is a string in which every character stands for the byte of its number: `octets` reads bytes
so, and `octetBytes` gives them back.
-/

namespace Shell

/-- The text in which each character stands for one byte. -/
def octets (bytes : Bytes) : String :=
  String.ofList (bytes.map fun b => Char.ofNat b.toNat)

/-- The bytes that the characters of a text stand for. -/
def octetBytes (text : String) : Bytes :=
  text.toList.map fun c => c.toNat.toUInt8

/-- The octets of the UTF-8 form of a text. -/
def toOctets (s : String) : String :=
  octets (encode s)

/-- The text whose UTF-8 form a text of octets is; malformed parts are replaced. -/
def ofOctets (text : String) : String :=
  decodeLossy (octetBytes text)

end Shell
