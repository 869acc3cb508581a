import SchemaMigration.Files.Name
import SchemaMigration.Number.Digits

/-!
# Percent encoding

In a URL some characters are written as `%XX`, one for each byte of their UTF-8
form. Which ones depends on the part of the URL; those beyond ASCII always are.
-/

namespace SchemaMigration.Url

/-- The ASCII characters that a part of a URL cannot hold as they are. -/
abbrev EncodeSet := Char → Bool

def isControl (c : Char) : Bool := c.toNat < 0x20 || c.toNat == 0x7F

def controlSet : EncodeSet := isControl

def querySet : EncodeSet := fun c => isControl c || " \"#<>".toList.contains c

def fragmentSet : EncodeSet := fun c => isControl c || " \"<>`".toList.contains c

def pathSet : EncodeSet := fun c => fragmentSet c || "#?\x7b\x7d".toList.contains c

/-- For user names and passwords. -/
def userinfoSet : EncodeSet := fun c => pathSet c || "/:;=@[\\]^|".toList.contains c

def upperHexDigit (n : Nat) : Char := (Nat.digitChar n).toUpper

def encodeByte (b : UInt8) : List Char :=
  ['%', upperHexDigit (b.toNat / 16), upperHexDigit (b.toNat % 16)]

def encodeChar (set : EncodeSet) (c : Char) : List Char :=
  if set c ∨ 0x80 ≤ c.toNat then (Files.utf8Bytes c.toString).flatMap encodeByte else [c]

def encode (set : EncodeSet) (cs : List Char) : List Char := cs.flatMap (encodeChar set)

end SchemaMigration.Url
