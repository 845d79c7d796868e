/-!
# Random identifiers

Universally unique identifiers of version 4: random bits with a mark of their version and variant,
in hexadecimal digits.
-/

namespace Dialogue.Uuid

/-- The two hexadecimal digits of a byte. -/
def hexByte (b : UInt8) : List Char :=
  [Nat.digitChar (b.toNat / 16), Nat.digitChar (b.toNat % 16)]

/-- The hexadecimal digits of bytes. -/
def hexBytes (bytes : List UInt8) : List Char := bytes.flatMap hexByte

/-- The bytes with the version in the seventh and the variant in the ninth. -/
def mark (bytes : List UInt8) : List UInt8 :=
  bytes.mapIdx fun i b =>
    if i = 6 then 0x40 ||| (b &&& 0x0f) else if i = 8 then 0x80 ||| (b &&& 0x3f) else b

/-- The identifier of sixteen random bytes. -/
def ofBytes (bytes : List UInt8) : String :=
  let marked := mark bytes
  let group (start count : Nat) : String :=
    String.ofList (hexBytes ((marked.drop start).take count))
  "-".intercalate [group 0 4, group 4 2, group 6 2, group 8 2, group 10 6]

end Dialogue.Uuid
