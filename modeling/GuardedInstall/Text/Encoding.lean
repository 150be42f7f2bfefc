import GuardedInstall.Text.Half

/-!
# Texts in bytes

A document may come in one of three encodings, told by the mark at its start
or by where its first bytes are zero. The units of two and of four bytes come
in either order. A half of a pair that stands alone is let through in all of
them.
-/

namespace GuardedInstall.Text.Encoding

/-- The order of the bytes of a unit. -/
inductive Order where
  | big
  | little
  deriving DecidableEq, Repr

/-- An encoding of texts in bytes. -/
inductive Scheme where
  | utf8
  | utf16 (order : Order)
  | utf32 (order : Order)
  deriving DecidableEq, Repr

/-- The encoding of a document, and the document without its mark. -/
def detect : List UInt8 → Scheme × List UInt8
  | 0 :: 0 :: 0xFE :: 0xFF :: rest => (.utf32 .big, rest)
  | 0xFF :: 0xFE :: 0 :: 0 :: rest => (.utf32 .little, rest)
  | 0xFE :: 0xFF :: rest => (.utf16 .big, rest)
  | 0xFF :: 0xFE :: rest => (.utf16 .little, rest)
  | 0xEF :: 0xBB :: 0xBF :: rest => (.utf8, rest)
  | a :: b :: c :: d :: rest =>
      let all := a :: b :: c :: d :: rest
      if a = 0 then (if b = 0 then .utf32 .big else .utf16 .big, all)
      else if b = 0 then (if c = 0 ∧ d = 0 then .utf32 .little else .utf16 .little, all)
      else (.utf8, all)
  | [a, b] =>
      if a = 0 then (.utf16 .big, [a, b])
      else if b = 0 then (.utf16 .little, [a, b])
      else (.utf8, [a, b])
  | bytes => (.utf8, bytes)

/-- The unit of two bytes. -/
def unit16 (order : Order) (a b : UInt8) : Nat :=
  match order with
  | .big => a.toNat * 0x100 + b.toNat
  | .little => b.toNat * 0x100 + a.toNat

/-- The units of two bytes each, if none is left over. -/
def units16 (order : Order) : List UInt8 → Option (List Nat)
  | [] => some []
  | a :: b :: rest => (units16 order rest).map (unit16 order a b :: ·)
  | [_] => none

/-- The units of four bytes each, if none is left over. -/
def units32 (order : Order) : List UInt8 → Option (List Nat)
  | [] => some []
  | a :: b :: c :: d :: rest =>
      let unit := match order with
        | .big => unit16 .big a b * 0x10000 + unit16 .big c d
        | .little => unit16 .little c d * 0x10000 + unit16 .little a b
      (units32 order rest).map (unit :: ·)
  | _ => none

/-- The character with a number. -/
def ofCode? (code : Nat) : Option Char :=
  if 0x110000 ≤ code then none else some (Half.ofCode code)

/-- The characters of units of two bytes. -/
def pairs : List Nat → List Char
  | [] => []
  | [unit] => [Half.ofCode unit]
  | high :: low :: rest =>
      if Half.isHigh high && Half.isLow low then Half.joined high low :: pairs rest
      else Half.ofCode high :: pairs (low :: rest)

/-- The text of bytes that are whole characters, the last byte first. -/
def whole? (bytes : List UInt8) : Option (List Char) :=
  (String.fromUTF8? (ByteArray.mk bytes.reverse.toArray)).map String.toList

/-- The text of single bytes. A half takes three bytes, of which the first one
begins nothing else but a character below the halves; the bytes that were passed
since the last half come with the last one first. -/
def bytes? (passed : List UInt8) : List UInt8 → Option (List Char)
  | [] => whole? passed
  | 0xED :: b :: c :: rest =>
      if 0xA0 ≤ b && b ≤ 0xBF && 0x80 ≤ c && c ≤ 0xBF then do
        let before ← whole? passed
        let later ← bytes? [] rest
        let unit := 0xD000 + (b.toNat - 0x80) * 0x40 + (c.toNat - 0x80)
        pure (before ++ Half.ofCode unit :: later)
      else bytes? (0xED :: passed) (b :: c :: rest)
  | byte :: rest => bytes? (byte :: passed) rest

/-- The text of a document in bytes. -/
def decode (content : ByteArray) : Option (List Char) :=
  match detect content.toList with
  | (.utf8, bytes) => bytes? [] bytes
  | (.utf16 order, bytes) => (units16 order bytes).map pairs
  | (.utf32 order, bytes) => (units32 order bytes).bind fun units => units.mapM ofCode?

end GuardedInstall.Text.Encoding
