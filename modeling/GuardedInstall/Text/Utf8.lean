import GuardedInstall.Decimal.Notation
import GuardedInstall.Text.DecimalDigit

/-!
# Bytes of characters

A character is written as one to four bytes: a first byte, whose value tells how
many follow, and bytes from a common range, of which the second one is narrowed
for some first bytes. The module finds the first bytes of a sequence that are no
character, and says why; or it puts the replacement character in the place of all
such bytes.
-/

namespace GuardedInstall.Text.Utf8

/-- Why bytes are no character. -/
inductive Reason where
  | start
  | continuation
  | truncated
  deriving DecidableEq, Repr

/-- The words for a reason. -/
def Reason.message : Reason → String
  | start => "invalid start byte"
  | continuation => "invalid continuation byte"
  | truncated => "unexpected end of data"

/-- Bytes of a sequence that are no character: the place and the value of the
first one, and their number. -/
structure Error where
  place : Nat
  byte : UInt8
  count : Nat
  reason : Reason
  deriving DecidableEq, Repr

/-- The words for an error. -/
def Error.message (error : Error) : String :=
  let bytes :=
    if error.count = 1 then
      s!"byte 0x{String.ofList (hexFixed 2 error.byte.toNat)} in position {error.place}"
    else s!"bytes in position {error.place}-{error.place + error.count - 1}"
  s!"'utf-8' codec can't decode {bytes}: {error.reason.message}"

/-- The ranges of the bytes that follow a first byte. -/
def followers? (first : UInt8) : Option (List (UInt8 × UInt8)) :=
  if first < 0x80 then some []
  else if first < 0xC2 then none
  else if first < 0xE0 then some [(0x80, 0xBF)]
  else if first = 0xE0 then some [(0xA0, 0xBF), (0x80, 0xBF)]
  else if first = 0xED then some [(0x80, 0x9F), (0x80, 0xBF)]
  else if first < 0xF0 then some [(0x80, 0xBF), (0x80, 0xBF)]
  else if first = 0xF0 then some [(0x90, 0xBF), (0x80, 0xBF), (0x80, 0xBF)]
  else if first < 0xF4 then some [(0x80, 0xBF), (0x80, 0xBF), (0x80, 0xBF)]
  else if first = 0xF4 then some [(0x80, 0x8F), (0x80, 0xBF), (0x80, 0xBF)]
  else none

/-- The number of bytes that fit the ranges in front of a sequence, and why the
next one does not if it does not. -/
def fitting : List (UInt8 × UInt8) → List UInt8 → Nat × Option Reason
  | [], _ => (0, none)
  | _ :: _, [] => (0, some .truncated)
  | (least, greatest) :: ranges, byte :: rest =>
      if least ≤ byte && byte ≤ greatest then
        let (count, reason) := fitting ranges rest
        (count + 1, reason)
      else (0, some .continuation)

/-- The first error of a sequence, whose first byte stands at a place and belongs
to a character of which so many bytes have been passed over already. -/
def errorFrom (place : Nat) (passed : Nat) : List UInt8 → Option Error
  | [] => none
  | byte :: rest =>
      match passed with
      | left + 1 => errorFrom (place + 1) left rest
      | 0 =>
          match followers? byte with
          | none => some ⟨place, byte, 1, .start⟩
          | some ranges =>
              match fitting ranges rest with
              | (count, some reason) => some ⟨place, byte, count + 1, reason⟩
              | (count, none) => errorFrom (place + 1) count rest

/-- The first error of a sequence of bytes. -/
def error? (bytes : List UInt8) : Option Error :=
  errorFrom 0 0 bytes

/-- The bytes of the replacement character. -/
def replacement : List UInt8 := [0xEF, 0xBF, 0xBD]

/-- A sequence with the replacement character in the place of each error, when so
many of its first bytes stay, and so many after them go. -/
def mendFrom : Nat → Nat → List UInt8 → List UInt8
  | _, _, [] => []
  | staying + 1, going, byte :: rest => byte :: mendFrom staying going rest
  | 0, going + 1, _ :: rest => mendFrom 0 going rest
  | 0, 0, byte :: rest =>
      match followers? byte with
      | none => replacement ++ mendFrom 0 0 rest
      | some ranges =>
          match fitting ranges rest with
          | (count, some _) => replacement ++ mendFrom 0 count rest
          | (count, none) => byte :: mendFrom count 0 rest

/-- A sequence with the replacement character in the place of each error. -/
def mend (bytes : List UInt8) : List UInt8 :=
  mendFrom 0 0 bytes

end GuardedInstall.Text.Utf8
