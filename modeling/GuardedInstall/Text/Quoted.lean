import GuardedInstall.Text.DecimalDigit
import GuardedInstall.Text.Half
import GuardedInstall.Text.Printable

/-!
# Quoted literals

A text shown inside a message is quoted, so that its ends and its unprintable
characters can be seen. Single quotes are used unless the text holds a single
quote and no double quote.
-/

namespace GuardedInstall.Text.Quoted

/-- The quote that encloses a text. -/
def quoteFor (text : List Char) : Char :=
  if '\'' ∈ text ∧ '"' ∉ text then '"' else '\''

/-- The written form of one character between the given quotes. -/
def encodeChar (quote c : Char) : List Char :=
  if c = quote ∨ c = '\\' then ['\\', c]
  else if c = '\t' then ['\\', 't']
  else if c = '\n' then ['\\', 'n']
  else if c = '\r' then ['\\', 'r']
  else if isPrintable c then [c]
  else if c.toNat < 0x100 then '\\' :: 'x' :: hexFixed 2 c.toNat
  else if Half.code c < 0x10000 then '\\' :: 'u' :: hexFixed 4 (Half.code c)
  else '\\' :: 'U' :: hexFixed 8 c.toNat

/-- The quoted literal of a text. -/
def encode (text : List Char) : List Char :=
  let quote := quoteFor text
  quote :: text.flatMap (encodeChar quote) ++ [quote]

/-- The quoted literal of a string. -/
def literal (text : String) : String :=
  String.ofList (encode text.toList)

end GuardedInstall.Text.Quoted
