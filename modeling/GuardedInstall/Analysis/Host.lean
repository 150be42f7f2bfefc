import GuardedInstall.Analysis.Label
import GuardedInstall.Decimal.Notation
import GuardedInstall.Text.DecimalDigit
import GuardedInstall.Text.LowerCase
import GuardedInstall.Text.Pieces

/-!
# Hosts

A host is given by four numbers, by eight groups between brackets, or by a
name. A name beyond ASCII is written in ASCII label by label.
-/

namespace GuardedInstall.Analysis.Host

/-- What is wrong with a host. -/
inductive Error where
  | fourNumbers
  | groups
  | name
  deriving DecidableEq, Repr

/-- Whether a text is one of the four numbers of a host. -/
def isNumber (text : List Char) : Bool :=
  text != [] && text.length ≤ 3 && text.all Char.isDigit &&
    (text == ['0'] || text.head? != some '0') &&
    Text.ofDigits 10 (text.filterMap Text.asciiDigit?) ≤ 255

/-- Whether a text is a host of four numbers. -/
def isFourNumbers (text : List Char) : Bool :=
  (Text.pieces '.' text).length == 4 && (Text.pieces '.' text).all isNumber

/-- Whether a text has the look of a host of four numbers: four runs of digits
with dots between them. -/
def looksLikeNumbers (text : List Char) : Bool :=
  (Text.pieces '.' text).length == 4 &&
    (Text.pieces '.' text).all fun piece => piece != [] && piece.all Char.isDigit

/-- Whether a text is a group of a bracketed host. -/
def isGroup (text : List Char) : Bool :=
  text != [] && text.length ≤ 4 && text.all fun c => (Text.hexDigit? c).isSome

/-- Whether a text may stand between the brackets of a host: eight groups, or
fewer with one gap; the last two may be written as four numbers. A zone may
follow a percent sign. -/
def isGroups (text : List Char) : Bool :=
  let zone := (text.dropWhile (· != '%')).drop 1
  let zoneFits := if text.contains '%' then zone != [] && !zone.contains '%' else true
  let pieces := Text.pieces ':' (text.takeWhile (· != '%'))
  let pieces := match pieces.getLast? with
    | some last => if isFourNumbers last then pieces.dropLast ++ [['0'], ['0']] else pieces
    | none => pieces
  let inner := (pieces.drop 1).dropLast
  let gaps := (inner.filter (· == [])).length
  let first := pieces.head?.getD []
  let last := pieces.getLast?.getD []
  let groups := pieces.filter (· != [])
  zoneFits && groups.all isGroup && 3 ≤ pieces.length && pieces.length ≤ 9 &&
    (match gaps with
      | 0 => pieces.length == 8 && first != [] && last != []
      | 1 =>
          groups.length ≤ 7 &&
            (first != [] || pieces[1]? == some []) &&
            (last != [] || pieces[pieces.length - 2]? == some [])
      | 2 => pieces == [[], [], []]
      | _ => false)

/-- Whether a character separates the labels of a name. -/
def isDot (c : Char) : Bool :=
  c == '.' || c == '\u3002' || c == '\uff0e' || c == '\uff61'

/-- The greatest length of a name, without a dot at its end. -/
def nameLimit : Nat := 253

/-- The ASCII form of a name beyond ASCII. A dot at the end stays. -/
def name? (text : List Char) : Option (List Char) := do
  let pieces := Text.piecesAt isDot text
  let (pieces, ending) :=
    if pieces.getLast? = some [] then (pieces.dropLast, ['.']) else (pieces, [])
  let labels ← pieces.mapM Label.toAscii?
  let name := ['.'].intercalate labels
  if name != [] && name.length ≤ nameLimit then pure (name ++ ending) else none

/-- The host in normal form, given how a name in ASCII is written. -/
def normal (write : List Char → List Char) (host : List Char) :
    Except Error (List Char) :=
  if host = [] then .ok []
  else if looksLikeNumbers host then
    if isFourNumbers host then .ok host else .error .fourNumbers
  else if host.head? = some '[' ∧ host.getLast? = some ']' then
    let inner := (host.drop 1).dropLast
    if isGroups inner then .ok inner else .error .groups
  else if host.all fun c => c.toNat < 0x80 then .ok (write (host.map Char.toLower))
  else
    match name? (Text.lower host) with
    | some name => .ok name
    | none => .error .name

end GuardedInstall.Analysis.Host
