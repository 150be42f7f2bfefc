import GuardedInstall.Analysis.Host
import GuardedInstall.Analysis.Integer
import GuardedInstall.File.Path
import GuardedInstall.Text.Half
import GuardedInstall.Text.Utf8

/-!
# Addresses

An address is cut into scheme, user, host, port, path, query and fragment, and
each part is brought into its normal form: scheme and host in lower case, the
standard port of a scheme left out, dots in the path resolved, and characters
that may not stand in a part written as escapes. Escapes that are there already
stay as they are.
-/

namespace GuardedInstall.Analysis

/-- Why a text is no address. -/
inductive AddressError where
  | tooLong
  | control (c : Char) (position : Nat)
  /-- A part holds a half of a pair, which has no bytes. -/
  | half
  | port (text : String)
  | host (error : Host.Error) (text : String)
  | pathAfterHost
  | pathStart (start : String)
  deriving DecidableEq, Repr

/-- The message of an address error. -/
def AddressError.message : AddressError → String
  | tooLong => "URL too long"
  | control c position =>
      "Invalid non-printable ASCII character in URL, " ++
        s!"{Text.Quoted.literal c.toString} at position {position}."
  | half => "<detail>"
  | port text => s!"Invalid port: {Text.Quoted.literal text}"
  | host .fourNumbers text => s!"Invalid IPv4 address: {Text.Quoted.literal text}"
  | host .groups text => s!"Invalid IPv6 address: {Text.Quoted.literal text}"
  | host .name text => s!"Invalid IDNA hostname: {Text.Quoted.literal text}"
  | pathAfterHost => "For absolute URLs, path must be empty or begin with '/'"
  | pathStart start => s!"Relative URLs cannot have a path starting with '{start}'"

/-- An address in normal form. -/
structure Address where
  scheme : List Char
  user : List Char
  host : List Char
  port : Option Int
  path : List Char
  query : Option (List Char)
  fragment : Option (List Char)
  deriving DecidableEq, Repr

namespace Address

/-- Whether a character stands for itself in every part. -/
def isUnreserved (c : Char) : Bool :=
  c.isAlphanum || c == '-' || c == '.' || c == '_' || c == '~'

/-- Whether a character is visible ASCII and none of those given. -/
def isVisibleBut (excluded : String) (c : Char) : Bool :=
  0x20 < c.toNat && c.toNat < 0x7F && !excluded.toList.contains c

/-- Whether a character may stand in a fragment. -/
def inFragment : Char → Bool := isVisibleBut "\"<>`"

/-- Whether a character may stand in a query. -/
def inQuery : Char → Bool := isVisibleBut "\"#<>"

/-- Whether a character may stand in a path. -/
def inPath : Char → Bool := isVisibleBut "\"#<>?`\x7b\x7d"

/-- Whether a character may stand in the part of the user. -/
def inUser : Char → Bool := isVisibleBut "\"#<>?`\x7b\x7d/;=@[\\]^|"

/-- Whether a character may stand in the name of a host. -/
def inHost (c : Char) : Bool :=
  isUnreserved c || "!$&'()*+,;=\"`\x7b\x7d%|\\".toList.contains c

/-- A character as escaped bytes. -/
def escapeChar (c : Char) : List Char :=
  c.toString.toUTF8.toList.flatMap fun byte =>
    '%' :: (Text.hexFixed 2 byte.toNat).map Char.toUpper

/-- Write the characters that may not stand in a part as escapes. -/
def quote (allowed : Char → Bool) : List Char → List Char
  | [] => []
  | '%' :: a :: b :: rest =>
      if (Text.hexDigit? a).isSome && (Text.hexDigit? b).isSome then
        '%' :: a :: b :: quote allowed rest
      else (if allowed '%' then ['%'] else escapeChar '%') ++ quote allowed (a :: b :: rest)
  | c :: rest =>
      (if isUnreserved c || allowed c then [c] else escapeChar c) ++ quote allowed rest

/-- The scheme in front of a text, and what follows its colon. -/
def splitScheme (text : List Char) : List Char × List Char :=
  let isSchemeChar (c : Char) : Bool := c.isAlphanum || c == '+' || c == '.' || c == '-'
  let name := match text with
    | c :: rest => if c.isAlpha then c :: rest.takeWhile isSchemeChar else []
    | [] => []
  match text.drop name.length with
  | ':' :: rest => (name, rest)
  | _ => ([], text)

/-- The part after two slashes, and what follows it. -/
def splitAuthority (text : List Char) : List Char × List Char :=
  let isInside (c : Char) : Bool := c != '/' && c != '?' && c != '#'
  match text with
  | '/' :: '/' :: rest => (rest.takeWhile isInside, rest.dropWhile isInside)
  | _ => ([], text)

/-- The user in front of the last at sign, and what follows it. -/
def splitUser (text : List Char) : List Char × List Char :=
  if text.contains '@' then
    let host := (text.reverse.takeWhile (· != '@')).reverse
    (text.take (text.length - host.length - 1), host)
  else ([], text)

/-- The host, and the text of the port. -/
def splitHost (text : List Char) : List Char × List Char :=
  let (host, rest) :=
    if text.head? = some '[' ∧ ']' ∈ text then
      let rest := (text.reverse.takeWhile (· != ']')).reverse
      (text.take (text.length - rest.length), rest)
    else (text.takeWhile (· != ':'), text.dropWhile (· != ':'))
  match rest with
  | ':' :: port => (host, port)
  | port => (host, port)

/-- The host in normal form. -/
def normalHost (host : List Char) : Except AddressError (List Char) :=
  (Host.normal (quote inHost) host).mapError fun error => .host error (String.ofList host)

/-- The standard port of a scheme. -/
def standardPort? (scheme : List Char) : Option Int :=
  [("ftp", 21), ("http", 80), ("https", 443), ("ws", 80), ("wss", 443)].lookup
    (String.ofList scheme)

/-- The port in normal form. -/
def normalPort (port scheme : List Char) : Except AddressError (Option Int) :=
  if port = [] then .ok none
  else
    match Integer.ofText (String.ofList port) with
    | .ok number => .ok (if standardPort? scheme = some number then none else some number)
    | .error _ => .error (.port (String.ofList port))

/-- Resolve the single and double dots of a path. -/
def resolveDots : List (List Char) → List (List Char) → List (List Char)
  | before, [] => before.reverse
  | before, piece :: rest =>
      if piece = ['.'] then resolveDots before rest
      else if piece = ['.', '.'] then
        resolveDots (if before = [[]] then before else before.tail) rest
      else resolveDots (piece :: before) rest

/-- A path with its dots resolved. -/
def normalPath (path : List Char) : List Char :=
  let pieces := Text.pieces '/' path
  if pieces.contains ['.'] || pieces.contains ['.', '.'] then
    ['/'].intercalate (resolveDots [] pieces)
  else path

/-- The greatest length of an address. -/
def lengthLimit : Nat := 65536

/-- Whether a character may not stand in an address at all. -/
def isControl (c : Char) : Bool :=
  c.toNat < 0x20 || c.toNat == 0x7F

/-- Read an address. -/
def parse (text : List Char) : Except AddressError Address := do
  if lengthLimit < text.length then throw .tooLong
  match text.find? isControl with
  | some c => throw (.control c (text.takeWhile (!isControl ·)).length)
  | none => pure ()
  let (scheme, rest) := splitScheme text
  let (authority, rest) := splitAuthority rest
  let path := rest.takeWhile fun c => c != '?' && c != '#'
  let rest := rest.drop path.length
  let (query, rest) := match rest with
    | '?' :: rest => (some (rest.takeWhile (· != '#')), rest.dropWhile (· != '#'))
    | _ => (none, rest)
  let fragment := match rest with
    | '#' :: rest => some rest
    | _ => none
  let (user, rest) := splitUser authority
  let (host, port) := splitHost rest
  if user.any Text.Half.isHalf then throw .half
  let user := quote inUser user
  let host ← normalHost host
  let port ← normalPort port scheme
  let hasScheme := scheme != []
  let hasAuthority := user != [] || host != [] || port.isSome
  if hasAuthority ∧ path ≠ [] ∧ path.head? ≠ some '/' then throw .pathAfterHost
  if !hasScheme && !hasAuthority then
    if ['/', '/'].isPrefixOf path then throw (.pathStart "//")
    if [':'].isPrefixOf path then throw (.pathStart ":")
  if (path ++ query.getD [] ++ fragment.getD []).any Text.Half.isHalf then throw .half
  let path := if hasScheme || hasAuthority then normalPath path else path
  pure
    { scheme := scheme.map Char.toLower
      user, host, port
      path := quote inPath path
      query := query.map (quote inQuery)
      fragment := fragment.map (quote inFragment) }

/-- Whether an address names a host and how to reach it. -/
def isAbsolute (address : Address) : Bool :=
  address.scheme != [] && address.host != []

/-- An address that names no host, as seen from the top of an unnamed one. -/
def fromTop (address : Address) : Address :=
  { scheme := [], user := [], host := [], port := none
    path := '/' :: address.path.dropWhile (· == '/')
    query := address.query
    fragment := none }

/-- The bytes of a text in which escapes stand for bytes. -/
def unquote : List Char → List UInt8
  | [] => []
  | '%' :: a :: b :: rest =>
      match Text.hexDigit? a, Text.hexDigit? b with
      | some high, some low => UInt8.ofNat (16 * high + low) :: unquote rest
      | _, _ => '%'.toUInt8 :: unquote (a :: b :: rest)
  | c :: rest => c.toString.toUTF8.toList ++ unquote rest

/-- The name and the password of the user, with a colon between them, unless both
are empty. Bytes in them that are no characters are replaced. -/
def credentials? (address : Address) : Option (List UInt8) :=
  let name := Text.Utf8.mend (unquote (address.user.takeWhile (· != ':')))
  let password := Text.Utf8.mend (unquote ((address.user.dropWhile (· != ':')).drop 1))
  if name = [] ∧ password = [] then none else some (name ++ ':'.toUInt8 :: password)

/-- The written form of an address. -/
def toText (address : Address) : String :=
  let host :=
    if ':' ∈ address.host then '[' :: address.host ++ [']'] else address.host
  let port := (address.port.map fun port => ':' :: Decimal.integerText port).getD []
  let user := if address.user = [] then [] else address.user ++ ['@']
  let authority := user ++ host ++ port
  String.ofList
    ((if address.scheme = [] then [] else address.scheme ++ [':']) ++
      (if authority = [] then [] else '/' :: '/' :: authority) ++
      address.path ++
      (address.query.map ('?' :: ·)).getD [] ++
      (address.fragment.map ('#' :: ·)).getD [])

end Address

end GuardedInstall.Analysis
