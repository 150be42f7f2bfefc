import GuardedInstall.File.System
import GuardedInstall.Lockfile.Berry
import GuardedInstall.Lockfile.Classic

/-!
# Reading lockfiles

A lockfile is read whole: its bytes are a text in UTF-8, the text is of the
classic kind or a document, and the entries of either give the dependencies in
order and without repeats. A file that cannot be read or understood is refused
with a cause.
-/

namespace GuardedInstall.Lockfile

/-- Why a lockfile is refused. -/
inductive Refusal where
  | format (name : String)
  | unreadable (path : String) (error : File.AccessError)
  | notADocument (path : String) (detail : String)
  | classic (error : Classic.Error)
  | berry (path : String) (error : Berry.Error)
  deriving DecidableEq, Repr

/-- The message of a refusal. -/
def Refusal.message : Refusal → String
  | format name => s!"Unsupported lockfile format `{name}`"
  | unreadable path error => s!"Failed to read lockfile {path}: {error.message}"
  | notADocument path detail => s!"Malformed yarn lockfile {path}: {detail}"
  | classic (.header line) => s!"Malformed yarn lockfile header `{line}`"
  | classic (.descriptor error) => error.message
  | berry path .notAMapping => s!"Malformed yarn lockfile {path}: expected a mapping"
  | berry path (.entryNotAMapping key) =>
      s!"Malformed yarn lockfile {path}: entry `{key}` is not a mapping"
  | berry path (.entryIncomplete key) =>
      s!"Malformed yarn lockfile {path}: entry `{key}` lacks resolution/version"
  | berry _ (.descriptor error) => error.message

/-- A fault of reading a lockfile that is not told as a refusal: bytes that are
no text, a path that cannot be opened, or an escape or a version number that is
out of range. -/
inductive Fault where
  | notUtf8
  | nullByte
  /-- The path holds a half of a pair, which has no bytes. -/
  | half
  | beyondUnicode
  | beyondWord
  | tooManyDigits (count : Nat)
  deriving DecidableEq, Repr

/-- The message of a fault. -/
def Fault.message : Fault → String
  | notUtf8 => ""
  | nullByte => "embedded null byte"
  | half => ""
  | beyondUnicode => Yaml.Error.beyondUnicode.message []
  | beyondWord => Yaml.Error.beyondWord.message []
  | tooManyDigits count => (Yaml.Error.tooManyDigits count).message []

/-- Why no dependencies are given. -/
inductive Failure where
  | refused (refusal : Refusal)
  | fault (fault : Fault)
  deriving DecidableEq, Repr

/-- The formats that are understood. -/
def formats : List String := ["yarn"]

/-- The dependencies of a text of the newer kind. -/
def parseDocument (path : String) (text : List Char) : Except Failure (List Dependency) :=
  match Yaml.read text with
  | .ok document =>
      (Berry.dependencies document).mapError fun error => .refused (.berry path error)
  | .error .beyondUnicode => .error (.fault .beyondUnicode)
  | .error .beyondWord => .error (.fault .beyondWord)
  | .error (.tooManyDigits count) => .error (.fault (.tooManyDigits count))
  | .error error => .error (.refused (.notADocument path (error.message text)))

/-- The dependencies of a text, in order and without repeats. -/
def parseText (path : String) (text : List Char) : Except Failure (List Dependency) := do
  let text := Text.normaliseNewlines text
  let found ←
    if Classic.isClassic text then
      (Classic.dependencies text).mapError fun error => .refused (.classic error)
    else parseDocument path text
  pure (withoutRepeats [] found)

/-- The dependencies of a file. -/
def parse (files : File.System) (path : File.Path) (format : String) :
    Except Failure (List Dependency) :=
  if format ∉ formats then .error (.refused (.format format))
  else
    match files.read path with
    | .error error =>
        if error.failure = .nullByte then .error (.fault .nullByte)
        else if error.failure = .half then .error (.fault .half)
        else .error (.refused (.unreadable path.toString error))
    | .ok content =>
        match String.fromUTF8? content with
        | some text => parseText path.toString text.toList
        | none => .error (.fault .notUtf8)

end GuardedInstall.Lockfile
