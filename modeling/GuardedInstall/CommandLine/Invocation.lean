import GuardedInstall.File.Path
import GuardedInstall.Sandbox.Stage

/-!
# Invocations of the program

The words of a command line are read from left to right: options of the
program, the name of a command, and what the command makes of the rest. The
command of the package manager declares no options: it passes over those that it
does not know, and hands on the words that the reading of options leaves over.
-/

namespace GuardedInstall.CommandLine

open GuardedInstall.Sandbox (Stage)

/-- What the program is asked to do. The configuration is the file that is asked
for. -/
inductive Invocation where
  | showVersion
  | runPackageManager (configuration : Option File.Path) (arguments : List String)
  | showPolicy (configuration : Option File.Path) (stage : Stage) (root : Option File.Path)
  deriving DecidableEq, Repr

/-- The options of the program itself. -/
structure Options where
  configuration : Option String := none
  version : Bool := false
  deriving DecidableEq, Repr

/-- The word after which no word is an option. -/
def endOfOptions : String := "--"

/-- Whether a word is meant as an option. -/
def isOption (word : String) : Bool :=
  word.toList.head? == some '-' && word != "-"

/-- The value that is written behind an option and an equals sign. -/
def valueAfter? (option word : String) : Option String :=
  if (option.toList ++ ['=']).isPrefixOf word.toList then
    some (String.ofList (word.toList.drop (option.length + 1)))
  else none

/-- Whether a word asks for more to be logged. Its short form may be repeated in
one word. -/
def isVerbose (word : String) : Bool :=
  word == "--verbose" ||
    match word.toList with
    | '-' :: 'v' :: rest => rest.all (· == 'v')
    | _ => false

/-- The options in front of the command, and the words from the command on. -/
def readOptions (options : Options) : List String → Option (Options × List String)
  | [] => some (options, [])
  | word :: rest =>
      if word = endOfOptions then some (options, rest)
      else if !isOption word then some (options, word :: rest)
      else if word = "--config" then
        match rest with
        | value :: rest => readOptions { options with configuration := some value } rest
        | [] => none
      else if word = "--version" then readOptions { options with version := true } rest
      else if isVerbose word then readOptions options rest
      else
        match valueAfter? "--config" word with
        | some value => readOptions { options with configuration := some value } rest
        | none => none

/-- The options that the command of the package manager declares: none, and none that
asks for help. -/
def declared : List String := []

/-- What is left over of a word that is meant as an option. A long option is looked up by
what stands in front of its first equals sign, and an unknown one stays as it is. The
letters of a short one are looked up one by one, and those that are unknown are put
together again. -/
def leftOfOption (word : String) : List String :=
  let name := String.ofList (word.toList.takeWhile (· != '='))
  if name ∈ declared then []
  else if word.startsWith "--" then [word]
  else
    let unknown := (word.toList.drop 1).filter fun letter =>
      String.ofList ['-', letter] ∉ declared
    if unknown = [] then [] else [String.ofList ('-' :: unknown)]

/-- Read the options among words. What is left over is gathered, the words between
options and those behind the end of options as they are. -/
def leftOver (gathered : List String) : List String → List String
  | [] => gathered
  | word :: rest =>
      if word = endOfOptions then gathered ++ rest
      else if isOption word then leftOver (gathered ++ leftOfOption word) rest
      else leftOver (gathered ++ [word]) rest

/-- The words that the package manager is given. -/
def forwarded (words : List String) : List String :=
  leftOver [] words

/-- The words of the command that shows a policy: those that are no options, and
the root that is asked for. -/
def readRoot (root : Option String) : List String → Option (List String × Option String)
  | [] => some ([], root)
  | word :: rest =>
      if word = endOfOptions then some (rest, root)
      else if !isOption word then
        (readRoot root rest).map fun (words, root) => (word :: words, root)
      else if word = "--root" then
        match rest with
        | value :: rest => readRoot (some value) rest
        | [] => none
      else
        match valueAfter? "--root" word with
        | some value => readRoot (some value) rest
        | none => none

/-- The command that shows a policy. -/
def readPolicy (configuration : Option File.Path) (words : List String) :
    Option Invocation := do
  let (arguments, root) ← readRoot none words
  match arguments with
  | [name] =>
      let stage ← Stage.ofName? name
      pure (.showPolicy configuration stage (root.map File.Path.ofString))
  | _ => none

/-- Read a command line. There is no invocation if it cannot be understood. -/
def Invocation.ofWords (words : List String) : Option Invocation := do
  let (options, rest) ← readOptions {} words
  let configuration := options.configuration.map File.Path.ofString
  if options.version then pure .showVersion
  else
    match rest with
    | "yarn" :: arguments => pure (.runPackageManager configuration (forwarded arguments))
    | "policy" :: arguments => readPolicy configuration arguments
    | _ => none

end GuardedInstall.CommandLine
