import GuardedInstall.File.System

/-!
# Home directories

A relative path whose first name starts with a tilde stands below a home
directory: the user's own for the tilde alone, that of the named account
otherwise.
-/

namespace GuardedInstall.File

/-- What is known of home directories. -/
structure Homes where
  /-- The home directory of the user. It is unknown if it starts with a tilde. -/
  own : String
  /-- The home directories of accounts by name. -/
  accounts : List (String × String)
  deriving DecidableEq, Repr

/-- Why a tilde cannot be replaced: the home directory is unknown, or the name of the
account cannot be looked up. -/
inductive HomeError where
  | unknown
  | account (failure : Failure) (name : String)
  deriving DecidableEq, Repr

/-- The message of an error. -/
def HomeError.message : HomeError → String
  | unknown => "Could not determine home directory."
  | account failure name => failure.message name

namespace Homes

/-- The accounts that a system comes with. -/
def standardAccounts : List (String × String) :=
  [("root", "/root"), ("daemon", "/usr/sbin"), ("bin", "/bin"), ("sys", "/dev"),
    ("sync", "/bin"), ("games", "/usr/games"), ("man", "/var/cache/man"),
    ("lp", "/var/spool/lpd"), ("mail", "/var/mail"), ("news", "/var/spool/news"),
    ("uucp", "/var/spool/uucp"), ("proxy", "/bin"), ("www-data", "/var/www"),
    ("backup", "/var/backups"), ("list", "/var/list"), ("irc", "/run/ircd"),
    ("nobody", "/nonexistent")]

/-- What is known of home directories where nothing is known of the user. -/
def standard : Homes where
  own := "~"
  accounts := standardAccounts

/-- The home directory of an account, or of the user for the account without a
name. -/
def home (homes : Homes) (account : String) : Except HomeError String :=
  if account = "" then .ok homes.own
  else
    match System.obstacle? account with
    | some failure => .error (.account failure account)
    | none =>
        match homes.accounts.lookup account with
        | some home => .ok home
        | none => .error .unknown

/-- The directory that a name starting with a tilde stands for. -/
def directory (homes : Homes) (name : String) : Except HomeError String := do
  let home ← homes.home (String.ofList (name.toList.drop 1))
  let text := String.ofList (Text.trimEnd (· == '/') home.toList)
  let directory := if text = "" then "/" else text
  if directory.startsWith "~" then throw .unknown else pure directory

/-- Replace a leading tilde. -/
def expand (homes : Homes) (path : Path) : Except HomeError Path :=
  match path.anchor, path.names with
  | .relative, first :: rest =>
      if first.startsWith "~" then
        (homes.directory first).map fun directory =>
          (Path.ofString directory).join ⟨.relative, rest⟩
      else .ok path
  | _, _ => .ok path

end Homes

end GuardedInstall.File
