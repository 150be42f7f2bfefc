import GuardedInstall.Proofs.Sandbox.Grants
import GuardedInstall.Proofs.Stepwise
import GuardedInstall.Proofs.Text.Lines

/-!
# Least privilege

What the stages may write below is ordered: the build may write below the least, and the
cache stage may write below one directory more than the dry run. The build alone has no
network, and its policy depends on the project alone. No granted path starts with a tilde,
so no path is taken for a home directory once it is granted.
-/

namespace GuardedInstall.File

/-! ## Tildes -/

theorem startsWith_tilde_iff {text : String} :
    text.startsWith "~" = true ↔ text.toList.head? = some '~' := by
  rw [String.startsWith_string_iff]
  cases text.toList with
  | nil => simp
  | cons c rest => simp [eq_comm]

namespace Path

variable {path : Path}

theorem startsWith_tilde_of_isAbsolute (absolutePath : path.isAbsolute = true) :
    path.toString.startsWith "~" = false := by
  have slash := startsWith_slash absolutePath
  rw [String.startsWith_string_iff] at slash
  obtain ⟨rest, text⟩ := slash
  rw [← Bool.not_eq_true, startsWith_tilde_iff, ← text]
  simp

/-- A relative path starts with a tilde if its first name does. -/
theorem IsNormal.startsWith_tilde_cons {first : String} {rest : List String}
    (normal : IsNormal ⟨.relative, first :: rest⟩) :
    (toString ⟨.relative, first :: rest⟩).startsWith "~" = first.startsWith "~" := by
  have nonempty : first.toList ≠ [] := by
    intro empty
    have blank : first = "" := String.toList_inj.mp empty
    exact normal.nonempty (blank ▸ List.mem_cons_self)
  obtain ⟨c, chars, cut⟩ := List.exists_cons_of_ne_nil nonempty
  rw [Bool.eq_iff_iff, startsWith_tilde_iff, startsWith_tilde_iff, toString_toList (.inr (by simp))]
  cases rest <;> simp [anchorText, cut]

end Path

namespace Homes

variable {homes : Homes} {account home name directory : String}

/-- The home directories of all accounts are absolute. -/
def AreAbsolute (homes : Homes) : Prop :=
  ∀ account home, (account, home) ∈ homes.accounts → (Path.ofString home).isAbsolute = true

theorem home_eq_ok (known : homes.home account = .ok home) :
    home = homes.own ∨ (account, home) ∈ homes.accounts := by
  by_cases own : account = ""
  · rw [Homes.home, if_pos own] at known
    cases known
    exact .inl rfl
  · rw [Homes.home, if_neg own] at known
    split at known
    · cases known
    · split at known
      · rename_i found
        cases known
        obtain ⟨before, behind, accounts, -⟩ := List.lookup_eq_some_iff.mp found
        exact .inr (by simp [accounts])
      · cases known

/-- The directory that a tilde stands for is a home without the slashes at its end. -/
theorem directory_eq_ok (known : homes.directory name = .ok directory) :
    ∃ home text, homes.home (String.ofList (name.toList.drop 1)) = .ok home ∧
      text = String.ofList (Text.trimEnd (· == '/') home.toList) ∧
      directory = if text = "" then "/" else text := by
  obtain ⟨home, stands, behind⟩ := Stepwise.bind_eq_ok_iff.mp known
  refine ⟨home, _, stands, rfl, ?_⟩
  dsimp only at behind
  generalize (if String.ofList (Text.trimEnd (· == '/') home.toList) = "" then "/" else
    String.ofList (Text.trimEnd (· == '/') home.toList)) = shown at behind ⊢
  split at behind
  · cases behind
  · cases behind
    rfl

theorem isAbsolute_of_directory (own : (Path.ofString homes.own).isAbsolute = true)
    (accounts : homes.AreAbsolute) (known : homes.directory name = .ok directory) :
    (Path.ofString directory).isAbsolute = true := by
  obtain ⟨home, text, stands, trimmed, rfl⟩ := directory_eq_ok known
  have absoluteHome : (Path.ofString home).isAbsolute = true := by
    rcases home_eq_ok stands with rfl | member
    · exact own
    · exact accounts _ _ member
  split
  · rfl
  · rename_i nonempty
    have front : text.toList <+: home.toList := by
      rw [trimmed, String.toList_ofList, Text.trimEnd_eq_rdropWhile]
      exact List.rdropWhile_prefix _ _
    obtain ⟨c, rest, chars⟩ : ∃ c rest, text.toList = c :: rest :=
      List.exists_cons_of_ne_nil fun empty => nonempty (String.toList_inj.mp empty)
    rw [Path.ofString_isAbsolute_iff] at absoluteHome ⊢
    obtain ⟨behind, joined⟩ := front
    rw [← joined, chars] at absoluteHome
    rw [chars]
    simpa using absoluteHome

/-- Where home directories are absolute, nothing that was expanded starts with a tilde. -/
theorem startsWith_tilde_of_expand {path expanded : Path} (normal : path.IsNormal)
    (own : (Path.ofString homes.own).isAbsolute = true) (accounts : homes.AreAbsolute)
    (known : homes.expand path = .ok expanded) :
    expanded.toString.startsWith "~" = false := by
  by_cases absolutePath : path.isAbsolute = true
  · rw [homes.expand_of_isAbsolute absolutePath] at known
    cases known
    exact Path.startsWith_tilde_of_isAbsolute absolutePath
  obtain ⟨anchor, names⟩ := path
  have relative : anchor = .relative := by
    simpa [Path.isAbsolute] using absolutePath
  subst relative
  cases names with
  | nil =>
      cases known
      rw [← Bool.not_eq_true, startsWith_tilde_iff]
      decide
  | cons first rest =>
      by_cases tilde : first.startsWith "~" = true
      · simp only [Homes.expand, tilde, if_true] at known
        cases stands : homes.directory first with
        | error error => simp [stands, Except.map] at known
        | ok directory =>
            rw [stands] at known
            cases known
            exact Path.startsWith_tilde_of_isAbsolute
              (isAbsolute_of_directory own accounts stands)
      · simp only [Homes.expand, tilde] at known
        cases known
        rw [normal.startsWith_tilde_cons]
        simpa using tilde

end Homes

end GuardedInstall.File

namespace GuardedInstall.Sandbox

open GuardedInstall.File (Homes Path)

namespace Stage

variable {homes : Homes} {root : Path} {configuration : Config.Configuration}

/-! ## What may be written below -/

section

variable {stage : Stage} {policy : Policy} {text : String}

/-- Each path of a list is expanded on its own. -/
theorem mem_expandAll_iff {texts writable : List String}
    (expanded : expandAll homes texts = .ok writable) :
    text ∈ writable ↔ ∃ written ∈ texts, ∃ path,
      homes.expand (Path.ofString written) = .ok path ∧ text = path.toString := by
  constructor
  · exact exists_of_mem_expandAll expanded
  · induction texts generalizing writable with
    | nil => simp
    | cons first rest ih =>
        obtain ⟨path, later, here, others, rfl⟩ := expandAll_cons_eq_ok_iff.mp expanded
        rintro ⟨written, member, other, known, rfl⟩
        rcases List.mem_cons.mp member with rfl | member
        · rw [here] at known
          cases known
          exact List.mem_cons_self
        · exact List.mem_cons_of_mem _ (ih others ⟨written, member, other, known, rfl⟩)

/-- The policy of a stage is the stage's own but for the paths, which are expanded. -/
theorem policy_eq_ok (granted : stage.policy root configuration homes = .ok policy) :
    ∃ writable,
      expandAll homes (stage.writablePaths root configuration.extraWritable) = .ok writable ∧
        policy = ⟨stage.name, true, writable, stage.runnable configuration, stage != build⟩ := by
  rw [Stage.policy] at granted
  cases expanded : expandAll homes (stage.writablePaths root configuration.extraWritable) with
  | error error => simp [expanded, Except.map] at granted
  | ok writable =>
      rw [expanded] at granted
      cases granted
      exact ⟨writable, rfl, rfl⟩

theorem mem_writable_iff (granted : stage.policy root configuration homes = .ok policy) :
    text ∈ policy.writable ↔ ∃ written ∈ stage.writablePaths root configuration.extraWritable,
      ∃ path, homes.expand (Path.ofString written) = .ok path ∧ text = path.toString := by
  obtain ⟨writable, expanded, rfl⟩ := policy_eq_ok granted
  exact mem_expandAll_iff expanded

/-- An absolute path in normal form is granted as it is. -/
theorem toString_mem_writable (granted : stage.policy root configuration homes = .ok policy)
    {path : Path} (normal : path.IsNormal) (absolutePath : path.isAbsolute = true)
    (member : path.toString ∈ stage.writablePaths root configuration.extraWritable) :
    path.toString ∈ policy.writable := by
  rw [mem_writable_iff granted]
  refine ⟨_, member, path, ?_, rfl⟩
  rw [normal.ofString_toString, homes.expand_of_isAbsolute absolutePath]

/-- A stage that asks for less is granted less. -/
theorem writable_subset {other : Stage} {second : Policy}
    (granted : stage.policy root configuration homes = .ok policy)
    (also : other.policy root configuration homes = .ok second)
    (asked : stage.writablePaths root configuration.extraWritable ⊆
      other.writablePaths root configuration.extraWritable) :
    policy.writable ⊆ second.writable := by
  intro text member
  obtain ⟨written, writtenMem, expanded⟩ := (mem_writable_iff granted).mp member
  exact (mem_writable_iff also).mpr ⟨written, asked writtenMem, expanded⟩

/-- The build is granted two paths, whatever the configuration and the home directories. -/
theorem policy_build (normal : root.IsNormal) (absoluteRoot : root.isAbsolute = true)
    (configuration : Config.Configuration) (homes : Homes) :
    build.policy root configuration homes =
      .ok ⟨build.name, true, [temporaryDirectory, root.toString], .anything, false⟩ := by
  have expanded : expandAll homes (build.writablePaths root configuration.extraWritable) =
      .ok [temporaryDirectory, root.toString] := by
    refine expandAll_cons_eq_ok_iff.mpr
      ⟨_, _, homes.expand_of_isAbsolute absolute_temporaryDirectory, ?_, rfl⟩
    refine expandAll_cons_eq_ok_iff.mpr ⟨root, [], ?_, rfl, rfl⟩
    rw [normal.ofString_toString, homes.expand_of_isAbsolute absoluteRoot]
  rw [Stage.policy, expanded]
  rfl

/-- The cache stage asks for what the dry run asks for and for one directory more. -/
theorem mem_writablePaths_cache_iff {extra : List String} :
    text ∈ cache.writablePaths root extra ↔
      text ∈ dryRun.writablePaths root extra ∨ text = libraryCache := by
  simp only [writablePaths, List.mem_append, List.mem_cons]
  grind

end

/-! ## Least privilege -/

/-- The policies of the stages, in the order of what they grant. -/
structure LeastPrivilege (root : Path) (configuration : Config.Configuration) (homes : Homes)
    (policies : Stage → Policy) : Prop where
  build_writable (text : String) : text ∈ (policies build).writable ↔
    text = temporaryDirectory ∨ text = root.toString
  /-- No configuration and no home directory makes a difference to the build. -/
  build_eq (other : Config.Configuration) (elsewhere : Homes) :
    build.policy root other elsewhere = .ok (policies build)
  network_iff (stage : Stage) : (policies stage).network = true ↔ stage ≠ build
  build_subset : (policies build).writable ⊆ (policies dryRun).writable
  dryRun_subset : (policies dryRun).writable ⊆ (policies cache).writable
  cache_writable : ∃ library, homes.expand (Path.ofString libraryCache) = .ok library ∧
    ∀ text, text ∈ (policies cache).writable ↔
      text ∈ (policies dryRun).writable ∨ text = library.toString
  runnable (stage : Stage) (networked : stage ≠ build) : (policies stage).runnable =
    .only [configuration.packageManager, configuration.runtime]
  /-- The homes of accounts come from the system and are absolute there. -/
  untilded (accounts : homes.AreAbsolute) (stage : Stage) (text : String)
    (member : text ∈ (policies stage).writable) : text.startsWith "~" = false
  root_mem (stage : Stage) : root.toString ∈ (policies stage).writable

theorem leastPrivilege_of_policies {policies : Stage → Policy} (normal : root.IsNormal)
    (absoluteRoot : root.isAbsolute = true) (own : (Path.ofString homes.own).isAbsolute = true)
    (granted : ∀ stage : Stage, stage.policy root configuration homes = .ok (policies stage)) :
    LeastPrivilege root configuration homes policies := by
  have ofBuild := policy_build normal absoluteRoot
  have policiesBuild : policies build =
      ⟨build.name, true, [temporaryDirectory, root.toString], .anything, false⟩ := by
    have same := granted build
    rw [ofBuild] at same
    exact (Except.ok.inj same).symm
  have asked (stage : Stage) : root.toString ∈
      stage.writablePaths root configuration.extraWritable := by
    cases stage <;> simp [writablePaths]
  constructor
  case build_writable => simp [policiesBuild]
  case build_eq =>
    intro other elsewhere
    rw [ofBuild, policiesBuild]
  case network_iff =>
    intro stage
    obtain ⟨writable, -, fields⟩ := policy_eq_ok (granted stage)
    simp [fields]
  case build_subset =>
    apply writable_subset (granted build) (granted dryRun)
    simp [writablePaths]
  case dryRun_subset =>
    apply writable_subset (granted dryRun) (granted cache)
    intro text member
    exact mem_writablePaths_cache_iff.mpr (.inl member)
  case cache_writable =>
    obtain ⟨library, expanded⟩ : IsExpandable homes libraryCache :=
      exists_policy_iff.mp ⟨_, granted cache⟩ _ (by simp [writablePaths])
    refine ⟨library, expanded, ?_⟩
    intro text
    rw [mem_writable_iff (granted cache), mem_writable_iff (granted dryRun)]
    simp only [mem_writablePaths_cache_iff]
    constructor
    · rintro ⟨written, member | rfl, path, known, rfl⟩
      · exact .inl ⟨written, member, path, known, rfl⟩
      · rw [expanded] at known
        cases known
        exact .inr rfl
    · rintro (⟨written, member, path, known, rfl⟩ | rfl)
      · exact ⟨written, .inl member, path, known, rfl⟩
      · exact ⟨libraryCache, .inr rfl, library, expanded, rfl⟩
  case runnable =>
    intro stage networked
    obtain ⟨writable, -, fields⟩ := policy_eq_ok (granted stage)
    rw [fields]
    cases stage with
    | build => exact absurd rfl networked
    | dryRun => rfl
    | cache => rfl
  case untilded =>
    intro accounts stage text member
    obtain ⟨written, -, path, known, rfl⟩ := (mem_writable_iff (granted stage)).mp member
    exact Homes.startsWith_tilde_of_expand (Path.ofString_isNormal written) own accounts known
  case root_mem =>
    intro stage
    exact toString_mem_writable (granted stage) normal absoluteRoot (asked stage)

/-! ## A project below a tilde -/

theorem areAbsolute_standardAccounts (own : String) :
    (⟨own, Homes.standardAccounts⟩ : Homes).AreAbsolute := by
  have absoluteHomes : ∀ entry ∈ Homes.standardAccounts,
      (Path.ofString entry.2).isAbsolute = true := by
    decide
  intro account home member
  exact absoluteHomes (account, home) member

/-- A project in a directory that is named like a home directory. -/
def tildeRoot : Path := Path.ofString "/~/site"

/-- A configuration with paths that begin with tildes, in one case behind a dot. -/
def tildeConfiguration : Config.Configuration :=
  { Config.Configuration.default with extraWritable := ["./~/logs/", "~games", "/tmp"] }

/-- A home directory that is written with a slash at its end. -/
def slashedHomes : Homes := ⟨"/home/u/", Homes.standardAccounts⟩

/-- The policies of the stages for that project. -/
def tildePolicies (stage : Stage) : Policy where
  name := stage.name
  readAll := true
  writable := match stage with
    | build => ["/tmp", "/~/site"]
    | dryRun => ["/home/u/.cache/node", "/home/u/.cache/yarn", "/home/u/.yarn", "/~/site", "/tmp",
        "/home/u/logs", "/usr/games", "/tmp"]
    | cache => ["/home/u/.cache/node", "/home/u/.cache/yarn", "/home/u/.yarn", "/~/site",
        "/home/u/Library/Caches/Yarn", "/tmp", "/home/u/logs", "/usr/games", "/tmp"]
  runnable := stage.runnable tildeConfiguration
  network := stage != build

theorem leastPrivilege_tildePolicies :
    tildeRoot.IsNormal ∧ tildeRoot.isAbsolute = true ∧
      (Path.ofString slashedHomes.own).isAbsolute = true ∧
      (∀ stage : Stage,
        stage.policy tildeRoot tildeConfiguration slashedHomes = .ok (tildePolicies stage)) ∧
      slashedHomes.AreAbsolute ∧
      LeastPrivilege tildeRoot tildeConfiguration slashedHomes tildePolicies := by
  have normal : tildeRoot.IsNormal := Path.ofString_isNormal _
  have granted (stage : Stage) :
      stage.policy tildeRoot tildeConfiguration slashedHomes = .ok (tildePolicies stage) := by
    cases stage <;> decide +kernel
  exact ⟨normal, rfl, rfl, granted, areAbsolute_standardAccounts _,
    leastPrivilege_of_policies normal rfl rfl granted⟩

end Stage

end GuardedInstall.Sandbox
