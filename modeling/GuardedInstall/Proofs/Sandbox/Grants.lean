import GuardedInstall.Proofs.File.Normal
import GuardedInstall.Proofs.File.Search
import GuardedInstall.Sandbox.Stage

/-!
# What the stages are granted

A policy exists as soon as the home directories that its paths name are known. The
cache stage names no other home than the dry run, and the build names none at all,
so the policies of a run are there together. The flags of the build never grant the
network: every path that they hold is absolute.
-/

namespace GuardedInstall.File

namespace Path

/-- The written form of an absolute path is read as an absolute path. -/
theorem ofString_toString_isAbsolute {path : Path} (absolutePath : path.isAbsolute = true) :
    (ofString path.toString).isAbsolute = true := by
  have slash := startsWith_slash absolutePath
  rw [String.startsWith_string_iff] at slash
  obtain ⟨rest, text⟩ := slash
  rw [ofString_isAbsolute_iff, ← text]
  rfl

end Path

theorem Homes.expand_of_isAbsolute (homes : Homes) {path : Path}
    (absolutePath : path.isAbsolute = true) : homes.expand path = .ok path := by
  obtain ⟨anchor, names⟩ := path
  cases anchor with
  | relative => simp [Path.isAbsolute] at absolutePath
  | root => rfl
  | doubleRoot => rfl

end GuardedInstall.File

namespace GuardedInstall.Sandbox

open GuardedInstall.File (Homes Path)

namespace Stage

variable {homes : Homes} {root : Path} {configuration : Config.Configuration}

/-- Whether the home directory that a written path names is known. -/
def IsExpandable (homes : Homes) (text : String) : Prop :=
  ∃ path, homes.expand (Path.ofString text) = .ok path

theorem expandAll_cons_eq_ok_iff {text : String} {rest writable : List String} :
    expandAll homes (text :: rest) = .ok writable ↔
      ∃ path later, homes.expand (Path.ofString text) = .ok path ∧
        expandAll homes rest = .ok later ∧ writable = path.toString :: later := by
  simp only [expandAll, List.mapM_cons, bind, Except.bind, pure, Except.pure]
  cases homes.expand (Path.ofString text) with
  | error error => simp [Except.map]
  | ok path =>
      cases rest.mapM fun text => (homes.expand (Path.ofString text)).map Path.toString with
      | error error => simp [Except.map]
      | ok later => simp [Except.map, eq_comm]

/-- All paths of a list are expanded exactly when each one can be. -/
theorem exists_expandAll_iff {texts : List String} :
    (∃ writable, expandAll homes texts = .ok writable) ↔
      ∀ text ∈ texts, IsExpandable homes text := by
  induction texts with
  | nil => simp [expandAll, pure, Except.pure]
  | cons text rest ih =>
      rw [List.forall_mem_cons, ← ih]
      simp only [expandAll_cons_eq_ok_iff, IsExpandable]
      constructor
      · rintro ⟨_, path, later, first, others, rfl⟩
        exact ⟨⟨path, first⟩, later, others⟩
      · rintro ⟨⟨path, first⟩, later, others⟩
        exact ⟨_, path, later, first, others, rfl⟩

theorem exists_of_mem_expandAll {texts writable : List String}
    (expanded : expandAll homes texts = .ok writable) {value : String}
    (member : value ∈ writable) :
    ∃ text ∈ texts, ∃ path, homes.expand (Path.ofString text) = .ok path ∧
      value = path.toString := by
  induction texts generalizing writable with
  | nil =>
      cases expanded
      cases member
  | cons text rest ih =>
      obtain ⟨path, later, first, others, rfl⟩ := expandAll_cons_eq_ok_iff.mp expanded
      rcases List.mem_cons.mp member with rfl | member
      · exact ⟨text, List.mem_cons_self, path, first, rfl⟩
      · obtain ⟨text, textMem, found⟩ := ih others member
        exact ⟨text, List.mem_cons_of_mem _ textMem, found⟩

/-- A stage has a policy exactly when all of its paths can be expanded. -/
theorem exists_policy_iff {stage : Stage} :
    (∃ policy, stage.policy root configuration homes = .ok policy) ↔
      ∀ text ∈ stage.writablePaths root configuration.extraWritable,
        IsExpandable homes text := by
  rw [← exists_expandAll_iff, Stage.policy]
  cases expandAll homes (stage.writablePaths root configuration.extraWritable) <;>
    simp [Except.map]

theorem isExpandable_of_isAbsolute (homes : Homes) {text : String}
    (absoluteText : (Path.ofString text).isAbsolute = true) : IsExpandable homes text :=
  ⟨_, homes.expand_of_isAbsolute absoluteText⟩

/-- Which home directory is meant shows in the first name of a path alone. -/
theorem isExpandable_iff_directory (text : String) {first : String} (rest : List String)
    (read : Path.ofString text = ⟨.relative, first :: rest⟩)
    (tilde : first.startsWith "~" = true) :
    IsExpandable homes text ↔ ∃ directory, homes.directory first = .ok directory := by
  simp only [IsExpandable, read, Homes.expand, tilde, if_true]
  cases homes.directory first <;> simp [Except.map]

theorem absolute_temporaryDirectory :
    (Path.ofString temporaryDirectory).isAbsolute = true := by
  decide

/-- Where the dry run has a policy, the cache stage has one. -/
theorem exists_policy_cache
    (granted : ∃ policy, dryRun.policy root configuration homes = .ok policy) :
    ∃ policy, cache.policy root configuration homes = .ok policy := by
  rw [exists_policy_iff] at granted ⊢
  have tilde : "~".startsWith "~" = true := String.startsWith_string_iff.mpr List.prefix_rfl
  have own : ∃ directory, homes.directory "~" = .ok directory :=
    (isExpandable_iff_directory "~/.yarn" [".yarn"] rfl tilde).mp
      (granted _ (by simp [writablePaths, cacheDirectories]))
  -- The one path that the dry run does not have names the user's own home as well.
  have library : IsExpandable homes libraryCache :=
    (isExpandable_iff_directory _ ["Library", "Caches", "Yarn"] rfl tilde).mpr own
  intro text member
  by_cases added : text = libraryCache
  · exact added ▸ library
  · apply granted text
    simp only [writablePaths, List.mem_append, List.mem_cons] at member ⊢
    grind

/-- The build has a policy whatever is known of home directories. -/
theorem exists_policy_build (homes : Homes) (configuration : Config.Configuration)
    (absoluteRoot : root.isAbsolute = true) :
    ∃ policy, build.policy root configuration homes = .ok policy := by
  rw [exists_policy_iff]
  intro text member
  simp only [writablePaths, List.mem_cons, List.not_mem_nil, or_false] at member
  rcases member with rfl | rfl
  · exact isExpandable_of_isAbsolute homes absolute_temporaryDirectory
  · exact isExpandable_of_isAbsolute homes (Path.ofString_toString_isAbsolute absoluteRoot)

/-- Every path that the build may write below is absolute. -/
theorem startsWith_slash_of_build {policy : Policy} (absoluteRoot : root.isAbsolute = true)
    (granted : build.policy root configuration homes = .ok policy) {text : String}
    (member : text ∈ policy.writable) : text.startsWith "/" = true := by
  simp only [Stage.policy] at granted
  cases expanded : expandAll homes (build.writablePaths root configuration.extraWritable) with
  | error error => simp [expanded, Except.map] at granted
  | ok writable =>
      rw [expanded] at granted
      cases granted
      obtain ⟨written, writtenMem, path, reads, rfl⟩ := exists_of_mem_expandAll expanded member
      have absoluteWritten : (Path.ofString written).isAbsolute = true := by
        simp only [writablePaths, List.mem_cons, List.not_mem_nil, or_false] at writtenMem
        rcases writtenMem with rfl | rfl
        · exact absolute_temporaryDirectory
        · exact Path.ofString_toString_isAbsolute absoluteRoot
      rw [homes.expand_of_isAbsolute absoluteWritten] at reads
      cases reads
      exact Path.startsWith_slash absoluteWritten

/-- The flags of the build grant no network, whatever they grant besides. -/
theorem allowNet_not_mem_flags_build {policy : Policy} (absoluteRoot : root.isAbsolute = true)
    (granted : build.policy root configuration homes = .ok policy)
    (which? : String → Option String) : "--allow-net" ∉ policy.flags which? := by
  have unmarked : ¬ "--allow-net".startsWith "/" = true := by
    rw [String.startsWith_string_iff]
    decide
  have unlisted : "--allow-net" ∉ policy.writable := by
    intro member
    exact unmarked (startsWith_slash_of_build absoluteRoot granted member)
  have fields : policy.runnable = .anything ∧ policy.network = false := by
    simp only [Stage.policy] at granted
    cases expanded : expandAll homes (build.writablePaths root configuration.extraWritable) with
    | error error => simp [expanded, Except.map] at granted
    | ok writable =>
        rw [expanded] at granted
        cases granted
        exact ⟨rfl, rfl⟩
  simp only [Policy.flags, Policy.grants, Policy.runValues, fields.1, fields.2]
  split <;> simp [unlisted]

end Stage

end GuardedInstall.Sandbox
