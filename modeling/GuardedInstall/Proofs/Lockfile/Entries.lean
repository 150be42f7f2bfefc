import GuardedInstall.Proofs.Lockfile.Descriptor
import GuardedInstall.Proofs.Lockfile.Reading
import GuardedInstall.Proofs.Stepwise

/-!
# Lockfiles of entries

A lockfile of the newer kind is read as a whole or refused as a whole: it gives its
dependencies if and only if each entry is complete. Then these are the entries that the
registry holds, in the order of the file, and no others.
-/

namespace GuardedInstall.Lockfile

open GuardedInstall.Lockfile.Berry (metadataKey entryDependency? textAt?)

/-- An entry has a version, and a resolution that divides into a name and a reference. -/
inductive Complete : Yaml.Node → (name reference version : String) → Prop
  | intro {fields : List (String × Yaml.Node)} {resolution name reference version : String}
      (resolved : Table.find? "resolution" fields = some (.scalar resolution))
      (versioned : Table.find? "version" fields = some (.scalar version))
      (nonempty : version ≠ "")
      (divides : Divides resolution.toList name.toList reference.toList) :
      Complete (.mapping fields) name reference version

/-- Whether a reference is one that the registry resolves. -/
def IsRegistered (reference : String) : Prop :=
  npmProtocol <+: reference.toList

instance (reference : String) : Decidable (IsRegistered reference) :=
  inferInstanceAs (Decidable (npmProtocol <+: reference.toList))

def IsComplete (entry : Yaml.Node) : Prop :=
  ∃ name reference version, Complete entry name reference version

/-- An entry that the registry holds gives a dependency. -/
def Gives (entry : Yaml.Node) (dependency : Dependency) : Prop :=
  dependency.registry = npmRegistry ∧ ∃ reference,
    Complete entry dependency.name reference dependency.version ∧ IsRegistered reference

/-- The dependencies that entries give, one for each that the registry holds. -/
inductive Listed : List (String × Yaml.Node) → List Dependency → Prop
  | nil : Listed [] []
  | metadata {entry : Yaml.Node} {rest : List (String × Yaml.Node)} {found : List Dependency}
      (listed : Listed rest found) : Listed ((metadataKey, entry) :: rest) found
  | registered {key name reference version : String} {entry : Yaml.Node}
      {rest : List (String × Yaml.Node)} {found : List Dependency} (named : key ≠ metadataKey)
      (complete : Complete entry name reference version) (registered : IsRegistered reference)
      (listed : Listed rest found) : Listed ((key, entry) :: rest) ({ name, version } :: found)
  | elsewhere {key name reference version : String} {entry : Yaml.Node}
      {rest : List (String × Yaml.Node)} {found : List Dependency} (named : key ≠ metadataKey)
      (complete : Complete entry name reference version)
      (unregistered : ¬ IsRegistered reference) (listed : Listed rest found) :
      Listed ((key, entry) :: rest) found

/-! ## One entry -/

section

variable {key name reference version : String} {entry : Yaml.Node} {found : Option Dependency}

theorem textAt?_eq_some_iff {fields : List (String × Yaml.Node)} {text : String} :
    textAt? key fields = some text ↔ Table.find? key fields = some (.scalar text) := by
  rw [textAt?]
  split
  · rename_i other stands
    simp [stands]
  · rename_i noText
    constructor
    · rintro ⟨⟩
    · intro stands
      exact absurd stands (noText text)

theorem afterProtocol?_map (reference : String) (dependency : Dependency) :
    ((afterProtocol? reference).map fun _ => dependency) =
      if IsRegistered reference then some dependency else none := by
  by_cases registered : IsRegistered reference
  · have leads : npmProtocol.isPrefixOf reference.toList = true :=
      List.isPrefixOf_iff_prefix.mpr registered
    simp [afterProtocol?, leads, registered]
  · have leads : ¬ npmProtocol.isPrefixOf reference.toList = true :=
      mt List.isPrefixOf_iff_prefix.mp registered
    simp [afterProtocol?, leads, registered]

/-- What is read from an entry is what stands in it. -/
theorem entryDependency?_eq_ok_iff :
    entryDependency? key entry = .ok found ↔ ∃ name reference version,
      Complete entry name reference version ∧
        found = if IsRegistered reference then some { name, version } else none := by
  simp only [← afterProtocol?_map]
  constructor
  · intro read
    cases entry with
    | scalar text => cases read
    | sequence items => cases read
    | mapping fields =>
        simp only [entryDependency?] at read
        split at read
        · rename_i resolution version resolved versioned
          split at read
          · cases read
          · rename_i nonempty
            split at read
            · rename_i name reference divided
              cases read
              exact ⟨name, reference, version, .intro (textAt?_eq_some_iff.mp resolved)
                (textAt?_eq_some_iff.mp versioned) nonempty (splitDescriptor_eq_ok_iff.mp divided),
                rfl⟩
            · cases read
        · cases read
  · rintro ⟨name, reference, version, ⟨resolved, versioned, nonempty, divides⟩, rfl⟩
    simp only [entryDependency?, textAt?_eq_some_iff.mpr resolved,
      textAt?_eq_some_iff.mpr versioned, nonempty, if_false, splitDescriptor_eq_ok_iff.mpr divides]

namespace Complete

variable (complete : Complete entry name reference version)

include complete

/-- An entry is complete in one way. -/
theorem eq {other again second : String} (also : Complete entry other again second) :
    other = name ∧ again = reference ∧ second = version := by
  obtain ⟨resolved, versioned, -, divides⟩ := complete
  cases also with
  | intro resolved' versioned' nonempty' divides' =>
      rw [resolved] at resolved'
      cases resolved'
      rw [versioned] at versioned'
      cases versioned'
      have divided := splitDescriptor_eq_ok_iff.mpr divides
      rw [splitDescriptor_eq_ok_iff.mpr divides'] at divided
      cases divided
      exact ⟨rfl, rfl, rfl⟩

theorem gives_iff {dependency : Dependency} :
    Gives entry dependency ↔ IsRegistered reference ∧ dependency = { name, version } := by
  constructor
  · rintro ⟨registry, again, also, registered⟩
    obtain ⟨sameName, sameReference, sameVersion⟩ := complete.eq also
    refine ⟨sameReference ▸ registered, ?_⟩
    obtain ⟨_, _, _⟩ := dependency
    cases registry
    cases sameName
    cases sameVersion
    rfl
  · rintro ⟨registered, rfl⟩
    exact ⟨rfl, reference, complete, registered⟩

end Complete

end

/-! ## All entries -/

section

variable {content : List (String × Yaml.Node)} {found : List Dependency}

/-- The entries are read in their order, and nothing is given unless all of them are. -/
theorem entries_eq_ok_iff : Berry.entries content = .ok found ↔ Listed content found := by
  induction content generalizing found with
  | nil =>
      constructor
      · rintro ⟨⟩
        exact .nil
      · rintro ⟨⟩
        rfl
  | cons first rest ih =>
      obtain ⟨key, entry⟩ := first
      by_cases metadata : key = metadataKey
      · subst metadata
        rw [Berry.entries, if_pos rfl, ih]
        constructor
        · exact .metadata
        · intro listed
          cases listed with
          | metadata listed => exact listed
          | registered named => exact absurd rfl named
          | elsewhere named => exact absurd rfl named
      · rw [Berry.entries, if_neg metadata, Stepwise.bind_eq_ok_iff]
        constructor
        · rintro ⟨dependency, read, behind⟩
          obtain ⟨later, readLater, joined⟩ := Stepwise.bind_eq_ok_iff.mp behind
          obtain ⟨name, reference, version, complete, rfl⟩ := entryDependency?_eq_ok_iff.mp read
          cases joined
          by_cases registered : IsRegistered reference
          · rw [if_pos registered]
            exact .registered metadata complete registered (ih.mp readLater)
          · rw [if_neg registered]
            exact .elsewhere metadata complete registered (ih.mp readLater)
        · intro listed
          cases listed with
          | metadata listed => exact absurd rfl metadata
          | registered named complete registered listed =>
              refine ⟨_, entryDependency?_eq_ok_iff.mpr ⟨_, _, _, complete, rfl⟩, ?_⟩
              rw [if_pos registered, ih.mpr listed]
              rfl
          | elsewhere named complete unregistered listed =>
              refine ⟨_, entryDependency?_eq_ok_iff.mpr ⟨_, _, _, complete, rfl⟩, ?_⟩
              rw [if_neg unregistered, ih.mpr listed]
              rfl

/-- Entries are listed if and only if all of them are complete, but for the one that
describes the file. -/
theorem exists_listed_iff : (∃ found, Listed content found) ↔
    ∀ entry ∈ content, entry.1 ≠ metadataKey → IsComplete entry.2 := by
  constructor
  · rintro ⟨found, listed⟩
    induction listed with
    | nil => simp
    | metadata listed ih => exact List.forall_mem_cons.mpr ⟨fun named => absurd rfl named, ih⟩
    | registered _ complete _ _ ih | elsewhere _ complete _ _ ih =>
        exact List.forall_mem_cons.mpr ⟨fun _ => ⟨_, _, _, complete⟩, ih⟩
  · intro complete
    induction content with
    | nil => exact ⟨[], .nil⟩
    | cons first rest ih =>
        obtain ⟨key, entry⟩ := first
        obtain ⟨here, behind⟩ := List.forall_mem_cons.mp complete
        obtain ⟨found, listed⟩ := ih behind
        by_cases metadata : key = metadataKey
        · subst metadata
          exact ⟨found, .metadata listed⟩
        · obtain ⟨name, reference, version, complete⟩ := here metadata
          by_cases registered : IsRegistered reference
          · exact ⟨_, .registered metadata complete registered listed⟩
          · exact ⟨_, .elsewhere metadata complete registered listed⟩

/-- What is listed comes from an entry, and no entry of the registry is left out. -/
theorem Listed.mem_iff (listed : Listed content found) {dependency : Dependency} :
    dependency ∈ found ↔ ∃ entry ∈ content, entry.1 ≠ metadataKey ∧ Gives entry.2 dependency := by
  induction listed with
  | nil => simp
  | metadata listed ih => rw [ih, List.exists_mem_cons_iff]; simp
  | registered named complete registered listed ih =>
      rw [List.mem_cons, ih, List.exists_mem_cons_iff, complete.gives_iff]
      simp [named, registered]
  | elsewhere named complete unregistered listed ih =>
      rw [ih, List.exists_mem_cons_iff, complete.gives_iff]
      simp [unregistered]

end

/-! ## Whole lockfiles -/

/-- What reading a mapping of entries comes to. -/
structure ReadsEntries (content : List (String × Yaml.Node))
    (outcome : Except Failure (List Dependency)) : Prop where
  returns_iff : (∃ found, outcome = .ok found) ↔
    ∀ entry ∈ content, entry.1 ≠ metadataKey → IsComplete entry.2
  refused (failure : Failure) (failed : outcome = .error failure) :
    ∃ refusal, failure = .refused refusal
  /-- Of equal dependencies the first one stays where it is. -/
  listed (found : List Dependency) (returned : outcome = .ok found) :
    ∃ all, Listed content all ∧ found = all.eraseDups
  distinct (found : List Dependency) (returned : outcome = .ok found) : found.Nodup
  mem_iff (found : List Dependency) (returned : outcome = .ok found) (dependency : Dependency) :
    dependency ∈ found ↔ ∃ entry ∈ content, entry.1 ≠ metadataKey ∧ Gives entry.2 dependency

/-- A text of the newer kind that is a mapping is read entry by entry. -/
theorem readsEntries_of_mapping {files : File.System} {path : File.Path} {text : List Char}
    {content : List (String × Yaml.Node)} (reads : ReadsAs files path text)
    (newer : Classic.isClassic text = false)
    (mapping : Yaml.read text = .ok (some (.mapping content))) :
    ReadsEntries content (parse files path "yarn") := by
  have parsed : parse files path "yarn" =
      ((Berry.entries content).mapError fun error =>
        Failure.refused (.berry path.toString error)).map (withoutRepeats []) := by
    rw [reads.parse_eq (by decide), newer, parseDocument, mapping]
    rfl
  rw [parsed]
  cases read : Berry.entries content with
  | error error =>
      have unlisted : ¬ ∃ found, Listed content found := by
        rintro ⟨found, listed⟩
        rw [entries_eq_ok_iff.mpr listed] at read
        cases read
      rw [exists_listed_iff] at unlisted
      constructor
      case returns_iff => simpa [Except.mapError, Except.map] using unlisted
      case refused =>
        rintro failure ⟨⟩
        exact ⟨_, rfl⟩
      case listed => rintro found ⟨⟩
      case distinct => rintro found ⟨⟩
      case mem_iff => rintro found ⟨⟩
  | ok all =>
      have listed := entries_eq_ok_iff.mp read
      constructor
      case returns_iff => exact ⟨fun _ => exists_listed_iff.mp ⟨all, listed⟩, fun _ => ⟨_, rfl⟩⟩
      case refused => rintro failure ⟨⟩
      case listed =>
        rintro found ⟨⟩
        exact ⟨all, listed, withoutRepeats_nil all⟩
      case distinct =>
        rintro found ⟨⟩
        exact nodup_withoutRepeats [] all
      case mem_iff =>
        rintro found ⟨⟩ dependency
        rw [mem_withoutRepeats_iff, listed.mem_iff]
        simp

/-! ## A lockfile with three entries -/

/-- A lockfile with a package of the registry under two keys and a package of its own. -/
def pageText : List Char :=
  "__metadata: \x7bversion: 8\x7d\n".toList ++
    "a: \x7bresolution: '@x/a@npm:1.10', version: 1.10\x7d\n".toList ++
    "b: \x7bresolution: 'b@workspace:.', version: 0.0.0\x7d\n".toList ++
    "c: \x7bresolution: ' @x/a@npm:1.10', version: 1.10\x7d\n".toList

/-- The entries of that lockfile. -/
def pageEntries : List (String × Yaml.Node) :=
  [("__metadata", .mapping [("version", .scalar "8")]),
    ("a", .mapping [("resolution", .scalar "@x/a@npm:1.10"), ("version", .scalar "1.10")]),
    ("b", .mapping [("resolution", .scalar "b@workspace:."), ("version", .scalar "0.0.0")]),
    ("c", .mapping [("resolution", .scalar " @x/a@npm:1.10"), ("version", .scalar "1.10")])]

/-- The only file of a file system, with that text. -/
def pageFiles : File.System :=
  alone (String.ofList pageText).toUTF8

theorem readsEntries_pageText :
    ReadsAs pageFiles alonePath pageText ∧ Classic.isClassic pageText = false ∧
      Yaml.read pageText = .ok (some (.mapping pageEntries)) ∧
      parse pageFiles alonePath "yarn" = .ok [⟨"@x/a", "1.10", npmRegistry⟩] ∧
      ReadsEntries pageEntries (parse pageFiles alonePath "yarn") := by
  have reads : ReadsAs pageFiles alonePath pageText := by
    refine ⟨_, String.ofList pageText, read_alone _, fromUTF8?_toUTF8 _, ?_⟩
    rw [String.toList_ofList, Text.normaliseNewlines_eq_self (by decide +kernel)]
  have newer : Classic.isClassic pageText = false := by decide +kernel
  have mapping : Yaml.read pageText = .ok (some (.mapping pageEntries)) := by decide +kernel
  have parsed : parse pageFiles alonePath "yarn" = .ok [⟨"@x/a", "1.10", npmRegistry⟩] := by
    rw [reads.parse_eq (by decide), newer, parseDocument, mapping]
    decide +kernel
  exact ⟨reads, newer, mapping, parsed, readsEntries_of_mapping reads newer mapping⟩

end GuardedInstall.Lockfile
