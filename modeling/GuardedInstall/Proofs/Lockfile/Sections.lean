import GuardedInstall.Proofs.Lockfile.Reading

/-!
# Sections of classic lockfiles

The lines of a classic lockfile fall into sections: each header with the fields that
stand below it. A lockfile is read section by section, and refused only for a header. A
section whose package is known but whose version is not is left out without a word.
-/

namespace GuardedInstall.Lockfile.Classic

/-- A header with the fields below it. -/
structure Section where
  header : List Char
  fields : List (List Char)
  deriving DecidableEq, Repr

/-- The lines of fields in front of the first header, and the sections. -/
def split : List (List Char) → List (List Char) × List Section
  | [] => ([], [])
  | line :: rest =>
      match classify line with
      | .skipped => split rest
      | .header header => ([], ⟨header, (split rest).1⟩ :: (split rest).2)
      | .field field => (field :: (split rest).1, (split rest).2)

/-- The sections of a text. -/
def sections (text : List Char) : List Section :=
  (split (Text.lines text)).2

/-- The header that a line is. -/
def header? (line : List Char) : Option (List Char) :=
  match classify line with
  | .header header => some header
  | _ => none

/-- The version that fields give: the first one that can be read. -/
def versionOf (fields : List (List Char)) : Option String :=
  fields.findSome? fieldVersion?

/-- The dependency of a package of which the fields are given. -/
def dependencyOf (package? : Option String) (fields : List (List Char)) : Option Dependency :=
  match package?, versionOf fields with
  | some name, some version => some { name, version }
  | _, _ => none

namespace Section

/-- The package of a section, if the registry holds it. -/
def package (entry : Section) : Except Error (Option String) :=
  headerName entry.header

/-- The dependency that a section gives. -/
def dependency? (entry : Section) : Option Dependency :=
  dependencyOf entry.package.toOption.join entry.fields

end Section

/-! ## Headers -/

/-- Each header opens a section, and nothing else does. -/
theorem map_header_split (lines : List (List Char)) :
    (split lines).2.map Section.header = lines.filterMap header? := by
  induction lines with
  | nil => rfl
  | cons line rest ih =>
      cases kind : classify line with
      | skipped => simp [split, header?, kind, ih]
      | header header => simp [split, header?, kind, ih]
      | field field => simp [split, header?, kind, ih]

theorem map_header_sections (text : List Char) :
    (sections text).map Section.header = (Text.lines text).filterMap header? :=
  map_header_split (Text.lines text)

/-! ## Reading section by section -/

theorem dependencyOf_none (fields : List (List Char)) : dependencyOf none fields = none :=
  rfl

theorem dependencyOf_nil (package? : Option String) : dependencyOf package? [] = none := by
  cases package? <;> rfl

/-- A field that gives no version leaves the package waiting. -/
theorem dependencyOf_cons_of_none {field : List Char} (unread : fieldVersion? field = none)
    (package? : Option String) (fields : List (List Char)) :
    dependencyOf package? (field :: fields) = dependencyOf package? fields := by
  simp only [dependencyOf, versionOf, List.findSome?_cons, unread]

theorem dependencyOf_cons_of_some {field : List Char} {version : String}
    (read : fieldVersion? field = some version) (name : String) (fields : List (List Char)) :
    dependencyOf (some name) (field :: fields) = some { name, version } := by
  simp only [dependencyOf, versionOf, List.findSome?_cons, read]

theorem dependencyOf_of_versionOf {fields : List (List Char)} {version : String}
    (given : versionOf fields = some version) (package? : Option String) :
    dependencyOf package? fields = package?.map fun name => { name, version } := by
  cases package? with
  | none => rfl
  | some name => simp only [dependencyOf, given, Option.map_some]

/-- The dependencies of sections, unless one of them is refused. -/
def dependenciesOf : List Section → Except Error (List Dependency)
  | [] => .ok []
  | entry :: rest => do
      let package? ← entry.package
      let later ← dependenciesOf rest
      pure ((dependencyOf package? entry.fields).toList ++ later)

/-- Reading lines is reading their sections. The fields in front of the first header
belong to the package that is waited for. -/
theorem entries_eq (awaited : Option String) (lines : List (List Char)) :
    entries awaited lines = (dependenciesOf (split lines).2).map
      ((dependencyOf awaited (split lines).1).toList ++ ·) := by
  induction lines generalizing awaited with
  | nil =>
      simp only [split, dependencyOf_nil]
      rfl
  | cons line rest ih =>
      cases kind : classify line with
      | skipped => simp only [entries, split, kind, ih]
      | header header =>
          simp only [entries, split, kind, dependencyOf_nil, dependenciesOf, Section.package]
          cases headerName header with
          | error error => rfl
          | ok package? =>
              simp only [bind, Except.bind, ih]
              cases dependenciesOf (split rest).2 <;> rfl
      | field field =>
          simp only [entries, split, kind]
          cases read : fieldVersion? field with
          | none => simp only [ih, dependencyOf_cons_of_none read]
          | some version =>
              cases awaited with
              | none => simp only [ih, dependencyOf_none]
              | some name =>
                  simp only [bind, Except.bind, ih, dependencyOf_none,
                    dependencyOf_cons_of_some read]
                  cases dependenciesOf (split rest).2 <;> rfl

theorem dependencies_eq (text : List Char) :
    dependencies text = dependenciesOf (sections text) := by
  rw [dependencies, entries_eq, dependencyOf_none, sections]
  cases dependenciesOf (split (Text.lines text)).2 with
  | error error => rfl
  | ok found => rfl

/-- Sections are read when each header is understood. Whether each one has a version is
not asked. -/
theorem dependenciesOf_eq_ok_iff {entries : List Section} {found : List Dependency} :
    dependenciesOf entries = .ok found ↔
      (∀ entry ∈ entries, ∃ package?, entry.package = .ok package?) ∧
        found = entries.filterMap Section.dependency? := by
  induction entries generalizing found with
  | nil => simp [dependenciesOf, eq_comm]
  | cons entry rest ih =>
      simp only [dependenciesOf, List.forall_mem_cons, bind, Except.bind]
      cases understood : entry.package with
      | error error => simp
      | ok package? =>
          have given : entry.dependency? = dependencyOf package? entry.fields := by
            rw [Section.dependency?, understood]
            rfl
          have collected : (entry :: rest).filterMap Section.dependency? =
              (dependencyOf package? entry.fields).toList ++
                rest.filterMap Section.dependency? := by
            rw [List.filterMap_cons, given]
            cases dependencyOf package? entry.fields <;> rfl
          rw [collected]
          cases read : dependenciesOf rest with
          | error error =>
              have refused : ¬ ∀ entry ∈ rest, ∃ package?, entry.package = .ok package? := by
                intro understood
                have accepted := ih.mpr ⟨understood, rfl⟩
                rw [read] at accepted
                cases accepted
              simp [refused]
          | ok later =>
              obtain ⟨accepted, rfl⟩ := ih.mp read
              constructor
              · rintro ⟨⟩
                exact ⟨⟨⟨package?, rfl⟩, accepted⟩, rfl⟩
              · rintro ⟨-, rfl⟩
                rfl

theorem dependency?_eq_some_iff {entry : Section} {dependency : Dependency} :
    entry.dependency? = some dependency ↔ ∃ name version, entry.package = .ok (some name) ∧
      versionOf entry.fields = some version ∧ dependency = { name, version } := by
  simp only [Section.dependency?, dependencyOf]
  rcases understood : entry.package with error | package?
  · simp [Except.toOption]
  · cases package? with
    | none => simp [Except.toOption]
    | some name =>
        cases versionOf entry.fields with
        | none => simp [Except.toOption]
        | some version => simp [Except.toOption, eq_comm]

/-! ## Whole lockfiles -/

section

variable {files : File.System} {path : File.Path} {text : List Char}
  {dependencies : List Dependency}

/-- A classic lockfile gives the dependencies of its sections, if all of its headers are
understood. -/
theorem parse_eq_ok_iff (reads : ReadsAs files path text) (classic : isClassic text = true) :
    parse files path "yarn" = .ok dependencies ↔
      (∀ entry ∈ sections text, ∃ package?, entry.package = .ok package?) ∧
        dependencies = ((sections text).filterMap Section.dependency?).eraseDups := by
  rw [reads.parse_classic classic, dependencies_eq]
  cases given : dependenciesOf (sections text) with
  | error error =>
      have refused : ¬ ∀ entry ∈ sections text, ∃ package?, entry.package = .ok package? := by
        intro understood
        have accepted := dependenciesOf_eq_ok_iff.mpr ⟨understood, rfl⟩
        rw [given] at accepted
        cases accepted
      simp [Except.mapError, Except.map, refused]
  | ok found =>
      obtain ⟨understood, rfl⟩ := dependenciesOf_eq_ok_iff.mp given
      simp only [Except.mapError, Except.map, withoutRepeats_nil, Except.ok.injEq]
      exact ⟨fun same => ⟨understood, same.symm⟩, fun read => read.2.symm⟩

/-- What the sections of a classic lockfile come to. -/
structure TellsSections (files : File.System) (path : File.Path) (text : List Char) : Prop where
  /-- Each header opens a section. -/
  headers : (sections text).map Section.header = (Text.lines text).filterMap header?
  /-- Nothing but a header is a reason to refuse the whole. -/
  returns : (∃ dependencies, parse files path "yarn" = .ok dependencies) ↔
    ∀ entry ∈ sections text, ∃ package?, entry.package = .ok package?
  /-- A section is listed if its package is known and its version can be read. -/
  listed (dependencies : List Dependency) (parsed : parse files path "yarn" = .ok dependencies)
    (dependency : Dependency) :
    dependency ∈ dependencies ↔ ∃ entry ∈ sections text, ∃ name version,
      entry.package = .ok (some name) ∧ versionOf entry.fields = some version ∧
        dependency = { name, version }

/-- A package without a version is left out of a classic lockfile, and the lockfile is
not refused for it. -/
theorem tellsSections (reads : ReadsAs files path text) (classic : isClassic text = true) :
    TellsSections files path text := by
  constructor
  case headers => exact map_header_sections text
  case returns => simp only [parse_eq_ok_iff reads classic, exists_and_left, exists_eq, and_true]
  case listed =>
    intro dependencies parsed dependency
    obtain ⟨-, rfl⟩ := (parse_eq_ok_iff reads classic).mp parsed
    simp only [List.mem_eraseDups, List.mem_filterMap, dependency?_eq_some_iff]

end

/-- A lockfile with an entry that has no version. -/
def versionlessText : String :=
  "# yarn lockfile v1\nleft-pad@^1.3.0:\n  resolved \"x\"\n"

/-- Its text as it is read. -/
def versionlessRead : List Char := Text.normaliseNewlines versionlessText.toList

theorem isClassic_versionless : isClassic versionlessRead = true := by
  decide

theorem readsAs_versionless :
    ReadsAs (alone versionlessText.toUTF8) alonePath versionlessRead :=
  readsAs_alone versionlessText

theorem tellsSections_versionless :
    ReadsAs (alone versionlessText.toUTF8) alonePath versionlessRead ∧
      isClassic versionlessRead = true ∧
      TellsSections (alone versionlessText.toUTF8) alonePath versionlessRead :=
  ⟨readsAs_versionless, isClassic_versionless,
    tellsSections readsAs_versionless isClassic_versionless⟩

/-- The section of its only entry. -/
def versionlessSection : Section :=
  ⟨"left-pad@^1.3.0:".toList, ["  resolved \"x\"".toList]⟩

theorem sections_versionless : sections versionlessRead = [versionlessSection] := by
  decide

theorem package_versionless : versionlessSection.package = .ok (some "left-pad") :=
  rfl

theorem parse_versionless : parse (alone versionlessText.toUTF8) alonePath "yarn" = .ok [] := by
  have unlisted : versionlessSection.dependency? = none := by decide
  rw [parse_eq_ok_iff readsAs_versionless isClassic_versionless, sections_versionless]
  simp [package_versionless, unlisted]

/-- Headers of packages do not always give dependencies. -/
theorem not_forall_header_listed :
    ¬ ∀ files path text dependencies, ReadsAs files path text → isClassic text = true →
      parse files path "yarn" = .ok dependencies →
      ∀ header ∈ (Text.lines text).filterMap header?, ∀ name,
        headerName header = .ok (some name) →
          ∃ dependency ∈ dependencies, dependency.name = name := by
  intro listed
  have opened : versionlessSection.header ∈ (Text.lines versionlessRead).filterMap header? := by
    rw [← map_header_sections, sections_versionless]
    exact List.mem_cons_self
  obtain ⟨dependency, member, -⟩ := listed _ _ _ _ readsAs_versionless isClassic_versionless
    parse_versionless _ opened "left-pad" package_versionless
  cases member

end GuardedInstall.Lockfile.Classic
