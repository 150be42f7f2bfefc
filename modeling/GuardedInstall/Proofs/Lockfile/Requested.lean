import GuardedInstall.Proofs.File.Child
import GuardedInstall.Proofs.Lockfile.Descriptor
import GuardedInstall.Proofs.Lockfile.Sections

/-!
# Entries that several descriptors request

The header of an entry lists the descriptors that were resolved to it, and the package of the
entry is the one that the first of them stands for. The others may stand in any order, and may
be any others. But a first descriptor that stands for no package of the registry hides the
package that a later one requests: the entry is then passed over, and its package is listed
only if another entry gives it in the same version.
-/

namespace GuardedInstall.Lockfile.Classic

/-! ## The descriptors of a header -/

/-- The descriptors that a header lists: what stands between its commas, without blanks and
then quotes around it. -/
def descriptorsOf (header : List Char) : List String :=
  (Text.pieces ',' header.dropLast).map fun piece => String.ofList (bare piece)

/-- The first piece of a text goes up to the first separator. -/
theorem head?_pieces (separator : Char) (text : List Char) :
    (Text.pieces separator text).head? = some (text.takeWhile (· != separator)) := by
  induction text with
  | nil => rfl
  | cons c rest ih =>
      by_cases same : c = separator
      · subst same
        simp [Text.pieces_separator_cons]
      · obtain ⟨piece, later, cut⟩ := List.exists_cons_of_ne_nil (Text.pieces_ne_nil separator rest)
        rw [cut, List.head?_cons, Option.some.injEq] at ih
        rw [Text.pieces_cons same cut, List.head?_cons,
          List.takeWhile_cons_of_pos (by simpa using same), ih]

theorem head?_descriptorsOf (header : List Char) :
    (descriptorsOf header).head? = some (firstDescriptor header) := by
  rw [descriptorsOf, List.head?_map, head?_pieces]
  rfl

variable {entry : Section} {name version first : String} {others : List String}

/-- The package of a section is the one that its first descriptor stands for. -/
theorem package_of_closed (closed : entry.header.getLast? = some ':')
    (lists : descriptorsOf entry.header = first :: others) :
    entry.package = (registryName first).mapError .descriptor := by
  have front := head?_descriptorsOf entry.header
  rw [lists, List.head?_cons, Option.some.injEq] at front
  rw [Section.package, headerName, if_pos closed, front]

/-! ## Requested packages -/

/-- A section with a version that can be read, whose descriptors are all understood and stand
for one package or for none. One of them at least stands for the package. -/
structure Requests (entry : Section) (name version : String) : Prop where
  closed : entry.header.getLast? = some ':'
  readable : versionOf entry.fields = some version
  requested : ∃ descriptor ∈ descriptorsOf entry.header, registryName descriptor = .ok (some name)
  alike : ∀ descriptor ∈ descriptorsOf entry.header,
    registryName descriptor = .ok (some name) ∨ registryName descriptor = .ok none

/-- The header of such a section is no reason to refuse a lockfile. -/
theorem Requests.exists_package (requests : Requests entry name version) :
    ∃ package?, entry.package = .ok package? := by
  obtain ⟨descriptor, member, -⟩ := requests.requested
  obtain ⟨first, others, lists⟩ := List.exists_cons_of_ne_nil (List.ne_nil_of_mem member)
  have front : first ∈ descriptorsOf entry.header := by simp [lists]
  rw [package_of_closed requests.closed lists]
  rcases requests.alike first front with named | unnamed
  · exact ⟨some name, by rw [named]; rfl⟩
  · exact ⟨none, by rw [unnamed]; rfl⟩

/-- The section gives the package if its first descriptor stands for it. -/
theorem Requests.dependency?_eq_some_iff (requests : Requests entry name version)
    (lists : descriptorsOf entry.header = first :: others) :
    entry.dependency? = some { name, version } ↔ registryName first = .ok (some name) := by
  have front : first ∈ descriptorsOf entry.header := by simp [lists]
  rw [Classic.dependency?_eq_some_iff, package_of_closed requests.closed lists]
  rcases requests.alike first front with named | unnamed
  · rw [named]
    refine iff_of_true ⟨name, version, rfl, requests.readable, rfl⟩ rfl
  · rw [unnamed]
    refine iff_of_false ?_ (by simp)
    rintro ⟨other, -, ⟨⟩, -⟩

/-! ## Whole lockfiles -/

section

variable {files : File.System} {path : File.Path} {text : List Char}

/-- What the first descriptors of headers decide in a classic lockfile. -/
structure FollowsFirst (files : File.System) (path : File.Path) (text : List Char) : Prop where
  /-- A requested package is listed if the other headers are understood, and either the first
  descriptor stands for it or another section gives it. -/
  listed_iff {before after : List Section} {entry : Section} {name version first : String}
    {others : List String} (cut : sections text = before ++ entry :: after)
    (requests : Requests entry name version)
    (lists : descriptorsOf entry.header = first :: others) :
    (∃ dependencies, parse files path "yarn" = .ok dependencies ∧
        { name, version } ∈ dependencies) ↔
      (∀ other ∈ before ++ after, ∃ package?, other.package = .ok package?) ∧
        (registryName first = .ok (some name) ∨
          ∃ other ∈ before ++ after, other.dependency? = some { name, version })
  /-- Another lockfile, in which one header lists its descriptors in another order, or lists
  others, is read alike if the first of them stands for the same package. -/
  reordered {files' : File.System} {path' : File.Path} {text' : List Char}
    (reads' : ReadsAs files' path' text') (classic' : isClassic text' = true)
    {before after : List Section} {header header' : List Char} {fields : List (List Char)}
    {first first' : String} {others others' : List String}
    (cut : sections text = before ++ ⟨header, fields⟩ :: after)
    (cut' : sections text' = before ++ ⟨header', fields⟩ :: after)
    (closed : header.getLast? = some ':') (closed' : header'.getLast? = some ':')
    (lists : descriptorsOf header = first :: others)
    (lists' : descriptorsOf header' = first' :: others')
    (same : registryName first' = registryName first) :
    parse files' path' "yarn" = parse files path "yarn"

/-- Sections are read alike when one of them is replaced by one with the same package. -/
theorem dependenciesOf_replace {header header' : List Char} {fields : List (List Char)}
    (same : Section.package ⟨header', fields⟩ = Section.package ⟨header, fields⟩)
    (before after : List Section) :
    dependenciesOf (before ++ ⟨header', fields⟩ :: after) =
      dependenciesOf (before ++ ⟨header, fields⟩ :: after) := by
  induction before with
  | nil => simp only [List.nil_append, dependenciesOf, same]
  | cons entry rest ih => simp only [List.cons_append, dependenciesOf, ih]

/-- The first descriptor of each header decides, whatever a lockfile holds. -/
theorem followsFirst (reads : ReadsAs files path text) (classic : isClassic text = true) :
    FollowsFirst files path text := by
  constructor
  case listed_iff =>
    intro before after entry name version first others cut requests lists
    have members (holds : Section → Prop) : (∀ other ∈ sections text, holds other) ↔
        holds entry ∧ ∀ other ∈ before ++ after, holds other := by
      simp only [cut, List.forall_mem_append, List.forall_mem_cons]
      exact and_left_comm
    have listed : { name, version } ∈ ((sections text).filterMap Section.dependency?).eraseDups ↔
        registryName first = .ok (some name) ∨
          ∃ other ∈ before ++ after, other.dependency? = some { name, version } := by
      rw [← requests.dependency?_eq_some_iff lists, List.mem_eraseDups, List.mem_filterMap, cut]
      simp only [List.mem_append, List.mem_cons]
      constructor
      · rintro ⟨other, inBefore | rfl | inAfter, given⟩
        · exact .inr ⟨other, .inl inBefore, given⟩
        · exact .inl given
        · exact .inr ⟨other, .inr inAfter, given⟩
      · rintro (given | ⟨other, inBefore | inAfter, given⟩)
        · exact ⟨entry, .inr (.inl rfl), given⟩
        · exact ⟨other, .inl inBefore, given⟩
        · exact ⟨other, .inr (.inr inAfter), given⟩
    simp only [parse_eq_ok_iff reads classic, members]
    constructor
    · rintro ⟨dependencies, ⟨⟨-, understood⟩, rfl⟩, member⟩
      exact ⟨understood, listed.mp member⟩
    · rintro ⟨understood, given⟩
      exact ⟨_, ⟨⟨requests.exists_package, understood⟩, rfl⟩, listed.mpr given⟩
  case reordered =>
    intro files' path' text' reads' classic' before after header header' fields first first'
      others others' cut cut' closed closed' lists lists' same
    have package : Section.package ⟨header', fields⟩ = Section.package ⟨header, fields⟩ :=
      calc Section.package ⟨header', fields⟩
          = (registryName first').mapError .descriptor := package_of_closed closed' lists'
        _ = (registryName first).mapError .descriptor := by rw [same]
        _ = Section.package ⟨header, fields⟩ := (package_of_closed closed lists).symm
    rw [reads.parse_classic classic, reads'.parse_classic classic', dependencies_eq,
      dependencies_eq, cut, cut', dependenciesOf_replace package]

end

/-! ## An address in front of a range -/

/-- A package from an address. -/
def addressDescriptor : Descriptor :=
  ⟨{ text := "left-pad".toList }, .own { text := "https://cdn.test/left-pad.tgz".toList }⟩

/-- A range of the package, which was resolved to what the address holds. -/
def rangeDescriptor : Descriptor :=
  ⟨{ text := "left-pad".toList }, .own { text := "~1.3.0".toList }⟩

/-- The section of the address and the range. -/
def addressedSection : Section where
  header := labelled true addressDescriptor.text ++ ',' :: ' ' :: (rangeDescriptor.text ++ [':'])
  fields := ["  version \"1.3.0\"".toList]

/-- The lines of a lockfile with this section. -/
def addressedLines : List (List Char) :=
  headerLine :: addressedSection.header :: addressedSection.fields

/-- The lockfile as it is read. -/
def addressedRead : List Char := Text.written addressedLines

theorem isLine_of_mem_addressed : ∀ line ∈ addressedLines, Text.IsLine line := by
  decide +kernel

theorem lines_addressed : Text.lines addressedRead = addressedLines :=
  Text.lines_written isLine_of_mem_addressed

theorem isClassic_addressed : isClassic addressedRead = true := by
  rw [isClassic, lines_addressed]
  simp [addressedLines]

theorem readsAs_addressed :
    ReadsAs (alone (String.ofList addressedRead).toUTF8) alonePath addressedRead := by
  have kept : Text.normaliseNewlines addressedRead = addressedRead :=
    Text.normaliseNewlines_written isLine_of_mem_addressed
  have reads := readsAs_alone (String.ofList addressedRead)
  rwa [String.toList_ofList, kept] at reads

theorem sections_addressed : sections addressedRead = [addressedSection] := by
  rw [sections, lines_addressed]
  decide +kernel

theorem descriptorsOf_addressed : descriptorsOf addressedSection.header =
    [String.ofList addressDescriptor.text, String.ofList rangeDescriptor.text] := by
  decide +kernel

theorem registryName_address :
    registryName (String.ofList addressDescriptor.text) = .ok none :=
  addressDescriptor.registryName_text

theorem registryName_range :
    registryName (String.ofList rangeDescriptor.text) = .ok (some "left-pad") :=
  rangeDescriptor.registryName_text

theorem requests_addressed : Requests addressedSection "left-pad" "1.3.0" := by
  constructor
  case closed => decide
  case readable => decide
  case requested => exact ⟨_, by simp [descriptorsOf_addressed], registryName_range⟩
  case alike =>
    simp only [descriptorsOf_addressed, List.forall_mem_cons]
    exact ⟨.inr registryName_address, .inl registryName_range, by simp⟩

theorem followsFirst_addressed :
    ReadsAs (alone (String.ofList addressedRead).toUTF8) alonePath addressedRead ∧
      isClassic addressedRead = true ∧
      sections addressedRead = [] ++ addressedSection :: [] ∧
      Requests addressedSection "left-pad" "1.3.0" ∧
      FollowsFirst (alone (String.ofList addressedRead).toUTF8) alonePath addressedRead :=
  ⟨readsAs_addressed, isClassic_addressed, sections_addressed, requests_addressed,
    followsFirst readsAs_addressed isClassic_addressed⟩

theorem parse_addressed :
    parse (alone (String.ofList addressedRead).toUTF8) alonePath "yarn" = .ok [] := by
  have hidden : addressedSection.package = .ok none := by
    rw [package_of_closed requests_addressed.closed descriptorsOf_addressed, registryName_address]
    rfl
  have unlisted : addressedSection.dependency? = none := by
    rw [Section.dependency?, hidden]
    rfl
  rw [parse_eq_ok_iff readsAs_addressed isClassic_addressed, sections_addressed]
  simp [hidden, unlisted]

/-- A package that one of the descriptors of an entry requests is not always listed. -/
theorem not_forall_requested_listed :
    ¬ ∀ files path text dependencies, ReadsAs files path text → isClassic text = true →
      parse files path "yarn" = .ok dependencies →
      ∀ entry ∈ sections text, ∀ name version, Requests entry name version →
        { name, version } ∈ dependencies := by
  intro listed
  have member : addressedSection ∈ sections addressedRead := by
    rw [sections_addressed]
    exact List.mem_cons_self
  have among := listed _ _ _ _ readsAs_addressed isClassic_addressed parse_addressed _ member
    "left-pad" "1.3.0" requests_addressed
  cases among

end GuardedInstall.Lockfile.Classic
