import GuardedInstall.Proofs.Lockfile.Descriptor
import GuardedInstall.Proofs.Lockfile.Sections

/-!
# Classic lockfiles that are written and read

A classic lockfile is written from entries: a header of descriptors, of which the first
one gives the package, a version, and any other fields around it, nested ones included.
Reading gives back the packages with their versions, each pair where it stands first.
-/

namespace GuardedInstall.Lockfile.Classic

open GuardedInstall.Text (IsLine isBlank isLineBreak)

/-! ## Entries -/

/-- A descriptor behind the first one. It is not looked at. -/
structure Label where
  text : List Char
  quoted : Bool
  isLine : IsLine text := by decide

/-- A version. -/
structure Version where
  text : List Char
  nonempty : text ≠ [] := by decide
  clean : text.all isVersionChar = true := by decide

/-- The first word of a text. -/
def firstWord (text : List Char) : List Char :=
  (text.dropWhile isBlank).takeWhile (!isBlank ·)

/-- The words that announce a version. -/
def versionWords : List (List Char) := ["version".toList, "version:".toList]

/-- What follows the first two blanks of a line below a header that is not the version of
its entry: a field of another name, or a line with more blanks in front. -/
structure Detail where
  text : List Char
  isLine : IsLine text := by decide
  apart : text.head? = some ' ' ∨ firstWord text ∉ versionWords := by decide

/-- An entry of a classic lockfile. -/
structure Entry where
  first : Descriptor
  quoted : Bool
  others : List Label
  version : Version
  before : List Detail
  after : List Detail

/-- The line of a detail. -/
def Detail.line (detail : Detail) : List Char :=
  ' ' :: ' ' :: detail.text

/-- The line of a version. -/
def Version.line (version : Version) : List Char :=
  "  version \"".toList ++ (version.text ++ ['"'])

namespace Entry

/-- What follows the first descriptor of a header. -/
def continuation (entry : Entry) : List Char :=
  entry.others.flatMap fun label => ',' :: ' ' :: labelled label.quoted label.text

/-- The header of an entry. -/
def header (entry : Entry) : List Char :=
  labelled entry.quoted entry.first.text ++ (entry.continuation ++ [':'])

/-- The lines of an entry. -/
def lines (entry : Entry) : List (List Char) :=
  entry.header ::
    (entry.before.map Detail.line ++ entry.version.line :: entry.after.map Detail.line)

/-- The dependency of an entry, if the registry holds its package. -/
def dependency? (entry : Entry) : Option Dependency :=
  entry.first.package?.map fun name =>
    { name := String.ofList name.text, version := String.ofList entry.version.text }

end Entry

/-- The text of a classic lockfile with given entries. -/
def written (entries : List Entry) : List Char :=
  Text.written (headerLine :: entries.flatMap Entry.lines)

/-! ## The lines of an entry -/

theorem Detail.isLine_line (detail : Detail) : IsLine detail.line := by
  have blank : isLineBreak ' ' = false := by decide
  exact Text.isLine_cons_iff.mpr ⟨blank, Text.isLine_cons_iff.mpr ⟨blank, detail.isLine⟩⟩

theorem Version.isVersionChar_of_mem (version : Version) :
    ∀ c ∈ version.text, isVersionChar c = true :=
  List.all_eq_true.mp version.clean

theorem Version.isLine_line (version : Version) : IsLine version.line := by
  have key : IsLine "  version \"".toList := by decide
  have quote : IsLine ['"'] := by decide
  have unbroken : IsLine version.text := by
    apply Text.isLine_of_not_isBlank
    intro c member
    have clean := version.isVersionChar_of_mem c member
    simp only [isVersionChar, Bool.and_eq_true, Bool.not_eq_true'] at clean
    exact clean.2
  exact key.append (unbroken.append quote)

namespace Entry

variable (entry : Entry)

theorem isLine_header : IsLine entry.header := by
  have colon : IsLine [':'] := by decide
  have separator : IsLine [',', ' '] := by decide
  have first : IsLine entry.first.text := by
    intro c member
    have clean := entry.first.isRangeChar_of_mem member
    simp only [isRangeChar, Bool.and_eq_true, Bool.not_eq_true'] at clean
    exact clean.1.1
  have others : IsLine entry.continuation := by
    intro c member
    obtain ⟨label, -, within⟩ := List.mem_flatMap.mp member
    have isLine : IsLine (labelled label.quoted label.text) :=
      forall_mem_labelled (by decide) label.isLine label.quoted
    exact separator.append isLine c within
  have label : IsLine (labelled entry.quoted entry.first.text) :=
    forall_mem_labelled (by decide) first entry.quoted
  exact label.append (others.append colon)

theorem isLine_of_mem_lines : ∀ line ∈ entry.lines, IsLine line := by
  intro line member
  simp only [lines, List.mem_cons, List.mem_append, List.mem_map] at member
  rcases member with rfl | ⟨detail, -, rfl⟩ | rfl | ⟨detail, -, rfl⟩
  · exact entry.isLine_header
  · exact detail.isLine_line
  · exact entry.version.isLine_line
  · exact detail.isLine_line

/-! ## Headers -/

/-- Up to the first comma, a header is its first descriptor. -/
theorem takeWhile_header :
    entry.header.dropLast.takeWhile (· != ',') = labelled entry.quoted entry.first.text := by
  have quote : ('"' != ',') = true := by decide
  have within : ∀ c ∈ entry.first.text, (c != ',') = true := by
    intro c member
    have clean := entry.first.isRangeChar_of_mem member
    simp only [isRangeChar, Bool.and_eq_true] at clean
    exact clean.1.2
  have whole : ∀ c ∈ labelled entry.quoted entry.first.text, (c != ',') = true :=
    forall_mem_labelled quote within entry.quoted
  have cut : entry.header.dropLast =
      labelled entry.quoted entry.first.text ++ entry.continuation := by
    rw [header, ← List.append_assoc, List.dropLast_concat]
  have ends : entry.continuation.takeWhile (· != ',') = [] := by
    rw [continuation]
    cases entry.others with
    | nil => rfl
    | cons label later => rfl
  rw [cut, List.takeWhile_append_of_pos whole, ends, List.append_nil]

theorem headerName_header :
    headerName entry.header = .ok (entry.first.package?.map (String.ofList ·.text)) := by
  have closed : entry.header.getLast? = some ':' := by
    rw [header, ← List.append_assoc, List.getLast?_concat]
  rw [headerName, if_pos closed, firstDescriptor, takeWhile_header,
    entry.first.registryName_bare_labelled]
  rfl

/-- A header begins with a quote or with the first character of a name. -/
theorem exists_header_eq_cons : ∃ c rest, entry.header = c :: rest ∧ isBlank c = false ∧
    c ≠ '#' := by
  cases quotes : entry.quoted with
  | true =>
      refine ⟨'"', _, by rw [header, quotes, labelled, if_pos rfl, List.cons_append], ?_, ?_⟩
      · decide
      · decide
  | false =>
      obtain ⟨c, rest, cut, -, -, uncommented⟩ := entry.first.name.exists_cons
      have notBlank : isBlank c = false := entry.first.name.isBlank_eq_false (by simp [cut])
      refine ⟨c, rest ++ '@' :: entry.first.reference.text ++ (entry.continuation ++ [':']), ?_,
        notBlank, uncommented⟩
      simp [header, quotes, labelled, Descriptor.text, cut]

theorem classify_header : classify entry.header = .header entry.header := by
  obtain ⟨c, rest, cut, notBlank, uncommented⟩ := entry.exists_header_eq_cons
  have kept : (c :: rest).dropWhile isBlank = c :: rest :=
    List.dropWhile_cons_of_neg (by simp [notBlank])
  simp [cut, classify, isSkipped, kept, notBlank, uncommented]

end Entry

/-! ## Lines below a header -/

/-- A line that begins with a blank is no header. -/
theorem header?_of_isBlank {c : Char} (blank : isBlank c = true) (rest : List Char) :
    header? (c :: rest) = none := by
  simp only [header?, classify, blank, if_true]
  split
  · rename_i header kind
    split at kind
    · cases kind
    · cases kind
  · rfl

/-- Behind the key of a version there may be a colon, and there is a blank. -/
theorem takeWhile_eq_of_blank_behind {rest : List Char}
    (blank : ∃ c later, (rest = c :: later ∨ rest = ':' :: c :: later) ∧ isBlank c = true) :
    rest.takeWhile (!isBlank ·) = [] ∨ rest.takeWhile (!isBlank ·) = [':'] := by
  have colon : isBlank ':' = false := by decide
  obtain ⟨c, later, rfl | rfl, blank⟩ := blank
  · exact .inl (by simp [blank])
  · exact .inr (by simp [blank, colon])

/-- A line of which a version is read begins with a word that announces one. -/
theorem firstWord_mem_of_version? {line version : List Char}
    (read : version? line = some version) : firstWord line ∈ versionWords := by
  simp only [version?] at read
  split at read
  · rename_i leads
    obtain ⟨rest, cut⟩ := List.isPrefixOf_iff_prefix.mp leads
    have key : ("version".toList.all fun c => !isBlank c) = true := by decide
    have word : firstWord line = "version".toList ++ rest.takeWhile (!isBlank ·) := by
      rw [firstWord, ← cut, List.takeWhile_append_of_pos (List.all_eq_true.mp key)]
    have behind : (line.dropWhile isBlank).drop 7 = rest := by
      rw [← cut]
      rfl
    have blank : ∃ c later, (rest = c :: later ∨ rest = ':' :: c :: later) ∧
        isBlank c = true := by
      rw [behind] at read
      cases rest with
      | nil => cases read
      | cons c later =>
          by_cases colon : c = ':'
          · subst colon
            cases later with
            | nil => cases read
            | cons c more =>
                refine ⟨c, more, .inr rfl, ?_⟩
                cases blank : isBlank c with
                | true => rfl
                | false => simp [blank] at read
          · refine ⟨c, later, .inl rfl, ?_⟩
            cases blank : isBlank c with
            | true => rfl
            | false => simp [colon, blank] at read
    rw [word]
    rcases takeWhile_eq_of_blank_behind blank with plain | colon
    · rw [plain]
      decide
    · rw [colon]
      decide
  · cases read

/-- Details give no version. -/
theorem Detail.fieldVersion?_line (detail : Detail) : fieldVersion? detail.line = none := by
  rcases detail.apart with deeper | other
  · obtain ⟨rest, cut⟩ := List.head?_eq_some_iff.mp deeper
    have indented : hasFieldIndent detail.line = false := by
      rw [Detail.line, cut]
      rfl
    rw [fieldVersion?, indented]
    rfl
  · have blank : isBlank ' ' = true := by decide
    have sameWord : firstWord detail.line = firstWord detail.text := by
      simp [firstWord, Detail.line, blank]
    have unread : version? detail.line = none := by
      cases read : version? detail.line with
      | none => rfl
      | some version =>
          have announced := firstWord_mem_of_version? read
          rw [sameWord] at announced
          exact absurd announced other
    rw [fieldVersion?, unread]
    split <;> rfl

namespace Version

variable (version : Version)

/-- A version in quotes is read as it was written. -/
theorem versionValue?_quoted :
    versionValue? ('"' :: (version.text ++ ['"'])) = some version.text := by
  have quote : isVersionChar '"' = false := by decide
  have front : (version.text ++ ['"']).takeWhile isVersionChar = version.text := by
    rw [List.takeWhile_append_of_pos version.isVersionChar_of_mem,
      List.takeWhile_cons_of_neg (by simp [quote]), List.append_nil]
  have behind : (version.text ++ ['"']).dropWhile isVersionChar = ['"'] := by
    rw [List.dropWhile_append_of_pos version.isVersionChar_of_mem,
      List.dropWhile_cons_of_neg (by simp [quote])]
  simp [versionValue?, front, behind, version.nonempty]

theorem fieldVersion?_line :
    fieldVersion? version.line = some (String.ofList version.text) := by
  have indented : hasFieldIndent version.line = true := rfl
  have given : version? version.line = some version.text := by
    rw [← version.versionValue?_quoted]
    rfl
  rw [fieldVersion?, if_pos indented, given]
  rfl

theorem classify_line : classify version.line = .field version.line := rfl

end Version

/-! ## Sections of written entries -/

theorem eq_of_classify_field {line field : List Char} (kind : classify line = .field field) :
    field = line := by
  simp only [classify] at kind
  split at kind
  · cases kind
  split at kind
  · split at kind
    · cases kind
      rfl
    · cases kind
  · cases kind

/-- A line that is no header and gives no version changes nothing for the entry. -/
theorem split_cons_of_idle {line : List Char} (below : header? line = none)
    (unread : fieldVersion? line = none) (rest : List (List Char)) :
    (split (line :: rest)).2 = (split rest).2 ∧
      versionOf (split (line :: rest)).1 = versionOf (split rest).1 := by
  cases kind : classify line with
  | skipped => simp [split, kind]
  | header header => simp [header?, kind] at below
  | field field =>
      cases eq_of_classify_field kind
      simp [split, kind, versionOf, unread]

theorem split_details_append (details : List Detail) (rest : List (List Char)) :
    (split (details.map Detail.line ++ rest)).2 = (split rest).2 ∧
      versionOf (split (details.map Detail.line ++ rest)).1 = versionOf (split rest).1 := by
  induction details with
  | nil => exact ⟨rfl, rfl⟩
  | cons detail later ih =>
      have blank : isBlank ' ' = true := by decide
      have below : header? detail.line = none := header?_of_isBlank blank _
      obtain ⟨sections, version⟩ := split_cons_of_idle below detail.fieldVersion?_line
        (later.map Detail.line ++ rest)
      exact ⟨sections.trans ih.1, version.trans ih.2⟩

/-- The fields of an entry give its version, whatever stands below. -/
theorem versionOf_split_fields (entry : Entry) (rest : List (List Char)) :
    versionOf (split (entry.before.map Detail.line ++ entry.version.line ::
      (entry.after.map Detail.line ++ rest))).1 = some (String.ofList entry.version.text) := by
  rw [(split_details_append entry.before _).2, split, entry.version.classify_line]
  simp only [versionOf, List.findSome?_cons, entry.version.fieldVersion?_line]

theorem split_fields (entry : Entry) (rest : List (List Char)) :
    (split (entry.before.map Detail.line ++ entry.version.line ::
      (entry.after.map Detail.line ++ rest))).2 = (split rest).2 := by
  rw [(split_details_append entry.before _).1, split, entry.version.classify_line]
  exact (split_details_append entry.after rest).1

/-- An entry gives its dependency, and then come those of what follows. -/
theorem dependenciesOf_entry_append (entry : Entry) (rest : List (List Char)) :
    dependenciesOf (split (entry.lines ++ rest)).2 =
      (dependenciesOf (split rest).2).map (entry.dependency?.toList ++ ·) := by
  have apart : entry.lines ++ rest = entry.header ::
      (entry.before.map Detail.line ++ entry.version.line ::
        (entry.after.map Detail.line ++ rest)) := by
    simp [Entry.lines]
  have given : dependencyOf (entry.first.package?.map (String.ofList ·.text))
      (split (entry.before.map Detail.line ++ entry.version.line ::
        (entry.after.map Detail.line ++ rest))).1 = entry.dependency? := by
    rw [dependencyOf_of_versionOf (versionOf_split_fields entry rest), Option.map_map]
    rfl
  rw [apart, split, entry.classify_header]
  simp only [dependenciesOf, Section.package, entry.headerName_header, bind, Except.bind, given,
    split_fields]
  cases dependenciesOf (split rest).2 <;> rfl

/-- The lines of entries give the dependencies of the entries. -/
theorem dependenciesOf_entries (entries : List Entry) :
    dependenciesOf (split (entries.flatMap Entry.lines)).2 =
      .ok (entries.filterMap Entry.dependency?) := by
  induction entries with
  | nil => rfl
  | cons entry rest ih =>
      rw [List.flatMap_cons, dependenciesOf_entry_append, ih, List.filterMap_cons]
      cases entry.dependency? <;> rfl

/-! ## Whole lockfiles -/

section

variable (entries : List Entry)

theorem isLine_of_mem_written :
    ∀ line ∈ headerLine :: entries.flatMap Entry.lines, IsLine line := by
  intro line member
  rcases List.mem_cons.mp member with rfl | among
  · decide
  · obtain ⟨entry, -, within⟩ := List.mem_flatMap.mp among
    exact entry.isLine_of_mem_lines line within

theorem lines_written :
    Text.lines (written entries) = headerLine :: entries.flatMap Entry.lines :=
  Text.lines_written (isLine_of_mem_written entries)

theorem isClassic_written : isClassic (written entries) = true := by
  rw [isClassic, lines_written]
  simp

theorem dependencies_written :
    dependencies (written entries) = .ok (entries.filterMap Entry.dependency?) := by
  have comment : classify headerLine = .skipped := by decide
  rw [dependencies_eq, sections, lines_written, split, comment]
  exact dependenciesOf_entries entries

/-- A file with the text of entries is read as the packages of the entries, in order and
each pair once. -/
theorem parse_written {files : File.System} {path : File.Path}
    (read : files.read path = .ok (String.ofList (written entries)).toUTF8) :
    parse files path "yarn" = .ok (entries.filterMap Entry.dependency?).eraseDups := by
  have kept : Text.normaliseNewlines (written entries) = written entries :=
    Text.normaliseNewlines_written (isLine_of_mem_written entries)
  have reads : ReadsAs files path (written entries) :=
    ⟨_, _, read, fromUTF8?_toUTF8 _, by rw [String.toList_ofList, kept]⟩
  rw [reads.parse_classic (isClassic_written entries), dependencies_written]
  simp only [Except.mapError, Except.map, withoutRepeats_nil]

end

/-! ## Four entries -/

/-- A package with a scope, and a package below it that has a version of its own. -/
def scopedEntry : Entry where
  first := ⟨{ text := "@types/node".toList }, .own { text := "^18.0.0".toList }⟩
  quoted := true
  others := []
  version := { text := "18.11.9".toList }
  before := [{ text := "integrity sha512-abc".toList }]
  after := [{ text := "dependencies:".toList }, { text := "  version \"^2.0.0\"".toList }]

/-- A package under another name. -/
def renamedEntry : Entry where
  first := ⟨{ text := "string-width-cjs".toList },
    .renamed { text := "string-width".toList } { text := "^4.1.0 || ^4.2.0".toList }⟩
  quoted := true
  others := [{ text := "string-width@^4.1.0".toList, quoted := false }]
  version := { text := "4.2.3".toList }
  before := []
  after := []

example : String.ofList (written [renamedEntry]) =
    "# yarn lockfile v1\n\"string-width-cjs@npm:string-width@^4.1.0 || ^4.2.0\", " ++
      "string-width@^4.1.0:\n  version \"4.2.3\"\n" := by
  decide

/-- A package from an address. -/
def addressEntry : Entry where
  first := ⟨{ text := "forked".toList }, .own { text := "file:../forked".toList }⟩
  quoted := true
  others := []
  version := { text := "2.0.0".toList }
  before := []
  after := []

/-- The first package again, for another range. -/
def repeatedEntry : Entry :=
  { scopedEntry with
    first := ⟨scopedEntry.first.name, .own { text := "*".toList }⟩
    quoted := false }

/-- Entries of each kind. -/
def mixedEntries : List Entry := [scopedEntry, renamedEntry, addressEntry, repeatedEntry]

theorem parse_written_mixedEntries :
    (alone (String.ofList (written mixedEntries)).toUTF8).read alonePath =
        .ok (String.ofList (written mixedEntries)).toUTF8 ∧
      parse (alone (String.ofList (written mixedEntries)).toUTF8) alonePath "yarn" =
        .ok [⟨"@types/node", "18.11.9", npmRegistry⟩, ⟨"string-width", "4.2.3", npmRegistry⟩] := by
  have read := read_alone (String.ofList (written mixedEntries)).toUTF8
  have listed : (mixedEntries.filterMap Entry.dependency?).eraseDups =
      [⟨"@types/node", "18.11.9", npmRegistry⟩, ⟨"string-width", "4.2.3", npmRegistry⟩] := by
    decide
  exact ⟨read, (parse_written mixedEntries read).trans (congrArg Except.ok listed)⟩

end GuardedInstall.Lockfile.Classic
