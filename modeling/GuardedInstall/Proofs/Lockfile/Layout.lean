import GuardedInstall.Proofs.Lockfile.Sections
import GuardedInstall.Proofs.Text.Lines

/-!
# How classic lockfiles are laid out

A classic lockfile is read line by line, and what its lines give does not depend on how they
are laid out. A lockfile behind another one adds its own dependencies, and lines that give
nothing may stand anywhere below the line that tells the kind. Nor does it matter how the line
breaks are written.
-/

namespace GuardedInstall.Lockfile.Classic

open GuardedInstall.Text (isBlank IsLine)

/-! ## Lines that give nothing -/

/-- Whether a line gives nothing wherever it stands: it is blank or a comment, or has three
blanks or more in front of it. -/
def isIdle (line : List Char) : Bool :=
  isSkipped line || "   ".toList.isPrefixOf line

/-- The lines that may give something. -/
def active (lines : List (List Char)) : List (List Char) :=
  lines.filter fun line => !isIdle line

theorem classify_of_isSkipped {line : List Char} (skipped : isSkipped line = true) :
    classify line = .skipped := by
  simp only [classify, skipped, if_true]

theorem fieldVersion?_of_deeper {line : List Char} (deeper : "   ".toList <+: line) :
    fieldVersion? line = none := by
  obtain ⟨rest, rfl⟩ := deeper
  rfl

/-- A line that gives nothing is passed over, whatever is awaited. -/
theorem entries_cons_of_isIdle {line : List Char} (idle : isIdle line = true)
    (awaited : Option String) (rest : List (List Char)) :
    entries awaited (line :: rest) = entries awaited rest := by
  by_cases skipped : isSkipped line = true
  · rw [entries, classify_of_isSkipped skipped]
  · have deeper : "   ".toList <+: line := by
      simpa [isIdle, skipped] using idle
    have unread := fieldVersion?_of_deeper deeper
    have field : classify line = .field line := by
      obtain ⟨later, rfl⟩ := deeper
      simp only [classify, skipped]
      rfl
    simp only [entries, field, unread]

/-- Lines are read as their active ones are. -/
theorem entries_active (awaited : Option String) (lines : List (List Char)) :
    entries awaited (active lines) = entries awaited lines := by
  induction lines generalizing awaited with
  | nil => rfl
  | cons line rest ih =>
      by_cases idle : isIdle line = true
      · have dropped : active (line :: rest) = active rest :=
          List.filter_cons_of_neg (by simpa using idle)
        rw [dropped, entries_cons_of_isIdle idle, ih]
      · have kept : active (line :: rest) = line :: active rest :=
          List.filter_cons_of_pos (by simpa using idle)
        rw [kept]
        simp only [entries, ih]

theorem dependencies_congr {text text' : List Char}
    (same : active (Text.lines text') = active (Text.lines text)) :
    dependencies text' = dependencies text := by
  rw [dependencies, dependencies, ← entries_active, same, entries_active]

/-! ## The line that tells the kind -/

theorem isClassic_iff {text : List Char} : isClassic text = true ↔
    ∃ before after, Text.lines text = before ++ headerLine :: after ∧ before.length < 5 := by
  rw [isClassic, List.contains_iff_mem]
  constructor
  · intro early
    obtain ⟨before, between, cut⟩ := List.append_of_mem early
    refine ⟨before, between ++ (Text.lines text).drop 5, ?_, ?_⟩
    · calc Text.lines text
          = (Text.lines text).take 5 ++ (Text.lines text).drop 5 :=
            (List.take_append_drop 5 _).symm
        _ = before ++ headerLine :: (between ++ (Text.lines text).drop 5) := by
            rw [cut, List.append_assoc, List.cons_append]
    · have length := congrArg List.length cut
      simp only [List.length_take, List.length_append, List.length_cons] at length
      omega
  · rintro ⟨before, after, cut, early⟩
    obtain ⟨rest, total⟩ := Nat.exists_eq_add_of_lt early
    rw [cut, List.take_append, total]
    have : before.length + rest + 1 - before.length = rest + 1 := by omega
    rw [this, List.take_succ_cons]
    simp

/-- Whatever stands below it, the line that tells the kind tells it. -/
theorem isClassic_of_lines {text text' : List Char} {more : List (List Char)}
    (classic : isClassic text = true) (lines : Text.lines text' = Text.lines text ++ more) :
    isClassic text' = true := by
  obtain ⟨before, after, cut, early⟩ := isClassic_iff.mp classic
  apply isClassic_iff.mpr
  refine ⟨before, after ++ more, ?_, early⟩
  rw [lines, cut, List.append_assoc, List.cons_append]

theorem isClassic_normaliseNewlines (text : List Char) :
    isClassic (Text.normaliseNewlines text) = isClassic text := by
  rw [isClassic, isClassic, Text.lines_normaliseNewlines]

theorem dependencies_normaliseNewlines (text : List Char) :
    dependencies (Text.normaliseNewlines text) = dependencies text := by
  rw [dependencies, dependencies, Text.lines_normaliseNewlines]

/-- A file of the classic kind is read line by line. -/
theorem parse_of_read {files : File.System} {path : File.Path} {text : List Char}
    (read : files.read path = .ok (String.ofList text).toUTF8) (classic : isClassic text = true) :
    parse files path "yarn" =
      ((dependencies text).mapError fun error => .refused (.classic error)).map
        (withoutRepeats []) := by
  have reads : ReadsAs files path (Text.normaliseNewlines text) :=
    ⟨_, _, read, fromUTF8?_toUTF8 _, by rw [String.toList_ofList]⟩
  rw [reads.parse_classic (by rwa [isClassic_normaliseNewlines]), dependencies_normaliseNewlines]

theorem parse_of_read_eq_ok_iff {files : File.System} {path : File.Path} {text : List Char}
    {found : List Dependency}
    (read : files.read path = .ok (String.ofList text).toUTF8) (classic : isClassic text = true) :
    parse files path "yarn" = .ok found ↔
      ∃ listed, dependencies text = .ok listed ∧ found = listed.eraseDups := by
  rw [parse_of_read read classic]
  cases dependencies text with
  | error error => simp [Except.mapError, Except.map]
  | ok listed => simp [Except.mapError, Except.map, withoutRepeats_nil, eq_comm]

/-! ## A lockfile behind another one -/

/-- Whether the first line that is neither blank nor a comment, if there is one, is not
indented. -/
def opensSection (lines : List (List Char)) : Bool :=
  (lines.find? fun line => !isSkipped line).all fun line => line.head?.all fun c => !isBlank c

/-- No field stands in front of the first header. -/
theorem split_fst_of_opensSection {lines : List (List Char)} (opens : opensSection lines = true) :
    (split lines).1 = [] := by
  induction lines with
  | nil => rfl
  | cons line rest ih =>
      by_cases skipped : isSkipped line = true
      · have later : opensSection rest = true := by
          simpa [opensSection, skipped] using opens
        simp only [split, classify_of_isSkipped skipped, ih later]
      · cases line with
        | nil => exact absurd rfl skipped
        | cons c later =>
            have outer : isBlank c = false := by
              simpa [opensSection, skipped] using opens
            have header : classify (c :: later) = .header (c :: later) := by
              simp [classify, skipped, outer]
            simp only [split, header]

/-- Sections behind sections: the fields of the last one end where the next header stands. -/
theorem split_append {before after : List (List Char)} (opened : (split after).1 = []) :
    split (before ++ after) = ((split before).1, (split before).2 ++ (split after).2) := by
  induction before with
  | nil => exact Prod.ext opened rfl
  | cons line rest ih =>
      cases kind : classify line with
      | skipped => simp [split, kind, ih]
      | header header => simp [split, kind, ih]
      | field field => simp [split, kind, ih]

theorem dependenciesOf_append_eq_ok_iff {before after : List Section} {found : List Dependency} :
    dependenciesOf (before ++ after) = .ok found ↔ ∃ first second,
      dependenciesOf before = .ok first ∧ dependenciesOf after = .ok second ∧
        found = first ++ second := by
  simp only [dependenciesOf_eq_ok_iff, List.forall_mem_append, List.filterMap_append]
  constructor
  · rintro ⟨⟨understood, understood'⟩, rfl⟩
    exact ⟨_, _, ⟨understood, rfl⟩, ⟨understood', rfl⟩, rfl⟩
  · rintro ⟨_, _, ⟨understood, rfl⟩, ⟨understood', rfl⟩, rfl⟩
    exact ⟨⟨understood, understood'⟩, rfl⟩

/-- A text behind one that ends with a line feed adds its sections. -/
theorem sections_append {text more : List Char} (ended : text.getLast? = some '\n')
    (opens : opensSection (Text.lines more) = true) :
    sections (text ++ more) = sections text ++ sections more := by
  have lines : Text.lines (text ++ more) = Text.lines text ++ Text.lines more :=
    Text.lines_append (by simp [ended]) more
  rw [sections, lines, split_append (split_fst_of_opensSection opens)]
  rfl

theorem dependencies_append_eq_ok_iff {text more : List Char} {found : List Dependency}
    (ended : text.getLast? = some '\n') (opens : opensSection (Text.lines more) = true) :
    dependencies (text ++ more) = .ok found ↔ ∃ first second,
      dependencies text = .ok first ∧ dependencies more = .ok second ∧ found = first ++ second := by
  simp only [dependencies_eq, sections_append ended opens, dependenciesOf_append_eq_ok_iff]

/-- Of dependencies that are all there already none is added. -/
theorem eraseDups_append_of_subset {first second : List Dependency} (present : second ⊆ first) :
    (first ++ second).eraseDups = first.eraseDups := by
  have nothing : second.removeAll first = [] := by
    simp only [List.removeAll, List.filter_eq_nil_iff]
    intro dependency member
    simpa using present member
  rw [List.eraseDups_append, nothing]
  simp

/-! ## Whole lockfiles -/

/-- What the layout of a classic lockfile comes to. -/
structure ReadsByLines (files : File.System) (path : File.Path) (text : List Char) : Prop where
  /-- A text behind a lockfile that ends with a line feed adds its dependencies, and both are read
  or none. -/
  appended {files' : File.System} {path' : File.Path} {more : List Char}
    {found : List Dependency} (ended : text.getLast? = some '\n')
    (opens : opensSection (Text.lines more) = true)
    (read : files'.read path' = .ok (String.ofList (text ++ more)).toUTF8) :
    parse files' path' "yarn" = .ok found ↔ ∃ first second,
      dependencies text = .ok first ∧ dependencies more = .ok second ∧
        found = (first ++ second).eraseDups
  /-- Dependencies that are there already change nothing. -/
  repeated {files' : File.System} {path' : File.Path} {more : List Char}
    {first second : List Dependency} (ended : text.getLast? = some '\n')
    (opens : opensSection (Text.lines more) = true)
    (read : files'.read path' = .ok (String.ofList (text ++ more)).toUTF8)
    (given : dependencies text = .ok first) (given' : dependencies more = .ok second)
    (present : second ⊆ first) :
    parse files' path' "yarn" = parse files path "yarn"
  /-- Below the line that tells the kind, lines that give nothing may be put in and taken away. -/
  relaid {files' : File.System} {path' : File.Path} {text' : List Char}
    {before after after' : List (List Char)}
    (read : files'.read path' = .ok (String.ofList text').toUTF8) (early : before.length < 5)
    (lines : Text.lines text = before ++ headerLine :: after)
    (lines' : Text.lines text' = before ++ headerLine :: after')
    (same : active after' = active after) :
    parse files' path' "yarn" = parse files path "yarn"
  /-- Such lines may so be written into a text at the end of any line. -/
  inserted {files' : File.System} {path' : File.Path} {front back : List Char}
    {block : List (List Char)} (cut : text = front ++ back) (told : isClassic front = true)
    (ended : front.getLast? = some '\n')
    (idle : ∀ line ∈ block, IsLine line ∧ isIdle line = true)
    (read : files'.read path' =
      .ok (String.ofList (front ++ (Text.written block ++ back))).toUTF8) :
    parse files' path' "yarn" = parse files path "yarn"
  /-- Line feeds may have carriage returns in front of them. -/
  returned {files' : File.System} {path' : File.Path} (free : '\r' ∉ text)
    (read : files'.read path' = .ok (String.ofList (Text.withReturns text)).toUTF8) :
    parse files' path' "yarn" = parse files path "yarn"

theorem parse_congr {files files' : File.System} {path path' : File.Path} {text text' : List Char}
    (read : files.read path = .ok (String.ofList text).toUTF8) (classic : isClassic text = true)
    (read' : files'.read path' = .ok (String.ofList text').toUTF8)
    (classic' : isClassic text' = true) (same : dependencies text' = dependencies text) :
    parse files' path' "yarn" = parse files path "yarn" := by
  rw [parse_of_read read classic, parse_of_read read' classic', same]

/-- A classic lockfile is read by its lines, one after the other. -/
theorem readsByLines {files : File.System} {path : File.Path} {text : List Char}
    (read : files.read path = .ok (String.ofList text).toUTF8) (classic : isClassic text = true) :
    ReadsByLines files path text := by
  have joined {more : List Char} (ended : text.getLast? = some '\n') :
      isClassic (text ++ more) = true :=
    isClassic_of_lines classic (Text.lines_append (by simp [ended]) more)
  constructor
  case appended =>
    intro files' path' more found ended opens read'
    rw [parse_of_read_eq_ok_iff read' (joined ended)]
    simp only [dependencies_append_eq_ok_iff ended opens]
    constructor
    · rintro ⟨_, ⟨first, second, given, given', rfl⟩, rfl⟩
      exact ⟨first, second, given, given', rfl⟩
    · rintro ⟨first, second, given, given', rfl⟩
      exact ⟨_, ⟨first, second, given, given', rfl⟩, rfl⟩
  case repeated =>
    intro files' path' more first second ended opens read' given given' present
    have both := (dependencies_append_eq_ok_iff ended opens).mpr ⟨_, _, given, given', rfl⟩
    have listed := (parse_of_read_eq_ok_iff read classic).mpr ⟨_, given, rfl⟩
    have listed' := (parse_of_read_eq_ok_iff read' (joined ended)).mpr ⟨_, both, rfl⟩
    rw [listed', listed, eraseDups_append_of_subset present]
  case relaid =>
    intro files' path' text' before after after' read' early lines lines' same
    have classic' : isClassic text' = true := isClassic_iff.mpr ⟨before, after', lines', early⟩
    apply parse_congr read classic read' classic'
    apply dependencies_congr
    simp only [active] at same ⊢
    rw [lines, lines', List.filter_append, List.filter_append, List.filter_cons, List.filter_cons,
      same]
  case inserted =>
    intro files' path' front back block cut told ended idle read'
    have behind (rest : List Char) :
        Text.lines (front ++ rest) = Text.lines front ++ Text.lines rest :=
      Text.lines_append (by simp [ended]) rest
    have written : Text.lines (Text.written block ++ back) = block ++ Text.lines back :=
      Text.lines_written_append (fun line member => (idle line member).1) back
    have nothing : active block = [] := by
      rw [active, List.filter_eq_nil_iff]
      intro line member
      simp [(idle line member).2]
    apply parse_congr read classic read' (isClassic_of_lines told (behind _))
    apply dependencies_congr
    simp only [active] at nothing ⊢
    rw [cut, behind, behind, written, List.filter_append, List.filter_append, List.filter_append,
      nothing, List.nil_append]
  case returned =>
    intro files' path' free read'
    have restored := Text.normaliseNewlines_withReturns free
    apply parse_congr read classic read'
    · rwa [← isClassic_normaliseNewlines, restored]
    · rw [← dependencies_normaliseNewlines, restored]

/-! ## Two lockfiles -/

/-- The line that tells the kind, with its line feed. -/
def tellingText : List Char := headerLine ++ ['\n']

/-- An entry. -/
def paddingEntry : List Char := "left-pad@^1.3.0:\n  version \"1.3.0\"\n".toList

/-- Lines that give nothing. -/
def idleBlock : List (List Char) :=
  [[], "  # why it is here".toList, "    version \"9.9.9\"".toList]

/-- Another entry, with its own comment in front. -/
def widthEntry : List Char :=
  "\n# wide characters\nstring-width@^4.2.0:\n  version \"4.2.3\"\n".toList

/-- The lockfile with the first entry alone. -/
def paddingText : List Char := tellingText ++ paddingEntry

theorem dependencies_padding :
    dependencies paddingText = .ok [⟨"left-pad", "1.3.0", npmRegistry⟩] := by
  rfl

theorem dependencies_width :
    dependencies widthEntry = .ok [⟨"string-width", "4.2.3", npmRegistry⟩] := by
  rfl

/-- Behind the first entry the second one is read as well; with lines that give nothing and with
other line breaks the first one is read as it was. -/
theorem readsByLines_padding :
    (alone (String.ofList paddingText).toUTF8).read alonePath =
        .ok (String.ofList paddingText).toUTF8 ∧
      isClassic paddingText = true ∧
      parse (alone (String.ofList (paddingText ++ widthEntry)).toUTF8) alonePath "yarn" =
        .ok [⟨"left-pad", "1.3.0", npmRegistry⟩, ⟨"string-width", "4.2.3", npmRegistry⟩] ∧
      parse (alone (String.ofList
          (tellingText ++ (Text.written idleBlock ++ paddingEntry))).toUTF8) alonePath "yarn" =
        parse (alone (String.ofList paddingText).toUTF8) alonePath "yarn" ∧
      parse (alone (String.ofList (Text.withReturns paddingText)).toUTF8) alonePath "yarn" =
        parse (alone (String.ofList paddingText).toUTF8) alonePath "yarn" := by
  have read := read_alone (String.ofList paddingText).toUTF8
  have classic : isClassic paddingText = true := by decide
  have told : isClassic tellingText = true := by decide
  have idle : ∀ line ∈ idleBlock, IsLine line ∧ isIdle line = true := by decide
  have byLines := readsByLines read classic
  refine ⟨read, classic, ?_, ?_, ?_⟩
  · exact (byLines.appended (by decide) (by decide) (read_alone _)).mpr
      ⟨_, _, dependencies_padding, dependencies_width, by decide⟩
  · exact byLines.inserted rfl told (by decide) idle (read_alone _)
  · exact byLines.returned (by decide) (read_alone _)

end GuardedInstall.Lockfile.Classic
