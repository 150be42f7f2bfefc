import GuardedInstall.Lockfile.Parse
import GuardedInstall.Proofs.File.Restore

/-!
# What a lockfile is read as

A file is read as the text that its bytes write, with its line breaks made alike. Of a
file that cannot be read as a text there are no dependencies. A text of the classic kind
gives the dependencies of its lines, each one where it stands first.
-/

namespace GuardedInstall.Lockfile

/-- A path holds a file whose bytes write a text. The text is given as it is read, with
one line feed for every carriage return. -/
def ReadsAs (files : File.System) (path : File.Path) (text : List Char) : Prop :=
  ∃ content whole, files.read path = .ok content ∧ String.fromUTF8? content = some whole ∧
    text = Text.normaliseNewlines whole.toList

/-- The bytes that write a text are read as that text. -/
theorem fromUTF8?_toUTF8 (text : String) : String.fromUTF8? text.toUTF8 = some text := by
  have valid : text.toUTF8.IsValidUTF8 := text.isValidUTF8
  rw [String.fromUTF8?, dif_pos valid]
  rfl

variable {files : File.System} {path : File.Path} {text : List Char} {format : String}
  {dependencies : List Dependency}

/-- The kinds of text are told apart once the text is read. -/
theorem ReadsAs.parse_eq (reads : ReadsAs files path text) (known : format ∈ formats) :
    parse files path format =
      (if Classic.isClassic text then
          (Classic.dependencies text).mapError fun error => .refused (.classic error)
        else parseDocument path.toString text).map (withoutRepeats []) := by
  obtain ⟨content, whole, read, decoded, rfl⟩ := reads
  simp only [parse, known, not_true_eq_false, if_false, read, decoded, parseText]
  split
  · rfl
  · rfl

theorem ReadsAs.parse_classic (reads : ReadsAs files path text)
    (classic : Classic.isClassic text = true) :
    parse files path "yarn" =
      ((Classic.dependencies text).mapError fun error => .refused (.classic error)).map
        (withoutRepeats []) := by
  rw [reads.parse_eq (by decide), if_pos classic]

/-- What gives dependencies is a file that was read as a text. -/
theorem exists_readsAs_of_parse (parsed : parse files path format = .ok dependencies) :
    ∃ text, ReadsAs files path text := by
  cases read : files.read path with
  | error error =>
      simp only [parse, read] at parsed
      split at parsed
      · cases parsed
      · split at parsed
        · cases parsed
        · split at parsed <;> cases parsed
  | ok content =>
      cases decoded : String.fromUTF8? content with
      | none =>
          simp only [parse, read, decoded] at parsed
          split at parsed <;> cases parsed
      | some whole => exact ⟨_, content, whole, read, decoded, rfl⟩

/-! ## Repetitions -/

theorem withoutRepeats_eq_filter (seen items : List Dependency) :
    withoutRepeats seen items = (items.filter (· ∉ seen)).eraseDups := by
  induction items generalizing seen with
  | nil => rfl
  | cons item rest ih =>
      by_cases present : item ∈ seen
      · simp [withoutRepeats, present, ih]
      · have others : rest.filter (fun other => other ∉ item :: seen) =
            (rest.filter fun other => other ∉ seen).filter fun other => !other == item := by
          rw [List.filter_filter]
          apply List.filter_congr
          intro other _
          by_cases same : other = item <;> simp [same]
        rw [withoutRepeats, if_neg present, ih, others,
          List.filter_cons_of_pos (by simpa using present), List.eraseDups_cons]

/-- Of equal dependencies the first one stays. -/
theorem withoutRepeats_nil (items : List Dependency) :
    withoutRepeats [] items = items.eraseDups := by
  rw [withoutRepeats_eq_filter, List.filter_eq_self.mpr (by simp)]

theorem nodup_withoutRepeats (seen items : List Dependency) :
    (withoutRepeats seen items).Nodup := by
  induction items generalizing seen with
  | nil => exact List.nodup_nil
  | cons item rest ih =>
      rw [withoutRepeats]
      split
      · exact ih seen
      · refine List.nodup_cons.mpr ⟨?_, ih _⟩
        rw [mem_withoutRepeats_iff]
        simp

/-! ## A lockfile alone -/

/-- The place of a lockfile at the root of the file system. -/
def alonePath : File.Path := File.Path.child ⟨.root, []⟩ "yarn.lock"

/-- A file system with one lockfile and nothing else. -/
def alone (content : File.Bytes) : File.System where
  nodes := [(["yarn.lock"], .file content false)]
  workingDirectory := []

theorem read_alone (content : File.Bytes) : (alone content).read alonePath = .ok content := by
  have located := File.System.locate_child_root (by decide : File.IsFileName "yarn.lock")
    (by decide) ⟨rfl, by decide, by decide⟩ (alone content)
  rw [alonePath, File.System.read_of_locate located]
  rfl

/-- A text that stands alone is read as it is written, but for its line breaks. -/
theorem readsAs_alone (text : String) :
    ReadsAs (alone text.toUTF8) alonePath (Text.normaliseNewlines text.toList) :=
  ⟨_, text, read_alone _, fromUTF8?_toUTF8 text, rfl⟩

end GuardedInstall.Lockfile
