import GuardedInstall.Proofs.Lockfile.Reading

/-!
# Faults of reading lockfiles

A lockfile that cannot be used is refused, except in three cases that are no refusal but a
fault: the path is not looked up at all, the bytes are no text, or the text is a document
with a number out of range. The second one is within the reach of whoever writes the file.
-/

namespace GuardedInstall.Lockfile

open GuardedInstall.File.System (obstacle? obstacles mem_obstacles)

/-- The fault that a failure to open a file is. -/
def obstruction? : File.Failure → Option Fault
  | .nullByte => some .nullByte
  | .half => some .half
  | _ => none

/-- The fault that an error of a document is. -/
def excess? : Yaml.Error → Option Fault
  | .beyondUnicode => some .beyondUnicode
  | .beyondWord => some .beyondWord
  | .tooManyDigits count => some (.tooManyDigits count)
  | _ => none

/-- What makes reading a lockfile come to a fault. -/
inductive Faulty (files : File.System) (path : File.Path) : Fault → Prop where
  | path {failure : File.Failure} {fault : Fault}
      (unlooked : obstacle? path.toString = some failure)
      (told : obstruction? failure = some fault) : Faulty files path fault
  | bytes {content : File.Bytes} (read : files.read path = .ok content)
      (undecodable : String.fromUTF8? content = none) : Faulty files path .notUtf8
  | document {text : List Char} {error : Yaml.Error} {fault : Fault}
      (reads : ReadsAs files path text) (newer : Classic.isClassic text = false)
      (failed : Yaml.read text = .error error) (told : excess? error = some fault) :
      Faulty files path fault

variable {files : File.System} {path : File.Path} {text : List Char} {format : String}
  {fault : Fault}

theorem mem_obstacles_of_obstruction? {failure : File.Failure}
    (told : obstruction? failure = some fault) : failure ∈ obstacles := by
  cases failure <;> simp_all [obstruction?, obstacles]

/-! ## Each step of reading -/

theorem parse_of_read_error {error : File.AccessError} (known : format ∈ formats)
    (failed : files.read path = .error error) :
    parse files path format = .error (match obstruction? error.failure with
      | some fault => .fault fault
      | none => .refused (.unreadable path.toString error)) := by
  simp only [parse, known, not_true_eq_false, if_false, failed]
  cases error.failure <;> rfl

/-- The text of a document is told by its errors. -/
theorem parseDocument_of_error {path : String} {error : Yaml.Error}
    (failed : Yaml.read text = .error error) :
    parseDocument path text = .error (match excess? error with
      | some fault => .fault fault
      | none => .refused (.notADocument path (error.message text))) := by
  simp only [parseDocument, failed]
  cases error <;> rfl

theorem parseDocument_ne_fault_of_ok {path : String} {document : Option Yaml.Node}
    (read : Yaml.read text = .ok document) :
    parseDocument path text ≠ .error (.fault fault) := by
  simp only [parseDocument, read]
  cases Berry.dependencies document with
  | error error => simp [Except.mapError]
  | ok found => simp [Except.mapError]

theorem parseDocument_eq_fault_iff {path : String} :
    parseDocument path text = .error (.fault fault) ↔
      ∃ error, Yaml.read text = .error error ∧ excess? error = some fault := by
  cases outcome : Yaml.read text with
  | ok document => simp [parseDocument_ne_fault_of_ok outcome]
  | error error =>
      rw [parseDocument_of_error outcome]
      cases told : excess? error with
      | none => simp [told]
      | some other => simp [told]

/-- A text that was read comes to a fault only as a document of the newer kind. -/
theorem ReadsAs.parse_fault_iff (reads : ReadsAs files path text) (known : format ∈ formats) :
    parse files path format = .error (.fault fault) ↔ Classic.isClassic text = false ∧
      ∃ error, Yaml.read text = .error error ∧ excess? error = some fault := by
  rw [reads.parse_eq known]
  cases kind : Classic.isClassic text with
  | true => cases Classic.dependencies text <;> simp [Except.mapError, Except.map]
  | false =>
      have beyond : parseDocument path.toString text = .error (.fault fault) ↔
          ∃ error, Yaml.read text = .error error ∧ excess? error = some fault :=
        parseDocument_eq_fault_iff
      rw [← beyond]
      cases parseDocument path.toString text <;> simp [Except.map]

/-! ## Faults -/

theorem ReadsAs.eq {other : List Char} (reads : ReadsAs files path text)
    (again : ReadsAs files path other) : other = text := by
  obtain ⟨content, whole, read, decoded, rfl⟩ := reads
  obtain ⟨content', whole', read', decoded', rfl⟩ := again
  rw [read] at read'
  cases read'
  rw [decoded] at decoded'
  cases decoded'
  rfl

/-- A path that is not looked up is at fault. -/
theorem faulty_iff_of_read_error {error : File.AccessError}
    (failed : files.read path = .error error) :
    Faulty files path fault ↔ obstruction? error.failure = some fault := by
  have named : error = ⟨error.failure, path.toString⟩ := by
    rw [← File.System.path_of_read_error failed]
  constructor
  · intro faulty
    cases faulty with
    | path unlooked told =>
        rw [(File.System.read_eq_error_iff (mem_obstacles unlooked)).mpr unlooked] at failed
        cases failed
        exact told
    | bytes read undecodable =>
        rw [failed] at read
        cases read
    | document reads newer broken told =>
        obtain ⟨content, whole, read, -⟩ := reads
        rw [failed] at read
        cases read
  · intro told
    rw [named] at failed
    have unlooked :=
      (File.System.read_eq_error_iff (mem_obstacles_of_obstruction? told)).mp failed
    exact .path unlooked told

theorem not_obstructed_of_read {content : File.Bytes} {failure : File.Failure}
    (read : files.read path = .ok content) : obstacle? path.toString ≠ some failure := by
  intro unlooked
  rw [(File.System.read_eq_error_iff (mem_obstacles unlooked)).mpr unlooked] at read
  cases read

/-- Bytes that write no text are at fault. -/
theorem faulty_iff_of_undecodable {content : File.Bytes} (read : files.read path = .ok content)
    (undecodable : String.fromUTF8? content = none) :
    Faulty files path fault ↔ fault = .notUtf8 := by
  constructor
  · intro faulty
    cases faulty with
    | path unlooked told => exact absurd unlooked (not_obstructed_of_read read)
    | bytes again none => rfl
    | document reads newer failed told =>
        obtain ⟨content', whole, read', decoded, -⟩ := reads
        rw [read] at read'
        cases read'
        rw [undecodable] at decoded
        cases decoded
  · rintro rfl
    exact .bytes read undecodable

/-- A text is at fault for its numbers. -/
theorem ReadsAs.faulty_iff (reads : ReadsAs files path text) :
    Faulty files path fault ↔ Classic.isClassic text = false ∧
      ∃ error, Yaml.read text = .error error ∧ excess? error = some fault := by
  constructor
  · intro faulty
    cases faulty with
    | path unlooked told =>
        obtain ⟨content, whole, read, -⟩ := reads
        exact absurd unlooked (not_obstructed_of_read read)
    | bytes read undecodable =>
        obtain ⟨content, whole, read', decoded, -⟩ := reads
        rw [read] at read'
        cases read'
        rw [undecodable] at decoded
        cases decoded
    | document again newer failed told =>
        have same := reads.eq again
        subst same
        exact ⟨newer, _, failed, told⟩
  · rintro ⟨newer, error, failed, told⟩
    exact .document reads newer failed told

/-- Reading a lockfile of a known format comes to the faults of the file. -/
theorem parse_eq_fault_iff_of_known (known : format ∈ formats) :
    parse files path format = .error (.fault fault) ↔ Faulty files path fault := by
  cases read : files.read path with
  | error error =>
      rw [faulty_iff_of_read_error read, parse_of_read_error known read]
      cases told : obstruction? error.failure with
      | none => simp
      | some other => simp
  | ok content =>
      cases decoded : String.fromUTF8? content with
      | none =>
          rw [faulty_iff_of_undecodable read decoded]
          simp [parse, known, read, decoded, eq_comm]
      | some whole =>
          have reads : ReadsAs files path _ := ⟨content, whole, read, decoded, rfl⟩
          rw [reads.parse_fault_iff known, reads.faulty_iff]

/-- All that is not refused, whatever the path, the format and the bytes. -/
theorem parse_eq_fault_iff (files : File.System) (path : File.Path) (format : String)
    (fault : Fault) :
    parse files path format = .error (.fault fault) ↔
      format ∈ formats ∧ Faulty files path fault := by
  by_cases known : format ∈ formats
  · rw [parse_eq_fault_iff_of_known known]
    simp [known]
  · simp [parse, known]

/-- A byte that stands in no text. -/
def garbage : File.Bytes := ⟨#[0xFF]⟩

theorem parse_garbage : parse (alone garbage) alonePath "yarn" = .error (.fault .notUtf8) := by
  have undecodable : String.fromUTF8? garbage = none := by decide
  rw [parse_eq_fault_iff_of_known (by decide)]
  exact .bytes (read_alone garbage) undecodable

/-- A path that can be looked up may hold what is not refused. -/
theorem not_forall_refused :
    ¬ ∀ files path format failure, obstacle? path.toString = none →
      parse files path format = .error failure → ∃ refusal, failure = .refused refusal := by
  intro refuses
  obtain ⟨refusal, refused⟩ := refuses _ _ _ _ (by decide) parse_garbage
  cases refused

end GuardedInstall.Lockfile
