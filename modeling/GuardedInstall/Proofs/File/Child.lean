import GuardedInstall.Proofs.File.Walk

/-!
# Names below directories

The text of a name below an absolute directory leads to the directory and from
there one name further. A single file name is therefore located exactly when the
directory is there, and at the place of that name.
-/

namespace GuardedInstall.Text

@[simp]
theorem pieces_nil (separator : Char) : pieces separator [] = [[]] :=
  rfl

theorem piecesAt_ne_nil (isSeparator : Char → Bool) (text : List Char) :
    piecesAt isSeparator text ≠ [] := by
  cases text with
  | nil => simp [piecesAt]
  | cons c rest =>
      rw [piecesAt]
      split
      · simp
      · split <;> simp

theorem pieces_ne_nil (separator : Char) (text : List Char) : pieces separator text ≠ [] :=
  piecesAt_ne_nil _ text

theorem pieces_separator_cons (separator : Char) (text : List Char) :
    pieces separator (separator :: text) = [] :: pieces separator text := by
  obtain ⟨piece, later, cut⟩ := List.exists_cons_of_ne_nil (pieces_ne_nil separator text)
  have cut : piecesAt (· == separator) text = piece :: later := cut
  simp [pieces, piecesAt, cut]

theorem pieces_cons {separator c : Char} (ne : c ≠ separator) {text piece : List Char}
    {later : List (List Char)} (cut : pieces separator text = piece :: later) :
    pieces separator (c :: text) = (c :: piece) :: later := by
  have cut : piecesAt (· == separator) text = piece :: later := cut
  simp [pieces, piecesAt, cut, ne]

/-- Cutting a text at one separator and cutting both halves cuts the whole. -/
theorem pieces_append_separator (separator : Char) (front back : List Char) :
    pieces separator (front ++ separator :: back) =
      pieces separator front ++ pieces separator back := by
  induction front with
  | nil => simp [pieces_separator_cons]
  | cons c rest ih =>
      by_cases same : c = separator
      · subst same
        simp only [List.cons_append, pieces_separator_cons, ih]
      · obtain ⟨piece, later, cut⟩ :=
          List.exists_cons_of_ne_nil (pieces_ne_nil separator rest)
        have whole : pieces separator (rest ++ separator :: back) =
            piece :: (later ++ pieces separator back) := by
          rw [ih, cut, List.cons_append]
        rw [pieces_cons same cut, List.cons_append, pieces_cons same whole, List.cons_append]

theorem pieces_eq_singleton {separator : Char} {text : List Char} (free : separator ∉ text) :
    pieces separator text = [text] := by
  induction text with
  | nil => rfl
  | cons c rest ih =>
      simp only [List.mem_cons, not_or] at free
      exact pieces_cons (Ne.symm free.1) (ih free.2)

end GuardedInstall.Text

namespace GuardedInstall.File

/-- Whether a text is the name of a single file: not empty, without a slash, and
neither of the dots. -/
structure IsFileName (name : String) : Prop where
  nonempty : name ≠ ""
  single : '/' ∉ name.toList
  notDot : name ≠ "."
  notDots : name ≠ ".."

instance (name : String) : Decidable (IsFileName name) :=
  decidable_of_iff (name ≠ "" ∧ '/' ∉ name.toList ∧ name ≠ "." ∧ name ≠ "..")
    ⟨fun ⟨nonempty, single, notDot, notDots⟩ => ⟨nonempty, single, notDot, notDots⟩,
      fun plain => ⟨plain.nonempty, plain.single, plain.notDot, plain.notDots⟩⟩

namespace IsFileName

variable {name : String}

theorem toList_ne_nil (plain : IsFileName name) : name.toList ≠ [] := by
  intro empty
  exact plain.nonempty (String.toList_inj.mp empty)

theorem step_eq (plain : IsFileName name) (here : Place) :
    System.step here name = name :: here := by
  simp [System.step, plain.notDot, plain.notDots]

theorem ofString_eq (plain : IsFileName name) : Path.ofString name = ⟨.relative, [name]⟩ := by
  have notDot : name.toList ≠ ['.'] := by
    intro dot
    exact plain.notDot (String.toList_inj.mp dot)
  have anchor : Path.anchorOf name.toList = .relative := by
    have single := plain.single
    cases chars : name.toList with
    | nil => rfl
    | cons c rest =>
        rw [chars] at single
        have noSlash : c ≠ '/' := by
          rintro rfl
          exact single List.mem_cons_self
        simp [Path.anchorOf, noSlash]
  simp [Path.ofString, anchor, Text.pieces_eq_singleton plain.single, Path.namesOf,
    plain.toList_ne_nil, notDot]

theorem child_eq (plain : IsFileName name) (path : Path) :
    path.child name = ⟨path.anchor, path.names ++ [name]⟩ := by
  simp [Path.child, plain.ofString_eq, Path.join]

theorem child_parent (plain : IsFileName name) (path : Path) :
    (path.child name).parent = path := by
  simp [plain.child_eq, Path.parent]

end IsFileName

namespace Path

/-- The text in front of the slash that precedes a name below a path. -/
def front (path : Path) : List Char :=
  match path.anchor, path.names with
  | .root, [] => []
  | .doubleRoot, [] => ['/']
  | _, _ => path.toString.toList

theorem toString_absolute {path : Path} (absolutePath : path.isAbsolute = true) :
    path.toString.toList =
      (anchorText path.anchor).toList ++ ['/'].intercalate (path.names.map String.toList) := by
  obtain ⟨anchor, names⟩ := path
  cases anchor with
  | relative => simp [isAbsolute] at absolutePath
  | root => simp [toString, anchorText]
  | doubleRoot => simp [toString, anchorText]

theorem toString_eq_front {path : Path} (absolutePath : path.isAbsolute = true) :
    path.toString.toList = path.front ∨ path.toString.toList = path.front ++ ['/'] := by
  obtain ⟨anchor, names⟩ := path
  cases anchor with
  | relative => simp [isAbsolute] at absolutePath
  | root =>
      cases names with
      | nil => exact .inr rfl
      | cons first rest => exact .inl rfl
  | doubleRoot =>
      cases names with
      | nil => exact .inr rfl
      | cons first rest => exact .inl rfl

theorem intercalate_concat (separator last : List Char) {texts : List (List Char)}
    (nonempty : texts ≠ []) :
    separator.intercalate (texts ++ [last]) =
      separator.intercalate texts ++ separator ++ last := by
  induction texts with
  | nil => exact absurd rfl nonempty
  | cons first rest ih =>
      cases rest with
      | nil => simp
      | cons second later =>
          have ih := ih (by simp)
          simp only [List.cons_append, List.intercalate_cons_cons] at ih ⊢
          simp only [ih, List.append_assoc]

/-- A name below an absolute path is written after the path and a slash. -/
theorem toString_child {path : Path} (absolutePath : path.isAbsolute = true) {name : String}
    (plain : IsFileName name) :
    (path.child name).toString.toList = path.front ++ '/' :: name.toList := by
  rw [plain.child_eq, toString_absolute (by simpa [isAbsolute] using absolutePath)]
  obtain ⟨anchor, names⟩ := path
  cases names with
  | nil =>
      cases anchor with
      | relative => simp [isAbsolute] at absolutePath
      | root => simp [front, anchorText]
      | doubleRoot => simp [front, anchorText]
  | cons first rest =>
      have whole : front ⟨anchor, first :: rest⟩ =
          (toString ⟨anchor, first :: rest⟩).toList := by
        cases anchor <;> rfl
      rw [whole, toString_absolute absolutePath, List.map_append, List.map_singleton,
        intercalate_concat _ _ (by simp)]
      simp [List.append_assoc]

theorem startsWith_slash {path : Path} (absolutePath : path.isAbsolute = true) :
    path.toString.startsWith "/" = true := by
  rw [String.startsWith_string_iff, toString_absolute absolutePath]
  obtain ⟨anchor, names⟩ := path
  cases anchor with
  | relative => simp [isAbsolute] at absolutePath
  | root => simp [anchorText]
  | doubleRoot => simp [anchorText]

theorem child_isAbsolute {path : Path} (absolutePath : path.isAbsolute = true) {name : String}
    (plain : IsFileName name) : (path.child name).isAbsolute = true := by
  simpa [plain.child_eq, isAbsolute] using absolutePath

end Path

namespace System

/-- The names between the slashes of a text. -/
def slashed (text : List Char) : List String :=
  ((Text.pieces '/' text).filter (· ≠ [])).map String.ofList

theorem walkNames_eq (text : List Char) :
    walkNames text = slashed text ++ if text.getLast? = some '/' then ["."] else [] := by
  simp only [walkNames, slashed]
  split <;> simp

theorem slashed_append_slash (front back : List Char) :
    slashed (front ++ '/' :: back) = slashed front ++ slashed back := by
  simp [slashed, Text.pieces_append_separator]

theorem slashed_fileName {name : String} (plain : IsFileName name) :
    slashed name.toList = [name] := by
  simp [slashed, Text.pieces_eq_singleton plain.single, plain.toList_ne_nil]

/-- The walk along a name below a directory goes to the directory first. -/
theorem walkNames_child {path : Path} (absolutePath : path.isAbsolute = true) {name : String}
    (plain : IsFileName name) :
    walkNames (path.child name).toString.toList = slashed path.toString.toList ++ [name] := by
  have last : (path.front ++ '/' :: name.toList).getLast? ≠ some '/' := by
    intro slash
    obtain ⟨c, chars⟩ := List.exists_cons_of_ne_nil plain.toList_ne_nil
    have atEnd : name.toList.getLast? = some '/' := by
      rw [← slash, chars.choose_spec]
      simp [List.getLast?_append, List.getLast?_cons]
    exact plain.single (List.mem_of_getLast? atEnd)
  have frontNames : slashed path.toString.toList = slashed path.front := by
    rcases Path.toString_eq_front absolutePath with whole | slash
    · rw [whole]
    · rw [slash, slashed_append_slash]
      simp [slashed]
  rw [walkNames_eq, Path.toString_child absolutePath plain, if_neg last, List.append_nil,
    slashed_append_slash, slashed_fileName plain, frontNames]

/-- A slash at the end of a text asks for no more than a directory. -/
theorem walk_walkNames_directory_iff {files : System} {here place : Place} {text : List Char} :
    files.walk here (walkNames text) = .ok place ∧ files.node? place = some .directory ↔
      files.walk here (slashed text) = .ok place ∧ files.node? place = some .directory := by
  rw [walkNames_eq]
  split
  · rw [walk_append_eq_ok_iff]
    constructor
    · rintro ⟨⟨middle, walked, dot⟩, directory⟩
      have stays : place = middle := by
        simpa [step] using eq_foldl_step_of_walk dot
      exact ⟨stays ▸ walked, directory⟩
    · rintro ⟨walked, directory⟩
      refine ⟨⟨place, walked, ?_⟩, directory⟩
      rw [walk_cons_eq_ok_iff]
      exact ⟨directory, by decide, by simp [step]⟩
  · simp

variable {path : Path} {name : String}

theorem exists_toString_child (absolutePath : path.isAbsolute = true) (plain : IsFileName name) :
    ∃ rest, (path.child name).toString = path.toString ++ rest := by
  rcases Path.toString_eq_front absolutePath with whole | slash
  · refine ⟨String.ofList ('/' :: name.toList), String.toList_inj.mp ?_⟩
    rw [Path.toString_child absolutePath plain, String.toList_append, whole, String.toList_ofList]
  · refine ⟨name, String.toList_inj.mp ?_⟩
    rw [Path.toString_child absolutePath plain, String.toList_append, slash]
    simp

/-- The front of a text that can be looked up can be. -/
theorem IsNameable.of_append {front rest : String} (nameable : IsNameable (front ++ rest))
    (nonempty : front ≠ "") : IsNameable front := by
  refine ⟨?_, nonempty, ?_⟩
  · have free := nameable.free
    simp only [obstacle?, String.toList_append, List.all_append, List.mem_append] at free ⊢
    grind
  · have short := nameable.short
    rw [byteLength_append] at short
    exact Nat.lt_of_le_of_lt (Nat.le_add_right _ _) short

/-- What can be looked up in a directory leaves the directory nameable. -/
theorem IsNameable.ofChild (absolutePath : path.isAbsolute = true) (plain : IsFileName name)
    (nameable : IsNameable (path.child name).toString) : IsNameable path.toString := by
  obtain ⟨rest, text⟩ := exists_toString_child absolutePath plain
  rw [text] at nameable
  apply nameable.of_append
  intro empty
  simpa [empty] using Path.startsWith_slash absolutePath

/-- A file name below an absolute directory is located exactly when the directory
is, and then one name below it. -/
theorem locate_child_eq_ok_iff (absolutePath : path.isAbsolute = true) (plain : IsFileName name)
    {files : System} {place : Place} :
    files.locate (path.child name).toString = .ok place ↔
      IsNameable (path.child name).toString ∧ byteLength name ≤ nameLimit ∧
        ∃ base, files.locate path.toString = .ok base ∧
          files.node? base = some .directory ∧ place = name :: base := by
  have fromRoot : files.origin (path.child name).toString = files.origin path.toString := by
    simp only [origin, Path.startsWith_slash absolutePath,
      Path.startsWith_slash (Path.child_isAbsolute absolutePath plain)]
  simp only [locate_eq_ok_iff, fromRoot, walkNames_child absolutePath plain,
    walk_append_eq_ok_iff, walk_cons_eq_ok_iff, plain.step_eq, walk_nil, Except.ok.injEq]
  constructor
  · rintro ⟨nameable, base, walked, directory, short, rfl⟩
    have toBase := walk_walkNames_directory_iff.mpr ⟨walked, directory⟩
    exact ⟨nameable, short, base,
      ⟨nameable.ofChild absolutePath plain, toBase.1⟩, directory, rfl⟩
  · rintro ⟨nameable, short, base, ⟨-, toBase⟩, directory, rfl⟩
    have walked := walk_walkNames_directory_iff.mp ⟨toBase, directory⟩
    exact ⟨nameable, base, walked.1, directory, short, rfl⟩

/-- A name below the root of the file system leads to the place of that name. -/
theorem locate_child_root (plain : IsFileName name) (short : byteLength name ≤ nameLimit)
    (nameable : IsNameable (Path.child ⟨.root, []⟩ name).toString) (files : System) :
    files.locate (Path.child ⟨.root, []⟩ name).toString = .ok [name] := by
  have absolutePath : (⟨.root, []⟩ : Path).isAbsolute = true := rfl
  have atRoot : files.locate (⟨.root, []⟩ : Path).toString = .ok [] := by
    rw [locate_eq_ok_iff, origin, Path.startsWith_slash absolutePath]
    exact ⟨⟨rfl, by decide, by decide⟩, rfl⟩
  rw [locate_child_eq_ok_iff absolutePath plain]
  exact ⟨nameable, short, [], atRoot, rfl, rfl⟩

/-- Where the name of a file below an absolute directory leads does not depend on what
else is there. -/
theorem target_child (absolutePath : path.isAbsolute = true) (plain : IsFileName name)
    {files : System} {base : Place} (located : files.locate path.toString = .ok base)
    (later : System) : later.target (path.child name).toString = name :: base := by
  have dot : ∀ names : List String, ((names ++ ["."]).foldl step []) = names.foldl step [] := by
    intro names
    rw [List.foldl_append]
    rfl
  have atBase : base = (slashed path.toString.toList).foldl step [] := by
    rw [eq_target_of_locate located, target, origin, Path.startsWith_slash absolutePath, if_pos rfl,
      walkNames_eq]
    split
    · rw [dot]
    · rw [List.append_nil]
  rw [target, origin, Path.startsWith_slash (Path.child_isAbsolute absolutePath plain), if_pos rfl,
    walkNames_child absolutePath plain, List.foldl_append, ← atBase]
  exact plain.step_eq base

end System

end GuardedInstall.File
