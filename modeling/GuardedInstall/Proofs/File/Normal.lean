import GuardedInstall.Proofs.File.Restore

/-!
# Paths in normal form

A path that was read from a text has proper names only: none is empty, a single dot, or
holds a slash. Such a path is read back from its written form, and the walk along that
form is the walk along its names. So whether something stands at a path is told by its
names alone, and whatever can be located stands in the directory of its parent.
-/

namespace GuardedInstall.Text

theorem separator_not_mem_of_mem_pieces {separator : Char} {text piece : List Char}
    (member : piece ∈ pieces separator text) : separator ∉ piece := by
  induction text generalizing piece with
  | nil =>
      rw [pieces_nil, List.mem_singleton] at member
      simp [member]
  | cons c rest ih =>
      obtain ⟨first, later, cut⟩ := List.exists_cons_of_ne_nil (pieces_ne_nil separator rest)
      by_cases same : c = separator
      · subst same
        rw [pieces_separator_cons, List.mem_cons] at member
        rcases member with rfl | member
        · simp
        · exact ih member
      · rw [pieces_cons same cut, List.mem_cons] at member
        rw [cut] at ih
        rcases member with rfl | member
        · have free := ih List.mem_cons_self
          simp [Ne.symm same, free]
        · exact ih (List.mem_cons_of_mem _ member)

/-- Texts without the separator are the pieces of what joins them. -/
theorem pieces_intercalate {separator : Char} {texts : List (List Char)} (nonempty : texts ≠ [])
    (free : ∀ text ∈ texts, separator ∉ text) :
    pieces separator ([separator].intercalate texts) = texts := by
  induction texts with
  | nil => exact absurd rfl nonempty
  | cons first rest ih =>
      obtain ⟨firstFree, restFree⟩ := List.forall_mem_cons.mp free
      cases rest with
      | nil => simpa using pieces_eq_singleton firstFree
      | cons second later =>
          rw [List.intercalate_cons_cons, List.append_assoc, List.singleton_append,
            pieces_append_separator, pieces_eq_singleton firstFree, ih (by simp) restFree]
          rfl

end GuardedInstall.Text

namespace GuardedInstall.File

namespace Path

/-- A path whose names are those of files and directories, or double dots. -/
structure IsNormal (path : Path) : Prop where
  nonempty : "" ∉ path.names
  single (name : String) (member : name ∈ path.names) : '/' ∉ name.toList
  notDot : "." ∉ path.names

/-- What is read is in normal form. -/
theorem ofString_isNormal (text : String) : (ofString text).IsNormal := by
  have proper {name : String} (member : name ∈ (ofString text).names) :
      name.toList ∈ Text.pieces '/' text.toList ∧ name.toList ≠ [] ∧ name.toList ≠ ['.'] := by
    obtain ⟨piece, pieceMem, rfl⟩ := List.mem_map.mp member
    simpa using pieceMem
  constructor
  case nonempty =>
    intro member
    exact (proper member).2.1 rfl
  case single =>
    intro name member
    exact Text.separator_not_mem_of_mem_pieces (proper member).1
  case notDot =>
    intro member
    exact (proper member).2.2 rfl

variable {path : Path}

theorem IsNormal.parent (normal : path.IsNormal) : path.parent.IsNormal := by
  have kept : path.parent.names ⊆ path.names := (List.dropLast_sublist path.names).subset
  exact ⟨fun member => normal.nonempty (kept member),
    fun name member => normal.single name (kept member),
    fun member => normal.notDot (kept member)⟩

/-- The names of a written path are joined by slashes behind its anchor. -/
theorem toString_toList (written : path.isAbsolute = true ∨ path.names ≠ []) :
    path.toString.toList =
      (anchorText path.anchor).toList ++ ['/'].intercalate (path.names.map String.toList) := by
  obtain ⟨anchor, names⟩ := path
  cases anchor with
  | root => exact toString_absolute rfl
  | doubleRoot => exact toString_absolute rfl
  | relative =>
      cases names with
      | nil => simp [isAbsolute] at written
      | cons first rest => simp [toString, anchorText]

/-- The pieces of a written path that are not empty are its names. -/
theorem IsNormal.filter_pieces (normal : path.IsNormal)
    (written : path.isAbsolute = true ∨ path.names ≠ []) :
    (Text.pieces '/' path.toString.toList).filter (· ≠ []) = path.names.map String.toList := by
  have names : (Text.pieces '/' (['/'].intercalate (path.names.map String.toList))).filter
      (· ≠ []) = path.names.map String.toList := by
    by_cases nameless : path.names = []
    · simp [nameless]
    · rw [Text.pieces_intercalate (by simpa using nameless)
        (List.forall_mem_map.mpr normal.single), List.filter_eq_self]
      intro text member
      obtain ⟨name, nameMem, rfl⟩ := List.mem_map.mp member
      have ne : name ≠ "" := by
        rintro rfl
        exact normal.nonempty nameMem
      simpa using ne
  rw [toString_toList written]
  cases path.anchor with
  | relative => simpa [anchorText] using names
  | root => simpa [anchorText, Text.pieces_separator_cons] using names
  | doubleRoot => simpa [anchorText, Text.pieces_separator_cons] using names

/-- The front of a written path tells its anchor. -/
theorem IsNormal.anchorOf_toString (normal : path.IsNormal) :
    anchorOf path.toString.toList = path.anchor := by
  obtain ⟨anchor, names⟩ := path
  cases names with
  | nil => cases anchor <;> rfl
  | cons first rest =>
      have ne : first.toList ≠ [] := by
        intro empty
        have blank : first = "" := String.toList_inj.mp empty
        exact normal.nonempty (blank ▸ List.mem_cons_self)
      obtain ⟨c, later, chars⟩ := List.exists_cons_of_ne_nil ne
      have noSlash : c ≠ '/' := by
        rintro rfl
        exact normal.single first List.mem_cons_self (chars ▸ List.mem_cons_self)
      rw [toString_toList (.inr (by simp))]
      cases rest <;> cases anchor <;>
        simp [anchorText, anchorOf, chars, noSlash]

/-- A path is read back from its written form. -/
theorem IsNormal.ofString_toString (normal : path.IsNormal) : ofString path.toString = path := by
  have names : namesOf (Text.pieces '/' path.toString.toList) = path.names := by
    by_cases written : path.isAbsolute = true ∨ path.names ≠ []
    · have dotless : (path.names.map String.toList).filter (· ≠ ['.']) =
          path.names.map String.toList := by
        rw [List.filter_eq_self]
        intro text member
        obtain ⟨name, nameMem, rfl⟩ := List.mem_map.mp member
        have ne : name ≠ "." := by
          rintro rfl
          exact normal.notDot nameMem
        have : name.toList ≠ ".".toList := fun same => ne (String.toList_inj.mp same)
        simpa using this
      rw [← normal.filter_pieces written, List.filter_filter] at dotless
      calc namesOf (Text.pieces '/' path.toString.toList)
          = (((Text.pieces '/' path.toString.toList).filter fun piece =>
              piece ≠ ['.'] ∧ piece ≠ []).map String.ofList) := by
            simp only [namesOf, and_comm]
        _ = (path.names.map String.toList).map String.ofList := by
            rw [← normal.filter_pieces written, ← dotless]
            congr 2
            funext piece
            simp
        _ = path.names := by simp
    · simp only [not_or, not_not] at written
      obtain ⟨relative, nameless⟩ := written
      obtain ⟨anchor, names⟩ := path
      cases nameless
      cases anchor with
      | relative => rfl
      | root => exact absurd rfl relative
      | doubleRoot => exact absurd rfl relative
  have anchor := normal.anchorOf_toString
  rw [ofString, names, anchor]

theorem anchorOf_slash_ne_relative (rest : List Char) : anchorOf ('/' :: rest) ≠ .relative := by
  unfold anchorOf
  split <;> simp_all

/-- A text is read as an absolute path if it begins with a slash. -/
theorem ofString_isAbsolute_iff {text : String} :
    (ofString text).isAbsolute = true ↔ text.toList.head? = some '/' := by
  rw [isAbsolute, ofString]
  cases text.toList with
  | nil => simp [anchorOf]
  | cons c rest =>
      by_cases slash : c = '/'
      · subst slash
        simpa using anchorOf_slash_ne_relative rest
      · have relative : anchorOf (c :: rest) = .relative := by
          simp [anchorOf, slash]
        simp [relative, slash]

theorem IsNormal.toString_ne_empty (normal : path.IsNormal) : path.toString ≠ "" := by
  intro empty
  have nameless : path = ofString "" := by
    rw [← empty, normal.ofString_toString]
  rw [nameless] at empty
  exact absurd empty (by decide)

/-- Only an absolute path is written with a slash in front. -/
theorem IsNormal.startsWith_slash (normal : path.IsNormal) :
    path.toString.startsWith "/" = path.isAbsolute := by
  cases absolute : path.isAbsolute with
  | true => exact Path.startsWith_slash absolute
  | false =>
      rw [← Bool.not_eq_true, String.startsWith_string_iff]
      rintro ⟨rest, slash⟩
      have relative : path.anchor = .relative := by
        simpa [isAbsolute] using absolute
      have front := normal.anchorOf_toString
      rw [← slash] at front
      exact anchorOf_slash_ne_relative rest (front.trans relative)

/-- The last name is written last, behind the parent and a slash if there is a parent to
write. -/
theorem toString_toList_of_names (nameful : path.names ≠ []) :
    ∃ front, path.toString.toList = front ++ (path.names.getLast nameful).toList ∧
      (path.parent.toString = "." ∨ path.parent.toString.toList <+: front) := by
  have names := List.dropLast_concat_getLast nameful
  have parent : path.parent = ⟨path.anchor, path.names.dropLast⟩ := rfl
  rw [toString_toList (.inr nameful)]
  generalize path.names.getLast nameful = last at names ⊢
  rw [← names, List.map_append, List.map_singleton]
  by_cases alone : path.names.dropLast = []
  · refine ⟨(anchorText path.anchor).toList, by simp [alone], ?_⟩
    rw [parent, alone]
    cases path.anchor with
    | relative => exact .inl rfl
    | root => exact .inr List.prefix_rfl
    | doubleRoot => exact .inr List.prefix_rfl
  · refine ⟨(anchorText path.anchor).toList ++
      ['/'].intercalate (path.names.dropLast.map String.toList) ++ ['/'], ?_, .inr ?_⟩
    · rw [intercalate_concat _ _ (mt List.map_eq_nil_iff.mp alone)]
      simp only [List.append_assoc]
    · rw [toString_toList (.inr alone)]
      exact List.prefix_append _ _

end Path

theorem IsFileName.isNormal {name : String} (plain : IsFileName name) (anchor : Anchor) :
    Path.IsNormal ⟨anchor, [name]⟩ := by
  constructor
  · simpa using plain.nonempty.symm
  · simpa using plain.single
  · simpa using plain.notDot.symm

namespace System

variable {path : Path} {files : System} {place : Place}

theorem slashed_toString (normal : path.IsNormal)
    (written : path.isAbsolute = true ∨ path.names ≠ []) :
    slashed path.toString.toList = path.names := by
  rw [slashed, normal.filter_pieces written]
  simp

/-- The walk along a written path is the walk along its names. -/
theorem walkNames_toString (normal : path.IsNormal) (nameful : path.names ≠ []) :
    walkNames path.toString.toList = path.names := by
  have last : path.toString.toList.getLast? ≠ some '/' := by
    obtain ⟨front, text, -⟩ := Path.toString_toList_of_names nameful
    have member := List.getLast_mem nameful
    generalize path.names.getLast nameful = name at text member
    have ne : name.toList ≠ [] := by
      intro empty
      have blank : name = "" := String.toList_inj.mp empty
      exact normal.nonempty (blank ▸ member)
    intro slash
    have atEnd : name.toList.getLast? = some '/' := by
      rw [← slash, text]
      obtain ⟨c, chars, cut⟩ := List.exists_cons_of_ne_nil ne
      simp [cut, List.getLast?_append, List.getLast?_cons]
    exact normal.single name member (List.mem_of_getLast? atEnd)
  rw [walkNames_eq, if_neg last, List.append_nil, slashed_toString normal (.inr nameful)]

theorem locate_toString_eq_ok_iff (normal : path.IsNormal) (nameful : path.names ≠ []) :
    files.locate path.toString = .ok place ↔
      IsNameable path.toString ∧
        files.walk (files.origin path.toString) path.names = .ok place := by
  rw [locate_eq_ok_iff, walkNames_toString normal nameful]

/-- A directory stands at a path exactly when the walk along its names ends at one. -/
theorem status_toString_eq_directory_iff (normal : path.IsNormal) :
    files.status path.toString = .ok .directory ↔
      IsNameable path.toString ∧
        ∃ place, files.walk (files.origin path.toString) path.names = .ok place ∧
          files.node? place = some .directory := by
  simp only [status_eq_directory_iff, locate_eq_ok_iff, and_assoc, exists_and_left]
  by_cases written : path.isAbsolute = true ∨ path.names ≠ []
  · simp only [walk_walkNames_directory_iff, slashed_toString normal written]
  · simp only [not_or, not_not] at written
    obtain ⟨relative, nameless⟩ := written
    have dot : path.toString.toList = ['.'] := by
      obtain ⟨anchor, names⟩ := path
      cases nameless
      cases anchor with
      | relative => rfl
      | root => exact absurd rfl relative
      | doubleRoot => exact absurd rfl relative
    have short : byteLength "." ≤ nameLimit := by decide
    have names : walkNames ['.'] = ["."] := by decide
    simp only [dot, names, nameless, walk_cons_eq_ok_iff, short, step, if_true, walk_nil,
      Except.ok.injEq, true_and, exists_eq_left']
    grind

/-- A path that can be looked up has a parent that can. -/
theorem IsNameable.parent (normal : path.IsNormal) (nameful : path.names ≠ [])
    (nameable : IsNameable path.toString) : IsNameable path.parent.toString := by
  obtain ⟨front, text, dot | ⟨rest, rfl⟩⟩ := Path.toString_toList_of_names nameful
  · rw [dot]
    exact ⟨by decide, by decide, by decide⟩
  · have whole : path.toString = path.parent.toString ++
        String.ofList (rest ++ (path.names.getLast nameful).toList) := by
      apply String.toList_inj.mp
      rw [text]
      simp
    rw [whole] at nameable
    exact nameable.of_append normal.parent.toString_ne_empty

/-! ## Paths and their directories -/

theorem origin_parent (normal : path.IsNormal) (files : System) :
    files.origin path.parent.toString = files.origin path.toString := by
  have anchor : path.parent.isAbsolute = path.isAbsolute := rfl
  simp only [origin, normal.startsWith_slash, normal.parent.startsWith_slash, anchor]

/-- A path is located by one name from where its directory is. -/
theorem locate_toString_eq_ok_iff_parent (normal : path.IsNormal) (nameful : path.names ≠ []) :
    files.locate path.toString = .ok place ↔
      IsNameable path.toString ∧ byteLength (path.names.getLast nameful) ≤ nameLimit ∧
        ∃ base, files.walk (files.origin path.toString) path.parent.names = .ok base ∧
          files.node? base = some .directory ∧
          place = step base (path.names.getLast nameful) := by
  have names := List.dropLast_concat_getLast nameful
  have parent : path.parent.names = path.names.dropLast := rfl
  rw [locate_toString_eq_ok_iff normal nameful, parent]
  generalize path.names.getLast nameful = last at names ⊢
  generalize path.names.dropLast = above at names ⊢
  simp only [← names, walk_append_eq_ok_iff, walk_cons_eq_ok_iff, walk_nil, Except.ok.injEq]
  constructor
  · rintro ⟨nameable, base, walked, directory, short, rfl⟩
    exact ⟨nameable, short, base, walked, directory, rfl⟩
  · rintro ⟨nameable, short, base, walked, directory, rfl⟩
    exact ⟨nameable, base, walked, directory, short, rfl⟩

/-- What is located stands in a directory. -/
theorem status_parent_of_locate (normal : path.IsNormal) (nameful : path.names ≠ [])
    (located : files.locate path.toString = .ok place) :
    files.status path.parent.toString = .ok .directory := by
  obtain ⟨nameable, -, base, walked, directory, -⟩ :=
    (locate_toString_eq_ok_iff_parent normal nameful).mp located
  rw [status_toString_eq_directory_iff normal.parent, origin_parent normal]
  exact ⟨nameable.parent normal nameful, base, walked, directory⟩

/-- In a directory that is there, every name that is not too long is located. -/
theorem exists_locate_of_status_parent (normal : path.IsNormal) (nameful : path.names ≠ [])
    (nameable : IsNameable path.toString)
    (short : byteLength (path.names.getLast nameful) ≤ nameLimit)
    (inDirectory : files.status path.parent.toString = .ok .directory) :
    ∃ place, files.locate path.toString = .ok place := by
  rw [status_toString_eq_directory_iff normal.parent, origin_parent normal] at inDirectory
  obtain ⟨-, base, walked, directory⟩ := inDirectory
  exact ⟨_, (locate_toString_eq_ok_iff_parent normal nameful).mpr
    ⟨nameable, short, base, walked, directory, rfl⟩⟩

theorem foldl_step_of_dotless {names : List String} (notDot : "." ∉ names)
    (notDots : ".." ∉ names) (here : Place) : names.foldl step here = names.reverse ++ here := by
  induction names generalizing here with
  | nil => rfl
  | cons name rest ih =>
      simp only [List.mem_cons, not_or] at notDot notDots
      have next : step here name = name :: here := by
        simp [step, Ne.symm notDot.1, Ne.symm notDots.1]
      rw [List.foldl_cons, next, ih notDot.2 notDots.2]
      simp

/-- An absolute path without double dots leads to the place of its names. Two such paths of
one anchor are different exactly when their places are. -/
theorem target_toString (normal : path.IsNormal) (absolutePath : path.isAbsolute = true)
    (notDots : ".." ∉ path.names) (files : System) :
    files.target path.toString = path.names.reverse := by
  rw [target, origin, Path.startsWith_slash absolutePath, if_pos rfl]
  by_cases nameful : path.names = []
  · obtain ⟨anchor, names⟩ := path
    cases nameful
    cases anchor with
    | relative => cases absolutePath
    | root => rfl
    | doubleRoot => rfl
  · rw [walkNames_toString normal nameful, foldl_step_of_dotless normal.notDot notDots,
      List.append_nil]

end System

end GuardedInstall.File
