import GuardedInstall.File.System

/-!
# Walks and directories

A walk towards a place passes through directories only, and it ends where the
names alone lead. Whether it succeeds therefore depends on a file system only
through its directories. Two file systems with the same directories locate the
same texts, whatever files they hold.
-/

namespace GuardedInstall.File.System

/-! ## What stands at a place after a change -/

@[simp]
theorem node?_root (files : System) : files.node? [] = some .directory :=
  rfl

@[simp]
theorem node?_set_self {place : Place} (nonempty : place ≠ []) (files : System) (node : Node) :
    (files.set place node).node? place = some node := by
  simp [node?, set, nonempty]

theorem node?_set_of_ne {place other : Place} (ne : other ≠ place) (files : System)
    (node : Node) : (files.set place node).node? other = files.node? other := by
  simp [node?, set, Table.find?_put_of_ne ne]

theorem find?_filter_ne (place other : Place) (nodes : List (Place × Node)) :
    Table.find? other (nodes.filter fun entry => entry.1 ≠ place) =
      if other = place then none else Table.find? other nodes := by
  induction nodes with
  | nil => simp [Table.find?]
  | cons entry rest ih =>
      obtain ⟨present, node⟩ := entry
      by_cases erased : present = place
      · subst erased
        by_cases same : other = present
        · simpa [same] using ih
        · simpa [same, Ne.symm same, Table.find?] using ih
      · by_cases hit : present = other
        · subst hit
          simp [erased, Table.find?]
        · simpa [erased, hit, Table.find?] using ih

@[simp]
theorem node?_erase_self {place : Place} (nonempty : place ≠ []) (files : System) :
    (files.erase place).node? place = none := by
  simp only [node?, erase, nonempty, if_false]
  rw [find?_filter_ne, if_pos rfl]

theorem node?_erase_of_ne {place other : Place} (ne : other ≠ place) (files : System) :
    (files.erase place).node? other = files.node? other := by
  simp only [node?, erase]
  rw [find?_filter_ne, if_neg ne]

@[simp]
theorem set_workingDirectory (files : System) (place : Place) (node : Node) :
    (files.set place node).workingDirectory = files.workingDirectory :=
  rfl

@[simp]
theorem erase_workingDirectory (files : System) (place : Place) :
    (files.erase place).workingDirectory = files.workingDirectory :=
  rfl

/-! ## Steps of a walk -/

/-- The place that one name leads to. -/
def step (here : Place) (name : String) : Place :=
  if name = "." then here else if name = ".." then here.tail else name :: here

@[simp]
theorem walk_nil (files : System) (here : Place) : files.walk here [] = .ok here := by
  rw [walk]

/-- A walk takes a step exactly when it stands in a directory and the name is not
too long. That the next name exists is seen when the walk goes on from there. -/
theorem walk_cons_eq_ok_iff {files : System} {here place : Place} {name : String}
    {rest : List String} :
    files.walk here (name :: rest) = .ok place ↔
      files.node? here = some .directory ∧ byteLength name ≤ nameLimit ∧
        files.walk (step here name) rest = .ok place := by
  have dotShort : byteLength ".." ≤ nameLimit ∧ byteLength "." ≤ nameLimit := by decide
  -- Looking ahead gives an error earlier, but never for a walk that would succeed.
  have absent_stops (stop : rest ≠ [] ∧ files.node? (name :: here) = none) :
      files.walk (name :: here) rest ≠ .ok place := by
    obtain ⟨more, missing⟩ := stop
    cases rest with
    | nil => exact absurd rfl more
    | cons next later => simp [walk, missing]
  rw [walk]
  by_cases inside : files.node? here = some .directory
  · by_cases dot : name = "."
    · simp [inside, dot, step, dotShort.2]
    · by_cases dots : name = ".."
      · simp [inside, dots, step, dotShort.1]
      · by_cases long : nameLimit < byteLength name
        · simp [inside, dot, dots, long, Nat.not_le.mpr long]
        · simp only [inside, dot, dots, long, step, ne_eq, not_true_eq_false, if_false, true_and,
            Nat.not_lt.mp long]
          split
          · rename_i stop
            simpa using absent_stops stop
          · rfl
  · simp [inside]

/-- Walks compose at every place on the way. -/
theorem walk_append_eq_ok_iff {files : System} {here place : Place}
    {names more : List String} :
    files.walk here (names ++ more) = .ok place ↔
      ∃ middle, files.walk here names = .ok middle ∧ files.walk middle more = .ok place := by
  induction names generalizing here with
  | nil => simp
  | cons name rest ih =>
      simp only [List.cons_append, walk_cons_eq_ok_iff, ih]
      constructor
      · rintro ⟨inside, short, middle, first, second⟩
        exact ⟨middle, ⟨inside, short, first⟩, second⟩
      · rintro ⟨middle, ⟨inside, short, first⟩, second⟩
        exact ⟨inside, short, middle, first, second⟩

/-- A walk ends where its names lead. -/
theorem eq_foldl_step_of_walk {files : System} {here place : Place} {names : List String}
    (walked : files.walk here names = .ok place) : place = names.foldl step here := by
  induction names generalizing here with
  | nil => simpa using walked.symm
  | cons name rest ih => exact ih (walk_cons_eq_ok_iff.mp walked).2.2

theorem short_of_walk {files : System} {here place : Place} {names : List String}
    (walked : files.walk here names = .ok place) :
    ∀ name ∈ names, byteLength name ≤ nameLimit := by
  induction names generalizing here with
  | nil => simp
  | cons name rest ih =>
      obtain ⟨-, short, walked⟩ := walk_cons_eq_ok_iff.mp walked
      exact List.forall_mem_cons.mpr ⟨short, ih walked⟩

/-! ## Walks that a long name stops -/

/-- The length of a name stops a walk in a directory only, and now or later. -/
theorem walk_cons_eq_nameTooLong_iff {files : System} {here : Place} {name : String}
    {rest : List String} :
    files.walk here (name :: rest) = .error .nameTooLong ↔
      files.node? here = some .directory ∧ (nameLimit < byteLength name ∨
        files.walk (step here name) rest = .error .nameTooLong) := by
  have dotShort : ¬ nameLimit < byteLength ".." ∧ ¬ nameLimit < byteLength "." := by decide
  -- Looking ahead stops a walk that the length of a later name would not stop.
  have absent_stops (stop : rest ≠ [] ∧ files.node? (name :: here) = none) :
      files.walk (name :: here) rest ≠ .error .nameTooLong := by
    obtain ⟨more, missing⟩ := stop
    cases rest with
    | nil => exact absurd rfl more
    | cons next later => simp [walk, missing]
  rw [walk]
  by_cases inside : files.node? here = some .directory
  · by_cases dot : name = "."
    · simp [inside, dot, step, dotShort.2]
    · by_cases dots : name = ".."
      · simp [inside, dots, step, dotShort.1]
      · by_cases long : nameLimit < byteLength name
        · simp [inside, dot, dots, long]
        · simp only [inside, dot, dots, long, step, ne_eq, not_true_eq_false, if_false, true_and,
            false_or]
          split
          · rename_i stop
            simpa using absent_stops stop
          · rfl
  · simp [inside]

/-- A walk is stopped by the length of a name exactly if it comes to a directory in which
it would take that name. -/
theorem walk_eq_nameTooLong_iff {files : System} {here : Place} {names : List String} :
    files.walk here names = .error .nameTooLong ↔
      ∃ before name after base, names = before ++ name :: after ∧
        files.walk here before = .ok base ∧ files.node? base = some .directory ∧
        nameLimit < byteLength name := by
  constructor
  · intro stopped
    induction names generalizing here with
    | nil => simp at stopped
    | cons name rest ih =>
        obtain ⟨inside, stopped⟩ := walk_cons_eq_nameTooLong_iff.mp stopped
        by_cases long : nameLimit < byteLength name
        · exact ⟨[], name, rest, here, rfl, walk_nil files here, inside, long⟩
        · obtain ⟨before, later, after, base, rfl, walked, found⟩ :=
            ih (stopped.resolve_left long)
          exact ⟨name :: before, later, after, base, rfl,
            walk_cons_eq_ok_iff.mpr ⟨inside, Nat.not_lt.mp long, walked⟩, found⟩
  · rintro ⟨before, name, after, base, rfl, walked, isDirectory, long⟩
    induction before generalizing here with
    | nil =>
        cases walked
        exact walk_cons_eq_nameTooLong_iff.mpr ⟨isDirectory, .inl long⟩
    | cons first before ih =>
        obtain ⟨inside, -, walked⟩ := walk_cons_eq_ok_iff.mp walked
        exact walk_cons_eq_nameTooLong_iff.mpr ⟨inside, .inr (ih walked)⟩

/-! ## Locating texts -/

/-- Whether a text can be looked up at all. -/
structure IsNameable (text : String) : Prop where
  free : obstacle? text = none
  nonempty : text ≠ ""
  short : byteLength text < pathLimit

/-- The place at which the walk along a text begins. -/
def origin (files : System) (text : String) : Place :=
  if text.startsWith "/" then [] else files.workingDirectory

/-- The place that a text leads to by its names alone. -/
def target (files : System) (text : String) : Place :=
  (walkNames text.toList).foldl step (files.origin text)

theorem locate_eq_ok_iff {files : System} {text : String} {place : Place} :
    files.locate text = .ok place ↔
      IsNameable text ∧ files.walk (files.origin text) (walkNames text.toList) = .ok place := by
  unfold locate origin
  split
  · rename_i failure found
    simp only [reduceCtorEq, false_iff, not_and]
    intro nameable
    simp [nameable.free] at found
  · rename_i free
    have free : obstacle? text = none := by
      cases found : obstacle? text with
      | none => rfl
      | some failure => exact absurd found (free failure)
    by_cases empty : text = ""
    · simp only [empty, if_true, reduceCtorEq, false_iff, not_and]
      intro nameable
      exact absurd rfl nameable.nonempty
    · by_cases long : pathLimit ≤ byteLength text
      · simp only [empty, long, if_true, if_false, reduceCtorEq, false_iff, not_and]
        intro nameable
        exact absurd nameable.short (Nat.not_lt.mpr long)
      · simp only [empty, long, if_false]
        exact ⟨fun walked => ⟨⟨free, empty, Nat.not_le.mp long⟩, walked⟩, And.right⟩

theorem eq_target_of_locate {files : System} {text : String} {place : Place}
    (located : files.locate text = .ok place) : place = files.target text :=
  eq_foldl_step_of_walk (locate_eq_ok_iff.mp located).2

theorem obstacle?_eq_none_iff {text : String} :
    obstacle? text = none ↔ (∀ c ∈ text.toList, hasBytes c = true) ∧ '\x00' ∉ text.toList := by
  rw [← List.all_eq_true, obstacle?]
  by_cases null : '\x00' ∈ text.toList
  · cases text.toList.all hasBytes <;> simp [null]
  · cases text.toList.all hasBytes <;> simp [null]

/-- The failures of texts that are not looked up at all. -/
def obstacles : List Failure := [.half, .nullByte]

theorem mem_obstacles {text : String} {failure : Failure}
    (obstacle : obstacle? text = some failure) : failure ∈ obstacles := by
  simp only [obstacle?] at obstacle
  split at obstacle
  · cases obstacle
    exact List.mem_cons_self
  · split at obstacle
    · cases obstacle
      exact List.mem_cons_of_mem _ List.mem_cons_self
    · cases obstacle

/-- A walk fails for what is there, not for its text. -/
theorem not_mem_obstacles_of_walk {files : System} {here : Place} {names : List String}
    {failure : Failure} (failed : files.walk here names = .error failure) :
    failure ∉ obstacles := by
  induction names generalizing here with
  | nil => simp [walk] at failed
  | cons name rest ih =>
      unfold walk at failed
      split at failed
      · cases failed
        decide
      split at failed
      · exact ih failed
      split at failed
      · exact ih failed
      split at failed
      · cases failed
        decide
      split at failed
      · cases failed
        decide
      · exact ih failed

theorem locate_eq_error_iff {files : System} {text : String} {failure : Failure}
    (obstructs : failure ∈ obstacles) :
    files.locate text = .error failure ↔ obstacle? text = some failure := by
  cases found : obstacle? text with
  | some other => simp [locate, found]
  | none =>
      simp only [locate, found, reduceCtorEq, iff_false]
      intro failed
      split at failed
      · cases failed
        exact absurd obstructs (by decide)
      split at failed
      · cases failed
        exact absurd obstructs (by decide)
      · exact not_mem_obstacles_of_walk failed obstructs

theorem locate_eq_nameTooLong_iff {files : System} {text : String} :
    files.locate text = .error .nameTooLong ↔
      obstacle? text = none ∧ text ≠ "" ∧ (pathLimit ≤ byteLength text ∨
        files.walk (files.origin text) (walkNames text.toList) = .error .nameTooLong) := by
  unfold locate origin
  split
  · rename_i failure obstacle
    have notLength : failure ≠ .nameTooLong := by
      rintro rfl
      exact absurd (mem_obstacles obstacle) (by decide)
    simp [obstacle, notLength]
  · rename_i free
    have free : obstacle? text = none := Option.eq_none_iff_forall_ne_some.mpr free
    by_cases empty : text = ""
    · simp [empty]
    · by_cases whole : pathLimit ≤ byteLength text
      · simp [free, empty, whole]
      · simp [free, empty, whole]

/-! ## File systems with the same directories -/

/-- The same places are directories, and the working directory is the same. -/
structure SameDirectories (first second : System) : Prop where
  workingDirectory : first.workingDirectory = second.workingDirectory
  directory (place : Place) :
    first.node? place = some .directory ↔ second.node? place = some .directory

namespace SameDirectories

variable {first second third : System}

theorem refl (files : System) : SameDirectories files files :=
  ⟨rfl, fun _ => Iff.rfl⟩

theorem symm (same : SameDirectories first second) : SameDirectories second first :=
  ⟨same.workingDirectory.symm, fun place => (same.directory place).symm⟩

theorem trans (left : SameDirectories first second) (right : SameDirectories second third) :
    SameDirectories first third :=
  ⟨left.workingDirectory.trans right.workingDirectory,
    fun place => (left.directory place).trans (right.directory place)⟩

theorem walk_eq_ok_iff (same : SameDirectories first second) {here place : Place}
    {names : List String} :
    first.walk here names = .ok place ↔ second.walk here names = .ok place := by
  induction names generalizing here with
  | nil => simp
  | cons name rest ih => simp only [walk_cons_eq_ok_iff, same.directory, ih]

theorem locate_eq_ok_iff (same : SameDirectories first second) {text : String} {place : Place} :
    first.locate text = .ok place ↔ second.locate text = .ok place := by
  simp only [System.locate_eq_ok_iff, origin, same.workingDirectory, same.walk_eq_ok_iff]

theorem target_eq (same : SameDirectories first second) (text : String) :
    first.target text = second.target text := by
  simp only [target, origin, same.workingDirectory]

end SameDirectories

/-- Putting a file where no directory stands changes no directory. -/
theorem sameDirectories_set {files : System} {place : Place}
    (noDirectory : files.node? place ≠ some .directory) (content : Bytes) (executable : Bool) :
    SameDirectories (files.set place (.file content executable)) files := by
  apply SameDirectories.mk (set_workingDirectory files place _)
  intro other
  have nonempty : place ≠ [] := by
    rintro rfl
    exact noDirectory rfl
  by_cases same : other = place
  · subst same
    simp [nonempty, noDirectory]
  · rw [node?_set_of_ne same]

/-- Taking away what is no directory changes no directory. -/
theorem sameDirectories_erase {files : System} {place : Place}
    (noDirectory : files.node? place ≠ some .directory) :
    SameDirectories (files.erase place) files := by
  apply SameDirectories.mk (erase_workingDirectory files place)
  intro other
  have nonempty : place ≠ [] := by
    rintro rfl
    exact noDirectory rfl
  by_cases same : other = place
  · subst same
    simp [nonempty, noDirectory]
  · rw [node?_erase_of_ne same]

end GuardedInstall.File.System
