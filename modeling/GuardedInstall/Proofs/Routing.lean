import GuardedInstall.Routing

/-!
# Which invocations are guarded

The first argument decides alone whether an invocation is guarded: it has to be one of
the guarded subcommands, none of which could be taken for a flag. Flags in front of
anything else are refused, and what is left is handed through. The first argument that is
no flag is therefore never a guarded subcommand of what is handed through.
-/

namespace GuardedInstall.Route

theorem isFlag_iff {argument : String} :
    isFlag argument = true ↔ ['-'] <+: argument.toList := by
  rw [isFlag, String.startsWith_string_iff]
  rfl

/-- No guarded subcommand is a flag. -/
theorem isFlag_of_mem_guarded {argument : String} (member : argument ∈ guarded) :
    isFlag argument = false := by
  rw [Bool.eq_false_iff, ne_eq, isFlag_iff]
  simp only [guarded, List.mem_cons, List.not_mem_nil, or_false] at member
  rcases member with rfl | rfl | rfl | rfl | rfl
  all_goals decide

/-- The first subcommand comes later exactly if it stands behind a flag. -/
theorem any_subcommandIndex?_cons (first : String) (rest : List String) :
    (subcommandIndex? (first :: rest)).any (0 < ·) = (isFlag first && !rest.all isFlag) := by
  rw [subcommandIndex?, List.findIdx?_cons]
  cases isFlag first with
  | false => rfl
  | true =>
      cases found : rest.findIdx? fun argument => !isFlag argument with
      | none =>
          have onlyFlags : rest.all isFlag = true := by simpa using found
          rw [onlyFlags]
          rfl
      | some index =>
          have mixed : rest.all isFlag = false := by
            obtain ⟨within, other, -⟩ := List.findIdx?_eq_some_iff_getElem.mp found
            exact List.all_eq_false.mpr ⟨_, List.getElem_mem within, by simpa using other⟩
          rw [mixed]
          rfl

theorem ofArguments_cons (first : String) (rest : List String) :
    ofArguments (first :: rest) =
      if isFlag first && !rest.all isFlag then .error ⟨first⟩
      else if first ∈ guarded then .ok .intercept
      else .ok .passthrough := by
  rw [ofArguments, any_subcommandIndex?_cons]

theorem ofArguments_eq_intercept_iff {arguments : List String} :
    ofArguments arguments = .ok .intercept ↔
      ∃ first rest, arguments = first :: rest ∧ first ∈ guarded := by
  cases arguments with
  | nil => simp [ofArguments]
  | cons first rest =>
      rw [ofArguments_cons]
      constructor
      · intro routed
        split at routed
        · cases routed
        · split at routed
          · rename_i member
            exact ⟨first, rest, rfl, member⟩
          · cases routed
      · rintro ⟨_, _, ⟨rfl, rfl⟩, member⟩
        rw [isFlag_of_mem_guarded member, Bool.false_and, if_neg Bool.false_ne_true,
          if_pos member]

/-- A flag comes first, and an argument that is none comes later. -/
def FlagInFront (arguments : List String) : Prop :=
  ∃ first rest, arguments = first :: rest ∧ first.startsWith "-" = true ∧
    ∃ later ∈ rest, later.startsWith "-" = false

/-- A guarded subcommand comes first. -/
def GuardedFirst (arguments : List String) : Prop :=
  ∃ first rest, arguments = first :: rest ∧
    first ∈ ["add", "install", "up", "dedupe", "remove"]

/-- The first argument that is no flag. -/
def subcommand? (arguments : List String) : Option String :=
  arguments.find? fun argument => !isFlag argument

variable {arguments : List String}

theorem all_isFlag_eq_false_iff :
    arguments.all isFlag = false ↔ ∃ argument ∈ arguments, isFlag argument = false := by
  rw [List.all_eq_false]
  simp

theorem ofArguments_eq_intercept_iff_guardedFirst :
    ofArguments arguments = .ok .intercept ↔ GuardedFirst arguments :=
  ofArguments_eq_intercept_iff

theorem exists_ofArguments_eq_error_iff :
    (∃ error, ofArguments arguments = .error error) ↔ FlagInFront arguments := by
  constructor
  · rintro ⟨error, refused⟩
    cases arguments with
    | nil => cases refused
    | cons first rest =>
        rw [ofArguments_cons] at refused
        split at refused
        · rename_i late
          rw [Bool.and_eq_true, Bool.not_eq_true'] at late
          exact ⟨first, rest, rfl, late.1, all_isFlag_eq_false_iff.mp late.2⟩
        · split at refused
          · cases refused
          · cases refused
  · rintro ⟨first, rest, rfl, leading, later⟩
    have flag : isFlag first = true := leading
    have mixed : rest.all isFlag = false := all_isFlag_eq_false_iff.mpr later
    refine ⟨⟨first⟩, ?_⟩
    rw [ofArguments_cons, flag, mixed]
    rfl

/-- What is neither refused nor guarded is handed through. -/
theorem ofArguments_eq_passthrough_iff :
    ofArguments arguments = .ok .passthrough ↔
      ¬ FlagInFront arguments ∧ ¬ GuardedFirst arguments := by
  rw [← exists_ofArguments_eq_error_iff, ← ofArguments_eq_intercept_iff_guardedFirst]
  cases ofArguments arguments with
  | error error => simp
  | ok route =>
      cases route with
      | intercept => simp
      | passthrough => simp

/-- No guarded subcommand is handed through, whatever flags stand in front of it. -/
theorem subcommand_not_mem_guarded (passed : ofArguments arguments = .ok .passthrough)
    {subcommand : String} (found : subcommand? arguments = some subcommand) :
    subcommand ∉ guarded := by
  obtain ⟨notRefused, unguarded⟩ := ofArguments_eq_passthrough_iff.mp passed
  intro member
  cases arguments with
  | nil => cases found
  | cons first rest =>
      by_cases flag : isFlag first = true
      · -- The subcommand stands behind a flag, so that the arguments are refused.
        have behind : subcommand? rest = some subcommand := by
          simpa [subcommand?, flag] using found
        have plain : isFlag subcommand = false := isFlag_of_mem_guarded member
        exact notRefused
          ⟨first, rest, rfl, flag, subcommand, List.mem_of_find?_eq_some behind, plain⟩
      · have same : first = subcommand := by simpa [subcommand?, flag] using found
        exact unguarded ⟨first, rest, rfl, same ▸ member⟩

end GuardedInstall.Route
