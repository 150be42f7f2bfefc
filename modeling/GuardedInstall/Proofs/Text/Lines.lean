import GuardedInstall.Text.Lines
import Mathlib.Data.List.DropRight

/-!
# Lines that are written and read

Lines without a break of their own, each one ended by a line feed, are read as they were
written. Trimming takes nothing off a text beyond the blanks at its ends.
-/

namespace GuardedInstall.Text

variable {drop : Char → Bool} {c : Char} {line text : List Char}

/-- Every line break is white space. -/
theorem isBlank_of_isLineBreak (breaks : isLineBreak c = true) : isBlank c = true := by
  simp only [isLineBreak, Ranges.contains] at breaks
  simp only [isBlank, blankRanges, Ranges.contains]
  grind

/-! ## Lines -/

/-- A line has no break in it. -/
def IsLine (line : List Char) : Prop :=
  ∀ c ∈ line, isLineBreak c = false

instance (line : List Char) : Decidable (IsLine line) :=
  decidable_of_iff (line.all fun c => !isLineBreak c) (by simp [IsLine])

theorem IsLine.append {other : List Char} (left : IsLine line) (right : IsLine other) :
    IsLine (line ++ other) := by
  intro c member
  rcases List.mem_append.mp member with first | second
  · exact left c first
  · exact right c second

theorem isLine_cons_iff : IsLine (c :: line) ↔ isLineBreak c = false ∧ IsLine line :=
  List.forall_mem_cons

/-- Without white space there is no line break. -/
theorem isLine_of_not_isBlank (clean : ∀ c ∈ line, isBlank c = false) : IsLine line := by
  intro c member
  cases breaks : isLineBreak c with
  | false => rfl
  | true =>
      have blank := isBlank_of_isLineBreak breaks
      rw [clean c member] at blank
      cases blank

/-- A line that is ended by a line feed is read as one line. -/
theorem lines_append_newline (isLine : IsLine line) (rest : List Char) :
    lines (line ++ '\n' :: rest) = line :: lines rest := by
  induction line with
  | nil => rfl
  | cons c line ih =>
      obtain ⟨within, isLine⟩ := isLine_cons_iff.mp isLine
      have noReturn : c ≠ '\r' := by
        rintro rfl
        cases within
      rw [List.cons_append, lines, ih isLine, within]
      · rfl
      · intro later carriage
        exact absurd carriage noReturn

/-- The text of lines, each one ended by a line feed. -/
def written (lines : List (List Char)) : List Char :=
  lines.flatMap (· ++ ['\n'])

/-- Lines are read as they were written, whatever text stands behind them. -/
theorem lines_written_append {lines : List (List Char)} (isLine : ∀ line ∈ lines, IsLine line)
    (rest : List Char) : Text.lines (written lines ++ rest) = lines ++ Text.lines rest := by
  induction lines with
  | nil => rfl
  | cons line later ih =>
      obtain ⟨first, others⟩ := List.forall_mem_cons.mp isLine
      have cut : written (line :: later) ++ rest = line ++ '\n' :: (written later ++ rest) := by
        simp [written]
      rw [cut, lines_append_newline first, ih others, List.cons_append]

theorem lines_written {lines : List (List Char)} (isLine : ∀ line ∈ lines, IsLine line) :
    Text.lines (written lines) = lines := by
  have whole := lines_written_append isLine []
  rwa [List.append_nil, Text.lines, List.append_nil] at whole

/-- A text without carriage returns is left as it is. -/
theorem normaliseNewlines_eq_self (noReturn : '\r' ∉ text) : normaliseNewlines text = text := by
  induction text with
  | nil => rfl
  | cons c rest ih =>
      obtain ⟨ne, later⟩ := not_or.mp (mt List.mem_cons.mpr noReturn)
      rw [normaliseNewlines, ih later]
      · intro after carriage
        exact absurd carriage.symm ne
      · exact Ne.symm ne

theorem normaliseNewlines_written {lines : List (List Char)}
    (isLine : ∀ line ∈ lines, IsLine line) :
    normaliseNewlines (written lines) = written lines := by
  apply normaliseNewlines_eq_self
  intro carriage
  obtain ⟨line, member, within⟩ := List.mem_flatMap.mp carriage
  rcases List.mem_append.mp within with inLine | atEnd
  · have broken := isLine line member '\r' inLine
    cases broken
  · simp at atEnd

/-! ## Lines of texts that are joined -/

theorem lines_newline_cons (rest : List Char) : lines ('\n' :: rest) = [] :: lines rest := by
  have isLine : IsLine [] := by decide
  exact lines_append_newline isLine rest

/-- Lines are cut at one character, unless this is a carriage return with its line feed. -/
theorem lines_cons {rest : List Char} (apart : c = '\r' → rest.head? ≠ some '\n') :
    lines (c :: rest) = if isLineBreak c then [] :: lines rest else extendFirst c (lines rest) := by
  rw [lines]
  intro later carriage feed
  exact apart carriage (by rw [feed, List.head?_cons])

theorem extendFirst_append (c : Char) {first : List (List Char)} (nonempty : first ≠ [])
    (second : List (List Char)) :
    extendFirst c (first ++ second) = extendFirst c first ++ second := by
  cases first with
  | nil => exact absurd rfl nonempty
  | cons line later => rfl

theorem lines_ne_nil (nonempty : text ≠ []) : lines text ≠ [] := by
  fun_cases lines text with
  | case1 => exact absurd rfl nonempty
  | case2 => simp
  | case3 => simp
  | case4 c rest => cases lines rest <;> simp [extendFirst]

theorem lines_cons_append {rest back : List Char} (nonempty : rest ≠ [])
    (apart : c = '\r' → rest.head? ≠ some '\n')
    (joined : lines (rest ++ back) = lines rest ++ lines back) :
    lines (c :: rest ++ back) = lines (c :: rest) ++ lines back := by
  have behind : c = '\r' → (rest ++ back).head? ≠ some '\n' := by
    rwa [List.head?_append_of_ne_nil _ nonempty]
  rw [List.cons_append, lines_cons behind, lines_cons apart, joined]
  split
  · rfl
  · exact extendFirst_append c (lines_ne_nil nonempty) _

/-- What stands behind a line feed begins a line of its own. -/
theorem lines_append {front : List Char} (ended : ∀ c, front.getLast? = some c → c = '\n')
    (back : List Char) : lines (front ++ back) = lines front ++ lines back := by
  induction front using lines.induct with
  | case1 => rfl
  | case2 rest ih =>
      have below : ∀ c, rest.getLast? = some c → c = '\n' := by
        intro c last
        exact ended c (by simp [List.getLast?_cons, last])
      rw [List.cons_append, List.cons_append, lines, lines, ih below, List.cons_append]
  | case3 c rest alone breaks ih =>
      cases rest with
      | nil =>
          cases ended c rfl
          rw [List.singleton_append, lines_newline_cons]
          rfl
      | cons d later =>
          apply lines_cons_append (by simp) _ (ih (by simpa using ended))
          rintro carriage ⟨⟩
          exact alone later carriage rfl
  | case4 c rest alone unbroken ih =>
      cases rest with
      | nil =>
          cases ended c rfl
          exact absurd rfl unbroken
      | cons d later =>
          apply lines_cons_append (by simp) _ (ih (by simpa using ended))
          rintro carriage ⟨⟩
          exact alone later carriage rfl

/-- Lines are the same when line breaks have been made alike. -/
theorem lines_normaliseNewlines (text : List Char) :
    lines (normaliseNewlines text) = lines text := by
  induction text using normaliseNewlines.induct with
  | case1 rest ih => rw [normaliseNewlines, lines_newline_cons, lines, ih]
  | case2 rest alone ih =>
      have apart : rest.head? ≠ some '\n' := by
        intro feed
        obtain ⟨later, rfl⟩ := List.head?_eq_some_iff.mp feed
        exact alone later rfl
      rw [normaliseNewlines, lines_newline_cons, lines_cons fun _ => apart, ih]
      · rfl
      · exact alone
  | case3 c rest alone noReturn ih =>
      have apart (later : List Char) : c = '\r' → later.head? ≠ some '\n' :=
        fun carriage => absurd carriage noReturn
      rw [normaliseNewlines, lines_cons (apart _), lines_cons (apart _), ih]
      · exact alone
      · exact noReturn
  | case4 => rfl

/-- A text with a carriage return in front of every line feed. -/
def withReturns (text : List Char) : List Char :=
  text.flatMap fun c => if c = '\n' then ['\r', '\n'] else [c]

/-- Carriage returns that were put in front of line feeds are taken away again. -/
theorem normaliseNewlines_withReturns (noReturn : '\r' ∉ text) :
    normaliseNewlines (withReturns text) = text := by
  induction text with
  | nil => rfl
  | cons c rest ih =>
      obtain ⟨ne, later⟩ := not_or.mp (mt List.mem_cons.mpr noReturn)
      by_cases feed : c = '\n'
      · have put : withReturns (c :: rest) = '\r' :: '\n' :: withReturns rest := by
          simp [withReturns, feed]
        rw [put, normaliseNewlines, ih later, feed]
      · have kept : withReturns (c :: rest) = c :: withReturns rest := by
          simp [withReturns, feed]
        rw [kept, normaliseNewlines, ih later]
        · intro after carriage
          exact absurd carriage.symm ne
        · exact Ne.symm ne

/-! ## Trimming -/

theorem trimEnd_eq_rdropWhile (drop : Char → Bool) (text : List Char) :
    trimEnd drop text = text.rdropWhile drop :=
  rfl

/-- Nothing is taken off in front of a character that stays. -/
theorem trimEnd_append_cons (stays : drop c = false) (front rest : List Char) :
    trimEnd drop (front ++ c :: rest) = front ++ c :: trimEnd drop rest := by
  induction rest using List.reverseRecOn with
  | nil =>
      have kept : ¬ drop c = true := by simp [stays]
      simp only [trimEnd_eq_rdropWhile, List.rdropWhile_nil]
      exact List.rdropWhile_concat_neg _ _ c kept
  | append_singleton rest last ih =>
      have regroup : front ++ c :: (rest ++ [last]) = (front ++ c :: rest) ++ [last] := by simp
      rw [regroup]
      simp only [trimEnd_eq_rdropWhile] at ih ⊢
      by_cases blank : drop last = true
      · rw [List.rdropWhile_concat_pos _ _ _ blank, List.rdropWhile_concat_pos _ _ _ blank, ih]
      · rw [List.rdropWhile_concat_neg _ _ _ blank, List.rdropWhile_concat_neg _ _ _ blank]
        simp

/-- Characters that all stay are left as they are. -/
theorem trimEnd_eq_self (stay : ∀ c ∈ text, drop c = false) : trimEnd drop text = text := by
  rw [trimEnd_eq_rdropWhile, List.rdropWhile_eq_self_iff]
  intro nonempty
  simp [stay _ (List.getLast_mem nonempty)]

theorem trimBoth_of_head (stays : drop c = false) (rest : List Char) :
    trimBoth drop (c :: rest) = trimEnd drop (c :: rest) := by
  rw [trimBoth, List.dropWhile_cons_of_neg (by simp [stays])]
  rfl

theorem trimBoth_eq_self (stay : ∀ c ∈ text, drop c = false) : trimBoth drop text = text := by
  cases text with
  | nil => rfl
  | cons c rest => rw [trimBoth_of_head (stay c List.mem_cons_self), trimEnd_eq_self stay]

/-- A part of a text is left when the characters of a kind are taken off both ends: what
stands around it is of that kind, and it neither begins nor ends with that kind. -/
structure Trimmed (drop : Char → Bool) (text core : List Char) : Prop where
  around : ∃ front back, text = front ++ (core ++ back) ∧ (∀ c ∈ front, drop c = true) ∧
    ∀ c ∈ back, drop c = true
  first (c : Char) (begins : core.head? = some c) : drop c = false
  last (c : Char) (ends : core.getLast? = some c) : drop c = false

section

variable {core front back : List Char}

theorem dropWhile_append_of_head (dropped : ∀ c ∈ front, drop c = true)
    (stays : ∀ c, core.head? = some c → drop c = false) :
    (front ++ core).dropWhile drop = core := by
  rw [List.dropWhile_append_of_pos dropped]
  cases core with
  | nil => rfl
  | cons c rest => rw [List.dropWhile_cons_of_neg (by simp [stays c rfl])]

theorem trimEnd_append_of_last (dropped : ∀ c ∈ back, drop c = true)
    (stays : ∀ c, core.getLast? = some c → drop c = false) :
    trimEnd drop (core ++ back) = core := by
  rw [trimEnd, List.reverse_append, dropWhile_append_of_head (by simpa using dropped)
    (by simpa using stays), List.reverse_reverse]

theorem trimmed_trimBoth (drop : Char → Bool) (text : List Char) :
    Trimmed drop text (trimBoth drop text) := by
  have unfolded : trimBoth drop text = trimEnd drop (text.dropWhile drop) := rfl
  rw [unfolded, trimEnd_eq_rdropWhile]
  constructor
  case around =>
    refine ⟨text.takeWhile drop, (text.dropWhile drop).rtakeWhile drop, ?_, ?_, ?_⟩
    · rw [List.rdropWhile_append_rtakeWhile, List.takeWhile_append_dropWhile]
    · intro c member
      exact List.mem_takeWhile_imp member
    · intro c member
      exact List.mem_rtakeWhile_imp member
  case first =>
    intro c begins
    cases behind : text.dropWhile drop with
    | nil => simp [behind] at begins
    | cons d rest =>
        have stays : drop d = false := by
          have head := List.head?_dropWhile_not drop text
          rw [behind] at head
          simpa using head
        have kept : (d :: rest).rdropWhile drop = d :: rest.rdropWhile drop :=
          trimEnd_append_cons stays [] rest
        rw [behind, kept] at begins
        cases begins
        exact stays
  case last =>
    intro c ends
    have nonempty : (text.dropWhile drop).rdropWhile drop ≠ [] := by
      intro empty
      simp [empty] at ends
    have stays := List.rdropWhile_last_not drop _ nonempty
    rw [List.getLast?_eq_some_getLast nonempty] at ends
    cases ends
    simpa using stays

/-- Trimming leaves that part and no other. -/
theorem trimBoth_eq_iff : trimBoth drop text = core ↔ Trimmed drop text core := by
  constructor
  · rintro rfl
    exact trimmed_trimBoth drop text
  · rintro ⟨⟨front, back, rfl, before, behind⟩, first, last⟩
    have unfolded : trimBoth drop (front ++ (core ++ back)) =
        trimEnd drop ((front ++ (core ++ back)).dropWhile drop) := rfl
    rw [unfolded]
    cases core with
    | nil =>
        have all : ∀ c ∈ front ++ back, drop c = true := by
          intro c member
          exact (List.mem_append.mp member).elim (before c) (behind c)
        rw [List.nil_append, List.dropWhile_eq_nil_iff.mpr all]
        rfl
    | cons c rest =>
        have begun : (front ++ (c :: rest ++ back)).dropWhile drop = c :: rest ++ back :=
          dropWhile_append_of_head before first
        rw [begun, trimEnd_append_of_last behind last]

theorem Trimmed.subset (trimmed : Trimmed drop text core) : core ⊆ text := by
  obtain ⟨front, back, rfl, -⟩ := trimmed.around
  intro c member
  simp [member]

theorem trimmed_self (first : ∀ c, core.head? = some c → drop c = false)
    (last : ∀ c, core.getLast? = some c → drop c = false) : Trimmed drop core core :=
  ⟨⟨[], [], by simp, by simp, by simp⟩, first, last⟩

theorem trimBoth_trimBoth (drop : Char → Bool) (text : List Char) :
    trimBoth drop (trimBoth drop text) = trimBoth drop text := by
  have trimmed := trimmed_trimBoth drop text
  exact trimBoth_eq_iff.mpr (trimmed_self trimmed.first trimmed.last)

end

end GuardedInstall.Text
