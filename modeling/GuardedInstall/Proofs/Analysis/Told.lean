import GuardedInstall.Proofs.Analysis.Blocks

/-!
# What is told of an evaluation

The parts of a report are known among everything that is printed. Headlines and notices
are messages behind the program's name and begin like no other message. What is printed
without the name, and is not an empty line, are the blocks of a report and the address of
the full one.
-/

namespace GuardedInstall.Analysis

open GuardedInstall.Console (Level Piece Print Stream Styled isKept)

/-- The headline of a status, and where it belongs. -/
def Status.heading : Status → Stream × List Char
  | failure => (.err, "Supply Chain Risk Analysis - FAILURE".toList)
  | incomplete => (.err, "Supply Chain Risk Analysis - INCOMPLETE".toList)
  | success => (.out, "Supply Chain Risk Analysis - SUCCESS".toList)

namespace Report

/-! ## Parts of reports among prints -/

/-- The text of a message behind the program's name in brackets, and its stream. -/
def message? : Print → Option (Stream × List Char)
  | .styled stream [opening, name, closing, text, ending] =>
      if opening.text ++ name.text ++ closing.text = ("[" ++ Program.name ++ "] ").toList ∧
          ending.text = ['\n'] then some (stream, text.text)
      else none
  | _ => none

/-- Whether a print is neither a message, nor an empty line, nor the sign that the program
waits. -/
def isUntagged : Print → Bool
  | .styled stream text =>
      (message? (.styled stream text)).isNone && text != Styled.unstyled "\n"
  | .verbatim _ _ => true
  | .waiting _ => false

/-- The messages among prints that begin with a text. -/
def messages (start : String) (prints : List Print) : List (Stream × List Char) :=
  (prints.filterMap message?).filter fun message => start.toList <+: message.2

/-- How a headline begins. -/
def headlineStart : String := "Supply Chain Risk Analysis"

/-- How a notice begins. -/
def noticeStart : String := "The analysis contains "

/-- Prints hold headlines, notices and what is printed without the program's name. -/
structure Holds (prints : List Print) (headlines notices : List (Stream × List Char))
    (untagged : List Print) : Prop where
  headlines : messages headlineStart prints = headlines
  notices : messages noticeStart prints = notices
  untagged : prints.filter isUntagged = untagged

/-- Prints tell nothing of any evaluation. -/
def Silent (prints : List Print) : Prop :=
  Holds prints [] [] []

/-- The line that names the address of the full report. -/
def linkLine (link : Json.Value) : Styled :=
  Styled.unstyled ("You can find the interactive report here:\n " ++ link.display ++ "\n") ++
    Styled.unstyled "\n"

/-- Prints tell an evaluation: its status, how many packages are unprocessed, what was found
that is not suppressed, and where to read more. -/
def Conveys (evaluation : Evaluation) (prints : List Print) : Prop :=
  Holds prints [evaluation.status.heading]
    (if 0 < evaluation.incompleteCount then
      [(.err, (noticeOf evaluation.incompleteCount).toList)]
    else [])
    (evaluation.pruned.findings.map (fun finding => .styled .err (block finding)) ++
      (evaluation.jobLink.filter Json.Value.isGiven).toList.map
        fun link => .styled .out (linkLine link))

section

variable {first second : List Print} {headlines notices : List (Stream × List Char)}
  {rest : List Print}

/-- What is held by prints one after the other adds up. -/
theorem Holds.append {moreHeadlines moreNotices : List (Stream × List Char)} {more : List Print}
    (left : Holds first headlines notices rest)
    (right : Holds second moreHeadlines moreNotices more) :
    Holds (first ++ second) (headlines ++ moreHeadlines) (notices ++ moreNotices)
      (rest ++ more) := by
  obtain ⟨rfl, rfl, rfl⟩ := left
  obtain ⟨rfl, rfl, rfl⟩ := right
  constructor <;> simp [messages]

/-- Silence adds nothing to what is told. -/
theorem Holds.append_silent (holds : Holds first headlines notices rest)
    (silent : Silent second) : Holds (first ++ second) headlines notices rest := by
  have both := holds.append silent
  simpa using both

theorem Silent.append_holds (silent : Silent first)
    (holds : Holds second headlines notices rest) :
    Holds (first ++ second) headlines notices rest := by
  have both := silent.append holds
  simpa using both

theorem silent_nil : Silent [] :=
  ⟨rfl, rfl, rfl⟩

end

/-! ## Messages -/

theorem kept_append (first second : String) :
    kept (first ++ second) = kept first ++ kept second := by
  simp [kept]

@[simp]
theorem message?_say (level : Level) (text : String) :
    message? (Print.say level text) = some (level.stream, kept text) := by
  have unfolded : message? (Print.say level text) =
      if kept "[" ++ kept Program.name ++ kept "] " = ("[" ++ Program.name ++ "] ").toList ∧
          kept "\n" = ['\n'] then some (level.stream, kept text)
      else none := rfl
  rw [unfolded, if_pos (by decide)]

theorem isUntagged_of_message? {print : Print} {message : Stream × List Char}
    (tagged : message? print = some message) : isUntagged print = false := by
  cases print with
  | styled stream text => simp [isUntagged, tagged]
  | verbatim stream text => cases tagged
  | waiting message => rfl

/-- A message is a headline or a notice by how it begins. -/
theorem holds_say (level : Level) (text : String) :
    Holds [Print.say level text]
      (if headlineStart.toList <+: kept text then [(level.stream, kept text)] else [])
      (if noticeStart.toList <+: kept text then [(level.stream, kept text)] else []) [] := by
  have untagged := isUntagged_of_message? (message?_say level text)
  constructor
  · simp [messages, List.filter_singleton]
  · simp [messages, List.filter_singleton]
  · simp [untagged]

/-- A text that begins neither like a headline nor like a notice. -/
def IsTalk (text : List Char) : Prop :=
  ¬ headlineStart.toList <+: text ∧ ¬ noticeStart.toList <+: text

instance (text : List Char) : Decidable (IsTalk text) :=
  inferInstanceAs (Decidable (_ ∧ _))

theorem silent_say {level : Level} {text : String} (talk : IsTalk (kept text)) :
    Silent [Print.say level text] := by
  have held := holds_say level text
  rwa [if_neg talk.1, if_neg talk.2] at held

/-- Texts that part before either of them ends begin no common text. -/
theorem not_prefix_of_apart {start other text : List Char} (begins : start <+: text)
    (apart : ¬ start <+: other ∧ ¬ other <+: start) : ¬ other <+: text := by
  intro also
  exact (List.prefix_or_prefix_of_prefix begins also).elim apart.1 apart.2

/-- How a text goes on is of no account, once it has parted from headlines and notices. -/
theorem isTalk_append {start : String} (rest : String)
    (apart : (¬ kept start <+: headlineStart.toList ∧ ¬ headlineStart.toList <+: kept start) ∧
      ¬ kept start <+: noticeStart.toList ∧ ¬ noticeStart.toList <+: kept start) :
    IsTalk (kept (start ++ rest)) := by
  rw [kept_append]
  have begins : kept start <+: kept start ++ kept rest := List.prefix_append ..
  exact ⟨not_prefix_of_apart begins apart.1, not_prefix_of_apart begins apart.2⟩

theorem silent_blank (stream : Stream) : Silent [Print.blank stream] := by
  cases stream <;> exact ⟨by decide, by decide, by decide⟩

theorem silent_waiting (message : String) : Silent [Print.waiting message] :=
  ⟨rfl, rfl, rfl⟩

/-! ## Reports -/

/-- A text without characters that are dropped. -/
def IsKept (text : String) : Prop :=
  kept text = text.toList

instance (text : String) : Decidable (IsKept text) :=
  inferInstanceAs (Decidable (_ = _))

theorem IsKept.append {first second : String} (left : IsKept first) (right : IsKept second) :
    IsKept (first ++ second) := by
  rw [IsKept, kept_append, left, right, String.toList_append]

theorem isKept_of_isDigit {c : Char} (digit : c.isDigit = true) : isKept c = true := by
  simp only [isKept, Bool.and_eq_true, bne_iff_ne, ne_eq]
  refine ⟨⟨⟨⟨?_, ?_⟩, ?_⟩, ?_⟩, ?_⟩ <;>
    · rintro rfl
      cases digit

theorem isKept_integerText (number : Int) :
    IsKept (String.ofList (Decimal.integerText number)) := by
  have digits : ∀ c ∈ Decimal.digitsOf number.natAbs, isKept c = true := fun c member =>
    isKept_of_isDigit (Nat.isDigit_of_mem_toDigits (by decide) (by decide) member)
  rw [IsKept, kept, String.toList_ofList, List.filter_eq_self, Decimal.integerText]
  split
  · exact List.forall_mem_cons.mpr ⟨by decide, digits⟩
  · exact digits

/-- Nothing of a notice is dropped. -/
theorem isKept_noticeOf (count : Int) : IsKept (noticeOf count) := by
  have noun : IsKept (if count = 1 then "package" else "packages") := by
    split <;> decide
  have counted : IsKept (noticeStart ++ String.ofList (Decimal.integerText count)) :=
    .append (by decide) (isKept_integerText count)
  have named : IsKept (noticeStart ++ String.ofList (Decimal.integerText count) ++
      " unprocessed " ++ (if count = 1 then "package" else "packages") ++ ", ") :=
    .append (.append (.append counted (by decide)) noun) (by decide)
  exact .append (.append (.append named (by decide)) (by decide)) (by decide)

theorem noticeStart_begins (count : Int) : noticeStart.toList <+: (noticeOf count).toList := by
  unfold noticeOf
  dsimp only
  simp only [String.toList_append, List.append_assoc]
  exact List.prefix_append ..

theorem holds_heading (status : Status) :
    Holds
      [Print.say status.level ("Supply Chain Risk Analysis - " ++ status.name),
        Print.blank status.level.stream]
      [status.heading] [] [] := by
  have said := holds_say status.level ("Supply Chain Risk Analysis - " ++ status.name)
  have named : (if headlineStart.toList <+: kept ("Supply Chain Risk Analysis - " ++ status.name)
      then [(status.level.stream, kept ("Supply Chain Risk Analysis - " ++ status.name))]
      else []) = [status.heading] := by
    cases status <;> decide
  have unremarked :
      ¬ noticeStart.toList <+: kept ("Supply Chain Risk Analysis - " ++ status.name) := by
    cases status <;> decide
  rw [named, if_neg unremarked] at said
  exact said.append_silent (silent_blank _)

theorem holds_notice (count : Int) :
    Holds [Print.say .warning (noticeOf count), Print.blank .err] []
      [(.err, (noticeOf count).toList)] [] := by
  have said := holds_say .warning (noticeOf count)
  have apart : ¬ headlineStart.toList <+: (noticeOf count).toList :=
    not_prefix_of_apart (noticeStart_begins count) (by decide)
  rw [isKept_noticeOf, if_neg apart, if_pos (noticeStart_begins count)] at said
  exact said.append_silent (silent_blank _)

/-- Text with an at sign in its first piece is no message, whose first pieces make up the
program's name. -/
theorem message?_eq_none_of_mem {stream : Stream} {piece : Piece} {rest : Styled}
    (foreign : '@' ∈ piece.text) : message? (.styled stream (piece :: rest)) = none := by
  unfold message?
  split
  · rename_i same
    cases same
    rw [if_neg]
    rintro ⟨named, -⟩
    -- The name and its brackets are without an at sign.
    have among : '@' ∈ ("[" ++ Program.name ++ "] ").toList := by
      rw [← named]
      simp [foreign]
    revert among
    decide
  · rfl

/-- What is neither a message nor an empty line is held as it is. -/
theorem holds_of_message? {stream : Stream} {text : Styled}
    (unnamed : message? (.styled stream text) = none) (filled : text ≠ Styled.unstyled "\n") :
    Holds [.styled stream text] [] [] [.styled stream text] := by
  have untagged : isUntagged (.styled stream text) = true := by
    simp [isUntagged, unnamed, filled]
  exact ⟨by simp [messages, unnamed], by simp [messages, unnamed], by simp [untagged]⟩

theorem holds_block (finding : Finding) :
    Holds [.styled .err (block finding)] [] [] [.styled .err (block finding)] := by
  have foreign : '@' ∈ kept (packageText finding) := by
    simp [kept, packageText, isKept]
  refine holds_of_message? (message?_eq_none_of_mem foreign) ?_
  intro empty
  have title : kept (packageText finding) = ['\n'] := congrArg Piece.text (List.cons.inj empty).1
  rw [title] at foreign
  cases foreign with
  | tail _ within => cases within

theorem holds_blocks (findings : List Finding) :
    Holds (findings.map fun finding => .styled .err (block finding)) [] []
      (findings.map fun finding => .styled .err (block finding)) := by
  induction findings with
  | nil => exact silent_nil
  | cons finding rest ih => exact (holds_block finding).append ih

theorem holds_link (link : Json.Value) :
    Holds [.styled .out (linkLine link)] [] [] [.styled .out (linkLine link)] := by
  refine holds_of_message? rfl ?_
  intro empty
  cases (List.cons.inj empty).2

/-- What is printed of an evaluation tells it. -/
theorem conveys_prints (evaluation : Evaluation) :
    Conveys evaluation (ofEvaluation evaluation).prints := by
  have noticed : (ofEvaluation evaluation).notice =
      if 0 < evaluation.incompleteCount then some (noticeOf evaluation.incompleteCount)
      else none := rfl
  have linked : (ofEvaluation evaluation).jobLink = evaluation.jobLink := rfl
  have parts : Holds (ofEvaluation evaluation).prints
      ([evaluation.status.heading] ++ [] ++ [] ++ [])
      ([] ++ (if 0 < evaluation.incompleteCount then
        [(.err, (noticeOf evaluation.incompleteCount).toList)] else []) ++ [] ++ [])
      ([] ++ [] ++ (evaluation.pruned.findings.map fun finding => .styled .err (block finding)) ++
        (evaluation.jobLink.filter Json.Value.isGiven).toList.map
          fun link => .styled .out (linkLine link)) := by
    refine (((holds_heading evaluation.status).append ?notice).append ?blocks).append ?link
    case notice =>
      rw [noticed]
      by_cases waiting : 0 < evaluation.incompleteCount
      · rw [if_pos waiting, if_pos waiting]
        exact holds_notice _
      · rw [if_neg waiting, if_neg waiting]
        exact silent_nil
    case blocks =>
      rw [blocks_eq]
      cases evaluation.pruned.findings with
      | nil => exact silent_nil
      | cons finding rest =>
          have held := (holds_blocks (finding :: rest)).append_silent (silent_blank .err)
          simpa [Function.comp_def] using held
    case link =>
      rw [linked]
      cases evaluation.jobLink.filter Json.Value.isGiven with
      | none => exact silent_nil
      | some link => exact holds_link link
  simp only [List.append_nil, List.nil_append] at parts
  exact parts

end Report

end GuardedInstall.Analysis
