import GuardedInstall.Lockfile.Descriptor
import GuardedInstall.Proofs.Stepwise
import GuardedInstall.Proofs.Text.Lines

/-!
# What descriptors identify

A descriptor that was put together from a name and a range is cut where it was put together,
whatever white space and quotes stand around it, and what is cut can be put together again. The
registry holds the package of that name, or of the name behind an alias, unless its range leads
elsewhere.
-/

namespace GuardedInstall.Lockfile

open GuardedInstall.Text (isBlank trimEnd Trimmed)

/-! ## Cutting at the at sign -/

theorem cutAt_append {front : List Char} (free : '@' ∉ front) (rest : List Char) :
    cutAt (front ++ '@' :: rest) = some (front, rest) := by
  induction front with
  | nil => rfl
  | cons c front ih =>
      obtain ⟨ne, later⟩ := not_or.mp (mt List.mem_cons.mpr free)
      rw [List.cons_append, cutAt, if_neg (Ne.symm ne), ih later]
      rfl

theorem cutAt_eq_none {text : List Char} (free : '@' ∉ text) : cutAt text = none := by
  induction text with
  | nil => rfl
  | cons c rest ih =>
      obtain ⟨ne, later⟩ := not_or.mp (mt List.mem_cons.mpr free)
      rw [cutAt, if_neg (Ne.symm ne), ih later]
      rfl

theorem cutAt_eq_some_iff {text front rest : List Char} :
    cutAt text = some (front, rest) ↔ text = front ++ '@' :: rest ∧ '@' ∉ front := by
  constructor
  · intro cut
    by_cases free : '@' ∈ text
    · obtain ⟨before, behind, rfl, first⟩ := List.eq_append_cons_of_mem free
      rw [cutAt_append first] at cut
      cases cut
      exact ⟨rfl, first⟩
    · rw [cutAt_eq_none free] at cut
      cases cut
  · rintro ⟨rfl, free⟩
    exact cutAt_append free rest

theorem cutName_eq_some_iff {text name rest : List Char} :
    cutName text = some (name, rest) ↔
      text = name ++ '@' :: rest ∧ name ≠ [] ∧ '@' ∉ name.tail := by
  cases text with
  | nil => simp [cutName]
  | cons c later =>
      have cut : cutName (c :: later) = some (name, rest) ↔
          ∃ front, cutAt later = some (front, rest) ∧ c :: front = name := by
        simp [cutName, Option.map_eq_some_iff]
      rw [cut]
      constructor
      · rintro ⟨front, found, rfl⟩
        obtain ⟨rfl, free⟩ := cutAt_eq_some_iff.mp found
        exact ⟨rfl, by simp, free⟩
      · rintro ⟨joined, nonempty, free⟩
        obtain ⟨d, front, rfl⟩ := List.exists_cons_of_ne_nil nonempty
        obtain ⟨rfl, rfl⟩ := List.cons.inj joined
        exact ⟨front, cutAt_append free rest, rfl⟩

/-- What is left of a text without the white space, and then without the double quotes, at
its ends. -/
def Stripped (text core : List Char) : Prop :=
  ∃ unblanked, Text.Trimmed isBlank text unblanked ∧ Text.Trimmed (· == '"') unblanked core

theorem bare_eq_iff {text core : List Char} : bare text = core ↔ Stripped text core := by
  rw [bare, Text.trimBoth_eq_iff]
  constructor
  · intro trimmed
    exact ⟨_, Text.trimBoth_eq_iff.mp rfl, trimmed⟩
  · rintro ⟨unblanked, first, second⟩
    rwa [Text.trim, Text.trimBoth_eq_iff.mpr first]

section

variable {text : List Char}

/-- Quotes around a text without quotes are taken off. -/
theorem bare_quoted (unquoted : '"' ∉ text) : bare ('"' :: (text ++ ['"'])) = text := by
  have quote : isBlank '"' = false := by decide
  have stay (c : Char) (member : c ∈ text) : (c == '"') = false := by
    simp only [beq_eq_false_iff_ne, ne_eq]
    rintro rfl
    exact unquoted member
  refine bare_eq_iff.mpr ⟨'"' :: (text ++ ['"']), ?blanks, ?quotes⟩
  case blanks =>
    apply Text.trimmed_self
    case first => simpa using quote
    case last => simpa [List.getLast?_cons, List.getLast?_append] using quote
  case quotes =>
    constructor
    case around => exact ⟨['"'], ['"'], rfl, by simp, by simp⟩
    case first => exact fun c begins => stay c (List.mem_of_head? begins)
    case last => exact fun c ends => stay c (List.mem_of_getLast? ends)

theorem bare_eq_trim (unquoted : '"' ∉ text) : bare text = Text.trim text := by
  apply Text.trimBoth_eq_self
  intro c member
  simp only [beq_eq_false_iff_ne, ne_eq]
  rintro rfl
  exact unquoted ((Text.trimmed_trimBoth isBlank text).subset member)

/-- A text without quotes is stripped at once. -/
theorem bare_bare (unquoted : '"' ∉ text) : bare (bare text) = bare text := by
  have still : '"' ∉ Text.trim text :=
    fun member => unquoted ((Text.trimmed_trimBoth isBlank text).subset member)
  rw [bare_eq_trim unquoted, bare_eq_trim still]
  exact Text.trimBoth_trimBoth isBlank text

end

/-- A text without blanks and then quotes at its ends is a name and, behind the first at
sign from the second character on, what the name is divided from. -/
structure Divides (text name rest : List Char) : Prop where
  stripped : ∃ unblanked, Text.Trimmed isBlank text unblanked ∧
    Text.Trimmed (· == '"') unblanked (name ++ '@' :: rest)
  nonempty : name ≠ []
  undivided : '@' ∉ name.tail

theorem splitDescriptor_eq_ok_iff {descriptor name rest : String} :
    splitDescriptor descriptor = .ok (name, rest) ↔
      Divides descriptor.toList name.toList rest.toList := by
  have split : splitDescriptor descriptor = .ok (name, rest) ↔
      cutName (bare descriptor.toList) = some (name.toList, rest.toList) := by
    cases cut : cutName (bare descriptor.toList) with
    | none => simp [splitDescriptor, cut]
    | some parts =>
        obtain ⟨front, behind⟩ := parts
        simp [splitDescriptor, cut, String.ext_iff]
  rw [split, cutName_eq_some_iff, bare_eq_iff]
  constructor
  · rintro ⟨trimmed, nonempty, undivided⟩
    exact ⟨trimmed, nonempty, undivided⟩
  · rintro ⟨trimmed, nonempty, undivided⟩
    exact ⟨trimmed, nonempty, undivided⟩

/-! ## Names that stripping leaves alone -/

/-- Whether a character is taken off the ends of a descriptor. -/
def isEdge (c : Char) : Bool :=
  isBlank c || c == '"'

/-- Whether nothing is taken off the front of a text. -/
def beginsPlain (text : List Char) : Bool :=
  text.head?.all fun c => !isEdge c

/-- Whether nothing is taken off the end of a text. -/
def endsPlain (text : List Char) : Bool :=
  text.getLast?.all fun c => !isEdge c

/-- A name without white space or double quotes at its ends. An at sign may only come first. -/
structure BareName where
  text : List Char
  nonempty : text ≠ [] := by decide
  undivided : '@' ∉ text.tail := by decide
  first : beginsPlain text = true := by decide
  last : endsPlain text = true := by decide

theorem isEdge_eq_false_iff {c : Char} : isEdge c = false ↔ isBlank c = false ∧ c ≠ '"' := by
  simp [isEdge]

theorem isEdge_of_head? {text : List Char} {c : Char} (plain : beginsPlain text = true)
    (begins : text.head? = some c) : isEdge c = false := by
  simpa [beginsPlain, begins] using plain

theorem isEdge_of_getLast? {text : List Char} {c : Char} (plain : endsPlain text = true)
    (ends : text.getLast? = some c) : isEdge c = false := by
  simpa [endsPlain, ends] using plain

/-- What stands in quotes, with white space around these, is left by stripping. -/
theorem stripped_of_around {front opening core closing back : List Char}
    (blankFront : front.all isBlank = true) (opens : opening.all (· == '"') = true)
    (closes : closing.all (· == '"') = true) (blankBack : back.all isBlank = true)
    (first : beginsPlain core = true) (last : endsPlain core = true) :
    Stripped (front ++ ((opening ++ (core ++ closing)) ++ back)) core := by
  have quote : isBlank '"' = false := by decide
  have notBlank {c : Char} {quotes : List Char} (all : quotes.all (· == '"') = true)
      (member : c ∈ quotes) : isBlank c = false := by
    have same : c = '"' := by simpa using List.all_eq_true.mp all c member
    rwa [same]
  refine ⟨opening ++ (core ++ closing), ?blanks, ?quotes⟩
  case blanks =>
    constructor
    case around =>
      exact ⟨front, back, rfl, List.all_eq_true.mp blankFront, List.all_eq_true.mp blankBack⟩
    case first =>
      intro c begins
      simp only [List.head?_append, Option.or_eq_some_iff] at begins
      rcases begins with inOpening | ⟨-, inCore | ⟨-, inClosing⟩⟩
      · exact notBlank opens (List.mem_of_head? inOpening)
      · exact (isEdge_eq_false_iff.mp (isEdge_of_head? first inCore)).1
      · exact notBlank closes (List.mem_of_head? inClosing)
    case last =>
      intro c ends
      simp only [List.getLast?_append, Option.or_eq_some_iff] at ends
      rcases ends with (inClosing | ⟨-, inCore⟩) | ⟨-, inOpening⟩
      · exact notBlank closes (List.mem_of_getLast? inClosing)
      · exact (isEdge_eq_false_iff.mp (isEdge_of_getLast? last inCore)).1
      · exact notBlank opens (List.mem_of_getLast? inOpening)
  case quotes =>
    constructor
    case around =>
      exact ⟨opening, closing, rfl, List.all_eq_true.mp opens, List.all_eq_true.mp closes⟩
    case first =>
      intro c begins
      simpa using (isEdge_eq_false_iff.mp (isEdge_of_head? first begins)).2
    case last =>
      intro c ends
      simpa using (isEdge_eq_false_iff.mp (isEdge_of_getLast? last ends)).2

theorem Stripped.isInfix {text core : List Char} (stripped : Stripped text core) :
    core <:+: text := by
  obtain ⟨_, ⟨⟨front, back, rfl, -⟩, -⟩, ⟨⟨opening, closing, rfl, -⟩, -⟩⟩ := stripped
  exact ⟨front ++ opening, closing ++ back, by simp only [List.append_assoc]⟩

/-! ## Ranges at the end of a descriptor -/

/-- What stripping leaves of a range that ends a descriptor. -/
def trimRange (range : List Char) : List Char :=
  trimEnd (· == '"') (trimEnd isBlank range)

section

variable {c : Char} {range : List Char}

theorem trimRange_append_cons (plain : isEdge c = false) (front rest : List Char) :
    trimRange (front ++ c :: rest) = front ++ c :: trimRange rest := by
  obtain ⟨notBlank, notQuote⟩ := isEdge_eq_false_iff.mp plain
  rw [trimRange, Text.trimEnd_append_cons notBlank,
    Text.trimEnd_append_cons (by simpa using notQuote)]
  rfl

theorem trimRange_eq_self (plain : endsPlain range = true) : trimRange range = range := by
  have blanks : trimEnd isBlank (range ++ []) = range := by
    apply Text.trimEnd_append_of_last (by simp)
    intro c ends
    exact (isEdge_eq_false_iff.mp (isEdge_of_getLast? plain ends)).1
  have quotes : trimEnd (· == '"') (range ++ []) = range := by
    apply Text.trimEnd_append_of_last (by simp)
    intro c ends
    simpa using (isEdge_eq_false_iff.mp (isEdge_of_getLast? plain ends)).2
  rw [List.append_nil] at blanks quotes
  rw [trimRange, blanks, quotes]

theorem trimRange_isPrefixOf (range : List Char) : trimRange range <+: range :=
  (List.rdropWhile_prefix _ _).trans (List.rdropWhile_prefix _ _)

/-- A character that is not taken off the ends stays, wherever it stands. -/
theorem mem_trimRange_iff (plain : isEdge c = false) : c ∈ trimRange range ↔ c ∈ range := by
  constructor
  · intro member
    exact (trimRange_isPrefixOf range).subset member
  · intro member
    obtain ⟨front, rest, rfl⟩ := List.append_of_mem member
    rw [trimRange_append_cons plain]
    simp

end

/-! ## Names in front of ranges -/

namespace Divides

variable {text name rest : List Char}

theorem isInfix (divides : Divides text name rest) : (name ++ '@' :: rest) <:+: text :=
  Stripped.isInfix divides.stripped

theorem name_isInfix (divides : Divides text name rest) : name <:+: text :=
  (List.prefix_append _ _).isInfix.trans divides.isInfix

theorem rest_isInfix (divides : Divides text name rest) : rest <:+: text :=
  ((List.suffix_cons _ _).trans (List.suffix_append _ _)).isInfix.trans divides.isInfix

/-- What can be cut has an at sign behind its first character. -/
theorem mem_tail (divides : Divides text name rest) : '@' ∈ text.tail := by
  obtain ⟨before, behind, rfl⟩ := divides.isInfix
  obtain ⟨c, later, rfl⟩ := List.exists_cons_of_ne_nil divides.nonempty
  cases before with
  | nil => simp
  | cons d more => simp

end Divides

/-- A descriptor is cut where its name ends. -/
theorem divides_append (name : BareName) (range : List Char) :
    Divides (name.text ++ '@' :: range) name.text (trimRange range) := by
  have sign : isEdge '@' = false := by decide
  constructor
  case stripped =>
    apply bare_eq_iff.mp
    obtain ⟨c, rest, cut⟩ := List.exists_cons_of_ne_nil name.nonempty
    obtain ⟨notBlank, notQuote⟩ :=
      isEdge_eq_false_iff.mp (isEdge_of_head? name.first (by simp [cut] : _ = some c))
    have unblanked : Text.trim (name.text ++ '@' :: range) =
        name.text ++ '@' :: trimEnd isBlank range := by
      rw [← Text.trimEnd_append_cons (by decide), cut]
      exact Text.trimBoth_of_head notBlank _
    calc bare (name.text ++ '@' :: range)
        = trimEnd (· == '"') (name.text ++ '@' :: trimEnd isBlank range) := by
          rw [bare, unblanked, cut]
          exact Text.trimBoth_of_head (by simpa using notQuote) _
      _ = name.text ++ '@' :: trimRange range := Text.trimEnd_append_cons (by decide) _ _
  case nonempty => exact name.nonempty
  case undivided => exact name.undivided

/-! ## Texts that cannot be cut -/

theorem cutName_eq_none_iff {text : List Char} : cutName text = none ↔ '@' ∉ text.tail := by
  cases text with
  | nil => simp [cutName]
  | cons c rest =>
      constructor
      · intro uncut member
        obtain ⟨before, behind, written, free⟩ := List.eq_append_cons_of_mem member
        have cut : cutName (c :: rest) = some (c :: before, behind) :=
          cutName_eq_some_iff.mpr ⟨congrArg (c :: ·) written, by simp, free⟩
        rw [uncut] at cut
        cases cut
      · intro free
        rw [List.tail_cons] at free
        rw [cutName, cutAt_eq_none free]
        rfl

theorem splitDescriptor_eq_error_iff {descriptor : String} {error : DescriptorError} :
    splitDescriptor descriptor = .error error ↔
      ∃ core, Stripped descriptor.toList core ∧ '@' ∉ core.tail ∧ error = ⟨String.ofList core⟩ := by
  simp only [← bare_eq_iff, exists_eq_left', ← cutName_eq_none_iff]
  cases cut : cutName (bare descriptor.toList) with
  | none => simp [splitDescriptor, cut, eq_comm]
  | some parts => simp [splitDescriptor, cut]

/-! ## Packages of the registry -/

/-- A range without a colon or a slash, as ranges of versions and tags are. -/
def IsHome (range : List Char) : Prop :=
  ':' ∉ range ∧ '/' ∉ range

instance (range : List Char) : Decidable (IsHome range) :=
  inferInstanceAs (Decidable (_ ∧ _))

theorem any_eq_false_iff_isHome {range : List Char} :
    (range.any fun c => c == ':' || c == '/') = false ↔ IsHome range := by
  simp only [IsHome, List.any_eq_false, Bool.or_eq_true, beq_iff_eq, not_or]
  constructor
  · intro free
    exact ⟨fun colon => (free _ colon).1 rfl, fun slash => (free _ slash).2 rfl⟩
  · intro free c member
    exact ⟨fun colon => free.1 (colon ▸ member), fun slash => free.2 (slash ▸ member)⟩

theorem isHome_trimRange_iff {range : List Char} : IsHome (trimRange range) ↔ IsHome range := by
  rw [IsHome, IsHome, mem_trimRange_iff (by decide), mem_trimRange_iff (by decide)]

/-- The name that the registry holds with a range. -/
def held (name range : List Char) : Option (List Char) :=
  if IsHome range then some name else none

theorem held_eq_some_iff {name range found : List Char} :
    held name range = some found ↔ IsHome range ∧ name = found := by
  simp [held]

theorem held_trimRange (name range : List Char) :
    held name (trimRange range) = held name range := by
  simp only [held, isHome_trimRange_iff]

/-- What a descriptor stands for: a package of the registry, or nothing that it holds. -/
inductive Resolves (text : List Char) : Option (List Char) → Prop
  | own {name range : List Char} (divides : Divides text name range)
      (plain : ¬ npmProtocol <+: range) : Resolves text (held name range)
  | renamed {label target name range : List Char}
      (divides : Divides text label (npmProtocol ++ target)) (within : Divides target name range) :
      Resolves text (held name range)
  | renamedOnly {label name : List Char} (divides : Divides text label (npmProtocol ++ name))
      (nonempty : name ≠ []) (undivided : '@' ∉ name.tail) : Resolves text (some name)
  | nameless {label : List Char} (divides : Divides text label npmProtocol) : Resolves text none

theorem map_nameUnlessForeign (name range : String) :
    (nameUnlessForeign name range).map String.toList = held name.toList range.toList := by
  have same : isForeign range = false ↔ IsHome range.toList := any_eq_false_iff_isHome
  cases foreign : isForeign range with
  | true =>
      have away : ¬ IsHome range.toList := by simp [← same, foreign]
      simp [nameUnlessForeign, foreign, held, away]
  | false => simp [nameUnlessForeign, foreign, held, same.mp foreign]

theorem afterProtocol?_of_written {range : String} {target : List Char}
    (written : range.toList = npmProtocol ++ target) : afterProtocol? range = some target := by
  rw [afterProtocol?, written, if_pos (by simp), List.drop_left]

theorem afterProtocol?_of_plain {range : String} (plain : ¬ npmProtocol <+: range.toList) :
    afterProtocol? range = none := by
  rw [afterProtocol?, if_neg (by simpa using plain)]

section

variable {descriptor name range : String} {target : List Char} {package? : Option String}

theorem registryName_of_plain (split : splitDescriptor descriptor = .ok (name, range))
    (plain : ¬ npmProtocol <+: range.toList) :
    registryName descriptor = .ok (nameUnlessForeign name range) := by
  simp only [registryName, split, Stepwise.ok_bind, afterProtocol?_of_plain plain]
  rfl

theorem registryName_of_uncut (split : splitDescriptor descriptor = .ok (name, range))
    (written : range.toList = npmProtocol ++ target) (uncut : '@' ∉ target.tail) :
    registryName descriptor = .ok (if target = [] then none else some (String.ofList target)) := by
  simp only [registryName, split, Stepwise.ok_bind, afterProtocol?_of_written written,
    cutName_eq_none_iff.mpr uncut]
  rfl

theorem registryName_of_cut (split : splitDescriptor descriptor = .ok (name, range))
    (written : range.toList = npmProtocol ++ target) (cut : '@' ∈ target.tail) :
    registryName descriptor = (splitDescriptor (String.ofList target)).map fun parts =>
      nameUnlessForeign parts.1 parts.2 := by
  have cuttable : cutName target ≠ none := fun uncut => cutName_eq_none_iff.mp uncut cut
  obtain ⟨parts, found⟩ := Option.ne_none_iff_exists'.mp cuttable
  simp only [registryName, split, Stepwise.ok_bind, afterProtocol?_of_written written, found]
  cases splitDescriptor (String.ofList target) <;> rfl

theorem Resolves.of_registryName (read : registryName descriptor = .ok package?) :
    Resolves descriptor.toList (package?.map String.toList) := by
  cases split : splitDescriptor descriptor with
  | error error => simp [registryName, split] at read
  | ok parts =>
      obtain ⟨name, range⟩ := parts
      have divides := splitDescriptor_eq_ok_iff.mp split
      by_cases leads : npmProtocol <+: range.toList
      · obtain ⟨target, written⟩ := leads
        rw [← written] at divides
        by_cases cut : '@' ∈ target.tail
        · rw [registryName_of_cut split written.symm cut] at read
          cases inner : splitDescriptor (String.ofList target) with
          | error error => simp [inner, Except.map] at read
          | ok parts =>
              obtain ⟨name, range⟩ := parts
              have within := splitDescriptor_eq_ok_iff.mp inner
              rw [String.toList_ofList] at within
              simp only [inner, Except.map, Except.ok.injEq] at read
              rw [← read, map_nameUnlessForeign]
              exact .renamed divides within
        · rw [registryName_of_uncut split written.symm cut, Except.ok.injEq] at read
          by_cases empty : target = []
          · subst empty
            rw [← read, if_pos rfl]
            rw [List.append_nil] at divides
            exact .nameless divides
          · rw [← read, if_neg empty, Option.map_some, String.toList_ofList]
            exact .renamedOnly divides empty cut
      · rw [registryName_of_plain split leads, Except.ok.injEq] at read
        rw [← read, map_nameUnlessForeign]
        exact .own divides leads

end

section

variable {text name range : List Char} {found : Option (List Char)}

theorem Divides.split (divides : Divides text name range) :
    splitDescriptor (String.ofList text) = .ok (String.ofList name, String.ofList range) := by
  apply splitDescriptor_eq_ok_iff.mpr
  rwa [String.toList_ofList, String.toList_ofList, String.toList_ofList]

theorem nameUnlessForeign_ofList (name range : List Char) :
    nameUnlessForeign (String.ofList name) (String.ofList range) =
      (held name range).map String.ofList := by
  have same := map_nameUnlessForeign (String.ofList name) (String.ofList range)
  rw [String.toList_ofList, String.toList_ofList] at same
  rw [← same, Option.map_map]
  simp

/-- A descriptor is read as what it stands for. -/
theorem Resolves.registryName_eq (resolves : Resolves text found) :
    registryName (String.ofList text) = .ok (found.map String.ofList) := by
  cases resolves with
  | own divides plain =>
      rw [registryName_of_plain divides.split (by simpa using plain), nameUnlessForeign_ofList]
  | renamed divides within =>
      rw [registryName_of_cut divides.split (String.toList_ofList ..) within.mem_tail, within.split]
      exact congrArg Except.ok (nameUnlessForeign_ofList _ _)
  | renamedOnly divides nonempty undivided =>
      rw [registryName_of_uncut divides.split (String.toList_ofList ..) undivided, if_neg nonempty]
      rfl
  | nameless divides =>
      have written : (String.ofList npmProtocol).toList = npmProtocol ++ [] := by simp
      rw [registryName_of_uncut divides.split written (by simp), if_pos rfl]
      rfl

theorem registryName_eq_ok_iff {descriptor : String} {package? : Option String} :
    registryName descriptor = .ok package? ↔
      Resolves descriptor.toList (package?.map String.toList) := by
  constructor
  · exact Resolves.of_registryName
  · intro resolves
    simpa [Option.map_map] using resolves.registryName_eq

/-- What a descriptor stands for is a name that could be cut off, and it stands in the
descriptor. -/
theorem Resolves.proper (resolves : Resolves text (some name)) :
    name ≠ [] ∧ '@' ∉ name.tail ∧ name <:+: text := by
  generalize sought : some name = found at resolves
  cases resolves with
  | own divides plain =>
      obtain ⟨-, rfl⟩ := held_eq_some_iff.mp sought.symm
      exact ⟨divides.nonempty, divides.undivided, divides.name_isInfix⟩
  | renamed divides within =>
      obtain ⟨-, rfl⟩ := held_eq_some_iff.mp sought.symm
      have target := (List.suffix_append _ _).isInfix.trans divides.rest_isInfix
      exact ⟨within.nonempty, within.undivided, within.name_isInfix.trans target⟩
  | renamedOnly divides nonempty undivided =>
      cases sought
      exact ⟨nonempty, undivided, (List.suffix_append _ _).isInfix.trans divides.rest_isInfix⟩
  | nameless divides => cases sought

end

/-! ## Descriptors that are put together -/

section

variable (label name : BareName) {range : List Char}

theorem beginsPlain_append (rest : List Char) : beginsPlain (name.text ++ rest) = true := by
  have first := name.first
  obtain ⟨c, later, cut⟩ := List.exists_cons_of_ne_nil name.nonempty
  rw [cut] at first ⊢
  exact first

theorem endsPlain_append (front : List Char) (ends : endsPlain range = true) :
    endsPlain (front ++ '@' :: range) = true := by
  cases range with
  | nil => simp [endsPlain, isEdge, show isBlank '@' = false by decide]
  | cons c rest => simpa [endsPlain, List.getLast?_append, List.getLast?_cons] using ends

theorem registryName_own (plain : ¬ npmProtocol <+: range) :
    registryName (String.ofList (name.text ++ '@' :: range)) =
      .ok ((held name.text range).map String.ofList) := by
  have stays : ¬ npmProtocol <+: trimRange range := by
    intro leads
    exact plain (leads.trans (trimRange_isPrefixOf range))
  rw [(Resolves.own (divides_append name range) stays).registryName_eq, held_trimRange]

theorem registryName_renamed (range : List Char) :
    registryName (String.ofList
        (label.text ++ '@' :: (npmProtocol ++ (name.text ++ '@' :: range)))) =
      .ok ((held name.text range).map String.ofList) := by
  have divides := divides_append label (npmProtocol ++ (name.text ++ '@' :: range))
  have kept : trimRange (npmProtocol ++ (name.text ++ '@' :: range)) =
      npmProtocol ++ (name.text ++ '@' :: trimRange range) := by
    rw [← List.append_assoc, trimRange_append_cons (by decide), List.append_assoc]
  rw [kept] at divides
  rw [(Resolves.renamed divides (divides_append name (trimRange range))).registryName_eq,
    held_trimRange, held_trimRange]

example : registryName "left@npm:@types/node@^20" = .ok (some "@types/node") := by
  rfl

theorem registryName_renamedOnly :
    registryName (String.ofList (label.text ++ '@' :: (npmProtocol ++ name.text))) =
      .ok (some (String.ofList name.text)) := by
  have divides := divides_append label (npmProtocol ++ name.text)
  have ends : endsPlain (npmProtocol ++ name.text) = true := by
    simpa [endsPlain, List.getLast?_append_of_ne_nil _ name.nonempty] using name.last
  rw [trimRange_eq_self ends] at divides
  exact (Resolves.renamedOnly divides name.nonempty name.undivided).registryName_eq

end

/-- What a descriptor identifies: one that is written from names and a range, and any other. -/
structure Identifies (label name : BareName) (range : List Char) (descriptor : String) : Prop where
  /-- A name and a range are cut where they were put together, whatever stands around them. -/
  joined {front opening closing back : List Char} (blankFront : front.all isBlank = true)
    (opens : opening.all (· == '"') = true) (closes : closing.all (· == '"') = true)
    (blankBack : back.all isBlank = true) (ends : endsPlain range = true) :
    splitDescriptor (String.ofList (front ++
        ((opening ++ ((name.text ++ '@' :: range) ++ closing)) ++ back))) =
      .ok (String.ofList name.text, String.ofList range)
  /-- What is cut are a name and a range that put together are the descriptor, without the white
  space and then the quotes around it. -/
  cut {found rest : String} : splitDescriptor descriptor = .ok (found, rest) ↔
    Stripped descriptor.toList (found.toList ++ '@' :: rest.toList) ∧ found ≠ "" ∧
      '@' ∉ found.toList.tail
  /-- A descriptor is refused if and only if what is left of it has no at sign behind its first
  character. -/
  refused {error : DescriptorError} : splitDescriptor descriptor = .error error ↔
    ∃ core, Stripped descriptor.toList core ∧ '@' ∉ core.tail ∧ error = ⟨String.ofList core⟩
  /-- A name with a range is a package of the registry. -/
  own (home : IsHome range) :
    registryName (String.ofList (name.text ++ '@' :: range)) = .ok (some (String.ofList name.text))
  /-- So is a name with a range behind another name. -/
  renamed (home : IsHome range) :
    registryName (String.ofList
        (label.text ++ '@' :: (npmProtocol ++ (name.text ++ '@' :: range)))) =
      .ok (some (String.ofList name.text))
  /-- And so is a name alone behind another name. -/
  renamedOnly :
    registryName (String.ofList (label.text ++ '@' :: (npmProtocol ++ name.text))) =
      .ok (some (String.ofList name.text))
  /-- A range with a colon or a slash leads elsewhere, unless it is another package. -/
  address (away : ¬ IsHome range) (plain : ¬ npmProtocol <+: range) :
    registryName (String.ofList (name.text ++ '@' :: range)) = .ok none
  /-- So does such a range of another package. -/
  renamedAddress (away : ¬ IsHome range) :
    registryName (String.ofList
        (label.text ++ '@' :: (npmProtocol ++ (name.text ++ '@' :: range)))) =
      .ok none
  /-- What is found for a descriptor is told by its text alone, in every case. -/
  told {package? : Option String} : registryName descriptor = .ok package? ↔
    Resolves descriptor.toList (package?.map String.toList)
  /-- Every package that is found has a name that could have been cut off, and its name stands in
  the descriptor. -/
  found {package : String} (known : registryName descriptor = .ok (some package)) :
    package ≠ "" ∧ '@' ∉ package.toList.tail ∧ package.toList <:+: descriptor.toList

theorem identifies (label name : BareName) (range : List Char) (descriptor : String) :
    Identifies label name range descriptor := by
  have leads_away (leads : npmProtocol <+: range) : ':' ∈ range := leads.subset (by decide)
  constructor
  case joined =>
    intro front opening closing back blankFront opens closes blankBack ends
    have stripped := stripped_of_around blankFront opens closes blankBack
      (beginsPlain_append name ('@' :: range)) (endsPlain_append name.text ends)
    exact Divides.split ⟨stripped, name.nonempty, name.undivided⟩
  case cut =>
    intro found rest
    rw [splitDescriptor_eq_ok_iff, ne_eq, ← String.toList_eq_nil_iff]
    exact ⟨fun divides => ⟨divides.stripped, divides.nonempty, divides.undivided⟩,
      fun ⟨stripped, nonempty, undivided⟩ => ⟨stripped, nonempty, undivided⟩⟩
  case refused => exact splitDescriptor_eq_error_iff
  case own =>
    intro home
    rw [registryName_own name (fun leads => home.1 (leads_away leads)), held, if_pos home]
    rfl
  case renamed =>
    intro home
    rw [registryName_renamed, held, if_pos home]
    rfl
  case renamedOnly => exact registryName_renamedOnly label name
  case address =>
    intro away plain
    rw [registryName_own name plain, held, if_neg away]
    rfl
  case renamedAddress =>
    intro away
    rw [registryName_renamed, held, if_neg away]
    rfl
  case told => exact registryName_eq_ok_iff
  case found =>
    intro package known
    have proper := (Resolves.of_registryName known).proper
    rwa [ne_eq, String.toList_eq_nil_iff] at proper

end GuardedInstall.Lockfile
