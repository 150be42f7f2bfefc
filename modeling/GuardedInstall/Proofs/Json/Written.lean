import GuardedInstall.Json.Printer
import GuardedInstall.Json.Reader
import GuardedInstall.Proofs.Stepwise
import Mathlib.Data.List.Chain

/-!
# Documents that are written and read

A document that is written over several lines is read as the value that it was written
for, with the fields of its objects sorted. A character beyond the first plane is written
as a pair of halves, and a half that stands alone is written as a half; so a first half
directly in front of a second one is the one thing that is not read back.
-/

namespace GuardedInstall.Text

theorem hexDigit?_hexChar {value : Nat} (small : value < 16) :
    hexDigit? (hexChar value) = some value := by
  have all : ∀ value < 16, hexDigit? (hexChar value) = some value := by decide
  exact all value small

/-- No first half stands directly in front of a second one. -/
def Apart (text : List Char) : Prop :=
  text.IsChain fun first second =>
    ¬ (Half.isHigh (Half.code first) = true ∧ Half.isLow (Half.code second) = true)

instance (text : List Char) : Decidable (Apart text) :=
  inferInstanceAs (Decidable (text.IsChain _))

end GuardedInstall.Text

namespace GuardedInstall.Json

open GuardedInstall.Text (Apart Half.code Half.isHigh Half.isLow)

/-! ## Characters and code units -/

/-- The code units that a character is written as. -/
def units (c : Char) : List Nat :=
  if Half.code c < 0x10000 then [Half.code c]
  else [0xD800 + (c.toNat - 0x10000) / 0x400, 0xDC00 + (c.toNat - 0x10000) % 0x400]

theorem units_of_lt {c : Char} (small : c.toNat < 0xD800) : units c = [c.toNat] := by
  rcases Text.Half.code_cases c with ⟨-, number⟩ | ⟨-, number, -⟩
  · rw [Text.Half.distance] at number
    omega
  · rw [units, if_pos (by omega), number]

/-- What takes two code units is a character of its own. -/
theorem toNat_of_code_large {c : Char} (large : ¬ Half.code c < 0x10000) :
    0x10000 ≤ c.toNat ∧ c.toNat < 0x110000 := by
  rcases Text.Half.code_cases c with ⟨unit, -⟩ | ⟨-, number, bound⟩
  · simp only [Text.Half.isUnit, Half.isHigh, Half.isLow, Bool.or_eq_true, Bool.and_eq_true,
      decide_eq_true_eq] at unit
    omega
  · omega

namespace Reader

theorem codes_unitEscape {unit : Nat} (small : unit < 0x10000) (rest : List Char) :
    codes (unitEscape unit ++ rest) =
      (codes rest).map fun (later, rest) => (unit :: later, rest) := by
  have digit (value : Nat) : Text.hexDigit? (Text.hexChar (value % 16)) = some (value % 16) :=
    Text.hexDigit?_hexChar (Nat.mod_lt _ (by decide))
  have number : fourHex? (Text.hexChar (unit / 16 / 16 / 16 % 16))
      (Text.hexChar (unit / 16 / 16 % 16)) (Text.hexChar (unit / 16 % 16))
      (Text.hexChar (unit % 16)) = some unit := by
    simp only [fourHex?, digit, Text.ofDigits, Option.pure_def, Option.bind_eq_bind,
      Option.bind_some, List.foldl_cons, List.foldl_nil, Option.some.injEq]
    omega
  have written : unitEscape unit ++ rest = '\\' :: 'u' ::
      Text.hexChar (unit / 16 / 16 / 16 % 16) :: Text.hexChar (unit / 16 / 16 % 16) ::
      Text.hexChar (unit / 16 % 16) :: Text.hexChar (unit % 16) :: rest := by
    simp [unitEscape, Text.hexFixed]
  rw [written, codes, number]
  cases codes rest <;> rfl

/-- A character that is written as a backslash and a letter. -/
theorem codes_escape {letter found : Char} (escapes : escaped? letter = some found)
    (rest : List Char) :
    codes ('\\' :: letter :: rest) =
      (codes rest).map fun (later, rest) => (found.toNat :: later, rest) := by
  rw [codes.eq_def]
  split
  · contradiction
  · simp_all
  · rename_i cut
    cases cut
    cases escapes
  · rename_i cut
    cases cut
    rw [escapes]
    cases codes rest <;> rfl
  · rename_i notEscape cut
    obtain ⟨backslash, joined⟩ := List.cons.inj cut
    exact absurd joined.symm (notEscape letter rest backslash.symm)

/-- A character that is written as it is. -/
theorem codes_cons {c : Char} (visible : 0x20 ≤ c.toNat) (notQuote : c ≠ '"')
    (notBackslash : c ≠ '\\') (rest : List Char) :
    codes (c :: rest) = (codes rest).map fun (later, rest) => (c.toNat :: later, rest) := by
  rw [codes.eq_def]
  split
  · contradiction
  · simp_all
  · simp_all
  · simp_all
  · rename_i cut
    cases cut
    rw [if_neg (by omega)]
    cases codes rest <;> rfl

/-- A written character is read as its code units. -/
theorem codes_escapeChar (c : Char) (rest : List Char) :
    codes (escapeChar c ++ rest) =
      (codes rest).map fun (later, rest) => (units c ++ later, rest) := by
  unfold escapeChar
  split
  case h_8 notQuote notBackslash _ _ _ _ _ =>
    split
    · rename_i visible
      have visible : 0x20 ≤ c.toNat ∧ c.toNat < 0x7F := by simpa using visible
      rw [units_of_lt (by omega)]
      exact codes_cons visible.1 notQuote notBackslash rest
    · split
      · rename_i small
        rw [units, if_pos small]
        exact codes_unitEscape small rest
      · rename_i large
        obtain ⟨-, bound⟩ := toNat_of_code_large large
        have high : 0xD800 + (c.toNat - 0x10000) / 0x400 < 0x10000 := by omega
        have low : 0xDC00 + (c.toNat - 0x10000) % 0x400 < 0x10000 := by omega
        rw [units, if_neg large]
        dsimp only
        rw [List.append_assoc, codes_unitEscape high, codes_unitEscape low]
        cases codes rest <;> rfl
  all_goals
    rw [units_of_lt (by decide)]
    exact codes_escape rfl rest

/-- A written text is read as its code units, up to its closing quote. -/
theorem codes_quoted (text rest : List Char) :
    codes (text.flatMap escapeChar ++ '"' :: rest) = some (text.flatMap units, rest) := by
  induction text with
  | nil => rfl
  | cons c text ih =>
      rw [List.flatMap_cons, List.append_assoc, codes_escapeChar, ih]
      rfl

/-- A unit that is not the first half of a pair is read on its own. -/
theorem joinPairs_cons {code : Nat} {later : List Nat}
    (alone : ∀ next, later.head? = some next →
      ¬ (Half.isHigh code = true ∧ Half.isLow next = true)) :
    joinPairs (code :: later) = Text.Half.ofCode code :: joinPairs later := by
  cases later with
  | nil => rfl
  | cons next rest =>
      have apart : ¬ (Half.isHigh code && Half.isLow next) = true := by
        rw [Bool.and_eq_true]
        exact alone next rfl
      rw [joinPairs, if_neg apart]

/-- The two halves of a character are read as that character. -/
theorem joinPairs_pair {c : Char} (large : ¬ Half.code c < 0x10000) (later : List Nat) :
    joinPairs ((0xD800 + (c.toNat - 0x10000) / 0x400) ::
      (0xDC00 + (c.toNat - 0x10000) % 0x400) :: later) = c :: joinPairs later := by
  obtain ⟨beyond, bound⟩ := toNat_of_code_large large
  have high : Half.isHigh (0xD800 + (c.toNat - 0x10000) / 0x400) = true := by
    simp only [Half.isHigh, Bool.and_eq_true, decide_eq_true_eq]
    omega
  have low : Half.isLow (0xDC00 + (c.toNat - 0x10000) % 0x400) = true := by
    simp only [Half.isLow, Bool.and_eq_true, decide_eq_true_eq]
    omega
  have number : 0x10000 + (0xD800 + (c.toNat - 0x10000) / 0x400 - 0xD800) * 0x400 +
      (0xDC00 + (c.toNat - 0x10000) % 0x400 - 0xDC00) = c.toNat := by
    omega
  rw [joinPairs, high, low, Bool.and_self, if_pos rfl, Text.Half.joined, number, Char.ofNat_toNat]

/-- Whether a text begins with a second half shows in its first code unit. -/
theorem isLow_of_head?_units {text : List Char} {next : Nat}
    (first : (text.flatMap units).head? = some next) (low : Half.isLow next = true) :
    ∃ d, text.head? = some d ∧ Half.isLow (Half.code d) = true := by
  cases text with
  | nil => cases first
  | cons d rest =>
      rw [List.flatMap_cons, units] at first
      split at first
      · rw [List.singleton_append, List.head?_cons, Option.some.injEq] at first
        exact ⟨d, rfl, first ▸ low⟩
      · rename_i large
        rw [List.cons_append, List.head?_cons, Option.some.injEq] at first
        obtain ⟨-, bound⟩ := toNat_of_code_large large
        simp only [Half.isLow, Bool.and_eq_true, decide_eq_true_eq] at low
        omega

/-- A text whose halves stand apart is put together from its code units. -/
theorem joinPairs_units {text : List Char} (apart : Apart text) :
    joinPairs (text.flatMap units) = text := by
  induction text with
  | nil => rfl
  | cons c text ih =>
      obtain ⟨here, behind⟩ := List.isChain_cons.mp apart
      rw [List.flatMap_cons, units]
      split
      · have alone (next : Nat) (first : (text.flatMap units).head? = some next) :
            ¬ (Half.isHigh (Half.code c) = true ∧ Half.isLow next = true) := by
          rintro ⟨high, low⟩
          obtain ⟨d, begins, lowFirst⟩ := isLow_of_head?_units first low
          exact here d begins ⟨high, lowFirst⟩
        rw [List.singleton_append, joinPairs_cons alone, Text.Half.ofCode_code, ih behind]
      · rename_i large
        rw [List.cons_append, List.singleton_append, joinPairs_pair large, ih behind]

/-- A quoted text is read back behind its first quote. -/
theorem string_quoted {text : String} (apart : Apart text.toList) (rest : List Char) :
    string (text.toList.flatMap escapeChar ++ '"' :: rest) = .ok (text, rest) := by
  rw [string, codes_quoted]
  simp only [joinPairs_units apart, String.ofList_toList]

end Reader

/-! ## Values -/

/-- A value of texts and truth values. Halves stand apart in its texts, and no name comes
twice in an object. -/
inductive Plain : Value → Prop
  | null : Plain .null
  | boolean (value : Bool) : Plain (.boolean value)
  | text {text : String} (apart : Apart text.toList) : Plain (.text text)
  | list {items : List Value} (each : ∀ item ∈ items, Plain item) : Plain (.list items)
  | object {fields : List (String × Value)} (distinct : (fields.map (·.1)).Nodup)
      (names : ∀ field ∈ fields, Apart field.1.toList) (each : ∀ field ∈ fields, Plain field.2) :
      Plain (.object fields)

/-- The characters that plain values begin with. -/
def openings : List Char := ['n', 't', 'f', '"', '[', '\x7b']

theorem Plain.exists_eq_cons {value : Value} (plain : Plain value) (depth : Nat) :
    ∃ c rest, indentedAt depth value = c :: rest ∧ c ∈ openings := by
  cases plain with
  | null => exact ⟨_, _, rfl, by decide⟩
  | boolean value => cases value <;> exact ⟨_, _, rfl, by decide⟩
  | text apart => exact ⟨_, _, rfl, by decide⟩
  | @list items each => cases items <;> exact ⟨_, _, rfl, by decide⟩
  | @object fields distinct names each => cases fields <;> exact ⟨_, _, rfl, by decide⟩

namespace Reader

theorem skipSpace_newLine (depth : Nat) (text : List Char) :
    skipSpace (newLine depth ++ text) = skipSpace text := by
  have blank : ∀ c ∈ newLine depth,
      (c == ' ' || c == '\t' || c == '\n' || c == '\r') = true := by
    intro c member
    rcases List.mem_cons.mp member with rfl | member
    · rfl
    · rw [List.eq_of_mem_replicate member]
      rfl
  exact List.dropWhile_append_of_pos blank

theorem skipSpace_of_mem_openings {c : Char} (opening : c ∈ openings) (rest : List Char) :
    skipSpace (c :: rest) = c :: rest := by
  have dark : openings.all (fun c => !(c == ' ' || c == '\t' || c == '\n' || c == '\r')) = true :=
    rfl
  exact List.dropWhile_cons_of_neg (by simpa using List.all_eq_true.mp dark c opening)

/-- White space in front of a plain value is dropped, and nothing of the value. -/
theorem skipSpace_indentedAt {value : Value} (plain : Plain value) (depth : Nat)
    (rest : List Char) :
    skipSpace (indentedAt depth value ++ rest) = indentedAt depth value ++ rest := by
  obtain ⟨c, later, cut, opening⟩ := plain.exists_eq_cons depth
  rw [cut]
  exact skipSpace_of_mem_openings opening _

theorem exists_skipSpace_indentedItems (depth : Nat) {first : Value} (plain : Plain first)
    (later : List Value) (behind : List Char) :
    ∃ c more, skipSpace (indentedItems depth (first :: later) ++ behind) = c :: more ∧
      c ∈ openings := by
  obtain ⟨tail, joined⟩ : ∃ tail, indentedItems depth (first :: later) ++ behind =
      newLine depth ++ (indentedAt depth first ++ tail) := by
    cases later with
    | nil => exact ⟨behind, by simp [indentedItems]⟩
    | cons second others =>
        exact ⟨',' :: indentedItems depth (second :: others) ++ behind, by simp [indentedItems]⟩
  obtain ⟨c, rest, cut, opening⟩ := plain.exists_eq_cons depth
  refine ⟨c, rest ++ tail, ?_, opening⟩
  rw [joined, skipSpace_newLine, skipSpace_indentedAt plain, cut, List.cons_append]

theorem exists_skipSpace_indentedFields (depth : Nat) (first : String × Value)
    (later : List (String × Value)) (behind : List Char) :
    ∃ more, skipSpace (indentedFields depth (first :: later) ++ behind) = '"' :: more := by
  obtain ⟨name, value⟩ := first
  obtain ⟨tail, joined⟩ : ∃ tail, indentedFields depth ((name, value) :: later) ++ behind =
      newLine depth ++ (quoted name ++ tail) := by
    cases later with
    | nil =>
        exact ⟨':' :: ' ' :: (indentedAt depth value ++ behind), by simp [indentedFields]⟩
    | cons second others =>
        exact ⟨':' :: ' ' :: (indentedAt depth value ++
          ',' :: indentedFields depth (second :: others) ++ behind), by simp [indentedFields]⟩
  rw [joined, skipSpace_newLine]
  exact ⟨_, rfl⟩

/-- With so much fuel, plain values are read back, and so are the items of lists and the
members of objects up to the closing bracket. -/
structure Reads (fuel : Nat) : Prop where
  value {depth : Nat} {value : Value} (plain : Plain value)
    (enough : (indentedAt depth value).length ≤ fuel) (rest : List Char) :
    Reader.value fuel (indentedAt depth value ++ rest) = .ok (value, rest)
  items {depth : Nat} {values : List Value} (some : values ≠ [])
    (plain : ∀ item ∈ values, Plain item) (enough : (indentedItems depth values).length ≤ fuel)
    (outer : Nat) (rest : List Char) :
    Reader.items fuel (skipSpace (indentedItems depth values ++ newLine outer ++ ']' :: rest)) =
      .ok (values, rest)
  members {depth : Nat} {fields : List (String × Value)} (some : fields ≠ [])
    (names : ∀ field ∈ fields, Apart field.1.toList)
    (plain : ∀ field ∈ fields, Plain field.2)
    (enough : (indentedFields depth fields).length ≤ fuel) (outer : Nat) (rest : List Char) :
    Reader.members fuel
      (skipSpace (indentedFields depth fields ++ newLine outer ++ '\x7d' :: rest)) =
      .ok (fields, rest)

theorem length_newLine_pos (depth : Nat) : 0 < (newLine depth).length := by
  simp [newLine]

namespace Reads

variable {fuel depth : Nat}

theorem items_succ (reads : Reads fuel) {values : List Value} (some : values ≠ [])
    (plain : ∀ item ∈ values, Plain item)
    (enough : (indentedItems depth values).length ≤ fuel + 1) (outer : Nat) (rest : List Char) :
    Reader.items (fuel + 1)
      (skipSpace (indentedItems depth values ++ newLine outer ++ ']' :: rest)) =
      .ok (values, rest) := by
  have breaks := length_newLine_pos depth
  obtain ⟨first, later, rfl⟩ := List.exists_cons_of_ne_nil some
  obtain ⟨here, behind⟩ := List.forall_mem_cons.mp plain
  cases later with
  | nil =>
      have short : (indentedAt depth first).length ≤ fuel := by
        simp only [indentedItems, List.length_append] at enough
        omega
      rw [indentedItems, List.append_assoc, List.append_assoc, skipSpace_newLine,
        skipSpace_indentedAt here, Reader.items, reads.value here short, Stepwise.ok_bind]
      dsimp only
      rw [skipSpace_newLine]
      rfl
  | cons second others =>
      have sizes : (indentedAt depth first).length ≤ fuel ∧
          (indentedItems depth (second :: others)).length ≤ fuel := by
        simp only [indentedItems, List.length_append, List.length_cons] at enough ⊢
        omega
      have joined : indentedItems depth (first :: second :: others) ++ newLine outer ++
            ']' :: rest =
          newLine depth ++ (indentedAt depth first ++
            ',' :: (indentedItems depth (second :: others) ++ newLine outer ++ ']' :: rest)) := by
        simp [indentedItems]
      rw [joined, skipSpace_newLine, skipSpace_indentedAt here, Reader.items,
        reads.value here sizes.1, Stepwise.ok_bind]
      have again := reads.items (List.cons_ne_nil second others) behind sizes.2 outer rest
      have comma (text : List Char) : skipSpace (',' :: text) = ',' :: text := rfl
      simp only [comma, again, Stepwise.ok_bind]
      rfl

/-- A name and its value, in front of what follows them in an object. -/
theorem members_cons (reads : Reads fuel) {name : String} {value : Value}
    (apart : Apart name.toList) (plain : Plain value)
    (enough : (indentedAt depth value).length ≤ fuel) (behind : List Char) :
    Reader.members (fuel + 1)
      (skipSpace (newLine depth ++ (quoted name ++ ':' :: ' ' ::
        (indentedAt depth value ++ behind)))) =
      match skipSpace behind with
      | '\x7d' :: rest => pure ([(name, value)], rest)
      | ',' :: rest => do
          let (later, rest) ← Reader.members fuel (skipSpace rest)
          pure ((name, value) :: later, rest)
      | _ => throw .malformed := by
  have written (rest : List Char) :
      quoted name ++ rest = '"' :: (name.toList.flatMap escapeChar ++ '"' :: rest) := by
    simp [quoted]
  have quote (text : List Char) : skipSpace ('"' :: text) = '"' :: text := rfl
  have colon (text : List Char) : skipSpace (':' :: text) = ':' :: text := rfl
  have space (text : List Char) : skipSpace (' ' :: text) = skipSpace text := rfl
  rw [skipSpace_newLine, written, quote, Reader.members, string_quoted apart, Stepwise.ok_bind]
  simp only [colon, space, skipSpace_indentedAt plain, reads.value plain enough]
  rfl

theorem members_succ (reads : Reads fuel) {fields : List (String × Value)} (some : fields ≠ [])
    (names : ∀ field ∈ fields, Apart field.1.toList) (plain : ∀ field ∈ fields, Plain field.2)
    (enough : (indentedFields depth fields).length ≤ fuel + 1) (outer : Nat) (rest : List Char) :
    Reader.members (fuel + 1)
      (skipSpace (indentedFields depth fields ++ newLine outer ++ '\x7d' :: rest)) =
      .ok (fields, rest) := by
  have breaks := length_newLine_pos depth
  obtain ⟨⟨name, value⟩, later, rfl⟩ := List.exists_cons_of_ne_nil some
  obtain ⟨apart, others⟩ := List.forall_mem_cons.mp names
  obtain ⟨here, behind⟩ := List.forall_mem_cons.mp plain
  cases later with
  | nil =>
      have short : (indentedAt depth value).length ≤ fuel := by
        simp only [indentedFields, List.length_append, List.length_cons] at enough
        omega
      have joined : indentedFields depth [(name, value)] ++ newLine outer ++ '\x7d' :: rest =
          newLine depth ++ (quoted name ++ ':' :: ' ' :: (indentedAt depth value ++
            (newLine outer ++ '\x7d' :: rest))) := by
        simp [indentedFields]
      rw [joined, reads.members_cons apart here short, skipSpace_newLine]
      rfl
  | cons second more =>
      have sizes : (indentedAt depth value).length ≤ fuel ∧
          (indentedFields depth (second :: more)).length ≤ fuel := by
        simp only [indentedFields, List.length_append, List.length_cons] at enough ⊢
        omega
      have joined : indentedFields depth ((name, value) :: second :: more) ++ newLine outer ++
            '\x7d' :: rest =
          newLine depth ++ (quoted name ++ ':' :: ' ' :: (indentedAt depth value ++
            ',' :: (indentedFields depth (second :: more) ++ newLine outer ++
              '\x7d' :: rest))) := by
        simp [indentedFields]
      have again := reads.members (List.cons_ne_nil second more) others behind sizes.2 outer rest
      have comma (text : List Char) : skipSpace (',' :: text) = ',' :: text := rfl
      rw [joined, reads.members_cons apart here sizes.1]
      simp only [comma, again, Stepwise.ok_bind]
      rfl

/-- The items of a list are told from its closing bracket. -/
theorem list_cons (reads : Reads fuel) {first : Value} {later : List Value}
    (plain : ∀ item ∈ first :: later, Plain item)
    (enough : (indentedItems (depth + 1) (first :: later)).length ≤ fuel) (rest : List Char) :
    Reader.value (fuel + 1) ('[' :: (indentedItems (depth + 1) (first :: later) ++
      newLine depth ++ ']' :: rest)) = .ok (.list (first :: later), rest) := by
  have again := reads.items (List.cons_ne_nil first later) plain enough depth rest
  obtain ⟨c, more, cut, opening⟩ := exists_skipSpace_indentedItems (depth + 1)
    (plain first List.mem_cons_self) later (newLine depth ++ ']' :: rest)
  rw [← List.append_assoc] at cut
  rw [cut] at again
  rw [Reader.value]
  simp only [cut]
  split
  · rename_i closes
    obtain ⟨rfl, -⟩ := List.cons.inj closes
    exact absurd opening (by decide)
  · rw [again]
    rfl

theorem object_cons (reads : Reads fuel) {first : String × Value}
    {later : List (String × Value)} (distinct : ((first :: later).map (·.1)).Nodup)
    (names : ∀ field ∈ first :: later, Apart field.1.toList)
    (plain : ∀ field ∈ first :: later, Plain field.2)
    (enough : (indentedFields (depth + 1) (first :: later)).length ≤ fuel) (rest : List Char) :
    Reader.value (fuel + 1) ('\x7b' :: (indentedFields (depth + 1) (first :: later) ++
      newLine depth ++ '\x7d' :: rest)) = .ok (.object (first :: later), rest) := by
  have again := reads.members (List.cons_ne_nil first later) names plain enough depth rest
  obtain ⟨more, cut⟩ := exists_skipSpace_indentedFields (depth + 1) first later
    (newLine depth ++ '\x7d' :: rest)
  rw [← List.append_assoc] at cut
  rw [cut] at again
  rw [Reader.value]
  simp only [cut]
  split
  · rename_i closes
    cases closes
  · rw [again, Stepwise.ok_bind, Table.ofList_eq_self distinct]
    rfl

theorem value_succ (reads : Reads fuel) {value : Value} (plain : Plain value)
    (enough : (indentedAt depth value).length ≤ fuel + 1) (rest : List Char) :
    Reader.value (fuel + 1) (indentedAt depth value ++ rest) = .ok (value, rest) := by
  have regroup (opening closing : Char) (inner : List Char) :
      (opening :: inner ++ newLine depth ++ [closing]) ++ rest =
        opening :: (inner ++ newLine depth ++ closing :: rest) := by
    simp
  cases plain with
  | null => rfl
  | boolean value => cases value <;> rfl
  | @text text apart =>
      have written : indentedAt depth (.text text) ++ rest =
          '"' :: (text.toList.flatMap escapeChar ++ '"' :: rest) := by
        simp [indentedAt, compact, quoted]
      rw [written, Reader.value, string_quoted apart]
      rfl
  | @list items each =>
      cases items with
      | nil => rfl
      | cons first later =>
          have short : (indentedItems (depth + 1) (first :: later)).length ≤ fuel := by
            simp only [indentedAt, List.length_append, List.length_cons, List.length_nil] at enough
            omega
          rw [indentedAt, regroup]
          · exact reads.list_cons each short rest
          · simp
  | @object fields distinct names each =>
      cases fields with
      | nil => rfl
      | cons first later =>
          have short : (indentedFields (depth + 1) (first :: later)).length ≤ fuel := by
            simp only [indentedAt, List.length_append, List.length_cons, List.length_nil] at enough
            omega
          rw [indentedAt, regroup]
          · exact reads.object_cons distinct names each short rest
          · simp

end Reads

/-- Every value takes a character, and so does every line: the length of what was written
is fuel enough. -/
theorem reads (fuel : Nat) : Reads fuel := by
  induction fuel with
  | zero =>
      constructor
      case value =>
        intro depth value plain enough rest
        obtain ⟨c, later, cut, -⟩ := plain.exists_eq_cons depth
        simp [cut] at enough
      case items =>
        intro depth values some plain enough outer rest
        obtain ⟨first, later, rfl⟩ := List.exists_cons_of_ne_nil some
        cases later <;> simp [indentedItems, newLine] at enough
      case members =>
        intro depth fields some names plain enough outer rest
        obtain ⟨first, later, rfl⟩ := List.exists_cons_of_ne_nil some
        cases later <;> simp [indentedFields, newLine] at enough
  | succ fuel ih =>
      constructor
      case value => exact ih.value_succ
      case items => exact ih.items_succ
      case members => exact ih.members_succ

end Reader

/-! ## Sorted documents -/

theorem sortedItems_eq_map (items : List Value) : sortedItems items = items.map sorted := by
  induction items with
  | nil => rfl
  | cons item rest ih => rw [sortedItems, ih, List.map_cons]

theorem insertField_perm (field : String × Value) (fields : List (String × Value)) :
    (insertField field fields).Perm (field :: fields) := by
  induction fields with
  | nil => exact List.Perm.refl _
  | cons next rest ih =>
      rw [insertField]
      split
      · exact List.Perm.refl _
      · exact (ih.cons next).trans (.swap field next rest)

/-- Sorting moves the fields of an object and leaves none out. -/
theorem sortedFields_perm (fields : List (String × Value)) :
    (sortedFields fields).Perm (fields.map fun field => (field.1, sorted field.2)) := by
  induction fields with
  | nil => exact List.Perm.refl _
  | cons field rest ih => exact (insertField_perm _ _).trans (ih.cons _)

theorem Plain.sorted {value : Value} (plain : Plain value) : Plain (sorted value) := by
  induction plain with
  | null => exact .null
  | boolean value => exact .boolean value
  | text apart => exact .text apart
  | list each ih =>
      rw [Json.sorted, sortedItems_eq_map]
      exact .list (List.forall_mem_map.mpr ih)
  | @object fields distinct names each ih =>
      have moved := sortedFields_perm fields
      have keys : (fields.map fun field => (field.1, Json.sorted field.2)).map (·.1) =
          fields.map (·.1) := by
        simp
      rw [Json.sorted]
      constructor
      · rw [(moved.map (·.1)).nodup_iff, keys]
        exact distinct
      · intro field member
        obtain ⟨original, originalMem, rfl⟩ := List.mem_map.mp (moved.mem_iff.mp member)
        exact names original originalMem
      · intro field member
        obtain ⟨original, originalMem, rfl⟩ := List.mem_map.mp (moved.mem_iff.mp member)
        exact ih original originalMem

/-- A plain value that is written over several lines is read back with sorted objects. -/
theorem read_indented {value : Value} (plain : Plain value) {blank : List Char}
    (ends : Reader.skipSpace blank = []) :
    read ((indented value).toList ++ blank) = .ok (sorted value) := by
  rw [indented, String.toList_ofList]
  have enough : (indentedAt 0 (sorted value)).length ≤
      (indentedAt 0 (sorted value) ++ blank).length + 1 := by
    simp only [List.length_append]
    omega
  rw [read, Reader.skipSpace_indentedAt plain.sorted,
    (Reader.reads _).value plain.sorted enough, Stepwise.ok_bind]
  simp only [ends]
  rfl

end GuardedInstall.Json
