import GuardedInstall.Proofs.Lockfile.Identity

/-!
# Descriptors that are written and read

A descriptor is written from a name and a reference: a range, or another package in its
place. Reading it gives the package that it stands for, whether it stands in quotes or
not. Blanks at the end of a range are lost on the way, which changes nothing.
-/

namespace GuardedInstall.Lockfile

open GuardedInstall.Text (isBlank isLineBreak)

/-! ## Names and ranges -/

/-- Whether a character may stand in a package name. -/
def isNameChar (c : Char) : Bool :=
  !isBlank c && c != ',' && c != ':' && c != '"'

/-- A package name. An at sign may only come first. -/
structure Name where
  text : List Char
  nonempty : text ≠ [] := by decide
  clean : text.all isNameChar = true := by decide
  undivided : '@' ∉ text.tail := by decide
  uncommented : text.head? ≠ some '#' := by decide

/-- Whether a character may stand in a range. -/
def isRangeChar (c : Char) : Bool :=
  !isLineBreak c && c != ',' && c != '"'

/-- What follows the at sign of a descriptor: a range of versions, or an address. -/
structure Range where
  text : List Char
  clean : text.all isRangeChar = true := by decide

/-- Whether a range is an address outside of the registry. -/
def Range.isAddress (range : Range) : Bool :=
  range.text.any fun c => c == ':' || c == '/'

theorem Range.isRangeChar_of_mem (range : Range) {c : Char} (member : c ∈ range.text) :
    isRangeChar c = true :=
  List.all_eq_true.mp range.clean c member

namespace Name

variable (name : Name)

theorem isNameChar_of_mem {c : Char} (member : c ∈ name.text) : isNameChar c = true :=
  List.all_eq_true.mp name.clean c member

theorem exists_cons : ∃ c rest, name.text = c :: rest ∧ isNameChar c = true ∧ '@' ∉ rest ∧
    c ≠ '#' := by
  obtain ⟨c, rest, cut⟩ := List.exists_cons_of_ne_nil name.nonempty
  have clean : isNameChar c = true := name.isNameChar_of_mem (by simp [cut])
  have undivided := name.undivided
  have uncommented := name.uncommented
  rw [cut] at undivided uncommented
  exact ⟨c, rest, cut, clean, undivided, by simpa using uncommented⟩

theorem isBlank_eq_false {c : Char} (member : c ∈ name.text) : isBlank c = false := by
  have clean := name.isNameChar_of_mem member
  simp only [isNameChar, Bool.and_eq_true, Bool.not_eq_true'] at clean
  exact clean.1.1.1

theorem isRangeChar_of_mem {c : Char} (member : c ∈ name.text) : isRangeChar c = true := by
  have clean := name.isNameChar_of_mem member
  have unbroken : isLineBreak c = false :=
    Text.isLine_of_not_isBlank (fun _ => name.isBlank_eq_false) c member
  simp only [isNameChar, Bool.and_eq_true, Bool.not_eq_true'] at clean
  simp [isRangeChar, unbroken, clean.1.1.2, clean.2]

theorem isEdge_eq_false_of_mem {c : Char} (member : c ∈ name.text) : isEdge c = false := by
  refine isEdge_eq_false_iff.mpr ⟨name.isBlank_eq_false member, ?_⟩
  rintro rfl
  cases name.isNameChar_of_mem member

/-- Nothing is taken off a package name. -/
def bareName : BareName where
  text := name.text
  nonempty := name.nonempty
  undivided := name.undivided
  first := by
    cases begins : name.text.head? with
    | none => simp [beginsPlain, begins]
    | some c => simp [beginsPlain, begins, name.isEdge_eq_false_of_mem (List.mem_of_head? begins)]
  last := by
    cases ends : name.text.getLast? with
    | none => simp [endsPlain, ends]
    | some c => simp [endsPlain, ends, name.isEdge_eq_false_of_mem (List.mem_of_getLast? ends)]

/-- The registry holds a name with every range that is no address. -/
theorem map_held (range : Range) :
    (held name.text range.text).map String.ofList =
      (if range.isAddress then none else some name).map (String.ofList ·.text) := by
  cases address : range.isAddress with
  | true =>
      have away : ¬ IsHome range.text := by
        rw [← any_eq_false_iff_isHome, ← Range.isAddress, address]
        simp
      rw [held, if_neg away]
      rfl
  | false =>
      rw [held, if_pos (any_eq_false_iff_isHome.mp address)]
      rfl

end Name

/-! ## References -/

/-- What a descriptor refers to: a range of its own package, or another package. -/
inductive Reference where
  | own (range : Range) (plain : ¬ npmProtocol <+: range.text := by decide)
  | renamed (name : Name) (range : Range)
  | renamedOnly (name : Name)

namespace Reference

/-- The text behind the at sign. -/
def text : Reference → List Char
  | own range _ => range.text
  | renamed name range => npmProtocol ++ (name.text ++ '@' :: range.text)
  | renamedOnly name => npmProtocol ++ name.text

/-- The package that the registry holds for a reference of a name. -/
def package? (name : Name) : Reference → Option Name
  | own range _ => if range.isAddress then none else some name
  | renamed real range => if range.isAddress then none else some real
  | renamedOnly real => some real

theorem isRangeChar_of_mem {reference : Reference} {c : Char} (member : c ∈ reference.text) :
    isRangeChar c = true := by
  have protocol : npmProtocol.all isRangeChar = true := by decide
  cases reference with
  | own range plain => exact range.isRangeChar_of_mem member
  | renamed name range =>
      rcases List.mem_append.mp member with inProtocol | inTarget
      · exact List.all_eq_true.mp protocol c inProtocol
      rcases List.mem_append.mp inTarget with inName | inRange
      · exact name.isRangeChar_of_mem inName
      rcases List.mem_cons.mp inRange with rfl | within
      · decide
      · exact range.isRangeChar_of_mem within
  | renamedOnly name =>
      rcases List.mem_append.mp member with inProtocol | inName
      · exact List.all_eq_true.mp protocol c inProtocol
      · exact name.isRangeChar_of_mem inName

end Reference

/-! ## Descriptors -/

/-- A name with its reference. -/
structure Descriptor where
  name : Name
  reference : Reference

namespace Descriptor

/-- A descriptor as a text. -/
def text (descriptor : Descriptor) : List Char :=
  descriptor.name.text ++ '@' :: descriptor.reference.text

/-- The package that the registry holds for a descriptor. -/
def package? (descriptor : Descriptor) : Option Name :=
  descriptor.reference.package? descriptor.name

variable (descriptor : Descriptor)

theorem isRangeChar_of_mem {c : Char} (member : c ∈ descriptor.text) : isRangeChar c = true := by
  rcases List.mem_append.mp member with inName | inReference
  · exact descriptor.name.isRangeChar_of_mem inName
  rcases List.mem_cons.mp inReference with rfl | within
  · decide
  · exact Reference.isRangeChar_of_mem within

theorem quote_not_mem : '"' ∉ descriptor.text := by
  intro member
  cases descriptor.isRangeChar_of_mem member

/-- A descriptor is read as the package that it was written for. -/
theorem registryName_text :
    registryName (String.ofList descriptor.text) =
      .ok (descriptor.package?.map (String.ofList ·.text)) := by
  obtain ⟨name, reference⟩ := descriptor
  cases reference with
  | own range plain =>
      have read := registryName_own name.bareName plain
      exact read.trans (congrArg Except.ok (name.map_held range))
  | renamed real range =>
      have read := registryName_renamed name.bareName real.bareName range.text
      exact read.trans (congrArg Except.ok (real.map_held range))
  | renamedOnly real => exact registryName_renamedOnly name.bareName real.bareName

end Descriptor

/-! ## Quotes around descriptors -/

/-- A text in quotes or without. -/
def labelled (quoted : Bool) (text : List Char) : List Char :=
  if quoted then '"' :: (text ++ ['"']) else text

theorem forall_mem_labelled {holds : Char → Prop} {text : List Char} (quote : holds '"')
    (within : ∀ c ∈ text, holds c) (quoted : Bool) : ∀ c ∈ labelled quoted text, holds c := by
  intro c member
  cases quoted with
  | true =>
      simp only [labelled, if_true, List.mem_cons, List.mem_append, List.not_mem_nil,
        or_false] at member
      rcases member with rfl | inText | rfl
      · exact quote
      · exact within c inText
      · exact quote
  | false => exact within c member

/-- What is alike without blanks and quotes at its ends is read alike. -/
theorem registryName_congr {first second : String}
    (alike : bare first.toList = bare second.toList) :
    registryName first = registryName second := by
  simp only [registryName, splitDescriptor, alike]

/-- With or without quotes, a descriptor is read as the package that it was written for. -/
theorem Descriptor.registryName_bare_labelled (descriptor : Descriptor) (quoted : Bool) :
    registryName (String.ofList (bare (labelled quoted descriptor.text))) =
      .ok (descriptor.package?.map (String.ofList ·.text)) := by
  have unquoted := descriptor.quote_not_mem
  rw [← descriptor.registryName_text]
  cases quoted with
  | true => rw [labelled, if_pos rfl, bare_quoted unquoted]
  | false =>
      apply registryName_congr
      rw [String.toList_ofList, String.toList_ofList]
      exact bare_bare unquoted

end GuardedInstall.Lockfile
