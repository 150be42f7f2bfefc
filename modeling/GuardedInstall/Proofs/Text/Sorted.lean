import GuardedInstall.Text.Sorted
import Mathlib.Data.List.Sort

/-!
# Texts in order

Texts are compared by the numbers of their characters, of which no two texts have the same. A
set of texts has therefore one list in order, whichever list it was taken from.
-/

namespace GuardedInstall.Text

namespace Half

theorem code_injective : Function.Injective code :=
  Function.LeftInverse.injective ofCode_code

theorem codes_injective : Function.Injective codes := by
  intro first second same
  exact String.toList_inj.mp (code_injective.list_map same)

end Half

namespace Sorted

/-- A text stands before another one. -/
def Precedes (first second : String) : Prop :=
  Half.codes first < Half.codes second

theorem Precedes.irrefl (text : String) : ¬ Precedes text text :=
  List.lt_irrefl _

theorem Precedes.trans {first second third : String} (left : Precedes first second)
    (right : Precedes second third) : Precedes first third :=
  List.lt_trans left right

/-- Of two texts one stands before the other. -/
theorem Precedes.of_not {first second : String} (behind : ¬ Precedes first second)
    (ne : first ≠ second) : Precedes second first := by
  rcases List.le_iff_lt_or_eq.mp (List.not_lt.mp behind) with before | same
  · exact before
  · exact absurd (Half.codes_injective same).symm ne

/-- Texts in order, each one once. -/
def Ascending (texts : List String) : Prop :=
  texts.Pairwise Precedes

theorem ascending_insert {text : String} {members : List String} (ascending : Ascending members) :
    Ascending (insert text members) := by
  induction members with
  | nil => exact List.pairwise_singleton _ _
  | cons next rest ih =>
      obtain ⟨least, later⟩ := List.pairwise_cons.mp ascending
      rw [insert]
      split
      · rename_i before
        refine List.pairwise_cons.mpr ⟨?_, ascending⟩
        intro other member
        rcases List.mem_cons.mp member with rfl | member
        · exact before
        · exact Precedes.trans before (least other member)
      · rename_i notBefore
        split
        · exact ascending
        · rename_i ne
          refine List.pairwise_cons.mpr ⟨?_, ih later⟩
          intro other member
          rcases mem_insert_iff.mp member with rfl | member
          · exact Precedes.of_not notBefore ne
          · exact least other member

theorem ascending_ofList (texts : List String) : Ascending (ofList texts) := by
  induction texts with
  | nil => exact List.Pairwise.nil
  | cons text rest ih => exact ascending_insert ih

/-- Lists in order with the same members are the same. -/
theorem Ascending.eq_of_mem_iff {first second : List String} (left : Ascending first)
    (right : Ascending second) (same : ∀ text, text ∈ first ↔ text ∈ second) : first = second := by
  have irrefl : Std.Irrefl Precedes := ⟨Precedes.irrefl⟩
  have antisymm : Std.Antisymm Precedes :=
    ⟨fun text other before behind => absurd (before.trans behind) (Precedes.irrefl text)⟩
  exact List.Pairwise.eq_of_mem_iff left right same

/-- What is put in order does not depend on the order that it comes in, nor on repetitions. -/
theorem ofList_congr {first second : List String}
    (same : ∀ text, text ∈ first ↔ text ∈ second) : ofList first = ofList second := by
  apply (ascending_ofList first).eq_of_mem_iff (ascending_ofList second)
  intro text
  rw [mem_ofList_iff, mem_ofList_iff, same]

example : ofList ["\ue000", String.ofList [Half.ofCode 0xD800], "z", "\ue000"] =
    ["z", String.ofList [Half.ofCode 0xD800], "\ue000"] := by
  decide +kernel

end Sorted

end GuardedInstall.Text
