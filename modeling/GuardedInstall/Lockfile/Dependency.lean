/-!
# Dependencies

A dependency is one resolved package. A set of dependencies keeps the order in
which they were found.
-/

namespace GuardedInstall.Lockfile

/-- The registry that packages come from. -/
def npmRegistry : String := "npm"

/-- One resolved package. -/
structure Dependency where
  name : String
  version : String
  registry : String := npmRegistry
  deriving DecidableEq, Repr

/-- Keep the first occurrence of each member of a list. -/
def withoutRepeats {α : Type} [DecidableEq α] (seen : List α) : List α → List α
  | [] => []
  | item :: rest =>
      if item ∈ seen then withoutRepeats seen rest
      else item :: withoutRepeats (item :: seen) rest

theorem mem_withoutRepeats_iff {α : Type} [DecidableEq α] {seen items : List α} {item : α} :
    item ∈ withoutRepeats seen items ↔ item ∈ items ∧ item ∉ seen := by
  induction items generalizing seen with
  | nil => simp [withoutRepeats]
  | cons first rest ih =>
      simp only [withoutRepeats]
      split
      · rename_i present
        rw [ih]
        constructor
        · rintro ⟨inRest, notSeen⟩
          exact ⟨List.mem_cons_of_mem _ inRest, notSeen⟩
        · rintro ⟨inItems, notSeen⟩
          refine ⟨?_, notSeen⟩
          rcases List.mem_cons.mp inItems with rfl | inRest
          · exact absurd present notSeen
          · exact inRest
      · rename_i absent
        rw [List.mem_cons, ih]
        constructor
        · rintro (rfl | ⟨inRest, notSeen⟩)
          · exact ⟨List.mem_cons_self, absent⟩
          · exact ⟨List.mem_cons_of_mem _ inRest, fun inSeen =>
              notSeen (List.mem_cons_of_mem _ inSeen)⟩
        · rintro ⟨inItems, notSeen⟩
          by_cases same : item = first
          · exact Or.inl same
          · refine Or.inr ⟨?_, ?_⟩
            · rcases List.mem_cons.mp inItems with found | inRest
              · exact absurd found same
              · exact inRest
            · intro inSeen
              rcases List.mem_cons.mp inSeen with found | inSeen
              · exact same found
              · exact notSeen inSeen

end GuardedInstall.Lockfile
