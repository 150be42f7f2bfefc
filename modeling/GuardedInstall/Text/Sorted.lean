import GuardedInstall.Text.Half

/-!
# Sets of strings in order

A set of strings is written in the order of its members' code points, each
member once. A half counts with its own number.
-/

namespace GuardedInstall.Text.Sorted

/-- Put a string in its place, unless it is there already. -/
def insert (text : String) : List String → List String
  | [] => [text]
  | next :: rest =>
      if Half.codes text < Half.codes next then text :: next :: rest
      else if text = next then next :: rest
      else next :: insert text rest

/-- The members of a list of strings, in order and each once. -/
def ofList (texts : List String) : List String :=
  texts.foldr insert []

theorem mem_insert_iff {text other : String} {members : List String} :
    other ∈ insert text members ↔ other = text ∨ other ∈ members := by
  induction members with
  | nil => simp [insert]
  | cons next rest ih =>
      simp only [insert]
      split
      · simp
      · split
        · rename_i same
          subst same
          simp
        · simp only [List.mem_cons, ih]
          exact or_left_comm

/-- Nothing is lost and nothing is added. -/
@[simp]
theorem mem_ofList_iff {text : String} {texts : List String} :
    text ∈ ofList texts ↔ text ∈ texts := by
  induction texts with
  | nil => simp [ofList]
  | cons first rest ih =>
      rw [show ofList (first :: rest) = insert first (ofList rest) from rfl, mem_insert_iff, ih,
        List.mem_cons]

end GuardedInstall.Text.Sorted
