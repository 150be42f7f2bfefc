/-!
# Tables that remember the order of their keys

A table is a list of pairs. Writing to a key that is present replaces the
value where it stands; a new key goes to the end.
-/

namespace GuardedInstall.Table

variable {κ α : Type} [DecidableEq κ]

/-- The value at a key. -/
def find? (key : κ) : List (κ × α) → Option α
  | [] => none
  | (present, value) :: rest => if present = key then some value else find? key rest

/-- Write a value to a key. -/
def put (key : κ) (value : α) : List (κ × α) → List (κ × α)
  | [] => [(key, value)]
  | (present, old) :: rest =>
      if present = key then (present, value) :: rest else (present, old) :: put key value rest

/-- The table of a sequence of writes. -/
def ofList (writes : List (κ × α)) : List (κ × α) :=
  writes.foldl (fun table write => put write.1 write.2 table) []

@[simp]
theorem find?_put_self (key : κ) (value : α) (table : List (κ × α)) :
    find? key (put key value table) = some value := by
  induction table with
  | nil => simp [put, find?]
  | cons entry rest ih =>
      obtain ⟨present, old⟩ := entry
      by_cases same : present = key <;> simp [put, find?, same, ih]

theorem find?_put_of_ne {key other : κ} (ne : other ≠ key) (value : α)
    (table : List (κ × α)) :
    find? other (put key value table) = find? other table := by
  induction table with
  | nil => simp [put, find?, Ne.symm ne]
  | cons entry rest ih =>
      obtain ⟨present, old⟩ := entry
      by_cases same : present = key
      · subst same
        simp [put, find?, Ne.symm ne]
      · by_cases hit : present = other
        · subst hit
          simp [put, find?, same]
        · simp [put, find?, same, hit, ih]

/-- Writing what is there changes nothing. -/
theorem put_of_find? {key : κ} {value : α} {table : List (κ × α)}
    (found : find? key table = some value) : put key value table = table := by
  induction table with
  | nil => simp [find?] at found
  | cons entry rest ih =>
      obtain ⟨present, old⟩ := entry
      by_cases same : present = key <;> simp_all [put, find?]

/-- A new key goes to the end. -/
theorem put_of_not_mem {key : κ} (value : α) {table : List (κ × α)}
    (new : key ∉ table.map (·.1)) : put key value table = table ++ [(key, value)] := by
  induction table with
  | nil => rfl
  | cons entry rest ih =>
      obtain ⟨present, old⟩ := entry
      obtain ⟨ne, later⟩ := not_or.mp (mt List.mem_cons.mpr new)
      rw [put, if_neg (Ne.symm ne), ih later]
      rfl

/-- Writes to different keys are the table that they make. -/
theorem ofList_eq_self {writes : List (κ × α)} (distinct : (writes.map (·.1)).Nodup) :
    ofList writes = writes := by
  have all (table : List (κ × α)) (apart : ((table ++ writes).map (·.1)).Nodup) :
      writes.foldl (fun table write => put write.1 write.2 table) table = table ++ writes := by
    induction writes generalizing table with
    | nil => simp
    | cons write rest ih =>
        have new : write.1 ∉ table.map (·.1) := by
          rw [List.map_append, List.nodup_append] at apart
          intro member
          exact apart.2.2 _ member _ List.mem_cons_self rfl
        have joined : table ++ write :: rest = table ++ [write] ++ rest := by simp
        rw [List.foldl_cons, put_of_not_mem write.2 new, joined]
        exact ih (List.nodup_cons.mp distinct).2 _ (joined ▸ apart)
  exact all [] distinct

/-- Where no key comes twice, every entry is found at its key. -/
theorem find?_of_mem {key : κ} {value : α} {table : List (κ × α)}
    (distinct : (table.map (·.1)).Nodup) (present : (key, value) ∈ table) :
    find? key table = some value := by
  induction table with
  | nil => cases present
  | cons entry rest ih =>
      obtain ⟨first, old⟩ := entry
      obtain ⟨new, later⟩ := List.nodup_cons.mp distinct
      rcases List.mem_cons.mp present with same | behind
      · cases same
        simp [find?]
      · have ne : first ≠ key := by
          rintro rfl
          exact new (List.mem_map.mpr ⟨_, behind, rfl⟩)
        rw [find?, if_neg ne, ih later behind]

theorem find?_of_not_mem {key : κ} {table : List (κ × α)} (absent : key ∉ table.map (·.1)) :
    find? key table = none := by
  induction table with
  | nil => rfl
  | cons entry rest ih =>
      obtain ⟨first, old⟩ := entry
      obtain ⟨ne, later⟩ := not_or.mp (mt List.mem_cons.mpr absent)
      rw [find?, if_neg (Ne.symm ne), ih later]

end GuardedInstall.Table
