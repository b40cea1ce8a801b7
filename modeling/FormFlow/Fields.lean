/-!
# Named fields

Objects and contexts map names to values. They are lists of entries in ascending order of the names
(by code point), which is the order every traversal shows. The order is a predicate beside the data,
`Fields.Sorted`: lookups and updates have the same laws on every list of entries, and the operations
keep a sorted list sorted.
-/

namespace FormFlow

/-- Entries of a map from names to values. -/
abbrev Fields (α : Type) := List (String × α)

namespace Fields

variable {α : Type}

/-- The names in strictly ascending order, so that none occurs twice. -/
def Sorted (fields : Fields α) : Prop :=
  fields.Pairwise (fun a b => a.1 < b.1)

/-- The value of a name: that of the first entry which carries it. -/
def get? (fields : Fields α) (name : String) : Option α :=
  match fields with
  | [] => none
  | (key, value) :: rest => if key = name then some value else get? rest name

/-- Give `name` a value, in place of the one it had or at its place in the order. -/
def insert (fields : Fields α) (name : String) (value : α) : Fields α :=
  match fields with
  | [] => [(name, value)]
  | (key, old) :: rest =>
      if key = name then (name, value) :: rest
      else if name < key then (name, value) :: (key, old) :: rest
      else (key, old) :: insert rest name value

/-- All entries of `newer` written over `fields`, from left to right. -/
def extend (fields newer : Fields α) : Fields α :=
  newer.foldl (fun acc entry => acc.insert entry.1 entry.2) fields

/-- Entries in any order put into ascending order; of two with one name the later stays. -/
def ofList (entries : List (String × α)) : Fields α :=
  extend [] entries

def keys (fields : Fields α) : List String :=
  fields.map Prod.fst

@[simp] theorem get?_nil (name : String) : get? ([] : Fields α) name = none := rfl

theorem get?_cons (key : String) (value : α) (rest : Fields α) (name : String) :
    get? ((key, value) :: rest) name = if key = name then some value else get? rest name := rfl

theorem get?_eq_none {fields : Fields α} {name : String}
    (habsent : ∀ entry ∈ fields, entry.1 ≠ name) : fields.get? name = none := by
  induction fields with
  | nil => rfl
  | cons entry rest ih =>
      obtain ⟨key, value⟩ := entry
      obtain ⟨hfirst, hothers⟩ := List.forall_mem_cons.mp habsent
      rw [get?_cons, if_neg hfirst, ih hothers]

@[simp] theorem get?_insert_self (fields : Fields α) (name : String) (value : α) :
    (fields.insert name value).get? name = some value := by
  induction fields with
  | nil => simp [insert, get?]
  | cons entry rest ih =>
      obtain ⟨key, old⟩ := entry
      by_cases hsame : key = name
      · simp [insert, get?, hsame]
      · by_cases hbefore : name < key <;> simp [insert, get?, hsame, hbefore, ih]

theorem get?_insert_of_ne (fields : Fields α) {name other : String} (value : α)
    (hdifferent : other ≠ name) : (fields.insert name value).get? other = fields.get? other := by
  induction fields with
  | nil => simp [insert, get?, hdifferent.symm]
  | cons entry rest ih =>
      obtain ⟨key, old⟩ := entry
      by_cases hsame : key = name
      · subst hsame
        simp [insert, get?, hdifferent.symm]
      · by_cases hbefore : name < key
        · simp [insert, get?, hsame, hbefore, hdifferent.symm]
        · simp [insert, get?, hsame, hbefore, ih]

theorem get?_insert (fields : Fields α) (name other : String) (value : α) :
    (fields.insert name value).get? other =
      if other = name then some value else fields.get? other := by
  by_cases hsame : other = name
  · simp [hsame]
  · simp [hsame, get?_insert_of_ne fields value hsame]

/-- Every entry after an insertion is the new one or was there before. -/
theorem mem_insert {fields : Fields α} {name : String} {value : α} {entry : String × α}
    (hmem : entry ∈ fields.insert name value) : entry = (name, value) ∨ entry ∈ fields := by
  induction fields with
  | nil => simpa [insert] using hmem
  | cons first rest ih =>
      obtain ⟨key, old⟩ := first
      unfold insert at hmem
      split at hmem
      · rcases List.mem_cons.mp hmem with rfl | hlater
        · exact .inl rfl
        · exact .inr (List.mem_cons_of_mem _ hlater)
      · split at hmem
        · rcases List.mem_cons.mp hmem with rfl | hlater
          · exact .inl rfl
          · exact .inr hlater
        · rcases List.mem_cons.mp hmem with rfl | hlater
          · exact .inr (List.mem_cons_self ..)
          · exact (ih hlater).imp id (List.mem_cons_of_mem _)

/-- Insertion keeps the names in order. -/
theorem Sorted.insert {fields : Fields α} (sorted : fields.Sorted) (name : String) (value : α) :
    (fields.insert name value).Sorted := by
  induction fields with
  | nil => exact List.pairwise_singleton _ _
  | cons first rest ih =>
      obtain ⟨key, old⟩ := first
      obtain ⟨habove, htail⟩ := List.pairwise_cons.mp sorted
      unfold Fields.insert
      split
      next hsame => exact List.pairwise_cons.mpr ⟨hsame ▸ habove, htail⟩
      next hdifferent =>
        split
        next hbefore =>
          refine List.pairwise_cons.mpr ⟨fun entry hmem => ?_, sorted⟩
          rcases List.mem_cons.mp hmem with rfl | hlater
          · exact hbefore
          · exact String.lt_trans hbefore (habove entry hlater)
        next hnotBefore =>
          refine List.pairwise_cons.mpr ⟨fun entry hmem => ?_, ih htail⟩
          rcases mem_insert hmem with rfl | hold
          · by_cases hafter : key < name
            · exact hafter
            · exact absurd (String.le_antisymm (String.not_lt.mp hnotBefore)
                (String.not_lt.mp hafter)) hdifferent
          · exact habove entry hold

/-- Of entries that are written over others, each name keeps what is written for it. -/
theorem get?_extend {newer : Fields α} (sorted : newer.Sorted) (fields : Fields α)
    (name : String) :
    (fields.extend newer).get? name = (newer.get? name).or (fields.get? name) := by
  induction newer generalizing fields with
  | nil => rfl
  | cons entry rest ih =>
      obtain ⟨key, value⟩ := entry
      obtain ⟨habove, htail⟩ := List.pairwise_cons.mp sorted
      have hlater : (fields.extend ((key, value) :: rest)).get? name =
          (get? rest name).or ((fields.insert key value).get? name) := ih htail _
      by_cases hsame : key = name
      · subst hsame
        have habsent : get? rest key = none :=
          get?_eq_none fun entry hmem => (String.ne_of_lt (habove entry hmem)).symm
        rw [hlater, habsent, get?_insert_self, get?_cons, if_pos rfl]
        rfl
      · rw [hlater, get?_insert_of_ne fields value fun h => hsame h.symm, get?_cons, if_neg hsame]

theorem Sorted.extend {fields : Fields α} (sorted : fields.Sorted) (newer : Fields α) :
    (fields.extend newer).Sorted := by
  unfold Fields.extend
  induction newer generalizing fields with
  | nil => exact sorted
  | cons entry rest ih => exact ih (sorted.insert entry.1 entry.2)

theorem sorted_ofList (entries : List (String × α)) : (ofList entries).Sorted :=
  Sorted.extend List.Pairwise.nil entries

end Fields

end FormFlow
