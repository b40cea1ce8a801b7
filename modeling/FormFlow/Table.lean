/-!
# Tables of keyed rows

A table holds rows that carry their own key, at most one row per key. Putting a row replaces the row
of its key in place or appends it, so rows stay in the order in which their keys first arrived.
-/

namespace FormFlow

/-- Rows of type `α` are told apart by a key of type `κ` that they carry. -/
class Keyed (α : Type) (κ : outParam Type) where
  key : α → κ

/-- Rows in the order in which their keys first arrived. -/
structure Table (α : Type) where
  rows : List α

namespace Table

variable {α κ : Type} [Keyed α κ] [DecidableEq κ]

def empty : Table α := ⟨[]⟩

/-- The row of a key. -/
def get? (table : Table α) (key : κ) : Option α :=
  table.rows.find? fun row => Keyed.key row = key

/-- The rows after `row` has taken the place of the row with its key, or the last place. -/
def putRow (row : α) : List α → List α
  | [] => [row]
  | old :: rest => if Keyed.key old = Keyed.key row then row :: rest else old :: putRow row rest

/-- Store a row under its key. -/
def put (table : Table α) (row : α) : Table α :=
  ⟨putRow row table.rows⟩

/-- No two rows share a key. -/
def Distinct (table : Table α) : Prop :=
  (table.rows.map Keyed.key).Nodup

omit [DecidableEq κ] in
@[simp] theorem get?_empty [DecidableEq κ] (key : κ) : (empty : Table α).get? key = none := rfl

@[simp] theorem get?_put_self (table : Table α) (row : α) :
    (table.put row).get? (Keyed.key row) = some row := by
  simp only [get?, put]
  induction table.rows with
  | nil => simp [putRow]
  | cons old rest ih =>
      by_cases hsame : Keyed.key old = Keyed.key row <;> simp [putRow, hsame, ih]

theorem get?_put_of_ne (table : Table α) (row : α) {key : κ} (hdifferent : key ≠ Keyed.key row) :
    (table.put row).get? key = table.get? key := by
  simp only [get?, put]
  induction table.rows with
  | nil => simp [putRow, hdifferent.symm]
  | cons old rest ih =>
      by_cases hsame : Keyed.key old = Keyed.key row
      · simp [putRow, hsame, hdifferent.symm]
      · simp [putRow, hsame, List.find?_cons, ih]

theorem get?_put (table : Table α) (row : α) (key : κ) :
    (table.put row).get? key = if key = Keyed.key row then some row else table.get? key := by
  by_cases hsame : key = Keyed.key row
  · simp [hsame]
  · simp [hsame, get?_put_of_ne table row hsame]

/-- A row that is found carries the key that was asked for. -/
theorem key_of_get? {table : Table α} {key : κ} {row : α} (h : table.get? key = some row) :
    Keyed.key row = key := by
  simpa using List.find?_some h

/-- Of two rows put under one key, only the second is left. -/
theorem put_put (table : Table α) {first second : α} (hsame : Keyed.key first = Keyed.key second) :
    (table.put first).put second = table.put second := by
  simp only [put, mk.injEq]
  induction table.rows with
  | nil => simp [putRow, hsame]
  | cons old rest ih =>
      by_cases hhere : Keyed.key old = Keyed.key second
      · simp [putRow, hsame, hhere]
      · simp [putRow, hsame, hhere, ih]

/-- Putting back the row that is found under its key changes nothing. -/
theorem put_of_get? {table : Table α} {row : α} (h : table.get? (Keyed.key row) = some row) :
    table.put row = table := by
  obtain ⟨rows⟩ := table
  simp only [put, get?, mk.injEq] at h ⊢
  induction rows with
  | nil => simp at h
  | cons old rest ih =>
      by_cases hhere : Keyed.key old = Keyed.key row
      · simp only [List.find?_cons, hhere, decide_true, Option.some.injEq] at h
        simp [putRow, h]
      · simp only [List.find?_cons, hhere, decide_false] at h
        simp [putRow, hhere, ih h]

theorem get?_put_comm (table : Table α) {first second : α}
    (hdifferent : Keyed.key first ≠ Keyed.key second) (key : κ) :
    ((table.put first).put second).get? key = ((table.put second).put first).get? key := by
  simp only [get?_put]
  by_cases hhere : key = Keyed.key first
  · simp [hhere, hdifferent]
  · simp [hhere]

/-- Rows of different keys can be put in either order, if there is a row of the first key. -/
theorem put_comm (table : Table α) {first second : α}
    (hdifferent : Keyed.key first ≠ Keyed.key second)
    (hknown : (table.get? (Keyed.key first)).isSome) :
    (table.put first).put second = (table.put second).put first := by
  obtain ⟨rows⟩ := table
  simp only [put, get?, mk.injEq] at hknown ⊢
  induction rows with
  | nil => simp at hknown
  | cons old rest ih =>
      by_cases hhere : Keyed.key old = Keyed.key first
      · simp [putRow, hhere, hdifferent]
      · by_cases hthere : Keyed.key old = Keyed.key second
        · simp [putRow, hthere, hdifferent.symm]
        · simp only [List.find?_cons, hhere, decide_false] at hknown
          simp [putRow, hhere, hthere, ih hknown]

/-- Rows of different keys put in either order are the same rows. -/
theorem put_put_perm (table : Table α) {first second : α}
    (hdifferent : Keyed.key first ≠ Keyed.key second) :
    ((table.put first).put second).rows.Perm ((table.put second).put first).rows := by
  simp only [put]
  induction table.rows with
  | nil => simpa [putRow, hdifferent, hdifferent.symm] using List.Perm.swap second first []
  | cons old rest ih =>
      by_cases hhere : Keyed.key old = Keyed.key first
      · simp [putRow, hhere, hdifferent]
      · by_cases hthere : Keyed.key old = Keyed.key second
        · simp [putRow, hthere, hdifferent.symm]
        · simpa [putRow, hhere, hthere] using ih

/-- The keys after a row has been put: the same ones, or one more at the end. -/
theorem keys_putRow (row : α) (rows : List α) :
    (putRow row rows).map Keyed.key =
      if Keyed.key row ∈ rows.map Keyed.key then rows.map Keyed.key
      else rows.map Keyed.key ++ [Keyed.key row] := by
  induction rows with
  | nil => simp [putRow]
  | cons old rest ih =>
      by_cases hsame : Keyed.key old = Keyed.key row
      · simp [putRow, hsame]
      · have hother : ¬Keyed.key row = Keyed.key old := fun h => hsame h.symm
        by_cases hknown : Keyed.key row ∈ rest.map Keyed.key
        · simp only [putRow, hsame, if_false, List.map_cons, ih, hknown, if_true, List.mem_cons,
            or_true]
        · simp only [putRow, hsame, if_false, List.map_cons, ih, hknown, List.mem_cons, hother,
            or_false, List.cons_append]

/-- A row of a new key is put in the last place. -/
theorem rows_put_of_absent {table : Table α} {row : α}
    (habsent : table.get? (Keyed.key row) = none) : (table.put row).rows = table.rows ++ [row] := by
  obtain ⟨rows⟩ := table
  simp only [put, get?] at habsent ⊢
  induction rows with
  | nil => rfl
  | cons old rest ih =>
      by_cases hsame : Keyed.key old = Keyed.key row
      · simp [hsame] at habsent
      · simp only [List.find?_cons, hsame, decide_false] at habsent
        rw [putRow, if_neg hsame, ih habsent, List.cons_append]

/-- A row that takes the place of one which is the same in some respect changes nothing in it. -/
theorem map_rows_put {β : Type} {table : Table α} {row old : α} (f : α → β)
    (hknown : table.get? (Keyed.key row) = some old) (hsame : f row = f old) :
    (table.put row).rows.map f = table.rows.map f := by
  obtain ⟨rows⟩ := table
  simp only [put, get?] at hknown ⊢
  induction rows with
  | nil => cases hknown
  | cons first rest ih =>
      by_cases hhere : Keyed.key first = Keyed.key row
      · simp only [List.find?_cons, hhere, decide_true, Option.some.injEq] at hknown
        rw [putRow, if_pos hhere, List.map_cons, List.map_cons, hsame, hknown]
      · simp only [List.find?_cons, hhere, decide_false] at hknown
        rw [putRow, if_neg hhere, List.map_cons, List.map_cons, ih hknown]

/-- Putting a row keeps keys apart. -/
theorem Distinct.put {table : Table α} (distinct : table.Distinct) (row : α) :
    (table.put row).Distinct := by
  unfold Distinct Table.put at *
  rw [keys_putRow]
  split
  next => exact distinct
  next habsent =>
    refine List.nodup_append.mpr ⟨distinct, List.nodup_cons.mpr ⟨by simp, List.nodup_nil⟩, ?_⟩
    intro key hmem other hmemOther hsame
    obtain rfl : other = Keyed.key row := by simpa using hmemOther
    exact habsent (hsame ▸ hmem)

end Table

end FormFlow
