/-! Tables: finite maps kept in the order in which their keys were first stored.

Storing under a key that is already there replaces its value and keeps its place. -/

namespace SchemaBeans

/-- A finite map as the list of its entries. -/
abbrev Table (α β : Type) := List (α × β)

namespace Table

variable {α β : Type} [DecidableEq α]

def get? : Table α β → α → Option β
  | [], _ => none
  | (k, v) :: rest, key => if k = key then some v else get? rest key

/-- Stores a value, replacing what the key held before. -/
def put : Table α β → α → β → Table α β
  | [], key, value => [(key, value)]
  | (k, v) :: rest, key, value =>
    if k = key then (k, value) :: rest else (k, v) :: put rest key value

def erase (t : Table α β) (key : α) : Table α β :=
  t.filter fun entry => entry.1 ≠ key

def contains (t : Table α β) (key : α) : Bool :=
  (t.get? key).isSome

/-- The table that results from storing entries one after the other. -/
def ofEntries (entries : List (α × β)) : Table α β :=
  entries.foldl (fun t entry => t.put entry.1 entry.2) []

@[simp]
theorem get?_nil (key : α) : get? ([] : Table α β) key = none := rfl

@[simp]
theorem get?_put_self (t : Table α β) (key : α) (value : β) :
    (t.put key value).get? key = some value := by
  induction t with
  | nil => simp [put, get?]
  | cons entry rest ih =>
    by_cases h : entry.1 = key <;> simp [put, get?, h, ih]

theorem get?_put_of_ne (t : Table α β) {key other : α} (value : β) (h : other ≠ key) :
    (t.put key value).get? other = t.get? other := by
  induction t with
  | nil => simp [put, get?, Ne.symm h]
  | cons entry rest ih =>
    by_cases hk : entry.1 = key
    · have : entry.1 ≠ other := hk ▸ Ne.symm h
      simp [put, get?, hk, Ne.symm h]
    · simp [put, get?, hk, ih]

@[simp]
theorem get?_erase_self (t : Table α β) (key : α) : (t.erase key).get? key = none := by
  induction t with
  | nil => rfl
  | cons entry rest ih =>
    by_cases h : entry.1 = key <;> simp_all [erase, get?]

theorem get?_erase_of_ne (t : Table α β) {key other : α} (h : other ≠ key) :
    (t.erase key).get? other = t.get? other := by
  induction t with
  | nil => rfl
  | cons entry rest ih =>
    by_cases hk : entry.1 = key
    · have : ¬key = other := Ne.symm h
      simp_all [erase, get?]
    · by_cases ho : entry.1 = other <;> simp_all [erase, get?]

theorem put_of_not_contains {t : Table α β} {key : α} (value : β) (h : t.contains key = false) :
    t.put key value = t ++ [(key, value)] := by
  induction t with
  | nil => rfl
  | cons entry rest ih =>
    by_cases hk : entry.1 = key
    · simp [contains, get?, hk] at h
    · simp_all [put, contains, get?]

theorem mem_of_get? {t : Table α β} {key : α} {value : β} (h : t.get? key = some value) : (key, value) ∈ t := by
  induction t with
  | nil => cases h
  | cons entry rest ih =>
    rw [get?] at h
    split at h
    · rename_i hk
      cases h
      rw [← hk]
      exact List.mem_cons_self
    · exact List.mem_cons_of_mem _ (ih h)

end Table

end SchemaBeans
