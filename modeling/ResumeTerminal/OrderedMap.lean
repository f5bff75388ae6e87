/-! String-keyed maps that remember the order in which keys first arrived. Storing
under a known key replaces the value and leaves the key where it stands. -/
namespace ResumeTerminal

structure OrderedMap (α : Type) where
  entries : List (String × α) := []

namespace OrderedMap
variable {α : Type}

def put (key : String) (value : α) : List (String × α) → List (String × α)
  | [] => [(key, value)]
  | (k, v) :: rest => if k = key then (k, value) :: rest else (k, v) :: put key value rest

theorem lookup_put_self (key : String) (value : α) (entries : List (String × α)) :
    (put key value entries).lookup key = some value := by
  induction entries with
  | nil => simp [put]
  | cons entry rest ih =>
    obtain ⟨k, v⟩ := entry
    by_cases h : k = key
    · simp [put, h]
    · simp [put, h, List.lookup_cons, beq_false_of_ne (Ne.symm h), ih]

theorem lookup_put_of_ne {key other : String} (h : other ≠ key) (value : α)
    (entries : List (String × α)) :
    (put key value entries).lookup other = entries.lookup other := by
  induction entries with
  | nil => simp [put, List.lookup_cons, beq_false_of_ne h]
  | cons entry rest ih =>
    obtain ⟨k, v⟩ := entry
    by_cases hk : k = key
    · simp [put, hk, List.lookup_cons, beq_false_of_ne h]
    · simp [put, hk, List.lookup_cons, ih]

/-- A new key comes last, and a known one changes no place. -/
theorem keys_put (key : String) (value : α) (entries : List (String × α)) :
    (put key value entries).map (·.1) =
      if key ∈ entries.map (·.1) then entries.map (·.1) else entries.map (·.1) ++ [key] := by
  induction entries with
  | nil => rfl
  | cons entry rest ih =>
    by_cases h : entry.1 = key
    · simp [put, h]
    · simp only [put, h, if_false, List.map_cons, ih, List.mem_cons, Ne.symm h, false_or]
      split <;> rfl

def empty : OrderedMap α := {}

def insert (map : OrderedMap α) (key : String) (value : α) : OrderedMap α :=
  ⟨put key value map.entries⟩

def ofList (members : List (String × α)) : OrderedMap α :=
  members.foldl (fun map (key, value) => map.insert key value) empty

def keys (map : OrderedMap α) : List String := map.entries.map (·.1)

def get? (map : OrderedMap α) (key : String) : Option α := map.entries.lookup key

/-- The place of a key among the keys. -/
def slot? (map : OrderedMap α) (key : String) : Option Nat := map.keys.findIdx? (· == key)

def size (map : OrderedMap α) : Nat := map.entries.length

def isEmpty (map : OrderedMap α) : Bool := map.entries.isEmpty

@[simp] theorem get?_insert_self (map : OrderedMap α) (key : String) (value : α) :
    (map.insert key value).get? key = some value :=
  lookup_put_self key value map.entries

theorem get?_insert_of_ne (map : OrderedMap α) {key other : String} (h : other ≠ key)
    (value : α) : (map.insert key value).get? other = map.get? other :=
  lookup_put_of_ne h value map.entries

theorem keys_insert (map : OrderedMap α) (key : String) (value : α) :
    (map.insert key value).keys = if key ∈ map.keys then map.keys else map.keys ++ [key] :=
  keys_put key value map.entries

end OrderedMap
end ResumeTerminal
