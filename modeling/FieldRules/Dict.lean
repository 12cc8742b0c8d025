namespace FieldRules

/-- A dictionary that remembers the order in which its keys first came. -/
structure Dict (α : Type) where
  entries : List (String × α)
  keys_nodup : (entries.map Prod.fst).Nodup

namespace Dict

variable {α β : Type}

/-- Replaces the value under `key` in place, or adds the entry at the end. -/
def put (key : String) (value : α) : List (String × α) → List (String × α)
  | [] => [(key, value)]
  | (k, v) :: rest => if k = key then (key, value) :: rest else (k, v) :: put key value rest

theorem mem_keys_put {key k : String} {value : α} {l : List (String × α)} :
    k ∈ (put key value l).map Prod.fst ↔ k = key ∨ k ∈ l.map Prod.fst := by
  induction l with
  | nil => simp [put]
  | cons e rest ih =>
    simp only [put]
    split
    · next h => simp [h]
    · simp only [List.map_cons, List.mem_cons, ih]
      constructor <;> rintro (h | h | h) <;> simp [h]

theorem nodup_keys_put (key : String) (value : α) {l : List (String × α)}
    (h : (l.map Prod.fst).Nodup) : ((put key value l).map Prod.fst).Nodup := by
  induction l with
  | nil => simp [put]
  | cons e rest ih =>
    simp only [List.map_cons, List.nodup_cons] at h
    simp only [put]
    split
    · next hk => simpa [hk] using h
    · next hk =>
      simp only [List.map_cons, List.nodup_cons, mem_keys_put, not_or]
      exact ⟨⟨hk, h.1⟩, ih h.2⟩

theorem lookup_put (key k : String) (value : α) (l : List (String × α)) :
    (put key value l).lookup k = if k = key then some value else l.lookup k := by
  induction l with
  | nil => grind [put]
  | cons e rest ih => grind [put]

def empty : Dict α := ⟨[], List.nodup_nil⟩

instance : EmptyCollection (Dict α) := ⟨empty⟩

instance : Inhabited (Dict α) := ⟨empty⟩

def keys (d : Dict α) : List String := d.entries.map Prod.fst

def values (d : Dict α) : List α := d.entries.map Prod.snd

def size (d : Dict α) : Nat := d.entries.length

def isEmpty (d : Dict α) : Bool := d.entries.isEmpty

def get? (d : Dict α) (key : String) : Option α := d.entries.lookup key

def contains (d : Dict α) (key : String) : Bool := (d.get? key).isSome

def insert (d : Dict α) (key : String) (value : α) : Dict α :=
  ⟨put key value d.entries, nodup_keys_put key value d.keys_nodup⟩

/-- Inserts the pairs one after the other, so the last value of a repeated key stays. -/
def insertAll (d : Dict α) (pairs : List (String × α)) : Dict α :=
  pairs.foldl (fun d (key, value) => d.insert key value) d

def ofList (pairs : List (String × α)) : Dict α := empty.insertAll pairs

/-- Keeps the entries whose key is accepted. -/
def filterKeys (d : Dict α) (accept : String → Bool) : Dict α :=
  ⟨d.entries.filter fun e => accept e.1,
    (List.filter_sublist.map Prod.fst).nodup d.keys_nodup⟩

def erase (d : Dict α) (key : String) : Dict α := d.filterKeys (· != key)

/-- Changes each value and keeps the keys and their order. -/
def map (d : Dict α) (f : α → β) : Dict β :=
  ⟨d.entries.map fun e => (e.1, f e.2), by
    simpa [List.map_map, Function.comp_def] using d.keys_nodup⟩

@[simp]
theorem get?_empty (key : String) : (empty : Dict α).get? key = none := rfl

/-- No key stands for two values. -/
theorem get?_eq_some_iff (d : Dict α) (key : String) (value : α) :
    d.get? key = some value ↔ (key, value) ∈ d.entries := by
  obtain ⟨entries, hnodup⟩ := d
  show entries.lookup key = some value ↔ _
  induction entries with
  | nil => simp
  | cons e rest ih =>
    obtain ⟨k, v⟩ := e
    obtain ⟨hnew, hrest⟩ := List.nodup_cons.1 hnodup
    by_cases h : key = k
    · subst h
      have hother : (key, value) ∉ rest := fun hm => hnew (List.mem_map.2 ⟨_, hm, rfl⟩)
      simp [hother, eq_comm]
    · have hne : (key == k) = false := by simpa using h
      rw [List.lookup_cons, hne, ih hrest]
      simp [h]

theorem get?_insert (d : Dict α) (key k : String) (value : α) :
    (d.insert key value).get? k = if k = key then some value else d.get? k :=
  lookup_put key k value d.entries

theorem get?_filterKeys (d : Dict α) (accept : String → Bool) (k : String) :
    (d.filterKeys accept).get? k = if accept k then d.get? k else none := by
  simp only [get?, filterKeys]
  induction d.entries with
  | nil => simp
  | cons e rest ih =>
    obtain ⟨k', v'⟩ := e
    by_cases ha : accept k' <;> by_cases h : k = k' <;> grind

theorem get?_erase (d : Dict α) (key k : String) :
    (d.erase key).get? k = if k = key then none else d.get? k := by
  rw [erase, get?_filterKeys]
  by_cases h : k = key <;> simp [h]

theorem ext {d e : Dict α} (h : d.entries = e.entries) : d = e := by
  cases d; cases e; cases h; rfl

end Dict

end FieldRules
