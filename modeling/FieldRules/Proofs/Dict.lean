import FieldRules.Dict
import Mathlib.Data.List.Induction

namespace FieldRules

theorem eraseDups_snoc (l : List String) (a : String) :
    (l ++ [a]).eraseDups = if a ∈ l then l.eraseDups else l.eraseDups ++ [a] := by
  have hsingle : [a].eraseDups = [a] := by simp [List.eraseDups_cons]
  rw [List.eraseDups_append]
  by_cases h : a ∈ l <;> simp [List.removeAll, h, hsingle]

theorem nodup_eraseDups (l : List String) : l.eraseDups.Nodup := by
  induction l using List.reverseRecOn with
  | nil => simp
  | append_singleton l a ih =>
    rw [eraseDups_snoc]
    split
    · exact ih
    · next h =>
      rw [List.nodup_append]
      refine ⟨ih, by simp, ?_⟩
      intro b hb c hc he
      rw [he, List.mem_singleton.1 hc, List.mem_eraseDups] at hb
      exact h hb

/-- What is put under a new key comes last. -/
theorem put_of_notMem {α : Type} {key : String} {l : List (String × α)}
    (h : key ∉ l.map Prod.fst) (value : α) : Dict.put key value l = l ++ [(key, value)] := by
  induction l with
  | nil => rfl
  | cons e rest ih =>
    rw [List.map_cons, List.mem_cons, not_or] at h
    rw [Dict.put, if_neg (Ne.symm h.1), ih h.2]
    rfl

theorem put_append {α : Type} {key : String} {front : List (String × α)}
    (h : key ∉ front.map Prod.fst) (old value : α) (back : List (String × α)) :
    Dict.put key value (front ++ (key, old) :: back) = front ++ (key, value) :: back := by
  induction front with
  | nil => simp [Dict.put]
  | cons e rest ih =>
    rw [List.map_cons, List.mem_cons, not_or] at h
    rw [List.cons_append, Dict.put, if_neg (Ne.symm h.1), ih h.2]
    rfl

/-- What is put under a key that is there takes its place. -/
theorem put_map {α : Type} {key : String} {keys : List String} (f : String → α)
    (hnodup : keys.Nodup) (h : key ∈ keys) (value : α) :
    Dict.put key value (keys.map fun k => (k, f k)) =
      keys.map fun k => (k, if k = key then value else f k) := by
  induction keys with
  | nil => simp at h
  | cons k rest ih =>
    obtain ⟨hnew, hrest⟩ := List.nodup_cons.1 hnodup
    by_cases hk : k = key
    · have hother : ∀ other ∈ rest, other ≠ key := fun other hm he => hnew (hk ▸ he ▸ hm)
      simpa [Dict.put, hk] using fun other hm he => absurd he (hother other hm)
    · simp [Dict.put, hk, ih hrest ((List.mem_cons.1 h).resolve_left (Ne.symm hk))]

namespace Dict

variable {α : Type}

/-- The value that pairs give to a key last. -/
def lastValue? (pairs : List (String × α)) (key : String) : Option α :=
  (pairs.filter (·.1 = key)).getLast?.map Prod.snd

theorem lastValue?_snoc (pairs : List (String × α)) (k key : String) (value : α) :
    lastValue? (pairs ++ [(k, value)]) key =
      if key = k then some value else lastValue? pairs key := by
  rw [lastValue?, lastValue?, List.filter_append]
  by_cases h : key = k
  · simp [h]
  · simp [h, Ne.symm h]

theorem insertAll_snoc (d : Dict α) (pairs : List (String × α)) (key : String) (value : α) :
    d.insertAll (pairs ++ [(key, value)]) = (d.insertAll pairs).insert key value := by
  simp [insertAll]

theorem get?_insertAll (d : Dict α) (pairs : List (String × α)) (key : String) :
    (d.insertAll pairs).get? key = (lastValue? pairs key).or (d.get? key) := by
  induction pairs using List.reverseRecOn with
  | nil => rfl
  | append_singleton pairs pair ih =>
    obtain ⟨k, value⟩ := pair
    rw [insertAll_snoc, get?_insert, ih, lastValue?_snoc]
    split <;> rfl

theorem get?_ofList (pairs : List (String × α)) (key : String) :
    (ofList pairs).get? key = lastValue? pairs key := by
  rw [ofList, get?_insertAll, get?_empty, Option.or_none]

/-- A key that is there keeps its place, and a new one comes last. -/
theorem keys_put (key : String) (value : α) (l : List (String × α)) :
    (put key value l).map Prod.fst =
      if key ∈ l.map Prod.fst then l.map Prod.fst else l.map Prod.fst ++ [key] := by
  induction l with
  | nil => rfl
  | cons e rest ih =>
    by_cases h : e.1 = key
    · simp [put, h]
    · rw [put, if_neg h, List.map_cons, ih]
      by_cases hm : key ∈ rest.map Prod.fst
      · have hold : key ∈ (e :: rest).map Prod.fst := List.mem_cons_of_mem _ hm
        rw [if_pos hm, if_pos hold]
        rfl
      · have hnew : key ∉ (e :: rest).map Prod.fst :=
          List.not_mem_cons_of_ne_of_not_mem (Ne.symm h) hm
        rw [if_neg hm, if_neg hnew]
        rfl

theorem keys_insert (d : Dict α) (key : String) (value : α) :
    (d.insert key value).keys = if key ∈ d.keys then d.keys else d.keys ++ [key] :=
  keys_put key value d.entries

/-- A value that is there is replaced in its place. -/
theorem entries_insert {d : Dict α} {key : String} {old : α} (h : d.get? key = some old)
    (value : α) :
    ∃ front back, d.entries = front ++ (key, old) :: back ∧
      (d.insert key value).entries = front ++ (key, value) :: back := by
  obtain ⟨front, back, hcut⟩ := List.append_of_mem ((d.get?_eq_some_iff key old).1 h)
  have hnodup := d.keys_nodup
  rw [hcut, List.map_append, List.map_cons, List.nodup_append] at hnodup
  have hnew : key ∉ front.map Prod.fst := fun hm => hnodup.2.2 key hm key List.mem_cons_self rfl
  refine ⟨front, back, hcut, ?_⟩
  show put key value d.entries = _
  rw [hcut, put_append hnew]

theorem keys_ofList (pairs : List (String × α)) :
    (ofList pairs).keys = (pairs.map Prod.fst).eraseDups := by
  induction pairs using List.reverseRecOn with
  | nil => rfl
  | append_singleton pairs pair ih =>
    obtain ⟨key, value⟩ := pair
    have hsnoc : ofList (pairs ++ [(key, value)]) = (ofList pairs).insert key value :=
      insertAll_snoc empty pairs key value
    rw [hsnoc, keys_insert, ih, List.map_append, List.map_singleton, eraseDups_snoc]
    simp only [List.mem_eraseDups]

/-- Pairs whose keys differ are the entries of their dictionary. -/
theorem entries_ofList {pairs : List (String × α)} (unique : (pairs.map Prod.fst).Nodup) :
    (ofList pairs).entries = pairs := by
  induction pairs using List.reverseRecOn with
  | nil => rfl
  | append_singleton pairs pair ih =>
    obtain ⟨key, value⟩ := pair
    rw [List.map_append, List.nodup_append] at unique
    have hnew : key ∉ pairs.map Prod.fst := fun hm => unique.2.2 key hm key (by simp) rfl
    rw [ofList, insertAll_snoc, ← ofList]
    show put key value (ofList pairs).entries = _
    rw [ih unique.1, put_of_notMem hnew]

theorem keys_map {β : Type} (d : Dict α) (f : α → β) : (d.map f).keys = d.keys := by
  simp [keys, map]

theorem get?_map {β : Type} (d : Dict α) (f : α → β) (key : String) :
    (d.map f).get? key = (d.get? key).map f := by
  simp only [get?, map]
  induction d.entries with
  | nil => rfl
  | cons e rest ih =>
    rw [List.map_cons, List.lookup_cons, List.lookup_cons, ih]
    cases key == e.1 <;> rfl

/-- Changing values and changing them back to what they were leaves the dictionary as it was. -/
theorem map_map_of_forall {β : Type} {d : Dict α} {f : α → β} {g : β → α}
    (h : ∀ value ∈ d.values, g (f value) = value) : (d.map f).map g = d := by
  apply ext
  simp only [map, List.map_map]
  refine (List.map_congr_left fun e he => ?_).trans (List.map_id _)
  have hvalue := h e.2 (List.mem_map.2 ⟨e, he, rfl⟩)
  simp [hvalue]

end Dict

end FieldRules
