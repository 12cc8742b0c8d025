import FieldRules.Engine.Run
import FieldRules.Message.Bag
import FieldRules.Proofs.Dict

namespace FieldRules

-- The zero of the sums below is core's, whichever instances a wider import brings.
attribute [local instance (high)] Zero.ofOfNat0

/-- The lengths of the lists under all keys grow by what is put. -/
theorem sum_length_put (key : String) (value : List String) (l : List (String × List String)) :
    ((Dict.put key value l).map fun e => e.2.length).sum + ((l.lookup key).getD []).length =
      (l.map fun e => e.2.length).sum + value.length := by
  induction l with
  | nil => simp [Dict.put]
  | cons e rest ih =>
    obtain ⟨k, v⟩ := e
    by_cases h : k = key
    · subst h
      simp [Dict.put]
      omega
    · have hne : (key == k) = false := by simpa using fun heq => h heq.symm
      simp only [Dict.put, if_neg h, List.map_cons, List.sum_cons, List.lookup_cons, hne]
      omega

namespace MessageBag

theorem count_eq (bag : MessageBag) :
    bag.count = (bag.messages.entries.map fun e => e.2.length).sum := by
  simp [count, Dict.values, Function.comp_def]

@[simp]
theorem count_add (bag : MessageBag) (field message : String) :
    (bag.add field message).count = bag.count + 1 := by
  have hsum := sum_length_put field (bag.get field ++ [message]) bag.messages.entries
  rw [count_eq, count_eq]
  simp only [add, Dict.insert, get, Dict.get?, List.length_append, List.length_singleton] at hsum ⊢
  omega

/-- Messages with their fields, field by field in the order in which the fields first come. -/
def grouped (log : List (String × String)) : List (String × List String) :=
  (log.map Prod.fst).eraseDups.map fun field =>
    (field, (log.filter (·.1 = field)).map Prod.snd)

/-- The bag that gets messages for fields in order. -/
def ofPairs (log : List (String × String)) : MessageBag :=
  log.foldl (fun bag (field, message) => bag.add field message) empty

theorem ofPairs_snoc (log : List (String × String)) (field message : String) :
    ofPairs (log ++ [(field, message)]) = (ofPairs log).add field message := by
  simp [ofPairs]

/-- The messages of a field are those that it got, in order. -/
theorem get_ofPairs (log : List (String × String)) (field : String) :
    (ofPairs log).get field = (log.filter (·.1 = field)).map Prod.snd := by
  induction log using List.reverseRecOn with
  | nil => rfl
  | append_singleton log entry ih =>
    obtain ⟨other, message⟩ := entry
    rw [ofPairs_snoc, get, add, Dict.get?_insert, List.filter_append]
    by_cases h : field = other
    · subst h
      simp [ih]
    · have hne : ¬ other = field := fun he => h he.symm
      rw [if_neg h, ← get, ih]
      simp [hne]

theorem entries_ofPairs (log : List (String × String)) :
    (ofPairs log).entries = grouped log := by
  induction log using List.reverseRecOn with
  | nil => rfl
  | append_singleton log entry ih =>
    obtain ⟨field, message⟩ := entry
    have hput : (ofPairs (log ++ [(field, message)])).entries =
        Dict.put field ((ofPairs log).get field ++ [message]) (grouped log) := by
      rw [ofPairs_snoc, ← ih]
      rfl
    rw [hput, get_ofPairs]
    unfold grouped
    rw [List.map_append, List.map_singleton, eraseDups_snoc]
    by_cases h : field ∈ log.map Prod.fst
    · rw [if_pos h, put_map _ (nodup_eraseDups _) (List.mem_eraseDups.2 h)]
      apply List.map_congr_left
      intro other _
      by_cases ho : other = field
      · subst ho
        simp
      · simp [ho, Ne.symm ho]
    · have hkeys : field ∉ (((log.map Prod.fst).eraseDups.map fun other =>
          (other, (log.filter (·.1 = other)).map Prod.snd))).map Prod.fst := by
        simpa [List.mem_eraseDups] using h
      rw [if_neg h, put_of_notMem hkeys, List.map_append, List.map_singleton]
      refine congrArg₂ (· ++ ·) ?_ ?_
      · apply List.map_congr_left
        intro other hm
        have hne : ¬ field = other := fun he => h (he ▸ List.mem_eraseDups.1 hm)
        simp [hne]
      · simp

theorem keys_ofPairs (log : List (String × String)) :
    (ofPairs log).messages.keys = (log.map Prod.fst).eraseDups := by
  have hentries : (ofPairs log).messages.entries = grouped log := entries_ofPairs log
  rw [Dict.keys, hentries, grouped, List.map_map]
  exact List.map_id _

theorem count_ofPairs (log : List (String × String)) : (ofPairs log).count = log.length := by
  induction log using List.reverseRecOn with
  | nil => rfl
  | append_singleton log entry ih => rw [ofPairs_snoc, count_add, ih, List.length_append]; rfl

/-- A bag is empty exactly if it holds no message. -/
theorem isEmpty_ofPairs (log : List (String × String)) :
    (ofPairs log).isEmpty = true ↔ log = [] := by
  have hentries : (ofPairs log).messages.entries = grouped log := entries_ofPairs log
  rw [isEmpty, Dict.isEmpty, hentries, List.isEmpty_iff, grouped, List.map_eq_nil_iff]
  cases log with
  | nil => simp
  | cons entry rest => simp [List.eraseDups_cons]

/-- The bag that gets the messages of failures in order. -/
def ofLog (log : List (Failure × String)) : MessageBag :=
  log.foldl (fun bag (f, message) => bag.add f.field message) empty

theorem ofLog_snoc (log : List (Failure × String)) (f : Failure) (message : String) :
    ofLog (log ++ [(f, message)]) = (ofLog log).add f.field message := by
  simp [ofLog]

theorem ofLog_eq_ofPairs (log : List (Failure × String)) :
    ofLog log = ofPairs (log.map fun (f, message) => (f.field, message)) := by
  rw [ofLog, ofPairs, List.foldl_map]

@[simp]
theorem count_ofLog (log : List (Failure × String)) : (ofLog log).count = log.length := by
  rw [ofLog_eq_ofPairs, count_ofPairs, List.length_map]

theorem isEmpty_ofLog (log : List (Failure × String)) :
    (ofLog log).isEmpty = true ↔ log = [] := by
  rw [ofLog_eq_ofPairs, isEmpty_ofPairs, List.map_eq_nil_iff]

end MessageBag

end FieldRules
