import FieldRules.Proofs.Bag
import Mathlib.Data.List.DropRight

namespace FieldRules

/-- Entries are put together by their keys, each of them once. -/
theorem perm_flatMap_filter (keys : List String) (unique : keys.Nodup)
    (log : List (String × String)) :
    (keys.flatMap fun key => log.filter (·.1 = key)).Perm (log.filter (·.1 ∈ keys)) := by
  induction keys with
  | nil => simp
  | cons key rest ih =>
    obtain ⟨hnew, hrest⟩ := List.nodup_cons.1 unique
    have hkey : (log.filter (·.1 ∈ key :: rest)).filter (·.1 = key) = log.filter (·.1 = key) := by
      rw [List.filter_filter]
      refine List.filter_congr fun e _ => ?_
      grind
    have hothers : (log.filter (·.1 ∈ key :: rest)).filter (fun e => !decide (e.1 = key)) =
        log.filter (·.1 ∈ rest) := by
      rw [List.filter_filter]
      refine List.filter_congr fun e _ => ?_
      grind
    have hsplit := List.filter_append_perm (fun e => decide (e.1 = key))
      (log.filter (·.1 ∈ key :: rest))
    rw [hkey, hothers] at hsplit
    rw [List.flatMap_cons]
    exact ((ih hrest).append_left _).trans hsplit

namespace MessageBag

inductive Operation where
  | add (field message : String)
  | clear

def step (bag : MessageBag) : Operation → MessageBag
  | .add field message => bag.add field message
  | .clear => empty

/-- The bag after a history that begins with the empty one. -/
def after (ops : List Operation) : MessageBag := ops.foldl step empty

def Operation.pair? : Operation → Option (String × String)
  | .add field message => some (field, message)
  | .clear => none

/-- The messages that were added since the bag was last cleared, with their fields. -/
def added (ops : List Operation) : List (String × String) :=
  (ops.rtakeWhile (·.pair?.isSome)).filterMap Operation.pair?

theorem added_add (ops : List Operation) (field message : String) :
    added (ops ++ [.add field message]) = added ops ++ [(field, message)] := by
  rw [added, List.rtakeWhile_concat_pos _ _ _ rfl, List.filterMap_append]
  rfl

theorem added_clear (ops : List Operation) : added (ops ++ [.clear]) = [] := by
  rw [added, List.rtakeWhile_concat_neg _ _ _ Bool.false_ne_true]
  rfl

/-- The bag holds what was added since it was last cleared, and nothing else. -/
theorem after_eq_ofPairs (ops : List Operation) : after ops = ofPairs (added ops) := by
  induction ops using List.reverseRecOn with
  | nil => rfl
  | append_singleton ops op ih =>
    have hsnoc : after (ops ++ [op]) = (after ops).step op := by simp [after]
    rw [hsnoc, ih]
    cases op with
    | add field message => rw [added_add, ofPairs_snoc, step]
    | clear =>
      rw [added_clear]
      rfl

variable (log : List (String × String))

/-- No field is there without a message. -/
theorem nil_notMem_values_ofPairs : [] ∉ (ofPairs log).messages.values := by
  have hentries : (ofPairs log).messages.entries = grouped log := entries_ofPairs log
  rw [Dict.values, hentries, grouped, List.map_map, List.mem_map]
  rintro ⟨field, hfield, hnil⟩
  obtain ⟨entry, hentry, rfl⟩ := List.mem_map.1 (List.mem_eraseDups.1 hfield)
  have hnone := List.filter_eq_nil_iff.1 (List.map_eq_nil_iff.1 hnil) entry hentry
  simp at hnone

/-- A field is there exactly if it has a message. -/
theorem has_ofPairs (field : String) :
    (ofPairs log).has field = true ↔ (ofPairs log).get field ≠ [] := by
  have hnil := nil_notMem_values_ofPairs log
  rw [has, Dict.contains, get]
  cases hfound : (ofPairs log).messages.get? field with
  | none => simp
  | some messages =>
    have hin := (Dict.get?_eq_some_iff _ field messages).1 hfound
    have hne : messages ≠ [] := fun he => hnil (List.mem_map.2 ⟨_, hin, he⟩)
    simpa using hne

/-- The entries of a log as they are shown, field by field. -/
def shown : List (String × String) :=
  (log.map Prod.fst).eraseDups.flatMap fun field => log.filter (·.1 = field)

/-- The line that shows a message. -/
def line (entry : String × String) : String := "  [" ++ entry.1 ++ "] " ++ entry.2 ++ "\n"

theorem perm_shown : (shown log).Perm log := by
  have hperm := perm_flatMap_filter _ (nodup_eraseDups (log.map Prod.fst)) log
  have hall : log.filter (fun e => decide (e.1 ∈ (log.map Prod.fst).eraseDups)) = log := by
    rw [List.filter_eq_self]
    intro e he
    simpa using ⟨e.2, he⟩
  rwa [hall] at hperm

theorem lines_ofPairs :
    ((ofPairs log).entries.flatMap fun e => e.2.map fun message => line (e.1, message)) =
      (shown log).map line := by
  rw [entries_ofPairs, grouped, shown, List.flatMap_map, List.map_flatMap]
  refine List.flatMap_congr fun field _ => ?_
  rw [List.map_map]
  refine List.map_congr_left fun e he => ?_
  have hfield : e.1 = field := by simpa using (List.mem_filter.1 he).2
  rw [← hfield]
  rfl

theorem text_eq (bag : MessageBag) : bag.text =
    "Validation failed with " ++ toString bag.count ++ " error(s):\n" ++
      "".intercalate (bag.entries.flatMap fun e => e.2.map fun message => line (e.1, message)) :=
  rfl

theorem text_ofPairs : (ofPairs log).text =
    "Validation failed with " ++ toString log.length ++ " error(s):\n" ++
      "".intercalate ((shown log).map line) := by
  rw [text_eq, lines_ofPairs, count_ofPairs]

/-- However messages are added and the bag is cleared, the bag shows the log since it was last
cleared: its fields in the order in which they first come, and the messages of each field in order.
-/
theorem bag_groups_log (ops : List Operation) :
    let bag := after ops
    let log := added ops
    let messages (field : String) := (log.filter (·.1 = field)).map Prod.snd
    bag.messages.keys = (log.map Prod.fst).eraseDups ∧ [] ∉ bag.messages.values ∧
    (∀ field, bag.get field = messages field ∧ bag.first? field = (messages field).head? ∧
      (bag.has field = true ↔ bag.get field ≠ [])) ∧
    bag.count = log.length ∧ (bag.isEmpty = true ↔ log = []) ∧
    (shown log).Perm log ∧
    bag.text = "Validation failed with " ++ toString log.length ++ " error(s):\n" ++
      "".intercalate ((shown log).map line) := by
  intro bag log messages
  have hbag : bag = ofPairs log := after_eq_ofPairs ops
  rw [hbag]
  refine ⟨keys_ofPairs log, nil_notMem_values_ofPairs log, fun field => ?_, count_ofPairs log,
    isEmpty_ofPairs log, perm_shown log, text_ofPairs log⟩
  have hget : (ofPairs log).get field = messages field := get_ofPairs log field
  exact ⟨hget, congrArg List.head? hget, has_ofPairs log field⟩

example : (after [.add "name" "Old.", .clear, .add "email" "First.", .add "name" "Other.",
    .add "email" "Second."]).text =
      "Validation failed with 3 error(s):\n" ++
        "  [email] First.\n  [email] Second.\n  [name] Other.\n" := by
  decide

end MessageBag

end FieldRules
