import FieldRules.Text.Pieces
import Mathlib.Data.List.DropRight

namespace FieldRules.Text

/-- No blank begins the text. -/
def StartsClear (cs : List Char) : Prop := ∀ c, cs.head? = some c → isBlank c = false

/-- No blank ends the text. -/
def EndsClear (cs : List Char) : Prop := ∀ c, cs.getLast? = some c → isBlank c = false

structure IsTrimmed (cs : List Char) : Prop where
  starts : StartsClear cs
  ends : EndsClear cs

instance (cs : List Char) : Decidable (StartsClear cs) :=
  decidable_of_iff (cs.head?.any isBlank = false) (by cases h : cs.head? <;> simp [StartsClear, h])

instance (cs : List Char) : Decidable (EndsClear cs) :=
  decidable_of_iff (cs.getLast?.any isBlank = false)
    (by cases h : cs.getLast? <;> simp [EndsClear, h])

instance (cs : List Char) : Decidable (IsTrimmed cs) :=
  decidable_of_iff (StartsClear cs ∧ EndsClear cs) ⟨fun h => ⟨h.1, h.2⟩, fun h => ⟨h.1, h.2⟩⟩

theorem StartsClear.of_isPrefix {cs part : List Char} (h : StartsClear cs) (hp : part <+: cs) :
    StartsClear part := by
  intro c hc
  obtain ⟨rest, rfl⟩ := hp
  exact h c (by simp [List.head?_append, hc])

theorem EndsClear.of_isSuffix {cs part : List Char} (h : EndsClear cs) (hs : part <:+ cs) :
    EndsClear part := by
  intro c hc
  obtain ⟨rest, rfl⟩ := hs
  exact h c (by simp [List.getLast?_append, hc])

theorem startsClear_dropBlanks (cs : List Char) : StartsClear (dropBlanks cs) := by
  intro c hc
  have hhead := List.head?_dropWhile_not isBlank cs
  rw [dropBlanks] at hc
  simpa only [hc] using hhead

theorem endsClear_dropBlanksEnd (cs : List Char) : EndsClear (dropBlanksEnd cs) := by
  intro c hc
  have hhead := startsClear_dropBlanks cs.reverse
  rw [dropBlanksEnd, List.getLast?_reverse] at hc
  exact hhead c hc

theorem dropBlanks_of_startsClear {cs : List Char} (h : StartsClear cs) : dropBlanks cs = cs := by
  cases cs with
  | nil => rfl
  | cons c rest => simp [dropBlanks, h c rfl]

theorem dropBlanksEnd_of_endsClear {cs : List Char} (h : EndsClear cs) :
    dropBlanksEnd cs = cs := by
  have hreverse : StartsClear cs.reverse := by
    intro c hc
    exact h c (by rwa [List.head?_reverse] at hc)
  have hdrop := dropBlanks_of_startsClear hreverse
  rw [dropBlanks] at hdrop
  rw [dropBlanksEnd, hdrop, List.reverse_reverse]

theorem dropBlanksEnd_isPrefix (cs : List Char) : dropBlanksEnd cs <+: cs :=
  List.rdropWhile_prefix isBlank cs

theorem isTrimmed_trimChars (cs : List Char) : IsTrimmed (trimChars cs) where
  starts := (startsClear_dropBlanks cs).of_isPrefix (dropBlanksEnd_isPrefix _)
  ends := endsClear_dropBlanksEnd _

theorem trimChars_of_isTrimmed {cs : List Char} (h : IsTrimmed cs) : trimChars cs = cs := by
  rw [trimChars, dropBlanks_of_startsClear h.starts, dropBlanksEnd_of_endsClear h.ends]

/-- What is left of a text is a part of it. -/
theorem mem_of_mem_trimChars {cs : List Char} {c : Char} (h : c ∈ trimChars cs) : c ∈ cs :=
  (List.dropWhile_suffix isBlank).subset ((dropBlanksEnd_isPrefix _).subset h)

/-- Nothing is left of blanks, and of nothing else. -/
theorem trimChars_eq_nil_iff (cs : List Char) : trimChars cs = [] ↔ cs.all isBlank = true := by
  rw [List.all_eq_true]
  constructor
  · intro h
    have hdrop : dropBlanks cs = [] := by
      have hblank : ∀ c ∈ dropBlanks cs, isBlank c = true := List.rdropWhile_eq_nil_iff.1 h
      cases hrest : dropBlanks cs with
      | nil => rfl
      | cons c rest =>
        have hclear := startsClear_dropBlanks cs c (by rw [hrest]; rfl)
        rw [hblank c (by simp [hrest])] at hclear
        simp at hclear
    exact List.dropWhile_eq_nil_iff.1 hdrop
  · intro h
    have hdrop : dropBlanks cs = [] := List.dropWhile_eq_nil_iff.2 h
    rw [trimChars, hdrop]
    rfl

/-- A blank at the end is trimmed off. -/
theorem trimChars_concat {c : Char} (h : isBlank c = true) (cs : List Char) :
    trimChars (cs ++ [c]) = trimChars cs := by
  unfold trimChars dropBlanks
  rw [List.dropWhile_append]
  split
  · next hempty =>
    rw [List.isEmpty_iff.1 hempty]
    simp [h]
  · exact List.rdropWhile_concat_pos isBlank _ c h

theorem EndsClear.append {cs : List Char} (h : EndsClear cs) (ne_nil : cs ≠ [])
    (front : List Char) : EndsClear (front ++ cs) := by
  intro c hc
  rw [List.getLast?_append_of_ne_nil front ne_nil] at hc
  exact h c hc

/-- The text stands between blanks, or at an end. -/
def IsBetweenBlanks (cs text : List Char) : Prop :=
  ∃ front back, text = front ++ cs ++ back ∧ front.all isBlank = true ∧ back.all isBlank = true

/-- What stands between blanks is left of the text. -/
theorem trimChars_of_isBetweenBlanks {cs text : List Char} (h : IsBetweenBlanks cs text)
    (trimmed : IsTrimmed cs) : trimChars text = cs := by
  obtain ⟨front, back, rfl, hfront, hback⟩ := h
  rw [List.all_eq_true] at hfront hback
  cases cs with
  | nil =>
    rw [trimChars_eq_nil_iff, List.all_eq_true]
    simpa [or_imp, forall_and] using ⟨hfront, hback⟩
  | cons c rest =>
    have hstart : StartsClear (c :: rest ++ back) := fun d hd => trimmed.starts d (by simpa using hd)
    have hdrop : dropBlanks (front ++ (c :: rest) ++ back) = c :: rest ++ back := by
      rw [List.append_assoc, dropBlanks, List.dropWhile_append_of_pos hfront]
      exact dropBlanks_of_startsClear hstart
    have hend := dropBlanksEnd_of_endsClear trimmed.ends
    rw [trimChars, hdrop, dropBlanksEnd, List.reverse_append,
      List.dropWhile_append_of_pos (by simpa using hback)]
    exact hend

/-- The part is the longest stretch of such characters at the front, and then comes the rest. -/
structure IsStretch (p : Char → Bool) (part rest : List Char) : Prop where
  inside : ∀ c ∈ part, p c = true
  stops : ∀ c, rest.head? = some c → p c = false

namespace IsStretch

variable {p : Char → Bool} {part rest : List Char}

theorem takeWhile_eq (h : IsStretch p part rest) : (part ++ rest).takeWhile p = part := by
  rw [List.takeWhile_append_of_pos h.inside]
  cases rest with
  | nil => simp
  | cons c cs => simp [h.stops c rfl]

theorem dropWhile_eq (h : IsStretch p part rest) : (part ++ rest).dropWhile p = rest := by
  rw [List.dropWhile_append_of_pos h.inside]
  cases rest with
  | nil => rfl
  | cons c cs => simp [h.stops c rfl]

/-- A text has one such stretch only. -/
theorem unique {part' rest' : List Char} (h : IsStretch p part rest) (h' : IsStretch p part' rest')
    (same : part ++ rest = part' ++ rest') : part = part' ∧ rest = rest' := by
  have hpart : part = part' := by rw [← h.takeWhile_eq, same, h'.takeWhile_eq]
  subst hpart
  exact ⟨rfl, List.append_cancel_left same⟩

end IsStretch

theorem cutFirst_eq_none_iff (sep : Char) (cs : List Char) :
    cutFirst sep cs = none ↔ sep ∉ cs := by
  induction cs with
  | nil => simp [cutFirst]
  | cons c rest ih =>
    by_cases h : c = sep
    · simp [cutFirst, h]
    · simp [cutFirst, h, ih, Ne.symm h]

theorem cutFirst_eq_some_iff (sep : Char) (cs before after : List Char) :
    cutFirst sep cs = some (before, after) ↔ cs = before ++ sep :: after ∧ sep ∉ before := by
  induction cs generalizing before with
  | nil => simp [cutFirst]
  | cons c rest ih =>
    by_cases h : c = sep
    · subst h
      cases before with
      | nil => simp [cutFirst]
      | cons b bs => simp +contextual [cutFirst]
    · cases before with
      | nil => simp [cutFirst, h]
      | cons b bs =>
        have hmap : (cutFirst sep rest).map (fun p => (c :: p.1, p.2)) = some (b :: bs, after) ↔
            c = b ∧ cutFirst sep rest = some (bs, after) := by
          cases cutFirst sep rest <;> simp [Prod.ext_iff, and_assoc]
        rw [cutFirst, if_neg h, hmap, ih]
        grind

theorem cutLast_eq_none_iff (sep : Char) (cs : List Char) : cutLast sep cs = none ↔ sep ∉ cs := by
  induction cs with
  | nil => simp [cutLast]
  | cons c rest ih =>
    rw [cutLast, List.mem_cons, not_or, ← ih]
    cases cutLast sep rest with
    | some parts => simp
    | none => by_cases h : c = sep <;> simp [h, Ne.symm]

theorem cutLast_append (sep : Char) (before : List Char) {after : List Char}
    (clear : sep ∉ after) : cutLast sep (before ++ sep :: after) = some (before, after) := by
  induction before with
  | nil => simp [cutLast, (cutLast_eq_none_iff sep after).2 clear]
  | cons c rest ih => simp [cutLast, ih]

theorem cutLast_eq_some_iff (sep : Char) (cs before after : List Char) :
    cutLast sep cs = some (before, after) ↔ cs = before ++ sep :: after ∧ sep ∉ after := by
  constructor
  · intro h
    induction cs generalizing before with
    | nil => simp [cutLast] at h
    | cons c rest ih =>
      rw [cutLast] at h
      cases hrest : cutLast sep rest with
      | some parts =>
        obtain ⟨front, back⟩ := parts
        rw [hrest] at h
        obtain ⟨rfl, rfl⟩ : c :: front = before ∧ back = after := by simpa using h
        obtain ⟨rfl, hclear⟩ := ih front hrest
        exact ⟨rfl, hclear⟩
      | none =>
        have hclear := (cutLast_eq_none_iff sep rest).1 hrest
        rw [hrest] at h
        obtain ⟨rfl, rfl, rfl⟩ : c = sep ∧ [] = before ∧ rest = after := by simpa using h
        exact ⟨rfl, hclear⟩
  · rintro ⟨rfl, hclear⟩
    exact cutLast_append sep before hclear

theorem pieces_eq_splitOn (sep : Char) (cs : List Char) : pieces sep cs = cs.splitOn sep := by
  induction cs with
  | nil => rfl
  | cons c rest ih =>
    rw [List.splitOn_eq_splitOnP, List.splitOnP_cons_eq_if_modifyHead,
      ← List.splitOn_eq_splitOnP, ← ih, pieces]
    by_cases h : c = sep
    · simp [h]
    · cases hp : pieces sep rest with
      | nil => exact absurd hp (pieces_ne_nil sep rest)
      | cons p ps => simp [h]

theorem pieces_clear {sep : Char} {cs piece : List Char} (h : piece ∈ pieces sep cs) :
    sep ∉ piece := by
  induction cs generalizing piece with
  | nil => simp_all [pieces]
  | cons c rest ih =>
    rw [pieces] at h
    split at h
    · rcases List.mem_cons.1 h with rfl | hrest
      · simp
      · exact ih hrest
    · next hc =>
      cases hp : pieces sep rest with
      | nil => exact absurd hp (pieces_ne_nil sep rest)
      | cons p ps =>
        rw [hp] at h ih
        rcases List.mem_cons.1 h with rfl | hrest
        · simpa [Ne.symm hc] using ih (List.mem_cons_self ..)
        · exact ih (List.mem_cons_of_mem p hrest)

/-- The text is cut into these parts: joined with the separator they give the text, and none of
them has the separator in it. -/
structure IsCut (sep : Char) (text : String) (parts : List String) : Prop where
  ne_nil : parts ≠ []
  clear : ∀ part ∈ parts, sep ∉ part.toList
  joined : (String.singleton sep).intercalate parts = text

theorem isCut_splitAll (sep : Char) (text : String) : IsCut sep text (splitAll sep text) where
  ne_nil := by simpa [splitAll] using pieces_ne_nil sep text.toList
  clear := by
    intro part hpart
    obtain ⟨piece, hpiece, rfl⟩ := List.mem_map.1 hpart
    simpa using pieces_clear hpiece
  joined := by
    apply String.toList_inj.1
    have hid : String.toList ∘ String.ofList = id := by funext cs; simp
    rw [String.toList_intercalate, String.toList_singleton, splitAll, List.map_map, hid,
      List.map_id]
    exact intercalate_pieces sep text.toList

/-- A text is cut in one way only. -/
theorem IsCut.eq_splitAll {sep : Char} {text : String} {parts : List String}
    (h : IsCut sep text parts) : parts = splitAll sep text := by
  have hchars : text.toList = [sep].intercalate (parts.map String.toList) := by
    rw [← h.joined, String.toList_intercalate, String.toList_singleton]
  have hclear : ∀ cs ∈ parts.map String.toList, sep ∉ cs := by simpa using h.clear
  have hne : parts.map String.toList ≠ [] := by simpa using h.ne_nil
  rw [splitAll, pieces_eq_splitOn, hchars, List.splitOn_intercalate sep hclear hne, List.map_map]
  have hid : String.ofList ∘ String.toList = id := by funext s; simp
  rw [hid, List.map_id]

end FieldRules.Text
