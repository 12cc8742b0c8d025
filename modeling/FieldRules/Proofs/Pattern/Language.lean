import FieldRules.Builtin.Forms
import FieldRules.Proofs.Pattern.Covers
import Mathlib

namespace FieldRules.Pattern

/-- The pattern does not look at what stands before or after it. -/
def isPlain : Pattern → Bool
  | empty | one _ => true
  | look _ => false
  | seq p q | alt p q => p.isPlain && q.isPlain
  | rep p _ _ => p.isPlain

/-- The texts that a pattern stands for; what it looks at is left out. -/
def language : Pattern → Language Char
  | empty => 1
  | one accepts => {l : List Char | ∃ c, accepts c = true ∧ l = [c]}
  | look _ => 1
  | seq p q => p.language * q.language
  | alt p q => p.language + q.language
  | rep p least most => ⨆ n, ⨆ (_ : Allows least most n), p.language ^ n

/-- A relation that holds between the ends of the stretches that are in a language. -/
def Reads (text : List Char) (r : Nat → Nat → Prop) (L : Language Char) : Prop :=
  ∀ i j, r i j ↔ ∃ l rest, text.drop i = l ++ rest ∧ j = i + l.length ∧ l ∈ L

namespace Reads

variable {text : List Char} {r r' : Nat → Nat → Prop} {L L' : Language Char}

theorem one : Reads text Eq 1 := by
  intro i j
  constructor
  · rintro rfl
    exact ⟨[], text.drop i, rfl, rfl, Language.nil_mem_one⟩
  · rintro ⟨l, rest, -, hj, hl⟩
    rw [(Language.mem_one l).1 hl] at hj
    exact hj.symm

theorem mul (hr : Reads text r L) (hr' : Reads text r' L') :
    Reads text (fun i j => ∃ k, r i k ∧ r' k j) (L * L') := by
  intro i j
  constructor
  · rintro ⟨k, hfirst, hsecond⟩
    obtain ⟨a, rest, hdrop, rfl, ha⟩ := (hr i k).1 hfirst
    obtain ⟨b, last, hdrop', rfl, hb⟩ := (hr' _ j).1 hsecond
    have hrest : rest = b ++ last := by
      rw [← hdrop', ← List.drop_drop, hdrop, List.drop_left]
    refine ⟨a ++ b, last, ?_, ?_, Language.append_mem_mul ha hb⟩
    · rw [hdrop, hrest, List.append_assoc]
    · rw [List.length_append, Nat.add_assoc]
  · rintro ⟨l, last, hdrop, rfl, hl⟩
    obtain ⟨a, ha, b, hb, rfl⟩ := Language.mem_mul.1 hl
    rw [List.append_assoc] at hdrop
    have hdrop' : text.drop (i + a.length) = b ++ last := by
      rw [← List.drop_drop, hdrop, List.drop_left]
    refine ⟨i + a.length, (hr _ _).2 ⟨a, b ++ last, hdrop, rfl, ha⟩, (hr' _ _).2 ?_⟩
    refine ⟨b, last, hdrop', ?_, hb⟩
    rw [List.length_append, Nat.add_assoc]

theorem add (hr : Reads text r L) (hr' : Reads text r' L') :
    Reads text (fun i j => r i j ∨ r' i j) (L + L') := by
  intro i j
  show r i j ∨ r' i j ↔ _
  rw [hr, hr']
  constructor
  · rintro (⟨l, rest, hdrop, hj, hl⟩ | ⟨l, rest, hdrop, hj, hl⟩)
    · exact ⟨l, rest, hdrop, hj, (Language.mem_add _ _ _).2 (.inl hl)⟩
    · exact ⟨l, rest, hdrop, hj, (Language.mem_add _ _ _).2 (.inr hl)⟩
  · rintro ⟨l, rest, hdrop, hj, hl⟩
    rcases (Language.mem_add _ _ _).1 hl with hl | hl
    · exact .inl ⟨l, rest, hdrop, hj, hl⟩
    · exact .inr ⟨l, rest, hdrop, hj, hl⟩

theorem pow (hr : Reads text r L) (n : Nat) : Reads text (Hops r n) (L ^ n) := by
  induction n with
  | zero => exact one
  | succ n ih =>
    rw [pow_succ']
    exact hr.mul ih

end Reads

/-- A pattern that does not look around covers the stretches of its language. -/
theorem reads_language (text : List Char) {p : Pattern} (h : p.isPlain = true) :
    Reads text (Covers text p) p.language := by
  induction p with
  | empty => exact Reads.one
  | one accepts =>
    intro i j
    constructor
    · rintro ⟨rfl, haccepts⟩
      obtain ⟨c, hc, hacc⟩ := (Option.any_eq_true _ _).1 haccepts
      obtain ⟨hin, hget⟩ := List.getElem?_eq_some_iff.1 hc
      refine ⟨[c], text.drop (i + 1), ?_, rfl, c, hacc, rfl⟩
      rw [List.drop_eq_getElem_cons hin, hget]
      rfl
    · rintro ⟨l, rest, hdrop, rfl, c, hacc, rfl⟩
      have hget : text[i]? = some c := by
        have hfirst := congrArg (fun l => l[0]?) hdrop
        simpa using hfirst
      exact ⟨rfl, by simp [hget, hacc]⟩
  | look holds => simp [isPlain] at h
  | seq p q ihp ihq =>
    obtain ⟨hp, hq⟩ := Bool.and_eq_true_iff.1 h
    exact (ihp hp).mul (ihq hq)
  | alt p q ihp ihq =>
    obtain ⟨hp, hq⟩ := Bool.and_eq_true_iff.1 h
    exact (ihp hp).add (ihq hq)
  | rep p least most ih =>
    intro i j
    have hpow := (ih h).pow
    constructor
    · rintro ⟨n, hallows, hhops⟩
      obtain ⟨l, rest, hdrop, hj, hl⟩ := (hpow n i j).1 hhops
      refine ⟨l, rest, hdrop, hj, ?_⟩
      exact Language.mem_iSup.2 ⟨n, Language.mem_iSup.2 ⟨hallows, hl⟩⟩
    · rintro ⟨l, rest, hdrop, hj, hl⟩
      obtain ⟨n, hn⟩ := Language.mem_iSup.1 hl
      obtain ⟨hallows, hl⟩ := Language.mem_iSup.1 hn
      exact ⟨n, hallows, (hpow n i j).2 ⟨l, rest, hdrop, hj, hl⟩⟩

section Whole

variable {text : List Char}

theorem covers_textStart_iff {i j : Nat} : Covers text textStart i j ↔ i = 0 ∧ j = 0 := by
  cases i with
  | zero => simp [textStart, Covers, charBefore, eq_comm]
  | succ i =>
    simp only [textStart, Covers, charBefore]
    constructor
    · rintro ⟨-, hin, hnone⟩
      rw [List.getElem?_eq_getElem hin] at hnone
      simp at hnone
    · simp

theorem covers_textEnd_iff {i j : Nat} :
    Covers text textEnd i j ↔ i = text.length ∧ j = text.length := by
  simp only [textEnd, Covers, Option.isNone_iff_eq_none, List.getElem?_eq_none_iff]
  omega

/-- A pattern for the whole text covers nothing but the whole text. -/
theorem covers_whole_iff {p : Pattern} {i j : Nat} :
    Covers text (whole p) i j ↔ i = 0 ∧ j = text.length ∧ Covers text p 0 text.length := by
  constructor
  · rintro ⟨k, hstart, m, hp, n, hend, rfl⟩
    obtain ⟨rfl, rfl⟩ := covers_textStart_iff.1 hstart
    obtain ⟨rfl, rfl⟩ := covers_textEnd_iff.1 hend
    exact ⟨rfl, rfl, hp⟩
  · rintro ⟨rfl, rfl, hp⟩
    exact ⟨0, covers_textStart_iff.2 ⟨rfl, rfl⟩, text.length, hp, text.length,
      covers_textEnd_iff.2 ⟨rfl, rfl⟩, rfl⟩

end Whole

/-- A pattern for the whole text occurs in the texts of its language. -/
theorem occursIn_whole_iff {p : Pattern} (h : p.isPlain = true) (text : String) :
    (whole p).occursIn text = true ↔ text.toList ∈ p.language := by
  have hreads := reads_language text.toList h 0 text.toList.length
  simp only [List.drop_zero, Nat.zero_add] at hreads
  rw [occursIn_iff]
  simp only [covers_whole_iff]
  constructor
  · rintro ⟨i, j, -, rfl, rfl, hcovers⟩
    obtain ⟨l, rest, htext, hlength, hl⟩ := hreads.1 hcovers
    have hrest : rest = [] := by
      have hsum := congrArg List.length htext
      rw [List.length_append] at hsum
      exact List.length_eq_zero_iff.1 (by omega)
    rwa [htext, hrest, List.append_nil]
  · intro hl
    have hcovers := hreads.2 ⟨text.toList, [], (List.append_nil _).symm, rfl, hl⟩
    exact ⟨0, _, Nat.zero_le _, rfl, rfl, hcovers⟩

section Forms

variable {l : List Char}

theorem mem_language_one {accepts : Char → Bool} :
    l ∈ (one accepts).language ↔ ∃ c, accepts c = true ∧ l = [c] := Iff.rfl

theorem mem_language_char {c : Char} : l ∈ (char c).language ↔ l = [c] := by
  simp [char, mem_language_one]

theorem mem_language_rep {p : Pattern} {least : Nat} {most : Option Nat} :
    l ∈ (rep p least most).language ↔ ∃ n, Allows least most n ∧ l ∈ p.language ^ n := by
  simp [language, Language.mem_iSup]

theorem mem_language_optional {p : Pattern} :
    l ∈ (optional p).language ↔ l = [] ∨ l ∈ p.language := by
  rw [optional, mem_language_rep]
  constructor
  · rintro ⟨n, ⟨-, hmost⟩, hl⟩
    have hn : n ≤ 1 := hmost 1 rfl
    obtain rfl | rfl := Nat.le_one_iff_eq_zero_or_eq_one.1 hn
    · exact .inl ((Language.mem_one l).1 hl)
    · rw [pow_one] at hl
      exact .inr hl
  · rintro (rfl | hl)
    · exact ⟨0, by simp [Allows], Language.nil_mem_one⟩
    · refine ⟨1, by simp [Allows], ?_⟩
      rwa [pow_one]

/-- So many characters in a row that are accepted. -/
theorem mem_language_one_pow {accepts : Char → Bool} {n : Nat} :
    l ∈ (one accepts).language ^ n ↔ l.length = n ∧ ∀ c ∈ l, accepts c = true := by
  induction n generalizing l with
  | zero =>
    rw [pow_zero, Language.mem_one, List.length_eq_zero_iff]
    constructor
    · rintro rfl
      simp
    · exact And.left
  | succ n ih =>
    rw [pow_succ', Language.mem_mul]
    constructor
    · rintro ⟨a, ⟨c, hc, rfl⟩, b, hb, rfl⟩
      obtain ⟨hlength, hall⟩ := ih.1 hb
      exact ⟨by simp [hlength], List.forall_mem_cons.2 ⟨hc, hall⟩⟩
    · rintro ⟨hlength, hall⟩
      cases l with
      | nil => simp at hlength
      | cons c rest =>
        obtain ⟨hc, hrest⟩ := List.forall_mem_cons.1 hall
        exact ⟨[c], ⟨c, hc, rfl⟩, rest, ih.2 ⟨Nat.succ.inj hlength, hrest⟩, rfl⟩

theorem mem_language_plus_one {accepts : Char → Bool} :
    l ∈ (plus (one accepts)).language ↔ l ≠ [] ∧ ∀ c ∈ l, accepts c = true := by
  rw [plus, mem_language_rep]
  simp only [mem_language_one_pow, ← List.length_pos_iff]
  constructor
  · rintro ⟨n, ⟨hleast, -⟩, rfl, hall⟩
    exact ⟨hleast, hall⟩
  · rintro ⟨hpos, hall⟩
    exact ⟨l.length, ⟨hpos, by simp⟩, rfl, hall⟩

theorem mem_language_sequence_cons {p : Pattern} {ps : List Pattern} :
    l ∈ (sequence (p :: ps)).language ↔
      ∃ a ∈ p.language, ∃ b ∈ (sequence ps).language, a ++ b = l := Language.mem_mul

theorem mem_language_sequence_nil : l ∈ (sequence []).language ↔ l = [] := Language.mem_one l

theorem mem_language_alt {p q : Pattern} :
    l ∈ (alt p q).language ↔ l ∈ p.language ∨ l ∈ q.language := Language.mem_add _ _ _

theorem mem_language_star_one {accepts : Char → Bool} :
    l ∈ (star (one accepts)).language ↔ ∀ c ∈ l, accepts c = true := by
  rw [star, mem_language_rep]
  simp only [mem_language_one_pow]
  constructor
  · rintro ⟨n, -, -, hall⟩
    exact hall
  · intro hall
    exact ⟨l.length, by simp [Allows], rfl, hall⟩

/-- One character after the other, each accepted in its place. -/
theorem mem_language_ones {α : Type} {accepts : α → Char → Bool} {as : List α} :
    l ∈ (sequence (as.map fun a => one (accepts a))).language ↔
      List.Forall₂ (fun a c => accepts a c = true) as l := by
  induction as generalizing l with
  | nil => exact mem_language_sequence_nil.trans List.forall₂_nil_left_iff.symm
  | cons a rest ih =>
    rw [List.map_cons, mem_language_sequence_cons]
    simp only [ih]
    constructor
    · rintro ⟨_, ⟨c, hc, rfl⟩, others, hothers, rfl⟩
      exact .cons hc hothers
    · rintro (_ | ⟨hc, hothers⟩)
      exact ⟨_, ⟨_, hc, rfl⟩, _, hothers, rfl⟩

theorem mem_language_word {s : String} : l ∈ (word s).language ↔ l = s.toList := by
  have hones : l ∈ (word s).language ↔
      List.Forall₂ (fun a c => (c == a) = true) s.toList l := mem_language_ones
  simp only [hones, beq_iff_eq]
  constructor
  · intro h
    exact (List.forall₂_eq_eq_eq ▸ h.flip : l = s.toList)
  · rintro rfl
    exact List.forall₂_same.2 fun _ _ => rfl

theorem mem_language_wordAnyCase {s : String} :
    l ∈ (wordAnyCase s).language ↔
      List.Forall₂ (fun a c => c ∈ Unicode.caseVariants a) s.toList l := by
  have hones : l ∈ (wordAnyCase s).language ↔
      List.Forall₂ (fun a c => (Unicode.caseVariants a).contains c = true) s.toList l :=
    mem_language_ones
  simpa only [List.contains_iff_mem] using hones

end Forms

end FieldRules.Pattern
