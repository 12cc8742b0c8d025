import FieldRules.Pattern.Basic
import Mathlib.Data.Nat.Bitwise

namespace FieldRules.Pattern

/-- So many steps of a relation in a row. -/
def Hops (r : Nat → Nat → Prop) : Nat → Nat → Nat → Prop
  | 0, i, j => i = j
  | n + 1, i, j => ∃ k, r i k ∧ Hops r n k j

/-- How often a pattern may come in a row. Where the bounds cross, the lower one counts. -/
def Allows (least : Nat) (most : Option Nat) (n : Nat) : Prop :=
  least ≤ n ∧ ∀ m ∈ most, n ≤ max least m

/-- The character before a position. -/
def charBefore (before : Option Char) (text : List Char) : Nat → Option Char
  | 0 => before
  | i + 1 => text[i]?

/-- The pattern covers the text from one position to another. -/
def Covers (text : List Char) : Pattern → Nat → Nat → Prop
  | empty, i, j => i = j
  | one accepts, i, j => j = i + 1 ∧ text[i]?.any accepts = true
  | look holds, i, j =>
    i = j ∧ i ≤ text.length ∧ holds (charBefore none text i) text[i]? = true
  | seq p q, i, j => ∃ k, Covers text p i k ∧ Covers text q k j
  | alt p q, i, j => Covers text p i j ∨ Covers text q i j
  | rep p least most, i, j => ∃ n, Allows least most n ∧ Hops (Covers text p) n i j

section Hops

variable {r : Nat → Nat → Prop}

theorem hops_add (m n i j : Nat) : Hops r (m + n) i j ↔ ∃ k, Hops r m i k ∧ Hops r n k j := by
  induction m generalizing i with
  | zero => simp [Hops]
  | succ m ih =>
    rw [Nat.succ_add]
    constructor
    · rintro ⟨k, hfirst, hrest⟩
      obtain ⟨l, hm, hn⟩ := (ih k).1 hrest
      exact ⟨l, ⟨k, hfirst, hm⟩, hn⟩
    · rintro ⟨l, ⟨k, hfirst, hm⟩, hn⟩
      exact ⟨k, hfirst, (ih k).2 ⟨l, hm, hn⟩⟩

theorem Hops.forward (hr : ∀ i j, r i j → i ≤ j) {n i j : Nat} (h : Hops r n i j) : i ≤ j := by
  induction n generalizing i with
  | zero => exact Nat.le_of_eq h
  | succ n ih =>
    obtain ⟨k, hfirst, hrest⟩ := h
    exact (hr i k hfirst).trans (ih hrest)

/-- Steps that do not move can be left out, so there need not be more steps than positions. -/
theorem Hops.shorten (hr : ∀ i j, r i j → i ≤ j) {n i j : Nat} (h : Hops r n i j) :
    ∃ k ≤ j - i, Hops r k i j := by
  induction n generalizing i with
  | zero => exact ⟨0, Nat.zero_le _, h⟩
  | succ n ih =>
    obtain ⟨m, hfirst, hrest⟩ := h
    obtain ⟨k, hk, hhops⟩ := ih hrest
    have hforward := hr i m hfirst
    have hlater := hrest.forward hr
    obtain rfl | hmoves := Nat.eq_or_lt_of_le hforward
    · exact ⟨k, hk, hhops⟩
    · exact ⟨k + 1, by omega, m, hfirst, hhops⟩

end Hops

/-- A function on sets of positions that goes along a relation. -/
def Follows (f : Nat → Nat) (r : Nat → Nat → Prop) : Prop :=
  ∀ s j, (f s).testBit j = true ↔ ∃ i, s.testBit i = true ∧ r i j

namespace Follows

variable {f g : Nat → Nat} {r r' : Nat → Nat → Prop}

theorem comp (hf : Follows f r) (hg : Follows g r') :
    Follows (fun s => g (f s)) fun i j => ∃ k, r i k ∧ r' k j := by
  intro s j
  rw [hg]
  constructor
  · rintro ⟨k, hk, hj⟩
    obtain ⟨i, hi, hik⟩ := (hf s k).1 hk
    exact ⟨i, hi, k, hik, hj⟩
  · rintro ⟨i, hi, k, hik, hj⟩
    exact ⟨k, (hf s k).2 ⟨i, hi, hik⟩, hj⟩

theorem union (hf : Follows f r) (hg : Follows g r') :
    Follows (fun s => f s ||| g s) fun i j => r i j ∨ r' i j := by
  intro s j
  rw [Nat.testBit_or, Bool.or_eq_true, hf, hg]
  constructor
  · rintro (⟨i, hi, hij⟩ | ⟨i, hi, hij⟩)
    · exact ⟨i, hi, .inl hij⟩
    · exact ⟨i, hi, .inr hij⟩
  · rintro ⟨i, hi, hij | hij⟩
    · exact .inl ⟨i, hi, hij⟩
    · exact .inr ⟨i, hi, hij⟩

theorem steps (hf : Follows f r) (n : Nat) : Follows (Pattern.steps f n) (Hops r n) := by
  induction n with
  | zero =>
    intro s j
    simp [Pattern.steps, Hops]
  | succ n ih =>
    have hstep : ∀ s, Pattern.steps f (n + 1) s = Pattern.steps f n (f s) := by
      intro s
      rw [Pattern.steps]
      split
      · next hsame =>
        -- the set does not change any more
        rw [hsame]
        clear ih
        induction n with
        | zero => rfl
        | succ n ih => rw [Pattern.steps, if_pos hsame]
      · rfl
    intro s j
    rw [hstep]
    exact hf.comp ih s j

/-- A set that the function adds nothing to is not left. -/
theorem closed (hf : Follows f r) {s : Nat} (h : s ||| f s = s) {n i j : Nat}
    (hi : s.testBit i = true) (hhops : Hops r n i j) : s.testBit j = true := by
  induction n generalizing i with
  | zero => exact hhops ▸ hi
  | succ n ih =>
    obtain ⟨k, hfirst, hrest⟩ := hhops
    refine ih ?_ hrest
    rw [← h, Nat.testBit_or, Bool.or_eq_true]
    exact .inr ((hf s k).2 ⟨i, hi, hfirst⟩)

theorem spread (hf : Follows f r) (n : Nat) :
    Follows (Pattern.spread f n) fun i j => ∃ k ≤ n, Hops r k i j := by
  induction n with
  | zero =>
    intro s j
    simp [Pattern.spread, Hops]
  | succ n ih =>
    intro s j
    rw [Pattern.spread]
    split
    · next hsame =>
      constructor
      · exact fun hj => ⟨j, hj, 0, Nat.zero_le _, rfl⟩
      · rintro ⟨i, hi, k, -, hhops⟩
        exact hf.closed hsame hi hhops
    · rw [ih]
      constructor
      · rintro ⟨i, hi, k, hk, hhops⟩
        rw [Nat.testBit_or, Bool.or_eq_true, hf] at hi
        obtain hi | ⟨m, hm, hfirst⟩ := hi
        · exact ⟨i, hi, k, Nat.le_succ_of_le hk, hhops⟩
        · exact ⟨m, hm, k + 1, Nat.succ_le_succ hk, i, hfirst, hhops⟩
      · rintro ⟨i, hi, k, hk, hhops⟩
        cases k with
        | zero =>
          refine ⟨i, ?_, 0, Nat.zero_le _, hhops⟩
          rw [Nat.testBit_or, hi, Bool.true_or]
        | succ k =>
          obtain ⟨m, hfirst, hrest⟩ := hhops
          refine ⟨m, ?_, k, Nat.le_of_succ_le_succ hk, hrest⟩
          rw [Nat.testBit_or, Bool.or_eq_true]
          exact .inr ((hf s m).2 ⟨i, hi, hfirst⟩)

end Follows

theorem testBit_add_two_mul_zero (b : Bool) (n : Nat) : (b.toNat + 2 * n).testBit 0 = b := by
  cases b <;> simp [Nat.testBit_zero, Nat.add_mod]

theorem testBit_add_two_mul_succ (b : Bool) (n i : Nat) :
    (b.toNat + 2 * n).testBit (i + 1) = n.testBit i := by
  have hhalf : (b.toNat + 2 * n) / 2 = n := by
    have hb := Bool.toNat_le b
    omega
  rw [Nat.testBit_succ, hhalf]

theorem testBit_charMask (accepts : Char → Bool) (text : List Char) (i : Nat) :
    (charMask accepts text).testBit i = text[i]?.any accepts := by
  induction text generalizing i with
  | nil => simp [charMask]
  | cons c cs ih =>
    cases i with
    | zero => exact testBit_add_two_mul_zero _ _
    | succ i => exact (testBit_add_two_mul_succ _ _ i).trans (ih i)

theorem testBit_lookMask (holds : Option Char → Option Char → Bool) (before : Option Char)
    (text : List Char) (i : Nat) :
    (lookMask holds before text).testBit i =
      (decide (i ≤ text.length) && holds (charBefore before text i) text[i]?) := by
  induction text generalizing before i with
  | nil =>
    cases i with
    | zero =>
      have hbit := testBit_add_two_mul_zero (holds before none) 0
      simpa [lookMask, charBefore] using hbit
    | succ i =>
      have hbit := testBit_add_two_mul_succ (holds before none) 0 i
      simpa [lookMask] using hbit
  | cons c cs ih =>
    cases i with
    | zero =>
      have hbit := testBit_add_two_mul_zero (holds before (some c)) (lookMask holds (some c) cs)
      simpa [lookMask, charBefore] using hbit
    | succ i =>
      have hbit := testBit_add_two_mul_succ (holds before (some c)) (lookMask holds (some c) cs) i
      have hbefore : charBefore (some c) cs i = charBefore before (c :: cs) (i + 1) := by
        cases i <;> rfl
      rw [lookMask, hbit, ih, hbefore]
      simp

section Covers

variable {text : List Char}

/-- What a pattern covers runs forward, and to the end of the text at most. -/
theorem Covers.forward {p : Pattern} {i j : Nat} (h : Covers text p i j) :
    i ≤ j ∧ (j = i ∨ j ≤ text.length) := by
  induction p generalizing i j with
  | empty => exact ⟨Nat.le_of_eq h, .inl h.symm⟩
  | one accepts =>
    obtain ⟨rfl, haccepts⟩ := h
    have hin : i < text.length := by
      rw [← Nat.not_le]
      intro hout
      simp [List.getElem?_eq_none hout] at haccepts
    exact ⟨Nat.le_succ i, .inr hin⟩
  | look holds => exact ⟨Nat.le_of_eq h.1, .inl h.1.symm⟩
  | seq p q ihp ihq =>
    obtain ⟨k, hp, hq⟩ := h
    have hfirst := ihp hp
    have hsecond := ihq hq
    omega
  | alt p q ihp ihq => exact h.elim ihp ihq
  | rep p least most ih =>
    obtain ⟨n, -, hhops⟩ := h
    induction n generalizing i with
    | zero => exact ⟨Nat.le_of_eq hhops, .inl hhops.symm⟩
    | succ n ihn =>
      obtain ⟨k, hfirst, hrest⟩ := hhops
      have hp := ih hfirst
      have hlater := ihn hrest
      omega

/-- A pattern that is repeated without an upper bound need not come more often than there are
positions, apart from the times that are asked for. -/
theorem covers_rep_none_iff {p : Pattern} {least i j : Nat} :
    Covers text (rep p least none) i j ↔
      ∃ m, Hops (Covers text p) least i m ∧
        ∃ k ≤ text.length + 1, Hops (Covers text p) k m j := by
  have hforward : ∀ i j, Covers text p i j → i ≤ j := fun i j h => h.forward.1
  constructor
  · rintro ⟨n, ⟨hleast, -⟩, hhops⟩
    rw [← Nat.add_sub_cancel' hleast, hops_add] at hhops
    obtain ⟨m, hfirst, hrest⟩ := hhops
    have hcovers : Covers text (rep p 0 none) m j :=
      ⟨n - least, ⟨Nat.zero_le _, by simp⟩, hrest⟩
    have hbound := hcovers.forward
    obtain ⟨k, hk, hshort⟩ := hrest.shorten hforward
    exact ⟨m, hfirst, k, by omega, hshort⟩
  · rintro ⟨m, hfirst, k, -, hrest⟩
    exact ⟨least + k, ⟨Nat.le_add_right _ _, by simp⟩, (hops_add _ _ _ _).2 ⟨m, hfirst, hrest⟩⟩

theorem covers_rep_some_iff {p : Pattern} {least most i j : Nat} :
    Covers text (rep p least (some most)) i j ↔
      ∃ m, Hops (Covers text p) least i m ∧
        ∃ k ≤ most - least, Hops (Covers text p) k m j := by
  constructor
  · rintro ⟨n, ⟨hleast, hmost⟩, hhops⟩
    have hbound := hmost most rfl
    rw [← Nat.add_sub_cancel' hleast, hops_add] at hhops
    obtain ⟨m, hfirst, hrest⟩ := hhops
    exact ⟨m, hfirst, n - least, by omega, hrest⟩
  · rintro ⟨m, hfirst, k, hk, hrest⟩
    refine ⟨least + k, ⟨Nat.le_add_right _ _, ?_⟩, (hops_add _ _ _ _).2 ⟨m, hfirst, hrest⟩⟩
    intro bound hbound
    obtain rfl := Option.mem_some.1 hbound
    omega

/-- The traversal of a pattern goes from where it begins to where it can end. -/
theorem advance_traversal (text : List Char) (p : Pattern) :
    Follows (p.traversal text).advance (Covers text p) := by
  induction p with
  | empty =>
    intro s j
    simp [traversal, Traversal.advance, Covers]
  | one accepts =>
    intro s j
    have hbits : (2 * (s &&& charMask accepts text)).testBit j = true ↔
        ∃ i, j = i + 1 ∧ s.testBit i = true ∧ text[i]?.any accepts = true := by
      cases j with
      | zero => simp [Nat.testBit_zero]
      | succ i =>
        have hbit := testBit_add_two_mul_succ false (s &&& charMask accepts text) i
        rw [Bool.toNat_false, Nat.zero_add] at hbit
        rw [hbit, Nat.testBit_and, testBit_charMask]
        simp
    rw [traversal, Traversal.advance, hbits]
    constructor
    · rintro ⟨i, hj, hi, haccepts⟩
      exact ⟨i, hi, hj, haccepts⟩
    · rintro ⟨i, hi, hj, haccepts⟩
      exact ⟨i, hj, hi, haccepts⟩
  | look holds =>
    intro s j
    rw [traversal, Traversal.advance, Nat.testBit_and, testBit_lookMask]
    simp [Covers]
  | seq p q ihp ihq => exact ihp.comp ihq
  | alt p q ihp ihq => exact ihp.union ihq
  | rep p least most ih =>
    cases most with
    | none =>
      intro s j
      have hfollows := (ih.steps least).comp (ih.spread (text.length + 1))
      simp only [covers_rep_none_iff]
      exact hfollows s j
    | some most =>
      intro s j
      have hfollows := (ih.steps least).comp (ih.spread (most - least))
      simp only [covers_rep_some_iff]
      exact hfollows s j

end Covers

/-- A pattern occurs in a text exactly if it covers a stretch of it. -/
theorem occursIn_iff (p : Pattern) (text : String) :
    p.occursIn text = true ↔
      ∃ i j, i ≤ text.toList.length ∧ Covers text.toList p i j := by
  have hfollows := advance_traversal text.toList p (2 ^ (text.toList.length + 1) - 1)
  simp only [Nat.testBit_two_pow_sub_one, decide_eq_true_eq, Nat.lt_succ_iff] at hfollows
  rw [occursIn, bne_iff_ne]
  constructor
  · intro hne
    obtain ⟨j, hj⟩ := Nat.exists_testBit_of_ne_zero hne
    obtain ⟨i, hi, hcovers⟩ := (hfollows j).1 hj
    exact ⟨i, j, hi, hcovers⟩
  · rintro ⟨i, j, hi, hcovers⟩ hzero
    have hj := (hfollows j).2 ⟨i, hi, hcovers⟩
    rw [hzero, Nat.zero_testBit] at hj
    exact Bool.false_ne_true hj

end FieldRules.Pattern
