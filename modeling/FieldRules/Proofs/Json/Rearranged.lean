import FieldRules.Dict
import FieldRules.Json.Basic
import Mathlib.Data.List.Perm.Basic

namespace FieldRules.Json

/-- The members of objects are put in another order. -/
inductive Rearranged : Json → Json → Prop where
  | refl (value : Json) : Rearranged value value
  | array {items others : List Json} (length : items.length = others.length)
      (each : ∀ (i : Nat) (item other : Json), items[i]? = some item → others[i]? = some other →
        Rearranged item other) :
      Rearranged (.array items) (.array others)
  | object {members others : Fields} (unique : (members.map Prod.fst).Nodup)
      (keys : (members.map Prod.fst).Perm (others.map Prod.fst))
      (each : ∀ key member other, (key, member) ∈ members → (key, other) ∈ others →
        Rearranged member other) :
      Rearranged (.object members) (.object others)

/-- What looks into neither arrays nor objects, but at how much is in them, does not tell the values
apart. -/
theorem Rearranged.congr {α : Type} {value other : Json} (h : Rearranged value other) (f : Json → α)
    (harray : ∀ items others : List Json, items.length = others.length →
      f (.array items) = f (.array others))
    (hobject : ∀ members others : Fields, members.length = others.length →
      f (.object members) = f (.object others)) :
    f value = f other := by
  cases h with
  | refl => rfl
  | array length _ => exact harray _ _ length
  | object _ keys _ => exact hobject _ _ (by simpa using keys.length_eq)

theorem lookup_eq_some_iff {members : Fields} (unique : (members.map Prod.fst).Nodup) (key : String)
    (value : Json) : members.lookup key = some value ↔ (key, value) ∈ members :=
  Dict.get?_eq_some_iff ⟨members, unique⟩ key value

/-- Under each key the one object has a member if and only if the other has, and then these are
alike. -/
theorem lookup_rel {R : Json → Json → Prop} {members others : Fields}
    (unique : (members.map Prod.fst).Nodup)
    (keys : (members.map Prod.fst).Perm (others.map Prod.fst))
    (each : ∀ key member other, (key, member) ∈ members → (key, other) ∈ others → R member other)
    (key : String) : Option.Rel R (members.lookup key) (others.lookup key) := by
  have unique' : (others.map Prod.fst).Nodup := keys.nodup_iff.1 unique
  have hmem : (members.lookup key).isSome = true ↔ (others.lookup key).isSome = true := by
    have hkey (fields : Fields) : (fields.lookup key).isSome = true ↔ key ∈ fields.map Prod.fst := by
      rw [List.lookup_isSome_iff, List.mem_map]
      exact exists_congr fun e => and_congr_right fun _ => beq_iff_eq.trans eq_comm
    rw [hkey, hkey, keys.mem_iff]
  cases hm : members.lookup key with
  | none =>
    cases ho : others.lookup key with
    | none => exact .none
    | some other => simp [hm, ho] at hmem
  | some member =>
    cases ho : others.lookup key with
    | none => simp [hm, ho] at hmem
    | some other =>
      exact .some (each key member other ((lookup_eq_some_iff unique key member).1 hm)
        ((lookup_eq_some_iff unique' key other).1 ho))

theorem sameItems_congr {items items' others others' : List Json}
    (length : items.length = items'.length) (length' : others.length = others'.length)
    (each : ∀ (i : Nat) (item item' other other' : Json), items[i]? = some item →
      items'[i]? = some item' → others[i]? = some other → others'[i]? = some other' →
      item.same other = item'.same other') :
    sameItems items others = sameItems items' others' := by
  induction items generalizing items' others others' with
  | nil =>
    obtain rfl : items' = [] := List.length_eq_zero_iff.1 length.symm
    cases others <;> cases others' <;> simp_all [sameItems]
  | cons item rest ih =>
    cases items' with
    | nil => simp at length
    | cons item' rest' =>
      cases others <;> cases others' <;> simp at length'
      · rfl
      · next other _ other' _ =>
        have hfirst := each 0 item item' other other' rfl rfl rfl rfl
        have hrest := ih (by simpa using length) length' fun i => each (i + 1)
        rw [sameItems, sameItems, hfirst, hrest]

theorem sameMembers_iff (members others : Fields) :
    sameMembers members others = true ↔
      ∀ key member, (key, member) ∈ members →
        ∃ other, others.lookup key = some other ∧ member.same other = true := by
  induction members with
  | nil => simp [sameMembers]
  | cons entry rest ih =>
    obtain ⟨key, member⟩ := entry
    rw [sameMembers, Bool.and_eq_true, ih]
    simp only [List.mem_cons, Prod.mk.injEq]
    constructor
    · rintro ⟨hfirst, hrest⟩ k m (⟨rfl, rfl⟩ | hm)
      · cases ho : others.lookup k with
        | none => simp [ho] at hfirst
        | some other => exact ⟨other, rfl, by simpa [ho] using hfirst⟩
      · exact hrest k m hm
    · intro h
      refine ⟨?_, fun k m hm => h k m (.inr hm)⟩
      obtain ⟨other, ho, hsame⟩ := h key member (.inl ⟨rfl, rfl⟩)
      simp [ho, hsame]

theorem Rearranged.same_right {value other : Json} (h : Rearranged value other) (x : Json) :
    x.same value = x.same other := by
  induction h generalizing x with
  | refl => rfl
  | array length _ ih =>
    cases x with
    | array values =>
      rw [Json.same, Json.same]
      refine sameItems_congr rfl length fun i x y item other hx hy hitem hother => ?_
      obtain rfl : x = y := Option.some.inj (hx.symm.trans hy)
      exact ih i item other hitem hother x
    | _ => rfl
  | @object members others unique keys _ ih =>
    cases x with
    | object values =>
      have hlength : members.length = others.length := by simpa using keys.length_eq
      rw [Json.same, Json.same, hlength]
      refine congrArg _ ?_
      rw [Bool.eq_iff_iff, sameMembers_iff, sameMembers_iff]
      refine forall_congr' fun key => forall_congr' fun value => imp_congr_right fun _ => ?_
      have hlookup := lookup_rel unique keys ih key
      generalize members.lookup key = found, others.lookup key = found' at hlookup ⊢
      cases hlookup with
      | none => simp
      | some hsame => simp [hsame value]
    | _ => rfl

theorem Rearranged.same_left {value other : Json} (h : Rearranged value other) (x : Json) :
    value.same x = other.same x := by
  induction h generalizing x with
  | refl => rfl
  | array length _ ih =>
    cases x with
    | array values =>
      rw [Json.same, Json.same]
      refine sameItems_congr length rfl fun i item other x y hitem hother hx hy => ?_
      obtain rfl : x = y := Option.some.inj (hx.symm.trans hy)
      exact ih i item other hitem hother x
    | _ => rfl
  | @object members others unique keys _ ih =>
    cases x with
    | object values =>
      have hlength : members.length = others.length := by simpa using keys.length_eq
      have unique' := keys.nodup_iff.1 unique
      rw [Json.same, Json.same, hlength]
      refine congrArg _ ?_
      rw [Bool.eq_iff_iff, sameMembers_iff, sameMembers_iff]
      simp only [← lookup_eq_some_iff unique, ← lookup_eq_some_iff unique']
      refine forall_congr' fun key => ?_
      have hlookup := lookup_rel unique keys ih key
      generalize members.lookup key = found, others.lookup key = found' at hlookup ⊢
      cases hlookup with
      | none => simp
      | some hsame => simp [hsame]
    | _ => rfl

/-- Equality does not tell values apart that are the same but for the order of members. -/
theorem Rearranged.same {value value' other other' : Json} (h : Rearranged value value')
    (h' : Rearranged other other') : value'.same other' = value.same other := by
  rw [h.same_left other, h'.same_right value']

end FieldRules.Json
