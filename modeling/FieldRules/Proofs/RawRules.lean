import FieldRules.Proofs.Json.Written
import FieldRules.Specification
import Mathlib.Data.Set.List

namespace FieldRules

/-- A text, or a list of texts. -/
inductive Json.IsSpec : Json → Prop where
  | text (text : String) : IsSpec (.string text)
  | list {items : List Json} (texts : ∀ item ∈ items, ∃ text, item = .string text) :
      IsSpec (.array items)

/-- A partial inverse of a function, element by element. -/
theorem mapM_eq_some_iff_map {α β : Type} {f : α → Option β} {g : β → α}
    (h : ∀ a b, f a = some b ↔ g b = a) (l : List α) (r : List β) :
    l.mapM f = some r ↔ r.map g = l := by
  induction l generalizing r with
  | nil => simp [eq_comm]
  | cons a rest ih =>
    simp only [List.mapM_cons, Option.bind_eq_bind, Option.bind_eq_some_iff, Option.pure_def,
      Option.some.injEq, ih, h, List.map_eq_cons_iff]
    constructor
    · rintro ⟨b, hb, bs, hbs, rfl⟩
      exact ⟨b, bs, rfl, hb, hbs⟩
    · rintro ⟨b, bs, rfl, hb, hbs⟩
      exact ⟨b, hb, bs, hbs, rfl⟩

theorem Json.string?_eq_some_iff (value : Json) (text : String) :
    value.string? = some text ↔ .string text = value := by
  cases value <;> simp [string?, eq_comm]

namespace Spec

/-- A specification is read from what it writes, and from nothing else. -/
theorem ofJson?_eq_some_iff (value : Json) (spec : Spec) :
    ofJson? value = some spec ↔ spec.toJson = value := by
  cases value with
  | string text => cases spec <;> simp [ofJson?, toJson, eq_comm]
  | array items =>
    simp only [ofJson?, Option.map_eq_some_iff, mapM_eq_some_iff_map Json.string?_eq_some_iff]
    cases spec <;> simp [toJson]
  | _ => cases spec <;> simp [ofJson?, toJson]

theorem exists_toJson_iff (value : Json) : (∃ spec, toJson spec = value) ↔ value.IsSpec := by
  constructor
  · rintro ⟨spec, rfl⟩
    cases spec with
    | piped text => exact .text text
    | list tokens => exact .list (by simp)
  · intro h
    cases h with
    | text text => exact ⟨piped text, rfl⟩
    | @list items texts =>
      have htokens : items ∈ Set.range (List.map Json.string) := by
        rw [Set.range_list_map]
        exact fun item hm => (texts item hm).imp fun _ h => h.symm
      obtain ⟨tokens, rfl⟩ := htokens
      exact ⟨list tokens, rfl⟩

end Spec

namespace RawRules

/-- The member that an entry writes. -/
def member (entry : String × Spec) : String × Json := (entry.1, entry.2.toJson)

theorem toJson_eq (raw : RawRules) : raw.toJson = .object (raw.entries.map member) := rfl

theorem readMember_iff (m : String × Json) (entry : String × Spec) :
    (Spec.ofJson? m.2).map (m.1, ·) = some entry ↔ member entry = m := by
  simp only [Option.map_eq_some_iff, Spec.ofJson?_eq_some_iff, member, Prod.ext_iff]
  constructor
  · rintro ⟨spec, hspec, hfield, rfl⟩
    exact ⟨hfield.symm, hspec⟩
  · rintro ⟨hfield, hspec⟩
    exact ⟨entry.2, hspec, hfield.symm, rfl⟩

/-- Members are read entry by entry, and of members with one key the last counts. -/
theorem ofJson_object_iff (members : Fields) (raw : RawRules) :
    ofJson (.object members) = .ok raw ↔
      ∃ pairs : List (String × Spec), pairs.map member = members ∧ Dict.ofList pairs = raw := by
  have hread := mapM_eq_some_iff_map readMember_iff members
  rw [ofJson]
  split
  · next pairs h =>
    constructor
    · intro heq
      exact ⟨pairs, (hread pairs).1 h, Except.ok.inj heq⟩
    · rintro ⟨others, hothers, rfl⟩
      rw [Option.some.inj (h.symm.trans ((hread others).2 hothers))]
  · next h =>
    constructor
    · exact nofun
    · rintro ⟨others, hothers, -⟩
      exact absurd (h.symm.trans ((hread others).2 hothers)) (by simp)

/-- Of members with keys that differ, those rules are read that write them. -/
theorem ofJson_eq_ok_iff {members : Fields} (unique : (members.map Prod.fst).Nodup)
    (raw : RawRules) : ofJson (.object members) = .ok raw ↔ raw.toJson = .object members := by
  rw [ofJson_object_iff, toJson_eq, Json.object.injEq]
  constructor
  · rintro ⟨pairs, rfl, rfl⟩
    rw [List.map_map] at unique
    rw [Dict.entries_ofList unique]
  · intro hmembers
    exact ⟨raw.entries, hmembers, Dict.ext (Dict.entries_ofList raw.keys_nodup)⟩

theorem ofJson_toJson (raw : RawRules) : ofJson raw.toJson = .ok raw := by
  have unique : ((raw.entries.map member).map Prod.fst).Nodup := by
    rw [List.map_map]
    exact raw.keys_nodup
  exact (ofJson_eq_ok_iff unique raw).2 rfl

/-- Rules are read from an object of specifications. -/
theorem exists_ofJson_iff (members : Fields) :
    (∃ raw, ofJson (.object members) = .ok raw) ↔ ∀ m ∈ members, m.2.IsSpec := by
  have hmembers : (∃ pairs, List.map member pairs = members) ↔ ∀ m ∈ members, m.2.IsSpec := by
    have hrange : members ∈ Set.range (List.map member) ↔ ∀ m ∈ members, m ∈ Set.range member := by
      rw [Set.range_list_map]
      exact Iff.rfl
    refine hrange.trans (forall₂_congr fun m _ => ?_)
    rw [← Spec.exists_toJson_iff]
    constructor
    · rintro ⟨entry, rfl⟩
      exact ⟨entry.2, rfl⟩
    · rintro ⟨spec, hspec⟩
      exact ⟨(m.1, spec), Prod.ext rfl hspec⟩
  simp only [ofJson_object_iff, ← hmembers]
  exact ⟨fun ⟨_, pairs, h, _⟩ => ⟨pairs, h⟩, fun ⟨pairs, h⟩ => ⟨_, pairs, h, rfl⟩⟩

theorem get?_iff_mem (raw : RawRules) (field : String) (spec : Spec) :
    raw.get? field = some spec ↔ (field, spec.toJson) ∈ raw.entries.map member := by
  rw [Dict.get?_eq_some_iff, List.mem_map]
  constructor
  · exact fun hm => ⟨_, hm, rfl⟩
  · rintro ⟨entry, hm, heq⟩
    obtain ⟨rfl, hspec⟩ := Prod.mk.inj heq
    have hsame := (Spec.ofJson?_eq_some_iff _ entry.2).2 hspec
    rw [(Spec.ofJson?_eq_some_iff _ spec).2 rfl] at hsame
    rw [Option.some.inj hsame]
    exact hm

theorem isPlain_toJson (raw : RawRules) : raw.toJson.IsPlain := by
  have unique : ((raw.entries.map member).map Prod.fst).Nodup := by
    rw [List.map_map]
    exact raw.keys_nodup
  refine .object unique fun m hm => ?_
  obtain ⟨⟨field, spec⟩, -, rfl⟩ := List.mem_map.1 hm
  cases spec with
  | piped text => exact .string text
  | list tokens =>
    refine .array fun item hitem => ?_
    obtain ⟨token, -, rfl⟩ := List.mem_map.1 hitem
    exact .string token

/-- Why no rules are read from a value: an object is refused for its members, anything else for its
type. -/
def refusal : Json → RuleError
  | .object _ => .malformedSpec
  | other => .rulesNotObject other.typeName

theorem ofJson_eq_error {value : Json} (h : ¬∃ raw, ofJson value = .ok raw) :
    ofJson value = .error (refusal value) := by
  cases value with
  | object members =>
    rw [ofJson] at h ⊢
    split at h
    · exact absurd ⟨_, rfl⟩ h
    · rfl
  | _ => rfl

theorem code_refusal (value : Json) : (refusal value).code = "RULES_INVALID_INPUT" := by
  cases value <;> rfl

/-- Rules are read from an object whose members are texts and lists of texts, and from nothing else,
key by key and in order. Rules that were made in any way are read back from what they write. -/
theorem read_iff_written (value : Json) :
    ((∃ raw, ofJson value = .ok raw) ↔
      ∃ members, value = .object members ∧ ∀ m ∈ members, m.2.IsSpec) ∧
    (∀ members raw, value = .object members → (members.map Prod.fst).Nodup →
      ofJson value = .ok raw →
        raw.keys = members.map Prod.fst ∧ raw.toJson = value ∧
          ∀ field spec, raw.get? field = some spec ↔ (field, spec.toJson) ∈ members) ∧
    (∀ raw : RawRules, ofJson raw.toJson = .ok raw ∧
      (Json.read? raw.toJson.write).map (fun back => (ofJson back).map RuleSet.parse) =
        some (.ok (RuleSet.parse raw))) ∧
    ((¬∃ members, value = .object members ∧ ∀ m ∈ members, m.2.IsSpec) →
      ofJson value = .error (refusal value) ∧
        (refusal value).code = "RULES_INVALID_INPUT") := by
  have haccepts : (∃ raw, ofJson value = .ok raw) ↔
      ∃ members, value = .object members ∧ ∀ m ∈ members, m.2.IsSpec := by
    cases value with
    | object members => simp [exists_ofJson_iff]
    | _ => simp [ofJson]
  refine ⟨haccepts, fun members raw hvalue unique hread => ?_, fun raw => ⟨ofJson_toJson raw, ?_⟩,
    fun hother => ?_⟩
  · subst hvalue
    have hmembers := (ofJson_eq_ok_iff unique raw).1 hread
    rw [toJson_eq, Json.object.injEq] at hmembers
    subst hmembers
    refine ⟨by rw [List.map_map]; rfl, rfl, get?_iff_mem raw⟩
  · rw [(isPlain_toJson raw).read?_write, Option.map_some, ofJson_toJson]
    rfl
  · rw [← haccepts] at hother
    exact ⟨ofJson_eq_error hother, code_refusal value⟩

/-- Rules of three fields, as a text with a bar, as no tokens at all, and as tokens. -/
def zetaMembers : Fields :=
  [("zeta", .string "required|\n"), ("alpha", .array []), ("mid", .array [.string "max:3"])]

theorem read_iff_written_zeta :
    let raw : RawRules := Dict.ofList
      [("zeta", .piped "required|\n"), ("alpha", .list []), ("mid", .list ["max:3"])]
    ofJson (.object zetaMembers) = .ok raw ∧ raw.keys = ["zeta", "alpha", "mid"] ∧
      raw.toJson = .object zetaMembers ∧ raw.get? "alpha" = some (.list []) ∧
      (Json.read? raw.toJson.write).map (fun back => (ofJson back).map RuleSet.parse) =
        some (.ok (RuleSet.parse raw)) ∧
      ofJson (.object [("zeta", .string ""), ("age", .array [.null])]) = .error .malformedSpec := by
  intro raw
  obtain ⟨-, hwritten, hback, -⟩ := read_iff_written (.object zetaMembers)
  have hread : ofJson (.object zetaMembers) = .ok raw := rfl
  have unique : (zetaMembers.map Prod.fst).Nodup := by decide
  obtain ⟨hkeys, hvalue, hget⟩ := hwritten zetaMembers raw rfl unique hread
  obtain ⟨-, -, -, hrefused⟩ :=
    read_iff_written (.object [("zeta", .string ""), ("age", .array [.null])])
  have hother : ¬∃ members, Json.object [("zeta", .string ""), ("age", .array [.null])] =
      .object members ∧ ∀ m ∈ members, m.2.IsSpec := by
    rintro ⟨members, heq, hspecs⟩
    obtain rfl := Json.object.inj heq
    cases hspecs ("age", .array [.null]) (by simp) with
    | list texts => simpa using texts .null (by simp)
  have hmember : ("alpha", (Spec.list []).toJson) ∈ zetaMembers := by
    simp [zetaMembers, Spec.toJson]
  exact ⟨hread, hkeys, hvalue, (hget _ _).2 hmember, (hback raw).2, (hrefused hother).1⟩

end RawRules

end FieldRules
