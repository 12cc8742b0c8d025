import FieldRules.Builtin.Verdict
import FieldRules.Engine.Validator
import FieldRules.Proofs.Specification

namespace FieldRules

/-- The argument of the rule is all that follows the first colon. -/
theorem Directive.parse_regex {argument : String} (ends : Text.EndsClear argument.toList) :
    parse ("regex:" ++ argument) = ⟨"regex", some argument⟩ := by
  have hname : ':' ∉ "regex".toList ∧ Text.IsTrimmed "regex".toList := by decide
  have hlegible : IsLegible ⟨"regex", some argument⟩ :=
    ⟨hname.1, hname.2, by rintro _ ⟨⟩; exact ends⟩
  have htext : "regex:" ++ argument = text ⟨"regex", some argument⟩ := by
    rw [← String.toList_inj]
    simp [text]
  rw [htext, parse_text hlegible]

theorem Spec.directives_regex {argument : String} (ends : Text.EndsClear argument.toList)
    (front back : List String) :
    (list (front ++ ("regex:" ++ argument) :: back)).directives =
      (list front).directives ++ ⟨"regex", some argument⟩ :: (list back).directives := by
  have hblank : Text.isAllBlank ("regex:" ++ argument) = false := by
    have hfirst : Text.isBlank 'r' = false := by decide
    simp [Text.isAllBlank, hfirst]
  simp only [directives_list, List.filter_append, List.map_append]
  rw [List.filter_cons_of_pos (by simp [hblank]), List.map_cons, Directive.parse_regex ends]

namespace Expression

/-- The argument is a pattern between slashes and letters of flags. -/
structure IsSlashed (argument source letters : String) : Prop where
  written : argument = "/" ++ source ++ "/" ++ letters
  are_flags : ∀ c ∈ letters.toList, c ∈ ['i', 'm', 's', 'x']

/-- The flags whose letters occur, in any order and however often. -/
def flagsOf (letters : String) : Pattern.Flags where
  anyCase := decide ('i' ∈ letters.toList)
  multiLine := decide ('m' ∈ letters.toList)
  dotAll := decide ('s' ∈ letters.toList)
  verbose := decide ('x' ∈ letters.toList)

/-- The pattern and the flags that an argument stands for. -/
inductive Reads (argument : String) : String → Pattern.Flags → Prop
  | slashed {source letters : String} (h : IsSlashed argument source letters) :
    Reads argument source (flagsOf letters)
  | verbatim (h : ∀ source letters, ¬IsSlashed argument source letters) : Reads argument argument {}

theorem isFlag_iff (c : Char) : isFlag c = true ↔ c ∈ ['i', 'm', 's', 'x'] := by
  simp [isFlag, or_assoc]

namespace IsSlashed

variable {argument source letters : String} (h : IsSlashed argument source letters)
include h

theorem toList_eq : argument.toList = '/' :: (source.toList ++ '/' :: letters.toList) := by
  rw [h.written]
  simp

/-- No slash is a flag, so the last slash stands before the flags. -/
theorem clear : '/' ∉ letters.toList := by
  intro hslash
  have hflag := h.are_flags '/' hslash
  revert hflag
  decide

theorem ofArgument_eq : ofArgument argument = ⟨source.toList, letters.toList⟩ := by
  have hcut := Text.cutLast_append '/' source.toList h.clear
  have hall : letters.toList.all isFlag = true :=
    List.all_eq_true.2 fun c hc => (isFlag_iff c).2 (h.are_flags c hc)
  unfold ofArgument
  rw [h.toList_eq]
  simp only [hcut, hall, if_true]

theorem unique {source' letters' : String} (h' : IsSlashed argument source' letters') :
    source = source' ∧ letters = letters' := by
  have heq := h.ofArgument_eq.symm.trans h'.ofArgument_eq
  rw [Expression.mk.injEq, String.toList_inj, String.toList_inj] at heq
  exact heq

end IsSlashed

theorem ofArgument_verbatim {argument : String}
    (h : ∀ source letters, ¬IsSlashed argument source letters) :
    ofArgument argument = ⟨argument.toList, []⟩ := by
  unfold ofArgument
  split
  · next rest hrest =>
    split
    · next source letters hcut =>
      obtain ⟨rfl, -⟩ := (Text.cutLast_eq_some_iff '/' rest source letters).1 hcut
      -- Flags behind the last slash would make the argument a slashed one.
      have hnot : ¬letters.all isFlag = true := by
        intro hall
        refine h (String.ofList source) (String.ofList letters) ⟨?_, ?_⟩
        · rw [← String.toList_inj, hrest]
          simp
        · intro c hc
          rw [String.toList_ofList] at hc
          exact (isFlag_iff c).1 (List.all_eq_true.1 hall c hc)
      rw [if_neg hnot]
    · rfl
  · rfl

theorem settings_eq (e : Expression) : e.settings = flagsOf (String.ofList e.flags) := by
  simp [settings, flagsOf, List.contains_eq_mem]

/-- What is compiled is what the argument stands for. -/
theorem compile?_eq {argument source : String} {flags : Pattern.Flags}
    (h : Reads argument source flags) :
    (ofArgument argument).compile? = Pattern.read? flags source := by
  cases h with
  | slashed h =>
    rw [h.ofArgument_eq, compile?, settings_eq, String.ofList_toList, String.ofList_toList]
  | verbatim h =>
    rw [ofArgument_verbatim h, compile?, String.ofList_toList]
    rfl

theorem existsUnique_reads (argument : String) :
    ∃! reading : String × Pattern.Flags, Reads argument reading.1 reading.2 := by
  by_cases hslashed : ∃ source letters, IsSlashed argument source letters
  · obtain ⟨source, letters, h⟩ := hslashed
    refine ⟨(source, flagsOf letters), .slashed h, ?_⟩
    rintro ⟨_, _⟩ hother
    cases hother with
    | slashed h' =>
      obtain ⟨rfl, rfl⟩ := h.unique h'
      rfl
    | verbatim hnone => exact absurd h (hnone _ _)
  · have hnone : ∀ source letters, ¬IsSlashed argument source letters := by simpa using hslashed
    refine ⟨(argument, {}), .verbatim hnone, ?_⟩
    rintro ⟨_, _⟩ hother
    cases hother with
    | slashed h => exact absurd h (hnone _ _)
    | verbatim => rfl

/-- The pattern of an argument, which is compiled and kept unless it is there already. -/
def fetch (kept : Dict Pattern) (argument : String) : Option Pattern × Dict Pattern :=
  match kept.get? argument with
  | some pattern => (some pattern, kept)
  | none =>
    match (ofArgument argument).compile? with
    | some pattern => (some pattern, kept.insert argument pattern)
    | none => (none, kept)

/-- What happens to the patterns that are kept. -/
inductive Keeping where
  /-- The pattern of an argument is asked for. -/
  | fetch (argument : String)
  /-- The pattern of an argument is dropped. -/
  | drop (argument : String)

def keep (kept : Dict Pattern) : Keeping → Dict Pattern
  | .fetch argument => (fetch kept argument).2
  | .drop argument => kept.erase argument

/-- The patterns that are kept after a history. -/
def keptAfter (history : List Keeping) : Dict Pattern := history.foldl keep Dict.empty

/-- Every pattern that is kept is the one of its argument. -/
def Faithful (kept : Dict Pattern) : Prop :=
  ∀ argument pattern, kept.get? argument = some pattern →
    (ofArgument argument).compile? = some pattern

namespace Faithful

variable {kept : Dict Pattern} (h : Faithful kept)
include h

theorem fetch (argument : String) :
    (fetch kept argument).1 = (ofArgument argument).compile? ∧
      Faithful (fetch kept argument).2 := by
  unfold Expression.fetch
  split
  · next pattern hkept => exact ⟨(h argument pattern hkept).symm, h⟩
  · split
    · next pattern hread =>
      refine ⟨hread.symm, fun other old hother => ?_⟩
      rw [Dict.get?_insert] at hother
      split at hother
      · next heq => rw [heq, hread, hother]
      · exact h other old hother
    · next hread => exact ⟨hread.symm, h⟩

theorem erase (argument : String) : Faithful (kept.erase argument) := by
  intro other pattern hother
  rw [Dict.get?_erase] at hother
  split at hother
  · simp at hother
  · exact h other pattern hother

theorem keep (event : Keeping) : Faithful (keep kept event) := by
  cases event with
  | fetch argument => exact (h.fetch argument).2
  | drop argument => exact h.erase argument

end Faithful

theorem faithful_keptAfter (history : List Keeping) : Faithful (keptAfter history) := by
  induction history using List.reverseRecOn with
  | nil =>
    intro argument pattern hkept
    simp [keptAfter] at hkept
  | append_singleton history event ih =>
    have hsnoc : keptAfter (history ++ [event]) = keep (keptAfter history) event := by
      simp [keptAfter]
    rw [hsnoc]
    exact ih.keep event

end Expression

namespace Subject

theorem hasForm_eq (s : Subject) (form : Pattern) :
    s.hasForm form = s.value.asText.any form.occursIn := by
  rw [hasForm]
  cases s.value.asText <;> rfl

theorem holds_regex {s : Subject} {argument : String} (h : s.argument = some argument) :
    Builtin.regex.holds s = (Expression.ofArgument argument).compile?.any s.hasForm := by
  simp only [Builtin.holds, h]
  cases htext : s.value.asText with
  | none => cases (Expression.ofArgument argument).compile? <;> simp [hasForm_eq, htext]
  | some text =>
    cases hpattern : (Expression.ofArgument argument).compile? <;>
      simp [Expression.occursIn, hasForm_eq, htext, hpattern]

/-- The verdict of the rule `regex` where patterns are kept. -/
def matchesKept (s : Subject) (kept : Dict Pattern) : Bool :=
  s.argument.any fun argument => (Expression.fetch kept argument).1.any s.hasForm

theorem matchesKept_keptAfter (s : Subject) (history : List Expression.Keeping) :
    s.matchesKept (Expression.keptAfter history) = Builtin.regex.holds s := by
  cases h : s.argument with
  | none => simp [matchesKept, Builtin.holds, h]
  | some argument =>
    have hfetch := (Expression.faithful_keptAfter history).fetch argument
    rw [holds_regex h, matchesKept, h, Option.any_some, hfetch.1]

end Subject

namespace Expression

/-- The argument of `regex:` is compiled as it stands in the token: what is between its first and
its last slash with the flags behind them, or else the whole of it. The verdict does not depend on
the patterns that were kept before. -/
theorem compiled_as_written :
    (∀ argument : String, Text.EndsClear argument.toList → ∀ front back : List String,
      let tokens := front ++ ("regex:" ++ argument) :: back
      (Spec.list tokens).directives =
        (Spec.list front).directives ++ ⟨"regex", some argument⟩ :: (Spec.list back).directives ∧
      ('|' ∉ argument.toList → (∀ other ∈ front ++ back, '|' ∉ other.toList) →
        (Spec.piped ("|".intercalate tokens)).directives = (Spec.list tokens).directives)) ∧
    (∀ argument, ∃! reading : String × Pattern.Flags, Reads argument reading.1 reading.2) ∧
    (∀ argument source letters source' letters', IsSlashed argument source letters →
      IsSlashed argument source' letters' → source = source' ∧ letters = letters') ∧
    ∀ (plan : Plan) (input : Fields) (step : Step) (argument source : String)
      (flags : Pattern.Flags), step.directive = ⟨"regex", some argument⟩ →
      Reads argument source flags →
      let s := plan.subject input step
      (ofArgument argument).compile? = Pattern.read? flags source ∧
      (Builtin.regex.holds s = (Pattern.read? flags source).any fun pattern =>
        (input.value step.field).asText.any pattern.occursIn) ∧
      ∀ history, s.matchesKept (keptAfter history) = Builtin.regex.holds s := by
  refine ⟨fun argument ends front back => ⟨Spec.directives_regex ends front back, ?_⟩,
    existsUnique_reads, fun _ _ _ _ _ h h' => h.unique h', ?_⟩
  · intro hclear hothers
    have htoken : '|' ∉ ("regex:" ++ argument).toList := by simpa using hclear
    refine Spec.directives_joined fun token hin => ?_
    rcases List.mem_append.1 hin with hfront | hback
    · exact hothers token (List.mem_append_left back hfront)
    · rcases List.mem_cons.1 hback with rfl | hback
      · exact htoken
      · exact hothers token (List.mem_append_right front hback)
  · intro plan input step argument source flags hdirective hreads s
    have hargument : s.argument = some argument := congrArg Directive.argument hdirective
    have hcompile := compile?_eq hreads
    refine ⟨hcompile, ?_, s.matchesKept_keptAfter⟩
    rw [Subject.holds_regex hargument, hcompile]
    exact congrArg (Option.any · _) (funext s.hasForm_eq)

/-- The first argument has slashes and a bar in the pattern and a flag twice, and only a list keeps
it whole; the second one has no flags, for `z` is none. -/
theorem compiled_as_written_slashes :
    let slashed := "/^a|b:c,d/e$/xix"
    let plain := "/a:b,c/iz"
    let step : Step := ⟨"path", ⟨"regex", some slashed⟩, .builtin .regex, false, false⟩
    let s := Plan.subject ⟨[step], Builtin.required.judge, true⟩ [("path", .string "B:C,D/E")] step
    (Text.EndsClear slashed.toList ∧
      (Spec.list ["required", "regex:" ++ slashed, "max:9"]).directives =
        [⟨"required", none⟩, ⟨"regex", some slashed⟩, ⟨"max", some "9"⟩]) ∧
    (Text.EndsClear plain.toList ∧ '|' ∉ plain.toList ∧
      (∀ other ∈ ["required"] ++ ["max:9"], '|' ∉ other.toList) ∧
      (Spec.piped "required|regex:/a:b,c/iz|max:9").directives =
        (Spec.list ["required", "regex:" ++ plain, "max:9"]).directives) ∧
    (IsSlashed slashed "^a|b:c,d/e$" "xix" ∧
      ∀ source letters, IsSlashed slashed source letters → "^a|b:c,d/e$" = source) ∧
    (step.directive = ⟨"regex", some slashed⟩ ∧
      Reads slashed "^a|b:c,d/e$" { anyCase := true, verbose := true } ∧
      Builtin.regex.holds s =
        (Pattern.read? { anyCase := true, verbose := true } "^a|b:c,d/e$").any
          (·.occursIn "B:C,D/E") ∧
      s.matchesKept (keptAfter [.fetch slashed, .fetch plain, .drop slashed, .fetch slashed]) =
        Builtin.regex.holds s) ∧
    Reads plain plain {} := by
  intro slashed plain step s
  obtain ⟨htokens, -, hunique, hverdict⟩ := compiled_as_written
  have hflags : "xix".toList.all isFlag = true := by decide
  have hslashed : IsSlashed slashed "^a|b:c,d/e$" "xix" :=
    ⟨by decide, fun c hc => (isFlag_iff c).1 (List.all_eq_true.1 hflags c hc)⟩
  have hplain : Reads plain plain {} := by
    refine .verbatim fun source letters h => ?_
    have hread : ofArgument plain = ⟨plain.toList, []⟩ := by decide
    rw [h.ofArgument_eq, Expression.mk.injEq] at hread
    have hlength := congrArg List.length h.toList_eq
    rw [hread.1, List.length_cons, List.length_append, List.length_cons] at hlength
    omega
  have hends : Text.EndsClear slashed.toList ∧ Text.EndsClear plain.toList := by decide
  have hbars : '|' ∉ plain.toList ∧ ∀ other ∈ ["required"] ++ ["max:9"], '|' ∉ other.toList := by
    decide
  have hlist := (htokens slashed hends.1 ["required"] ["max:9"]).1
  have hpiped := (htokens plain hends.2 ["required"] ["max:9"]).2 hbars.1 hbars.2
  obtain ⟨-, hholds, hkept⟩ := hverdict ⟨[step], Builtin.required.judge, true⟩
    [("path", .string "B:C,D/E")] step slashed _ _ rfl (.slashed hslashed)
  exact ⟨⟨hends.1, hlist.trans (by decide +kernel)⟩, ⟨hends.2, hbars.1, hbars.2, hpiped⟩,
    ⟨hslashed, fun source letters h => (hunique _ _ _ _ _ hslashed h).1⟩,
    ⟨rfl, .slashed hslashed, hholds, hkept _⟩, hplain⟩

end Expression

end FieldRules
