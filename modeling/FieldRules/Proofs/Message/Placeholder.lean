import FieldRules.Message.Template
import FieldRules.Proofs.Text.Trimmed

namespace FieldRules.Template

/-- A character of a word: an ASCII letter or digit, or an underscore. -/
def isWordChar (c : Char) : Bool := c.isAlphanum || c = '_'

/-- The name of a placeholder and what comes after it: digits as far as they reach, or a letter or an
underscore and the characters of words as far as they reach. -/
inductive IsName : List Char → List Char → Prop
  | digits {ds rest : List Char} (ne_nil : ds ≠ []) (all : Text.IsStretch Char.isDigit ds rest) :
      IsName ds rest
  | word {first : Char} {more rest : List Char} (starts : first.isAlpha = true ∨ first = '_')
      (all : Text.IsStretch isWordChar more rest) : IsName (first :: more) rest

/-- The pieces are those of a text: a colon with a name after it is a placeholder, and every other
character stands for itself. -/
inductive Splits : List Piece → List Char → Prop
  | nil : Splits [] []
  | plain {c : Char} {ps : List Piece} {rest : List Char}
      (bare : c = ':' → ∀ name after, rest = name ++ after → ¬IsName name after)
      (others : Splits ps rest) : Splits (.plain c :: ps) (c :: rest)
  | placeholder {name rest : List Char} {ps : List Piece} (isName : IsName name rest)
      (others : Splits ps rest) : Splits (.placeholder name :: ps) (':' :: (name ++ rest))

/-- The names of the placeholders, in order. -/
def names : List Piece → List String
  | [] => []
  | .plain _ :: ps => names ps
  | .placeholder name :: ps => String.ofList name :: names ps

/-- The text of the pieces with each placeholder replaced by its answer, or as it is written where
there is none. -/
def filled : List Piece → List (Option String) → List Char
  | [], _ => []
  | .plain c :: ps, answers => c :: filled ps answers
  | .placeholder name :: ps, answers =>
    (answers.head?.join.elim (':' :: name) String.toList) ++ filled ps answers.tail

theorem not_isDigit_of_starts {c : Char} (h : c.isAlpha = true ∨ c = '_') : c.isDigit = false := by
  rcases h with halpha | rfl
  · have hletter : c.isUpper = true ∨ c.isLower = true := (Bool.or_eq_true ..).mp halpha
    have hupper : c.isUpper = true → 65 ≤ c.toNat ∧ c.toNat ≤ 90 := of_decide_eq_true
    have hlower : c.isLower = true → 97 ≤ c.toNat ∧ c.toNat ≤ 122 := fun h =>
      ((Bool.and_eq_true ..).mp h).imp of_decide_eq_true of_decide_eq_true
    have hdigit : c.isDigit = true → 48 ≤ c.toNat ∧ c.toNat ≤ 57 := fun h =>
      ((Bool.and_eq_true ..).mp h).imp of_decide_eq_true of_decide_eq_true
    rw [← Bool.not_eq_true]
    intro h
    have hbounds := hdigit h
    rcases hletter with h | h
    · have hbounds' := hupper h
      omega
    · have hbounds' := hlower h
      omega
  · decide

theorem startsName_iff (c : Char) : startsName c = true ↔ c.isAlpha = true ∨ c = '_' := by
  simp [startsName]

theorem continues_word : continues false = isWordChar := by
  funext c
  simp only [continues, isWordChar, startsName, Char.isAlphanum]
  cases c.isAlpha <;> cases c.isDigit <;> simp

namespace IsName

variable {name rest : List Char}

theorem ne_nil (h : IsName name rest) : name ≠ [] := by
  cases h with
  | digits ne_nil => exact ne_nil
  | word => simp

/-- A name begins with a digit, a letter or an underscore. -/
theorem head (h : IsName name rest) {c : Char} (hc : (name ++ rest).head? = some c) :
    c.isDigit = true ∨ startsName c = true := by
  cases h with
  | digits ne_nil all =>
    cases name with
    | nil => exact absurd rfl ne_nil
    | cons d ds =>
      obtain rfl : d = c := by simpa using hc
      exact .inl (all.inside d List.mem_cons_self)
  | word starts =>
    obtain rfl := Option.some.inj hc
    exact .inr ((startsName_iff _).2 starts)

/-- At most one name begins at the front of a text. -/
theorem unique {name' rest' : List Char} (h : IsName name rest) (h' : IsName name' rest')
    (same : name ++ rest = name' ++ rest') : name = name' ∧ rest = rest' := by
  cases h with
  | digits ne_nil all =>
    cases h' with
    | digits _ all' => exact all.unique all' same
    | word starts' =>
      cases name with
      | nil => exact absurd rfl ne_nil
      | cons d ds =>
        obtain rfl := (List.cons.inj same).1
        have hdigit := all.inside d List.mem_cons_self
        simp [not_isDigit_of_starts starts'] at hdigit
  | word starts all =>
    cases h' with
    | digits ne_nil' all' =>
      cases name' with
      | nil => exact absurd rfl ne_nil'
      | cons d ds =>
        obtain rfl := (List.cons.inj same).1
        have hdigit := all'.inside _ List.mem_cons_self
        simp [not_isDigit_of_starts starts] at hdigit
    | word _ all' =>
      obtain ⟨rfl, hmore⟩ := List.cons.inj same
      obtain ⟨rfl, hrest⟩ := all.unique all' hmore
      exact ⟨rfl, hrest⟩

end IsName

/-- A colon is bare where no name can begin after it. -/
theorem bare_of_head {rest : List Char}
    (h : ∀ c, rest.head? = some c → c.isDigit = false ∧ startsName c = false) :
    ∀ name after, rest = name ++ after → ¬IsName name after := by
  rintro name after rfl hname
  cases hhead : (name ++ after).head? with
  | none =>
    have hempty := List.head?_eq_none_iff.1 hhead
    exact hname.ne_nil (List.append_eq_nil_iff.1 hempty).1
  | some c =>
    have hstart := hname.head hhead
    simp [h c hhead] at hstart

namespace Splits

variable {ps qs : List Piece} {cs : List Char}

theorem written (h : Splits ps cs) : ps.flatMap Piece.written = cs := by
  induction h with
  | nil => rfl
  | plain _ _ ih => simp [Piece.written, ih]
  | placeholder _ _ ih => simp [Piece.written, ih]

theorem unique (h : Splits ps cs) (h' : Splits qs cs) : ps = qs := by
  induction h generalizing qs with
  | nil => cases h'; rfl
  | @plain c ps rest bare _ ih =>
    generalize hcs : c :: rest = cs at h'
    cases h' with
    | nil => simp at hcs
    | plain _ others' =>
      obtain ⟨rfl, rfl⟩ := List.cons.inj hcs
      rw [ih others']
    | placeholder isName' =>
      obtain ⟨rfl, hrest⟩ := List.cons.inj hcs
      exact absurd isName' (bare rfl _ _ hrest)
  | @placeholder name rest ps isName _ ih =>
    generalize hcs : ':' :: (name ++ rest) = cs at h'
    cases h' with
    | nil => simp at hcs
    | plain bare' =>
      obtain ⟨rfl, hrest⟩ := List.cons.inj hcs
      exact absurd isName (bare' rfl _ _ hrest.symm)
    | placeholder isName' others' =>
      obtain ⟨rfl, rfl⟩ := isName.unique isName' (List.cons.inj hcs).2
      rw [ih others']

end Splits

/-- What has been read of the piece that the reader is in. -/
def Place.pending : Place → List Char
  | .text => []
  | .colon => [':']
  | .name _ sofar => ':' :: sofar

/-- A placeholder that the reader is in has begun as a name does and goes on so. -/
def Place.IsSound : Place → Prop
  | .text | .colon => True
  | .name true sofar => sofar ≠ [] ∧ ∀ c ∈ sofar, c.isDigit = true
  | .name false sofar => ∃ first more, sofar = first :: more ∧ startsName first = true ∧
      ∀ c ∈ more, isWordChar c = true

theorem Place.IsSound.snoc {digits : Bool} {sofar : List Char} {c : Char}
    (h : IsSound (.name digits sofar)) (hc : continues digits c = true) :
    IsSound (.name digits (sofar ++ [c])) := by
  cases digits with
  | true =>
    refine ⟨by simp, fun d hd => ?_⟩
    rcases List.mem_append.1 hd with hold | hnew
    · exact h.2 d hold
    · rw [List.mem_singleton.1 hnew]
      exact hc
  | false =>
    obtain ⟨first, more, rfl, hfirst, hmore⟩ := h
    refine ⟨first, more ++ [c], rfl, hfirst, fun d hd => ?_⟩
    rcases List.mem_append.1 hd with hold | hnew
    · exact hmore d hold
    · rw [List.mem_singleton.1 hnew, ← continues_word]
      exact hc

/-- A placeholder ends where it cannot go on. -/
theorem Place.IsSound.isName {digits : Bool} {sofar rest : List Char}
    (h : IsSound (.name digits sofar))
    (stops : ∀ c, rest.head? = some c → continues digits c = false) : IsName sofar rest := by
  cases digits with
  | true => exact .digits h.1 ⟨h.2, stops⟩
  | false =>
    obtain ⟨first, more, rfl, hfirst, hmore⟩ := h
    rw [continues_word] at stops
    exact .word ((startsName_iff first).1 hfirst) ⟨hmore, stops⟩

/-- From any place, the pieces that the reader finds are those of what is pending and what is left. -/
theorem splits_piecesFrom (place : Place) (cs : List Char) (sound : place.IsSound) :
    Splits (piecesFrom place cs) (place.pending ++ cs) := by
  fun_induction piecesFrom place cs with
  | case1 => exact .nil
  | case2 => exact .plain (fun _ => bare_of_head (by simp)) .nil
  | case3 digits sofar =>
    have hname : IsName sofar [] := sound.isName (by simp)
    have hsplit := Splits.placeholder hname .nil
    simpa [Place.pending] using hsplit
  | case4 cs ih => exact ih trivial
  | case5 c cs hc ih => exact .plain (fun he => absurd he hc) (ih trivial)
  | case6 c cs hdigit ih => exact ih ⟨by simp, by simpa using hdigit⟩
  | case7 c cs _ hstarts ih => exact ih ⟨c, [], rfl, hstarts, by simp⟩
  | case8 cs hdigit hstarts ih =>
    exact .plain (fun _ => bare_of_head (by simp [hdigit, hstarts])) (ih trivial)
  | case9 c cs hdigit hstarts hc ih =>
    refine .plain (fun _ => bare_of_head ?_) (.plain (fun he => absurd he hc) (ih trivial))
    simp [hdigit, hstarts]
  | case10 digits sofar c cs hgoes ih =>
    have hsplit := ih (sound.snoc hgoes)
    simpa [Place.pending] using hsplit
  | case11 digits sofar cs hstops ih =>
    refine .placeholder (sound.isName ?_) (ih trivial)
    simpa using hstops
  | case12 digits sofar c cs hstops hc ih =>
    refine .placeholder (sound.isName ?_) (.plain (fun he => absurd he hc) (ih trivial))
    simpa using hstops

theorem splits_pieces (template : List Char) : Splits (pieces template) template :=
  splits_piecesFrom .text template trivial

theorem filled_of_no_answer (ps : List Piece) {answers : List (Option String)}
    (h : ∀ answer ∈ answers, answer = none) :
    filled ps answers = ps.flatMap Piece.written := by
  induction ps generalizing answers with
  | nil => rfl
  | cons p ps ih =>
    cases p with
    | plain c => simp [filled, Piece.written, ih h]
    | placeholder name =>
      have htail : ∀ answer ∈ answers.tail, answer = none :=
        fun answer ha => h answer (List.mem_of_mem_tail ha)
      have hhead : answers.head?.join = none := by
        cases answers with
        | nil => rfl
        | cons answer rest => simp [h answer List.mem_cons_self]
      simp [filled, Piece.written, hhead, ih htail]

section Resolver

variable {m : Type → Type} [Monad m] [LawfulMonad m] (resolve : String → m (Option String))

/-- Filling asks for the names in order, and then puts the answers in their places. -/
theorem fill_eq (ps : List Piece) :
    fill resolve ps = (do
      let answers ← (names ps).mapM resolve
      pure (filled ps answers)) := by
  induction ps with
  | nil => simp [fill, names, filled]
  | cons p ps ih =>
    cases p with
    | plain c => simp [fill, names, filled, ih]
    | placeholder name =>
      simp only [fill, names, ih, List.mapM_cons, bind_assoc, pure_bind]
      refine bind_congr fun answer => bind_congr fun answers => ?_
      cases answer <;> simp [filled]

/-- A resolver that never answers gives no answers to any names. -/
theorem mapM_of_no_answer (silent : ∀ name, resolve name = (fun _ => none) <$> resolve name)
    (l : List String) :
    l.mapM resolve = (fun answers => answers.map fun _ => none) <$> l.mapM resolve := by
  induction l with
  | nil => simp
  | cons name rest ih =>
    rw [List.mapM_cons, silent name, ih]
    simp only [bind_pure_comp, Functor.map_map, bind_map_left, map_bind, List.map_cons,
      List.map_map, Function.comp_def]

/-- A template splits in exactly one way into plain characters and placeholders. Filling it asks the
resolver, whatever effects that has, once for each placeholder and in order, and puts the answers in
their places. -/
theorem filled_in_order (template : String) :
    (∃! ps, Splits ps template.toList) ∧
    ∀ ps, Splits ps template.toList →
      ps.flatMap Piece.written = template.toList ∧
      substituteM resolve template = (do
        let answers ← (names ps).mapM resolve
        pure (String.ofList (filled ps answers))) ∧
      ((∀ name, resolve name = (fun _ => none) <$> resolve name) →
        substituteM resolve template = (do
          let _ ← (names ps).mapM resolve
          pure template)) := by
  have hsplits := splits_pieces template.toList
  refine ⟨⟨_, hsplits, fun ps h => h.unique hsplits⟩, fun ps h => ?_⟩
  obtain rfl := h.unique hsplits
  have hfill : substituteM resolve template = (do
      let answers ← (names (pieces template.toList)).mapM resolve
      pure (String.ofList (filled (pieces template.toList) answers))) := by
    simp [substituteM, fill_eq]
  refine ⟨h.written, hfill, fun silent => ?_⟩
  rw [hfill, mapM_of_no_answer resolve silent]
  simp only [bind_map_left]
  refine bind_congr fun answers => ?_
  rw [filled_of_no_answer _ (by simp), h.written, String.ofList_toList]

end Resolver

/-- Answers with what a table says, and keeps a record of the names that it was asked for. -/
def recordedLookup (table : List (String × String)) (name : String) :
    StateM (List String) (Option String) := do
  modify fun asked => asked ++ [name]
  pure (table.lookup name)

/-- A time, a name that is answered with a placeholder, a second colon, a number before a letter, a
word of letters and digits before a letter outside ASCII, and a colon at the end. -/
theorem filled_in_order_time :
    let template := "at 10:30 for :who::0x, :_a1é:"
    let resolve := recordedLookup [("who", ":0"), ("0", "nil")]
    let ps := pieces template.toList
    LawfulMonad (StateM (List String)) ∧ Splits ps template.toList ∧
    names ps = ["30", "who", "0", "_a1"] ∧
    (substituteM resolve template).run [] =
      ("at 10:30 for :0:nilx, :_a1é:", ["30", "who", "0", "_a1"]) ∧
    (∀ name, recordedLookup [] name = (fun _ => none) <$> recordedLookup [] name) ∧
    (substituteM (recordedLookup []) template).run [] =
      (template, ["30", "who", "0", "_a1"]) := by
  intro template resolve ps
  have hsplits : Splits ps template.toList := splits_pieces template.toList
  have hnames : names ps = ["30", "who", "0", "_a1"] := by decide
  obtain ⟨-, hfilled, -⟩ := (filled_in_order resolve template).2 ps hsplits
  obtain ⟨-, -, hsilent⟩ := (filled_in_order (recordedLookup []) template).2 ps hsplits
  have silent (name : String) :
      recordedLookup [] name = (fun _ => none) <$> recordedLookup [] name := rfl
  refine ⟨inferInstance, hsplits, hnames, ?_, silent, ?_⟩
  · rw [hfilled, hnames]
    exact Prod.ext (by decide +kernel) (by decide +kernel)
  · rw [hsilent silent, hnames]
    rfl

end FieldRules.Template
