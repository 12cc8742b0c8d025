import FieldRules.Proofs.Form

namespace FieldRules

namespace Url

/-- A letter is written as itself or as its capital, and an s also as the long s. -/
def WritesLetter (letter c : Char) : Prop :=
  c = letter ∨ c = letter.toUpper ∨ (letter = 's' ∧ c = 'ſ')

/-- One of three words in any case. -/
def IsScheme (cs : List Char) : Prop :=
  ∃ word ∈ ["http", "https", "ftp"], List.Forall₂ WritesLetter word.toList cs

structure IsHost (cs : List Char) : Prop where
  ne_nil : cs ≠ []
  clear : ∀ c ∈ cs, Text.isBlank c = false ∧ c ≠ '/' ∧ c ≠ '?' ∧ c ≠ '#'
  starts : cs.head? ≠ some '.'
  /-- No two points are in a row. -/
  apart : ¬['.', '.'] <:+: cs

instance (cs : List Char) : Decidable (IsHost cs) :=
  decidable_of_iff
    (cs ≠ [] ∧ (cs.all fun c => !Text.isBlank c && (c != '/' && (c != '?' && c != '#'))) = true ∧
      cs.head? ≠ some '.' ∧ ¬['.', '.'] <:+: cs)
    (by
      simp only [List.all_eq_true, Bool.and_eq_true, Bool.not_eq_true', bne_iff_ne]
      exact ⟨fun h => ⟨h.1, h.2.1, h.2.2.1, h.2.2.2⟩, fun h => ⟨h.1, h.2, h.3, h.4⟩⟩)

/-- Nothing, or a slash with any text without blanks. -/
def IsPath (cs : List Char) : Prop :=
  cs = [] ∨ ∃ rest, cs = '/' :: rest ∧ ∀ c ∈ rest, Text.isBlank c = false

end Url

/-- The text is made of a scheme, `://`, a host and a path. -/
def IsUrl (text : List Char) : Prop :=
  ∃ scheme host path, text = scheme ++ "://".toList ++ host ++ path ∧
    Url.IsScheme scheme ∧ Url.IsHost host ∧ Url.IsPath path

namespace Url

/-- The variants in case of the letters of schemes. -/
theorem mem_caseVariants_iff {letter : Char} (h : letter ∈ "htpsf".toList) (c : Char) :
    c ∈ Unicode.caseVariants letter ↔ WritesLetter letter c := by
  have hh : Unicode.caseVariants 'h' = ['h', 'H'] := by decide +kernel
  have ht : Unicode.caseVariants 't' = ['t', 'T'] := by decide +kernel
  have hp : Unicode.caseVariants 'p' = ['p', 'P'] := by decide +kernel
  have hs : Unicode.caseVariants 's' = ['s', 'S', 'ſ'] := by decide +kernel
  have hf : Unicode.caseVariants 'f' = ['f', 'F'] := by decide +kernel
  have hletters : "htpsf".toList = ['h', 't', 'p', 's', 'f'] := by decide
  simp only [hletters, List.mem_cons, List.not_mem_nil, or_false] at h
  rcases h with rfl | rfl | rfl | rfl | rfl
  · simp [WritesLetter, hh]
  · simp [WritesLetter, ht]
  · simp [WritesLetter, hp]
  · simp [WritesLetter, hs]
  · simp [WritesLetter, hf]

theorem mem_language_wordAnyCase_iff {word : String}
    (h : word.toList ⊆ "htpsf".toList) {l : List Char} :
    l ∈ (Pattern.wordAnyCase word).language ↔ List.Forall₂ WritesLetter word.toList l := by
  rw [Pattern.mem_language_wordAnyCase]
  constructor
  · intro hall
    exact ((List.forall₂_and_left _ _).2 ⟨h, hall⟩).imp fun a c hac =>
      (mem_caseVariants_iff hac.1 c).1 hac.2
  · intro hall
    exact ((List.forall₂_and_left _ _).2 ⟨h, hall⟩).imp fun a c hac =>
      (mem_caseVariants_iff hac.1 c).2 hac.2

def schemeForm : Pattern :=
  .alt (.sequence [.wordAnyCase "http", .optional (.charAnyCase 's')]) (.wordAnyCase "ftp")

theorem mem_language_schemeForm {l : List Char} : l ∈ schemeForm.language ↔ IsScheme l := by
  have hhttp : "http".toList ⊆ "htpsf".toList := by decide
  have hftp : "ftp".toList ⊆ "htpsf".toList := by decide
  have hs {c : Char} : c ∈ Unicode.caseVariants 's' ↔ WritesLetter 's' c :=
    mem_caseVariants_iff (by decide) c
  have hhttps : "https".toList = "http".toList ++ ['s'] := by decide
  simp only [schemeForm, Pattern.mem_language_alt, Pattern.mem_language_sequence_cons,
    Pattern.mem_language_sequence_nil, Pattern.mem_language_optional,
    mem_language_wordAnyCase_iff hhttp, mem_language_wordAnyCase_iff hftp, Pattern.charAnyCase,
    Pattern.mem_language_one, List.contains_iff_mem, hs]
  constructor
  · rintro (⟨front, hfront, _, ⟨last, hlast, _, rfl, rfl⟩, rfl⟩ | hall)
    · rw [List.append_nil]
      obtain rfl | ⟨c, hc, rfl⟩ := hlast
      · exact ⟨"http", by simp, by rwa [List.append_nil]⟩
      · refine ⟨"https", by simp, ?_⟩
        rw [hhttps]
        exact List.rel_append hfront (.cons hc .nil)
    · exact ⟨"ftp", by simp, hall⟩
  · rintro ⟨word, hword, hall⟩
    simp only [List.mem_cons, List.not_mem_nil, or_false] at hword
    obtain rfl | rfl | rfl := hword
    · exact .inl ⟨l, hall, [], ⟨[], .inl rfl, [], rfl, rfl⟩, List.append_nil l⟩
    · rw [hhttps] at hall
      have hflip : List.Forall₂ (flip WritesLetter) l ("http".toList ++ ['s']) := hall.flip
      have hfront := (List.forall₂_take_append _ _ _ hflip).flip
      have hlast := (List.forall₂_drop_append _ _ _ hflip).flip
      obtain ⟨c, rest, hc, hrest, hdrop⟩ := List.forall₂_cons_left_iff.1 hlast
      obtain rfl := List.forall₂_nil_left_iff.1 hrest
      refine .inl ⟨_, hfront, _, ⟨[c], .inr ⟨c, hc, rfl⟩, [], rfl, rfl⟩, ?_⟩
      rw [List.append_nil, ← hdrop, List.take_append_drop]
    · exact .inr hall

theorem isHostChar_iff {c : Char} :
    Builtin.isHostChar c = true ↔
      (Text.isBlank c = false ∧ c ≠ '/' ∧ c ≠ '?' ∧ c ≠ '#') ∧ c ≠ '.' := by
  simp only [Builtin.isHostChar, Bool.and_eq_true, Bool.not_eq_true', bne_iff_ne]
  tauto

/-- Two points in a row are two neighbours that both are points. -/
theorem apart_iff_isChain {cs : List Char} :
    ¬['.', '.'] <:+: cs ↔ cs.IsChain fun c d => ¬(c = '.' ∧ d = '.') := by
  rw [List.isChain_iff_forall_rel_of_append_cons_cons]
  constructor
  · rintro h _ _ front back rfl ⟨rfl, rfl⟩
    exact h ⟨front, back, by simp⟩
  · rintro h ⟨front, back, rfl⟩
    exact @h _ _ front back (by simp) ⟨rfl, rfl⟩

theorem IsHost.isChain {cs : List Char} (h : IsHost cs) :
    cs.IsChain fun c d => ¬(c = '.' ∧ d = '.') := apart_iff_isChain.1 h.apart

/-- A stretch of a host between points, with the point after it if there is one. -/
def labelForm : Pattern := .sequence [.plus (.one Builtin.isHostChar), .optional (.char '.')]

theorem mem_language_labelForm {l : List Char} :
    l ∈ labelForm.language ↔ ∃ label, label ≠ [] ∧
      (∀ c ∈ label, Builtin.isHostChar c = true) ∧ (l = label ∨ l = label ++ ['.']) := by
  simp only [labelForm, Pattern.mem_language_sequence_cons, Pattern.mem_language_sequence_nil,
    Pattern.mem_language_optional, Pattern.mem_language_char, Pattern.mem_language_plus_one]
  constructor
  · rintro ⟨label, ⟨hne, hall⟩, _, ⟨point, rfl | rfl, _, rfl, rfl⟩, rfl⟩
    · exact ⟨label, hne, hall, .inl (by simp)⟩
    · exact ⟨label, hne, hall, .inr (by simp)⟩
  · rintro ⟨label, hne, hall, rfl | rfl⟩
    · exact ⟨l, ⟨hne, hall⟩, [], ⟨[], .inl rfl, [], rfl, rfl⟩, by simp⟩
    · exact ⟨label, ⟨hne, hall⟩, ['.'], ⟨['.'], .inr rfl, [], rfl, rfl⟩, by simp⟩

/-- A host without its first point is one where it is not empty and no other point comes first. -/
theorem IsHost.of_append {front rest : List Char} (h : IsHost (front ++ rest)) (ne_nil : rest ≠ [])
    (starts : rest.head? ≠ some '.') : IsHost rest where
  ne_nil := ne_nil
  clear c hc := h.clear c (List.mem_append_right front hc)
  starts := starts
  apart hin := h.apart (hin.trans (List.suffix_append front rest).isInfix)

/-- A label before a host, or before nothing, makes a host. -/
theorem isHost_label_append {l rest : List Char} (hl : l ∈ labelForm.language)
    (hrest : rest = [] ∨ IsHost rest) : IsHost (l ++ rest) := by
  obtain ⟨label, hne, hall, hl⟩ := mem_language_labelForm.1 hl
  have hclear : ∀ c ∈ label, (Text.isBlank c = false ∧ c ≠ '/' ∧ c ≠ '?' ∧ c ≠ '#') ∧ c ≠ '.' :=
    fun c hc => isHostChar_iff.1 (hall c hc)
  have hrestClear : ∀ c ∈ rest, Text.isBlank c = false ∧ c ≠ '/' ∧ c ≠ '?' ∧ c ≠ '#' := by
    rcases hrest with rfl | hrest
    · simp
    · exact hrest.clear
  have hrestChain : rest.IsChain fun c d => ¬(c = '.' ∧ d = '.') := by
    rcases hrest with rfl | hrest
    · exact .nil
    · exact hrest.isChain
  have hrestStarts : ∀ c ∈ rest.head?, c ≠ '.' := by
    rcases hrest with rfl | hrest
    · simp
    · rintro c hc rfl
      exact hrest.starts hc
  -- what stands after the label has no points in a row, and the label has none at all
  obtain ⟨body, hbody, hbodyClear, hbodyChain⟩ : ∃ body, l ++ rest = label ++ body ∧
      (∀ c ∈ body, Text.isBlank c = false ∧ c ≠ '/' ∧ c ≠ '?' ∧ c ≠ '#') ∧
      body.IsChain fun c d => ¬(c = '.' ∧ d = '.') := by
    rcases hl with rfl | rfl
    · exact ⟨rest, rfl, hrestClear, hrestChain⟩
    · refine ⟨'.' :: rest, by simp, List.forall_mem_cons.2 ⟨by decide, hrestClear⟩, ?_⟩
      exact hrestChain.cons fun d hd hpoints => hrestStarts d hd hpoints.2
  have hlabelChain : label.IsChain fun c d => ¬(c = '.' ∧ d = '.') := by
    rw [List.isChain_iff_forall_rel_of_append_cons_cons]
    rintro c d front back rfl ⟨hpoint, -⟩
    exact (hclear c (by simp)).2 hpoint
  rw [hbody]
  refine {
    ne_nil := List.append_ne_nil_of_left_ne_nil hne body
    clear := fun c hc => ?clear
    starts := ?starts
    apart := ?apart }
  case clear =>
    exact (List.mem_append.1 hc).elim (fun hin => (hclear c hin).1) (hbodyClear c)
  case starts =>
    rw [List.head?_append_of_ne_nil label hne]
    intro hhead
    exact (hclear '.' (List.mem_of_mem_head? hhead)).2 rfl
  case apart =>
    refine apart_iff_isChain.2 (hlabelChain.append hbodyChain fun c hc d _ hpoints => ?_)
    exact (hclear c (List.mem_of_mem_getLast? hc)).2 hpoints.1

theorem isHost_of_mem_pow {n : Nat} {l : List Char} (h : l ∈ labelForm.language ^ n) :
    l = [] ∨ IsHost l := by
  induction n generalizing l with
  | zero => exact .inl ((Language.mem_one l).1 h)
  | succ n ih =>
    rw [pow_succ'] at h
    obtain ⟨label, hlabel, rest, hrest, rfl⟩ := Language.mem_mul.1 h
    exact .inr (isHost_label_append hlabel (ih hrest))

/-- A host begins with a label, and what comes after that is a host again or nothing. -/
theorem IsHost.exists_label {l : List Char} (h : IsHost l) :
    ∃ label rest, label ++ rest = l ∧ label ≠ [] ∧ label ∈ labelForm.language ∧
      (rest = [] ∨ IsHost rest) := by
  let front := l.takeWhile Builtin.isHostChar
  have hfront : ∀ c ∈ front, Builtin.isHostChar c = true := fun c hc => List.mem_takeWhile_imp hc
  have hsplit : front ++ l.dropWhile Builtin.isHostChar = l := List.takeWhile_append_dropWhile
  have hne : front ≠ [] := by
    obtain ⟨c, cs, rfl⟩ := List.exists_cons_of_ne_nil h.ne_nil
    have hpoint : c ≠ '.' := fun hc => h.starts (by rw [hc]; rfl)
    have hc := isHostChar_iff.2 ⟨h.clear c List.mem_cons_self, hpoint⟩
    simp [front, hc]
  cases hrest : l.dropWhile Builtin.isHostChar with
  | nil =>
    rw [hrest] at hsplit
    exact ⟨front, [], hsplit, hne, mem_language_labelForm.2 ⟨front, hne, hfront, .inl rfl⟩,
      .inl rfl⟩
  | cons d rest =>
    rw [hrest] at hsplit
    -- nothing in a host but a point ends a label
    obtain rfl : d = '.' := by
      have hd : Builtin.isHostChar d = false := by
        have hhead := List.head?_dropWhile_not Builtin.isHostChar l
        simpa only [hrest, List.head?_cons] using hhead
      by_contra hpoint
      have hin := h.clear d (hsplit ▸ List.mem_append_right front List.mem_cons_self)
      rw [isHostChar_iff.2 ⟨hin, hpoint⟩] at hd
      exact Bool.noConfusion hd
    have hjoined : front ++ ['.'] ++ rest = l := by simpa using hsplit
    have hlabel : front ++ ['.'] ∈ labelForm.language :=
      mem_language_labelForm.2 ⟨front, hne, hfront, .inr rfl⟩
    refine ⟨front ++ ['.'], rest, hjoined, by simp, hlabel, ?_⟩
    by_cases hempty : rest = []
    · exact .inl hempty
    · right
      refine (hjoined ▸ h).of_append hempty fun hhead => ?_
      obtain ⟨others, rfl⟩ := List.head?_eq_some_iff.1 hhead
      exact h.apart ⟨front, others, by simpa using hsplit⟩

theorem IsHost.mem_pow {l : List Char} (h : IsHost l) :
    ∃ n, 1 ≤ n ∧ l ∈ labelForm.language ^ n := by
  induction hlength : l.length using Nat.strong_induction_on generalizing l with
  | _ length ih =>
    subst hlength
    obtain ⟨label, rest, rfl, hne, hlabel, hrest⟩ := h.exists_label
    rcases hrest with rfl | hhost
    · refine ⟨1, le_rfl, ?_⟩
      rwa [pow_one, List.append_nil]
    · have hshorter : rest.length < (label ++ rest).length := by
        have hpos := List.length_pos_iff.2 hne
        rw [List.length_append]
        omega
      obtain ⟨n, -, hn⟩ := ih rest.length hshorter hhost rfl
      refine ⟨n + 1, Nat.le_add_left 1 n, ?_⟩
      rw [pow_succ']
      exact Language.append_mem_mul hlabel hn

/-- Labels in a row, at least one, are the hosts. -/
theorem mem_language_labels {l : List Char} :
    l ∈ (Pattern.plus labelForm).language ↔ IsHost l := by
  rw [Pattern.plus, Pattern.mem_language_rep]
  constructor
  · rintro ⟨n, ⟨hleast, -⟩, hl⟩
    obtain ⟨m, rfl⟩ := Nat.exists_eq_add_of_le' hleast
    rw [pow_succ'] at hl
    obtain ⟨label, hlabel, rest, hrest, rfl⟩ := Language.mem_mul.1 hl
    exact isHost_label_append hlabel (isHost_of_mem_pow hrest)
  · intro h
    obtain ⟨n, hleast, hl⟩ := h.mem_pow
    exact ⟨n, ⟨hleast, by simp⟩, hl⟩

def pathForm : Pattern := .sequence [.char '/', .star (.one fun c => !Text.isBlank c)]

theorem mem_language_path {l : List Char} :
    l ∈ (Pattern.optional pathForm).language ↔ IsPath l := by
  simp only [pathForm, Pattern.mem_language_optional, Pattern.mem_language_sequence_cons,
    Pattern.mem_language_sequence_nil, Pattern.mem_language_char, Pattern.mem_language_star_one,
    Bool.not_eq_true']
  constructor
  · rintro (rfl | ⟨_, rfl, _, ⟨rest, hrest, _, rfl, rfl⟩, rfl⟩)
    · exact .inl rfl
    · exact .inr ⟨rest, by simp, hrest⟩
  · rintro (rfl | ⟨rest, rfl, hrest⟩)
    · exact .inl rfl
    · exact .inr ⟨['/'], rfl, rest, ⟨rest, hrest, [], rfl, List.append_nil rest⟩, rfl⟩

/-- The form of addresses with something before the labels of the host. -/
def formWith (front : Pattern) : Pattern :=
  .whole (.sequence [schemeForm, .word "://", front, .plus labelForm, .optional pathForm])

/-- The host and what stands before it are a host together. -/
theorem isHost_front_append {front host : List Char} (h : IsHost host)
    (hfront : front = [] ∨ front = "-.".toList) : IsHost (front ++ host) := by
  rcases hfront with rfl | rfl
  · exact h
  · have hlabel : "-.".toList ∈ labelForm.language :=
      mem_language_labelForm.2
        ⟨['-'], by simp, List.forall_mem_singleton.2 (by decide), .inr (by decide)⟩
    exact isHost_label_append hlabel (.inr h)

/-- A front that may be left out, and is a label otherwise, changes nothing. -/
theorem occursIn_formWith_iff {front : Pattern} (plain : front.isPlain = true)
    (hnil : [] ∈ front.language) (hfront : ∀ l ∈ front.language, l = [] ∨ l = "-.".toList)
    (text : String) : (formWith front).occursIn text = true ↔ IsUrl text.toList := by
  have hplain : (Pattern.sequence [schemeForm, .word "://", front, .plus labelForm,
      .optional pathForm]).isPlain = true := by
    simp only [Pattern.sequence, List.foldr, Pattern.isPlain, plain]
    decide
  rw [formWith, Pattern.occursIn_whole_iff hplain]
  simp only [Pattern.mem_language_sequence_cons, Pattern.mem_language_sequence_nil,
    mem_language_schemeForm, Pattern.mem_language_word, mem_language_labels, mem_language_path]
  constructor
  · rintro ⟨scheme, hscheme, _, ⟨_, rfl, _, ⟨before, hbefore, _, ⟨host, hhost, _,
      ⟨path, hpath, _, rfl, rfl⟩, rfl⟩, rfl⟩, rfl⟩, htext⟩
    refine ⟨scheme, before ++ host, path, ?_, hscheme, ?_, hpath⟩
    · simp [← htext]
    · exact isHost_front_append hhost (hfront before hbefore)
  · rintro ⟨scheme, host, path, htext, hscheme, hhost, hpath⟩
    refine ⟨scheme, hscheme, _, ⟨_, rfl, _, ⟨[], hnil, _, ⟨host, hhost, _,
      ⟨path, hpath, _, rfl, rfl⟩, rfl⟩, rfl⟩, rfl⟩, ?_⟩
    simp [htext]

theorem urlForm_eq : Builtin.urlForm = formWith (.optional (.word "-.")) := rfl

theorem occursIn_urlForm_iff (text : String) :
    Builtin.urlForm.occursIn text = true ↔ IsUrl text.toList := by
  rw [urlForm_eq]
  refine occursIn_formWith_iff (by decide) ?_ ?_ text
  · exact Pattern.mem_language_optional.2 (.inl rfl)
  · intro l hl
    exact (Pattern.mem_language_optional.1 hl).imp_right Pattern.mem_language_word.1

theorem occursIn_formWith_empty_iff (text : String) :
    (formWith .empty).occursIn text = true ↔ IsUrl text.toList := by
  have hempty (l : List Char) : l ∈ Pattern.empty.language ↔ l = [] := Language.mem_one l
  exact occursIn_formWith_iff rfl ((hempty []).2 rfl) (fun l hl => .inl ((hempty l).1 hl)) text

theorem WritesLetter.ne_colon {letter c : Char} (hletter : letter ∈ "htpsf".toList)
    (h : WritesLetter letter c) : c ≠ ':' := by
  have hletters : "htpsf".toList = ['h', 't', 'p', 's', 'f'] := by decide
  simp only [hletters, List.mem_cons, List.not_mem_nil, or_false] at hletter
  rintro rfl
  rcases hletter with rfl | rfl | rfl | rfl | rfl <;> simp [WritesLetter] at h

theorem IsScheme.ne_colon {cs : List Char} (h : IsScheme cs) : ∀ c ∈ cs, c ≠ ':' := by
  obtain ⟨word, hword, hall⟩ := h
  have hletters : word.toList ⊆ "htpsf".toList := by
    simp only [List.mem_cons, List.not_mem_nil, or_false] at hword
    rcases hword with rfl | rfl | rfl <;> decide
  have hboth := (List.forall₂_and_left _ _).2 ⟨hletters, hall⟩
  have hclear : List.Forall₂ (fun c _ => c ≠ ':' ∧ True) cs word.toList :=
    (hboth.imp fun letter c hc => ⟨hc.2.ne_colon hc.1, trivial⟩).flip
  exact ((List.forall₂_and_left _ _).1 hclear).1

theorem IsScheme.isStretch {cs : List Char} (h : IsScheme cs) (rest : List Char) :
    Text.IsStretch (· != ':') cs ("://".toList ++ rest) where
  inside c hc := bne_iff_ne.2 (h.ne_colon c hc)
  stops c hc := by
    obtain rfl : ':' = c := Option.some.inj hc
    rfl

/-- A host ends before the first slash, question mark or number sign. -/
def isInHost (c : Char) : Bool := c != '/' && c != '?' && c != '#'

theorem IsHost.isStretch {cs rest : List Char} (h : IsHost cs)
    (hrest : ∀ c, rest.head? = some c → isInHost c = false) : Text.IsStretch isInHost cs rest where
  inside c hc := by
    obtain ⟨-, hslash, hquery, hfragment⟩ := h.clear c hc
    simp [isInHost, hslash, hquery, hfragment]
  stops := hrest

theorem IsPath.stops {cs : List Char} (h : IsPath cs) {c : Char} (hc : cs.head? = some c) :
    c = '/' := by
  rcases h with rfl | ⟨rest, rfl, -⟩
  · simp at hc
  · exact (Option.some.inj hc).symm

/-- What comes right after a host is a path, and no query or fragment. -/
theorem not_isUrl_of_mark {scheme host rest : List Char} {mark : Char} (hscheme : IsScheme scheme)
    (hhost : IsHost host) (hmark : mark = '?' ∨ mark = '#') :
    ¬IsUrl (scheme ++ "://".toList ++ host ++ mark :: rest) := by
  rintro ⟨scheme', host', path, htext, hscheme', hhost', hpath⟩
  simp only [List.append_assoc] at htext
  have htail : host ++ mark :: rest = host' ++ path :=
    List.append_cancel_left ((hscheme.isStretch _).unique (hscheme'.isStretch _) htext).2
  have hhere : Text.IsStretch isInHost host (mark :: rest) := by
    refine hhost.isStretch fun c hc => ?_
    obtain rfl : mark = c := Option.some.inj hc
    rcases hmark with rfl | rfl <;> rfl
  have hthere : Text.IsStretch isInHost host' path := by
    refine hhost'.isStretch fun c hc => ?_
    rw [hpath.stops hc]
    rfl
  have hslash := hpath.stops (c := mark) (by rw [← (hhere.unique hthere htail).2]; rfl)
  subst hslash
  simp at hmark

end Url

namespace Builtin

/-- The rule for web addresses accepts the texts made of a scheme, `://`, a host and perhaps a path,
and no others. The front that the form allows before the host adds nothing, and no query or fragment
comes right after the host. -/
theorem url_holds_iff (s : Subject) :
    (url.holds s = true ↔ ∃ text, s.value.asText = some text ∧ IsUrl text.toList) ∧
    (∀ text, urlForm.occursIn text = (Url.formWith .empty).occursIn text) ∧
    ∀ text scheme host mark rest, s.value.asText = some text →
      text.toList = scheme ++ "://".toList ++ host ++ mark :: rest → Url.IsScheme scheme →
      Url.IsHost host → mark = '?' ∨ mark = '#' → url.holds s = false := by
  have hholds : url.holds s = true ↔ ∃ text, s.value.asText = some text ∧ IsUrl text.toList :=
    holds_of_form_iff s rfl Url.occursIn_urlForm_iff
  refine ⟨hholds, fun text => ?_,
    fun text scheme host mark rest htext hcut hscheme hhost hmark => ?_⟩
  · rw [Bool.eq_iff_iff, Url.occursIn_urlForm_iff, Url.occursIn_formWith_empty_iff]
  · rw [← Bool.not_eq_true, hholds]
    rintro ⟨other, hother, hurl⟩
    obtain rfl : text = other := Option.some.inj (htext.symm.trans hother)
    exact Url.not_isUrl_of_mark hscheme hhost hmark (hcut ▸ hurl)

/-- A home page. -/
def homeSubject (address : String) : Subject :=
  Subject.ofField [("home", .string address)] "home" true

/-- An address with a long s, the front and a point at the end of the host is accepted, and one with
a query right after the host is not. -/
theorem url_holds_iff_home :
    let s := homeSubject "hTTPſ://-.a.b./c?d"
    let t := homeSubject "ftp://a.b?c/d"
    url.holds s = true ∧ IsUrl "hTTPſ://-.a.b./c?d".toList ∧
      (t.value.asText = some "ftp://a.b?c/d" ∧ Url.IsScheme "ftp".toList ∧ Url.IsHost "a.b".toList ∧
        url.holds t = false) ∧
      urlForm.occursIn "ftp://-.a" = (Url.formWith .empty).occursIn "ftp://-.a" := by
  intro s t
  obtain ⟨haccepts, hfront, -⟩ := url_holds_iff s
  obtain ⟨-, -, hquery⟩ := url_holds_iff t
  have hs : url.holds s = true := by decide +kernel
  obtain ⟨text, htext, hurl⟩ := haccepts.1 hs
  obtain rfl : "hTTPſ://-.a.b./c?d" = text := Option.some.inj htext
  have hletters : "ftp".toList = ['f', 't', 'p'] := by decide
  have hscheme : Url.IsScheme "ftp".toList := by
    refine ⟨"ftp", by simp, ?_⟩
    rw [hletters]
    exact .cons (.inl rfl) (.cons (.inl rfl) (.cons (.inl rfl) .nil))
  have hhost : Url.IsHost "a.b".toList := by decide
  have hcut : "ftp://a.b?c/d".toList =
      "ftp".toList ++ "://".toList ++ "a.b".toList ++ '?' :: "c/d".toList := by decide
  exact ⟨hs, hurl, ⟨rfl, hscheme, hhost, hquery _ _ _ _ _ rfl hcut hscheme hhost (.inl rfl)⟩,
    hfront "ftp://-.a"⟩

end Builtin

end FieldRules
