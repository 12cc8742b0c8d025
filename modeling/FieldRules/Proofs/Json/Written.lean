import FieldRules.Json.Reader
import FieldRules.Json.Writer
import FieldRules.Proofs.Dict

namespace FieldRules.Json

namespace Source

/-- The text is read as one piece of a string, and that piece stands for the character. -/
def Spells (written : List Char) (c : Char) : Prop :=
  ∃ piece, (∀ cs pieces rest, readPieces cs = some (pieces, rest) →
      readPieces (written ++ cs) = some (piece :: pieces, rest)) ∧
    ∀ pieces, decode (piece :: pieces) = (decode pieces).map (c :: ·)

/-- A character that is not escaped. -/
theorem spells_plain {c : Char} (hquote : c ≠ '"') (hslash : c ≠ '\\') (hlow : ¬c.toNat < 0x20) :
    Spells [c] c := by
  refine ⟨.char c, fun cs pieces rest h => ?_, fun pieces => rfl⟩
  rw [List.singleton_append, readPieces]
  · simp [hslash, hlow, h]
  · exact hquote
  · exact fun _ _ _ _ _ he => absurd he hslash
  · exact fun _ _ he => absurd he hslash

/-- A character that is escaped by a letter. -/
theorem spells_letter {letter c : Char} (hcode : letter ≠ 'u') (h : escaped? letter = some c) :
    Spells ['\\', letter] c := by
  refine ⟨.char c, fun cs pieces rest hrest => ?_, fun pieces => rfl⟩
  rw [List.cons_append, List.singleton_append, readPieces]
  · simp [h, hrest]
  · exact fun _ _ _ _ _ he => absurd he hcode

theorem hexDigits_low : ∀ n < 0x20, ∃ a b c d, hexDigits n 4 = [a, b, c, d] ∧
    Text.hexNumber? [a, b, c, d] = some n := by
  have hall : ∀ n < 0x20, (hexDigits n 4).length = 4 ∧
      Text.hexNumber? (hexDigits n 4) = some n := by decide
  intro n hn
  obtain ⟨hlength, hnumber⟩ := hall n hn
  generalize hexDigits n 4 = digits at hlength hnumber
  match digits, hlength with
  | [a, b, c, d], _ => exact ⟨a, b, c, d, rfl, hnumber⟩

/-- A character that is escaped by its number. -/
theorem spells_code {c : Char} (hlow : c.toNat < 0x20) :
    Spells ('\\' :: 'u' :: hexDigits c.toNat 4) c := by
  obtain ⟨a, b, c', d, hdigits, hnumber⟩ := hexDigits_low c.toNat hlow
  refine ⟨.code c.toNat, fun cs pieces rest h => ?_, fun pieces => ?_⟩
  · rw [hdigits]
    simp [readPieces, hnumber, h]
  · have hplain : c.toNat < 0xD800 := by omega
    rw [decode.eq_def]
    simp [hplain]

theorem spells_escape (c : Char) : Spells (escape c) c := by
  unfold escape
  split
  · exact spells_letter (by decide) rfl
  · exact spells_letter (by decide) rfl
  · exact spells_letter (by decide) rfl
  · exact spells_letter (by decide) rfl
  · exact spells_letter (by decide) rfl
  · exact spells_letter (by decide) rfl
  · exact spells_letter (by decide) rfl
  · next hquote hslash _ _ _ _ _ =>
    split
    · next hlow => exact spells_code hlow
    · next hlow => exact spells_plain hquote hslash hlow

/-- A string is read back from what is written of it, up to its closing quotation mark. -/
theorem exists_readPieces (cs rest : List Char) : ∃ pieces,
    readPieces (cs.flatMap escape ++ '"' :: rest) = some (pieces, rest) ∧
      decode pieces = some cs := by
  induction cs with
  | nil => exact ⟨[], by simp [readPieces], rfl⟩
  | cons c cs ih =>
    obtain ⟨pieces, hread, hdecode⟩ := ih
    obtain ⟨piece, hpiece, hmeaning⟩ := spells_escape c
    refine ⟨piece :: pieces, ?_, ?_⟩
    · rw [List.flatMap_cons, List.append_assoc]
      exact hpiece _ _ _ hread
    · rw [hmeaning, hdecode]
      rfl

theorem skipSpaces_cons {c : Char} (h : isSpace c = false) (cs : List Char) :
    skipSpaces (c :: cs) = c :: cs := by
  simp [skipSpaces, h]

theorem readValue_string (fuel : Nat) (cs : List Char) :
    readValue (fuel + 1) ('"' :: cs) =
      (readPieces cs).map fun (pieces, rest) => (.string pieces, rest) := by
  rw [readValue, skipSpaces_cons (by decide)]
  rfl

theorem readValue_array (fuel : Nat) {c : Char} (hspace : isSpace c = false) (hne : c ≠ ']')
    (cs : List Char) :
    readValue (fuel + 1) ('[' :: c :: cs) =
      (readItems fuel (c :: cs)).map fun (items, rest) => (.array items, rest) := by
  rw [readValue, skipSpaces_cons (by decide)]
  simp only [skipSpaces_cons hspace]
  split
  · next heq => exact absurd (List.cons.inj heq).1 hne
  · rfl

theorem readValue_object (fuel : Nat) (cs : List Char) :
    readValue (fuel + 1) ('{' :: '"' :: cs) =
      (readMembers fuel ('"' :: cs)).map fun (members, rest) => (.object members, rest) := by
  rw [readValue, skipSpaces_cons (by decide)]
  simp only [skipSpaces_cons (show isSpace '"' = false by decide)]
  rfl

end Source

/-- A value without numbers, whose objects have different keys. -/
inductive IsPlain : Json → Prop where
  | null : IsPlain .null
  | bool (b : Bool) : IsPlain (.bool b)
  | string (text : String) : IsPlain (.string text)
  | array {items : List Json} (each : ∀ item ∈ items, IsPlain item) : IsPlain (.array items)
  | object {members : Fields} (unique : (members.map Prod.fst).Nodup)
      (each : ∀ member ∈ members, IsPlain member.2) : IsPlain (.object members)

/-- The value is read back from its text, whatever follows. -/
def ReadsBack (value : Json) : Prop :=
  ∀ fuel rest, (write value).toList.length ≤ fuel →
    ∃ source, Source.readValue fuel ((write value).toList ++ rest) = some (source, rest) ∧
      source.value? = some value

theorem toList_quote (text : String) :
    (quote text).toList = '"' :: (text.toList.flatMap escape ++ ['"']) := by
  simp [quote]

/-- One step of the reader suffices for a value that neither holds items nor members. -/
theorem readsBack_of_step {value : Json} {c : Char} {cs : List Char}
    (hfirst : (write value).toList = c :: cs) (hstep : ∀ fuel rest, ∃ source,
      Source.readValue (fuel + 1) ((write value).toList ++ rest) = some (source, rest) ∧
        source.value? = some value) : ReadsBack value := by
  intro fuel rest hfuel
  cases fuel with
  | zero => simp [hfirst] at hfuel
  | succ fuel => exact hstep fuel rest

theorem readsBack_null : ReadsBack .null := by
  have htext : (write .null).toList = ['n', 'u', 'l', 'l'] := by decide
  refine readsBack_of_step htext fun fuel rest => ⟨.null, ?_, rfl⟩
  rw [htext, List.cons_append, Source.readValue, Source.skipSpaces_cons (by decide)]
  rfl

theorem readsBack_bool (b : Bool) : ReadsBack (.bool b) := by
  cases b with
  | true =>
    have htext : (write (.bool true)).toList = ['t', 'r', 'u', 'e'] := by decide
    refine readsBack_of_step htext fun fuel rest => ⟨.bool true, ?_, rfl⟩
    rw [htext, List.cons_append, Source.readValue, Source.skipSpaces_cons (by decide)]
    rfl
  | false =>
    have htext : (write (.bool false)).toList = ['f', 'a', 'l', 's', 'e'] := by decide
    refine readsBack_of_step htext fun fuel rest => ⟨.bool false, ?_, rfl⟩
    rw [htext, List.cons_append, Source.readValue, Source.skipSpaces_cons (by decide)]
    rfl

theorem readsBack_string (text : String) : ReadsBack (.string text) := by
  refine readsBack_of_step (toList_quote text) fun fuel rest => ?_
  obtain ⟨pieces, hread, hdecode⟩ := Source.exists_readPieces text.toList rest
  have htext : (write (.string text)).toList ++ rest =
      '"' :: (text.toList.flatMap escape ++ '"' :: rest) := by
    simp [write, toList_quote]
  refine ⟨.string pieces, ?_, ?_⟩
  · rw [htext, Source.readValue_string, hread]
    rfl
  · simp [Source.value?, Source.decodeString, hdecode]

/-- The text of items, with commas between them. -/
def itemsText (items : List Json) : List Char := (",".intercalate (items.map write)).toList

theorem writeItems_eq (items : List Json) : writeItems items = items.map write := by
  induction items with
  | nil => rfl
  | cons item rest ih => rw [writeItems, ih, List.map_cons]

theorem toList_write_array (items : List Json) :
    (write (.array items)).toList = '[' :: (itemsText items ++ [']']) := by
  simp [write, writeItems_eq, itemsText]

theorem itemsText_singleton (item : Json) : itemsText [item] = (write item).toList := by
  simp [itemsText]

theorem itemsText_cons (item next : Json) (rest : List Json) :
    itemsText (item :: next :: rest) = (write item).toList ++ ',' :: itemsText (next :: rest) := by
  simp [itemsText, String.intercalate_cons_cons]

/-- Items that are read back each are read back one after the other. -/
theorem exists_readItems {items : List Json} (hne : items ≠ [])
    (each : ∀ item ∈ items, ReadsBack item) (fuel : Nat) (rest : List Char)
    (hfuel : (itemsText items).length < fuel) :
    ∃ sources, Source.readItems fuel (itemsText items ++ ']' :: rest) = some (sources, rest) ∧
      Source.values? sources = some items := by
  induction items generalizing fuel with
  | nil => exact absurd rfl hne
  | cons item others ih =>
    obtain ⟨hitem, hothers⟩ := List.forall_mem_cons.1 each
    cases fuel with
    | zero => exact absurd hfuel (Nat.not_lt_zero _)
    | succ fuel =>
    cases others with
    | nil =>
      rw [itemsText_singleton] at hfuel ⊢
      obtain ⟨source, hread, hvalue⟩ := hitem fuel (']' :: rest) (Nat.le_of_lt_succ hfuel)
      refine ⟨[source], ?_, by simp [Source.values?, hvalue]⟩
      rw [Source.readItems, hread]
      simp [Source.skipSpaces_cons (show Source.isSpace ']' = false by decide)]
    | cons next others =>
      rw [itemsText_cons] at hfuel ⊢
      simp only [List.length_append, List.length_cons] at hfuel
      obtain ⟨source, hread, hvalue⟩ := hitem fuel
        (',' :: itemsText (next :: others) ++ ']' :: rest) (by omega)
      obtain ⟨sources, hreads, hvalues⟩ := ih (by simp) hothers fuel (by omega)
      refine ⟨source :: sources, ?_, by simp [Source.values?, hvalue, hvalues]⟩
      rw [List.append_assoc, Source.readItems, hread]
      simp [Source.skipSpaces_cons (show Source.isSpace ',' = false by decide), hreads]

/-- No text of a value without numbers begins with a blank, or as the end of an array does. -/
theorem IsPlain.exists_first {value : Json} (h : value.IsPlain) :
    ∃ c cs, (write value).toList = c :: cs ∧ Source.isSpace c = false ∧ c ≠ ']' := by
  cases h with
  | null => exact ⟨'n', ['u', 'l', 'l'], by decide, by decide, by decide⟩
  | bool b =>
    cases b with
    | true => exact ⟨'t', ['r', 'u', 'e'], by decide, by decide, by decide⟩
    | false => exact ⟨'f', ['a', 'l', 's', 'e'], by decide, by decide, by decide⟩
  | string text => exact ⟨'"', _, toList_quote text, by decide, by decide⟩
  | array each => exact ⟨'[', _, toList_write_array _, by decide, by decide⟩
  | object unique each =>
    refine ⟨'{', _, by simp only [write, String.toList_append]; rfl, by decide, by decide⟩

theorem exists_first_itemsText {items : List Json} (hne : items ≠ [])
    (each : ∀ item ∈ items, item.IsPlain) :
    ∃ c cs, itemsText items = c :: cs ∧ Source.isSpace c = false ∧ c ≠ ']' := by
  cases items with
  | nil => exact absurd rfl hne
  | cons item others =>
    obtain ⟨c, cs, hfirst, hspace, hend⟩ := (each item List.mem_cons_self).exists_first
    cases others with
    | nil => exact ⟨c, cs, by rw [itemsText_singleton, hfirst], hspace, hend⟩
    | cons next others => exact ⟨c, _, by rw [itemsText_cons, hfirst]; rfl, hspace, hend⟩

theorem readsBack_array {items : List Json} (plain : ∀ item ∈ items, item.IsPlain)
    (each : ∀ item ∈ items, ReadsBack item) : ReadsBack (.array items) := by
  intro fuel rest hfuel
  rw [toList_write_array, List.length_cons, List.length_append] at hfuel
  cases fuel with
  | zero => exact absurd hfuel (Nat.not_succ_le_zero _)
  | succ fuel =>
  have htext : (write (.array items)).toList ++ rest = '[' :: (itemsText items ++ ']' :: rest) := by
    simp [toList_write_array]
  rw [htext]
  by_cases hne : items = []
  · subst hne
    refine ⟨.array [], ?_, rfl⟩
    rw [Source.readValue, Source.skipSpaces_cons (by decide)]
    rfl
  · obtain ⟨c, cs, hfirst, hspace, hend⟩ := exists_first_itemsText hne plain
    obtain ⟨sources, hread, hvalues⟩ := exists_readItems hne each fuel rest
      (Nat.le_of_succ_le_succ hfuel)
    refine ⟨.array sources, ?_, by simp [Source.value?, hvalues]⟩
    rw [hfirst, List.cons_append] at hread ⊢
    rw [Source.readValue_array fuel hspace hend, hread]
    rfl

/-- The text of members, with commas between them. -/
def membersText (members : Fields) : List Char :=
  (",".intercalate (members.map fun m => quote m.1 ++ ":" ++ write m.2)).toList

theorem writeMembers_eq (members : Fields) :
    writeMembers members = members.map fun m => quote m.1 ++ ":" ++ write m.2 := by
  induction members with
  | nil => rfl
  | cons m rest ih => rw [writeMembers, ih, List.map_cons]

theorem toList_write_object (members : Fields) :
    (write (.object members)).toList = '{' :: (membersText members ++ ['}']) := by
  simp [write, writeMembers_eq, membersText]

theorem membersText_singleton (m : String × Json) :
    membersText [m] =
      '"' :: (m.1.toList.flatMap escape ++ '"' :: ':' :: (write m.2).toList) := by
  simp [membersText, toList_quote]

theorem membersText_cons (m next : String × Json) (rest : Fields) :
    membersText (m :: next :: rest) = '"' :: (m.1.toList.flatMap escape ++
      '"' :: ':' :: ((write m.2).toList ++ ',' :: membersText (next :: rest))) := by
  simp [membersText, String.intercalate_cons_cons, toList_quote]

/-- Members whose values are read back are read back one after the other. -/
theorem exists_readMembers {members : Fields} (hne : members ≠ [])
    (each : ∀ m ∈ members, ReadsBack m.2) (fuel : Nat) (rest : List Char)
    (hfuel : (membersText members).length < fuel) :
    ∃ sources, Source.readMembers fuel (membersText members ++ '}' :: rest) =
        some (sources, rest) ∧ Source.members? sources = some members := by
  have hquote : Source.isSpace '"' = false := by decide
  have hcolon : Source.isSpace ':' = false := by decide
  induction members generalizing fuel with
  | nil => exact absurd rfl hne
  | cons m others ih =>
    obtain ⟨hvalue, hothers⟩ := List.forall_mem_cons.1 each
    cases fuel with
    | zero => exact absurd hfuel (Nat.not_lt_zero _)
    | succ fuel =>
    cases others with
    | nil =>
      rw [membersText_singleton] at hfuel ⊢
      simp only [List.length_append, List.length_cons] at hfuel
      obtain ⟨key, hkey, hname⟩ := Source.exists_readPieces m.1.toList
        (':' :: ((write m.2).toList ++ '}' :: rest))
      obtain ⟨source, hread, hmeaning⟩ := hvalue fuel ('}' :: rest) (by omega)
      refine ⟨[(key, source)], ?_, by
        simp [Source.members?, Source.decodeString, hname, hmeaning]⟩
      simp only [List.cons_append, List.append_assoc] at hkey ⊢
      rw [Source.readMembers, Source.skipSpaces_cons hquote]
      simp [hkey, Source.skipSpaces_cons hcolon, hread,
        Source.skipSpaces_cons (show Source.isSpace '}' = false by decide)]
    | cons next others =>
      rw [membersText_cons] at hfuel ⊢
      simp only [List.length_append, List.length_cons] at hfuel
      obtain ⟨key, hkey, hname⟩ := Source.exists_readPieces m.1.toList
        (':' :: ((write m.2).toList ++ ',' :: (membersText (next :: others) ++ '}' :: rest)))
      obtain ⟨source, hread, hmeaning⟩ := hvalue fuel
        (',' :: (membersText (next :: others) ++ '}' :: rest)) (by omega)
      obtain ⟨sources, hreads, hmembers⟩ := ih (by simp) hothers fuel (by omega)
      refine ⟨(key, source) :: sources, ?_, by
        simp [Source.members?, Source.decodeString, hname, hmeaning, hmembers]⟩
      simp only [List.cons_append, List.append_assoc] at hkey ⊢
      rw [Source.readMembers, Source.skipSpaces_cons hquote]
      simp [hkey, Source.skipSpaces_cons hcolon, hread, hreads,
        Source.skipSpaces_cons (show Source.isSpace ',' = false by decide)]

theorem exists_first_membersText {members : Fields} (hne : members ≠ []) :
    ∃ cs, membersText members = '"' :: cs := by
  match members with
  | [] => exact absurd rfl hne
  | [m] => exact ⟨_, membersText_singleton m⟩
  | m :: next :: others => exact ⟨_, membersText_cons m next others⟩

theorem readsBack_object {members : Fields} (unique : (members.map Prod.fst).Nodup)
    (each : ∀ m ∈ members, ReadsBack m.2) : ReadsBack (.object members) := by
  intro fuel rest hfuel
  rw [toList_write_object, List.length_cons, List.length_append] at hfuel
  cases fuel with
  | zero => exact absurd hfuel (Nat.not_succ_le_zero _)
  | succ fuel =>
  have htext : (write (.object members)).toList ++ rest =
      '{' :: (membersText members ++ '}' :: rest) := by
    simp [toList_write_object]
  rw [htext]
  by_cases hne : members = []
  · subst hne
    refine ⟨.object [], ?_, rfl⟩
    rw [Source.readValue, Source.skipSpaces_cons (by decide)]
    rfl
  · obtain ⟨cs, hfirst⟩ := exists_first_membersText hne
    obtain ⟨sources, hread, hmembers⟩ := exists_readMembers hne each fuel rest
      (Nat.le_of_succ_le_succ hfuel)
    refine ⟨.object sources, ?_, by
      simp [Source.value?, hmembers, Dict.entries_ofList unique]⟩
    rw [hfirst, List.cons_append] at hread ⊢
    rw [Source.readValue_object, hread]
    rfl

theorem IsPlain.readsBack {value : Json} (h : value.IsPlain) : ReadsBack value := by
  induction h with
  | null => exact readsBack_null
  | bool b => exact readsBack_bool b
  | string text => exact readsBack_string text
  | array plain each => exact readsBack_array plain each
  | object unique _ each => exact readsBack_object unique each

/-- A value without numbers, whose objects have different keys, is read from its text. -/
theorem IsPlain.read?_write {value : Json} (h : value.IsPlain) :
    read? (write value) = some value := by
  obtain ⟨source, hread, hvalue⟩ := h.readsBack (2 * (write value).toList.length + 2) [] (by omega)
  rw [List.append_nil] at hread
  rw [read?, Source.read?, hread]
  exact hvalue

end FieldRules.Json
