import VariantRepair.Proofs.Edit.Form

/-!
# The text of edits is read back

The text of an edit is the letter of its kind and the digits of its atoms, without anything that
could be left out. It is read back as the edit, and a list of edits is read back from the words of
its text, as long as no number has more digits than are read; and no other edits are ever read. So
one of all the texts that write the same edits stands for them.
-/

namespace VariantRepair.Edit

open Text Number

variable {cs : List Char} {e : Edit} {es : List Edit}

/-! ### Edits -/

/-- The atoms of the edit have few enough digits to be read. -/
def IsReadable (e : Edit) : Prop :=
  ∀ a ∈ e.atoms, 0 ≤ a ∧ a < tenTo digitLimit

lemma WritesAtom.natural {ds : List Char} {a : Int} (h : WritesAtom ds a) :
    0 ≤ a ∧ a < tenTo digitLimit := by
  obtain ⟨hshort, rfl⟩ := h
  have hlt : digitsValue ds < tenTo digitLimit :=
    Nat.lt_of_lt_of_le (digitsValue_lt ds) (tenTo_le_tenTo hshort)
  exact ⟨Int.natCast_nonneg _, Int.ofNat_lt.mpr hlt⟩

/-- However an edit is written, its atoms have few enough digits to be read again. -/
lemma Writes.isReadable (h : Writes cs e) : e.IsReadable := by
  obtain ⟨numbers, -, hatoms⟩ := h
  rw [IsReadable]
  generalize e.atoms = atoms at hatoms
  induction hatoms with
  | nil => exact nofun
  | cons hatom _ ih => exact List.forall_mem_cons.mpr ⟨hatom.natural, ih⟩

/-- The digits of the atoms. -/
def numerals (e : Edit) : List (List Char) :=
  e.atoms.map fun a => Nat.toDigits 10 a.toNat

lemma toList_toString {a : Int} (h : 0 ≤ a) : (toString a).toList = Nat.toDigits 10 a.toNat := by
  obtain ⟨n, rfl⟩ := Int.eq_ofNat_of_zero_le h
  have htext : toString (n : Int) = String.ofList (Nat.toDigits 10 n) :=
    Nat.toString_eq_ofList_toDigits
  rw [htext, String.toList_ofList, Int.toNat_natCast]

lemma toList_text (h : e.IsReadable) :
    e.text.toList = e.kind.char :: [','].intercalate e.numerals := by
  have hatoms : (e.atoms.map toString).map String.toList = e.numerals := by
    rw [List.map_map]
    exact List.map_congr_left fun a ha => toList_toString (h a ha).1
  rw [text, textOf, String.toList_append, String.toList_intercalate, hatoms, e.kind.letter_eq]
  simp

lemma areDigits_toDigits (n : Nat) : AreDigits (Nat.toDigits 10 n) where
  ne_nil := Nat.toDigits_ne_nil
  isDigit _ hc := isDigit_of_isDigit (isDigit_of_mem_toDigits hc)

lemma spellsNumber_toDigits (n : Nat) : SpellsNumber (Nat.toDigits 10 n) (Nat.toDigits 10 n) := by
  simpa using SpellsNumber.mk (List.forall_mem_nil _) (areDigits_toDigits n) (List.forall_mem_nil _)

lemma spellsNumbers_numerals (e : Edit) :
    SpellsNumbers ([','].intercalate e.numerals) e.numerals := by
  cases e with
  | delete a =>
    simpa [numerals, atoms] using SpellsNumbers.one (spellsNumber_toDigits a.toNat)
  | append d s =>
    simpa [numerals, atoms, List.intercalate_cons_cons] using
      SpellsNumbers.two (spellsNumber_toDigits d.toNat) (spellsNumber_toDigits s.toNat)
  | swap a b =>
    simpa [numerals, atoms, List.intercalate_cons_cons] using
      SpellsNumbers.two (spellsNumber_toDigits a.toNat) (spellsNumber_toDigits b.toNat)

lemma forall₂_writesAtom {atoms : List Int} (h : ∀ a ∈ atoms, 0 ≤ a ∧ a < tenTo digitLimit) :
    List.Forall₂ WritesAtom (atoms.map fun a => Nat.toDigits 10 a.toNat) atoms := by
  rw [List.forall₂_map_left_iff, List.forall₂_same]
  intro a ha
  obtain ⟨n, rfl⟩ := Int.eq_ofNat_of_zero_le (h a ha).1
  have hn : n < tenTo digitLimit := Int.ofNat_lt.mp (h n ha).2
  rw [WritesAtom, Int.toNat_natCast, digitsValue_toDigits]
  exact ⟨length_toDigits_le (by decide) hn, rfl⟩

/-- The text of an edit writes the edit. -/
lemma writes_text (h : e.IsReadable) : Writes e.text.toList e := by
  have hspells : Spells e.kind.char e.text.toList e.numerals := by
    rw [toList_text h]
    simpa using Spells.mk (.inl rfl) e.spellsNumbers_numerals (.inl rfl)
  exact ⟨e.numerals, hspells, forall₂_writesAtom h⟩

lemma forall_mem_intercalate {p : Char → Prop} {sep : List Char} {css : List (List Char)}
    (hsep : ∀ c ∈ sep, p c) (h : ∀ cs ∈ css, ∀ c ∈ cs, p c) : ∀ c ∈ sep.intercalate css, p c := by
  induction css with
  | nil => exact nofun
  | cons cs css ih =>
    obtain ⟨hcs, hcss⟩ := List.forall_mem_cons.mp h
    cases css with
    | nil => simpa using hcs
    | cons cs' css =>
      rw [List.intercalate_cons_cons, List.forall_mem_append, List.forall_mem_append]
      exact ⟨⟨hcs, hsep⟩, ih hcss⟩

/-- The text of an edit is a word. -/
lemma isWord_text (h : e.IsReadable) : IsWord e.text := by
  have hnumbers : ∀ c ∈ [','].intercalate e.numerals, isBlank c = false := by
    refine forall_mem_intercalate (List.forall_mem_singleton.mpr rfl) fun ds hds c hc => ?_
    obtain ⟨a, -, rfl⟩ := List.mem_map.mp hds
    exact isBlank_of_isDigit (isDigit_of_mem_toDigits hc)
  rw [IsWord, toList_text h]
  exact ⟨List.cons_ne_nil _ _, List.forall_mem_cons.mpr ⟨e.kind.isBlank_char, hnumbers⟩⟩

/-- The text of an edit is read back as the edit. -/
theorem parse_text (h : e.IsReadable) : parse e.text = .ok e := by
  rw [parse_eq_ok_iff, trimChars_eq_self (isWord_text h).2]
  exact writes_text h

/-! ### Lists of edits -/

lemma parse_word {w : List Char} (h : ∀ c ∈ w, isBlank c = false) :
    parse (String.ofList w) = .ok e ↔ Writes w e := by
  rw [parse_eq_ok_iff, String.toList_ofList, trimChars_eq_self h]

/-- Words are read as edits exactly when each of them writes the edit in its place. -/
lemma parseWords_eq_ok_iff {ws : List (List Char)} (h : ∀ w ∈ ws, ∀ c ∈ w, isBlank c = false) :
    parseWords (ws.map String.ofList) = .ok es ↔ List.Forall₂ Writes ws es := by
  induction ws generalizing es with
  | nil =>
    rw [List.forall₂_nil_left_iff]
    exact ⟨fun h => (Except.ok.inj h).symm, fun h => congrArg Except.ok h.symm⟩
  | cons w ws ih =>
    obtain ⟨hw, hws⟩ := List.forall_mem_cons.mp h
    rw [List.map_cons, parseWords]
    constructor
    · intro hread
      obtain ⟨e, he, hread⟩ := exists_of_bind_eq_ok hread
      obtain ⟨es, hes, hread⟩ := exists_of_bind_eq_ok hread
      obtain rfl := Except.ok.inj hread
      exact .cons ((parse_word hw).mp he) ((ih hws).mp hes)
    · rintro (_ | ⟨he, hes⟩)
      rw [(parse_word hw).mpr he, (ih hws).mpr hes]
      rfl

/-- A text is read as edits exactly when each of its words writes the edit in its place. -/
theorem parseList_eq_ok_iff {t : String} :
    parseList t = .ok es ↔ ∃ ws, HasWords isBlank t.toList ws ∧ List.Forall₂ Writes ws es := by
  have hfound : HasWords isBlank t.toList (wordsBy isBlank [] t.toList) := wordsBy_eq_iff.mp rfl
  rw [parseList, words, parseWords_eq_ok_iff fun w hw => (hfound.isWord w hw).2]
  constructor
  · exact fun h => ⟨_, hfound, h⟩
  · rintro ⟨ws, hws, h⟩
    rwa [wordsBy_eq_iff.mpr hws]

/-- Edits that were read from a text, however it writes them, can be read from their own. -/
lemma isReadable_of_parseList {t : String} (h : parseList t = .ok es) :
    ∀ e ∈ es, e.IsReadable := by
  obtain ⟨ws, -, hwrites⟩ := parseList_eq_ok_iff.mp h
  clear h
  induction hwrites with
  | nil => exact nofun
  | cons hedit _ ih => exact List.forall_mem_cons.mpr ⟨hedit.isReadable, ih⟩

/-- The text of a list of edits is read back as the list. -/
theorem parseList_listText (h : ∀ e ∈ es, e.IsReadable) : parseList (listText es) = .ok es := by
  have hwords : ∀ w ∈ es.map text, IsWord w := by
    intro w hw
    obtain ⟨e, he, rfl⟩ := List.mem_map.mp hw
    exact isWord_text (h e he)
  have htexts : es.map text = (es.map fun e => e.text.toList).map String.ofList := by simp
  rw [parseList, listText, words_intercalate hwords, htexts, parseWords_eq_ok_iff,
    List.forall₂_map_left_iff, List.forall₂_same]
  · exact fun e he => writes_text (h e he)
  · intro w hw
    obtain ⟨e, he, rfl⟩ := List.mem_map.mp hw
    exact (isWord_text (h e he)).2

/-! ### One text for each list of edits -/

/-- Lists with the same text are the same. -/
lemma eq_of_listText_eq {es' : List Edit} (h : ∀ e ∈ es, e.IsReadable)
    (h' : ∀ e ∈ es', e.IsReadable) (htext : listText es = listText es') : es = es' := by
  have hread := parseList_listText h
  rw [htext, parseList_listText h'] at hread
  exact (Except.ok.inj hread).symm

/-- Edits whose atoms are natural numbers with few enough digits are read back from their text. A
text is read as these edits exactly when its words write them one by one, whatever blanks stand
around the words and in whichever way each of them is written. Then their own text is read as the
same edits, and no other edits that are read from any text have that text. -/
theorem listText_is_canonical (es : List Edit) :
    ((∀ e ∈ es, e.IsReadable) → parseList (listText es) = .ok es) ∧
    ∀ t : String,
      (parseList t = .ok es ↔ ∃ ws, HasWords isBlank t.toList ws ∧ List.Forall₂ Writes ws es) ∧
      (parseList t = .ok es →
        (∀ e ∈ es, e.IsReadable) ∧ parseList (listText es) = .ok es ∧
        ∀ t' es', parseList t' = .ok es' → (listText es' = listText es ↔ es' = es)) := by
  refine ⟨parseList_listText, fun t => ⟨parseList_eq_ok_iff, fun h => ?_⟩⟩
  have hreadable : ∀ e ∈ es, e.IsReadable := isReadable_of_parseList h
  refine ⟨hreadable, parseList_listText hreadable, fun t' es' h' => ⟨fun htext => ?_, ?_⟩⟩
  · exact eq_of_listText_eq (isReadable_of_parseList h') hreadable htext
  · rintro rfl
    rfl

/-- Blanks of several kinds, leading zeros, digits of another script and parentheses on one side
only: the text of the edits has none of these, and it is not that of edits with atoms exchanged. -/
theorem listText_is_canonical_scripts :
    ∃ es : List Edit, (∀ e ∈ es, ∀ a ∈ e.atoms, 0 ≤ a ∧ a < tenTo digitLimit) ∧
      parseList "\u2003d(007\t a3,٧)\x1d\n s(٢,12 " = .ok es ∧
      listText es = "d7 a3,7 s2,12" ∧ parseList "d7 a3,7 s2,12" = .ok es ∧
      parseList "d7 a7,3 s2,12" = .ok [.delete 7, .append 7 3, .swap 2 12] ∧
      listText [.delete 7, .append 7 3, .swap 2 12] ≠ listText es := by
  let es : List Edit := [.delete 7, .append 3 7, .swap 2 12]
  have hreadable : ∀ e ∈ es, ∀ a ∈ e.atoms, 0 ≤ a ∧ a < tenTo digitLimit := by decide +kernel
  have hread : parseList "\u2003d(007\t a3,٧)\x1d\n s(٢,12 " = .ok es := by decide +kernel
  have hother : parseList "d7 a7,3 s2,12" = .ok [.delete 7, .append 7 3, .swap 2 12] := by
    decide +kernel
  have htext : listText es = "d7 a3,7 s2,12" := by decide +kernel
  obtain ⟨hprinted, hspellings⟩ := listText_is_canonical es
  obtain ⟨-, -, hsame⟩ := (hspellings _).2 hread
  have hdistinct := (hsame _ _ hother).not.mpr (by decide)
  exact ⟨es, hreadable, hread, htext, htext ▸ hprinted hreadable, hother, hdistinct⟩

end VariantRepair.Edit
