import Mathlib.Data.List.Forall2
import Mathlib.Tactic.Common
import VariantRepair.Edit
import VariantRepair.Proofs.Failing
import VariantRepair.Proofs.Number.Decimal

/-!
# Which texts write an edit

An edit can be written in many ways: parentheses may stand around its atoms, blanks around each of
them, and their digits may come from any script and begin with zeros. `Writes` is the relation of
such texts to the edits that they write, and a text is read as an edit exactly when it writes it.
-/

namespace VariantRepair

/-- The letter of a kind, as a character. -/
def EditKind.char : EditKind → Char
  | delete => 'd'
  | append => 'a'
  | swap => 's'

namespace EditKind

lemma letter_eq (k : EditKind) : k.letter = String.singleton k.char := by
  cases k <;> rfl

lemma isBlank_char (k : EditKind) : Text.isBlank k.char = false := by
  cases k <;> rfl

lemma ofText?_letter (k : EditKind) : ofText? k.letter = some k := by
  cases k <;> rfl

lemma ofText?_eq_some_iff {s : String} {k : EditKind} : ofText? s = some k ↔ s = k.letter := by
  constructor
  · intro h
    rw [ofText?] at h
    split_ifs at h with hdelete happend hswap
    all_goals
      obtain rfl := Option.some.inj h
      assumption
  · rintro rfl
    exact k.ofText?_letter

lemma letter_injective : Function.Injective letter := by
  intro k k' h
  have hk := k.ofText?_letter
  rw [h, k'.ofText?_letter] at hk
  exact (Option.some.inj hk).symm

lemma exists_eq_char {c : Char} (h : ¬ (ofText? (String.singleton c)).isNone = true) :
    ∃ k : EditKind, c = k.char := by
  obtain ⟨k, hk⟩ := Option.ne_none_iff_exists'.mp (Option.isNone_iff_eq_none.not.mp h)
  rw [ofText?_eq_some_iff, letter_eq] at hk
  exact ⟨k, by simpa using congrArg String.toList hk⟩

end EditKind

namespace Edit

open Text Number

/-! ### Numbers -/

/-- Digits of any script. -/
structure AreDigits (ds : List Char) : Prop where
  ne_nil : ds ≠ []
  isDigit : ∀ c ∈ ds, Text.isDigit c = true

/-- The text spells a number with the digits `ds`: blanks may stand around them. -/
inductive SpellsNumber : (cs ds : List Char) → Prop
  | mk {before ds after : List Char} (hbefore : ∀ c ∈ before, isBlank c = true)
      (hds : AreDigits ds) (hafter : ∀ c ∈ after, isBlank c = true) :
      SpellsNumber (before ++ (ds ++ after)) ds

variable {cs ds rest : List Char} {numbers : List (List Char)}

lemma AreDigits.head?_append (h : AreDigits ds) (rest : List Char) :
    ∃ d, (ds ++ rest).head? = some d ∧ Text.isDigit d = true := by
  cases ds with
  | nil => exact absurd rfl h.ne_nil
  | cons d ds => exact ⟨d, rfl, h.isDigit d List.mem_cons_self⟩

/-- What may come behind a number: neither more of its digits nor another blank. -/
def EndsNumber (rest : List Char) : Prop :=
  ∀ c ∈ rest.head?, isDigit c = false ∧ isBlank c = false

namespace SpellsNumber

/-- A spelled number is read, as far as it goes. -/
lemma number? (h : SpellsNumber cs ds) (hrest : EndsNumber rest) :
    number? (cs ++ rest) = some (ds, rest) := by
  obtain @⟨before, ds, after, hbefore, hds, hafter⟩ := h
  -- the blanks in front end at the first digit, and the digits at a blank or the rest
  have hfirst : ∀ c ∈ (ds ++ (after ++ rest)).head?, isBlank c = false := by
    obtain ⟨d, hhead, hd⟩ := hds.head?_append (after ++ rest)
    rw [hhead]
    rintro c ⟨⟩
    exact isBlank_of_scriptDigit hd
  have hbehind : ∀ c ∈ (after ++ rest).head?, isDigit c = false := by
    cases after with
    | nil => exact fun c hc => (hrest c hc).1
    | cons b after =>
      rintro c ⟨⟩
      by_contra hdigit
      have hblank := isBlank_of_scriptDigit (by simpa using hdigit)
      rw [hafter _ List.mem_cons_self] at hblank
      exact absurd hblank (by decide)
  have hskip : (before ++ (ds ++ after) ++ rest).dropWhile isBlank = ds ++ (after ++ rest) := by
    rw [List.append_assoc, List.append_assoc, dropWhile_append_stop hbefore hfirst]
  simp only [Edit.number?, hskip, takeWhile_append_stop hds.isDigit hbehind,
    dropWhile_append_stop hds.isDigit hbehind,
    dropWhile_append_stop hafter fun c hc => (hrest c hc).2,
    List.isEmpty_eq_false_iff.mpr hds.ne_nil]
  rfl

/-- A number that was read is spelled by what was taken of the text. -/
lemma of_number? (h : Edit.number? cs = some (ds, rest)) :
    ∃ spelled, cs = spelled ++ rest ∧ SpellsNumber spelled ds := by
  rw [Edit.number?] at h
  split_ifs at h with hne
  obtain ⟨rfl, rfl⟩ := Prod.mk.inj (Option.some.inj h)
  set behind := cs.dropWhile isBlank
  have hds : AreDigits (behind.takeWhile Text.isDigit) :=
    ⟨by simpa using hne, fun c hc => List.mem_takeWhile_imp hc⟩
  refine ⟨cs.takeWhile isBlank ++ (behind.takeWhile Text.isDigit ++
    (behind.dropWhile Text.isDigit).takeWhile isBlank), ?_, .mk ?_ hds ?_⟩
  · rw [List.append_assoc, List.append_assoc, List.takeWhile_append_dropWhile,
      List.takeWhile_append_dropWhile, List.takeWhile_append_dropWhile]
  · exact fun c hc => List.mem_takeWhile_imp hc
  · exact fun c hc => List.mem_takeWhile_imp hc

lemma areDigits (h : SpellsNumber cs ds) : AreDigits ds := by
  obtain ⟨-, hds, -⟩ := h
  exact hds

/-- A number begins with a digit or a blank. -/
lemma head?_ne (h : SpellsNumber cs ds) (rest : List Char) : (cs ++ rest).head? ≠ some '(' := by
  obtain @⟨before, ds, after, hbefore, hds, -⟩ := h
  cases before with
  | nil =>
    obtain ⟨d, hhead, hd⟩ := hds.head?_append (after ++ rest)
    rw [List.nil_append, List.append_assoc, hhead]
    rintro ⟨⟩
    exact absurd hd (by decide)
  | cons b before =>
    rintro ⟨⟩
    exact absurd (hbefore _ List.mem_cons_self) (by decide)

end SpellsNumber

/-! ### The form of an edit -/

/-- The text spells one number, or two with a comma between them. -/
inductive SpellsNumbers : (cs : List Char) → (numbers : List (List Char)) → Prop
  | one {cs ds : List Char} (h : SpellsNumber cs ds) : SpellsNumbers cs [ds]
  | two {cs cs' ds ds' : List Char} (h : SpellsNumber cs ds) (h' : SpellsNumber cs' ds') :
      SpellsNumbers (cs ++ ',' :: cs') [ds, ds']

/-- The text spells a letter and numbers; an opening parenthesis may stand before them and a closing
one behind, each without the other. -/
inductive Spells (letter : Char) : (cs : List Char) → (numbers : List (List Char)) → Prop
  | mk {opening cs closing : List Char} {numbers : List (List Char)}
      (hopening : opening = [] ∨ opening = ['(']) (h : SpellsNumbers cs numbers)
      (hclosing : closing = [] ∨ closing = [')']) :
      Spells letter (letter :: (opening ++ (cs ++ closing))) numbers

lemma SpellsNumbers.areDigits (h : SpellsNumbers cs numbers) : ∀ ds ∈ numbers, AreDigits ds := by
  cases h with
  | one h => simpa using h.areDigits
  | two h h' => simpa using ⟨h.areDigits, h'.areDigits⟩

lemma SpellsNumbers.head?_ne (h : SpellsNumbers cs numbers) (rest : List Char) :
    (cs ++ rest).head? ≠ some '(' := by
  cases h with
  | one h => exact h.head?_ne rest
  | two h h' =>
    rw [List.append_assoc]
    exact h.head?_ne _

lemma Spells.areDigits {letter : Char} (h : Spells letter cs numbers) :
    ∀ ds ∈ numbers, AreDigits ds := by
  obtain ⟨-, h, -⟩ := h
  exact h.areDigits

lemma isEnd_eq_true_iff : isEnd cs = true ↔ cs = [] ∨ cs = [')'] := by
  simp [isEnd]

lemma endsNumber_of_isEnd (h : isEnd cs = true) : EndsNumber cs := by
  rcases isEnd_eq_true_iff.mp h with rfl | rfl
  · rintro c ⟨⟩
  · rintro c ⟨⟩
    decide

/-- What a text spells is found in it. -/
lemma parts?_of_spells {s : String} {k : EditKind}
    (h : Spells k.char (trimChars isBlank s.toList) numbers) :
    parts? s = some (k.letter, numbers) := by
  generalize htrim : trimChars isBlank s.toList = trimmed at h
  obtain @⟨opening, cs, closing, numbers, hopening, h, hclosing⟩ := h
  have hkind : (EditKind.ofText? (String.singleton k.char)).isNone = false := by
    rw [← k.letter_eq, k.ofText?_letter]
    rfl
  have hend : isEnd closing = true := isEnd_eq_true_iff.mpr hclosing
  have hbehind : (if (opening ++ (cs ++ closing)).head? = some '(' then
      (opening ++ (cs ++ closing)).drop 1 else opening ++ (cs ++ closing)) = cs ++ closing := by
    rcases hopening with rfl | rfl
    · exact if_neg (h.head?_ne closing)
    · rfl
  simp only [parts?, htrim, hkind, hbehind, k.letter_eq]
  cases h with
  | one h =>
    rw [h.number? (endsNumber_of_isEnd hend)]
    simp [hend]
  | @two _ cs' _ _ h h' =>
    have hcomma : EndsNumber (',' :: (cs' ++ closing)) := by
      rintro c ⟨⟩
      decide
    rw [List.append_assoc, List.cons_append, h.number? hcomma]
    simp [isEnd, h'.number? (endsNumber_of_isEnd hend), hclosing]

lemma exists_opening (cs : List Char) : ∃ opening, (opening = [] ∨ opening = ['(']) ∧
    cs = opening ++ (if cs.head? = some '(' then cs.drop 1 else cs) := by
  split_ifs with hopen
  · obtain ⟨rest, rfl⟩ := List.head?_eq_some_iff.mp hopen
    exact ⟨['('], .inr rfl, rfl⟩
  · exact ⟨[], .inl rfl, rfl⟩

/-- What is found in a text is what it spells. -/
lemma spells_of_parts? {s letter : String} (h : parts? s = some (letter, numbers)) :
    ∃ k : EditKind, letter = k.letter ∧ Spells k.char (trimChars isBlank s.toList) numbers := by
  simp only [parts?] at h
  split at h
  · cases h
  · next c cs htrim =>
    rw [htrim]
    split at h
    · cases h
    · next hkind =>
      obtain ⟨k, rfl⟩ := EditKind.exists_eq_char hkind
      obtain ⟨opening, hopening, hcs⟩ := exists_opening cs
      generalize (if cs.head? = some '(' then cs.drop 1 else cs) = behind at h hcs
      subst hcs
      -- one number up to the end, or a comma behind it and a second one up to the end
      obtain ⟨rfl, spelled, closing, rfl, hnumbers, hend⟩ :
          letter = String.singleton k.char ∧ ∃ spelled closing, behind = spelled ++ closing ∧
            SpellsNumbers spelled numbers ∧ isEnd closing = true := by
        split at h
        · cases h
        · next first rest hfirst =>
          obtain ⟨spelled, rfl, hspelled⟩ := SpellsNumber.of_number? hfirst
          split at h
          · next hend =>
            obtain ⟨rfl, rfl⟩ := Prod.mk.inj (Option.some.inj h)
            exact ⟨rfl, spelled, rest, rfl, .one hspelled, hend⟩
          · split at h
            · next behind _ =>
              split at h
              · cases h
              · next second rest' hsecond =>
                obtain ⟨spelled', rfl, hspelled'⟩ := SpellsNumber.of_number? hsecond
                split at h
                · next hend =>
                  obtain ⟨rfl, rfl⟩ := Prod.mk.inj (Option.some.inj h)
                  exact ⟨rfl, spelled ++ ',' :: spelled', rest', by simp,
                    .two hspelled hspelled', hend⟩
                · cases h
            · cases h
      exact ⟨k, k.letter_eq.symm, .mk hopening hnumbers (isEnd_eq_true_iff.mp hend)⟩

/-- The letter and the numbers of a text are found exactly where the text spells them. -/
theorem parts?_eq_some_iff {s letter : String} :
    parts? s = some (letter, numbers) ↔
      ∃ k : EditKind, letter = k.letter ∧ Spells k.char (trimChars isBlank s.toList) numbers := by
  constructor
  · exact spells_of_parts?
  · rintro ⟨k, rfl, h⟩
    exact parts?_of_spells h

/-! ### Edits -/

/-- The digits write the atom, and there are not too many of them. -/
def WritesAtom (ds : List Char) (a : Int) : Prop :=
  ds.length ≤ digitLimit ∧ a = digitsValue ds

/-- The text writes the edit: it spells the letter of its kind and digits of its atoms. -/
def Writes (cs : List Char) (e : Edit) : Prop :=
  ∃ numbers, Spells e.kind.char cs numbers ∧ List.Forall₂ WritesAtom numbers e.atoms

variable {e : Edit}

/-- Atoms are read exactly where the digits write them. -/
lemma readAtoms_eq_ok_iff {atoms : List Int} (h : ∀ ds ∈ numbers, AreDigits ds) :
    readAtoms numbers = .ok atoms ↔ List.Forall₂ WritesAtom numbers atoms := by
  induction numbers generalizing atoms with
  | nil =>
    rw [List.forall₂_nil_left_iff]
    exact ⟨fun h => (Except.ok.inj h).symm, fun h => congrArg Except.ok h.symm⟩
  | cons ds numbers ih =>
    obtain ⟨hds, hrest⟩ := List.forall_mem_cons.mp h
    rw [readAtoms, parseInt_of_scriptDigits hds.ne_nil hds.isDigit]
    constructor
    · intro hread
      split_ifs at hread with hlong
      obtain ⟨atoms, hatoms, rfl⟩ := exists_of_map_eq_ok hread
      exact .cons ⟨Nat.not_lt.mp hlong, rfl⟩ ((ih hrest).mp hatoms)
    · rintro (_ | ⟨⟨hshort, rfl⟩, hatoms⟩)
      rw [if_neg (Nat.not_lt.mpr hshort), (ih hrest).mpr hatoms]
      rfl

lemma checkKind_eq_ok {letter : String} {count : Nat} {k : EditKind}
    (h : checkKind letter count = .ok k) : letter = k.letter := by
  rw [checkKind] at h
  split at h
  · cases h
  · next k' hletter =>
    split_ifs at h
    obtain rfl := Except.ok.inj h
    exact EditKind.ofText?_eq_some_iff.mp hletter

/-- An edit is made from the letter of its kind and its atoms, and from nothing else. -/
lemma make_eq_ok_iff {letter : String} {atoms : List Int} :
    make letter atoms = .ok e ↔ letter = e.kind.letter ∧ atoms = e.atoms := by
  constructor
  · intro h
    obtain ⟨k, hkind, hmade⟩ := exists_of_bind_eq_ok h
    obtain rfl := checkKind_eq_ok hkind
    split at hmade
    all_goals cases hmade
    all_goals exact ⟨rfl, rfl⟩
  · rintro ⟨rfl, rfl⟩
    cases e <;> rfl

/-- A text is read as an edit exactly when it writes the edit, blanks around it apart. -/
theorem parse_eq_ok_iff {s : String} :
    parse s = .ok e ↔ Writes (trimChars isBlank s.toList) e := by
  constructor
  · intro h
    rw [parse] at h
    split at h
    · cases h
    · next letter numbers hparts =>
      obtain ⟨k, rfl, hspells⟩ := parts?_eq_some_iff.mp hparts
      obtain ⟨atoms, hatoms, hmake⟩ := exists_of_bind_eq_ok h
      obtain ⟨hletter, rfl⟩ := make_eq_ok_iff.mp hmake
      obtain rfl := EditKind.letter_injective hletter
      exact ⟨numbers, hspells, (readAtoms_eq_ok_iff hspells.areDigits).mp hatoms⟩
  · rintro ⟨numbers, hspells, hatoms⟩
    rw [parse, parts?_eq_some_iff.mpr ⟨_, rfl, hspells⟩]
    change readAtoms numbers >>= make e.kind.letter = _
    rw [(readAtoms_eq_ok_iff hspells.areDigits).mpr hatoms]
    exact make_eq_ok_iff.mpr ⟨rfl, rfl⟩

end Edit

end VariantRepair
