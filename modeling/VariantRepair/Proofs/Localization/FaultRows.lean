import Mathlib.Data.List.Forall2
import Mathlib.Tactic.Common
import VariantRepair.Bench.Localize
import VariantRepair.Proofs.Host.Texts

/-!
# The rows of a fault file

A row says a line, and a weight between zero and one if it has a second part. When every row of a
file that is not blank says something, what the rows say is read in the order of the file. Otherwise
the first row that says nothing is refused, with its line in the file; but a row that has nothing
but separators is not refused, it is looked for a part that is not there.
-/

namespace VariantRepair

open Host

/-! ### Single rows -/

/-- What a row says: its first part is a line, the second one is a weight between zero and one, and
the weight is one if there is no second part. -/
inductive SaysRow (row : String) : Int × Float → Prop
  | bare {text : String} {line : Int} (hparts : faultParts row = [text])
      (hline : Number.parseInt text = .ok line) : SaysRow row (line, 1.0)
  | weighed {text weight : String} {others : List String} {line : Int} {w : Float}
      (hparts : faultParts row = text :: weight :: others)
      (hline : Number.parseInt text = .ok line) (hweight : Number.parseFloat weight = .ok w)
      (hunit : Weight.inUnit w = true) : SaysRow row (line, w)

/-- A row that has nothing but separators. -/
def IsSeparators (row : String) : Prop :=
  ∀ c ∈ row.toList, c = ',' ∨ Text.isBlank c = true

instance (row : String) : Decidable (IsSeparators row) :=
  List.decidableBAll (fun c => c = ',' ∨ Text.isBlank c = true) row.toList

lemma Text.wordsBy_eq_nil_iff {p : Char → Bool} {word cs : List Char} :
    wordsBy p word cs = [] ↔ word = [] ∧ ∀ c ∈ cs, p c = true := by
  induction cs generalizing word with
  | nil => cases word <;> simp [wordsBy]
  | cons c cs ih =>
    rw [wordsBy, List.forall_mem_cons]
    by_cases hc : p c = true
    · rw [if_pos hc]
      cases word with
      | nil => simp [hc, ih]
      | cons d word => simp
    · simp [hc, ih]

lemma faultParts_eq_nil_iff {row : String} : faultParts row = [] ↔ IsSeparators row := by
  rw [faultParts, List.map_eq_nil_iff, Text.wordsBy_eq_nil_iff]
  simp [IsSeparators]

lemma lineOf_eq_ok_iff {text : String} {line : Int} :
    (Value.str text).toInt.mapError Failure.ofConversion = .ok line
      ↔ Number.parseInt text = .ok line := by
  rw [Value.toInt]
  cases Number.parseInt text <;> simp [Except.mapError]

lemma checkWeight_eq_ok_iff {text : String} {w : Float} :
    Localization.checkWeight (.str text) = .ok w
      ↔ Number.parseFloat text = .ok w ∧ Weight.inUnit w = true := by
  rw [Localization.checkWeight, Value.toFloat]
  cases Number.parseFloat text with
  | error e => simp [Except.mapError]
  | ok x =>
    simp only [Except.mapError]
    split_ifs with hunit
    · constructor
      · rintro ⟨⟩
        exact ⟨rfl, hunit⟩
      · rintro ⟨⟨⟩, -⟩
        rfl
    · constructor
      · nofun
      · rintro ⟨⟨⟩, h⟩
        exact absurd h hunit

/-- A row that says something is read as what it says, and no other row is read. -/
lemma faultRow_eq_ok_iff {row : String} {entry : Int × Float} :
    faultRow (faultParts row) = .ok entry ↔ SaysRow row entry := by
  constructor
  · intro h
    cases hparts : faultParts row with
    | nil =>
      rw [hparts] at h
      cases h
    | cons text rest =>
      rw [hparts, faultRow] at h
      cases hline : (Value.str text).toInt.mapError Failure.ofConversion with
      | error e =>
        rw [hline] at h
        cases h
      | ok line =>
        rw [hline] at h
        rw [lineOf_eq_ok_iff] at hline
        cases rest with
        | nil =>
          cases h
          exact .bare hparts hline
        | cons weight others =>
          cases hweight : Localization.checkWeight (.str weight) with
          | error e =>
            simp only [hweight] at h
            cases h
          | ok w =>
            simp only [hweight] at h
            cases h
            obtain ⟨hparse, hunit⟩ := checkWeight_eq_ok_iff.mp hweight
            exact .weighed hparts hline hparse hunit
  · intro h
    cases h with
    | bare hparts hline =>
      rw [hparts, faultRow, lineOf_eq_ok_iff.mpr hline]
      rfl
    | weighed hparts hline hweight hunit =>
      rw [hparts, faultRow, lineOf_eq_ok_iff.mpr hline]
      simp only [checkWeight_eq_ok_iff.mpr ⟨hweight, hunit⟩]
      rfl

lemma inUnit_one : Weight.inUnit (1.0 : Float) = true := by decide

/-- The weight that a row says lies between zero and one. -/
lemma SaysRow.inUnit {row : String} {entry : Int × Float} (h : SaysRow row entry) :
    Weight.inUnit entry.2 = true := by
  cases h with
  | bare hparts hline => exact inUnit_one
  | weighed hparts hline hweight hunit => exact hunit

/-! ### Rows that say nothing -/

lemma isRefusal_of_line {line : String} {f : Failure}
    (h : (Value.str line).toInt.mapError Failure.ofConversion = .error f) :
    f.isRefusal = true := by
  rw [Value.toInt] at h
  cases hparse : Number.parseInt line with
  | error e =>
    rw [hparse] at h
    obtain rfl := Except.error.inj h
    rfl
  | ok n =>
    rw [hparse] at h
    cases h

lemma isRefusal_of_weight {weight : String} {f : Failure}
    (h : Localization.checkWeight (.str weight) = .error f) : f.isRefusal = true := by
  rw [Localization.checkWeight, Value.toFloat] at h
  cases hparse : Number.parseFloat weight with
  | error e =>
    rw [hparse] at h
    obtain rfl := Except.error.inj h
    rfl
  | ok x =>
    rw [hparse] at h
    dsimp only [Except.mapError] at h
    split_ifs at h
    obtain rfl := Except.error.inj h
    rfl

/-- A row of a fault file with nothing but separators has no first part; any other row that is not
read is refused. -/
lemma of_faultRow_eq_error {parts : List String} {f : Failure} (h : faultRow parts = .error f) :
    f.isRefusal = true ∨ parts = [] ∧ f = .index "list index out of range" := by
  cases parts with
  | nil => exact .inr ⟨rfl, (Except.error.inj h).symm⟩
  | cons line rest =>
    refine .inl ?_
    rw [faultRow] at h
    cases hline : (Value.str line).toInt.mapError Failure.ofConversion with
    | error e =>
      rw [hline] at h
      obtain rfl := Except.error.inj h
      exact isRefusal_of_line hline
    | ok n =>
      rw [hline] at h
      cases rest with
      | nil => cases h
      | cons weight rest =>
        cases hweight : Localization.checkWeight (.str weight) with
        | error e =>
          simp only [hweight] at h
          obtain rfl := Except.error.inj h
          exact isRefusal_of_weight hweight
        | ok w =>
          simp only [hweight] at h
          cases h

/-- How reading ends at a row that says nothing, in a line of the file that is counted from one. -/
def rowFailure (path : String) (number : Nat) (raw : String) : Failure :=
  if IsSeparators (beforeComment raw) then .index "list index out of range"
  else .repair (.faultLocalization (.malformedRow path number raw))

/-! ### All rows -/

/-- The rows in some lines: what stands before the comments, unless it is blank. -/
def rowTexts (raws : List String) : List String :=
  (raws.map beforeComment).filter (· ≠ "")

lemma rowTexts_cons_of_blank {raw : String} (h : beforeComment raw = "") (raws : List String) :
    rowTexts (raw :: raws) = rowTexts raws := by
  simp [rowTexts, h]

lemma rowTexts_cons_of_ne {raw : String} (h : beforeComment raw ≠ "") (raws : List String) :
    rowTexts (raw :: raws) = beforeComment raw :: rowTexts raws := by
  simp [rowTexts, h]

variable {path : String} {number : Nat} {raw : String} {raws : List String}
  {entries : List (Int × Float)}

lemma faultRowsFrom_of_blank (h : beforeComment raw = "") :
    faultRowsFrom path number (raw :: raws) = faultRowsFrom path (number + 1) raws := by
  rw [faultRowsFrom, if_pos (by simpa using h)]

lemma faultRowsFrom_of_row {entry : Int × Float} (hne : beforeComment raw ≠ "")
    (h : SaysRow (beforeComment raw) entry) :
    faultRowsFrom path number (raw :: raws)
      = (faultRowsFrom path (number + 1) raws).map (entry :: ·) := by
  rw [faultRowsFrom, if_neg (by simpa using hne), faultRow_eq_ok_iff.mpr h]

lemma faultRowsFrom_of_unread (hne : beforeComment raw ≠ "")
    (h : ∀ entry, ¬ SaysRow (beforeComment raw) entry) :
    faultRowsFrom path number (raw :: raws) = .error (rowFailure path number raw) := by
  rw [faultRowsFrom, if_neg (by simpa using hne)]
  cases hrow : faultRow (faultParts (beforeComment raw)) with
  | ok entry => exact absurd (faultRow_eq_ok_iff.mp hrow) (h entry)
  | error f =>
    have hnil : faultParts (beforeComment raw) = [] ↔ IsSeparators (beforeComment raw) :=
      faultParts_eq_nil_iff
    rw [rowFailure]
    obtain hf | ⟨hparts, rfl⟩ := of_faultRow_eq_error hrow
    · rw [if_neg]
      · exact if_pos hf
      · rw [← hnil]
        intro hparts
        rw [hparts] at hrow
        cases hrow
        cases hf
    · rw [if_pos (hnil.mp hparts)]
      rfl

/-- The first of some lines in which a row says nothing, with the number of lines before it. -/
structure StopsAt (raws : List String) (k : Nat) (raw : String) : Prop where
  line : raws[k]? = some raw
  row : beforeComment raw ≠ ""
  unread : ∀ entry, ¬ SaysRow (beforeComment raw) entry
  before : ∃ entries, List.Forall₂ SaysRow (rowTexts (raws.take k)) entries

/-- Either all rows are read, or there is a first one that is not. -/
lemma faultRowsFrom_cases (path : String) (number : Nat) (raws : List String) :
    (∃ entries, faultRowsFrom path number raws = .ok entries ∧
      List.Forall₂ SaysRow (rowTexts raws) entries) ∨
    ∃ k raw, StopsAt raws k raw ∧
      faultRowsFrom path number raws = .error (rowFailure path (number + k) raw) := by
  induction raws generalizing number with
  | nil => exact .inl ⟨[], rfl, .nil⟩
  | cons raw raws ih =>
    by_cases hrow : beforeComment raw = ""
    · rw [faultRowsFrom_of_blank hrow, rowTexts_cons_of_blank hrow]
      refine (ih (number + 1)).imp_right ?_
      rintro ⟨k, other, h, hfail⟩
      refine ⟨k + 1, other, ⟨h.line, h.row, h.unread, ?_⟩, by rw [hfail, Nat.add_right_comm]; rfl⟩
      rw [List.take_succ_cons, rowTexts_cons_of_blank hrow]
      exact h.before
    · by_cases hentry : ∃ entry, SaysRow (beforeComment raw) entry
      · obtain ⟨entry, hentry⟩ := hentry
        rw [faultRowsFrom_of_row hrow hentry, rowTexts_cons_of_ne hrow]
        obtain ⟨entries, hread, hall⟩ | ⟨k, other, h, hfail⟩ := ih (number + 1)
        · exact .inl ⟨entry :: entries, by rw [hread]; rfl, .cons hentry hall⟩
        · refine .inr ⟨k + 1, other, ⟨h.line, h.row, h.unread, ?_⟩, ?_⟩
          · rw [List.take_succ_cons, rowTexts_cons_of_ne hrow]
            obtain ⟨entries, hbefore⟩ := h.before
            exact ⟨entry :: entries, .cons hentry hbefore⟩
          · rw [hfail, Nat.add_right_comm]
            rfl
      · exact .inr ⟨0, raw, ⟨rfl, hrow, not_exists.mp hentry, [], .nil⟩,
          faultRowsFrom_of_unread hrow (not_exists.mp hentry)⟩

/-- The rows of a text are read exactly when all of them say something, as what they say. -/
lemma faultRows_eq_ok_iff {text : String} : faultRows path text = .ok entries ↔
    List.Forall₂ SaysRow (rowTexts (Text.lines text)) entries := by
  have hfrom : ∀ (raws : List String) (number : Nat) (entries : List (Int × Float)),
      List.Forall₂ SaysRow (rowTexts raws) entries →
        faultRowsFrom path number raws = .ok entries := by
    intro raws
    induction raws with
    | nil =>
      rintro number entries ⟨⟩
      rfl
    | cons raw raws ih =>
      intro number entries h
      by_cases hrow : beforeComment raw = ""
      · rw [rowTexts_cons_of_blank hrow] at h
        rw [faultRowsFrom_of_blank hrow]
        exact ih _ _ h
      · rw [rowTexts_cons_of_ne hrow] at h
        obtain ⟨entry, rest, hentry, hall, rfl⟩ := List.forall₂_cons_left_iff.mp h
        rw [faultRowsFrom_of_row hrow hentry, ih _ _ hall]
        rfl
  constructor
  · intro h
    obtain ⟨read, hread, hall⟩ | ⟨k, raw, -, hfail⟩ := faultRowsFrom_cases path 1 (Text.lines text)
    · rw [faultRows, hread] at h
      cases h
      exact hall
    · rw [faultRows, hfail] at h
      cases h
  · exact hfrom _ 1 _

lemma SaysRow.unique {row : String} {entry entry' : Int × Float} (h : SaysRow row entry)
    (h' : SaysRow row entry') : entry = entry' :=
  Except.ok.inj ((faultRow_eq_ok_iff.mpr h).symm.trans (faultRow_eq_ok_iff.mpr h'))

/-- What is read is what the rows say. -/
lemma mem_iff_of_forall₂ {rows : List String} (h : List.Forall₂ SaysRow rows entries)
    {entry : Int × Float} : entry ∈ entries ↔ ∃ row ∈ rows, SaysRow row entry := by
  induction h with
  | nil => simp
  | cons hentry _ ih =>
    rw [List.mem_cons, ih, List.exists_mem_cons_iff]
    refine or_congr_left ⟨?_, fun h => h.unique hentry⟩
    rintro rfl
    exact hentry

lemma inUnit_of_forall₂ {rows : List String} (h : List.Forall₂ SaysRow rows entries) :
    ∀ entry ∈ entries, Weight.inUnit entry.2 = true := by
  induction h with
  | nil => exact nofun
  | cons hentry _ ih => exact List.forall_mem_cons.mpr ⟨hentry.inUnit, ih⟩

namespace Work

variable {m : Machine} {text : String}

/-- Of a fault file that is read the rows of its text are read. -/
lemma run_readFaultFile_of_read (h : (readText (Path.ofText path).text).run m = (.ok text, m)) :
    (readFaultFile path).run m = (faultRows (Path.ofText path).text text, m) := by
  rw [readFaultFile, run_bind_of_ok (run_tryCatch_of_ok h _)]
  cases faultRows (Path.ofText path).text text <;> rfl

/-- Of a fault file that is there the rows of its text are read, and nothing changes. -/
lemma run_readFaultFile (h : m.HasText (Path.ofText path).text text) :
    (readFaultFile path).run m = (faultRows (Path.ofText path).text text, m) := by
  rw [run_readFaultFile_of_read h.run_readText, faultRows, faultRows, Text.lines_asRead]

/-- A fault file that is there is read row by row. Either every row that is not blank before its
comment says something, and what they say is the answer, in the order of the file and with weights
between zero and one; or there is a first row that says nothing, and it is refused with its line in
the file, unless it has nothing but separators. Nothing changes. -/
theorem readFaultFile_reads_rows (h : m.HasText (Path.ofText path).text text) :
    (∃ entries, (readFaultFile path).run m = (.ok entries, m) ∧
      List.Forall₂ SaysRow (rowTexts (Text.lines text)) entries ∧
      ∀ entry ∈ entries, Weight.inUnit entry.2 = true) ∨
    ∃ k raw f, (readFaultFile path).run m = (.error f, m) ∧ StopsAt (Text.lines text) k raw ∧
      (¬ IsSeparators (beforeComment raw) ∧
          f = .repair (.faultLocalization (.malformedRow (Path.ofText path).text (k + 1) raw)) ∨
        IsSeparators (beforeComment raw) ∧ f = .index "list index out of range") := by
  rw [run_readFaultFile h, faultRows]
  obtain ⟨entries, hread, hall⟩ | ⟨k, raw, hstops, hfail⟩ :=
    faultRowsFrom_cases (Path.ofText path).text 1 (Text.lines text)
  · exact .inl ⟨entries, by rw [hread], hall, inUnit_of_forall₂ hall⟩
  · refine .inr ⟨k, raw, _, by rw [hfail], hstops, ?_⟩
    rw [rowFailure, Nat.add_comm 1 k]
    by_cases hseparators : IsSeparators (beforeComment raw)
    · exact .inr ⟨hseparators, if_pos hseparators⟩
    · exact .inl ⟨hseparators, if_neg hseparators⟩

/-- Two rows with a comment and a blank line between them are read; in a file whose second row has a
weight that is not a number it is that row which is refused. -/
theorem readFaultFile_reads_rows_two :
    (∃ entries, (readFaultFile "f").run (.ofText "3, 0.5 # c\n\n7\n")
        = (.ok entries, .ofText "3, 0.5 # c\n\n7\n") ∧
      List.Forall₂ SaysRow ["3, 0.5", "7"] entries ∧
      ∀ entry ∈ entries, Weight.inUnit entry.2 = true) ∧
    (readFaultFile "f").run (.ofText "1\n2,nan\n")
      = (.error (.repair (.faultLocalization (.malformedRow "f" 2 "2,nan"))),
          .ofText "1\n2,nan\n") := by
  have hpath : (Path.ofText "f").text = "f" := by decide
  have hgood : (faultRows "f" "3, 0.5 # c\n\n7\n").toOption.isSome = true := by decide
  have hbad : (faultRows "f" "1\n2,nan\n").toOption.isSome = false := by decide
  have hgoodRun := run_readFaultFile (Machine.hasText_ofText "3, 0.5 # c\n\n7\n")
  have hbadRun := run_readFaultFile (Machine.hasText_ofText "1\n2,nan\n")
  have hrows : rowTexts (Text.lines "3, 0.5 # c\n\n7\n") = ["3, 0.5", "7"] := by decide
  have hlines : Text.lines "1\n2,nan\n" = ["1", "2,nan"] := by decide
  have hfirst : SaysRow (beforeComment "1") (1, 1.0) :=
    .bare (by decide : _ = ["1"]) (by decide)
  constructor
  · obtain ⟨entries, hrun, hall, hunit⟩ | ⟨k, raw, f, hrun, -⟩ :=
      readFaultFile_reads_rows (Machine.hasText_ofText "3, 0.5 # c\n\n7\n")
    · exact ⟨entries, hrun, hrows ▸ hall, hunit⟩
    · rw [hgoodRun, hpath] at hrun
      rw [(Prod.mk.inj hrun).1] at hgood
      cases hgood
  · obtain ⟨entries, hrun, -⟩ | ⟨k, raw, f, hrun, hstops, hf⟩ :=
      readFaultFile_reads_rows (Machine.hasText_ofText "1\n2,nan\n")
    · rw [hbadRun, hpath] at hrun
      rw [(Prod.mk.inj hrun).1] at hbad
      cases hbad
    · rw [hlines] at hstops
      match k, hstops with
      | 0, hstops =>
        obtain rfl : "1" = raw := Option.some.inj hstops.line
        exact absurd hfirst (hstops.unread _)
      | 1, hstops =>
        obtain rfl : "2,nan" = raw := Option.some.inj hstops.line
        obtain ⟨-, rfl⟩ | ⟨hseparators, -⟩ := hf
        · rw [hrun, hpath]
        · exact absurd hseparators (by decide)
      | k + 2, hstops => nomatch hstops.line

/-- A row that is a comma is not refused. -/
theorem readFaultFile_looks_for_parts :
    ∃ raw ∈ Text.lines ",\n", beforeComment raw ≠ "" ∧
      (readFaultFile "f").run (.ofText ",\n")
        = (.error (.index "list index out of range"), .ofText ",\n") := by
  have hlines : Text.lines ",\n" = [","] := by decide
  refine ⟨",", by rw [hlines]; exact List.mem_singleton_self _, by decide, ?_⟩
  rw [run_readFaultFile (Machine.hasText_ofText _)]
  rfl

end Work

end VariantRepair
