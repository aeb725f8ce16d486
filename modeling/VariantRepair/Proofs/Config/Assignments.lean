import Mathlib.Data.List.DropRight
import Mathlib.Data.List.ReduceOption
import Mathlib.Tactic.Common
import VariantRepair.Config.Source
import VariantRepair.Proofs.Host.Texts
import VariantRepair.Proofs.Program.Lines
import VariantRepair.Proofs.Text.Words
import VariantRepair.Proofs.Value.Field

/-!
# Assignments

Which texts a file assigns to names, and what becomes of variables that assignments are made to.
-/

/-!
## Assignments in files

A line of a file assigns a text to a name. The text stands in quotes, and it may have such quotes,
equality signs and blanks itself: only the first and the last quote count, and the first equality
sign. Blank lines and comments assign nothing.
-/

namespace VariantRepair

/-! ### Lines that are ended -/

namespace Text

/-- A text without line breaks. -/
def IsLine (s : String) : Prop :=
  ∀ c ∈ s.toList, isLineBreak c = false

instance (s : String) : Decidable (IsLine s) :=
  List.decidableBAll (fun c => isLineBreak c = false) s.toList

lemma isLine_append {s t : String} : IsLine (s ++ t) ↔ IsLine s ∧ IsLine t := by
  simp only [IsLine, String.toList_append, List.forall_mem_append]

/-- A text of blanks without line breaks. -/
def IsBlankLine (s : String) : Prop :=
  ∀ c ∈ s.toList, isBlank c = true ∧ isLineBreak c = false

instance (s : String) : Decidable (IsBlankLine s) :=
  List.decidableBAll (fun c => isBlank c = true ∧ isLineBreak c = false) s.toList

lemma IsBlankLine.isLine {s : String} (h : IsBlankLine s) : IsLine s := fun c hc => (h c hc).2

lemma linesBy_append_feed {l : List Char} (h : ∀ c ∈ l, isLineBreak c = false)
    (line cs : List Char) :
    linesBy line (l ++ '\n' :: cs) = (line.reverse ++ l) :: linesBy [] cs := by
  induction l generalizing line with
  | nil =>
    rw [List.nil_append, linesBy_cons (by simp), if_pos isLineBreak_feed, List.append_nil]
  | cons c l ih =>
    obtain ⟨hc, hl⟩ := List.forall_mem_cons.mp h
    have hreturn : c ≠ '\r' := by
      rintro rfl
      rw [isLineBreak_return] at hc
      cases hc
    rw [List.cons_append, linesBy_cons (fun _ hc => absurd hc hreturn), hc,
      if_neg Bool.false_ne_true, ih hl, List.reverse_cons, List.append_assoc, List.singleton_append]

lemma linesBy_flatMap {ls : List (List Char)} (h : ∀ l ∈ ls, ∀ c ∈ l, isLineBreak c = false) :
    linesBy [] (ls.flatMap (· ++ ['\n'])) = ls := by
  induction ls with
  | nil => rfl
  | cons l ls ih =>
    obtain ⟨hl, hls⟩ := List.forall_mem_cons.mp h
    rw [List.flatMap_cons, List.append_assoc, List.singleton_append, linesBy_append_feed hl,
      ih hls, List.reverse_nil, List.nil_append]

/-- Lines without line breaks are the lines of the text in which a line feed ends each of them. -/
lemma lines_text {ls : List String} (h : ∀ l ∈ ls, IsLine l) :
    lines (Program.Lines.text ls) = ls := by
  have hbreaks : ∀ l ∈ ls.map String.toList, ∀ c ∈ l, isLineBreak c = false := by
    simpa [IsLine] using h
  rw [lines, Program.Lines.toList_text, linesBy_flatMap hbreaks, List.map_map]
  exact (List.map_congr_left fun l _ => String.ofList_toList).trans ls.map_id

end Text

namespace Config

/-! ### Lines of assignments -/

/-- The names that a line can assign to. -/
structure IsName (name : String) : Prop where
  ne_empty : name ≠ ""
  no_equality : '=' ∉ name.toList
  isLine : Text.IsLine name
  no_nul : '\x00' ∉ name.toList
  trimmed : Text.strip name = name
  no_comment : ¬ "#".toList <+: name.toList
  no_export : ¬ "export ".toList <+: name.toList

/-- What a line says: a blank line and a comment say nothing, and any other line assigns the text
between its quotes to a name. -/
inductive SaysAssignment : String → Option (String × String) → Prop
  | blank {line : String} (h : Text.IsBlankLine line) : SaysAssignment line none
  | comment {blanks text : String} (hblanks : Text.IsBlankLine blanks) (htext : Text.IsLine text) :
      SaysAssignment (blanks ++ "#" ++ text) none
  | assign {start name text quote : String} (hstart : start = "" ∨ start = "export ")
      (hname : IsName name) (htext : Text.IsLine text) (hnul : '\x00' ∉ text.toList)
      (hquote : quote = "'" ∨ quote = "\"") :
      SaysAssignment (start ++ name ++ "=" ++ quote ++ text ++ quote) (some (name, text))

variable {name text : String} {start quote : String}

/-- A name is read as it is. -/
lemma IsName.exists_cons (h : IsName name) :
    ∃ first rest, name.toList = first :: rest ∧ Text.isBlank first = false ∧ first ≠ '#' := by
  cases hname : name.toList with
  | nil => exact absurd (String.toList_eq_nil_iff.mp hname) h.ne_empty
  | cons first rest =>
    refine ⟨first, rest, rfl, ?_, ?_⟩
    · have htrimmed : Text.trimChars Text.isBlank name.toList = name.toList := by
        have := congrArg String.toList h.trimmed
        rwa [Text.strip, String.toList_ofList] at this
      exact Text.head?_trimChars (by rw [htrimmed, hname]; rfl)
    · rintro rfl
      exact h.no_comment (hname ▸ ⟨rest, rfl⟩)

/-- The word that may stand in front of a name is none of the name and what follows it: it has no
equality sign. -/
lemma IsName.not_export_prefix (h : IsName name) (rest : List Char) :
    ¬ "export ".toList <+: name.toList ++ '=' :: rest := by
  intro hprefix
  have hname : name.toList ++ ['='] <+: name.toList ++ '=' :: rest := ⟨rest, by simp⟩
  obtain hshort | hlong := List.prefix_or_prefix_of_prefix hprefix hname
  · obtain hwhole | hpart := List.prefix_concat_iff.mp hshort
    · have : '=' ∈ "export ".toList := hwhole ▸ by simp
      exact absurd this (by decide)
    · exact h.no_export hpart
  · have : '=' ∈ "export ".toList := hlong.subset (by simp)
    exact absurd this (by decide)

lemma unquote_between {q : Char} (hq : q = '\'' ∨ q = '"') (cs : List Char) :
    unquote (String.ofList (q :: cs ++ [q])) = String.ofList cs := by
  rw [unquote, String.toList_ofList, List.cons_append]
  dsimp only
  rw [if_pos ⟨hq, List.getLast?_concat⟩, List.dropLast_concat]

/-- What is read of a line once it is trimmed and the word in front is dropped. -/
lemma assignment?_of_core {line : String} {q : Char} {cs : List Char} (hname : IsName name)
    (hq : q = '\'' ∨ q = '"')
    (hcore : (if "export ".toList.isPrefixOf (Text.strip line).toList
      then (Text.strip line).toList.drop "export ".toList.length else (Text.strip line).toList)
      = name.toList ++ '=' :: (q :: cs ++ [q])) :
    assignment? line = some (name, String.ofList cs) := by
  obtain ⟨first, rest, hfirst, -, hcomment⟩ := hname.exists_cons
  have hhead : ¬ ((name.toList ++ '=' :: (q :: cs ++ [q])).head? = some '#' ∨
      (!(name.toList ++ '=' :: (q :: cs ++ [q])).contains '=') = true) := by
    simp [hfirst, hcomment]
  have hbefore : ∀ c ∈ name.toList, decide (c ≠ '=') = true := fun c hc =>
    decide_eq_true fun h => hname.no_equality (h ▸ hc)
  have htake : (name.toList ++ '=' :: (q :: cs ++ [q])).takeWhile (· ≠ '=') = name.toList := by
    rw [List.takeWhile_append_of_pos hbefore, List.takeWhile_cons_of_neg (by simp), List.append_nil]
  have hdrop : ((name.toList ++ '=' :: (q :: cs ++ [q])).dropWhile (· ≠ '=')).drop 1
      = q :: cs ++ [q] := by
    rw [List.dropWhile_append_of_pos hbefore, List.dropWhile_cons_of_neg (by simp)]
    rfl
  have hquote : Text.isBlank q = false := by
    obtain rfl | rfl := hq <;> decide
  have hvalue : Text.strip (String.ofList (q :: cs ++ [q])) = String.ofList (q :: cs ++ [q]) := by
    rw [Text.strip, String.toList_ofList, Text.trimChars_between hquote hquote]
  have hne : name.isEmpty = false := by
    rw [Bool.eq_false_iff, ne_eq, String.isEmpty_iff]
    exact hname.ne_empty
  rw [assignment?]
  dsimp only
  rw [hcore, if_neg hhead, htake, hdrop, String.ofList_toList, hname.trimmed, hvalue, hne,
    if_neg Bool.false_ne_true, unquote_between hq]

/-- A line that assigns begins and ends with characters that are not blank, and nothing of it is
trimmed. -/
lemma toList_strip_assign {line : String} {q : Char} {cs : List Char}
    (hstart : start = "" ∨ start = "export ") (hname : IsName name) (hq : q = '\'' ∨ q = '"')
    (hline : line.toList = start.toList ++ (name.toList ++ '=' :: (q :: cs ++ [q]))) :
    (Text.strip line).toList = line.toList := by
  obtain ⟨first, rest, hfirst, hblank, -⟩ := hname.exists_cons
  have hquote : Text.isBlank q = false := by
    obtain rfl | rfl := hq <;> decide
  obtain ⟨c, middle, hends, hc⟩ : ∃ c middle, line.toList = c :: middle ++ [q] ∧
      Text.isBlank c = false := by
    obtain rfl | rfl := hstart
    · exact ⟨first, rest ++ '=' :: q :: cs, by simp [hline, hfirst], hblank⟩
    · exact ⟨'e', "xport ".toList ++ (name.toList ++ '=' :: q :: cs), by simp [hline], by decide⟩
  rw [Text.strip, String.toList_ofList, hends, Text.trimChars_between hc hquote]

/-- A line is read as what it says. -/
lemma assignment?_of_says {line : String} {said : Option (String × String)}
    (h : SaysAssignment line said) : assignment? line = said := by
  cases h with
  | blank h =>
    have hstrip : (Text.strip line).toList = [] := by
      rw [Text.strip, String.toList_ofList, Text.trimChars_of_forall fun c hc => (h c hc).1]
    rw [assignment?, hstrip]
    rfl
  | @comment blanks text hblanks htext =>
    have hline : (blanks ++ "#" ++ text).toList = blanks.toList ++ '#' :: text.toList := by
      simp
    obtain ⟨rest, hrest⟩ := Text.exists_trimChars_eq (p := Text.isBlank)
      (fun c hc => (hblanks c hc).1) (by decide : Text.isBlank '#' = false) text.toList
    have hstrip : (Text.strip (blanks ++ "#" ++ text)).toList = '#' :: rest := by
      rw [Text.strip, String.toList_ofList, hline, hrest]
    have hexport : "export ".toList.isPrefixOf ('#' :: rest) = false := rfl
    rw [assignment?, hstrip]
    dsimp only
    rw [hexport, if_neg Bool.false_ne_true, if_pos (.inl rfl)]
  | @assign start name text quote hstart hname htext hnul hquote =>
    obtain ⟨q, hq, rfl⟩ : ∃ q, (q = '\'' ∨ q = '"') ∧ quote = String.singleton q := by
      obtain rfl | rfl := hquote
      · exact ⟨'\'', .inl rfl, rfl⟩
      · exact ⟨'"', .inr rfl, rfl⟩
    have hline : (start ++ name ++ "=" ++ String.singleton q ++ text ++ String.singleton q).toList
        = start.toList ++ (name.toList ++ '=' :: (q :: text.toList ++ [q])) := by
      simp
    refine (assignment?_of_core hname hq ?_).trans (by rw [String.ofList_toList])
    rw [toList_strip_assign hstart hname hq hline, hline]
    obtain rfl | rfl := hstart
    · rw [String.toList_empty, List.nil_append,
        if_neg fun h => hname.not_export_prefix _ (List.isPrefixOf_iff_prefix.mp h)]
    · rw [if_pos (List.isPrefixOf_iff_prefix.mpr (List.prefix_append _ _)), List.drop_left]

/-- A line that says something, or nothing, is one line. -/
lemma SaysAssignment.isLine {line : String} {said : Option (String × String)}
    (h : SaysAssignment line said) : Text.IsLine line := by
  cases h with
  | blank h => exact h.isLine
  | comment hblanks htext =>
    simp only [Text.isLine_append]
    exact ⟨⟨hblanks.isLine, by decide⟩, htext⟩
  | @assign start name text quote hstart hname htext hnul hquote =>
    have hstart : Text.IsLine start := by
      obtain rfl | rfl := hstart <;> decide
    have hquote : Text.IsLine quote := by
      obtain rfl | rfl := hquote <;> decide
    simp only [Text.isLine_append]
    exact ⟨⟨⟨⟨⟨hstart, hname.isLine⟩, by decide⟩, hquote⟩, htext⟩, hquote⟩

lemma SaysAssignment.no_nul {line : String} {p : String × String}
    (h : SaysAssignment line (some p)) : '\x00' ∉ p.1.toList ∧ '\x00' ∉ p.2.toList := by
  cases h with
  | assign hstart hname htext hnul hquote => exact ⟨hname.no_nul, hnul⟩

section Lines

variable {ls : List String} {said : List (Option (String × String))}

lemma isLine_of_says (h : List.Forall₂ SaysAssignment ls said) : ∀ l ∈ ls, Text.IsLine l := by
  induction h with
  | nil => exact nofun
  | cons hline hls ih => exact List.forall_mem_cons.mpr ⟨hline.isLine, ih⟩

lemma no_nul_of_says (h : List.Forall₂ SaysAssignment ls said) :
    ∀ p ∈ said.reduceOption, '\x00' ∉ p.1.toList ∧ '\x00' ∉ p.2.toList := by
  induction h with
  | nil => exact nofun
  | @cons line s ls said hline hls ih =>
    cases s with
    | none => rwa [List.reduceOption_cons_of_none]
    | some p =>
      rw [List.reduceOption_cons_of_some]
      exact List.forall_mem_cons.mpr ⟨hline.no_nul, ih⟩

/-- The assignments of a text are what its lines say. -/
lemma assignments_of_says {text : String}
    (h : List.Forall₂ SaysAssignment (Text.lines text) said) :
    assignments text = said.reduceOption := by
  rw [assignments]
  generalize Text.lines text = ls at h
  induction h with
  | nil => rfl
  | @cons line s ls said hline hls ih =>
    have := assignment?_of_says hline
    cases s with
    | none => rw [List.filterMap_cons_none this, ih, List.reduceOption_cons_of_none]
    | some p => rw [List.filterMap_cons_some this, ih, List.reduceOption_cons_of_some]

end Lines

end Config

end VariantRepair

/-!
## Variables that are set

A variable has one value, which setting it changes. Assignments that are made in turn either keep
what is set already, so that the first one to a name counts, or replace it, so that the last one
does; made again, they change nothing.
-/

namespace VariantRepair.Config.Environment

lemma set_eq_put (env : Environment) (name value : String) :
    env.set name value = put env name value := by
  have hany : (env.any fun p => p.1 == name) = (env.lookup name).isSome := by
    rw [Bool.eq_iff_iff, List.any_eq_true, List.lookup_isSome_iff]
    simp only [Bool.beq_comm]
  rw [set, put, hany]

/-- Setting a variable gives it its value and leaves the others as they are. -/
lemma lookup_set (env : Environment) (name value other : String) :
    (env.set name value).lookup other
      = if other = name then some value else env.lookup other := by
  rw [set_eq_put, lookup_put]

/-- The variables after an assignment, which counts if its variable is not set yet or is to be
replaced. -/
def assign (override : Bool) (env : Environment) (p : String × String) : Environment :=
  if override || (env.lookup p.1).isNone then env.set p.1 p.2 else env

/-- The variables after assignments in turn. -/
def assignAll (override : Bool) (env : Environment) (ps : List (String × String)) : Environment :=
  ps.foldl (assign override) env

variable {env : Environment} {ps : List (String × String)}

lemma assignAll_cons (override : Bool) (p : String × String) :
    env.assignAll override (p :: ps) = (env.assign override p).assignAll override ps := rfl

/-! ### Variables that are replaced -/

lemma assignAll_true (env : Environment) (ps : List (String × String)) :
    env.assignAll true ps = putAll env ps := by
  induction ps generalizing env with
  | nil => rfl
  | cons p ps ih =>
    rw [assignAll_cons, ih, putAll_cons, assign, Bool.true_or, if_pos rfl, set_eq_put]

/-! ### Variables that are kept -/

lemma lookup_assign_false (env : Environment) (p : String × String) (name : String) :
    (env.assign false p).lookup name
      = (env.lookup name).or (if name = p.1 then some p.2 else none) := by
  rw [assign, Bool.false_or]
  cases hset : env.lookup p.1 with
  | some value =>
    rw [Option.isNone_some, if_neg Bool.false_ne_true]
    split_ifs with hname
    · rw [hname, hset, Option.some_or]
    · rw [Option.or_none]
  | none =>
    rw [Option.isNone_none, if_pos rfl, lookup_set]
    split_ifs with hname
    · rw [hname, hset, Option.none_or]
    · rw [Option.or_none]

/-- A variable that is set keeps its value, and the first assignment to any other one counts. -/
lemma lookup_assignAll_false (env : Environment) (ps : List (String × String)) (name : String) :
    (env.assignAll false ps).lookup name = (env.lookup name).or (ps.lookup name) := by
  induction ps generalizing env with
  | nil => simp [assignAll]
  | cons p ps ih =>
    rw [assignAll_cons, ih, lookup_assign_false, Option.or_assoc, lookup_cons_eq_ite]
    split_ifs <;> rfl

lemma assignAll_false_of_known (h : ∀ p ∈ ps, (env.lookup p.1).isSome) :
    env.assignAll false ps = env := by
  induction ps with
  | nil => rfl
  | cons p ps ih =>
    obtain ⟨hp, hps⟩ := List.forall_mem_cons.mp h
    have hkept : env.assign false p = env := by
      rw [assign, Bool.false_or, Option.isNone_eq_false_iff.mpr hp, if_neg Bool.false_ne_true]
    rw [assignAll_cons, hkept, ih hps]

/-- The same assignments made again change nothing. -/
lemma assignAll_assignAll (override : Bool) (env : Environment) (ps : List (String × String)) :
    (env.assignAll override ps).assignAll override ps = env.assignAll override ps := by
  cases override with
  | true => rw [assignAll_true, assignAll_true, putAll_putAll]
  | false =>
    refine assignAll_false_of_known fun p hp => ?_
    have hfirst : (ps.lookup p.1).isSome := List.lookup_isSome_iff.mpr ⟨p, hp, by simp⟩
    rw [lookup_assignAll_false, Option.isSome_or, hfirst, Bool.or_true]

end VariantRepair.Config.Environment
