import Mathlib.Data.List.Infix
import Mathlib.Data.List.Nodup
import Mathlib.Tactic.Common
import VariantRepair.Bench.Test
import VariantRepair.Command.Words
import VariantRepair.Proofs.Test.Name
import VariantRepair.Proofs.Text.Words

/-!
# Commands from templates

A command is made from a template: its placeholders are replaced by values, and the text is split
into words. Values that are to be one word are quoted first.
-/

/-!
## Commands without placeholders

All placeholders begin with an underscore. A command without underscores is run as it stands.
-/

namespace VariantRepair

namespace Command

lemma replaceFrom_of_not_mem {p : Char} (pattern value : List Char) {cs : List Char}
    (hp : p ∉ cs) : replaceFrom (p :: pattern) value 0 cs = cs := by
  induction cs with
  | nil => rfl
  | cons c cs ih =>
    obtain ⟨hc, hcs⟩ := not_or.mp (mt List.mem_cons.mpr hp)
    have hprefix : ¬ (p :: pattern).isPrefixOf (c :: cs) := by simp [hc]
    rw [replaceFrom, if_neg hprefix, ih hcs]

variable {template : String} (hplain : '_' ∉ template.toList)

include hplain

lemma replaceAll_of_plain (name : List Char) (value : String) :
    replaceAll (String.ofList ('_' :: name)) value template = template := by
  have hne : ¬ (String.ofList ('_' :: name)).isEmpty := by simp
  rw [replaceAll, if_neg hne, String.toList_ofList, replaceFrom_of_not_mem name _ hplain,
    String.ofList_toList]

lemma fill_of_plain {replacements : List (String × String)}
    (h : ∀ r ∈ replacements, ∃ name, r.1 = String.ofList ('_' :: name)) :
    fill template replacements = template := by
  induction replacements with
  | nil => rfl
  | cons r replacements ih =>
    obtain ⟨⟨name, hname⟩, hrest⟩ := List.forall_mem_cons.mp h
    rw [fill, List.foldl_cons, hname, replaceAll_of_plain hplain]
    exact ih hrest

end Command

namespace Work

variable {c : Config} {executable source name : String} {test : Test} {port : Int}

lemma testWords_of_written (h : test.written = .ok name) :
    testWords c executable source test port
      = (Command.substitute c.testCommand
          [("__EXE_NAME__", Command.quoteWord executable), ("__TEST_NAME__", name),
            ("__SOURCE_NAME__", Command.quoteWord source),
            ("__PORT__", toString port)]).mapError fun e => .refused (.command e) := by
  rw [testWords, h]
  simp only [bind, Except.bind]

/-- The words of a test command without placeholders are those of its text. -/
lemma testWords_of_plain {words : List String} (hplain : '_' ∉ c.testCommand.toList)
    (hwords : Command.split c.testCommand = .ok words) (htest : test.IsReadable) :
    testWords c executable source test port = .ok words := by
  rw [testWords_of_written (Test.written_of_isReadable htest), Command.substitute,
    Command.fill_of_plain hplain, hwords]
  · rfl
  · simp only [List.forall_mem_cons]
    exact ⟨⟨_, String.ofList_toList.symm⟩, ⟨_, String.ofList_toList.symm⟩,
      ⟨_, String.ofList_toList.symm⟩, ⟨_, String.ofList_toList.symm⟩, List.forall_mem_nil _⟩

end Work

end VariantRepair

/-!
## Words that are quoted

A text that splits into words does so in front of any others, if a separator stands between. And to
quote a text and to split are inverse: whatever its characters are, a quoted text is one word, and
the word is the text.
-/

namespace VariantRepair.Command

variable {mode : Mode} {word cs : List Char} {ws : List String} {b c : Char}

/-! ### Separators -/

/-- Splitting stands at the same place wherever a word ends, so behind a separator the rest of a
text is split by itself. -/
lemma splitFrom_append (h : splitFrom mode word cs = .ok ws) (hb : isSeparator b = true)
    (rest : List Char) :
    splitFrom mode word (cs ++ b :: rest) = (splitFrom .between [] rest).map (ws ++ ·) := by
  induction cs generalizing mode word ws with
  | nil =>
    cases mode with
    | between =>
      cases h
      rw [List.nil_append, splitFrom, if_pos hb]
      cases splitFrom .between [] rest <;> rfl
    | word =>
      cases h
      rw [List.nil_append, splitFrom, if_pos hb]
      rfl
    | quoted q => cases h
    | escaped q => cases h
  | cons c cs ih =>
    cases mode with
    | between =>
      rw [splitFrom] at h
      rw [List.cons_append, splitFrom]
      split_ifs at h ⊢ <;> exact ih h
    | word =>
      rw [splitFrom] at h
      rw [List.cons_append, splitFrom]
      split_ifs at h ⊢ with hc
      · cases hrest : splitFrom .between [] cs with
        | error e =>
          rw [hrest] at h
          cases h
        | ok words =>
          rw [hrest] at h
          cases h
          rw [ih hrest]
          cases splitFrom .between [] rest <;> rfl
      all_goals exact ih h
    | quoted q =>
      rw [splitFrom] at h
      rw [List.cons_append, splitFrom]
      split_ifs at h ⊢ <;> exact ih h
    | escaped q =>
      cases q with
      | none =>
        rw [splitFrom] at h
        rw [List.cons_append, splitFrom]
        exact ih h
      | some q =>
        rw [splitFrom] at h
        rw [List.cons_append, splitFrom]
        split_ifs at h ⊢ <;> exact ih h

/-! ### Plain words -/

/-- A character that a word can hold without quotes. -/
lemma plain_of_isSafe (h : isSafe c = true) :
    isSeparator c = false ∧ c ≠ '\\' ∧ ¬ (c = '\'' ∨ c = '"') := by
  have hne (d : Char) (hd : isSafe d = false) : c ≠ d := by
    rintro rfl
    exact Bool.false_ne_true (hd.symm.trans h)
  refine ⟨?_, hne _ (by decide), not_or.mpr ⟨hne _ (by decide), hne _ (by decide)⟩⟩
  simp only [isSeparator, Bool.or_eq_false_iff, beq_eq_false_iff_ne]
  exact ⟨⟨⟨hne _ (by decide), hne _ (by decide)⟩, hne _ (by decide)⟩, hne _ (by decide)⟩

lemma splitFrom_word_of_isSafe (h : ∀ c ∈ cs, isSafe c = true) :
    splitFrom .word word cs = .ok [String.ofList (word.reverse ++ cs)] := by
  induction cs generalizing word with
  | nil => rw [splitFrom, List.append_nil]
  | cons c cs ih =>
    obtain ⟨hc, hcs⟩ := List.forall_mem_cons.mp h
    obtain ⟨hseparator, hescape, hquote⟩ := plain_of_isSafe hc
    rw [splitFrom, if_neg (by simp [hseparator]), if_neg hescape, if_neg hquote, ih hcs,
      List.reverse_cons, List.append_assoc, List.singleton_append]

/-- A word of safe characters stands for itself. -/
lemma split_of_isSafe {s : String} (hs : s ≠ "") (h : ∀ c ∈ s.toList, isSafe c = true) :
    split s = .ok [s] := by
  rw [split]
  cases hcs : s.toList with
  | nil => exact absurd (String.toList_eq_nil_iff.mp hcs) hs
  | cons c cs =>
    rw [hcs] at h
    obtain ⟨hc, hrest⟩ := List.forall_mem_cons.mp h
    obtain ⟨hseparator, hescape, hquote⟩ := plain_of_isSafe hc
    rw [splitFrom, if_neg (by simp [hseparator]), if_neg hescape, if_neg hquote,
      splitFrom_word_of_isSafe hrest, List.reverse_singleton, List.singleton_append, ← hcs,
      String.ofList_toList]

/-! ### Quotes -/

/-- What stands for a character between single quotes: for a single quote, one in double quotes
between two parts of the word. -/
def quoteChar (c : Char) : List Char :=
  if c = '\'' then "'\"'\"'".toList else [c]

lemma splitFrom_quoted (s : List Char) :
    splitFrom (.quoted '\'') word (s.flatMap quoteChar ++ ['\''])
      = .ok [String.ofList (word.reverse ++ s)] := by
  induction s generalizing word with
  | nil => rw [List.append_nil]; rfl
  | cons c s ih =>
    have hword : word.reverse ++ c :: s = (c :: word).reverse ++ s := by
      rw [List.reverse_cons, List.append_assoc, List.singleton_append]
    rw [List.flatMap_cons, List.append_assoc, hword, ← ih]
    by_cases hc : c = '\''
    · rw [hc, quoteChar, if_pos rfl]
      rfl
    · rw [quoteChar, if_neg hc, List.singleton_append, splitFrom, if_neg hc,
        if_neg (by simp)]

/-- A quoted text stands as it is, when its characters are safe, or between single quotes. -/
lemma quoteWord_cases (s : String) :
    (s ≠ "" ∧ (∀ c ∈ s.toList, isSafe c = true) ∧ quoteWord s = s) ∨
      (quoteWord s).toList = '\'' :: (s.toList.flatMap quoteChar ++ ['\'']) := by
  rw [quoteWord]
  split_ifs with hempty hsafe
  · rw [String.isEmpty_iff] at hempty
    rw [hempty]
    exact .inr rfl
  · exact .inl ⟨by simpa using hempty, by simpa using hsafe, rfl⟩
  · refine .inr ?_
    rw [String.toList_append, String.toList_append, String.toList_ofList, String.toList_ofList]
    rfl

/-- A quoted text is one word, which is the text. -/
theorem split_quoteWord (s : String) : split (quoteWord s) = .ok [s] := by
  obtain ⟨hs, hsafe, hquote⟩ | hquote := quoteWord_cases s
  · rw [hquote]
    exact split_of_isSafe hs hsafe
  · have hquoted : splitFrom (.quoted '\'') [] (s.toList.flatMap quoteChar ++ ['\''])
        = .ok [String.ofList s.toList] := splitFrom_quoted s.toList
    rw [split, hquote]
    exact hquoted.trans (by rw [String.ofList_toList])

/-! ### Texts within quoted ones -/

/-- A text without a character does not begin with it. -/
lemma infix_of_infix_cons {pattern after : List Char} (hc : c ∉ pattern)
    (h : pattern <:+: c :: after) : pattern <:+: after := by
  rw [List.infix_cons_iff] at h
  rcases h with h | h
  · cases pattern with
    | nil => exact List.nil_infix
    | cons p pattern =>
      obtain ⟨rfl, -⟩ := List.cons_prefix_cons.mp h
      exact absurd List.mem_cons_self hc
  · exact h

/-- A text without a character lies in front of it or behind it. -/
lemma infix_append_cons {pattern before after : List Char} (hc : c ∉ pattern)
    (h : pattern <:+: before ++ c :: after) : pattern <:+: before ∨ pattern <:+: after := by
  rw [List.infix_append_iff] at h
  rcases h with h | h | ⟨first, last, rfl, hfirst, hlast⟩
  · exact .inl h
  · exact .inr (infix_of_infix_cons hc h)
  · cases last with
    | nil =>
      rw [List.append_nil]
      exact .inl hfirst.isInfix
    | cons p last =>
      obtain ⟨rfl, -⟩ := List.cons_prefix_cons.mp hlast
      exact absurd (List.mem_append_right _ List.mem_cons_self) hc

section Infix

variable {pattern before s : List Char} (hsingle : '\'' ∉ pattern) (hdouble : '"' ∉ pattern)

include hsingle hdouble

lemma infix_of_infix_flatMap (h : pattern <:+: before ++ (s.flatMap quoteChar ++ ['\''])) :
    pattern <:+: before ++ s := by
  induction s generalizing before with
  | nil =>
    rw [List.append_nil]
    exact (infix_append_cons hsingle h).elim id fun h => (List.infix_nil.mp h) ▸ List.nil_infix
  | cons c s ih =>
    rw [List.flatMap_cons, List.append_assoc] at h
    by_cases hc : c = '\''
    · rw [hc, quoteChar, if_pos rfl] at h
      rcases infix_append_cons hsingle h with h | h
      · exact h.trans (List.prefix_append _ _).isInfix
      · -- what stands for the character is one quote after the other
        have h := infix_of_infix_cons hdouble h
        have h := infix_of_infix_cons hsingle h
        have h := infix_of_infix_cons hdouble h
        have h := infix_of_infix_cons hsingle h
        have hs : pattern <:+: [] ++ s := ih h
        exact hs.trans ((List.suffix_cons c s).trans (List.suffix_append _ _)).isInfix
    · rw [quoteChar, if_neg hc, ← List.append_assoc] at h
      have hs := ih h
      rwa [List.append_assoc, List.singleton_append] at hs

/-- What has no quotes and occurs in a quoted text occurs in the text. -/
lemma infix_of_infix_quoteWord {s : String} (h : pattern <:+: (quoteWord s).toList) :
    pattern <:+: s.toList := by
  obtain ⟨-, -, hquote⟩ | hquote := quoteWord_cases s
  · rwa [hquote] at h
  · rw [hquote] at h
    have hs : pattern <:+: [] ++ s.toList :=
      infix_of_infix_flatMap hsingle hdouble (infix_of_infix_cons hsingle h)
    exact hs

end Infix

end VariantRepair.Command

/-!
## Templates of commands

A template is written word by word: each word is a placeholder, or plain characters. To fill in its
placeholders one after the other, and then to split the text, gives for each word in turn what the
value of the placeholder splits into, and a plain word as it is, provided that no placeholder occurs
in a value.
-/

namespace VariantRepair.Command

variable {pattern value cs rest : List Char} {b : Char}

/-! ### One placeholder -/

/-- Where a text begins does not depend on what comes from a character on that it lacks. -/
lemma prefix_append_cons_iff (hb : b ∉ pattern) :
    pattern <+: cs ++ b :: rest ↔ pattern <+: cs := by
  induction pattern generalizing cs with
  | nil => exact iff_of_true List.nil_prefix List.nil_prefix
  | cons p pattern ih =>
    obtain ⟨hbp, hb⟩ := not_or.mp (mt List.mem_cons.mpr hb)
    cases cs with
    | nil =>
      rw [List.nil_append, List.cons_prefix_cons]
      exact iff_of_false (fun h => hbp h.1.symm) (by simp)
    | cons c cs =>
      rw [List.cons_append, List.cons_prefix_cons, List.cons_prefix_cons, ih hb]

/-- A place that is replaced does not reach over a character that is not in the pattern. -/
lemma replaceFrom_append (hb : b ∉ pattern) (hne : pattern ≠ []) {skip : Nat}
    (hskip : skip ≤ cs.length) : replaceFrom pattern value skip (cs ++ b :: rest)
      = replaceFrom pattern value skip cs ++ b :: replaceFrom pattern value 0 rest := by
  have hprefix (cs : List Char) : pattern.isPrefixOf (cs ++ b :: rest) = pattern.isPrefixOf cs := by
    rw [Bool.eq_iff_iff, List.isPrefixOf_iff_prefix, List.isPrefixOf_iff_prefix]
    exact prefix_append_cons_iff hb
  induction cs generalizing skip with
  | nil =>
    obtain rfl : skip = 0 := Nat.le_zero.mp hskip
    have hnil : ¬ pattern.isPrefixOf (b :: rest) = true := by
      rw [← List.nil_append (b :: rest), hprefix, List.isPrefixOf_iff_prefix, List.prefix_nil]
      exact hne
    simp only [List.nil_append, replaceFrom, if_neg hnil]
  | cons c cs ih =>
    rw [List.length_cons] at hskip
    cases skip with
    | succ skip =>
      rw [List.cons_append, replaceFrom, replaceFrom]
      exact ih (Nat.le_of_succ_le_succ hskip)
    | zero =>
      have hcons := hprefix (c :: cs)
      rw [List.cons_append] at hcons ⊢
      simp only [replaceFrom, hcons]
      split_ifs with h
      · have hlength := (List.isPrefixOf_iff_prefix.mp h).length_le
        rw [List.length_cons] at hlength
        rw [ih (by omega), List.append_assoc]
      · rw [ih (Nat.zero_le _), List.cons_append]

/-- What a pattern does not occur in is left alone. -/
lemma replaceFrom_of_not_infix (h : ¬ pattern <:+: cs) : replaceFrom pattern value 0 cs = cs := by
  induction cs with
  | nil => rfl
  | cons c cs ih =>
    rw [List.infix_cons_iff, not_or] at h
    rw [replaceFrom, if_neg (by rw [List.isPrefixOf_iff_prefix]; exact h.1), ih h.2]

lemma replaceFrom_length (pattern value cs : List Char) :
    replaceFrom pattern value cs.length cs = [] := by
  induction cs with
  | nil => rfl
  | cons c cs ih => exact ih

/-- The pattern itself is replaced by the value. -/
lemma replaceFrom_self (hne : pattern ≠ []) : replaceFrom pattern value 0 pattern = value := by
  obtain ⟨p, rest, rfl⟩ := List.exists_cons_of_ne_nil hne
  rw [replaceFrom, if_pos (by rw [List.isPrefixOf_iff_prefix])]
  rw [List.length_cons, Nat.add_sub_cancel, replaceFrom_length, List.append_nil]

/-! ### All placeholders -/

/-- Replace each pattern of a list by its value, one after the other. -/
def fillChars (replacements : List (String × String)) (cs : List Char) : List Char :=
  replacements.foldl (fun cs r => replaceFrom r.1.toList r.2.toList 0 cs) cs

/-- Names that can serve as placeholders: no name is empty or holds a character that separates words
or quotes them, and none occurs in another. -/
structure ArePlaceholders (names : List String) : Prop where
  ne_empty : ∀ name ∈ names, name ≠ ""
  plain : ∀ name ∈ names, ∀ c ∈ name.toList, isSafe c = true
  nodup : names.Nodup
  apart : ∀ name ∈ names, ∀ other ∈ names, name ≠ other → ¬ name.toList <:+: other.toList

/-- No placeholder occurs in the text. -/
def Free (names : List String) (s : String) : Prop :=
  ∀ name ∈ names, ¬ name.toList <:+: s.toList

instance (names : List String) (s : String) : Decidable (Free names s) :=
  inferInstanceAs (Decidable (∀ name ∈ names, ¬ name.toList <:+: s.toList))

variable {replacements : List (String × String)}

lemma toList_fill (hne : ∀ r ∈ replacements, r.1 ≠ "") (template : String) :
    (fill template replacements).toList = fillChars replacements template.toList := by
  induction replacements generalizing template with
  | nil => rfl
  | cons r replacements ih =>
    obtain ⟨hr, hrest⟩ := List.forall_mem_cons.mp hne
    have hreplace : replaceAll r.1 r.2 template
        = String.ofList (replaceFrom r.1.toList r.2.toList 0 template.toList) := by
      rw [replaceAll, if_neg (by simpa using hr)]
    rw [fill, List.foldl_cons, hreplace]
    exact (ih hrest _).trans (by rw [String.toList_ofList]; rfl)

lemma fillChars_append (hne : ∀ r ∈ replacements, r.1 ≠ "")
    (hb : ∀ r ∈ replacements, b ∉ r.1.toList) (cs rest : List Char) :
    fillChars replacements (cs ++ b :: rest)
      = fillChars replacements cs ++ b :: fillChars replacements rest := by
  induction replacements generalizing cs rest with
  | nil => rfl
  | cons r replacements ih =>
    obtain ⟨hr, hne⟩ := List.forall_mem_cons.mp hne
    obtain ⟨hbr, hb⟩ := List.forall_mem_cons.mp hb
    have hpattern : r.1.toList ≠ [] := mt String.toList_eq_nil_iff.mp hr
    simp only [fillChars, List.foldl_cons]
    rw [replaceFrom_append hbr hpattern (Nat.zero_le _)]
    exact ih hne hb _ _

lemma fillChars_of_free (h : ∀ r ∈ replacements, ¬ r.1.toList <:+: cs) :
    fillChars replacements cs = cs := by
  induction replacements with
  | nil => rfl
  | cons r replacements ih =>
    obtain ⟨hr, hrest⟩ := List.forall_mem_cons.mp h
    rw [fillChars, List.foldl_cons, replaceFrom_of_not_infix hr]
    exact ih hrest

/-- A placeholder by itself is replaced by its value, which the other placeholders do not change. -/
lemma fillChars_name (hnames : ArePlaceholders (replacements.map Prod.fst)) {r : String × String}
    (hr : r ∈ replacements) (hfree : Free (replacements.map Prod.fst) r.2) :
    fillChars replacements r.1.toList = r.2.toList := by
  obtain ⟨before, after, rfl⟩ := List.append_of_mem hr
  have hmem {r' : String × String} (h : r' ∈ before ++ r :: after) :
      r'.1 ∈ (before ++ r :: after).map Prod.fst := List.mem_map_of_mem h
  have hbefore : ∀ r' ∈ before, ¬ r'.1.toList <:+: r.1.toList := by
    intro r' hr'
    refine hnames.apart _ (hmem (List.mem_append_left _ hr')) _ (hmem hr) ?_
    have hnodup := hnames.nodup
    rw [List.map_append, List.map_cons, List.nodup_append] at hnodup
    exact hnodup.2.2 _ (List.mem_map_of_mem hr') _ List.mem_cons_self
  have hafter : ∀ r' ∈ after, ¬ r'.1.toList <:+: r.2.toList := fun r' hr' =>
    hfree _ (hmem (List.mem_append_right _ (List.mem_cons_of_mem _ hr')))
  have hpattern : r.1.toList ≠ [] := mt String.toList_eq_nil_iff.mp (hnames.ne_empty _ (hmem hr))
  have hself := fillChars_of_free hbefore
  rw [fillChars] at hself
  rw [fillChars, List.foldl_append, hself, List.foldl_cons, replaceFrom_self hpattern]
  exact fillChars_of_free hafter

/-- A placeholder occurs in a text that is quoted only if it occurs in the text. -/
lemma Free.quoteWord {names : List String} (hnames : ArePlaceholders names) {s : String}
    (h : Free names s) : Free names (quoteWord s) := by
  intro name hname hpart
  have hplain (c : Char) (hc : isSafe c = false) : c ∉ name.toList := fun hmem =>
    Bool.false_ne_true (hc.symm.trans (hnames.plain name hname c hmem))
  exact h name hname (infix_of_infix_quoteWord (hplain _ (by decide)) (hplain _ (by decide)) hpart)

/-! ### Templates -/

/-- The words that a template is written with. -/
def templateWords (template : String) : List String :=
  (Text.wordsBy isSeparator [] template.toList).map String.ofList

/-- A word of a template: a placeholder, or safe characters among which there is none. -/
def IsTemplateWord (names : List String) (w : String) : Prop :=
  w ∈ names ∨ (∀ c ∈ w.toList, isSafe c = true) ∧ Free names w

instance (names : List String) (w : String) : Decidable (IsTemplateWord names w) :=
  decidable_of_iff (w ∈ names ∨ w.toList.all isSafe = true ∧ Free names w) (by
    rw [IsTemplateWord, List.all_eq_true])

/-- All words of the template are placeholders or plain. -/
def IsTemplate (names : List String) (template : String) : Prop :=
  ∀ w ∈ templateWords template, IsTemplateWord names w

instance (names : List String) (template : String) : Decidable (IsTemplate names template) :=
  inferInstanceAs (Decidable (∀ w ∈ templateWords template, IsTemplateWord names w))

/-- If each word of a template with its placeholders filled in splits into some words, then the
template splits into all of these. -/
lemma splitFrom_fillChars (hne : ∀ r ∈ replacements, r.1 ≠ "")
    (hseparator : ∀ r ∈ replacements, ∀ b ∈ r.1.toList, isSeparator b = false)
    {words : List Char → List String} {word : List Char}
    (h : ∀ w ∈ Text.wordsBy isSeparator word cs,
      splitFrom .between [] (fillChars replacements w) = .ok (words w)) :
    splitFrom .between [] (fillChars replacements (word.reverse ++ cs))
      = .ok ((Text.wordsBy isSeparator word cs).flatMap words) := by
  have happend {b : Char} (hb : isSeparator b = true) (cs rest : List Char) :
      fillChars replacements (cs ++ b :: rest)
        = fillChars replacements cs ++ b :: fillChars replacements rest :=
    fillChars_append hne (fun r hr hmem =>
      Bool.false_ne_true ((hseparator r hr b hmem).symm.trans hb)) cs rest
  have hnil : fillChars replacements [] = [] := fillChars_of_free fun r hr h =>
    hne r hr (String.toList_eq_nil_iff.mp (List.infix_nil.mp h))
  induction cs generalizing word with
  | nil =>
    rw [Text.wordsBy] at h ⊢
    rw [List.append_nil]
    split_ifs at h ⊢ with hword
    · obtain rfl := List.isEmpty_iff.mp hword
      rw [List.reverse_nil, hnil]
      rfl
    · rw [List.flatMap_singleton]
      exact h _ (List.mem_singleton_self _)
  | cons c cs ih =>
    rw [Text.wordsBy] at h ⊢
    split_ifs at h ⊢ with hc hword
    · obtain rfl := List.isEmpty_iff.mp hword
      have hrest : splitFrom .between [] (fillChars replacements cs) = _ := ih h
      rw [List.reverse_nil, List.nil_append, ← List.nil_append (c :: cs), happend hc, hnil,
        List.nil_append, splitFrom, if_pos hc, hrest]
    · obtain ⟨hfirst, hothers⟩ := List.forall_mem_cons.mp h
      have hrest : splitFrom .between [] (fillChars replacements cs) = _ := ih hothers
      rw [happend hc, splitFrom_append hfirst hc, hrest, List.flatMap_cons]
      rfl
    · have hword := ih h
      rwa [List.reverse_cons, List.append_assoc, List.singleton_append] at hword

variable {template : String} {words : String → List String}

/-- A template is split word by word: a placeholder gives the words of its value, and any other word
stands for itself. -/
theorem substitute_of_isTemplate (hnames : ArePlaceholders (replacements.map Prod.fst))
    (htemplate : IsTemplate (replacements.map Prod.fst) template)
    (hfree : ∀ r ∈ replacements, Free (replacements.map Prod.fst) r.2)
    (hvalues : ∀ r ∈ replacements, split r.2 = .ok (words r.1))
    (hplain : ∀ w, w ∉ replacements.map Prod.fst → words w = [w]) :
    substitute template replacements = .ok ((templateWords template).flatMap words) := by
  have hne : ∀ r ∈ replacements, r.1 ≠ "" := fun r hr =>
    hnames.ne_empty _ (List.mem_map_of_mem hr)
  have hseparator : ∀ r ∈ replacements, ∀ b ∈ r.1.toList, isSeparator b = false :=
    fun r hr b hb => (plain_of_isSafe (hnames.plain _ (List.mem_map_of_mem hr) b hb)).1
  have hword : ∀ w ∈ Text.wordsBy isSeparator [] template.toList,
      splitFrom .between [] (fillChars replacements w) = .ok (words (String.ofList w)) := by
    intro w hw
    have hmem : String.ofList w ∈ templateWords template := List.mem_map_of_mem hw
    by_cases hname : String.ofList w ∈ replacements.map Prod.fst
    · obtain ⟨r, hr, hrw⟩ := List.mem_map.mp hname
      have hfill := fillChars_name hnames hr (hfree r hr)
      rw [hrw, String.toList_ofList] at hfill
      rw [hfill, ← hrw]
      exact hvalues r hr
    · obtain ⟨hsafe, hnone⟩ := (htemplate _ hmem).resolve_left hname
      have hsplit := split_of_isSafe (mt String.toList_eq_nil_iff.mpr ?_) hsafe
      · rw [split, String.toList_ofList] at hsplit
        rw [hplain _ hname, fillChars_of_free fun r hr => ?_, hsplit]
        rw [← String.toList_ofList (l := w)]
        exact hnone _ (List.mem_map_of_mem hr)
      · rw [String.toList_ofList]
        exact Text.ne_nil_of_mem_wordsBy hw
  have hsplit := splitFrom_fillChars hne hseparator hword
  rw [substitute, split, toList_fill hne, templateWords, List.flatMap_map]
  exact hsplit

end VariantRepair.Command
