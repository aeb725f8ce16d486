import Mathlib.Data.List.DropRight
import Mathlib.Tactic.Common
import VariantRepair.Text.Blank
import VariantRepair.Text.Lines

/-!
# Words of joined words, and trimming

Words that are joined with a blank between each two of them are read back as they were, provided
that none of them is empty and none holds a blank itself; `HasWords` says which words are read from
a text, whatever blanks stand between them. Trimming drops what stands around the first and the
last character that are not trimmed, and nothing between them.
-/

namespace VariantRepair.Text

variable {p : Char → Bool}

/-- Characters that are no blanks lengthen the word under way. -/
lemma wordsBy_append {cs : List Char} (h : ∀ c ∈ cs, p c = false) (word rest : List Char) :
    wordsBy p word (cs ++ rest) = wordsBy p (cs.reverse ++ word) rest := by
  induction cs generalizing word with
  | nil => rfl
  | cons c cs ih =>
    obtain ⟨hc, hcs⟩ := List.forall_mem_cons.mp h
    rw [List.cons_append, wordsBy, hc, if_neg Bool.false_ne_true, ih hcs, List.reverse_cons,
      List.append_assoc, List.singleton_append]

/-- A word that ends the text is its last one. -/
lemma wordsBy_last {cs : List Char} (h : ∀ c ∈ cs, p c = false) (hne : cs ≠ []) :
    wordsBy p [] cs = [cs] := by
  have happend := wordsBy_append h [] []
  rw [List.append_nil, List.append_nil] at happend
  rw [happend, wordsBy, if_neg (by simpa using hne), List.reverse_reverse]

/-- A word ends where a blank comes. -/
lemma wordsBy_blank {cs : List Char} {b : Char} (h : ∀ c ∈ cs, p c = false) (hne : cs ≠ [])
    (hb : p b = true) (rest : List Char) :
    wordsBy p [] (cs ++ b :: rest) = cs :: wordsBy p [] rest := by
  rw [wordsBy_append h, List.append_nil, wordsBy, if_pos hb, if_neg (by simpa using hne),
    List.reverse_reverse]

/-- No word is empty. -/
lemma ne_nil_of_mem_wordsBy {word cs w : List Char} (h : w ∈ wordsBy p word cs) : w ≠ [] := by
  have hreverse {word : List Char} (hword : ¬ word.isEmpty) : word.reverse ≠ [] := by
    simpa using hword
  induction cs generalizing word with
  | nil =>
    rw [wordsBy] at h
    split_ifs at h with hword
    · cases h
    · obtain rfl := List.mem_singleton.mp h
      exact hreverse hword
  | cons c cs ih =>
    rw [wordsBy] at h
    split_ifs at h with hc hword
    · exact ih h
    · rcases List.mem_cons.mp h with rfl | hrest
      · exact hreverse hword
      · exact ih hrest
    · exact ih h

/-- A word stands in the text. -/
lemma infix_of_mem_wordsBy {word cs w : List Char} (h : w ∈ wordsBy p word cs) :
    w <:+: word.reverse ++ cs := by
  induction cs generalizing word with
  | nil =>
    rw [wordsBy] at h
    by_cases hempty : word.isEmpty = true
    · rw [if_pos hempty] at h
      cases h
    · rw [if_neg hempty] at h
      obtain rfl := List.mem_singleton.mp h
      exact (List.prefix_append _ _).isInfix
  | cons c cs ih =>
    have hrest {w : List Char} (hw : w <:+: cs) : w <:+: word.reverse ++ c :: cs :=
      hw.trans ((List.suffix_cons c cs).trans (List.suffix_append _ _)).isInfix
    rw [wordsBy] at h
    split_ifs at h
    · exact hrest (ih h)
    · rcases List.mem_cons.mp h with rfl | h
      · exact (List.prefix_append _ _).isInfix
      · exact hrest (ih h)
    · have hw := ih h
      rwa [List.reverse_cons, List.append_assoc, List.singleton_append] at hw

/-- Can the text stand as a word? -/
def IsWord (w : String) : Prop :=
  w.toList ≠ [] ∧ ∀ c ∈ w.toList, isBlank c = false

/-- Joined words are read back. -/
theorem words_intercalate {ws : List String} (h : ∀ w ∈ ws, IsWord w) :
    words (" ".intercalate ws) = ws := by
  induction ws with
  | nil => rfl
  | cons w ws ih =>
    obtain ⟨⟨hne, hw⟩, hws⟩ := List.forall_mem_cons.mp h
    cases ws with
    | nil =>
      rw [String.intercalate_singleton, words, wordsBy_last hw hne, List.map_singleton,
        String.ofList_toList]
    | cons w' ws =>
      have hjoin : (" ".intercalate (w :: w' :: ws)).toList
          = w.toList ++ ' ' :: (" ".intercalate (w' :: ws)).toList := by
        rw [String.intercalate_cons_cons, String.toList_append, String.toList_append,
          List.append_assoc]
        rfl
      have hrest : (wordsBy isBlank [] (" ".intercalate (w' :: ws)).toList).map String.ofList
          = w' :: ws := ih hws
      rw [words, hjoin, wordsBy_blank hw hne rfl, List.map_cons, hrest, String.ofList_toList]

/-! ### Texts with given words -/

/-- The text is made of the words: characters that satisfy `p` stand between each two of them, and
may stand around them. -/
inductive HasWords (p : Char → Bool) : List Char → List (List Char) → Prop
  /-- No word is left. -/
  | none {cs : List Char} (hblanks : ∀ c ∈ cs, p c = true) : HasWords p cs []
  /-- A word behind blanks; the rest begins with a blank, if there is any. -/
  | word {blanks w rest : List Char} {ws : List (List Char)} (hblanks : ∀ c ∈ blanks, p c = true)
      (hne : w ≠ []) (hw : ∀ c ∈ w, p c = false) (hrest : ∀ c ∈ rest.head?, p c = true)
      (h : HasWords p rest ws) : HasWords p (blanks ++ (w ++ rest)) (w :: ws)

namespace HasWords

variable {cs : List Char} {ws : List (List Char)}

/-- A word that nothing stands in front of. -/
lemma at_once {w rest : List Char} (hne : w ≠ []) (hw : ∀ c ∈ w, p c = false)
    (hrest : ∀ c ∈ rest.head?, p c = true) (h : HasWords p rest ws) :
    HasWords p (w ++ rest) (w :: ws) :=
  word (List.forall_mem_nil _) hne hw hrest h

/-- One more blank in front makes no difference. -/
lemma blank {b : Char} (hb : p b = true) (h : HasWords p cs ws) : HasWords p (b :: cs) ws := by
  cases h with
  | none hblanks => exact none (List.forall_mem_cons.mpr ⟨hb, hblanks⟩)
  | word hblanks hne hw hrest h =>
    exact word (List.forall_mem_cons.mpr ⟨hb, hblanks⟩) hne hw hrest h

/-- What is found in a text are its words; those that belong to the word under way come first. -/
lemma wordsBy {word : List Char} (hword : ∀ c ∈ word, p c = false) (cs : List Char) :
    HasWords p (word.reverse ++ cs) (wordsBy p word cs) := by
  have hreverse {word : List Char} (hword : ∀ c ∈ word, p c = false) :
      ∀ c ∈ word.reverse, p c = false := fun c hc => hword c (List.mem_reverse.mp hc)
  induction cs generalizing word with
  | nil =>
    cases word with
    | nil => exact none (List.forall_mem_nil _)
    | cons c word =>
      exact at_once (by simp) (hreverse hword) (by simp) (none (List.forall_mem_nil _))
  | cons c cs ih =>
    rw [Text.wordsBy]
    split_ifs with hc hempty
    · obtain rfl := List.isEmpty_iff.mp hempty
      exact (ih (List.forall_mem_nil _)).blank hc
    · have hne : word.reverse ≠ [] := by simpa using hempty
      exact at_once hne (hreverse hword) (by simpa using hc)
        ((ih (List.forall_mem_nil _)).blank hc)
    · have hlonger : ∀ c' ∈ c :: word, p c' = false :=
        List.forall_mem_cons.mpr ⟨by simpa using hc, hword⟩
      simpa using ih hlonger

/-- None of the words is empty or holds a blank. -/
lemma isWord (h : HasWords p cs ws) : ∀ w ∈ ws, w ≠ [] ∧ ∀ c ∈ w, p c = false := by
  induction h with
  | none _ => exact nofun
  | word _ hne hw _ _ ih => exact List.forall_mem_cons.mpr ⟨⟨hne, hw⟩, ih⟩

end HasWords

/-- Blanks in front are passed over. -/
lemma wordsBy_blanks {blanks : List Char} (h : ∀ c ∈ blanks, p c = true) (cs : List Char) :
    wordsBy p [] (blanks ++ cs) = wordsBy p [] cs := by
  induction blanks with
  | nil => rfl
  | cons b blanks ih =>
    obtain ⟨hb, hblanks⟩ := List.forall_mem_cons.mp h
    rw [List.cons_append, wordsBy, if_pos hb, if_pos List.isEmpty_nil, ih hblanks]

/-- The words that are found in a text are those that it is made of. -/
theorem wordsBy_eq_iff {cs : List Char} {ws : List (List Char)} :
    wordsBy p [] cs = ws ↔ HasWords p cs ws := by
  constructor
  · rintro rfl
    exact HasWords.wordsBy (List.forall_mem_nil _) cs
  · intro h
    induction h with
    | none hblanks =>
      simpa [wordsBy] using wordsBy_blanks hblanks []
    | @word blanks w rest ws hblanks hne hw hrest h ih =>
      rw [wordsBy_blanks hblanks]
      cases rest with
      | nil =>
        have hws : ws = [] := ih.symm
        rw [List.append_nil, wordsBy_last hw hne, hws]
      | cons b rest =>
        have hb : p b = true := hrest b rfl
        have hskip : wordsBy p [] (b :: rest) = wordsBy p [] rest :=
          wordsBy_blanks (List.forall_mem_singleton.mpr hb) rest
        rw [wordsBy_blank hw hne hb, ← hskip, ih]

/-! ### Line breaks -/

/-- A line break ends a word, whichever way it is written. -/
lemma wordsBy_unifyNewlines (hreturn : p '\r' = true) (hfeed : p '\n' = true)
    (word cs : List Char) : wordsBy p word (unifyNewlines cs) = wordsBy p word cs := by
  induction cs using unifyNewlines.induct generalizing word with
  | case1 => rfl
  | case2 cs ih =>
    rw [unifyNewlines, wordsBy, wordsBy, wordsBy, hreturn, hfeed, ih]
    cases word <;> rfl
  | case3 cs hcs ih =>
    rw [unifyNewlines.eq_3 cs hcs, wordsBy, wordsBy, hreturn, hfeed, ih, if_pos rfl, if_pos rfl]
  | case4 c cs hc hc' ih =>
    rw [unifyNewlines.eq_4 c cs hc hc', wordsBy, wordsBy, ih, ih]

/-- The words of a text are the same when its line breaks are read as line feeds. -/
theorem words_unifyNewlines (s : String) :
    words (String.ofList (unifyNewlines s.toList)) = words s := by
  rw [words, words, String.toList_ofList, wordsBy_unifyNewlines rfl rfl]

/-! ### Trimming -/

lemma dropWhile_eq_self {cs : List Char} (h : ∀ c ∈ cs, p c = false) : cs.dropWhile p = cs := by
  cases cs with
  | nil => rfl
  | cons c cs => rw [List.dropWhile_cons_of_neg (by simp [h c List.mem_cons_self])]

/-- What satisfies the condition is dropped up to the first character that does not. -/
lemma dropWhile_append_stop {cs rest : List Char} (h : ∀ c ∈ cs, p c = true)
    (hrest : ∀ c ∈ rest.head?, p c = false) : (cs ++ rest).dropWhile p = rest := by
  rw [List.dropWhile_append_of_pos h]
  cases rest with
  | nil => rfl
  | cons c rest => rw [List.dropWhile_cons_of_neg (by simp [hrest c rfl])]

/-- What satisfies the condition is taken up to the first character that does not. -/
lemma takeWhile_append_stop {cs rest : List Char} (h : ∀ c ∈ cs, p c = true)
    (hrest : ∀ c ∈ rest.head?, p c = false) : (cs ++ rest).takeWhile p = cs := by
  rw [List.takeWhile_append_of_pos h]
  cases rest with
  | nil => simp
  | cons c rest => rw [List.takeWhile_cons_of_neg (by simp [hrest c rfl]), List.append_nil]

/-- There is nothing to trim where nothing satisfies the condition. -/
lemma trimChars_eq_self {cs : List Char} (h : ∀ c ∈ cs, p c = false) : trimChars p cs = cs := by
  have hrev : ∀ c ∈ cs.reverse, p c = false := fun c hc => h c (List.mem_reverse.mp hc)
  rw [trimChars, dropWhile_eq_self h, dropWhile_eq_self hrev, List.reverse_reverse]

lemma trimChars_eq (cs : List Char) : trimChars p cs = (cs.dropWhile p).rdropWhile p := rfl

/-- What has been trimmed does not begin with what is trimmed. -/
lemma head?_trimChars {cs : List Char} {c : Char} (h : (trimChars p cs).head? = some c) :
    p c = false := by
  obtain ⟨rest, hrest⟩ := List.head?_eq_some_iff.mp h
  rw [trimChars_eq] at hrest
  obtain ⟨dropped, hdropped⟩ := List.rdropWhile_prefix p (cs.dropWhile p)
  have hhead : (cs.dropWhile p).head? = some c := by
    rw [← hdropped, hrest]
    rfl
  have hnot := List.head?_dropWhile_not p cs
  rwa [hhead] at hnot

/-- Text between two characters that are not trimmed is left as it is. -/
lemma trimChars_between {first last : Char} (hfirst : p first = false) (hlast : p last = false)
    (cs : List Char) : trimChars p (first :: cs ++ [last]) = first :: cs ++ [last] := by
  rw [trimChars_eq, List.cons_append, List.dropWhile_cons_of_neg (by simp [hfirst]),
    ← List.cons_append, List.rdropWhile_concat_neg]
  simp [hlast]

/-- Blanks in front are dropped; what stands first behind them stays first. -/
lemma exists_trimChars_eq {blanks : List Char} (hblanks : ∀ c ∈ blanks, p c = true) {first : Char}
    (hfirst : p first = false) (cs : List Char) :
    ∃ rest, trimChars p (blanks ++ first :: cs) = first :: rest := by
  have hkept : (blanks ++ first :: cs).dropWhile p = first :: cs := by
    refine dropWhile_append_stop hblanks ?_
    rintro c ⟨⟩
    exact hfirst
  rw [trimChars_eq, hkept]
  cases htrimmed : (first :: cs).rdropWhile p with
  | nil =>
    have hall := List.rdropWhile_eq_nil_iff.mp htrimmed first List.mem_cons_self
    rw [hfirst] at hall
    exact absurd hall Bool.false_ne_true
  | cons c rest =>
    have hprefix := List.rdropWhile_prefix p (first :: cs)
    rw [htrimmed] at hprefix
    exact ⟨rest, by rw [(List.cons_prefix_cons.mp hprefix).1]⟩

lemma trimChars_of_forall {cs : List Char} (h : ∀ c ∈ cs, p c = true) : trimChars p cs = [] := by
  rw [trimChars_eq, List.dropWhile_eq_nil_iff.mpr h]
  rfl

end VariantRepair.Text
