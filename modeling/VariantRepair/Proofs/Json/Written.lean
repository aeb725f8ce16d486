import VariantRepair.Proofs.Json.Number
import VariantRepair.Proofs.Json.Read
import VariantRepair.Proofs.Value.Field

/-!
# Values are read back from JSON text

A value of JSON is written over several lines, each item of a list and each member of an object on
its own, and read back as it was. White space stands only where a value, a comma or a closing
bracket comes next, and no value begins like one of these.
-/

namespace VariantRepair

/-- The values that JSON text can hold: the keys of an object are texts, and no two are the same. -/
inductive Value.IsJson : Value → Prop
  | null : IsJson .null
  | bool (b : Bool) : IsJson (.bool b)
  | int (n : Int) : IsJson (.int n)
  | float (x : Float) : IsJson (.float x)
  | str (s : String) : IsJson (.str s)
  | list {vs : List Value} (h : ∀ v ∈ vs, IsJson v) : IsJson (.list vs)
  | map {ps : List (Value × Value)} (hkeys : ∀ p ∈ ps, ∃ s, p.1 = .str s)
      (hnodup : (ps.map Prod.fst).Nodup) (h : ∀ p ∈ ps, IsJson p.2) : IsJson (.map ps)

namespace Value

variable {ps : List (Value × Value)} {key : String} {v : Value}

lemma IsJson.of_mem {vs : List Value} (h : (Value.list vs).IsJson) (hv : v ∈ vs) : v.IsJson := by
  cases h with
  | list h => exact h v hv

lemma isJson_map_iff : (map ps).IsJson ↔
    (∀ p ∈ ps, ∃ s, p.1 = .str s) ∧ (ps.map Prod.fst).Nodup ∧ ∀ p ∈ ps, p.2.IsJson := by
  constructor
  · rintro (_ | _ | _ | _ | _ | _ | ⟨hkeys, hnodup, h⟩)
    exact ⟨hkeys, hnodup, h⟩
  · exact fun ⟨hkeys, hnodup, h⟩ => .map hkeys hnodup h

/-- What a key of an object has is a value of JSON. -/
lemma IsJson.field (h : (Value.map ps).IsJson) (hv : Value.field key ps = some v) : v.IsJson :=
  (isJson_map_iff.mp h).2.2 _ (mem_of_field hv)

/-- An object stays one when a text is given a value of JSON. -/
lemma IsJson.insertPair (h : (Value.map ps).IsJson) (key : String) (hv : v.IsJson) :
    (Value.map (Value.insertPair ps (.str key) v)).IsJson := by
  obtain ⟨hkeys, hnodup, h⟩ := isJson_map_iff.mp h
  refine .map (fun p hp => ?_) ?_ fun p hp => ?_
  · rcases mem_insertPair hp with hp | rfl | ⟨q, hq, rfl⟩
    · exact hkeys p hp
    · exact ⟨key, rfl⟩
    · exact hkeys q hq
  · by_cases hkey : .str key ∈ ps.map Prod.fst
    · rwa [map_fst_insertPair_of_mem hkey]
    · rw [insertPair_of_notMem hkey, List.map_append, List.nodup_append]
      refine ⟨hnodup, by simp, fun k hk k' hk' heq => hkey ?_⟩
      obtain rfl : k' = .str key := by simpa using hk'
      exact heq ▸ hk
  · rcases mem_insertPair hp with hp | rfl | ⟨q, -, rfl⟩
    · exact h p hp
    · exact hv
    · exact hv

end Value

namespace Json

open Number

variable {cs rest : List Char} {fuel : Nat} {s : String}

/-! ### Texts -/

lemma fourHex?_hexDigits {n : Nat} (hn : n < 32) (rest : List Char) :
    ∃ a b c d, Text.hexDigits 4 n = [a, b, c, d] ∧
      fourHex? (a :: b :: c :: d :: rest) = some n := by
  interval_cases n <;> exact ⟨_, _, _, _, rfl, rfl⟩

/-- A control character is read from its number. -/
lemma unicodeEscape_hexDigits {n : Nat} (hn : n < 32) (place : List Char) (hrest : rest ≠ []) :
    unicodeEscape place (Text.hexDigits 4 n ++ rest) = .ok (n, rest) := by
  obtain ⟨a, b, c, d, hdigits, hvalue⟩ := fourHex?_hexDigits hn rest
  have hlength : ¬ (a :: b :: c :: d :: rest).length ≤ 4 := by
    have := List.length_pos_iff.mpr hrest
    simp
    omega
  have hsurrogate : isHighSurrogate n = false := by
    rw [isHighSurrogate, Bool.and_eq_false_iff, decide_eq_false_iff_not]
    exact .inl (by omega)
  rw [hdigits]
  change unicodeEscape place (a :: b :: c :: d :: rest) = _
  rw [unicodeEscape, if_neg hlength, hvalue]
  dsimp only
  rw [hsurrogate]
  rfl

/-- The rest of a text behind a character that was read. -/
def behind (start : List Char) (fuel : Nat) (c : Nat) (rest : List Char) :
    Except Stop (List Nat × List Char) := do
  let (s, rest) ← stringBody start fuel rest
  return (c :: s, rest)

lemma stringBody_escape {e c : Char} (start : List Char) (fuel : Nat) (rest : List Char)
    (he : simpleEscape? e = some c) (hu : e ≠ 'u') :
    stringBody start (fuel + 1) ('\\' :: e :: rest) = behind start fuel c.toNat rest := by
  rw [stringBody.eq_5 _ _ _ _ hu, he]
  rfl

lemma stringBody_unicode {c : Nat} (start : List Char) (fuel : Nat) {digits rest : List Char}
    (h : unicodeEscape ('u' :: digits) digits = .ok (c, rest)) :
    stringBody start (fuel + 1) ('\\' :: 'u' :: digits) = behind start fuel c rest := by
  rw [stringBody.eq_4, h]
  rfl

lemma stringBody_plain {c : Char} (start : List Char) (fuel : Nat) (rest : List Char)
    (hslash : c ≠ '\\') (hquote : c ≠ '"') (hcontrol : ¬ c.toNat < 32) :
    stringBody start (fuel + 1) (c :: rest) = behind start fuel c.toNat rest := by
  rw [stringBody.eq_6 _ _ _ _ hslash, if_neg hquote, if_neg (by omega)]
  rfl

/-- A character is written by a letter behind a backslash, by its number or as it is. -/
lemma writeChar_cases (c : Char) :
    (∃ e, writeChar false c = ['\\', e] ∧ simpleEscape? e = some c ∧ e ≠ 'u') ∨
      (c.toNat < 32 ∧ writeChar false c = unitEscape c.toNat) ∨
      (writeChar false c = [c] ∧ c ≠ '\\' ∧ c ≠ '"' ∧ ¬ c.toNat < 32) := by
  have hescaped (d e : Char) (hd : writeChar false d = ['\\', e]) (he : simpleEscape? e = some d)
      (hu : e ≠ 'u') (hc : c = d) :
      ∃ e, writeChar false c = ['\\', e] ∧ simpleEscape? e = some c ∧ e ≠ 'u' :=
    ⟨e, hc ▸ hd, hc ▸ he, hu⟩
  by_cases hquote : c = '"'
  · exact .inl (hescaped _ '"' rfl rfl (by decide) hquote)
  by_cases hslash : c = '\\'
  · exact .inl (hescaped _ '\\' rfl rfl (by decide) hslash)
  by_cases hfeed : c = '\n'
  · exact .inl (hescaped _ 'n' rfl rfl (by decide) hfeed)
  by_cases hreturn : c = '\r'
  · exact .inl (hescaped _ 'r' rfl rfl (by decide) hreturn)
  by_cases htab : c = '\t'
  · exact .inl (hescaped _ 't' rfl rfl (by decide) htab)
  by_cases hform : c.toNat = 12
  · exact .inl (hescaped '\x0c' 'f' rfl rfl (by decide) (Char.toNat_inj.mp hform))
  by_cases hback : c.toNat = 8
  · exact .inl (hescaped '\x08' 'b' rfl rfl (by decide) (Char.toNat_inj.mp hback))
  rw [writeChar, if_neg hquote, if_neg hslash, if_neg hfeed, if_neg hreturn, if_neg htab,
    if_neg hform, if_neg hback]
  by_cases hcontrol : c.toNat < 32
  · rw [if_pos hcontrol]
    exact .inr (.inl ⟨hcontrol, rfl⟩)
  · rw [if_neg hcontrol]
    exact .inr (.inr ⟨rfl, hslash, hquote, hcontrol⟩)

/-- One character of a text is read from its form. -/
lemma stringBody_writeChar (start : List Char) (fuel : Nat) (c : Char) (hrest : rest ≠ []) :
    stringBody start (fuel + 1) (writeChar false c ++ rest) = behind start fuel c.toNat rest := by
  rcases writeChar_cases c with ⟨e, hform, he, hu⟩ | ⟨hcontrol, hform⟩
    | ⟨hform, hslash, hquote, hcontrol⟩
  · rw [hform]
    exact stringBody_escape start fuel rest he hu
  · rw [hform]
    exact stringBody_unicode start fuel (unicodeEscape_hexDigits hcontrol _ hrest)
  · rw [hform]
    exact stringBody_plain start fuel rest hslash hquote hcontrol

/-- A text is read up to its closing quote. -/
lemma stringBody_flatMap (start : List Char) {cs : List Char} (hfuel : cs.length < fuel) :
    stringBody start fuel (cs.flatMap (writeChar false) ++ '"' :: rest)
      = .ok (cs.map Char.toNat, rest) := by
  induction cs generalizing fuel with
  | nil =>
    obtain ⟨fuel, rfl⟩ := Nat.exists_eq_succ_of_ne_zero (Nat.ne_of_gt hfuel)
    rw [List.flatMap_nil, List.nil_append, stringBody.eq_6 _ _ _ _ (by decide), if_pos rfl]
    rfl
  | cons c cs ih =>
    obtain ⟨fuel, rfl⟩ := Nat.exists_eq_succ_of_ne_zero (Nat.ne_of_gt (Nat.zero_lt_of_lt hfuel))
    rw [List.flatMap_cons, List.append_assoc, stringBody_writeChar start fuel c (by simp), behind,
      ih (by simpa using hfuel)]
    rfl

lemma ofPoints_toNat (s : String) : Value.ofPoints (s.toList.map Char.toNat) = .str s := by
  have hsurrogate : (s.toList.map Char.toNat).any Text.isSurrogate = false := by
    rw [List.any_eq_false]
    intro n hn
    obtain ⟨c, -, rfl⟩ := List.mem_map.mp hn
    have hvalid : c.toNat < 0xD800 ∨ 0xDFFF < c.toNat ∧ c.toNat < 0x110000 := c.valid
    rw [Text.isSurrogate, Bool.and_eq_true, decide_eq_true_eq, decide_eq_true_eq]
    omega
  have hchars : (s.toList.map Char.toNat).map Char.ofNat = s.toList := by
    simp [Function.comp_def]
  rw [Value.ofPoints, Text.ofPoints?, hsurrogate, hchars, if_neg Bool.false_ne_true,
    String.ofList_toList]

lemma toList_writeString (s : String) :
    (writeString false s).toList = '"' :: (s.toList.flatMap (writeChar false) ++ ['"']) := by
  simp [writeString]

lemma length_flatMap_writeChar (cs : List Char) :
    cs.length ≤ (cs.flatMap (writeChar false)).length := by
  induction cs with
  | nil => simp
  | cons c cs ih =>
    have hc : 1 ≤ (writeChar false c).length := by
      rcases writeChar_cases c with ⟨e, hform, -⟩ | ⟨-, hform⟩ | ⟨hform, -⟩
      · simp [hform]
      · simp [hform, unitEscape]
      · simp [hform]
    rw [List.flatMap_cons, List.length_append, List.length_cons]
    omega

/-- A text in quotes is read. -/
lemma stringBody_writeString (start : List Char) (s : String) (rest : List Char) :
    let more := s.toList.flatMap (writeChar false) ++ '"' :: rest
    stringBody start (more.length + 1) more = .ok (s.toList.map Char.toNat, rest) := by
  refine stringBody_flatMap start ?_
  have := length_flatMap_writeChar s.toList
  rw [List.length_append]
  omega

/-! ### White space -/

lemma skipSpace_of_begins {c : Char} (hc : isSpace c = false) (cs : List Char) :
    skipSpace (c :: cs) = c :: cs := by
  rw [skipSpace, List.dropWhile_cons_of_neg (by simp [hc])]

lemma skipSpace_append {spaces : List Char} (hspaces : ∀ c ∈ spaces, isSpace c = true)
    (cs : List Char) : skipSpace (spaces ++ cs) = skipSpace cs :=
  List.dropWhile_append_of_pos hspaces

/-- No number goes on behind white space. -/
lemma endsNumber_append {spaces : List Char} (hspaces : ∀ c ∈ spaces, isSpace c = true)
    (hrest : EndsNumber rest) : EndsNumber (spaces ++ rest) := by
  cases spaces with
  | nil => exact hrest
  | cons c spaces =>
    rintro _ ⟨⟩
    have hc := hspaces c List.mem_cons_self
    simp only [isSpace, Bool.or_eq_true, beq_iff_eq] at hc
    rcases hc with ((rfl | rfl) | rfl) | rfl
    all_goals decide

lemma endsNumber_cons {c : Char} (hc : c = ',' ∨ c = ']' ∨ c = '\x7d') (rest : List Char) :
    EndsNumber (c :: rest) := by
  rintro _ ⟨⟩
  rcases hc with rfl | rfl | rfl
  all_goals decide

/-! ### Forms -/

/-- A text that a value is read from wherever it stands in a longer one, where no number goes on
behind it. -/
structure IsForm (v : Value) (form : List Char) : Prop where
  begins : ∃ c more, form = c :: more ∧ isSpace c = false ∧ c ≠ ']'
  value_append : ∀ {fuel : Nat} {rest : List Char}, 2 * form.length ≤ fuel → EndsNumber rest →
    value fuel (form ++ rest) = .ok (v, rest)

/-- No scalar begins like a text, a list or an object, nor like what comes behind a value. -/
lemma head_of_scalar {r : Value × List Char} (h : scalar cs = .ok r) :
    ∃ c more, cs = c :: more ∧ isSpace c = false ∧ c ≠ ']' ∧ c ≠ '"' ∧ c ≠ '[' ∧ c ≠ '\x7b' := by
  cases cs with
  | nil => cases h
  | cons c more =>
    refine ⟨c, more, rfl, ?_, ?_, ?_, ?_, ?_⟩
    · by_contra hc
      simp only [isSpace, Bool.not_eq_false, Bool.or_eq_true, beq_iff_eq] at hc
      rcases hc with ((rfl | rfl) | rfl) | rfl
      all_goals cases h
    all_goals
      rintro rfl
      cases h

lemma isForm_of_scalar {v : Value} {form : List Char}
    (h : ∀ rest, EndsNumber rest → scalar (form ++ rest) = .ok (v, rest)) : IsForm v form := by
  obtain ⟨c, more, hform, hspace, hbracket, hquote, hlist, hmap⟩ :=
    head_of_scalar (List.append_nil form ▸ h [] nofun)
  refine ⟨⟨c, more, hform, hspace, hbracket⟩, fun {fuel rest} hfuel hrest => ?_⟩
  rw [hform, List.length_cons] at hfuel
  obtain ⟨fuel, rfl⟩ : ∃ n, fuel = n + 1 := ⟨fuel - 1, by omega⟩
  have hscalar := h rest hrest
  rw [hform, List.cons_append] at hscalar ⊢
  rw [← hscalar]
  unfold value
  split
  · next heq => exact absurd (List.cons.inj heq).1 hquote
  · next heq => exact absurd (List.cons.inj heq).1 hlist
  · next heq => exact absurd (List.cons.inj heq).1 hmap
  · rfl

lemma isForm_writeString (s : String) : IsForm (.str s) (writeString false s).toList := by
  rw [toList_writeString]
  refine ⟨⟨_, _, rfl, rfl, by decide⟩, fun {fuel rest} hfuel hrest => ?_⟩
  obtain ⟨fuel, rfl⟩ : ∃ n, fuel = n + 1 := ⟨fuel - 1, by rw [List.length_cons] at hfuel; omega⟩
  rw [List.cons_append, List.append_assoc, List.singleton_append, value,
    stringBody_writeString _ s rest]
  exact congrArg (fun v => Except.ok (v, rest)) (ofPoints_toNat s)

/-! ### Lists -/

lemma items_last {v : Value} {rest' : List Char} (h : value fuel cs = .ok (v, rest))
    (hrest : skipSpace rest = ']' :: rest') : items (fuel + 1) cs = .ok ([v], rest') := by
  simp only [items, h, hrest, bind, Except.bind, pure, Except.pure]

lemma items_more {v : Value} {vs : List Value} {rest' rest'' : List Char}
    (h : value fuel cs = .ok (v, rest)) (hrest : skipSpace rest = ',' :: rest')
    (hmore : items fuel (skipSpace rest') = .ok (vs, rest'')) :
    items (fuel + 1) cs = .ok (v :: vs, rest'') := by
  simp only [items, h, hrest, hmore, bind, Except.bind, pure, Except.pure]

lemma value_list {c : Char} {more cs : List Char} {vs : List Value}
    (hskip : skipSpace more = c :: cs) (hc : c ≠ ']') (h : items fuel (c :: cs) = .ok (vs, rest)) :
    value (fuel + 1) ('[' :: more) = .ok (.list vs, rest) := by
  rw [value, hskip]
  split
  · next heq => exact absurd (List.cons.inj heq).1 hc
  · rw [h]
    rfl

/-- What parts a sequence of forms: the forms are separated by commas with white space behind
them. -/
def joined (spaces : List Char) (forms : List (List Char)) : List Char :=
  (',' :: spaces).intercalate forms

section Sequence

variable {spaces closing : List Char} (hspaces : ∀ c ∈ spaces, isSpace c = true)
  (hclosing : ∀ c ∈ closing, isSpace c = true)

lemma joined_singleton (spaces form : List Char) : joined spaces [form] = form := by
  simp [joined, List.intercalate]

lemma joined_cons_cons (spaces form form' : List Char) (forms : List (List Char)) :
    joined spaces (form :: form' :: forms)
      = form ++ ',' :: (spaces ++ joined spaces (form' :: forms)) := by
  rw [joined, List.intercalate_cons_cons]
  simp [joined]

/-- What is at the head of a sequence is at the head of its first form. -/
lemma exists_joined_cons (spaces : List Char) {c : Char} (more : List Char)
    (forms : List (List Char)) :
    ∃ rest, joined spaces ((c :: more) :: forms) = c :: rest := by
  cases forms with
  | nil => exact ⟨more, joined_singleton _ _⟩
  | cons form forms => exact ⟨_, joined_cons_cons _ _ _ _⟩

include hspaces

/-- What reads a form behind which a sequence ends, and one behind which it goes on, reads a whole
sequence of forms. -/
lemma read_joined {α : Type} {read : Nat → List Char → Except Stop (List α × List Char)}
    {form : α → List Char} {stop rest : List Char} {xs : List α} (hne : xs ≠ [])
    (hbegins : ∀ x ∈ xs, ∃ c more, form x = c :: more ∧ isSpace c = false)
    (hlast : ∀ x ∈ xs, ∀ fuel, 2 * (form x).length ≤ fuel →
      read (fuel + 1) (form x ++ stop) = .ok ([x], rest))
    (hmore : ∀ x ∈ xs, ∀ fuel cs ys, 2 * (form x).length ≤ fuel →
      read fuel (skipSpace cs) = .ok (ys, rest) →
      read (fuel + 1) (form x ++ ',' :: cs) = .ok (x :: ys, rest))
    (hfuel : 2 * (joined spaces (xs.map form)).length < fuel) :
    read fuel (joined spaces (xs.map form) ++ stop) = .ok (xs, rest) := by
  induction xs generalizing fuel with
  | nil => exact absurd rfl hne
  | cons x xs ih =>
    obtain ⟨fuel, rfl⟩ := Nat.exists_eq_succ_of_ne_zero (Nat.ne_of_gt (Nat.zero_lt_of_lt hfuel))
    obtain ⟨-, hbegins⟩ := List.forall_mem_cons.mp hbegins
    obtain ⟨hlast₁, hlast⟩ := List.forall_mem_cons.mp hlast
    obtain ⟨hmore₁, hmore⟩ := List.forall_mem_cons.mp hmore
    cases xs with
    | nil =>
      rw [List.map_singleton, joined_singleton] at hfuel ⊢
      exact hlast₁ fuel (by omega)
    | cons y ys =>
      rw [List.map_cons, List.map_cons, joined_cons_cons] at hfuel ⊢
      rw [List.length_append, List.length_cons, List.length_append] at hfuel
      have hless : 2 * (joined spaces ((y :: ys).map form)).length < fuel := by
        rw [List.map_cons]
        omega
      have hrest := ih (by simp) hbegins hlast hmore hless
      obtain ⟨c, more, hform, hspace⟩ := hbegins y List.mem_cons_self
      obtain ⟨behind, hjoined⟩ := exists_joined_cons spaces more (ys.map form)
      rw [List.map_cons, hform, hjoined, List.cons_append] at hrest
      rw [List.append_assoc, List.cons_append, List.append_assoc]
      refine hmore₁ fuel _ _ (by omega) ?_
      rw [skipSpace_append hspaces, hform, hjoined, List.cons_append, skipSpace_of_begins hspace,
        hrest]

include hclosing

/-- The items of a list are read one after another. -/
lemma items_joined {form : Value → List Char} {vs : List Value} (hne : vs ≠ [])
    (h : ∀ v ∈ vs, IsForm v (form v))
    (hfuel : 2 * (joined spaces (vs.map form)).length < fuel) (rest : List Char) :
    items fuel (joined spaces (vs.map form) ++ (closing ++ ']' :: rest)) = .ok (vs, rest) := by
  refine read_joined hspaces hne (fun v hv => ?begins) (fun v hv fuel hfuel => ?last)
    (fun v hv fuel cs vs' hfuel hrest => ?more) hfuel
  case begins =>
    obtain ⟨c, more, hform, hspace, -⟩ := (h v hv).begins
    exact ⟨c, more, hform, hspace⟩
  case last =>
    refine items_last ((h v hv).value_append hfuel
      (endsNumber_append hclosing (endsNumber_cons (.inr (.inl rfl)) rest))) ?_
    rw [skipSpace_append hclosing, skipSpace_of_begins (by decide)]
  case more =>
    exact items_more ((h v hv).value_append hfuel (endsNumber_cons (.inl rfl) _))
      (skipSpace_of_begins (by decide) _) hrest

/-- A list is read from its form. -/
lemma isForm_list {form : Value → List Char} {vs : List Value} (hne : vs ≠ [])
    (h : ∀ v ∈ vs, IsForm v (form v)) :
    IsForm (.list vs) ('[' :: (spaces ++ (joined spaces (vs.map form) ++ (closing ++ [']'])))) := by
  refine ⟨⟨_, _, rfl, by decide, by decide⟩, fun {fuel rest} hfuel hrest => ?_⟩
  simp only [List.length_cons, List.length_append, List.length_nil] at hfuel
  obtain ⟨fuel, rfl⟩ : ∃ n, fuel = n + 1 := ⟨fuel - 1, by omega⟩
  have hless : 2 * (joined spaces (vs.map form)).length < fuel := by omega
  have hitems := items_joined hspaces hclosing hne h hless rest
  obtain ⟨v, vs, rfl⟩ := List.exists_cons_of_ne_nil hne
  obtain ⟨c, more, hform, hspace, hbracket⟩ := (h v List.mem_cons_self).begins
  obtain ⟨behind, hjoined⟩ := exists_joined_cons spaces more (vs.map form)
  rw [← hform, ← List.map_cons] at hjoined
  rw [hjoined, List.cons_append] at hitems ⊢
  simp only [List.cons_append, List.append_assoc, List.nil_append]
  refine value_list ?_ hbracket hitems
  rw [skipSpace_append hspaces, skipSpace_of_begins hspace]

end Sequence

/-! ### Objects -/

lemma value_map {c : Char} {more cs : List Char} {ps : List (Value × Value)}
    (hskip : skipSpace more = c :: cs) (hc : c ≠ '\x7d')
    (h : members fuel (c :: cs) = .ok (ps, rest)) :
    value (fuel + 1) ('\x7b' :: more) = .ok (.map (Value.collect ps), rest) := by
  rw [value, hskip]
  split
  · next heq => exact absurd (List.cons.inj heq).1 hc
  · rw [h]
    rfl

/-- The form of a member of an object. -/
def memberForm (form : Value → List Char) (p : Value × Value) : List Char :=
  (writeKey false p.1).toList ++ ':' :: ' ' :: form p.2

/-- What comes behind a member. -/
def behindMember (fuel : Nat) (p : Value × Value) (rest : List Char) :
    Except Stop (List (Value × Value) × List Char) :=
  match skipSpace rest with
  | '\x7d' :: rest => .ok ([p], rest)
  | ',' :: rest => do
    let (ps, rest) ← members fuel (skipSpace rest)
    return (p :: ps, rest)
  | rest => .error (.fault .comma rest)

section Member

variable {key : String} {v : Value} {ps : List (Value × Value)}

/-- A member is read, and then what comes behind it. -/
lemma members_member (hskip : skipSpace cs = cs) (h : value fuel cs = .ok (v, rest)) :
    members (fuel + 1) ((writeString false key).toList ++ ':' :: ' ' :: cs)
      = behindMember fuel (.str key, v) rest := by
  have hspace : skipSpace (' ' :: cs) = cs := hskip
  rw [toList_writeString, List.cons_append, List.append_assoc, List.singleton_append, members,
    stringBody_writeString _ key (':' :: ' ' :: cs)]
  dsimp only [bind, Except.bind]
  rw [skipSpace_of_begins (by decide)]
  change (value fuel (skipSpace (' ' :: cs)) >>= _) = _
  rw [hspace, h, ofPoints_toNat]
  rfl

lemma behindMember_last {p : Value × Value} {rest' : List Char}
    (hrest : skipSpace rest = '\x7d' :: rest') : behindMember fuel p rest = .ok ([p], rest') := by
  rw [behindMember, hrest]
  rfl

lemma behindMember_more {p : Value × Value} {rest' rest'' : List Char}
    (hrest : skipSpace rest = ',' :: rest')
    (hmore : members fuel (skipSpace rest') = .ok (ps, rest'')) :
    behindMember fuel p rest = .ok (p :: ps, rest'') := by
  rw [behindMember, hrest]
  change (members fuel (skipSpace rest') >>= _) = _
  rw [hmore]
  rfl

end Member

section Members

variable {spaces closing : List Char} (hspaces : ∀ c ∈ spaces, isSpace c = true)
  (hclosing : ∀ c ∈ closing, isSpace c = true) {form : Value → List Char}
  {ps : List (Value × Value)} (hne : ps ≠ []) (hkeys : ∀ p ∈ ps, ∃ s, p.1 = .str s)
  (h : ∀ p ∈ ps, IsForm p.2 (form p.2))

lemma memberForm_eq (key : String) (v : Value) (rest : List Char) :
    memberForm form (.str key, v) ++ rest
      = (writeString false key).toList ++ ':' :: ' ' :: (form v ++ rest) := by
  rw [memberForm, List.append_assoc]
  rfl

lemma skipSpace_form {v : Value} (h : IsForm v (form v)) (rest : List Char) :
    skipSpace (form v ++ rest) = form v ++ rest := by
  obtain ⟨c, more, hform, hspace, -⟩ := h.begins
  rw [hform, List.cons_append, skipSpace_of_begins hspace]

/-- A member begins with the quote of its key. -/
lemma exists_memberForm_cons (form : Value → List Char) (key : String) (v : Value) :
    ∃ more, memberForm form (.str key, v) = '"' :: more := by
  rw [memberForm, writeKey, toList_writeString]
  exact ⟨_, rfl⟩

include hspaces hclosing hne hkeys h

/-- The members of an object are read one after another. -/
lemma members_joined (hfuel : 2 * (joined spaces (ps.map (memberForm form))).length < fuel)
    (rest : List Char) :
    members fuel (joined spaces (ps.map (memberForm form)) ++ (closing ++ '\x7d' :: rest))
      = .ok (ps, rest) := by
  have hlength (p : Value × Value) : (form p.2).length ≤ (memberForm form p).length := by
    simp only [memberForm, List.length_append, List.length_cons]
    omega
  refine read_joined hspaces hne (fun p hp => ?begins) (fun p hp fuel hfuel => ?last)
    (fun p hp fuel cs ps' hfuel hrest => ?more) hfuel
  all_goals
    have hform := h p hp
    have hless := hlength p
    obtain ⟨key, hkey⟩ := hkeys p hp
    obtain ⟨_, v⟩ := p
    obtain rfl : _ = Value.str key := hkey
  case begins =>
    obtain ⟨more, hmember⟩ := exists_memberForm_cons form key v
    exact ⟨_, more, hmember, by decide⟩
  case last =>
    rw [memberForm_eq, members_member (skipSpace_form hform _) (hform.value_append
      (by omega) (endsNumber_append hclosing (endsNumber_cons (.inr (.inr rfl)) rest)))]
    refine behindMember_last ?_
    rw [skipSpace_append hclosing, skipSpace_of_begins (by decide)]
  case more =>
    rw [memberForm_eq, members_member (skipSpace_form hform _) (hform.value_append
      (by omega) (endsNumber_cons (.inl rfl) _))]
    exact behindMember_more (skipSpace_of_begins (by decide) _) hrest

/-- An object is read from its form. -/
lemma isForm_map (hnodup : (ps.map Prod.fst).Nodup) :
    IsForm (.map ps) ('\x7b' :: (spaces ++
      (joined spaces (ps.map (memberForm form)) ++ (closing ++ ['\x7d'])))) := by
  refine ⟨⟨_, _, rfl, by decide, by decide⟩, fun {fuel rest} hfuel hrest => ?_⟩
  simp only [List.length_cons, List.length_append, List.length_nil] at hfuel
  obtain ⟨fuel, rfl⟩ : ∃ n, fuel = n + 1 := ⟨fuel - 1, by omega⟩
  have hless : 2 * (joined spaces (ps.map (memberForm form))).length < fuel := by omega
  have hmembers := members_joined hspaces hclosing hne hkeys h hless rest
  have hcollect := Value.collect_eq_self hkeys hnodup
  obtain ⟨p, ps, rfl⟩ := List.exists_cons_of_ne_nil hne
  obtain ⟨_, v⟩ := p
  obtain ⟨key, rfl⟩ : ∃ s, _ = Value.str s := hkeys _ List.mem_cons_self
  obtain ⟨more, hform⟩ := exists_memberForm_cons form key v
  obtain ⟨behind, hjoined⟩ := exists_joined_cons spaces more (ps.map (memberForm form))
  rw [← hform, ← List.map_cons] at hjoined
  rw [hjoined, List.cons_append] at hmembers ⊢
  simp only [List.cons_append, List.append_assoc, List.nil_append]
  rw [← hcollect]
  refine value_map ?_ (by decide) hmembers
  rw [skipSpace_append hspaces, skipSpace_of_begins (by decide)]

end Members

/-! ### Values -/

lemma writeItems_eq (layout : Layout) (level : Nat) (vs : List Value) :
    writeItems layout level vs = vs.map (writeAt layout level) := by
  induction vs with
  | nil => rfl
  | cons v vs ih => rw [writeItems, ih, List.map_cons]

lemma writePairs_eq (layout : Layout) (level : Nat) (ps : List (Value × Value)) :
    writePairs layout level ps
      = ps.map fun p => writeKey layout.asciiOnly p.1 ++ ": " ++ writeAt layout level p.2 := by
  induction ps with
  | nil => rfl
  | cons p ps ih => rw [writePairs, ih, List.map_cons]

lemma toList_breakAt (level : Nat) :
    (breakAt blockLayout level).toList = '\n' :: List.replicate (2 * level) ' ' := by
  simp [breakAt, blockLayout]

lemma isSpace_breakAt (level : Nat) :
    ∀ c ∈ (breakAt blockLayout level).toList, isSpace c = true := by
  intro c hc
  rw [toList_breakAt, List.mem_cons] at hc
  rcases hc with rfl | hc
  · rfl
  · rw [List.eq_of_mem_replicate hc]
    rfl

lemma toList_enclose_nil (opening closing : String) (level : Nat) :
    (enclose blockLayout level opening closing []).toList = opening.toList ++ closing.toList :=
  String.toList_append

/-- The items between brackets stand on lines of their own. -/
lemma toList_enclose {items : List String} (h : items ≠ []) (opening closing : String)
    (level : Nat) :
    (enclose blockLayout level opening closing items).toList
      = opening.toList ++ ((breakAt blockLayout (level + 1)).toList
          ++ (joined (breakAt blockLayout (level + 1)).toList (items.map String.toList)
            ++ ((breakAt blockLayout level).toList ++ closing.toList))) := by
  have hcomma : ("," ++ breakAt blockLayout (level + 1)).toList
      = ',' :: (breakAt blockLayout (level + 1)).toList := String.toList_append
  rw [enclose, if_neg (by simpa using h)]
  dsimp only
  rw [if_pos (show blockLayout.indent.isSome = true from rfl)]
  simp only [String.toList_append, String.toList_intercalate, hcomma, joined, List.append_assoc]

lemma isForm_nil : IsForm (.list []) ['[', ']'] := by
  refine ⟨⟨_, _, rfl, by decide, by decide⟩, fun {fuel rest} hfuel _ => ?_⟩
  obtain ⟨fuel, rfl⟩ : ∃ n, fuel = n + 1 := ⟨fuel - 1, by simp at hfuel; omega⟩
  rfl

lemma isForm_empty : IsForm (.map []) ['\x7b', '\x7d'] := by
  refine ⟨⟨_, _, rfl, by decide, by decide⟩, fun {fuel rest} hfuel _ => ?_⟩
  obtain ⟨fuel, rfl⟩ : ∃ n, fuel = n + 1 := ⟨fuel - 1, by simp at hfuel; omega⟩
  rfl

/-- A value of JSON is read from what it is written as, unless an integer in it has too many
digits. -/
lemma isForm_writeAt {v : Value} (h : v.IsJson) (hshort : v.isOverlong = false) (level : Nat) :
    IsForm v (writeAt blockLayout level v).toList := by
  induction h generalizing level with
  | null =>
    rw [writeAt]
    exact isForm_of_scalar fun rest _ => rfl
  | bool b =>
    rw [writeAt]
    cases b with
    | false => exact isForm_of_scalar fun rest _ => rfl
    | true => exact isForm_of_scalar fun rest _ => rfl
  | int n =>
    rw [writeAt]
    exact isForm_of_scalar fun rest hrest => scalar_of_number
      (number_toString (by simpa [Value.isOverlong] using hshort) hrest)
  | float x =>
    rw [writeAt]
    exact isForm_of_scalar fun rest hrest => scalar_writeFloat x hrest
  | str s =>
    rw [writeAt]
    exact isForm_writeString s
  | @list vs _ ih =>
    rw [writeAt, writeItems_eq]
    by_cases hnil : vs = []
    · subst hnil
      rw [List.map_nil, toList_enclose_nil]
      exact isForm_nil
    · rw [toList_enclose (by simpa using hnil), List.map_map]
      exact isForm_list (isSpace_breakAt _) (isSpace_breakAt _) hnil
        fun v hv => ih v hv (Value.isOverlong_list.mp hshort v hv) _
  | @map ps hkeys hnodup _ ih =>
    rw [writeAt, writePairs_eq]
    by_cases hnil : ps = []
    · subst hnil
      rw [List.map_nil, toList_enclose_nil]
      exact isForm_empty
    · rw [toList_enclose (by simpa using hnil), List.map_map]
      have hform : (String.toList ∘ fun p : Value × Value =>
          writeKey blockLayout.asciiOnly p.1 ++ ": " ++ writeAt blockLayout (level + 1) p.2)
            = memberForm fun v => (writeAt blockLayout (level + 1) v).toList := by
        funext p
        simp [memberForm, blockLayout]
      rw [hform]
      exact isForm_map (isSpace_breakAt _) (isSpace_breakAt _) hnil hkeys
        (fun p hp => ih p hp (Value.isOverlong_map.mp hshort p hp).2 _) hnodup

/-- A value of JSON is read back from its text, unless an integer in it has too many digits. -/
theorem parse_write {v : Value} (h : v.IsJson) (hshort : v.isOverlong = false) :
    parse (write blockLayout v) = .ok v := by
  obtain ⟨⟨c, more, hform, hspace, -⟩, hread⟩ := isForm_writeAt h hshort 0
  have hends : EndsNumber [] := nofun
  have hvalue := hread (Nat.le_add_right _ 2) hends
  rw [List.append_nil, hform] at hvalue
  have hmark : c ≠ '\ufeff' := by
    rintro rfl
    cases hvalue
  rw [parse, write, hform, document, if_neg (by simpa using hmark), skipSpace_of_begins hspace,
    hvalue]
  rfl

/-! ### Carriage returns

A file is read with its carriage returns as line feeds, and no value is written with one.
-/

lemma return_notMem_toDigits (n : Nat) : '\r' ∉ Nat.toDigits 10 n := by
  intro h
  cases areDigits_toDigits n _ h

lemma return_notMem_exponentText (e : Int) : '\r' ∉ (exponentText e).toList := by
  rw [exponentText]
  split_ifs <;> simp [return_notMem_toDigits]

lemma return_notMem_render (d : Decimal) : '\r' ∉ (d.render realLayout).toList := by
  have hdigits := return_notMem_toDigits d.digits
  have htake (n : Nat) : '\r' ∉ (Nat.toDigits 10 d.digits).take n :=
    fun h => hdigits (List.mem_of_mem_take h)
  have hdrop (n : Nat) : '\r' ∉ (Nat.toDigits 10 d.digits).drop n :=
    fun h => hdigits (List.mem_of_mem_drop h)
  rw [Decimal.render, Nat.toString_eq_ofList_toDigits]
  generalize (if d.digits = 0 then 1 else d.point) = point
  by_cases hpoint : point < realLayout.least ∨ realLayout.greatest < point
  · rw [if_pos hpoint]
    generalize Nat.toDigits 10 d.digits = ds at hdigits
    cases ds with
    | nil => simp [scientific, return_notMem_exponentText]
    | cons c ds =>
      obtain ⟨hc, hds⟩ := not_or.mp fun h => hdigits (List.mem_cons.mpr h)
      rw [toList_scientific]
      split_ifs <;> simp [return_notMem_exponentText, hc, hds]
  · rw [if_neg hpoint]
    change '\r' ∉ (positional true _ point).toList
    rw [toList_positional]
    split_ifs
    · simp [hdigits]
    · simp [hdigits]
    · simp [htake, hdrop]

lemma return_notMem_writeFloat (x : Float) : '\r' ∉ (writeFloat x).toList := by
  rw [writeFloat]
  split_ifs
  · decide
  · decide
  · decide
  · rw [floatText, renderFloat]
    split
    · decide
    · split_ifs <;> decide
    · split_ifs <;> simp [return_notMem_render]

lemma return_notMem_toString_int (n : Int) : '\r' ∉ (toString n).toList := by
  rw [toList_toString_int, sign]
  split_ifs <;> simp [return_notMem_toDigits]

lemma return_notMem_writeString (s : String) : '\r' ∉ (writeString false s).toList := by
  rw [toList_writeString, List.mem_cons, List.mem_append, List.mem_flatMap]
  rintro (h | ⟨c, -, hc⟩ | h)
  · cases h
  · rcases writeChar_cases c with ⟨e, hform, he, -⟩ | ⟨hcontrol, hform⟩ | ⟨hform, -, -, hcontrol⟩
    · rw [hform] at hc
      rcases List.mem_cons.mp hc with hc | hc
      · cases hc
      · obtain rfl := List.mem_singleton.mp hc
        cases he
    · rw [hform, unitEscape] at hc
      revert hc
      generalize c.toNat = n at hcontrol
      interval_cases n <;> decide
    · rw [hform] at hc
      obtain rfl := List.mem_singleton.mp hc
      exact hcontrol (by decide)
  · cases List.mem_singleton.mp h

lemma notMem_joined {c : Char} {spaces : List Char} {forms : List (List Char)} (hcomma : c ≠ ',')
    (hspaces : c ∉ spaces) (h : ∀ form ∈ forms, c ∉ form) : c ∉ joined spaces forms := by
  induction forms with
  | nil => exact nofun
  | cons form forms ih =>
    obtain ⟨hform, hforms⟩ := List.forall_mem_cons.mp h
    cases forms with
    | nil => rwa [joined_singleton]
    | cons form' forms =>
      rw [joined_cons_cons]
      simp [hform, hcomma, hspaces, ih hforms]

lemma return_notMem_breakAt (level : Nat) : '\r' ∉ (breakAt blockLayout level).toList := by
  rw [toList_breakAt]
  simp

lemma return_notMem_enclose {items : List String} {opening closing : String}
    (hopening : '\r' ∉ opening.toList) (hclosing : '\r' ∉ closing.toList)
    (h : ∀ item ∈ items, '\r' ∉ item.toList) (level : Nat) :
    '\r' ∉ (enclose blockLayout level opening closing items).toList := by
  by_cases hnil : items = []
  · rw [hnil, toList_enclose_nil]
    simp [hopening, hclosing]
  · have hjoined : '\r' ∉ joined (breakAt blockLayout (level + 1)).toList
        (items.map String.toList) :=
      notMem_joined (by decide) (return_notMem_breakAt _) fun form hform => by
        obtain ⟨item, hitem, rfl⟩ := List.mem_map.mp hform
        exact h item hitem
    rw [toList_enclose hnil]
    simp [hopening, hclosing, return_notMem_breakAt, hjoined]

/-- No value is written with a carriage return. -/
lemma return_notMem_writeAt {v : Value} (h : v.IsJson) (level : Nat) :
    '\r' ∉ (writeAt blockLayout level v).toList := by
  induction h generalizing level with
  | null =>
    rw [writeAt]
    decide
  | bool b =>
    rw [writeAt]
    cases b <;> decide
  | int n =>
    rw [writeAt]
    exact return_notMem_toString_int n
  | float x =>
    rw [writeAt]
    exact return_notMem_writeFloat x
  | str s =>
    rw [writeAt]
    exact return_notMem_writeString s
  | list _ ih =>
    rw [writeAt, writeItems_eq]
    refine return_notMem_enclose (by decide) (by decide) (fun item hitem => ?_) level
    obtain ⟨v, hv, rfl⟩ := List.mem_map.mp hitem
    exact ih v hv _
  | map hkeys _ _ ih =>
    rw [writeAt, writePairs_eq]
    refine return_notMem_enclose (by decide) (by decide) (fun item hitem => ?_) level
    obtain ⟨p, hp, rfl⟩ := List.mem_map.mp hitem
    obtain ⟨key, hkey⟩ := hkeys p hp
    have hwritten := return_notMem_writeString key
    rw [hkey, writeKey]
    simpa [blockLayout, hwritten] using ih p hp (level + 1)

end Json

end VariantRepair
