import VariantRepair.Json.Reader
import VariantRepair.Json.Writer
import VariantRepair.Proofs.Number.Binary64

/-!
# Numbers are read back from JSON text

A number is written by digits, with a point or an exponent if it is a double. What comes after it in
a text is none of these, so that the same digits are read, and the double that they are rounded to
is the one that was written.
-/

namespace VariantRepair.Json

open Number Text

variable {ds rest cs : List Char} {c : Char}

/-! ### Digits -/

/-- Are all characters plain digits? -/
def AreDigits (ds : List Char) : Prop :=
  ∀ c ∈ ds, c.isDigit = true

/-- What comes after digits that end a part of a number. -/
def EndsDigits (rest : List Char) : Prop :=
  ∀ c ∈ rest.head?, c.isDigit = false

lemma AreDigits.append {ds' : List Char} (h : AreDigits ds) (h' : AreDigits ds') :
    AreDigits (ds ++ ds') := fun c hc =>
  (List.mem_append.mp hc).elim (h c) (h' c)

lemma areDigits_toDigits (n : Nat) : AreDigits (Nat.toDigits 10 n) := fun _ hc =>
  isDigit_of_mem_toDigits hc

lemma areDigits_zeros (n : Nat) : AreDigits (List.replicate n '0') := by
  intro c hc
  rw [List.eq_of_mem_replicate hc]
  rfl

lemma isAsciiDigit_eq (c : Char) : isAsciiDigit c = c.isDigit := by
  rw [isAsciiDigit, Char.isDigit]
  rfl

/-- The digits at the head of a text, and what comes after them. -/
lemma span_digits (h : AreDigits ds) (hrest : EndsDigits rest) :
    (ds ++ rest).takeWhile isAsciiDigit = ds ∧ (ds ++ rest).dropWhile isAsciiDigit = rest := by
  have hds : ∀ c ∈ ds, isAsciiDigit c = true := fun c hc => (isAsciiDigit_eq c).trans (h c hc)
  have hstop : ∀ c ∈ rest.head?, isAsciiDigit c = false := fun c hc =>
    (isAsciiDigit_eq c).trans (hrest c hc)
  exact ⟨takeWhile_append_stop hds hstop, dropWhile_append_stop hds hstop⟩

lemma digitsValue_append (ds ds' : List Char) :
    digitsValue (ds ++ ds') = tenTo ds'.length * digitsValue ds + digitsValue ds' := by
  induction ds' using List.reverseRecOn with
  | nil => simp [digitsValue, tenTo]
  | append_singleton ds' c ih =>
    rw [← List.append_assoc, digitsValue_append_singleton, ih, digitsValue_append_singleton,
      List.length_append, List.length_singleton, tenTo_succ]
    ring

lemma digitsValue_zeros (n : Nat) : digitsValue (List.replicate n '0') = 0 := by
  induction n with
  | zero => rfl
  | succ n ih =>
    rw [List.replicate_succ', digitsValue_append_singleton, ih]
    rfl

/-- The first digit of a positive number is not zero. -/
lemma head?_toDigits {n : Nat} (hn : n ≠ 0) : (Nat.toDigits 10 n).head? ≠ some '0' := by
  induction n using Nat.strongRecOn with
  | ind n ih =>
    rw [Nat.toDigits_eq_if (by decide)]
    split_ifs with hsmall
    · interval_cases n <;> simp_all [Nat.digitChar]
    · have hquotient : n / 10 ≠ 0 := by omega
      rw [List.head?_append_of_ne_nil _ Nat.toDigits_ne_nil]
      exact ih (n / 10) (by omega) hquotient

/-! ### The parts of a number -/

/-- What comes after a number: nothing that could go on with it. -/
def EndsNumber (rest : List Char) : Prop :=
  ∀ c ∈ rest.head?, c.isDigit = false ∧ c ≠ '.' ∧ c ≠ 'e' ∧ c ≠ 'E'

lemma EndsNumber.endsDigits (h : EndsNumber rest) : EndsDigits rest := fun c hc => (h c hc).1

lemma wholeDigits_of_digits (h : AreDigits ds) (hne : ds ≠ []) (hzero : ds.head? ≠ some '0')
    (hrest : EndsDigits rest) : wholeDigits (ds ++ rest) = (ds, rest) := by
  obtain ⟨htake, hdrop⟩ := span_digits h hrest
  obtain ⟨c, ds, rfl⟩ := List.exists_cons_of_ne_nil hne
  rw [wholeDigits.eq_2 _ fun cs hcs => hzero (congrArg List.head? (List.cons_append ▸ hcs)), htake,
    hdrop]

lemma fractionDigits_of_digits (h : AreDigits ds) (hne : ds ≠ []) (hrest : EndsDigits rest) :
    fractionDigits ('.' :: (ds ++ rest)) = (ds, rest) := by
  obtain ⟨htake, hdrop⟩ := span_digits h hrest
  rw [fractionDigits, htake, hdrop, if_neg (by simpa using hne)]

lemma fractionDigits_of_none (h : rest.head? ≠ some '.') : fractionDigits rest = ([], rest) :=
  fractionDigits.eq_2 rest fun _ hcs => h (congrArg List.head? hcs)

lemma exponentDigits_of_none (h : EndsNumber rest) : exponentDigits rest = (none, rest) := by
  cases rest with
  | nil => rfl
  | cons c rest =>
    obtain ⟨-, -, hsmall, hlarge⟩ := h c rfl
    rw [exponentDigits, if_neg (not_or.mpr ⟨hsmall, hlarge⟩)]

/-- The sign in front of a number. -/
def sign (negative : Bool) : List Char :=
  if negative then ['-'] else []

/-- The sign and the rest of a number are told apart. -/
lemma number_eq (negative : Bool) (h : cs.head? ≠ some '-') {whole fraction rest₁ rest₂ : List Char}
    {exponent : Option Int} (hwhole : wholeDigits cs = (whole, rest₁)) (hne : whole ≠ [])
    (hfraction : fractionDigits rest₁ = (fraction, rest₂))
    (hexponent : exponentDigits rest₂ = (exponent, rest)) :
    number (sign negative ++ cs)
      = if fraction.isEmpty && exponent.isNone then
          if digitLimit < whole.length then .error (.number (.tooLong whole.length))
          else
            .ok (.int (if negative then -(digitsValue whole : Int) else digitsValue whole), rest)
        else
          .ok (.float (ofDecimal negative (digitsValue (whole ++ fraction))
            (exponent.getD 0 - (fraction.length : Int))), rest) := by
  have hwhole_ne : whole.isEmpty = false := List.isEmpty_eq_false_iff.mpr hne
  cases negative with
  | true => simp [number, sign, hwhole, hwhole_ne, hfraction, hexponent]
  | false =>
    cases cs with
    | nil => simp [number, sign, hwhole, hwhole_ne, hfraction, hexponent]
    | cons c cs =>
      have hc : c ≠ '-' := fun hc => h (congrArg some hc)
      simp [number, sign, hc, hwhole, hwhole_ne, hfraction, hexponent]

/-- A number with a point or an exponent is a double. -/
lemma number_real (negative : Bool) (h : cs.head? ≠ some '-')
    {whole fraction rest₁ rest₂ : List Char} {exponent : Option Int}
    (hwhole : wholeDigits cs = (whole, rest₁)) (hne : whole ≠ [])
    (hfraction : fractionDigits rest₁ = (fraction, rest₂))
    (hexponent : exponentDigits rest₂ = (exponent, rest))
    (hreal : fraction ≠ [] ∨ exponent.isSome) :
    number (sign negative ++ cs)
      = .ok (.float (ofDecimal negative (digitsValue (whole ++ fraction))
          (exponent.getD 0 - (fraction.length : Int))), rest) := by
  rw [number_eq negative h hwhole hne hfraction hexponent, if_neg]
  rw [Bool.and_eq_true, List.isEmpty_iff, Option.isNone_iff_eq_none]
  rintro ⟨hnil, hnone⟩
  rcases hreal with hreal | hreal
  · exact hreal hnil
  · simp [hnone] at hreal

/-! ### Integers -/

lemma head?_ne_of_digits (h : AreDigits ds) (hne : ds ≠ []) (hc : c.isDigit = false)
    (rest : List Char) : (ds ++ rest).head? ≠ some c := by
  obtain ⟨d, ds, rfl⟩ := List.exists_cons_of_ne_nil hne
  rw [List.cons_append, List.head?_cons, ne_eq, Option.some.injEq]
  rintro rfl
  rw [h d List.mem_cons_self] at hc
  cases hc

/-- The digits of a whole number are read to their end. -/
lemma wholeDigits_toDigits (n : Nat) (hrest : EndsDigits rest) :
    wholeDigits (Nat.toDigits 10 n ++ rest) = (Nat.toDigits 10 n, rest) := by
  by_cases hn : n = 0
  · subst hn
    rfl
  · exact wholeDigits_of_digits (areDigits_toDigits n) Nat.toDigits_ne_nil (head?_toDigits hn) hrest

lemma toList_toString_int (n : Int) :
    (toString n).toList = sign (decide (n < 0)) ++ Nat.toDigits 10 n.natAbs := by
  cases n with
  | ofNat n => exact Nat.toList_repr
  | negSucc n =>
    change ("-" ++ Nat.repr (n + 1)).toList = _
    rw [String.toList_append, Nat.toList_repr, decide_eq_true (Int.negSucc_lt_zero n)]
    rfl

/-- An integer that has not too many digits is read back. -/
theorem number_toString {n : Int} (hn : Number.isOverlong n = false) (hrest : EndsNumber rest) :
    number ((toString n).toList ++ rest) = .ok (.int n, rest) := by
  have hlength : ¬ digitLimit < (Nat.toDigits 10 n.natAbs).length := by
    rw [Number.isOverlong, decide_eq_false_iff_not, Nat.not_le] at hn
    exact Nat.not_lt.mpr (length_toDigits_le (by decide) hn)
  have hsign : (if decide (n < 0) then -(n.natAbs : Int) else n.natAbs) = n := by
    split_ifs with h
    · rw [decide_eq_true_eq] at h
      omega
    · rw [decide_eq_true_eq] at h
      omega
  rw [toList_toString_int, List.append_assoc,
    number_eq _ (head?_ne_of_digits (areDigits_toDigits _) Nat.toDigits_ne_nil rfl rest)
      (wholeDigits_toDigits _ hrest.endsDigits) Nat.toDigits_ne_nil
      (fractionDigits_of_none fun h => (hrest '.' h).2.1 rfl) (exponentDigits_of_none hrest)]
  change (if digitLimit < _ then _ else _) = _
  rw [if_neg hlength, digitsValue_toDigits, hsign]

/-! ### Doubles -/

/-- The characters of a positive decimal with the digits `ds` in a layout that keeps the point. -/
lemma toList_positional (ds : List Char) (point : Int) :
    (positional true (String.ofList ds) point).toList
      = if point ≤ 0 then '0' :: '.' :: (List.replicate (-point).toNat '0' ++ ds)
        else if ds.length ≤ point.toNat then
          ds ++ List.replicate (point.toNat - ds.length) '0' ++ ['.', '0']
        else ds.take point.toNat ++ '.' :: ds.drop point.toNat := by
  rw [positional]
  simp only [String.toList_ofList]
  split_ifs
  · simp
  · simp
  · simp

lemma toList_scientific (c : Char) (ds : List Char) (e : Int) :
    (scientific (String.ofList (c :: ds)) e).toList
      = c :: ((if ds.isEmpty then [] else '.' :: ds) ++ 'e' :: (exponentText e).toList) := by
  rw [scientific]
  cases ds with
  | nil => simp
  | cons d ds => simp

/-- An exponent is written by its sign and digits for it, at least two of them. -/
lemma exists_exponentText (e : Int) : ∃ ds, AreDigits ds ∧ ds ≠ [] ∧ digitsValue ds = e.natAbs ∧
    (exponentText e).toList = (if e < 0 then '-' else '+') :: ds := by
  have hdigits : (toString e.natAbs).toList = Nat.toDigits 10 e.natAbs := Nat.toList_repr
  have hvalue := digitsValue_toDigits e.natAbs
  rw [exponentText, String.toList_append, ← String.length_toList, hdigits]
  by_cases hlength : (Nat.toDigits 10 e.natAbs).length < 2
  · refine ⟨['0'] ++ Nat.toDigits 10 e.natAbs, (areDigits_zeros 1).append (areDigits_toDigits _),
      by simp, ?_, ?_⟩
    · rw [digitsValue_append, hvalue]
      simp [digitsValue, digitValue?, zeroDigits]
    · rw [if_pos hlength, String.toList_append, hdigits]
      split_ifs <;> rfl
  · refine ⟨_, areDigits_toDigits _, Nat.toDigits_ne_nil, hvalue, ?_⟩
    rw [if_neg hlength, hdigits]
    split_ifs <;> rfl

/-- The exponent is read with its sign. -/
lemma exponentDigits_exponentText (e : Int) (hrest : EndsDigits rest) :
    exponentDigits ('e' :: ((exponentText e).toList ++ rest)) = (some e, rest) := by
  obtain ⟨ds, hdigits, hne, hvalue, htext⟩ := exists_exponentText e
  obtain ⟨htake, hdrop⟩ := span_digits hdigits hrest
  have hsplit : splitSign ((if e < 0 then '-' else '+') :: (ds ++ rest))
      = (decide (e < 0), ds ++ rest) := by
    split_ifs with h
    · rw [decide_eq_true h]
      rfl
    · rw [decide_eq_false h]
      rfl
  rw [htext, List.cons_append, exponentDigits, if_pos (.inl rfl), hsplit]
  dsimp only
  rw [htake, hdrop, if_neg (by simpa using hne), hvalue]
  congr 2
  split_ifs with h
  · rw [decide_eq_true_eq] at h
    omega
  · rw [decide_eq_true_eq] at h
    omega

lemma endsDigits_of_ne (hc : c.isDigit = false) (rest : List Char) : EndsDigits (c :: rest) := by
  rintro d ⟨⟩
  exact hc

/-- Digits with a point between them are read as a double. -/
lemma number_point (negative : Bool) {whole fraction : List Char} (hwhole : AreDigits whole)
    (hne : whole ≠ []) (hzero : whole.head? ≠ some '0' ∨ whole = ['0'])
    (hfraction : AreDigits fraction) (hne' : fraction ≠ []) (hrest : EndsNumber rest) :
    number (sign negative ++ (whole ++ '.' :: (fraction ++ rest)))
      = .ok (.float (ofDecimal negative (digitsValue (whole ++ fraction))
          (-(fraction.length : Int))), rest) := by
  have hread : wholeDigits (whole ++ '.' :: (fraction ++ rest))
      = (whole, '.' :: (fraction ++ rest)) := by
    rcases hzero with hzero | rfl
    · exact wholeDigits_of_digits hwhole hne hzero (endsDigits_of_ne rfl _)
    · rfl
  have hreal := number_real negative (head?_ne_of_digits hwhole hne rfl _) hread hne
    (fractionDigits_of_digits hfraction hne' hrest.endsDigits) (exponentDigits_of_none hrest)
    (.inl hne')
  rwa [Option.getD_none, zero_sub] at hreal

section Render

variable {n : Nat} (hn : n ≠ 0) (negative : Bool)

include hn

/-- Digits with an exponent are read as the same digits with the exponent of the last one. -/
lemma number_scientific (e : Int) (hrest : EndsNumber rest) :
    number (sign negative ++
        ((scientific (String.ofList (Nat.toDigits 10 n)) e).toList ++ rest))
      = .ok (.float (ofDecimal negative n (e + 1 - (Nat.toDigits 10 n).length)), rest) := by
  have hvalue := digitsValue_toDigits n
  have hdigits := areDigits_toDigits n
  have hhead := head?_toDigits hn
  obtain ⟨c, ds, hds⟩ := List.exists_cons_of_ne_nil (Nat.toDigits_ne_nil (n := n) (b := 10))
  rw [hds] at hvalue hdigits hhead
  obtain ⟨hc, htail⟩ := List.forall_mem_cons.mp hdigits
  let behind := 'e' :: ((exponentText e).toList ++ rest)
  have hbehind : EndsDigits behind := endsDigits_of_ne rfl _
  have hexponent : exponentDigits behind = (some e, rest) :=
    exponentDigits_exponentText e hrest.endsDigits
  have hfirst : AreDigits [c] := by simpa [AreDigits] using hc
  have hminus (rest : List Char) : (c :: rest).head? ≠ some '-' :=
    head?_ne_of_digits hfirst (List.cons_ne_nil _ _) rfl rest
  have hwhole {rest : List Char} (hrest : EndsDigits rest) :
      wholeDigits (c :: rest) = ([c], rest) :=
    wholeDigits_of_digits hfirst (List.cons_ne_nil _ _) hhead hrest
  rw [hds, toList_scientific]
  by_cases hnil : ds = []
  · subst hnil
    have hread := number_real negative (hminus behind) (hwhole hbehind) (by simp)
      (fractionDigits_of_none (by simp [behind])) hexponent (.inr rfl)
    rw [List.append_nil, hvalue] at hread
    simpa [behind] using hread
  · have hread := number_real negative (hminus ('.' :: (ds ++ behind)))
      (hwhole (endsDigits_of_ne rfl _)) (by simp) (fractionDigits_of_digits htail hnil hbehind)
      hexponent (.inl hnil)
    rw [List.singleton_append, hvalue] at hread
    have hexp : e + 1 - ((c :: ds).length : Int) = e - (ds.length : Int) := by
      rw [List.length_cons]
      omega
    rw [hexp]
    simpa [behind, hnil] using hread

/-- Digits with a point are read as the same digits, or as those with a zero for each place up to
the point and behind it. -/
lemma number_positional (point : Int) (hrest : EndsNumber rest) :
    ∃ (digits : Nat) (e : Int),
      (digits : ℚ) * 10 ^ e = n * 10 ^ (point - (Nat.toDigits 10 n).length) ∧
      number (sign negative ++
          ((positional true (String.ofList (Nat.toDigits 10 n)) point).toList ++ rest))
        = .ok (.float (ofDecimal negative digits e), rest) := by
  have hvalue := digitsValue_toDigits n
  have hdigits := areDigits_toDigits n
  have hhead := head?_toDigits hn
  have hne : Nat.toDigits 10 n ≠ [] := Nat.toDigits_ne_nil
  generalize Nat.toDigits 10 n = ds at hvalue hdigits hhead hne
  rw [toList_positional]
  split_ifs with hpoint hlength
  · -- A zero stands before the point.
    have hread := number_point negative (areDigits_zeros 1) (by simp) (.inr rfl)
      ((areDigits_zeros (-point).toNat).append hdigits) (by simp [hne]) hrest
    rw [digitsValue_append, digitsValue_append, digitsValue_zeros, digitsValue_zeros, hvalue,
      Nat.mul_zero, Nat.mul_zero, Nat.zero_add, Nat.zero_add, List.length_append,
      List.length_replicate] at hread
    refine ⟨n, _, ?_, hread⟩
    congr 2
    omega
  · -- Zeros fill the places up to the point.
    have hread := number_point negative (hdigits.append (areDigits_zeros (point.toNat - ds.length)))
      (by simp [hne]) (.inl (by rwa [List.head?_append_of_ne_nil _ hne])) (areDigits_zeros 1)
      (by simp) hrest
    rw [digitsValue_append, digitsValue_append, digitsValue_zeros, digitsValue_zeros, hvalue,
      List.length_replicate, List.length_replicate] at hread
    refine ⟨_, _, ?_, by simpa using hread⟩
    have hexp : point - (ds.length : Int) = ((point.toNat - ds.length : Nat) : Int) := by omega
    rw [hexp, zpow_natCast]
    push_cast [cast_tenTo]
    ring
  · -- The point stands between two digits.
    have htake : ds.take point.toNat ≠ [] := by
      simp [hne]
      omega
    have hfirst : (ds.take point.toNat).head? ≠ some '0' := by
      rwa [List.head?_take, if_neg (by omega)]
    have hread := number_point negative (fun c hc => hdigits c (List.mem_of_mem_take hc)) htake
      (.inl hfirst) (fun c hc => hdigits c (List.mem_of_mem_drop hc)) (by simpa using hlength) hrest
    rw [List.take_append_drop, hvalue, List.length_drop] at hread
    refine ⟨n, _, ?_, by rwa [List.append_assoc, List.cons_append]⟩
    congr 2
    omega

end Render

/-- A positive decimal is read as a double from digits that write the same number. -/
lemma number_render {d : Decimal} (hd : d.digits ≠ 0) (negative : Bool) (hrest : EndsNumber rest) :
    ∃ (digits : Nat) (e : Int), (digits : ℚ) * 10 ^ e = d.value ∧
      number (sign negative ++ ((d.render realLayout).toList ++ rest))
        = .ok (.float (ofDecimal negative digits e), rest) := by
  have hpoint : d.point = d.exponent + (Nat.toDigits 10 d.digits).length := by
    rw [Decimal.point, digitCount_eq]
    ring
  rw [Decimal.render, if_neg hd, Nat.toString_eq_ofList_toDigits]
  split_ifs
  · refine ⟨d.digits, d.exponent, rfl, ?_⟩
    rw [number_scientific hd negative _ hrest, hpoint, sub_add_cancel, add_sub_cancel_right]
  · obtain ⟨digits, e, hvalue, hread⟩ := number_positional hd negative d.point hrest
    refine ⟨digits, e, ?_, hread⟩
    rw [hvalue, hpoint, add_sub_cancel_right, Decimal.value]

/-- A finite double is read back. -/
lemma number_floatText {x : Float} {negative : Bool} {m : Nat} {q : Int}
    (h : Binary64.ofFloat x = .finite negative m q) (hrest : EndsNumber rest) :
    number ((floatText x).toList ++ rest) = .ok (.float x, rest) := by
  have htext : (floatText x).toList
      = sign negative ++ ((shortest m q).render realLayout).toList := by
    rw [floatText, renderFloat, h]
    dsimp only
    rw [String.toList_append]
    cases negative <;> rfl
  rw [htext, List.append_assoc]
  by_cases hm : m = 0
  · subst hm
    have hzero : ((shortest 0 q).render realLayout).toList = ['0', '.', '0'] := by
      rw [shortest, if_pos rfl]
      decide +kernel
    have hread := number_point negative (areDigits_zeros 1) (by simp) (.inr rfl) (areDigits_zeros 1)
      (by simp) hrest
    rw [digitsValue_append, digitsValue_zeros, Nat.mul_zero, Nat.zero_add, ofDecimal_of_zero h]
      at hread
    rw [hzero]
    exact hread
  · have hnear := isNear_shortest (bits_of_finite h).1 hm
    have hdigits : (shortest m q).digits ≠ 0 := by
      intro hzero
      have := hnear.low_pos hm
      simp [Decimal.value, hzero] at this
    obtain ⟨digits, e, hvalue, hread⟩ := number_render hdigits negative hrest
    rw [hread, ofDecimal_of_isNear h hm (hvalue ▸ hnear)]

/-! ### Scalars -/

/-- No word that stands for a value begins like a number. -/
lemma startsWith_eq_false {word : String} {r : Value × List Char} (h : number cs = .ok r)
    (hword : ∀ rest, ∃ e, number (word.toList ++ rest) = .error e) :
    startsWith word cs = false := by
  rw [Bool.eq_false_iff, startsWith, ne_eq, List.isPrefixOf_iff_prefix]
  rintro ⟨rest, rfl⟩
  obtain ⟨e, he⟩ := hword rest
  cases h.symm.trans he

/-- Where there is a number the value is that number. -/
lemma scalar_of_number {r : Value × List Char} (h : number cs = .ok r) : scalar cs = .ok r := by
  rw [scalar, startsWith_eq_false h fun _ => ⟨_, rfl⟩, startsWith_eq_false h fun _ => ⟨_, rfl⟩,
    startsWith_eq_false h fun _ => ⟨_, rfl⟩, startsWith_eq_false h fun _ => ⟨_, rfl⟩,
    startsWith_eq_false h fun _ => ⟨_, rfl⟩, startsWith_eq_false h fun _ => ⟨_, rfl⟩]
  exact h

/-- Every double is read back: a finite one from its digits, and the others from their words. -/
theorem scalar_writeFloat (x : Float) (hrest : EndsNumber rest) :
    scalar ((writeFloat x).toList ++ rest) = .ok (.float x, rest) := by
  rcases float_cases x with rfl | rfl | rfl | ⟨hnan, hinf, negative, m, q, hx⟩
  · rfl
  · rfl
  · rfl
  · rw [writeFloat, hnan, hinf]
    exact scalar_of_number (number_floatText hx hrest)

end VariantRepair.Json
