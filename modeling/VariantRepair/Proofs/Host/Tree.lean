import Mathlib.Tactic.Common
import VariantRepair.Host.FileTree
import VariantRepair.Proofs.Path

/-!
# Places in a tree of files

A change at one place of a tree shows at no other place. Where a path leads to is a matter of its
names alone as long as it leads anywhere: the tree only decides whether the directories on the way
are there. So a path goes on leading to its place while directories stay directories.
-/

namespace VariantRepair.Host

namespace FileTree

variable {t t' : FileTree} {place q : Place} {e : Entry} {directory : Place} {path : String}

/-! ### Single changes -/

lemma lookup_filter_ne (entries : List (Place × Entry)) (place q : Place) :
    (entries.filter (·.1 ≠ place)).lookup q = if q = place then none else entries.lookup q := by
  induction entries with
  | nil => simp
  | cons p entries ih =>
    obtain ⟨k, e⟩ := p
    by_cases hk : k = place
    · subst hk
      rw [List.filter_cons_of_neg (by simp), ih, List.lookup_cons]
      by_cases hq : q = k
      · simp [hq]
      · simp [hq, beq_eq_false_iff_ne.mpr hq]
    · rw [List.filter_cons_of_pos (by simpa using hk), List.lookup_cons, List.lookup_cons, ih]
      by_cases hq : q = k
      · simp [hq, hk]
      · simp [beq_eq_false_iff_ne.mpr hq]

lemma get?_of_ne_nil (t : FileTree) (hplace : place ≠ []) :
    t.get? place = t.entries.lookup place := by
  rw [get?, if_neg (by simpa using hplace)]

@[simp] lemma get?_nil (t : FileTree) : t.get? [] = some .directory := rfl

lemma get?_erase (t : FileTree) (hq : q ≠ []) :
    (t.erase place).get? q = if q = place then none else t.get? q := by
  rw [get?_of_ne_nil _ hq, get?_of_ne_nil _ hq, erase, lookup_filter_ne]

lemma get?_set (t : FileTree) (e : Entry) (hq : q ≠ []) :
    (t.set place e).get? q = if q = place then some e else t.get? q := by
  rw [get?_of_ne_nil _ hq, get?_of_ne_nil _ hq, set, List.lookup_append, lookup_filter_ne]
  by_cases hplace : q = place
  · simp [hplace]
  · simp [hplace, List.lookup_cons, beq_eq_false_iff_ne.mpr hplace]

lemma get?_erase_of_ne (t : FileTree) (hq : q ≠ place) : (t.erase place).get? q = t.get? q := by
  by_cases hnil : q = []
  · rw [hnil, get?_nil, get?_nil]
  · rw [get?_erase t hnil, if_neg hq]

lemma get?_set_of_ne (t : FileTree) (e : Entry) (hq : q ≠ place) :
    (t.set place e).get? q = t.get? q := by
  by_cases hnil : q = []
  · rw [hnil, get?_nil, get?_nil]
  · rw [get?_set t e hnil, if_neg hq]

lemma get?_set_self (t : FileTree) (e : Entry) (hplace : place ≠ []) :
    (t.set place e).get? place = some e := by
  rw [get?_set t e hplace, if_pos rfl]

lemma get?_erase_self (t : FileTree) (hplace : place ≠ []) : (t.erase place).get? place = none := by
  rw [get?_erase t hplace, if_pos rfl]

/-! ### Directories -/

/-- Every directory of one tree is a directory of another. -/
def DirectoriesStay (t t' : FileTree) : Prop :=
  ∀ q, t.get? q = some .directory → t'.get? q = some .directory

namespace DirectoriesStay

lemma refl (t : FileTree) : t.DirectoriesStay t := fun _ h => h

lemma trans {t'' : FileTree} (h : t.DirectoriesStay t') (h' : t'.DirectoriesStay t'') :
    t.DirectoriesStay t'' := fun q hq => h' q (h q hq)

lemma set (hplace : t.get? place ≠ some .directory) (e : Entry) :
    t.DirectoriesStay (t.set place e) := by
  intro q hq
  have hne : q ≠ place := by
    rintro rfl
    exact hplace hq
  rw [get?_set_of_ne t e hne, hq]

lemma erase (hplace : t.get? place ≠ some .directory) : t.DirectoriesStay (t.erase place) := by
  intro q hq
  have hne : q ≠ place := by
    rintro rfl
    exact hplace hq
  rw [get?_erase_of_ne t hne, hq]

end DirectoriesStay

/-! ### Paths -/

/-- The place that a name leads to from a directory. -/
def stepTo (place : Place) (name : String) : Place :=
  if name = "" ∨ name = "." then place
  else if name = ".." then place.dropLast
  else place ++ [name]

/-- The place that a path leads to from a directory if it leads anywhere. -/
def placeOf (directory : Place) (path : String) : Place :=
  (Path.pieces path).foldl stepTo (if path.startsWith "/" then [] else directory)

lemma eq_foldl_of_follow {names : List String} (h : t.follow place names = .ok q) :
    q = names.foldl stepTo place := by
  induction names generalizing place with
  | nil =>
    rw [follow] at h
    exact (Except.ok.inj h).symm
  | cons name names ih =>
    rw [follow] at h
    split at h
    · cases h
    · cases h
    · rw [List.foldl_cons, stepTo]
      split_ifs at h ⊢ with hsame hup hlong
      · exact ih h
      · exact ih h
      · exact ih h

lemma follow_of_directoriesStay {names : List String} (hstay : t.DirectoriesStay t')
    (h : t.follow place names = .ok q) : t'.follow place names = .ok q := by
  induction names generalizing place with
  | nil => exact h
  | cons name names ih =>
    rw [follow] at h ⊢
    split at h
    · cases h
    · cases h
    · next hdirectory =>
      rw [hstay place hdirectory]
      dsimp only
      split_ifs at h ⊢ with hsame hup hlong
      · exact ih h
      · exact ih h
      · exact ih h

lemma eq_placeOf_of_locate (h : t.locate directory path = .ok q) : q = placeOf directory path := by
  rw [locate] at h
  split_ifs at h with hempty hlong hroot
  · rw [placeOf, if_pos hroot]
    exact eq_foldl_of_follow h
  · rw [placeOf, if_neg hroot]
    exact eq_foldl_of_follow h

lemma locate_of_directoriesStay (hstay : t.DirectoriesStay t')
    (h : t.locate directory path = .ok q) : t'.locate directory path = .ok q := by
  rw [locate] at h ⊢
  split_ifs at h ⊢ with hempty hlong hroot
  · exact follow_of_directoriesStay hstay h
  · exact follow_of_directoriesStay hstay h

/-- Empty names and single dots lead nowhere else. -/
lemma foldl_stepTo_filter (names : List String) (place : Place) :
    (names.filter fun s => s ≠ "" ∧ s ≠ ".").foldl stepTo place = names.foldl stepTo place := by
  induction names generalizing place with
  | nil => rfl
  | cons name names ih =>
    by_cases hname : name ≠ "" ∧ name ≠ "."
    · rw [List.filter_cons_of_pos (by simpa using hname), List.foldl_cons, List.foldl_cons, ih]
    · have hsame : name = "" ∨ name = "." := by
        rwa [not_and_or, not_not, not_not] at hname
      rw [List.filter_cons_of_neg (by simpa using hname), List.foldl_cons, ih, stepTo, if_pos hsame]

lemma isAbsolute_ofText (s : String) : (Path.ofText s).isAbsolute = s.startsWith "/" := by
  have hslash : "/".toList = ['/'] := rfl
  rw [Bool.eq_iff_iff, String.startsWith_string_iff, hslash]
  change (!(Path.rootOf s).isEmpty) = true ↔ _
  rw [Path.rootOf]
  split
  · next hs => rw [hs]; exact ⟨fun _ => ⟨_, rfl⟩, fun _ => rfl⟩
  · next hs => rw [hs]; exact ⟨fun _ => ⟨_, rfl⟩, fun _ => rfl⟩
  · next hs => rw [hs]; exact ⟨fun _ => ⟨_, rfl⟩, fun _ => rfl⟩
  · next hnone =>
    refine ⟨fun h => absurd h (by decide), ?_⟩
    rintro ⟨cs, hcs⟩
    exact absurd hcs.symm (hnone cs)

/-- Where a path in normal form leads by its parts. -/
lemma placeOf_text {p : Path} (hp : p.IsNormal) (directory : Place) :
    placeOf directory p.text
      = p.parts.foldl stepTo (if p.isAbsolute then [] else directory) := by
  have hroot : p.text.startsWith "/" = p.isAbsolute := by
    rw [← isAbsolute_ofText, Path.ofText_text hp]
  have hparts : (Path.pieces p.text).filter (fun s => s ≠ "" ∧ s ≠ ".") = p.parts :=
    congrArg (·.parts) (Path.ofText_text hp)
  rw [placeOf, hroot, ← hparts, foldl_stepTo_filter]

/-- A name with something behind it leads elsewhere. -/
lemma stepTo_append_ne {name behind : String} (hname : name ≠ "" ∧ name ≠ ".")
    (hbehind : 2 ≤ behind.length) : stepTo place (name ++ behind) ≠ stepTo place name := by
  have hpos : 0 < name.length :=
    Nat.pos_of_ne_zero fun h => hname.1 (String.length_eq_zero_iff.mp h)
  have hlength : 3 ≤ (name ++ behind).length := by
    rw [String.length_append]
    omega
  have hlong {s : String} (hs : s.length < 3) : name ++ behind ≠ s := by
    rintro rfl
    omega
  rw [stepTo, if_neg (not_or.mpr ⟨hlong (by decide), hlong (by decide)⟩),
    if_neg (hlong (by decide)), stepTo, if_neg (not_or.mpr hname)]
  intro h
  split_ifs at h
  · have := congrArg List.length h
    rw [List.length_append, List.length_dropLast, List.length_singleton] at this
    omega
  · have hsame : name ++ behind = name := by simpa using h
    have := congrArg String.length hsame
    rw [String.length_append] at this
    omega

lemma find_eq_ok_iff : t.find directory path = .ok (q, e) ↔
    t.locate directory path = .ok q ∧ t.get? q = some e := by
  rw [find]
  cases h : t.locate directory path with
  | error fault => simp [bind, Except.bind]
  | ok place =>
    simp only [bind, Except.bind, Except.ok.injEq]
    cases hget : t.get? place with
    | none =>
      simp only [throw, throwThe, MonadExceptOf.throw, reduceCtorEq, false_iff, not_and]
      rintro rfl
      simp [hget]
    | some e' =>
      simp only [pure, Except.pure, Except.ok.injEq, Prod.mk.injEq]
      constructor
      · rintro ⟨rfl, rfl⟩
        exact ⟨rfl, hget⟩
      · rintro ⟨rfl, he⟩
        exact ⟨rfl, Option.some.inj (hget.symm.trans he)⟩

/-! ### Paths to a name in a directory -/

lemma follow_append (t : FileTree) (place : Place) (names names' : List String) :
    t.follow place (names ++ names')
      = (t.follow place names).bind fun q => t.follow q names' := by
  induction names generalizing place with
  | nil => rfl
  | cons name names ih =>
    rw [List.cons_append, follow, follow]
    split
    · rfl
    · rfl
    · split_ifs
      · exact ih _
      · exact ih _
      · rfl
      · exact ih _

/-- What a name in a directory may be. -/
structure IsName (name : String) : Prop where
  slash_notMem : '/' ∉ name.toList
  long : 2 < name.length
  short : name.utf8ByteSize ≤ nameLimit

lemma startsWith_append {s : String} (hs : ¬ s.isEmpty) (s' : String) :
    (s ++ "/" ++ s').startsWith "/" = s.startsWith "/" := by
  have hslash : "/".toList = ['/'] := rfl
  obtain ⟨c, cs, hcs⟩ := List.exists_cons_of_ne_nil (l := s.toList) (by simpa using hs)
  rw [Bool.eq_iff_iff, String.startsWith_string_iff, String.startsWith_string_iff,
    String.toList_append, String.toList_append, hslash, hcs]
  simp

/-- A path to a name in a directory that is there leads to the place of that name, unless the path
is too long. -/
lemma locate_of_directory {s name : String} (hname : IsName name)
    (h : t.find directory s = .ok (q, .directory)) :
    t.locate directory (s ++ "/" ++ name)
      = if pathLimit ≤ (s ++ "/" ++ name).utf8ByteSize then .error .nameTooLong
        else .ok (q ++ [name]) := by
  obtain ⟨hlocate, hget⟩ := find_eq_ok_iff.mp h
  have hne {other : String} (hother : other.length ≤ 2) : name ≠ other := by
    rintro rfl
    have := hname.long
    omega
  have hlast : t.follow q [name] = .ok (q ++ [name]) := by
    rw [follow, hget]
    dsimp only
    rw [if_neg (not_or.mpr ⟨hne (by decide), hne (by decide)⟩), if_neg (hne (by decide)),
      if_neg (Nat.not_lt.mpr hname.short)]
    rfl
  have hfollow {start : Place} (hs : t.follow start (Path.pieces s) = .ok q) :
      t.follow start (Path.pieces (s ++ "/" ++ name)) = .ok (q ++ [name]) := by
    rw [Path.pieces_append_slash_append, Path.pieces_of_name hname.slash_notMem, follow_append, hs]
    exact hlast
  rw [locate] at hlocate
  have hs : ¬ s.isEmpty := fun hempty => by simp [hempty] at hlocate
  have hsome : (s ++ "/" ++ name).isEmpty = false := by
    simp [String.isEmpty_eq_false_iff]
  rw [if_neg hs] at hlocate
  rw [locate, hsome, if_neg Bool.false_ne_true, startsWith_append hs]
  by_cases hlong : pathLimit ≤ (s ++ "/" ++ name).utf8ByteSize
  · rw [if_pos hlong, if_pos hlong]
  · rw [if_neg hlong, if_neg hlong]
    split_ifs at hlocate ⊢ with hroot
    · exact hfollow hlocate
    · exact hfollow hlocate

/-- A name by itself leads to its place in the directory that it is looked up from. -/
lemma locate_of_name {name : String} (hslash : '/' ∉ name.toList)
    (hname : name ≠ "" ∧ name ≠ "." ∧ name ≠ "..") (hshort : name.utf8ByteSize ≤ nameLimit)
    (h : t.get? directory = some .directory) :
    t.locate directory name = .ok (directory ++ [name]) := by
  have hroot : ¬ name.startsWith "/" := by
    rw [String.startsWith_string_iff]
    exact fun hstart => hslash (List.IsPrefix.subset hstart (by decide))
  have hpath : nameLimit < pathLimit := by decide
  rw [locate, if_neg (by simpa using hname.1), if_neg (by omega), if_neg hroot,
    Path.pieces_of_name hslash, follow, h]
  dsimp only
  rw [if_neg (not_or.mpr ⟨hname.1, hname.2.1⟩), if_neg hname.2.2, if_neg (Nat.not_lt.mpr hshort)]
  rfl

/-! ### Paths that lead nowhere -/

lemma fault_of_follow {names : List String} {fault : FileFault}
    (h : t.follow place names = .error fault) :
    fault = .missing ∨ fault = .notDirectory ∨ fault = .nameTooLong := by
  induction names generalizing place with
  | nil => cases h
  | cons name names ih =>
    rw [follow] at h
    split at h
    · cases h
      exact .inl rfl
    · cases h
      exact .inr (.inl rfl)
    · split_ifs at h
      · exact ih h
      · exact ih h
      · cases h
        exact .inr (.inr rfl)
      · exact ih h

/-- A path leads nowhere because something is missing on the way, is no directory, or has a name
that is too long. -/
lemma fault_of_find {fault : FileFault} (h : t.find directory path = .error fault) :
    fault = .missing ∨ fault = .notDirectory ∨ fault = .nameTooLong := by
  rw [find] at h
  cases hplace : t.locate directory path with
  | error fault' =>
    rw [hplace] at h
    obtain rfl : fault' = fault := Except.error.inj h
    rw [locate] at hplace
    split_ifs at hplace
    · cases hplace
      exact .inl rfl
    · cases hplace
      exact .inr (.inr rfl)
    · exact fault_of_follow hplace
    · exact fault_of_follow hplace
  | ok q =>
    rw [hplace] at h
    cases hget : t.get? q with
    | some e =>
      simp only [bind, Except.bind, hget] at h
      cases h
    | none =>
      simp only [bind, Except.bind, hget] at h
      cases h
      exact .inl rfl

/-- A name that is too long is not looked up. -/
lemma find_of_long {s : String} (hslash : '/' ∉ s.toList)
    (hlong : nameLimit < s.utf8ByteSize) (t : FileTree) {directory : Place}
    (hdirectory : t.get? directory = some .directory) :
    t.find directory s = .error .nameTooLong := by
  have hne {t : String} (ht : t.utf8ByteSize ≤ 2) : s ≠ t := by
    rintro rfl
    have : 2 < nameLimit := by decide
    omega
  have hfollow {place : Place} (hplace : t.get? place = some .directory) :
      t.follow place [s] = .error .nameTooLong := by
    rw [follow, hplace]
    dsimp only
    rw [if_neg (not_or.mpr ⟨hne (by decide), hne (by decide)⟩), if_neg (hne (by decide)),
      if_pos hlong]
  have hlocate : t.locate directory s = .error .nameTooLong := by
    rw [locate, Path.pieces_of_name hslash]
    split_ifs with hempty
    · exact absurd (String.isEmpty_iff.mp hempty) (hne (by decide))
    · rfl
    · exact hfollow t.get?_nil
    · exact hfollow hdirectory
  rw [find, hlocate]
  rfl

/-! ### Names in a directory -/

lemma mem_names_iff {name : String} :
    name ∈ t.names place ↔ ∃ e, (place ++ [name], e) ∈ t.entries := by
  rw [names, List.mem_mergeSort, List.mem_filterMap]
  constructor
  · rintro ⟨⟨p, e⟩, hmem, hname⟩
    dsimp only at hname
    split_ifs at hname with hplace
    obtain ⟨before, rfl⟩ := List.getLast?_eq_some_iff.mp hname
    rw [List.dropLast_concat] at hplace
    exact ⟨e, hplace ▸ hmem⟩
  · rintro ⟨e, hmem⟩
    exact ⟨_, hmem, by simp⟩

/-- What is at a place has a name in the directory above it. -/
lemma mem_names_of_get? {name : String} (h : t.get? (place ++ [name]) = some e) :
    name ∈ t.names place := by
  rw [get?_of_ne_nil t (by simp)] at h
  obtain ⟨before, behind, hentries, -⟩ := List.lookup_eq_some_iff.mp h
  exact mem_names_iff.mpr ⟨e, by simp [hentries]⟩

/-- Putting something at a place adds its name to the directory above it. -/
lemma mem_names_set {name : String} :
    name ∈ (t.set place e).names q ↔ place = q ++ [name] ∨ name ∈ t.names q := by
  simp only [mem_names_iff, set, List.mem_append, List.mem_filter, List.mem_singleton,
    Prod.mk.injEq, decide_eq_true_eq, ne_eq]
  constructor
  · rintro ⟨e', ⟨hmem, -⟩ | ⟨hplace, -⟩⟩
    · exact .inr ⟨e', hmem⟩
    · exact .inl hplace.symm
  · rintro (rfl | ⟨e', hmem⟩)
    · exact ⟨e, .inr ⟨rfl, rfl⟩⟩
    · by_cases hplace : q ++ [name] = place
      · exact ⟨e, .inr ⟨hplace, rfl⟩⟩
      · exact ⟨e', .inl ⟨hmem, hplace⟩⟩

/-- The path below another that a name names leads to that name in the directory that the other
leads to. -/
lemma placeOf_child {p : Path} {name : String} (hp : p.IsNormal) (hslash : '/' ∉ name.toList)
    (hlong : 2 < name.length) (directory : Place) :
    placeOf directory (p.child name).text = placeOf directory p.text ++ [name] := by
  have hne {other : String} (hother : other.length ≤ 2) : name ≠ other := by
    rintro rfl
    omega
  have hchild : (p.child name).IsNormal := by
    rw [Path.child_of_name hslash (by omega)]
    refine hp.withParts fun s hs => ?_
    rcases List.mem_append.mp hs with hs | hs
    · exact hp.of_mem hs
    · obtain rfl := List.mem_singleton.mp hs
      exact ⟨hne (by decide), hne (by decide), hslash⟩
  have hstep (place : Place) : stepTo place name = place ++ [name] := by
    rw [stepTo, if_neg (not_or.mpr ⟨hne (by decide), hne (by decide)⟩), if_neg (hne (by decide))]
  rw [placeOf_text hchild, placeOf_text hp, Path.child_of_name hslash (by omega)]
  exact List.foldl_append.trans (hstep _)

end FileTree

end VariantRepair.Host
