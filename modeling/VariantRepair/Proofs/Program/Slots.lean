import Mathlib.Logic.Equiv.Basic
import VariantRepair.Proofs.Language.Parsed
import VariantRepair.Proofs.Variant.Edit

/-!
# Modules as trees with slots

A module is kept as a template with numbers and a slot for each number. The tree that it stands for
is the tree that was read, with the `k`-th of the simple statements behind the header replaced by
what the `k`-th slot holds; edits change what the slots hold and nothing else.
-/

namespace VariantRepair

open VariantRepair.Language

/-! ### Slots by their numbers -/

/-- What an edit does to the contents of slots: a deleted slot becomes empty, what one slot holds is
put behind what another one holds, and two slots exchange what they hold. -/
def Edit.onSlots (S : Nat → List Simple) : Edit → Nat → List Simple
  | .delete a => Function.update S a.toNat []
  | .append d s => Function.update S d.toNat (S d.toNat ++ S s.toNat)
  | .swap a b => S ∘ Equiv.swap a.toNat b.toNat

/-- The contents of slots after edits made in turn. -/
def slotsAfter (S : Nat → List Simple) (es : List Edit) : Nat → List Simple :=
  es.foldl Edit.onSlots S

/-- Slots from one on that hold a statement each. -/
def ownSlots (statements : List Simple) : Nat → List Simple
  | 0 => []
  | k + 1 => statements[k]?.toList

namespace Program.SlotModule

variable {m : SlotModule}

lemma slot_succ (k : Nat) : m.slot (k + 1) = (m.slots[k]?).getD [] := by
  rw [slot, if_neg (Nat.succ_ne_zero k), Nat.add_sub_cancel, List.getD_eq_getElem?_getD]

/-- Changing the content of a slot changes what stands at its number. -/
lemma slot_set {i : Nat} (hi : i < m.slots.length) (content : List Simple) :
    slot { m with slots := m.slots.set i content } = Function.update m.slot (i + 1) content := by
  funext k
  cases k with
  | zero => rfl
  | succ k =>
    rw [slot_succ, List.getElem?_set]
    by_cases hik : i = k
    · subst hik
      rw [if_pos rfl, if_pos hi, Function.update_self, Option.getD_some]
    · rw [if_neg hik, Function.update_of_ne (by omega), slot_succ]

lemma slot_delete {i : Nat} (hi : i < m.size) :
    (m.delete (i + 1)).slot = Function.update m.slot (i + 1) [] :=
  slot_set hi []

lemma slot_append {d : Nat} (hd : d < m.size) (s : Nat) :
    (m.append (d + 1) s).slot = Function.update m.slot (d + 1) (m.slot (d + 1) ++ m.slot s) :=
  slot_set hd _

lemma slot_swap {a b : Nat} (ha : a < m.size) (hb : b < m.size) :
    (m.swap (a + 1) (b + 1)).slot = m.slot ∘ Equiv.swap (a + 1) (b + 1) := by
  have hfirst : slot { m with slots := m.slots.set a (m.slot (b + 1)) }
      = Function.update m.slot (a + 1) (m.slot (b + 1)) := slot_set ha _
  have hsecond : (m.swap (a + 1) (b + 1)).slot
      = Function.update (slot { m with slots := m.slots.set a (m.slot (b + 1)) }) (b + 1)
        (m.slot (a + 1)) :=
    slot_set (m := { m with slots := m.slots.set a (m.slot (b + 1)) })
      (by simpa [size] using hb) _
  rw [hsecond, hfirst]
  funext k
  rw [Function.comp_apply, Equiv.swap_apply_def, Function.update_apply, Function.update_apply]
  split_ifs with h₁ h₂ h₂ <;> simp_all

/-! ### Edits -/

/-- The module that an edit leaves. -/
def edited (m : SlotModule) : Edit → SlotModule
  | .delete a => m.delete a.toNat
  | .append d s => m.append d.toNat s.toNat
  | .swap a b => if a = b then m else m.swap a.toNat b.toNat

lemma program_edited (m : SlotModule) (e : Edit) :
    (Program.module m).edited e = .module (m.edited e) := by
  cases e with
  | delete a => rfl
  | append d s => rfl
  | swap a b =>
    rw [Program.edited, edited]
    split_ifs <;> rfl

/-- Two modules that differ in what their slots hold and in nothing else. -/
structure SameFrame (m m' : SlotModule) : Prop where
  header_eq : m'.header = m.header
  template_eq : m'.template = m.template
  size_eq : m'.size = m.size

lemma SameFrame.refl (m : SlotModule) : m.SameFrame m := ⟨rfl, rfl, rfl⟩

lemma SameFrame.trans {m₁ m₂ m₃ : SlotModule} (h₁ : m₁.SameFrame m₂) (h₂ : m₂.SameFrame m₃) :
    m₁.SameFrame m₃ :=
  ⟨h₂.header_eq.trans h₁.header_eq, h₂.template_eq.trans h₁.template_eq,
    h₂.size_eq.trans h₁.size_eq⟩

lemma sameFrame_edited (m : SlotModule) (e : Edit) : m.SameFrame (m.edited e) := by
  cases e with
  | delete a => exact ⟨rfl, rfl, by simp [edited, delete, size]⟩
  | append d s => exact ⟨rfl, rfl, by simp [edited, append, size]⟩
  | swap a b =>
    rw [edited]
    split_ifs
    · exact .refl m
    · exact ⟨rfl, rfl, by simp [swap, size]⟩

/-- An edit whose atoms exist acts on what the slots hold. -/
lemma slot_edited {e : Edit} (h : e.Fits m.size) : (m.edited e).slot = e.onSlots m.slot := by
  cases e with
  | delete a =>
    obtain ⟨k, rfl, hk⟩ := exists_position (Edit.fits_delete.mp h)
    exact slot_delete hk
  | append d s =>
    obtain ⟨hd, -⟩ := Edit.fits_append.mp h
    obtain ⟨k, rfl, hk⟩ := exists_position hd
    exact slot_append hk s.toNat
  | swap a b =>
    obtain ⟨ha, hb⟩ := Edit.fits_swap.mp h
    obtain ⟨i, rfl, hi⟩ := exists_position ha
    obtain ⟨j, rfl, hj⟩ := exists_position hb
    rw [edited, Edit.onSlots]
    split_ifs with hij
    · rw [hij, Equiv.swap_self]
      rfl
    · exact slot_swap hi hj

/-- A run of edits acts on what the slots hold, edit by edit. -/
lemma run_edits (untouched : Float) {v : Variant Float} {m : SlotModule} {es : List Edit}
    (hv : v.program = .module m) (hes : ∀ e ∈ es, e.Fits m.size) :
    ∃ v' m', (Altered.applyAll untouched es).run (.ofVariant v) = (.ok (), .ofVariant v') ∧
      v'.program = .module m' ∧ m.SameFrame m' ∧ m'.slot = slotsAfter m.slot es := by
  induction es generalizing v m with
  | nil => exact ⟨v, m, rfl, hv, .refl m, rfl⟩
  | cons e es ih =>
    have he : e.Fits m.size := hes e List.mem_cons_self
    have hframe := m.sameFrame_edited e
    have hv' : (v.edited untouched e).program = .module (m.edited e) := by
      rw [Variant.edited, hv, program_edited]
    obtain ⟨v', m', hrun, hp, hframe', hslot⟩ := ih hv' fun e' he' => by
      rw [hframe.size_eq]
      exact hes e' (List.mem_cons_of_mem e he')
    refine ⟨v', m', ?_, hp, hframe.trans hframe', ?_⟩
    · rw [Altered.run_applyAll_cons (by rwa [Variant.size, hv]), hrun]
    · rw [hslot, slot_edited he]
      rfl

/-! ### The header -/

/-- An import of a future feature. -/
def IsFuture (s : Simple) : Prop :=
  ∃ names level, s = .importFrom (some "__future__") names level

/-- A string that stands alone. -/
def IsText (s : Simple) : Prop :=
  ∃ points marked, s = .expr (.constant (.str points marked))

/-- The statements that stay first; `isFirst` says that nothing comes before. -/
def StaysFirst (isFirst : Bool) (s : Simple) : Prop :=
  IsFuture s ∨ isFirst ∧ IsText s

lemma isHeader_eq_true_iff {isFirst : Bool} {s : Simple} :
    isHeader isFirst s = true ↔ StaysFirst isFirst s := by
  cases s with
  | importFrom module names level => simp [isHeader, StaysFirst, IsFuture, IsText]
  | expr e =>
    cases e with
    | constant c =>
      cases c <;> simp [isHeader, StaysFirst, IsFuture, IsText, Simple.documentation?]
    | _ => simp [isHeader, StaysFirst, IsFuture, IsText, Simple.documentation?]
  | _ => simp [isHeader, StaysFirst, IsFuture, IsText, Simple.documentation?]

/-- The header of a module and the statements behind it: it goes on for as long as the statements
are such that they stay first. -/
inductive HasHeader :
    Bool → List (Stmt Located) → List Located → List (Stmt Located) → Prop
  | stop {isFirst : Bool} {rest : List (Stmt Located)}
      (h : ∀ s, rest.head? = some (.leaf s) → ¬ StaysFirst isFirst s.statement) :
      HasHeader isFirst rest [] rest
  | next {isFirst : Bool} {s : Located} {ss rest : List (Stmt Located)} {header : List Located}
      (hs : StaysFirst isFirst s.statement) (h : HasHeader false ss header rest) :
      HasHeader isFirst (.leaf s :: ss) (s :: header) rest

namespace HasHeader

variable {isFirst : Bool} {ss rest rest' : List (Stmt Located)} {header header' : List Located}

lemma whole (h : HasHeader isFirst ss header rest) : ss = header.map .leaf ++ rest := by
  induction h with
  | stop => rfl
  | next hs h ih => rw [ih, List.map_cons, List.cons_append]

lemma unique (h : HasHeader isFirst ss header rest) (h' : HasHeader isFirst ss header' rest') :
    header = header' ∧ rest = rest' := by
  induction h generalizing header' with
  | stop hstop =>
    cases h' with
    | stop => exact ⟨rfl, rfl⟩
    | next hs => exact absurd hs (hstop _ rfl)
  | next hs h ih =>
    cases h' with
    | stop hstop => exact absurd hs (hstop _ rfl)
    | next hs' h' =>
      obtain ⟨rfl, rfl⟩ := ih h'
      exact ⟨rfl, rfl⟩

end HasHeader

/-- The header that is split off a module is its header. -/
lemma exists_hasHeader (isFirst : Bool) (ss : List (Stmt Located)) :
    ∃ header, HasHeader isFirst ss header (splitHeader isFirst ss).2 ∧
      (splitHeader isFirst ss).1 = header.map (·.statement) := by
  fun_induction splitHeader isFirst ss with
  | case1 isFirst s ss hs header rest hsplit ih =>
    obtain ⟨located, hlocated, hheader⟩ := ih
    rw [hsplit] at hlocated hheader
    exact ⟨s :: located, .next (isHeader_eq_true_iff.mp hs) hlocated, by
      rw [List.map_cons, ← hheader]⟩
  | case2 isFirst s ss hs =>
    refine ⟨[], .stop ?_, rfl⟩
    rintro _ ⟨⟩
    exact fun h => hs (isHeader_eq_true_iff.mpr h)
  | case3 isFirst ss hss =>
    refine ⟨[], .stop fun s hs => ?_, rfl⟩
    obtain ⟨tail, rfl⟩ := List.head?_eq_some_iff.mp hs
    exact absurd rfl (hss s tail)

/-! ### Trees -/

/-- Before any edit, the slots hold the statements that were read. -/
lemma slot_ofStatements (statements : List (Stmt Located)) :
    (ofStatements statements).slot
      = ownSlots ((blockLeaves (splitHeader true statements).2).map (·.statement)) := by
  funext k
  cases k with
  | zero => rfl
  | succ k =>
    rw [slot_succ, ofStatements, ownSlots, List.getElem?_map, List.getElem?_map]
    cases (blockLeaves (splitHeader true statements).2)[k]? <;> rfl

lemma size_ofStatements (statements : List (Stmt Located)) :
    (ofStatements statements).size = (blockLeaves (splitHeader true statements).2).length :=
  List.length_map _

/-- The statements that were read are the contents of their own slots. -/
lemma holdsFrom_ownSlots (ss : List Located) :
    HoldsFrom (ownSlots (ss.map (·.statement))) (fun s => [s.statement]) 1 ss := by
  intro i s hi
  rw [Nat.add_comm, ownSlots, List.getElem?_map, hi]
  rfl

/-- Putting every statement back into its place gives the tree that was read. -/
lemma replaceBlock_ownSlots (ss : List (Stmt Located)) :
    (replaceBlock (ownSlots ((blockLeaves ss).map (·.statement))) 1 ss).1
      = mapBlock (·.statement) ss := by
  rw [replaceBlock_eq, expandBlock_number ss (holdsFrom_ownSlots _), expandBlock_singleton]

/-! ### Numbers as statements -/

/-- The name of the function that stands for the statements of a slot. -/
def placeholderName : String := "__repair_atom__"

/-- A number as a statement: a call with the number as its argument. -/
def placeholder (k : Nat) : Simple :=
  .expr (.call (.name placeholderName) [.constant (.int k)] [])

/-- The number that a statement is, by its shape alone; a truth value counts as a number. -/
def placeholderNumber? : Simple → Option Nat
  | .expr (.call (.name id) [.constant c] _) =>
    if id = placeholderName then
      match c with
      | .int k => some k
      | .true => some 1
      | .false => some 0
      | _ => none
    else none
  | _ => none

/-- What a statement is replaced by when numbers are told by their shape. -/
def byShape (S : Nat → List Simple) (s : Simple) : List Simple :=
  match placeholderNumber? s with
  | some k => S k
  | none => [s]

/-- A template whose numbers are calls is expanded as one whose numbers are numbers: what the slots
hold is not looked at, even where it has the shape of a number. -/
lemma expandBlock_byShape (S : Nat → List Simple) (template : List (Stmt Nat)) :
    expandBlock (byShape S) (mapBlock placeholder template) = expandBlock S template := by
  have hshape : byShape S ∘ placeholder = S := by
    funext k
    simp [byShape, placeholder, placeholderNumber?]
  rw [expandBlock_map, hshape]

/-- Edits change neither the header nor the template of a module that was read. -/
lemma SameFrame.eq_of_hasHeader {statements rest : List (Stmt Located)} {header : List Located}
    (hframe : (ofStatements statements).SameFrame m) (h : HasHeader true statements header rest) :
    m.header = header.map (·.statement) ∧ m.template = numberBlock 1 rest := by
  obtain ⟨header', hheader', hsplit⟩ := exists_hasHeader true statements
  obtain ⟨rfl, rfl⟩ := h.unique hheader'
  exact ⟨hframe.header_eq.trans hsplit, hframe.template_eq⟩

/-- The tree of a module that was read and edited since. -/
lemma tree_eq {statements rest : List (Stmt Located)} {header : List Located}
    {S : Nat → List Simple} (hheader : HasHeader true statements header rest)
    (hframe : (ofStatements statements).SameFrame m) (hslot : m.slot = S) :
    m.tree = header.map (fun s => .leaf s.statement) ++ fillBlock (replaceBlock S 1 rest).1 := by
  obtain ⟨hm, ht⟩ := hframe.eq_of_hasHeader hheader
  rw [tree, hm, ht, hslot, replaceBlock_eq, List.map_map]
  rfl

end Program.SlotModule

open Program.SlotModule in
/-- Edits on a module act on the statements that stand in its slots. Behind the header, which never
changes, the `k`-th simple statement of the text is replaced by what the `k`-th slot holds, and
bodies that are left empty are filled; the number of atoms stays that of those statements. Without
edits the tree is the one that was read. -/
theorem edits_act_on_slots (text : String) (statements : List (Stmt Located)) (untouched : Float)
    (hread : readModule text = .ok statements) :
    ∃ header rest, HasHeader true statements header rest ∧
      ∀ es : List Edit, (∀ e ∈ es, e.Fits (blockLeaves rest).length) →
      ∃ a m S, (do
          Altered.readText text
          Altered.applyAll untouched es : Altered.Alteration Unit).run
          (.ofVariant (.empty .python)) = (.ok (), a) ∧
        S = slotsAfter (ownSlots ((blockLeaves rest).map (·.statement))) es ∧
        a.variant.program = .module m ∧
        m.tree = header.map (fun s => .leaf s.statement) ++ fillBlock (replaceBlock S 1 rest).1 ∧
        a.text = (treeText m.tree).mapError .ofPrinting ∧
        a.size = .ok (blockLeaves rest).length ∧
        (replaceBlock S 1 rest).2 = (blockLeaves rest).length + 1 ∧
        expandBlock (byShape S) (mapBlock placeholder m.template) = (replaceBlock S 1 rest).1 ∧
        (es = [] → m.tree = mapBlock (·.statement) statements) := by
  obtain ⟨header, hheader, -⟩ := exists_hasHeader true statements
  refine ⟨header, (splitHeader true statements).2, hheader, fun es hes => ?_⟩
  let v : Variant Float := (Variant.empty .python).restart (.module (ofStatements statements))
  have hload : (Variant.empty .python).readText text = .ok v := by
    change ((((readModule text).map ofStatements).map Program.module).mapError
      Failure.ofSource).map _ = _
    rw [hread]
    rfl
  obtain ⟨v', m, hrun, hp, hframe, hslot⟩ :=
    run_edits untouched (v := v) rfl (by rwa [size_ofStatements])
  rw [slot_ofStatements] at hslot
  have htree := tree_eq hheader hframe hslot
  refine ⟨.ofVariant v', m, _, ?_, rfl, hp, htree, ?_, ?_, ?_, ?_, ?_⟩
  · have hrunLoad := Altered.run_readText text (.empty .python)
    rw [hload, Altered.settled] at hrunLoad
    rw [run_bind_of_ok hrunLoad, hrun]
  · rw [Altered.text_ofVariant, hp]
    rfl
  · rw [Altered.size_ofVariant, Variant.size, hp, Program.size, hframe.size_eq, size_ofStatements]
  · rw [replaceBlock_eq, Nat.add_comm]
  · rw [hframe.template_eq, replaceBlock_eq]
    exact expandBlock_byShape _ _
  · rintro rfl
    have hfull : FullBlock (splitHeader true statements).2 := by
      have hall := fullBlock_of_readModule hread
      rw [hheader.whole] at hall
      exact (fullBlock_append.mp hall).2
    rw [htree, slotsAfter, List.foldl_nil, replaceBlock_ownSlots,
      fillBlock_of_full ((fullBlock_map _).mpr hfull)]
    conv_rhs => rw [hheader.whole, mapBlock_append, mapBlock_map_leaf]

open Program.SlotModule in
/-- A statement of the text may look like a number of the template: it is copied behind another one,
its own slot is emptied and the body around it filled. -/
theorem edits_act_on_slots_try :
    ∃ a, (do
        Altered.readText "\"d\"\ntry:\n  f(1)\nexcept E:\n  __repair_atom__(3)\nfinally:\n  g()\n"
        Altered.applyAll 0 [.append 1 2, .delete 2, .swap 3 1] : Altered.Alteration Unit).run
        (.ofVariant (.empty .python)) = (.ok (), a) ∧
      a.size = .ok 3 ∧
      a.text = .ok ("\"\"\"d\"\"\"\ntry:\n    g()\nexcept E:\n    pass\nfinally:\n    f(1)\n" ++
        "    __repair_atom__(3)\n") := by
  have hread := readModule_of_isSome
    "\"d\"\ntry:\n  f(1)\nexcept E:\n  __repair_atom__(3)\nfinally:\n  g()\n"
    (by simp) (by decide +kernel)
  generalize hss : Option.getD _ _ = ss at hread
  obtain ⟨header, rest, hheader, hedits⟩ := edits_act_on_slots _ ss 0 hread
  obtain ⟨header', hheader', hsplit⟩ := exists_hasHeader true ss
  obtain ⟨rfl, rfl⟩ := hheader.unique hheader'
  have hlen : (blockLeaves (splitHeader true ss).2).length = 3 := by
    subst hss
    decide +kernel
  obtain ⟨a, m, S, hrun, rfl, -, htree, htext, hsize, -⟩ :=
    hedits [.append 1 2, .delete 2, .swap 3 1] (by rw [hlen]; decide)
  have hleaves : header.map (fun s => Stmt.leaf s.statement)
      = (splitHeader true ss).1.map .leaf := by
    rw [hsplit, List.map_map]
    rfl
  refine ⟨a, hrun, by rw [hsize, hlen], ?_⟩
  rw [htext, htree, hleaves]
  subst hss
  decide +kernel

end VariantRepair
