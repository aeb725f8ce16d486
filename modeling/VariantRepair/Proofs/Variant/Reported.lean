import Mathlib.Tactic.Common
import VariantRepair.Variant.Listing
import VariantRepair.Variant.Random
import VariantRepair.Proofs.Host.Reported
import VariantRepair.Proofs.Program.Rendered
import VariantRepair.Proofs.Value.Field
import VariantRepair.Proofs.Variant.History
import VariantRepair.Proofs.Variant.Refused

/-!
# Variants report their failures

A variant that has all its parts fails where it is given values that are no atoms, where it has no
text, and where it cannot choose an atom. All these failures are reported, and the variant has all
its parts afterwards.
-/

namespace VariantRepair

variable {α : Type} {E : Failure → Prop}

/-- A variant that has all its parts. -/
def Altered.IsWhole (a : Altered) : Prop := ∃ v, a = .ofVariant v

lemma Altered.isWhole_ofVariant (v : Variant Float) : (ofVariant v).IsWhole := ⟨v, rfl⟩

/-! ### Reading -/

namespace Altered

lemma reported_sourceName (a : Altered) (start : String) : Reported E (a.sourceName start) :=
  (Value.reported_written _).map _

namespace IsWhole

variable {a : Altered} (h : a.IsWhole)

include h

lemma reported_callable (operation : String) : Reported E (a.callable operation) := by
  obtain ⟨v, rfl⟩ := h
  exact .ok ()

lemma reported_provides (part asked : String) : Reported E (a.provides part asked) := by
  obtain ⟨v, rfl⟩ := h
  exact .ok ()

lemma reported_size : Reported E a.size := by
  obtain ⟨v, rfl⟩ := h
  exact .ok v.size

lemma reported_name : Reported E a.name := by
  obtain ⟨v, rfl⟩ := h
  exact .ok v.name

lemma reported_weighted : Reported E a.weighted := by
  obtain ⟨v, rfl⟩ := h
  exact .ok v.weighted

lemma reported_atomsAtLine (n : Int) : Reported E (a.atomsAtLine (.int n)) := by
  obtain ⟨v, rfl⟩ := h
  exact .of_eq_ok rfl

lemma reported_text : Reported E a.text := by
  obtain ⟨v, rfl⟩ := h
  rw [text_ofVariant]
  cases v.program with
  | lines ls => exact .ok _
  | module m => exact .mapError (fun _ => .inl rfl) _

lemma reported_probedText : Reported E a.probedText := by
  obtain ⟨v, rfl⟩ := h
  cases hp : v.program with
  | lines ls =>
    rw [Program.SlotModule.probedText_ofVariant_lines hp]
    exact .error (.inl rfl)
  | module m =>
    rw [Program.SlotModule.probedText_ofVariant hp]
    exact .mapError (fun _ => .inl rfl) _

end IsWhole

end Altered

lemma Record.Held.reported_backendText (h : Record.Held) (default : Value) :
    Reported E (h.backendText default) := Value.reported_written _

/-! ### Changes -/

namespace Edit

lemma reported_make (letter : String) (atoms : List Int) : Reported E (make letter atoms) := by
  have hkind : Reported E (checkKind letter atoms.length) := by
    rw [checkKind]
    split
    · exact .error (.inl rfl)
    · split_ifs
      · exact .ok _
      · exact .error (.inl rfl)
  refine .bind hkind fun kind _ => ?_
  split
  · exact .ok _
  · exact .ok _
  · exact .ok _
  · exact .error (.inl rfl)

lemma reported_parse (s : String) : Reported E (parse s) := by
  have hatoms (numbers : List (List Char)) : Reported E (readAtoms numbers) := by
    induction numbers with
    | nil => exact .ok _
    | cons digits rest ih =>
      rw [readAtoms]
      split
      · exact .error (.inl rfl)
      · exact ih.map _
  rw [parse]
  split
  · exact .error (.inl rfl)
  · exact .bind (hatoms _) fun _ _ => reported_make _ _

lemma reported_parseList (s : String) : Reported E (parseList s) := by
  have hwords (words : List String) : Reported E (parseWords words) := by
    induction words with
    | nil => exact .ok _
    | cons word words ih =>
      exact .bind (reported_parse word) fun _ _ => .bind ih fun _ _ => .ok _
  exact hwords _

end Edit

lemma reported_checkAtom (x : Value) (size : Int) : Reported E (checkAtom x size) := by
  have hinvalid : (invalidAtom x size).isReported = true :=
    Failure.isReported_naming fun _ => Failure.isReported_naming fun _ => rfl
  rw [checkAtom.eq_def]
  split
  · split_ifs
    · exact .ok _
    · exact .error (.inl hinvalid)
  · exact .error (.inl hinvalid)

lemma Variant.reported_attempt {W : Type} (v : Variant W) (untouched : W) (t : Attempt) :
    Reported E (v.attempt untouched t) := by
  cases t with
  | delete x => exact .bind (reported_checkAtom _ _) fun _ _ => .ok _
  | append x y =>
    exact .bind (reported_checkAtom _ _) fun _ _ => .bind (reported_checkAtom _ _) fun _ _ => .ok _
  | swap x y =>
    refine .bind (reported_checkAtom _ _) fun _ _ => .bind (reported_checkAtom _ _) fun _ _ => ?_
    split_ifs
    · exact .ok _
    · exact .ok _

lemma Variant.reported_apply {W : Type} (v : Variant W) (untouched : W) (e : Edit) :
    Reported E (v.apply untouched e) := by
  cases e with
  | delete a => exact v.reported_attempt untouched (.delete (.int a))
  | append d s => exact v.reported_attempt untouched (.append (.int d) (.int s))
  | swap a b => exact v.reported_attempt untouched (.swap (.int a) (.int b))

namespace Altered

lemma reports_make (untouched : Float) (t : Attempt) :
    Reports IsWhole E (t.make untouched) := by
  refine ⟨?_, ?_⟩
  · rintro _ ⟨v, rfl⟩
    rw [run_make, settled_snd]
    exact isWhole_ofVariant _
  · rintro _ ⟨v, rfl⟩
    rw [run_make]
    cases hattempt : v.attempt untouched t with
    | ok v' => exact .ok ()
    | error f => exact .error (v.reported_attempt untouched t f hattempt)

lemma reports_applyAll (untouched : Float) (es : List Edit) :
    Reports IsWhole E (applyAll untouched es) := by
  induction es with
  | nil => exact .pure _
  | cons e es ih =>
    have happly : Reports IsWhole E (apply untouched e) := by
      cases e with
      | delete a => exact reports_make untouched (.delete (.int a))
      | append d s => exact reports_make untouched (.append (.int d) (.int s))
      | swap a b => exact reports_make untouched (.swap (.int a) (.int b))
    exact .bind happly fun _ => ih

lemma reports_readText (text : String) : Reports IsWhole E (readText text) := by
  refine ⟨?_, ?_⟩
  · rintro _ ⟨v, rfl⟩
    rw [run_readText, settled_snd]
    exact isWhole_ofVariant _
  · rintro _ ⟨v, rfl⟩
    rw [run_readText, Variant.readText, Program.read.eq_def]
    cases v.backend with
    | lines => exact .ok ()
    | python =>
      cases Program.SlotModule.read text with
      | ok m => exact .ok ()
      | error e => cases e <;> exact .error (.inl rfl)

lemma reports_setSuffix (suffix : String) : Reports IsWhole E (setSuffix suffix) := by
  refine ⟨?_, ?_⟩
  · rintro _ ⟨v, rfl⟩
    exact isWhole_ofVariant { v with ownSuffix := some suffix }
  · rintro _ ⟨v, rfl⟩
    exact .ok ()

lemma reports_setLocalization (l : Localization Float) :
    Reports IsWhole E (setLocalization l) := by
  refine ⟨?_, ?_⟩
  · rintro _ ⟨v, rfl⟩
    exact isWhole_ofVariant { v with localization := l }
  · rintro _ ⟨v, rfl⟩
    exact .ok ()

/-- A variant takes what the snapshot of another one holds, or it is reported that this is one of
another backend. -/
lemma reports_load (path : String) (v : Variant Float) :
    Reports IsWhole E (load path (.variant (ofVariant v))) := by
  have habsorb : Reports IsWhole E (do
      modify (·.absorbVariant (ofVariant v))
      change fun v => { v with compiled := none }) := by
    refine .bind (.modify ?_) fun _ => .modify ?_
    · rintro _ ⟨w, rfl⟩
      rw [absorbVariant_ofVariant]
      exact isWhole_ofVariant _
    · rintro _ ⟨w, rfl⟩
      exact isWhole_ofVariant { w with compiled := none }
  refine .bind_get fun a _ => ?_
  dsimp only
  split_ifs
  · exact .bind (.ofExcept (Record.Held.reported_backendText _ _)) fun _ =>
      .bind (.ofExcept (Value.reported_written _)) fun _ =>
      .bind (.throw (.inl rfl)) fun _ => habsorb
  · exact habsorb

end Altered

/-! ### Random edits -/

namespace Variant

variable {G W : Type} [Weight W] (dice : Chance.Dice G W)

lemma reported_drawAtom (entries : List (Int × W)) (g : G) :
    Reported E (drawAtom dice entries g).1 := by
  have htotal : Reported E (choiceTotal entries) := by
    rw [choiceTotal]
    dsimp only
    split_ifs
    · exact .error (.inl rfl)
    · exact .error (.inl rfl)
    · exact .ok _
  have hchoose (point : W) : Reported E (chooseAt entries point) := by
    rw [chooseAt]
    split
    · exact .ok _
    · split
      · exact .ok _
      · exact .error (.inl rfl)
  rw [drawAtom]
  split
  · next e he => exact .error (htotal e he)
  · exact (hchoose _).map _

lemma reported_drawEdit (v : Variant W) (untouched : W) (weights : W × W × W) (g : G) :
    Reported E (drawEdit dice v untouched weights g).1 := by
  have hcase (weights : List W) (g : G) : Reported E (dice.case weights g).1 := by
    rw [Chance.Dice.case]
    dsimp only
    split_ifs
    · exact .error (.inl rfl)
    · exact .error (.inl rfl)
    · exact .ok _
  have hfrom (entries : List (Int × W)) (weights : List W) :
      Reported E (drawFrom dice v.size entries weights g).1 := by
    rw [drawFrom]
    split
    · next e g' he => exact .error (reported_drawAtom dice entries g e (congrArg Prod.fst he))
    · split
      · next e g'' he => exact .error (hcase weights _ e (congrArg Prod.fst he))
      · exact .ok _
      · exact .ok _
  rw [drawEdit]
  split_ifs
  · exact .error (.inl rfl)
  · exact .error (.inl rfl)
  · exact hfrom _ _

/-- Random edits end early with a failure that is reported. -/
lemma isReported_of_drawEdits (untouched : W) (weights : W × W × W) {count : Nat}
    {v : Variant W} {g : G} {f : Failure}
    (h : (drawEdits dice untouched weights count v g).2.1 = some f) :
    f.isReported = true ∨ E f := by
  induction count generalizing v g with
  | zero => cases h
  | succ count ih =>
    rw [drawEdits] at h
    cases hdraw : drawEdit dice v untouched weights g with
    | mk r g' =>
      rw [hdraw] at h
      cases r with
      | error e =>
        obtain rfl := Option.some.inj h
        exact reported_drawEdit dice v untouched weights g e (by rw [hdraw])
      | ok edit =>
        dsimp only at h
        cases happly : v.apply untouched edit with
        | error e =>
          rw [happly] at h
          obtain rfl := Option.some.inj h
          exact v.reported_apply untouched edit e happly
        | ok v' =>
          rw [happly] at h
          exact ih h

end Variant

/-! ### The listing -/

lemma error_of_linesOf {g : α → Except Failure String} {xs : List α} {f : Failure}
    (h : (linesOf g xs).2 = some f) : ∃ x ∈ xs, g x = .error f := by
  induction xs with
  | nil => cases h
  | cons x xs ih =>
    rw [linesOf] at h
    cases hx : g x with
    | error e =>
      rw [hx] at h
      obtain rfl := Option.some.inj h
      exact ⟨x, List.mem_cons_self, hx⟩
    | ok line =>
      rw [hx] at h
      obtain ⟨y, hy, hline⟩ := ih h
      exact ⟨y, List.mem_cons_of_mem _ hy, hline⟩

namespace Altered

/-- The line of an atom with a number fails where its text cannot be written, and nowhere else. -/
lemma reported_itemLine (v : Variant Float) (untouched : Float) (item : Value × Nat) :
    Reported E ((ofVariant v).itemLine untouched item) :=
  .bind (.of_eq_ok rfl) fun _ _ => .bind (Value.reported_written _) fun _ _ => .ok _

lemma reported_placeOf {v : Variant Float} {m : Program.SlotModule} {spans : List (Value × Value)}
    (hspans : (ofVariant v).spanPairs m = .ok spans) (atom : Value) :
    Reported E ((ofVariant v).placeOf spans atom) := by
  obtain rfl := Except.ok.inj hspans
  have hpair : ∃ first last : Int, ((Value.lookup atom ((m.spans.zipIdx 1).map fun s =>
      (.int s.2, .list [.int s.1.1, .int s.1.2]))).getD (.list [.int 0, .int 0])).pair
        = .ok (.int first, .int last) := by
    rw [Value.lookup]
    cases hfind : List.find? _ _ with
    | none => exact ⟨0, 0, rfl⟩
    | some p =>
      obtain ⟨s, -, rfl⟩ := List.mem_map.mp (List.mem_of_find?_eq_some hfind)
      exact ⟨s.1.1, s.1.2, rfl⟩
  obtain ⟨first, last, hpair⟩ := hpair
  exact .bind (.of_eq_ok hpair) fun _ _ => .bind (Value.reported_written _) fun _ _ =>
    .bind (Value.reported_written _) fun _ _ => .ok _

/-- Every atom has a slot, whose text may not be one that can be written. -/
lemma reported_slotText {v : Variant Float} {m : Program.SlotModule} (hp : v.program = .module m)
    {n : Int} (hn : n ∈ atomIds m.size) : Reported E ((ofVariant v).slotText (.int n)) := by
  obtain ⟨i, hi, rfl⟩ := List.mem_map.mp hn
  have hi : i < m.slots.length := List.mem_range.mp hi
  have hslot : ((m.slots.zipIdx 1).find? fun s => (s.2 : Int) == (i : Int) + 1).isSome := by
    refine List.find?_isSome.mpr ⟨(m.slots[i], 1 + i), ?_, ?_⟩
    · exact List.mk_mem_zipIdx_iff_le_and_getElem?_sub.mpr (by simp [hi])
    · rw [beq_iff_eq]
      omega
  obtain ⟨⟨slot, k⟩, hfind⟩ := Option.isSome_iff_exists.mp hslot
  have htext : (ofVariant v).slotText (.int (i + 1))
      = (Program.SlotModule.slotText slot).mapError .ofPrinting := by
    obtain ⟨program, localization, history, ownSuffix, compiled⟩ := v
    obtain rfl : program = .module m := hp
    simp [slotText, callable, part?, ofVariant, Value.hashable, hfind, bind, Except.bind]
  rw [htext]
  exact .mapError (fun _ => .inl rfl) _

lemma reported_slotLine {v : Variant Float} {m : Program.SlotModule} {spans : List (Value × Value)}
    (hp : v.program = .module m) (hspans : (ofVariant v).spanPairs m = .ok spans)
    (untouched : Float) {n : Int} (hn : n ∈ atomIds m.size) :
    Reported E ((ofVariant v).slotLine untouched spans (.int n)) :=
  .bind (reported_placeOf hspans _) fun _ _ => .bind (reported_slotText hp hn) fun _ _ =>
    .bind (.of_eq_ok rfl) fun _ _ => .bind (Value.reported_written _) fun _ _ => .ok _

/-- A listing ends early with a failure that is reported. -/
lemma IsWhole.isReported_of_listing {a : Altered} (h : a.IsWhole) (untouched : Float)
    {f : Failure} (hlisting : (a.listing untouched).2 = some f) :
    f.isReported = true ∨ E f := by
  obtain ⟨v, rfl⟩ := h
  have hhead : ∃ head, (ofVariant v).listingHead = .ok head := ⟨_, rfl⟩
  obtain ⟨head, hhead⟩ := hhead
  rw [listing, hhead] at hlisting
  dsimp only at hlisting
  cases hp : v.program with
  | lines ls =>
    have hprogram : (ofVariant v).variant.program = .lines ls := hp
    rw [hprogram] at hlisting
    obtain ⟨item, -, hline⟩ := error_of_linesOf hlisting
    exact reported_itemLine v untouched item f hline
  | module m =>
    have hprogram : (ofVariant v).variant.program = .module m := hp
    obtain ⟨spans, hspans⟩ : ∃ spans, (ofVariant v).spanPairs m = .ok spans := ⟨_, rfl⟩
    have hatoms : (ofVariant v).slotAtoms m = .ok ((atomIds m.size).map .int) := rfl
    rw [hprogram] at hlisting
    dsimp only at hlisting
    rw [hspans, hatoms] at hlisting
    obtain ⟨atom, hatom, hline⟩ := error_of_linesOf hlisting
    obtain ⟨n, hn, rfl⟩ := List.mem_map.mp hatom
    exact reported_slotLine hp hspans untouched hn f hline

end Altered

end VariantRepair
