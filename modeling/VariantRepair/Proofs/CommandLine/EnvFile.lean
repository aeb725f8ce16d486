import Mathlib.Tactic.Common
import VariantRepair.Proofs.CommandLine.Precedence
import VariantRepair.Proofs.Config.Assignments

/-!
# Loading variables from a file

A file of assignments is loaded line by line. Variables that are set are kept, or replaced if that
is asked for; so it is the first or the last assignment to a name that counts, and loading the file
again changes nothing.
-/

namespace VariantRepair.CommandLine

open Host

variable {m : Machine} {path text : String}

/-- Assignments without NUL characters are all made. -/
lemma run_assignments (override : Bool) {ps : List (String × String)}
    (h : ∀ p ∈ ps, '\x00' ∉ p.1.toList ∧ '\x00' ∉ p.2.toList) (m : Machine) :
    (ps.forM fun (n, value) => do
      if override || ((← get).environment.lookup n).isNone then setVariable n value :
        Action PUnit).run m
      = (.ok ⟨⟩, { m with environment := m.environment.assignAll override ps }) := by
  induction ps generalizing m with
  | nil => rfl
  | cons p ps ih =>
    obtain ⟨⟨hname, hvalue⟩, hps⟩ := List.forall_mem_cons.mp h
    have hset : (setVariable p.1 p.2).run m
        = (.ok (), { m with environment := m.environment.set p.1 p.2 }) := by
      rw [setVariable, run_bind_of_ok (run_checkText hname m),
        run_bind_of_ok (run_checkText hvalue m)]
      rfl
    have hfirst : (do
        if override || ((← get).environment.lookup p.1).isNone then setVariable p.1 p.2 :
          Action PUnit).run m
        = (.ok ⟨⟩, { m with environment := m.environment.assign override p }) := by
      rw [run_bind_of_ok (run_get m), Config.Environment.assign]
      split_ifs
      · exact hset
      · rfl
    exact (run_bind_of_ok hfirst _).trans (ih hps _)

/-- A text is in its file whatever the variables are. -/
lemma hasText_withEnvironment (h : m.HasText path text) (env : Config.Environment) :
    ({ m with environment := env } : Machine).HasText path text :=
  ⟨h.nul, h.find⟩

lemma run_isFile_of_hasText (h : m.HasText path text) : (isFile path).run m = (.ok true, m) := by
  obtain ⟨place, hfind⟩ := h.find
  have hlook : (look path).run m = (.ok (some (.file (.ofText text))), m) := by
    rw [look, if_neg (by simpa using h.nul), run_bind_of_ok (run_get m), hfind]
    rfl
  rw [isFile, run_bind_of_ok hlook]
  rfl

/-- A file of assignments is loaded, whichever characters end its lines. -/
lemma run_loadEnvironment {said : List (Option (String × String))} (override : Bool)
    (hsaid : List.Forall₂ Config.SaysAssignment (Text.lines text) said) (hpath : path ≠ "")
    (htext : m.HasText (Path.ofText path).text text) :
    (loadEnvironment path override).run m = (.ok !said.reduceOption.isEmpty,
      { m with environment := m.environment.assignAll override said.reduceOption }) := by
  have hisEmpty : path.isEmpty = false := by
    rw [Bool.eq_false_iff, ne_eq, String.isEmpty_iff]
    exact hpath
  have hassignments : Config.assignments (Text.asRead text) = said.reduceOption :=
    Config.assignments_of_says (by rwa [Text.lines_asRead])
  rw [loadEnvironment, run_bind_of_ok (run_isFile_of_hasText htext), hisEmpty,
    Bool.not_true, Bool.or_false, if_neg Bool.false_ne_true,
    run_bind_of_ok htext.run_readText, hassignments]
  exact run_bind_of_ok (run_assignments override (Config.no_nul_of_says hsaid) m) _

/-- A file whose lines are blank, comments, or assignments of quoted texts is loaded. Without
`override` the variables that are set are kept, and any other one is given the text of the first
assignment to it; with `override` each variable is given the text of the last assignment to it. No
other variable changes, nothing but variables does, and loading the file again changes nothing. A
line feed behind each line makes a file with these lines, and they may be ended in other ways. -/
theorem loading_assigns {ls : List String} {said : List (Option (String × String))}
    (h : List.Forall₂ Config.SaysAssignment ls said) :
    Text.lines (Program.Lines.text ls) = ls ∧
      ∀ (text path : String) (m : Machine) (override : Bool), Text.lines text = ls → path ≠ "" →
        m.HasText (Path.ofText path).text text →
        ∃ m', (loadEnvironment path override).run m = (.ok !said.reduceOption.isEmpty, m') ∧
          m' = { m with environment := m'.environment } ∧
          (override = false → ∀ name, m'.environment.lookup name
            = (m.environment.lookup name).or (said.reduceOption.lookup name)) ∧
          (override = true → ∀ name, m'.environment.lookup name
            = (said.reduceOption.reverse.lookup name).or (m.environment.lookup name)) ∧
          (loadEnvironment path override).run m' = (.ok !said.reduceOption.isEmpty, m') := by
  refine ⟨Text.lines_text (Config.isLine_of_says h), ?_⟩
  intro text path m override hlines hpath htext
  refine ⟨_, run_loadEnvironment override (hlines ▸ h) hpath htext, rfl, ?_, ?_, ?_⟩
  · rintro rfl name
    exact Config.Environment.lookup_assignAll_false _ _ name
  · rintro rfl name
    rw [Config.Environment.assignAll_true, lookup_putAll]
  · have hagain := run_loadEnvironment override (hlines ▸ h) hpath
      (hasText_withEnvironment htext (m.environment.assignAll override said.reduceOption))
    rwa [Config.Environment.assignAll_assignAll] at hagain

/-- Quotes of both kinds, an equality sign and blanks in a text, an empty text, and two assignments
to one name: without `override` the first of them counts and `B` keeps its value, with `override`
the last one counts and `B` is replaced. -/
theorem loading_assigns_quotes :
    List.Forall₂ Config.SaysAssignment
      ["# c", " ", "export A='x = \"y\" # z '", "B=\"it's\"", "A=''"]
      [none, none, some ("A", "x = \"y\" # z "), some ("B", "it's"), some ("A", "")] ∧
    ∃ m m₁ m₂ : Machine, m.environment = [("B", "old"), ("D", "kept")] ∧
      (loadEnvironment "f" false).run m = (.ok true, m₁) ∧
      (loadEnvironment "f" true).run m = (.ok true, m₂) ∧
      ["A", "B", "C", "D"].map (fun name => m₁.environment.lookup name)
        = [some "x = \"y\" # z ", some "old", none, some "kept"] ∧
      ["A", "B", "C", "D"].map (fun name => m₂.environment.lookup name)
        = [some "", some "it's", none, some "kept"] := by
  have hname (name : String) (h : name = "A" ∨ name = "B") : Config.IsName name := by
    obtain rfl | rfl := h <;>
      exact ⟨by decide, by decide, by decide, by decide, by decide +kernel, by decide, by decide⟩
  have hread : List.Forall₂ Config.SaysAssignment
      ["# c", " ", "export A='x = \"y\" # z '", "B=\"it's\"", "A=''"]
      [none, none, some ("A", "x = \"y\" # z "), some ("B", "it's"), some ("A", "")] := by
    refine .cons ?_ (.cons ?_ (.cons ?_ (.cons ?_ (.cons ?_ .nil))))
    · exact @Config.SaysAssignment.comment "" " c" (by decide) (by decide)
    · exact .blank (by decide)
    · exact @Config.SaysAssignment.assign "export " "A" "x = \"y\" # z " "'" (.inr rfl)
        (hname "A" (.inl rfl)) (by decide) (by decide) (.inl rfl)
    · exact @Config.SaysAssignment.assign "" "B" "it's" "\"" (.inl rfl) (hname "B" (.inr rfl))
        (by decide) (by decide) (.inr rfl)
    · exact @Config.SaysAssignment.assign "" "A" "" "'" (.inl rfl) (hname "A" (.inl rfl))
        (by decide) (by decide) (.inl rfl)
  let ls : List String := ["# c", " ", "export A='x = \"y\" # z '", "B=\"it's\"", "A=''"]
  let m : Machine :=
    { Machine.ofText (Program.Lines.text ls) with environment := [("B", "old"), ("D", "kept")] }
  have htext : m.HasText (Path.ofText "f").text (Program.Lines.text ls) :=
    hasText_withEnvironment (Machine.hasText_ofText _) _
  obtain ⟨hlines, hload⟩ := loading_assigns hread
  obtain ⟨m₁, hrun₁, -, hkept, -, -⟩ := hload _ "f" m false hlines (by decide) htext
  obtain ⟨m₂, hrun₂, -, -, hreplaced, -⟩ := hload _ "f" m true hlines (by decide) htext
  refine ⟨hread, m, m₁, m₂, rfl, hrun₁, hrun₂, ?_, ?_⟩
  · rw [funext (hkept rfl)]
    decide +kernel
  · rw [funext (hreplaced rfl)]
    decide +kernel

end VariantRepair.CommandLine
