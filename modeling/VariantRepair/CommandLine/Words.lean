import VariantRepair.CommandLine.Options

/-!
Reading the words of a command line. An option is known by its name, by a start of its name that no
other option shares, or by one of them with an equality sign and a value behind it; behind two
hyphens no word is an option.
-/

namespace VariantRepair.CommandLine

/-- Why a command line is not understood. -/
inductive UsageError where
  | ambiguous (word : String) (matching : List String)
  | missingValue (names : List String)
  | needlessValue (names : List String) (value : String)
  | badValue (names : List String) (fault : ValueFault) (value : String)
  | unrecognized (words : List String)
deriving Repr, DecidableEq

/-- The name by which messages call the program. -/
def programName : String := "run_repair.py"

/-- What the error says, apart from the name of the program. -/
def UsageError.text : UsageError → String
  | ambiguous word matching =>
    s!"ambiguous option: {word} could match " ++ ", ".intercalate matching
  | missingValue names => argument names ++ "expected one argument"
  | needlessValue names value =>
    argument names ++ "ignored explicit argument " ++ Text.quote value
  | badValue names fault value =>
    argument names ++
      match fault with
      | .notWhole => "invalid int value: " ++ Text.quote value
      | .notReal => "invalid float value: " ++ Text.quote value
      | .notAmong choices =>
        "invalid choice: " ++ Text.quote value ++ " (choose from " ++
          ", ".intercalate (choices.map Text.quote) ++ ")"
  | unrecognized words => "unrecognized arguments: " ++ " ".intercalate words
where
  /-- The argument that a message is about. -/
  argument (names : List String) : String :=
    "argument " ++ "/".intercalate names ++ ": "

/-- What the error says. -/
def UsageError.message (e : UsageError) : String :=
  s!"{programName}: error: " ++ e.text

/-- A word of the command line, by what it can be. -/
inductive Word where
  /-- A value, or a word that belongs nowhere. -/
  | plain (s : String)
  /-- The two hyphens that end the options. -/
  | separator
  /-- A word that looks like an option but is none. -/
  | unknown (s : String)
  /-- An option, with the value behind its equality sign if there is one. -/
  | option (key : Key) (value : Option String)
  /-- The short name of the help option with something behind it. -/
  | cluster (letters : List Char)
deriving Repr, DecidableEq

/-- All names of an option. -/
def namesOf (key : Key) : List String :=
  (names.filter fun n => n.2 == key).map (·.1)

/-- What stands before the first equality sign, and what stands behind it if there is one. -/
def cutValue (s : String) : String × Option String :=
  let cs := s.toList
  let name := cs.takeWhile (· ≠ '=')
  (String.ofList name,
    match cs.drop name.length with
    | [] => none
    | _ :: value => some (String.ofList value))

/-- Does a word look like a negative number? -/
def isNegativeNumber (s : String) : Bool :=
  match s.toList with
  | '-' :: cs =>
    let cs := if cs.getLast? = some '\n' then cs.dropLast else cs
    let whole := cs.takeWhile Text.isDigit
    match cs.drop whole.length with
    | [] => !whole.isEmpty
    | '.' :: places => !places.isEmpty && places.all Text.isDigit
    | _ => false
  | _ => false

/-- A word that begins with a hyphen and is no name of an option: a start of names, a number, or
something unknown. -/
def classifyOther (s : String) : Except UsageError Word :=
  let (name, value) := cutValue s
  match names.lookup name, value with
  | some key, some v => .ok (if name = "-h" then .cluster v.toList else .option key value)
  | _, _ =>
    let matching := if s.startsWith "--" then names.filter fun n => n.1.startsWith name else []
    match matching with
    | [(_, key)] => .ok (.option key value)
    | _ :: _ :: _ => .error (.ambiguous s (matching.map (·.1)))
    | [] =>
      if s.startsWith "-h" then .ok (.cluster (s.toList.drop 2))
      else if isNegativeNumber s || s.contains ' ' then .ok (.plain s)
      else .ok (.unknown s)

/-- What a word before the separator can be. -/
def classify (s : String) : Except UsageError Word :=
  if !s.startsWith "-" || s == "-" then .ok (.plain s)
  else
    match names.lookup s with
    | some key => .ok (.option key none)
    | none => classifyOther s

/-- What the words of a command line can be. Behind the separator all of them are plain. -/
def classifyAll : List String → Except UsageError (List Word)
  | [] => .ok []
  | s :: ss =>
    if s = "--" then .ok (.separator :: ss.map .plain)
    else do
      let w ← classify s
      return w :: (← classifyAll ss)

/-- Letters behind the short name of the help option: it may be repeated, but takes no value. -/
def checkCluster (cs : List Char) : Except UsageError Unit :=
  match cs with
  | ['h'] => .ok ()
  | 'h' :: rest => checkCluster rest
  | _ => .error (.needlessValue (namesOf (.switch .help)) (String.ofList cs))

/-- What a command line comes to. -/
inductive Request where
  | help
  | run (o : Options)

/-- Take the words one by one; `extra` holds those that belong nowhere. -/
def take (o : Options) (extra : List String) : List Word → Except UsageError Request
  | [] => if extra.isEmpty then .ok (.run o) else .error (.unrecognized extra)
  | .plain s :: ws | .unknown s :: ws => take o (extra ++ [s]) ws
  | .separator :: ws => take o (extra ++ ["--"]) ws
  | .cluster cs :: _ => (checkCluster cs).map fun _ => .help
  | .option (.switch s) value :: ws =>
    match value with
    | some v => .error (.needlessValue (namesOf (.switch s)) v)
    | none => if s = .help then .ok .help else take (o.turnOn s) extra ws
  | .option (.slot s) (some v) :: ws =>
    give o extra s (if v = "--" then .nothing else .value v) v ws
  | .option (.slot s) none :: .plain v :: ws => give o extra s (.value v) v ws
  | .option (.slot s) none :: _ => .error (.missingValue (namesOf (.slot s)))
where
  /-- Give an option what the word `v` stands for and go on. -/
  give (o : Options) (extra : List String) (slot : Slot) (g : Given String) (v : String)
      (ws : List Word) : Except UsageError Request :=
    match o.put slot g with
    | .ok o => take o extra ws
    | .error fault => .error (.badValue (namesOf (.slot slot)) fault v)

/-- What the words of a command line ask for. -/
def read (words : List String) : Except UsageError Request :=
  classifyAll words >>= take .default []

end VariantRepair.CommandLine
