import PacketFilter.Command.Basic

/-!
# Reading command lines

A command line is read in two levels of one form each: the program's own options and the name of a
command, then the options and values of that command. Options may be long or short; short ones may
be written together, and a value may follow its option in the same word or in the next. After `--`
everything is a value. Options that every command has may stand in either level, and the later
level wins.

A value is checked once it is complete, that is when the next argument is recognised or the level
ends. Until then, a later argument that is not recognised is what is reported.
-/

namespace PacketFilter.Arguments

/-! ## Forms -/

/-- What an argument takes. -/
inductive Shape where
  | flag
  | text
  /-- A text that is not empty. -/
  | path
  | word (choices : List Text)
  deriving DecidableEq, Repr

/-- Whether a value is one that an argument takes. -/
def Shape.accepts : Shape → Text → Bool
  | flag, _ => false
  | text, _ => true
  | path, v => v ≠ []
  | word choices, v => choices.contains v

structure Argument where
  /-- The long name of an option. -/
  name : Text
  letter : Option Char := none
  shape : Shape
  /-- It can be given any number of times. -/
  many : Bool := false
  deriving DecidableEq, Repr

/-- What one level of a command line may hold. -/
structure Form where
  /-- The program's name at this level. -/
  program : Text
  options : List Argument := []
  /-- The arguments that are recognised by their place. -/
  places : List Argument := []
  /-- The names of commands. -/
  commands : List Text := []

def commonOptions : List Argument :=
  [⟨"config", some 'c', .path, false⟩, ⟨"quiet", some 'q', .flag, false⟩,
    ⟨"verbose", some 'v', .flag, false⟩]

/-- The form of the program's own level. -/
def mainForm : Form where
  program := programName
  commands := ["make-rules", "render", "generate", "scan", "wtmp", "version"]

def formOf (command : Text) : Form :=
  let form : Form := { program := programName ++ "-" ++ command }
  if command = "make-rules" then
    { form with places :=
        [⟨"action", none, .word ["create", "clean"], false⟩, ⟨"output_dir", none, .path, false⟩,
          ⟨"services_file", none, .path, false⟩] }
  else if command = "render" then
    { form with
      options :=
        [⟨"direction", some 'd', .word ["incoming", "outgoing"], false⟩,
          ⟨"address", some 'a', .text, false⟩, ⟨"device", none, .text, false⟩,
          ⟨"json", none, .flag, false⟩]
      places := [⟨"identifier", none, .text, false⟩] }
  else if command = "generate" then
    { form with options := [⟨"base-dir", none, .path, false⟩] }
  else if command = "scan" then
    { form with
      options := [⟨"patterns", some 'p', .path, false⟩, ⟨"json", none, .flag, false⟩]
      places := [⟨"logs", none, .path, true⟩] }
  else if command = "wtmp" then
    { form with
      options := [⟨"json", none, .flag, false⟩, ⟨"whitelist", none, .flag, false⟩]
      places := [⟨"file", none, .path, false⟩] }
  else form

/-! ## Reading a level -/

/-- An argument whose values are being collected. -/
structure Pending where
  argument : Argument
  values : List Text
  /-- The next word is its value. -/
  awaiting : Bool
  deriving DecidableEq, Repr

/-- What has been read of a level. -/
structure Reading where
  /-- The values of arguments, in the order in which they were given. -/
  given : List (Text × List Text) := []
  pending : Option Pending := none
  /-- The number of places that are taken. -/
  taken : Nat := 0
  /-- Everything from here on is a value. -/
  literal : Bool := false
  deriving DecidableEq, Repr

namespace Reading

def has (r : Reading) (name : Text) : Bool := r.given.any (·.1 = name)

def valuesOf (r : Reading) (name : Text) : List Text :=
  (r.given.filter (·.1 = name)).flatMap Prod.snd

/-- The last value of an argument. -/
def value? (r : Reading) (name : Text) : Option Text := (r.valuesOf name).getLast?

/-- The reading with an argument given its values, which are checked. -/
def accept (r : Reading) (a : Argument) (values : List Text) : Except UsageError Reading :=
  if a.shape ≠ .flag ∧ values = [] then .error .badValue
  else if r.has a.name ∧ !a.many then .error .conflict
  else if !values.all a.shape.accepts then .error .badValue
  else .ok { r with given := r.given ++ [(a.name, values)] }

/-- The reading with the argument whose values were being collected. -/
def settle (r : Reading) : Except UsageError Reading :=
  match r.pending with
  | none => .ok r
  | some p => { r with pending := none }.accept p.argument p.values

/-- Whether the next word is the value of an option. -/
def isAwaiting (r : Reading) : Bool := r.pending.any Pending.awaiting

/-- An option that takes a value, which may be in the same word. -/
def option (r : Reading) (a : Argument) (value : Option Text) : Except UsageError Reading := do
  let r ← r.settle
  match value with
  | some v => r.accept a [v]
  | none => return { r with pending := some ⟨a, [], true⟩ }

/-- A word that is a value by its place. -/
def place (f : Form) (r : Reading) (word : Text) : Except UsageError Reading :=
  match f.places[r.taken]? with
  | none =>
    if f.commands ≠ [] ∧ !(r.literal ∧ (f.commands.contains word ∨ word = "help".toList)) then
      .error .unknownCommand
    else .error .unknownArgument
  | some a =>
    match r.pending with
    | some p =>
      if p.argument = a ∧ a.many then
        .ok { r with pending := some { p with values := p.values ++ [word] } }
      else start a
    | none => start a
where
  start (a : Argument) : Except UsageError Reading := do
    let r ← r.settle
    let taken := if a.many then r.taken else r.taken + 1
    return { r with pending := some ⟨a, [word], false⟩, taken := taken }

/-- A word that starts with two hyphens, without them. -/
def long (f : Form) (r : Reading) (word : Text) : Except UsageError Reading :=
  let (name, value) :=
    match Text.cut? '=' word with
    | some (name, value) => (name, some value)
    | none => (word, none)
  if name = "help".toList ∨ name = "version".toList then
    if value.isSome then .error .needlessValue
    else do
      let _ ← r.settle
      .error (if name = "help".toList then .wantsHelp else .wantsVersion f.program)
  else
    match (commonOptions ++ f.options).find? (·.name = name) with
    | none => .error .unknownArgument
    | some a =>
      if a.shape ≠ .flag then r.option a value
      else if value.isSome then .error .needlessValue
      else do (← r.settle).accept a []

/-- The letters of a word that starts with one hyphen. -/
def short (f : Form) (r : Reading) : Text → Except UsageError Reading
  | [] => .ok r
  | c :: cs =>
    if c = 'h' ∨ c = 'V' then do
      let _ ← r.settle
      .error (if c = 'h' then .wantsHelp else .wantsVersion f.program)
    else
      match (commonOptions ++ f.options).find? (·.letter = some c) with
      | none => .error .unknownArgument
      | some a =>
        if a.shape = .flag then
          match r.settle.bind (·.accept a []) with
          | .ok r => short f r cs
          | .error e => .error e
        else
          r.option a (match cs with
            | [] => none
            | '=' :: value => some value
            | value => some value)

def word (f : Form) (r : Reading) (w : Text) : Except UsageError Reading :=
  if r.literal then r.place f w
  else
    match w with
    | ['-', '-'] => .ok { r with literal := true }
    | '-' :: '-' :: rest => r.long f rest
    | '-' :: c :: rest => r.short f (c :: rest)
    | _ =>
      match r.pending with
      | some p =>
        if p.awaiting then .ok { r with pending := some ⟨p.argument, [w], false⟩ } else r.place f w
      | none => r.place f w

end Reading

/-- A level, up to its end or to the name of a command; then the words behind that name. -/
def readLevel (f : Form) : Reading → List Text →
    Except UsageError (Reading × Option (Text × List Text))
  | r, [] => .ok (r, none)
  | r, w :: ws =>
    if !r.literal ∧ !r.isAwaiting ∧
        (f.commands.contains w ∨ (f.commands ≠ [] ∧ w = "help".toList)) then
      .ok (r, some (w, ws))
    else
      match r.word f w with
      | .ok r => readLevel f r ws
      | .error e => .error e

/-! ## Commands -/

def commandOf (name : Text) (r : Reading) : Command :=
  if name = "make-rules" then
    .makeRules (if r.value? "action" = some "clean".toList then .clean else .create)
      ((r.value? "output_dir").getD "rule.d") ((r.value? "services_file").getD "services")
  else if name = "render" then
    .render ((r.value? "identifier").getD [])
      (if r.value? "direction" = some "outgoing".toList then .outgoing else .incoming)
      (r.value? "address") (r.value? "device") (r.has "json")
  else if name = "generate" then .generate (r.value? "base-dir")
  else if name = "scan" then .scan (r.value? "patterns") (r.has "json") (r.valuesOf "logs")
  else if name = "wtmp" then .wtmp (r.value? "file") (r.has "json") (r.has "whitelist")
  else .version

def readCommand (name : Text) (ws : List Text) : Except UsageError Reading := do
  let (r, _) ← readLevel (formOf name) {} ws
  let r ← r.settle
  if r.has "json" ∧ r.has "whitelist" then .error .conflict
  else if name = "render" ∧ !r.has "identifier" then .error .missingArgument
  else .ok r

/-- Words behind `help` have to be the name of one command. -/
def readHelp (ws : List Text) : UsageError :=
  match ws with
  | [] => .wantsHelp
  | [w] =>
    if mainForm.commands.contains w ∨ w = "help".toList then .wantsHelp else .unknownCommand
  | _ => .unknownCommand

/-- The invocation that a command line asks for. -/
def parse (ws : List Text) : Except UsageError Invocation := do
  match ← readLevel mainForm {} ws with
  | (r, none) =>
    let r ← r.settle
    .error (if r.given = [] then .givesNothing else .missingCommand)
  | (r, some (name, rest)) =>
    if name = "help" then .error (readHelp rest)
    else
      let inner ← readCommand name rest
      let r ← r.settle
      return {
        command := commandOf name inner
        settingsFile := ((inner.value? "config").or (r.value? "config")).getD Settings.defaultPath
        quiet := r.has "quiet" || inner.has "quiet"
        verbose := r.has "verbose" || inner.has "verbose" }

end PacketFilter.Arguments
