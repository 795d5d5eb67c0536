import PacketFilter.Command.Arguments
import PacketFilter.Generator.Lock
import PacketFilter.Json.Report
import PacketFilter.Login.Allowing
import PacketFilter.Script.Firewall
import PacketFilter.Settings.Reading
import PacketFilter.Settings.Writing

/-!
# Running commands

A command is a function of a directory tree. It prints lines or fails, and only `make-rules`
changes the tree; what that did before it failed stays done. Nothing is printed by a command that
fails.
-/

namespace PacketFilter

/-- What a command leaves behind. -/
structure Execution where
  tree : Tree
  /-- What is printed, or why the command failed. -/
  result : Except Failure Text

namespace Command

/-- Lines, each with its end. -/
def unlines (ls : List Text) : Text := ls.flatMap (· ++ "\n")

/-- The printed form of a JSON value, with the end of its last line. -/
def printJson (v : Json) : Text := v.print 0 ++ "\n"

/-- A result whose failure is that of a step. -/
def during {α : Type} (message : Text) (result : Except Error α) : Except Failure α :=
  result.mapError fun e ↦ (Failure.ofError e).within message

/-! ## Generating templates -/

/-- What is printed about a run of the generator. -/
def reportLines (action : Generator.Action) (output : Path) (r : Generator.Report) : List Text :=
  let summary : Text :=
    match action with
    | .create => "Wrote " ++ Text.decimal r.written.length ++ " rule files to " ++ output
    | .clean => "Removed " ++ Text.decimal r.removed.length ++ " rule files from " ++ output
  r.skipped.map ("Manually created file exists: ".toList ++ ·) ++ [summary]

/-- Generates templates, or removes those that were generated, under a lock, while other runs hold
those given. -/
def runMakeRules (held : List Lock) (t : Tree) (action : Generator.Action)
    (output servicesFile : Path) : Execution :=
  match during ("Failed to load services from " ++ Text.quotedPath servicesFile)
      (Registry.load t servicesFile) with
  | .error f => ⟨t, .error f⟩
  | .ok services =>
    if action = .clean ∧ !t.isDirectory output then
      ⟨t, .ok ("Nothing to clean in " ++ output ++ "\n")⟩
    else
      match Lock.acquire held t output with
      | (t, .error f) => ⟨t, .error f⟩
      | (t, .ok _) =>
        let o := Generator.run action services output t
        ⟨o.store, (o.report.mapError Failure.ofError).map fun r ↦
          unlines (reportLines action output r)⟩

/-! ## Commands that only print -/

def runRender (t : Tree) (settingsFile : Path) (name : Text) (d : Direction)
    (address device : Option Text) (json : Bool) : Except Failure Text := do
  Settings.checkAlone (Check.ruleName name)
  device.forM fun device ↦ Settings.checkAlone (Check.interface device)
  let range ← address.mapM fun a ↦ during "Invalid --address" (Range.parse a)
  let e ← (← Settings.loadOrDefault t settingsFile).loadEngine t
  let rule : Rule :=
    { identifier := e.classify name, direction := d, address := range, device := device }
  let compiled ← during ("Failed to render " ++ d.name ++ " rule " ++ name) (e.compile t rule)
  return if json then printJson compiled.toJson else unlines compiled.commands

def runGenerate (t : Tree) (settingsFile : Path) (base : Option Path) : Except Failure Text := do
  let s ← Settings.loadOrDefault t settingsFile
  let base := base.getD s.baseDir
  if !t.isDirectory base then
    .error ⟨"Firewall directory not found: " ++ base, []⟩
  else
    during ("Failed to generate firewall from " ++ Text.quotedPath base)
      (Firewall.script (← s.loadEngine t) t base)

/-- What to block according to logs. -/
def runScan (t : Tree) (settingsFile : Path) (patterns : Option Path) (json : Bool)
    (logs : List Path) : Except Failure Text := do
  let s ← Settings.loadOrDefault t settingsFile
  let patterns := patterns.getD s.patternsDir
  let files ← during ("Failed to load patterns from " ++ Text.quotedPath patterns)
    (SignatureFile.loadAll t patterns)
  let count ← (HitCount.ofLogs t files logs).mapError Failure.ofError
  let blocks := s.blocking.decide count
  if json then return printJson (Blocks.toJson blocks)
  else return unlines (s.blocking.render (← s.loadEngine t) t blocks)

def loginLine (r : Login.Record) : Text :=
  Text.joinWith " "
    [Text.padRight 12 r.user, Text.padRight 8 r.line, r.time.listing,
      if r.host = [] then ['-'] else r.host,
      match r.address with
      | some a => a.print
      | none => ['-']]

def runWtmp (t : Tree) (settingsFile : Path) (file : Option Path) (json allowing : Bool) :
    Except Failure Text := do
  let s ← Settings.loadOrDefault t settingsFile
  let file := file.getD s.loginFile
  let records ← during ("Failed to read " ++ Text.quotedPath file) (Login.Record.load t file)
  if allowing then
    return unlines (Login.renderAllowed (← s.loadEngine t) t (Login.userHosts records))
  else if json then return printJson (.array (records.map Login.Record.toJson))
  else return unlines (records.map loginLine)

/-- Runs a command while other runs hold the given locks. -/
def run (held : List Lock) (t : Tree) (settingsFile : Path) : Command → Execution
  | makeRules action output servicesFile => runMakeRules held t action output servicesFile
  | render name d address device json =>
    ⟨t, runRender t settingsFile name d address device json⟩
  | generate base => ⟨t, runGenerate t settingsFile base⟩
  | scan patterns json logs => ⟨t, runScan t settingsFile patterns json logs⟩
  | wtmp file json allowing => ⟨t, runWtmp t settingsFile file json allowing⟩
  | version => ⟨t, .ok (versionLine programName ++ "\n")⟩

end Command

/-! ## Whole runs -/

/-- How a run of the program ends. -/
structure Ending where
  tree : Tree
  status : Nat
  output : Text
  /-- What is reported as an error. -/
  report : Text

/-- A run with a command line, while other runs hold the given locks. -/
def runProgram (held : List Lock) (t : Tree) (words : List Text) : Ending :=
  match Arguments.parse words with
  | .error .wantsHelp => ⟨t, 0, [], []⟩
  | .error (.wantsVersion program) => ⟨t, 0, versionLine program ++ "\n", []⟩
  | .error e => ⟨t, 2, [], "error: " ++ e.name⟩
  | .ok i =>
    let x := i.command.run held t i.settingsFile
    match x.result with
    | .ok output => ⟨x.tree, 0, output, []⟩
    | .error f => ⟨x.tree, 1, [], "Error: " ++ f.report⟩

end PacketFilter
