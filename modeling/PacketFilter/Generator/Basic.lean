import PacketFilter.Files.Store
import PacketFilter.Rule.Direction
import PacketFilter.Service.Registry

/-!
# Generating templates

For every service and direction the generator writes a file that opens the service's ports. Each
file starts with a header; a file without it was written by hand and is never touched, and neither
is one that cannot be read.

A run goes through its targets one by one and stops at the first failure. What it did until then
stays done, so the outcome of a run is a store in any case: with a report if the run reached its
end, with the failure otherwise.
-/

namespace PacketFilter.Generator

/-- What a run does. -/
inductive Action where
  | create
  | clean
  deriving DecidableEq, Repr

namespace Action

def name : Action → Text
  | create => "create"
  | clean => "clean"

def parse (word : Text) : Except Text Action :=
  if word = "create" then .ok create
  else if word = "clean" then .ok clean
  else .error ("Unknown action: " ++ word ++ " (expected create or clean)")

end Action

/-! ## Files -/

/-- The first line of every generated file. -/
def header : Text := "# AUTOMATICALLY GENERATED! Do not edit."

/-- Whether some bytes start with the header's line. -/
def hasHeader (content : Bytes) : Bool :=
  let first := content.takeWhile (· ≠ 10)
  first = Utf8.encode header || first = Utf8.encode header ++ [13]

/-- The command that opens a port. -/
def command (d : Direction) (p : Port) : Text :=
  let address : Text :=
    match d with
    | .incoming => "$SRC"
    | .outgoing => "$DEST"
  "$IPTABLES --append " ++ d.chain ++ " --protocol " ++ p.protocol.name ++
    " $DEV --destination-port " ++ p.numeral ++ " " ++ address ++ " --jump ACCEPT"

/-- The ports of a service with those of one number together. -/
def groupedPorts (s : Service) : List Port :=
  s.portNumbers.flatMap fun n ↦ s.ports.filter (·.number = n)

def fileLines (s : Service) (d : Direction) : List Text :=
  [header, "#", "# Allow " ++ d.name ++ " connections for " ++ s.name, "#"] ++
    (groupedPorts s).map (command d) ++ [[]]

def fileText (s : Service) (d : Direction) : Text := (fileLines s d).flatMap (· ++ "\n")

/-! ## Runs -/

/-- The path of the file of a service and direction. -/
def pathFor (output : Path) (service : Text) (d : Direction) : Path :=
  output.join (d.templateName service)

/-- The targets of a run: every service in order, incoming before outgoing. -/
def targets (services : Registry) : List (Service × Direction) :=
  services.services.flatMap fun s ↦ Direction.all.map fun d ↦ (s, d)

/-- The files a run wrote, removed and left alone. -/
structure Report where
  written : List Path := []
  removed : List Path := []
  skipped : List Path := []
  deriving DecidableEq, Repr

/-- The store a run leaves behind, and its report or the failure it stopped at. -/
structure Outcome (σ : Type) where
  store : σ
  report : Except Error Report

variable {σ : Type} [FileStore σ]

/-- Whether there is a file that was written by hand or cannot be read. -/
def isManual (store : σ) (p : Path) : Bool :=
  FileStore.present store p &&
    match FileStore.read store p with
    | .ok content => !hasHeader content
    | .error _ => true

/-- What an action does to the file of one target. -/
def treat (action : Action) (output : Path) (store : σ) (report : Report) :
    Service × Direction → Except Error (σ × Report)
  | (s, d) =>
    let p := pathFor output s.name d
    if isManual store p then .ok (store, { report with skipped := report.skipped ++ [p] })
    else
      match action with
      | .create =>
        match FileStore.write store p (Utf8.encode (fileText s d)) with
        | .ok store => .ok (store, { report with written := report.written ++ [p] })
        | .error cause => .error (.file p cause)
      | .clean =>
        if FileStore.present store p then
          match FileStore.remove store p with
          | .ok store => .ok (store, { report with removed := report.removed ++ [p] })
          | .error cause => .error (.file p cause)
        else .ok (store, report)

/-- The targets treated one by one, up to the first failure. -/
def treatAll (action : Action) (output : Path) : σ → Report → List (Service × Direction) → Outcome σ
  | store, report, [] => ⟨store, .ok report⟩
  | store, report, target :: rest =>
    match treat action output store report target with
    | .ok (store, report) => treatAll action output store report rest
    | .error cause => ⟨store, .error cause⟩

/-- A run for every service of a registry. Creating files creates the directory for them first. -/
def run (action : Action) (services : Registry) (output : Path) (store : σ) : Outcome σ :=
  match action with
  | .clean => treatAll action output store {} (targets services)
  | .create =>
    match FileStore.createDirectory store output with
    | (store, .ok ()) => treatAll action output store {} (targets services)
    | (store, .error cause) => ⟨store, .error (.file output cause)⟩

end PacketFilter.Generator
