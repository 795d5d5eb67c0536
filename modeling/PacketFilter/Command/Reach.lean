import PacketFilter.Command.Run

/-!
# What a command looks at

A command is a function of a whole directory tree but looks at few places in it. They become known
in turn: the settings say where the signature files are, and those say which logs they are for. The
functions here list what can be known from a tree that holds the places found so far, so that a
tree with all of them is reached after a few steps.
-/

namespace PacketFilter.Command

/-- Places that the settings name. -/
def placesOf (s : Settings) : Command → List Path
  | render .. => s.servicesFile :: s.templateDirs
  | generate base =>
    let base := base.getD s.baseDir
    let directories : List Text :=
      ["whitelist.d", "blacklist.d", "incoming.d", "outgoing.d", "local.d"]
    s.servicesFile :: s.templateDirs ++ base :: directories.map base.join
  | scan patterns _ logs => s.servicesFile :: s.templateDirs ++ patterns.getD s.patternsDir :: logs
  | wtmp file _ _ => s.servicesFile :: s.templateDirs ++ [file.getD s.loginFile]
  | _ => []

/-- Logs that signature files name. -/
def logsOf (t : Tree) (s : Settings) : Command → List Path
  | scan patterns _ [] =>
    match SignatureFile.loadAll t (patterns.getD s.patternsDir) with
    | .ok files => files.filterMap SignatureFile.log
    | .error _ => []
  | _ => []

/-- Places that a command looks at, as far as a tree tells. -/
def reach (t : Tree) (settingsFile : Path) : Command → List Path
  | makeRules _ output servicesFile =>
    let lockFile := Lock.pathFor output
    [servicesFile, output, lockFile, (Path.parent? lockFile).getD []]
  | version => []
  | c =>
    match Settings.loadOrDefault t settingsFile with
    | .ok s => settingsFile :: placesOf s c ++ logsOf t s c
    | .error _ => [settingsFile]

end PacketFilter.Command
