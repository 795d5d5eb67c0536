import PacketFilter.Blocking.Decision
import PacketFilter.Failure
import PacketFilter.Settings.Check

/-!
# Settings

Settings say where rules, logs and services are found and when an address is blocked. Each has a
value that is used if it is not given.
-/

namespace PacketFilter

/-- Where everything is found, and when to block. -/
structure Settings where
  /-- Where templates are searched, in order. -/
  templateDirs : List Path :=
    ["/etc/symbiosis/firewall/rule.d", "/usr/share/symbiosis/firewall/rule.d"]
  /-- The template of services that have none of their own. -/
  genericTemplate : Text := "accept"
  servicesFile : Path := "/etc/services"
  /-- The base directory of the firewall. -/
  baseDir : Path := "/etc/symbiosis/firewall"
  /-- A signature file or a directory of them. -/
  patternsDir : Path := "/etc/symbiosis/firewall/patterns.d"
  /-- The login history. -/
  loginFile : Path := "/var/log/wtmp"
  /-- The network interface to which rules are restricted. -/
  device : Option Text := none
  blocking : BlockPolicy := {}
  deriving DecidableEq

namespace Settings

/-- The file that is read unless another is named. -/
def defaultPath : Path := "/etc/hostwall/config.yaml"

/-! ## Checking -/

/-- Checks when to block. One hit must not be enough for every port if it is not for one. -/
def checkThresholds (b : BlockPolicy) : Except Text Unit :=
  if b.blockAfter = 0 then .error "blacklist.block_after must be at least 1"
  else if b.blockAllAfter < b.blockAfter then
    .error ("blacklist.block_all_after (" ++ Text.decimal b.blockAllAfter ++
      ") must not be below block_after (" ++ Text.decimal b.blockAfter ++ ")")
  else .ok ()

/-- A check whose failure is that of a given setting. -/
def checkWithin (setting : Text) (result : Except Text Unit) : Except Failure Unit :=
  result.mapError fun reason ↦ ⟨"Invalid " ++ setting, [reason]⟩

/-- A check whose failure stands alone. -/
def checkAlone (result : Except Text Unit) : Except Failure Unit := result.mapError (⟨·, []⟩)

def check (s : Settings) : Except Failure Unit := do
  checkAlone (if s.templateDirs = [] then .error "template_dirs cannot be empty" else .ok ())
  s.templateDirs.forM fun dir ↦ checkAlone (Check.templateDir dir)
  checkWithin "generic_template" (Check.ruleName s.genericTemplate)
  checkWithin "blacklist.template" (Check.ruleName s.blocking.template)
  s.device.forM fun device ↦ checkAlone (Check.interface device)
  checkAlone (checkThresholds s.blocking)

/-! ## Use -/

def loadServices (s : Settings) (t : Tree) : Except Failure Registry :=
  (Registry.load t s.servicesFile).mapError fun e ↦
    (Failure.ofError e).within ("Failed to load services from " ++ Text.quotedPath s.servicesFile)

/-- What rules are compiled with. -/
def engine (s : Settings) (services : Registry) : Engine where
  templateDirs := s.templateDirs
  services := services
  genericTemplate := s.genericTemplate
  device := s.device

/-- What rules are compiled with, with the services of the settings. -/
def loadEngine (s : Settings) (t : Tree) : Except Failure Engine :=
  (s.loadServices t).map s.engine

end Settings
end PacketFilter
