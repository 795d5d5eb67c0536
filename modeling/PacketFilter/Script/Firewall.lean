import PacketFilter.Script.AddressDirectory

/-!
# The firewall script

The directories below one base directory make up a firewall:

```text
whitelist.d/1.2.3.4          addresses to let in, by the names of files
blacklist.d/192.0.2.7.auto   addresses to keep out
incoming.d/10-ssh            rules, with one address a line
outgoing.d/50-smtp
local.d/                     further scripts
```

The script resets the packet filter, opens the loopback device and then goes through the
directories in this order. A directory that is missing has no section.
-/

namespace PacketFilter.Firewall

/-- The start of the script. -/
def header : List Text := ["#!/bin/bash", "set -e"]

/-- Both packet filter commands. -/
def binaries : List Text := [Family.v4.command, Family.v6.command]

/-- The commands that remove every rule. -/
def flush : List Text :=
  binaries.flatMap fun binary ↦
    (["INPUT", "OUTPUT", "FORWARD"].map fun (chain : String) ↦
      binary ++ " -P " ++ chain.toList ++ " ACCEPT") ++ [binary ++ " -F"]

/-- The commands that open the loopback device. -/
def permitLoopback : List Text :=
  binaries.flatMap fun binary ↦
    [binary ++ " -I INPUT -i lo -j ACCEPT", binary ++ " -I OUTPUT -o lo -j ACCEPT"]

/-- The section of a directory, unless it is missing. -/
def sectionOf (t : Tree) (p : Path) (title : Text) (body : Except Error (List Text)) :
    Except Error (List Text) :=
  if t.isDirectory p then do return Remark.banner (title ++ p) ++ (← body) else .ok []

/-- The section of a directory of addresses. -/
def addressSection (e : Engine) (t : Tree) (name : Text) (d : AddressDirectory) :
    Except Error (List Text) :=
  sectionOf t d.path (name ++ " from ") (d.render e t)

/-- The section of a direction's rules. -/
def ruleSection (e : Engine) (t : Tree) (base : Path) (d : Direction) :
    Except Error (List Text) :=
  let dir : RuleDirectory := { path := base.join (d.name ++ ".d"), direction := d }
  sectionOf t dir.path (d.name ++ " rules from ") (dir.render e t)

/-- The section that runs further scripts. -/
def localSection (t : Tree) (base : Path) : List Text :=
  let dir := base.join "local.d"
  if t.isDirectory dir then
    Remark.banner ("Run rules from " ++ dir ++ " using run-parts") ++ ["run-parts " ++ dir]
  else []

def lines (e : Engine) (t : Tree) (base : Path) : Except Error (List Text) := do
  let allowed ← addressSection e t "whitelist" (.allowing (base.join "whitelist.d"))
  let blocked ← addressSection e t "blacklist" (.blocking (base.join "blacklist.d"))
  let rules ← Direction.all.mapM (ruleSection e t base)
  return header ++ flush ++ permitLoopback ++ allowed ++ blocked ++ rules.flatten ++
    localSection t base

/-- The script of a base directory. -/
def script (e : Engine) (t : Tree) (base : Path) : Except Error Text := do
  return Text.joinWith "\n" (← lines e t base) ++ "\n"

end PacketFilter.Firewall
