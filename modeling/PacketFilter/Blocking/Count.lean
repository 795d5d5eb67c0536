import PacketFilter.Signature.File

/-!
# Counting hits

Hits are counted for each address and each port that a signature file protects. The host behind an
IPv6 address usually owns its whole `/64`, so IPv6 hits are pooled under that range; IPv4 addresses
are counted one by one.

A count is a list of ranges in order, each with its ports in order. Adding the same hits in another
order gives the same list.
-/

namespace PacketFilter

/-- The length of the range under which IPv6 hits are counted. -/
def poolLength : Nat := 64

/-- The range under which hits of an address are counted. -/
def Range.pooled (r : Range) : Range :=
  match r.family with
  | .v4 => r
  | .v6 => r.supernet poolLength

/-- Hits under the names of ports, in order. -/
abbrev PortCounts := List (Text × Nat)

namespace PortCounts

def add (hits : Nat) (cs : PortCounts) (port : Text) : PortCounts :=
  Sorted.update Text.compare port (fun found ↦ found.getD 0 + hits) cs

def of (cs : PortCounts) (port : Text) : Nat := (Sorted.find? Text.compare port cs).getD 0

def total (cs : PortCounts) : Nat := cs.foldl (fun n c ↦ n + c.2) 0

end PortCounts

/-- Hits for each pooled range and port. -/
structure HitCount where
  entries : List (Range × PortCounts) := []
  deriving DecidableEq

namespace HitCount

/-- The count with hits of an address added for several ports. -/
def record (c : HitCount) (address : Range) (ports : List Text) (hits : Nat) : HitCount :=
  { entries := Sorted.update Range.compare address.pooled
      (fun found ↦ ports.foldl (PortCounts.add hits) (found.getD [])) c.entries }

/-- The count with one hit of a signature file added. A hit without an address counts for
nothing. -/
def recordHit (ports : List Text) (c : HitCount) (h : Hit) : HitCount :=
  match h.address with
  | some address => c.record address ports 1
  | none => c

def recordHits (c : HitCount) (f : SignatureFile) (hits : List Hit) : HitCount :=
  hits.foldl (recordHit f.ports) c

def find? (c : HitCount) (address : Range) : Option PortCounts :=
  Sorted.find? Range.compare address.pooled c.entries

def total (c : HitCount) (address : Range) : Nat := ((c.find? address).map PortCounts.total).getD 0

/-! ## Counting in logs -/

/-- The log files in which a signature file is looked for: the given ones, or its own if none are
given. -/
def sources (f : SignatureFile) (logs : List Path) : List Path :=
  if logs = [] then f.log.toList else logs

/-- The lines of a log file. A file that is not there has none. -/
def readLog (t : Tree) (p : Path) : Except Error (List Text) :=
  match t.readText p with
  | .ok content => .ok (Text.lines content)
  | .error .notFound => .ok []
  | .error cause => .error (.file p cause)

/-- The count with the hits of a signature file in one log file added. -/
def countLog (t : Tree) (f : SignatureFile) (c : HitCount) (p : Path) : Except Error HitCount := do
  return c.recordHits f (f.apply (← readLog t p))

def ofLogs (t : Tree) (fs : List SignatureFile) (logs : List Path) : Except Error HitCount :=
  fs.foldlM (fun c f ↦ (sources f logs).foldlM (countLog t f) c) {}

end HitCount
end PacketFilter
