import PacketFilter.Address.Notation
import PacketFilter.Files.Tree
import PacketFilter.Login.Time

/-!
# Login records

The login history is a file of records of 384 bytes each:

```text
offset  length
     0       2  type
     4       4  process
     8      32  line
    40       4  identifier of the line
    44      32  user
    76     256  host
   336       4  session
   340       4  seconds
   344       4  microseconds
   348      16  address
```

Numbers are signed and have their lowest byte first; texts end at their first NUL or fill their
field; an address has its highest byte first. The bytes between the fields mean nothing.

An IPv4 address is stored in the first four bytes of its field or as the IPv6 address that embeds
it, depending on the program that wrote the record. Both are read as the IPv4 address, so that a
host has one address however it logged in. If there is no address, a host name that is an address
takes its place.
-/

namespace PacketFilter.Login

/-- What a record tells of. -/
inductive Kind where
  | empty
  | runLevel
  | bootTime
  | newTime
  | oldTime
  | initProcess
  | loginProcess
  | userProcess
  | deadProcess
  | accounting
  | unknown (code : Int)
  deriving DecidableEq, Repr

def Kind.ofCode (code : Int) : Kind :=
  if code = 0 then empty
  else if code = 1 then runLevel
  else if code = 2 then bootTime
  else if code = 3 then newTime
  else if code = 4 then oldTime
  else if code = 5 then initProcess
  else if code = 6 then loginProcess
  else if code = 7 then userProcess
  else if code = 8 then deadProcess
  else if code = 9 then accounting
  else unknown code

/-- The name of a kind, unless it is unknown. -/
def Kind.name? : Kind → Option Text
  | empty => some "empty"
  | runLevel => some "run_level"
  | bootTime => some "boot_time"
  | newTime => some "new_time"
  | oldTime => some "old_time"
  | initProcess => some "init_process"
  | loginProcess => some "login_process"
  | userProcess => some "user_process"
  | deadProcess => some "dead_process"
  | accounting => some "accounting"
  | unknown _ => none

structure Record where
  kind : Kind
  process : Int
  line : Text
  id : Text
  user : Text
  host : Text
  session : Int
  time : Timestamp
  address : Option Address
  deriving DecidableEq, Repr

namespace Record

def size : Nat := 384

def mostMicros : Nat := 999999

def field (raw : Bytes) (offset length : Nat) : Bytes := (raw.drop offset).take length

/-- The number that bytes make, lowest first. -/
def natOf (bs : Bytes) : Nat := bs.foldr (fun b n ↦ b.toNat + 256 * n) 0

/-- The signed number that bytes make, lowest first. -/
def intOf (bs : Bytes) : Int :=
  let n := natOf bs
  let span := Bits.values (8 * bs.length)
  if 2 * n < span then n else (n : Int) - span

/-- The text of a field up to its first NUL. -/
def textOf (bs : Bytes) : Text := Utf8.decodeLossy (bs.takeWhile (· ≠ 0))

/-- The address of its sixteen bytes, unless all are zero. -/
def addressOf? (bs : Bytes) : Option Address :=
  let n := Address.assemble 256 (bs.map UInt8.toNat)
  if n = 0 then none
  else if n / Bits.values 32 = 0xFFFF then some (.ofV4 n)
  else if n % Bits.values 96 = 0 then some (.ofV4 (n / Bits.values 96))
  else some (.ofV6 n)

/-- The address that a host name is. -/
def hostAddress? (host : Text) : Option Address := (Address.parse? host).map Address.unmapped

/-- The time of a number of seconds and of microseconds that may be out of bounds. -/
def timeOf (seconds micros : Int) : Timestamp := ⟨seconds, min micros.toNat mostMicros⟩

def decode (raw : Bytes) : Record :=
  let host := textOf (field raw 76 256)
  { kind := .ofCode (intOf (field raw 0 2))
    process := intOf (field raw 4 4)
    line := textOf (field raw 8 32)
    id := textOf (field raw 40 4)
    user := textOf (field raw 44 32)
    host := host
    session := intOf (field raw 336 4)
    time := timeOf (intOf (field raw 340 4)) (intOf (field raw 344 4))
    address := (addressOf? (field raw 348 16)).or (hostAddress? host) }

/-- Whether the record tells of a user who logged in. -/
def isUser (r : Record) : Bool := r.kind = .userProcess

/-- The records of `count` times 384 bytes. -/
def decodeMany : (count : Nat) → Bytes → List Record
  | 0, _ => []
  | count + 1, bs => decode (bs.take size) :: decodeMany count (bs.drop size)

/-- The records of a file's bytes, in order. -/
def decodeAll (path : Path) (bs : Bytes) : Except Error (List Record) :=
  if bs.length % size = 0 then .ok (decodeMany (bs.length / size) bs)
  else .error (.brokenRecords path bs.length size)

def load (t : Tree) (p : Path) : Except Error (List Record) := do
  decodeAll p (← (t.read p).mapError (.file p))

end Record
end PacketFilter.Login
