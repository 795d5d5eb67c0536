import PacketFilter.Login.Record
import PacketFilter.Proofs.Address.Reading
import PacketFilter.Proofs.Text.Utf8
import Mathlib.Data.List.Induction
import Mathlib.Data.List.TakeWhile
import Mathlib.Tactic.Ring

/-!
# Records as they are stored

A record is read at fixed offsets, and a mistake in one of them shows only on records that fill the
field beside it. So the layout is said here a second time and without offsets: `Stored` is what a
program stores, and its bytes are the pieces of the record one after the other, each as wide as the
table of the format says. Every byte of which the format says nothing is given by `filler`, and is
therefore arbitrary.

## What is proved

The bytes of any stored records, put together, are read as those records in their order
(`decodeAll_stored`). Offsets are sums of widths: a piece stands where the pieces before it end, so
each field of a record is found by its place in the table, and what is left is to read a piece by
itself. A number is read back from two's complement, a text up to the NUL that ends it or to the end
of its field, and an address by the first of the three cases that fits.
-/

namespace PacketFilter.Login

open Record

/-! ## Numbers -/

/-- The bytes of a number in two's complement, lowest first. -/
def lowBytes : (count : Nat) → Int → Bytes
  | 0, _ => []
  | count + 1, n => UInt8.ofNat (n % 256).toNat :: lowBytes count (n / 256)

@[simp] theorem length_lowBytes (count : Nat) (n : Int) : (lowBytes count n).length = count := by
  induction count generalizing n with
  | zero => rfl
  | succ count ih => rw [lowBytes, List.length_cons, ih]

@[simp] theorem natOf_lowBytes (count : Nat) (n : Int) :
    (natOf (lowBytes count n) : Int) = n % 256 ^ count := by
  induction count generalizing n with
  | zero => rw [pow_zero, Int.emod_one]; rfl
  | succ count ih =>
    have hbyte : ((UInt8.ofNat (n % 256).toNat).toNat : Int) = n % 256 := by
      have hlt : (n % 256).toNat < 256 := by omega
      rw [UInt8.toNat_ofNat', Nat.mod_eq_of_lt hlt]
      omega
    have hcons : natOf (lowBytes (count + 1) n) =
        (UInt8.ofNat (n % 256).toNat).toNat + 256 * natOf (lowBytes count (n / 256)) := rfl
    rw [hcons, Nat.cast_add, Nat.cast_mul, hbyte, ih, pow_succ', Int.emod_def n (256 * _),
      Int.emod_def n 256, Int.emod_def (n / 256), ← Int.ediv_ediv_of_nonneg (by decide)]
    push_cast
    ring

/-- A number that has room in one byte and `more` is read back with its sign. -/
theorem intOf_lowBytes (more : Nat) {n : Int} (hlow : -2 ^ (8 * more + 7) ≤ n)
    (hhigh : n < 2 ^ (8 * more + 7)) : intOf (lowBytes (more + 1) n) = n := by
  have hspan : (Bits.values (8 * (more + 1)) : Int) = 256 ^ (more + 1) := by
    show ((2 ^ (8 * (more + 1)) : Nat) : Int) = 256 ^ (more + 1)
    rw [pow_mul]
    norm_num
  have hhalf : (256 : Int) ^ (more + 1) = 2 * 2 ^ (8 * more + 7) := by
    rw [← pow_succ', show 8 * more + 7 + 1 = 8 * (more + 1) by ring, pow_mul]
    norm_num
  have hnat := natOf_lowBytes (more + 1) n
  simp only [intOf, length_lowBytes]
  generalize natOf (lowBytes (more + 1) n) = m at hnat
  generalize Bits.values (8 * (more + 1)) = span at hspan ⊢
  rw [← hspan] at hnat hhalf
  by_cases hn : 0 ≤ n
  · rw [Int.emod_eq_of_lt hn (by omega)] at hnat
    rw [if_pos (by omega), hnat]
  · rw [← Int.add_emod_right, Int.emod_eq_of_lt (by omega) (by omega)] at hnat
    rw [if_neg (by omega), hnat]
    omega

/-! ## Texts -/

/-- A text that fits into a field of `width` bytes. -/
structure FieldText (width : Nat) where
  text : Text
  nul_not_mem : '\x00' ∉ text
  size_le : Utf8.size text ≤ width

/-- The bytes of the field. A NUL ends a text that does not fill it, and then anything follows. -/
def FieldText.bytes {width : Nat} (t : FieldText width) (filler : Nat → UInt8) : Bytes :=
  let bs := Utf8.encode t.text
  if bs.length < width then bs ++ 0 :: (List.range (width - bs.length - 1)).map filler else bs

@[simp] theorem FieldText.length_bytes {width : Nat} (t : FieldText width) (filler : Nat → UInt8) :
    (t.bytes filler).length = width := by
  have hle : (Utf8.encode t.text).length ≤ width := t.size_le
  rw [bytes]
  split
  · rw [List.length_append, List.length_cons, List.length_map, List.length_range]
    omega
  · omega

theorem textOf_bytes {width : Nat} (t : FieldText width) (filler : Nat → UInt8) :
    textOf (t.bytes filler) = t.text := by
  have hzero := Utf8.zero_not_mem_encode t.nul_not_mem
  have hkeep : ∀ b ∈ Utf8.encode t.text, decide (b ≠ 0) = true := fun b hb ↦
    decide_eq_true fun heq ↦ hzero (heq ▸ hb)
  have htake : (t.bytes filler).takeWhile (· ≠ 0) = Utf8.encode t.text := by
    simp only [FieldText.bytes]
    split
    · rw [List.takeWhile_append_of_pos hkeep, List.takeWhile_cons_of_neg (by simp),
        List.append_nil]
    · exact List.takeWhile_eq_self_iff.mpr hkeep
  rw [textOf, htake, Utf8.decodeLossy_encode]

/-! ## Addresses -/

/-- The bytes of a number, highest first. -/
def highBytes (count n : Nat) : Bytes := (Address.digits 256 count n).map UInt8.ofNat

/-- What the field for an address holds: nothing, an IPv4 address in its first word or embedded in
an IPv6 address, or an IPv6 address that is neither embedding nor a first word alone. -/
inductive FieldAddress where
  | nothing
  | firstWord (a : Address) (v4 : a.family = .v4) (nonzero : a.value ≠ 0)
  | embedded (a : Address) (v4 : a.family = .v4)
  | whole (a : Address) (v6 : a.family = .v6) (plain : a.isMapped = false)
      (more : a.value % Bits.values 96 ≠ 0)

namespace FieldAddress

def bytes : FieldAddress → Bytes
  | nothing => List.replicate 16 0
  | firstWord a _ _ => highBytes 4 a.value ++ List.replicate 12 0
  | embedded a _ => List.replicate 10 0 ++ [0xFF, 0xFF] ++ highBytes 4 a.value
  | whole a _ _ _ => highBytes 16 a.value

def address? : FieldAddress → Option Address
  | nothing => none
  | firstWord a _ _ => some a
  | embedded a _ => some a
  | whole a _ _ _ => some a

@[simp] theorem length_highBytes (count n : Nat) : (highBytes count n).length = count := by
  rw [highBytes, List.length_map, Address.length_digits]

@[simp] theorem length_bytes (a : FieldAddress) : a.bytes.length = 16 := by
  cases a <;> simp [bytes]

/-- The number that bytes make, highest first. -/
private def valueOf (bs : Bytes) : Nat := Address.assemble 256 (bs.map UInt8.toNat)

private theorem valueOf_append (as bs : Bytes) :
    valueOf (as ++ bs) = valueOf as * 256 ^ bs.length + valueOf bs := by
  induction bs using List.reverseRecOn with
  | nil => simp [valueOf, Address.assemble]
  | append_singleton bs b ih =>
    have hconcat : ∀ cs : Bytes, valueOf (cs ++ [b]) = valueOf cs * 256 + b.toNat := by
      intro cs
      rw [valueOf, List.map_append, Address.assemble, List.foldl_append]
      rfl
    rw [← List.append_assoc, hconcat, hconcat, ih, List.length_append, List.length_singleton,
      pow_succ]
    ring

@[simp] private theorem valueOf_highBytes (count n : Nat) :
    valueOf (highBytes count n) = n % 256 ^ count := by
  have hbytes : (highBytes count n).map UInt8.toNat = Address.digits 256 count n := by
    rw [highBytes, List.map_map]
    refine (List.map_congr_left fun d hd ↦ ?_).trans (List.map_id _)
    have hlt : d < 256 := Address.lt_of_mem_digits (by decide) hd
    show (UInt8.ofNat d).toNat = d
    rw [UInt8.toNat_ofNat', Nat.mod_eq_of_lt hlt]
  rw [valueOf, hbytes, Address.assemble_digits]

@[simp] private theorem valueOf_zeros (count : Nat) : valueOf (List.replicate count 0) = 0 := by
  induction count with
  | zero => rfl
  | succ count ih =>
    rw [List.replicate_succ', valueOf_append, ih]
    rfl

/-- Every form is recognised by the case that is meant for it. -/
@[simp] theorem addressOf?_bytes (a : FieldAddress) : addressOf? a.bytes = a.address? := by
  have hread : ∀ bs : Bytes, addressOf? bs =
      if valueOf bs = 0 then none
      else if valueOf bs / 2 ^ 32 = 0xFFFF then some (.ofV4 (valueOf bs))
      else if valueOf bs % 2 ^ 96 = 0 then some (.ofV4 (valueOf bs / 2 ^ 96))
      else some (.ofV6 (valueOf bs)) := fun _ ↦ rfl
  rw [hread]
  cases a with
  | nothing =>
    have hvalue : valueOf (nothing.bytes) = 0 := valueOf_zeros 16
    rw [hvalue, if_pos rfl]
    rfl
  | firstWord a v4 nonzero =>
    have hlt := Address.value_lt_of_v4 v4
    have hvalue : valueOf (firstWord a v4 nonzero).bytes = a.value * 2 ^ 96 := by
      rw [bytes, valueOf_append, valueOf_highBytes, valueOf_zeros, List.length_replicate]
      omega
    rw [hvalue, if_neg (by omega), if_neg (by omega), if_pos (by omega),
      Nat.mul_div_cancel _ (by decide), Address.ofV4_value v4]
    rfl
  | embedded a v4 =>
    have hlt := Address.value_lt_of_v4 v4
    have hvalue : valueOf (embedded a v4).bytes = 0xFFFF * 2 ^ 32 + a.value := by
      rw [bytes, valueOf_append, valueOf_highBytes, length_highBytes, valueOf_append, valueOf_zeros,
        Nat.mod_eq_of_lt hlt]
      rfl
    have haddress : Address.ofV4 (0xFFFF * 2 ^ 32 + a.value) = a := by
      refine Address.eq_of_family_of_value v4.symm ?_
      show (0xFFFF * 2 ^ 32 + a.value) % 2 ^ 32 = a.value
      omega
    rw [hvalue, if_neg (by omega), if_pos (by omega), haddress]
    rfl
  | whole a v6 plain more =>
    have hlt := Address.value_lt_of_v6 v6
    have hvalue : valueOf (whole a v6 plain more).bytes = a.value := by
      rw [bytes, valueOf_highBytes]
      exact Nat.mod_eq_of_lt hlt
    have hmore : a.value % 2 ^ 96 ≠ 0 := more
    have hplain : a.value / 2 ^ 32 ≠ 0xFFFF := by
      have hmapped : (a.family = .v6 && a.value / 2 ^ 32 == 0xFFFF) = false := plain
      rw [v6] at hmapped
      simpa using hmapped
    rw [hvalue, if_neg (by omega), if_neg hplain, if_neg hmore, Address.ofV6_value v6]
    rfl

end FieldAddress

/-! ## Kinds -/

/-- The number that a kind is stored as. -/
def Kind.code : Kind → Int
  | empty => 0
  | runLevel => 1
  | bootTime => 2
  | newTime => 3
  | oldTime => 4
  | initProcess => 5
  | loginProcess => 6
  | userProcess => 7
  | deadProcess => 8
  | accounting => 9
  | unknown code => code

/-- The numbers from 0 to 9 stand for the kinds that have names. -/
def Kind.Proper (k : Kind) : Prop := ∀ code, k = unknown code → code < 0 ∨ 9 < code

theorem Kind.ofCode_code {k : Kind} (h : k.Proper) : ofCode k.code = k := by
  cases k with
  | unknown code =>
    have hcode := h code rfl
    show ofCode code = unknown code
    rw [ofCode, if_neg (by omega), if_neg (by omega), if_neg (by omega), if_neg (by omega),
      if_neg (by omega), if_neg (by omega), if_neg (by omega), if_neg (by omega),
      if_neg (by omega), if_neg (by omega)]
  | _ => rfl

/-! ## Records -/

/-- What a program stores as a record, and what it happens to leave in the bytes in between. -/
structure Stored where
  code : Int16
  process : Int32
  line : FieldText 32
  id : FieldText 4
  user : FieldText 32
  host : FieldText 256
  session : Int32
  seconds : Int32
  micros : Fin 1000000
  address : FieldAddress
  /-- The byte at each offset that holds nothing. -/
  filler : Nat → UInt8

namespace Stored

variable (s : Stored)

/-- The bytes from an offset on, where nothing else is stored. -/
def fillerFrom (offset i : Nat) : UInt8 := s.filler (offset + i)

/-- Bytes that mean nothing. -/
def padding (offset width : Nat) : Bytes := (List.range width).map (s.fillerFrom offset)

/-- The pieces of the record. Two bytes after the type, four after the host (the exit status) and
twenty at the end are not read. -/
def pieces : List Bytes :=
  [lowBytes 2 s.code.toInt, s.padding 2 2, lowBytes 4 s.process.toInt,
    s.line.bytes (s.fillerFrom 8), s.id.bytes (s.fillerFrom 40), s.user.bytes (s.fillerFrom 44),
    s.host.bytes (s.fillerFrom 76), s.padding 332 4, lowBytes 4 s.session.toInt,
    lowBytes 4 s.seconds.toInt, lowBytes 4 s.micros.val, s.address.bytes, s.padding 364 20]

/-- The bytes of the record. -/
def bytes : Bytes := s.pieces.flatten

/-- The record that is stored. Without an address, a host name that is one takes its place. -/
def record : Record where
  kind := .ofCode s.code.toInt
  process := s.process.toInt
  line := s.line.text
  id := s.id.text
  user := s.user.text
  host := s.host.text
  session := s.session.toInt
  time := ⟨s.seconds.toInt, s.micros⟩
  address := s.address.address?.or ((Address.parse? s.host.text).map Address.unmapped)

/-- The widths of the pieces. -/
def widths : List Nat := [2, 2, 4, 32, 4, 32, 256, 4, 4, 4, 4, 16, 20]

@[simp] theorem map_length_pieces : s.pieces.map List.length = widths := by
  simp [pieces, widths, padding]

@[simp] theorem length_bytes : s.bytes.length = size := by
  rw [bytes, List.length_flatten, map_length_pieces]
  rfl

/-- A piece stands where the pieces before it end. -/
private theorem field_bytes (i : Nat) {piece : Bytes} {width : Nat}
    (hpiece : s.pieces[i]? = some piece) (hwidth : widths[i]? = some width) :
    field s.bytes (widths.take i).sum width = piece := by
  have hlength : piece.length = width := by
    rw [← map_length_pieces s, List.getElem?_map, hpiece] at hwidth
    exact Option.some_inj.mp hwidth
  obtain ⟨hi, hget⟩ := List.getElem?_eq_some_iff.mp hpiece
  have hsplit : s.bytes =
      (s.pieces.take i).flatten ++ (piece ++ (s.pieces.drop (i + 1)).flatten) := by
    rw [bytes]
    conv_lhs => rw [← List.take_append_drop i s.pieces, List.drop_eq_getElem_cons hi, hget]
    rw [List.flatten_append, List.flatten_cons]
  rw [field, hsplit, ← map_length_pieces s, ← List.map_take, ← List.length_flatten,
    List.drop_left, List.take_left' hlength]

@[simp] theorem decode_bytes : decode s.bytes = s.record := by
  have hcode : field s.bytes 0 2 = lowBytes 2 s.code.toInt := s.field_bytes 0 rfl rfl
  have hprocess : field s.bytes 4 4 = lowBytes 4 s.process.toInt := s.field_bytes 2 rfl rfl
  have hline : field s.bytes 8 32 = s.line.bytes (s.fillerFrom 8) := s.field_bytes 3 rfl rfl
  have hid : field s.bytes 40 4 = s.id.bytes (s.fillerFrom 40) := s.field_bytes 4 rfl rfl
  have huser : field s.bytes 44 32 = s.user.bytes (s.fillerFrom 44) := s.field_bytes 5 rfl rfl
  have hhost : field s.bytes 76 256 = s.host.bytes (s.fillerFrom 76) := s.field_bytes 6 rfl rfl
  have hsession : field s.bytes 336 4 = lowBytes 4 s.session.toInt := s.field_bytes 8 rfl rfl
  have hseconds : field s.bytes 340 4 = lowBytes 4 s.seconds.toInt := s.field_bytes 9 rfl rfl
  have hmicros : field s.bytes 344 4 = lowBytes 4 s.micros.val := s.field_bytes 10 rfl rfl
  have haddress : field s.bytes 348 16 = s.address.bytes := s.field_bytes 11 rfl rfl
  have htime : timeOf s.seconds.toInt (s.micros.val : Int) = ⟨s.seconds.toInt, s.micros⟩ := by
    have hle : s.micros.val ≤ mostMicros := Nat.le_of_lt_succ s.micros.isLt
    rw [timeOf, Int.toNat_natCast, Nat.min_eq_left hle]
  rw [decode, hcode, hprocess, hline, hid, huser, hhost, hsession, hseconds, hmicros, haddress,
    textOf_bytes, textOf_bytes, textOf_bytes, textOf_bytes, FieldAddress.addressOf?_bytes,
    intOf_lowBytes 1 s.code.le_toInt s.code.toInt_lt,
    intOf_lowBytes 3 s.process.le_toInt s.process.toInt_lt,
    intOf_lowBytes 3 s.session.le_toInt s.session.toInt_lt,
    intOf_lowBytes 3 s.seconds.le_toInt s.seconds.toInt_lt,
    intOf_lowBytes 3 (by omega) (by omega), htime]
  rfl

end Stored

/-! ## Files -/

@[simp] theorem decodeMany_bytes (ss : List Stored) :
    decodeMany ss.length (ss.flatMap Stored.bytes) = ss.map Stored.record := by
  induction ss with
  | nil => rfl
  | cons s ss ih =>
    rw [List.flatMap_cons, List.length_cons, decodeMany, List.take_left' s.length_bytes,
      List.drop_left' s.length_bytes, s.decode_bytes, ih, List.map_cons]

theorem length_flatMap_bytes (ss : List Stored) :
    (ss.flatMap Stored.bytes).length = ss.length * size := by
  rw [List.length_flatMap, List.map_congr_left fun s _ ↦ s.length_bytes, List.map_const',
    List.sum_replicate_nat]

@[simp] theorem decodeAll_bytes (path : Path) (ss : List Stored) :
    decodeAll path (ss.flatMap Stored.bytes) = .ok (ss.map Stored.record) := by
  rw [decodeAll, length_flatMap_bytes ss, if_pos (Nat.mul_mod_left _ _),
    Nat.mul_div_cancel _ (by decide), decodeMany_bytes]

/-- The bytes of stored records, put together, are read as those records in their order. The only
reason why some bytes are not read is that they are no whole number of records. The kind of a record
tells its type: the types from 0 to 9 have names, and any other is kept as a number. -/
theorem decodeAll_stored (path : Path) :
    (∀ ss : List Stored, decodeAll path (ss.flatMap Stored.bytes) = .ok (ss.map Stored.record)) ∧
    (∀ (bs : Bytes) (cause : Error), decodeAll path bs = .error cause ↔
      ¬384 ∣ bs.length ∧ cause = .brokenRecords path bs.length 384) ∧
    ∀ k : Kind, k.Proper → Kind.ofCode k.code = k := by
  refine ⟨decodeAll_bytes path, fun bs cause ↦ ?_, fun k ↦ Kind.ofCode_code⟩
  rw [decodeAll, Nat.dvd_iff_mod_eq_zero]
  by_cases h : bs.length % size = 0
  · rw [if_pos h]
    simp [show bs.length % 384 = 0 from h]
  · rw [if_neg h, Except.error.injEq, eq_comm]
    exact ⟨fun heq ↦ ⟨h, heq⟩, And.right⟩

/-- A login by a user whose name fills its field, from a host whose name is its address. -/
private def fullLogin : Stored where
  code := 7
  process := -1
  line := ⟨"pts/10", by decide, by decide⟩
  id := ⟨"ts/1", by decide, by decide⟩
  user := ⟨List.replicate 32 'u', by decide, by decide⟩
  host := ⟨"::ffff:10.0.0.9", by decide, by decide⟩
  session := 0
  seconds := -1
  micros := 999999
  address := .nothing
  filler i := UInt8.ofNat i

theorem decodeAll_stored_full :
    decodeAll "wtmp" ([fullLogin, fullLogin].flatMap Stored.bytes) =
      .ok [fullLogin.record, fullLogin.record] ∧
    fullLogin.record.address = some (.ofOctets [10, 0, 0, 9]) ∧
    (¬384 ∣ [(0 : UInt8)].length ∧
      decodeAll "wtmp" [0] = .error (.brokenRecords "wtmp" [(0 : UInt8)].length 384)) ∧
    (Kind.userProcess.Proper ∧ Kind.ofCode Kind.userProcess.code = .userProcess) := by
  obtain ⟨hread, herror, hkind⟩ := decodeAll_stored "wtmp"
  have hodd : ¬384 ∣ [(0 : UInt8)].length := by decide
  have hproper : Kind.userProcess.Proper := fun _ h ↦ by cases h
  exact ⟨hread [fullLogin, fullLogin], by decide +kernel,
    ⟨hodd, (herror _ _).mpr ⟨hodd, rfl⟩⟩, hproper, hkind _ hproper⟩

end PacketFilter.Login
