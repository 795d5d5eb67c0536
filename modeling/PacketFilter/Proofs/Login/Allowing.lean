import PacketFilter.Login.Allowing
import PacketFilter.Proofs.Address.Order
import PacketFilter.Proofs.Login.Layout

/-!
# Hosts that are allowed

The hosts from which users have logged in are listed in order, each of them once. Two things make
the list independent of how logins came to be recorded. It is a list of distinct members in order
(`Range.distinct`), so it is known from the set of records, whatever their order and however often
they are repeated. And an address is decoded to one value however it was stored: an IPv6 address
that embeds an IPv4 address is never left standing (`not_isMapped_of_decode`), neither from the
field for addresses nor from the name of a host.
-/

namespace PacketFilter

namespace Address

theorem assemble_lt {base : Nat} {ds : List Nat} (h : ∀ d ∈ ds, d < base) :
    assemble base ds < base ^ ds.length := by
  induction ds using List.reverseRecOn with
  | nil => exact Nat.one_pos
  | append_singleton ds d ih =>
    rw [List.forall_mem_append, List.forall_mem_singleton] at h
    have hconcat : assemble base (ds ++ [d]) = base * assemble base ds + d := by
      rw [Nat.mul_comm, assemble, List.foldl_append]
      rfl
    rw [hconcat, List.length_append, List.length_singleton, pow_succ]
    exact Nat.mul_add_lt_mul_of_lt_of_lt (ih h.1) h.2

@[simp] theorem isMapped_ofV4 (n : Nat) : (ofV4 n).isMapped = false := rfl

@[simp] theorem isMapped_unmapped (a : Address) : a.unmapped.isMapped = false := by
  rw [unmapped]
  split
  · exact isMapped_ofV4 a.value
  · rename_i h
    exact Bool.eq_false_iff.mpr h

end Address

namespace Range

@[simp] theorem host_inj {a b : Address} : host a = host b ↔ a = b :=
  ⟨congrArg address, congrArg host⟩

end Range

namespace Login

/-! ## Decoded addresses -/

namespace Record

theorem not_isMapped_of_addressOf? {bs : Bytes} {a : Address} (hlength : bs.length ≤ 16)
    (h : addressOf? bs = some a) : a.isMapped = false := by
  have hlt : Address.assemble 256 (bs.map UInt8.toNat) < Bits.values 128 := by
    have hdigits : ∀ d ∈ bs.map UInt8.toNat, d < 256 := by
      intro d hd
      obtain ⟨b, -, rfl⟩ := List.mem_map.mp hd
      exact b.toNat_lt
    have hassemble := Address.assemble_lt hdigits
    rw [List.length_map] at hassemble
    exact Nat.lt_of_lt_of_le hassemble (Nat.pow_le_pow_right (by decide) hlength)
  rw [addressOf?] at h
  generalize Address.assemble 256 (bs.map UInt8.toNat) = n at h hlt
  by_cases hzero : n = 0
  · rw [if_pos hzero] at h
    contradiction
  · rw [if_neg hzero] at h
    by_cases hmapped : n / Bits.values 32 = 0xFFFF
    · rw [if_pos hmapped] at h
      exact Option.some.inj h ▸ Address.isMapped_ofV4 n
    · rw [if_neg hmapped] at h
      split at h
      · exact Option.some.inj h ▸ Address.isMapped_ofV4 _
      · have hvalue : (Address.ofV6 n).value = n := Nat.mod_eq_of_lt hlt
        rw [← Option.some.inj h, Address.isMapped, hvalue, Bool.and_eq_false_iff]
        exact Or.inr (beq_eq_false_iff_ne.mpr hmapped)

/-- No record that was read holds an embedded address. -/
theorem not_isMapped_of_decode {raw : Bytes} {a : Address} (h : (decode raw).address = some a) :
    a.isMapped = false := by
  rcases Option.or_eq_some_iff.mp h with h | ⟨-, h⟩
  · exact not_isMapped_of_addressOf? (List.length_take_le _ _) h
  · obtain ⟨b, -, rfl⟩ := Option.map_eq_some_iff.mp h
    exact b.isMapped_unmapped

theorem exists_of_mem_decodeMany {count : Nat} {bs : Bytes} {x : Record}
    (h : x ∈ decodeMany count bs) : ∃ raw, x = decode raw := by
  induction count generalizing bs with
  | zero => exact absurd h List.not_mem_nil
  | succ count ih =>
    rcases List.mem_cons.mp h with rfl | h
    · exact ⟨_, rfl⟩
    · exact ih h

theorem exists_of_mem_decodeAll {path : Path} {bs : Bytes} {rs : List Record} {x : Record}
    (hread : decodeAll path bs = .ok rs) (hx : x ∈ rs) : ∃ raw, x = decode raw := by
  rw [decodeAll] at hread
  split at hread
  · rw [← Except.ok.inj hread] at hx
    exact exists_of_mem_decodeMany hx
  · contradiction

end Record

/-! ## Stored addresses -/

/-- A stored record tells the host of a login by its address, in one of three forms, or, where the
field for addresses holds nothing, by a host name that is an address. -/
inductive Stored.Tells (s : Stored) : Address → Prop
  | firstWord {a : Address} (v4 : a.family = .v4) (nonzero : a.value ≠ 0) :
      s.address = .firstWord a v4 nonzero → s.Tells a
  | embedded {a : Address} (v4 : a.family = .v4) : s.address = .embedded a v4 → s.Tells a
  | whole {a : Address} (v6 : a.family = .v6) (plain : a.isMapped = false)
      (more : a.value % Bits.values 96 ≠ 0) : s.address = .whole a v6 plain more → s.Tells a
  | named {a : Address} : s.address = .nothing → Address.parse? s.host.text = some a →
      s.Tells a.unmapped

theorem Stored.address_record_iff {s : Stored} {a : Address} :
    s.record.address = some a ↔ s.Tells a := by
  constructor
  · intro h
    rcases Option.or_eq_some_iff.mp h with h | ⟨hnone, h⟩
    · cases haddress : s.address with
      | nothing =>
        rw [haddress] at h
        contradiction
      | firstWord b v4 nonzero =>
        rw [haddress] at h
        obtain rfl : b = a := Option.some.inj h
        exact .firstWord v4 nonzero haddress
      | embedded b v4 =>
        rw [haddress] at h
        obtain rfl : b = a := Option.some.inj h
        exact .embedded v4 haddress
      | whole b v6 plain more =>
        rw [haddress] at h
        obtain rfl : b = a := Option.some.inj h
        exact .whole v6 plain more haddress
    · obtain ⟨b, hb, rfl⟩ := Option.map_eq_some_iff.mp h
      cases haddress : s.address with
      | nothing => exact .named haddress hb
      | _ =>
        rw [haddress] at hnone
        contradiction
  · intro h
    show s.address.address?.or ((Address.parse? s.host.text).map Address.unmapped) = some a
    cases h with
    | firstWord v4 nonzero haddress => rw [haddress]; rfl
    | embedded v4 haddress => rw [haddress]; rfl
    | whole v6 plain more haddress => rw [haddress]; rfl
    | named haddress hname => rw [haddress, hname]; rfl

@[simp]
theorem Kind.ofCode_eq_userProcess_iff {code : Int} : ofCode code = .userProcess ↔ code = 7 := by
  constructor
  · intro h
    by_contra hne
    rw [ofCode] at h
    simp only [if_neg hne] at h
    repeat' split at h
    all_goals contradiction
  · rintro rfl
    rfl

theorem Stored.kind_record_iff {s : Stored} : s.record.kind = .userProcess ↔ s.code = 7 := by
  show Kind.ofCode s.code.toInt = .userProcess ↔ s.code = 7
  rw [Kind.ofCode_eq_userProcess_iff, ← Int16.toInt_inj]
  rfl

/-! ## The list of hosts -/

variable {rs rs' : List Record} {r : Range} {a : Address}

theorem mem_userHosts_iff :
    r ∈ userHosts rs ↔ ∃ x ∈ rs, x.kind = .userProcess ∧ ∃ a, x.address = some a ∧ r = .host a := by
  rw [userHosts, Range.mem_distinct, List.mem_map]
  constructor
  · rintro ⟨a, ha, rfl⟩
    obtain ⟨x, hx, haddress⟩ := List.mem_filterMap.mp ha
    obtain ⟨hmem, huser⟩ := List.mem_filter.mp hx
    exact ⟨x, hmem, of_decide_eq_true huser, a, haddress, rfl⟩
  · rintro ⟨x, hmem, huser, a, haddress, rfl⟩
    have hx : x ∈ rs.filter Record.isUser := List.mem_filter.mpr ⟨hmem, decide_eq_true huser⟩
    exact ⟨a, List.mem_filterMap.mpr ⟨x, hx, haddress⟩, rfl⟩

theorem host_mem_userHosts_iff :
    Range.host a ∈ userHosts rs ↔ ∃ x ∈ rs, x.kind = .userProcess ∧ x.address = some a := by
  rw [mem_userHosts_iff]
  simp only [Range.host_inj, exists_eq_right']

theorem userHosts_congr (h : ∀ x, x ∈ rs ↔ x ∈ rs') : userHosts rs = userHosts rs' := by
  refine Range.distinct_congr fun r ↦ ?_
  simp only [List.mem_map, List.mem_filterMap, List.mem_filter, h]

/-- **Each host of a login is allowed once.** The hosts of the records of some bytes strictly
ascend. They are single addresses, none of which embeds another, and they are the addresses of the
records that tell of users. Records may be permuted and repeated, and of stored records it does not
matter in which form they tell their hosts. -/
theorem userHosts_of_decodeAll {path : Path} {bs : Bytes} {rs : List Record}
    (h : Record.decodeAll path bs = .ok rs) :
    (userHosts rs).Pairwise (fun r s ↦ r.compare s = .lt) ∧
    (∀ r ∈ userHosts rs, r = .host r.address ∧ r.address.isMapped = false) ∧
    (∀ a, Range.host a ∈ userHosts rs ↔
      ∃ x ∈ rs, x.kind = .userProcess ∧ x.address = some a) ∧
    (∀ rs' : List Record, (∀ x, x ∈ rs' ↔ x ∈ rs) → userHosts rs' = userHosts rs) ∧
    ∀ ss : List Stored, bs = ss.flatMap Stored.bytes → ∀ a,
      (Range.host a ∈ userHosts rs ↔ ∃ s ∈ ss, s.code = 7 ∧ s.Tells a) := by
  refine ⟨Range.pairwise_distinct _, fun r hr ↦ ?_, fun a ↦ host_mem_userHosts_iff,
    fun rs' ↦ userHosts_congr, ?_⟩
  · obtain ⟨x, hx, -, a, haddress, rfl⟩ := mem_userHosts_iff.mp hr
    obtain ⟨raw, rfl⟩ := Record.exists_of_mem_decodeAll h hx
    exact ⟨rfl, Record.not_isMapped_of_decode haddress⟩
  · rintro ss rfl a
    obtain rfl : ss.map Stored.record = rs := Except.ok.inj ((decodeAll_bytes path ss).symm.trans h)
    simp only [host_mem_userHosts_iff, List.mem_map, exists_exists_and_eq_and,
      Stored.kind_record_iff, Stored.address_record_iff]

/-- A record of a type, with what it stores of a host. -/
private def login (code : Int16) (address : FieldAddress) (host : FieldText 256) : Stored where
  code := code
  process := 1
  line := ⟨"pts/0", by decide, by decide⟩
  id := ⟨"ts/0", by decide, by decide⟩
  user := ⟨"root", by decide, by decide⟩
  host := host
  session := 0
  seconds := 0
  micros := ⟨0, by decide⟩
  address := address
  filler _ := 0

private def gateway : Address := .ofOctets [10, 0, 0, 9]

/-- One host in three forms, and another from which nobody logged in. -/
private def logins : List Stored :=
  [login 7 (.embedded gateway rfl) ⟨"gateway", by decide, by decide⟩,
    login 8 (.firstWord (.ofOctets [10, 0, 0, 8]) rfl (by decide)) ⟨[], by decide, by decide⟩,
    login 7 .nothing ⟨"::FFFF:10.0.0.9", by decide, by decide⟩,
    login 7 (.firstWord gateway rfl (by decide)) ⟨[], by decide, by decide⟩]

theorem userHosts_of_decodeAll_gateway :
    Record.decodeAll "wtmp" (logins.flatMap Stored.bytes) = .ok (logins.map Stored.record) ∧
    Range.host gateway ∈ userHosts (logins.map Stored.record) ∧ gateway.isMapped = false ∧
    ((∀ x, x ∈ (logins.map Stored.record).reverse ↔ x ∈ logins.map Stored.record) ∧
      userHosts (logins.map Stored.record).reverse = userHosts (logins.map Stored.record)) := by
  have hread := decodeAll_bytes "wtmp" logins
  obtain ⟨-, hhosts, -, hpermuted, hstored⟩ := userHosts_of_decodeAll hread
  have hmem : Range.host gateway ∈ userHosts (logins.map Stored.record) :=
    (hstored logins rfl gateway).mpr ⟨_, List.mem_cons_self, rfl, .embedded rfl rfl⟩
  exact ⟨hread, hmem, (hhosts _ hmem).2, fun _ ↦ List.mem_reverse,
    hpermuted _ fun _ ↦ List.mem_reverse⟩

end Login
end PacketFilter
