/-
  What `allocate_next_ip` and a REQUEST hand out (`src/dhcp_server.c`).

  The allocator has three sources: the client's reservation, its active entry, the scan of the pool.  Where
  the scan stops is a relation on the tables (`Server.Stops`); it passes over an address only if the FIRST
  entry for it is active, expired or not.

  Two laws are compared with what the code does: an acknowledged address should be usable by this client
  alone (`ack_usable_iff`), and a DISCOVER should be served while the pool has an address without a running
  lease (`discover_served_iff`).
-/
import FluxWAN.Dhcp.Server

namespace FluxWAN.Dhcp

open CString

/-! ## Where the scan stops -/

/-- The addresses the scan looks at, in host order: `start_h`, `start_h + 1`, … -/
def Server.visited (s : Server) (k : Nat) : UInt32 := (poolBounds s.config.lan).1 + UInt32.ofNat k

/-- The scan stops at this address: none of those before it is past the end or free. -/
def Server.Stops (s : Server) (mac : Mac) (ip : UInt32) : Prop :=
  ∃ k < 2 ^ 32, (∀ j ≤ k, s.visited j ≤ (poolBounds s.config.lan).2) ∧
    (∀ j < k, s.skips mac (htonl (s.visited j)) = true) ∧
    s.skips mac (htonl (s.visited k)) = false ∧ ip = htonl (s.visited k)

section
variable {s : Server} {mac : Mac}

/-- The loop, from its `k`th step on. -/
theorem scanPool_cases (s : Server) (mac : Mac) (k : Nat) :
    ∀ fuel, k + fuel = 2 ^ 32 → (∀ j < k, s.visited j ≤ (poolBounds s.config.lan).2) →
      (∀ j < k, s.skips mac (htonl (s.visited j)) = true) →
      s.Stops mac (s.scanPool mac (poolBounds s.config.lan).2 fuel (s.visited k)) ∨
        (s.scanPool mac (poolBounds s.config.lan).2 fuel (s.visited k) = 0 ∧ ∀ ip, ¬ s.Stops mac ip) := by
  intro fuel
  induction fuel generalizing k with
  | zero =>
    intro hk _ hskip
    refine .inr ⟨rfl, ?_⟩
    rintro ip ⟨i, hi, _, _, hstop, _⟩
    rw [hskip i (by omega)] at hstop
    cases hstop
  | succ fuel ih =>
    intro hk hle hskip
    have hnext : s.visited k + 1 = s.visited (k + 1) := by
      show _ + UInt32.ofNat k + 1 = _ + UInt32.ofNat (k + 1)
      rw [UInt32.add_assoc, UInt32.ofNat_add]
      rfl
    rw [Server.scanPool]
    by_cases hend : (poolBounds s.config.lan).2 < s.visited k
    · rw [if_pos hend]
      refine .inr ⟨rfl, ?_⟩
      rintro ip ⟨i, _, hvis, _, hstop, _⟩
      rcases Nat.lt_or_ge i k with hik | hik
      · rw [hskip i hik] at hstop
        cases hstop
      · exact absurd (hvis k hik) (UInt32.not_le.mpr hend)
    · rw [if_neg hend]
      have hle' : ∀ j ≤ k, s.visited j ≤ (poolBounds s.config.lan).2 := by
        intro j hj
        rcases Nat.lt_or_eq_of_le hj with hj | rfl
        · exact hle j hj
        · exact UInt32.not_lt.mp hend
      cases hs : s.skips mac (htonl (s.visited k)) with
      | true =>
        rw [if_pos rfl, hnext]
        refine ih (k + 1) (by omega) (fun j hj => hle' j (by omega)) fun j hj => ?_
        rcases Nat.lt_or_eq_of_le (Nat.le_of_lt_succ hj) with hj | rfl
        · exact hskip j hj
        · exact hs
      | false =>
        rw [if_neg (by simp)]
        exact .inl ⟨k, by omega, hle', hskip, hs, rfl⟩

theorem Server.Stops.unique (h : s.Stops mac ip) (h' : s.Stops mac ip') : ip = ip' := by
  obtain ⟨k, _, _, hskip, hstop, rfl⟩ := h
  obtain ⟨k', _, _, hskip', hstop', rfl⟩ := h'
  rcases Nat.lt_trichotomy k k' with hlt | rfl | hlt
  · rw [hskip' k hlt] at hstop
    cases hstop
  · rfl
  · rw [hskip k' hlt] at hstop'
    cases hstop'

/-! ## The allocator -/

/-- The reservation the allocator uses. -/
def Server.reservation (s : Server) (mac : Mac) : Option StaticLease :=
  (findStaticLeaseByMac s.config.lan mac).filter (·.ipAddr ≠ 0)

/-- The entry the allocator uses. -/
def Server.current (s : Server) (mac : Mac) : Option Lease :=
  (findLeaseByMac s.leases mac).filter (·.isActive)

/-- The three sources, and an exhausted pool. -/
inductive Server.Allocates (s : Server) (mac : Mac) : UInt32 → Prop
  | reserved {sl : StaticLease} : s.reservation mac = some sl → s.Allocates mac sl.ipAddr
  | leased {l : Lease} : s.reservation mac = none → s.current mac = some l → s.Allocates mac l.ipAddr
  | scanned {ip : UInt32} : s.reservation mac = none → s.current mac = none → s.Stops mac ip →
      s.Allocates mac ip
  | exhausted : s.reservation mac = none → s.current mac = none → (∀ ip, ¬ s.Stops mac ip) →
      s.Allocates mac 0

theorem allocates_allocateNextIp (s : Server) (mac : Mac) : s.Allocates mac (s.allocateNextIp mac) := by
  unfold Server.allocateNextIp
  cases hres : s.reservation mac with
  | some sl =>
    have hres' : (findStaticLeaseByMac s.config.lan mac).filter (·.ipAddr ≠ 0) = some sl := hres
    rw [hres']
    exact .reserved hres
  | none =>
    have hres' : (findStaticLeaseByMac s.config.lan mac).filter (·.ipAddr ≠ 0) = none := hres
    rw [hres']
    cases hcur : s.current mac with
    | some l =>
      have hcur' : (findLeaseByMac s.leases mac).filter (·.isActive) = some l := hcur
      simp only [hcur']
      exact .leased hres hcur
    | none =>
      have hcur' : (findLeaseByMac s.leases mac).filter (·.isActive) = none := hcur
      simp only [hcur']
      have hstart : s.visited 0 = (poolBounds s.config.lan).1 := UInt32.add_zero _
      have hscan := scanPool_cases s mac 0 (2 ^ 32) rfl
        (fun j hj => absurd hj (Nat.not_lt_zero j)) fun j hj => absurd hj (Nat.not_lt_zero j)
      rw [hstart] at hscan
      rcases hscan with hstop | ⟨hzero, hnone⟩
      · exact .scanned hres hcur hstop
      · rw [hzero]
        exact .exhausted hres hcur hnone

theorem process_discover {a : Arrival} (ha : a.accepted = some discover) :
    s.process a = if s.allocateNextIp a.req.mac = 0 then (s, none)
      else (s, some (s.reply a.req offer (s.allocateNextIp a.req.mac))) := by
  unfold Server.process
  rw [ha]
  rfl

theorem process_request {a : Arrival} (ha : a.accepted = some request) :
    s.process a = (s.updateLeaseRecord a.req.mac (s.assignedIp a.req) a.req.hostname a.now,
        some (s.reply a.req ack (s.assignedIp a.req))) := by
  unfold Server.process
  rw [ha]
  rfl

theorem process_release {a : Arrival} (ha : a.accepted = some release) :
    s.process a = (s.releaseLease a.req.mac, none) := by
  unfold Server.process
  rw [ha]
  rfl

end

/-! ## What an acknowledged address should be -/

/-- No other client's active lease holds the address. -/
def Server.FreeFor (s : Server) (mac : Mac) (ip : UInt32) : Prop :=
  ∀ l ∈ s.leases, l.isActive = true → l.ipAddr = ip → l.macAddr = mac

/-- The address is not reserved for another client. -/
def UnreservedFor (lan : LanConfig) (mac : Mac) (ip : UInt32) : Prop :=
  ∀ sl ∈ lan.staticLeases, sl.enabled = true → sl.ipAddr = ip → sl.macAddr = mac

/-- The address is reserved for the client. -/
def ReservedFor (lan : LanConfig) (mac : Mac) (ip : UInt32) : Prop :=
  ∃ sl ∈ lan.staticLeases, sl.enabled = true ∧ sl.macAddr = mac ∧ sl.ipAddr = ip

/-- The address lies in `dhcp_start` … `dhcp_end`. -/
def InPool (lan : LanConfig) (ip : UInt32) : Prop :=
  htonl lan.dhcpStart ≤ htonl ip ∧ htonl ip ≤ htonl lan.dhcpEnd

/-- The address may be acknowledged to this client. -/
structure Server.Usable (s : Server) (mac : Mac) (ip : UInt32) : Prop where
  nonzero : ip ≠ 0
  free : s.FreeFor mac ip
  unreserved : UnreservedFor s.config.lan mac ip
  placed : ReservedFor s.config.lan mac ip ∨ InPool s.config.lan ip

/-- The condition, source by source.  An address the request names is not checked at all; a reservation is
    at least non-zero and the client's own; the current lease is not checked; and where the scan stops, only
    the first entry and the first reservation of the address have been looked at. -/
structure AckSafe (s : Server) (req : Packet) : Prop where
  requested : ∀ ip, req.requestedIp = some ip → s.Usable req.mac ip
  reserved : req.requestedIp = none → ∀ sl, s.reservation req.mac = some sl →
    s.FreeFor req.mac sl.ipAddr ∧ UnreservedFor s.config.lan req.mac sl.ipAddr
  leased : req.requestedIp = none → s.reservation req.mac = none →
    ∀ l, s.current req.mac = some l → s.Usable req.mac l.ipAddr
  scanned : req.requestedIp = none → s.reservation req.mac = none → s.current req.mac = none →
    ∃ ip, s.Stops req.mac ip ∧ s.Usable req.mac ip

theorem reservation_spec {s : Server} {sl : StaticLease} (h : s.reservation mac = some sl) :
    sl ∈ s.config.lan.staticLeases ∧ sl.enabled = true ∧ sl.macAddr = mac ∧ sl.ipAddr ≠ 0 := by
  obtain ⟨hfind, hne⟩ := Option.filter_eq_some_iff.mp h
  have hp := List.find?_some hfind
  rw [Bool.and_eq_true] at hp
  exact ⟨List.mem_of_find?_eq_some hfind, hp.1, of_decide_eq_true hp.2, of_decide_eq_true hne⟩

theorem current_spec {s : Server} {l : Lease} (h : s.current mac = some l) :
    l ∈ s.leases ∧ l.macAddr = mac ∧ l.isActive = true := by
  obtain ⟨hfind, hact⟩ := Option.filter_eq_some_iff.mp h
  have hp : decide (l.macAddr = mac) = true :=
    List.find?_some (p := fun l : Lease => decide (l.macAddr = mac)) hfind
  exact ⟨List.mem_of_find?_eq_some hfind, of_decide_eq_true hp, hact⟩

/-- Every REQUEST is acknowledged, and with a usable address exactly under `AckSafe`. -/
theorem ack_usable_iff (s : Server) (a : Arrival) (ha : a.accepted = some request) :
    ∃ reply, (s.process a).2 = some reply ∧
      (s.Usable a.req.mac reply.yiaddr ↔ AckSafe s a.req) := by
  refine ⟨s.reply a.req ack (s.assignedIp a.req), ?_, ?_⟩
  · rw [process_request ha]
  · show s.Usable a.req.mac (s.assignedIp a.req) ↔ _
    unfold Server.assignedIp
    cases hreq : a.req.requestedIp with
    | some ip =>
      refine ⟨fun h => ⟨?_, ?_, ?_, ?_⟩, fun h => h.requested ip hreq⟩
      · rintro ip' hip'
        obtain rfl := Option.some.inj (hreq.symm.trans hip')
        exact h
      all_goals
        intro hnone
        exact nomatch hreq.symm.trans hnone
    | none =>
      rw [Option.getD_none]
      have halloc := allocates_allocateNextIp s a.req.mac
      generalize s.allocateNextIp a.req.mac = ip at halloc
      cases halloc with
      | reserved hres =>
        obtain ⟨hmem, hen, hmac, hne⟩ := reservation_spec hres
        constructor
        · intro h
          refine ⟨fun _ hs => ?_, fun _ sl hsl => ?_, fun _ hn => ?_, fun _ hn => ?_⟩
          · exact nomatch hreq.symm.trans hs
          · obtain rfl := Option.some.inj (hres.symm.trans hsl)
            exact ⟨h.free, h.unreserved⟩
          · exact nomatch hres.symm.trans hn
          · exact nomatch hres.symm.trans hn
        · intro h
          obtain ⟨hfree, hunres⟩ := h.reserved hreq _ hres
          exact ⟨hne, hfree, hunres, .inl ⟨_, hmem, hen, hmac, rfl⟩⟩
      | leased hres hcur =>
        constructor
        · intro h
          refine ⟨fun _ hs => ?_, fun _ sl hsl => ?_, fun _ _ l hl => ?_, fun _ _ hn => ?_⟩
          · exact nomatch hreq.symm.trans hs
          · exact nomatch hres.symm.trans hsl
          · obtain rfl := Option.some.inj (hcur.symm.trans hl)
            exact h
          · exact nomatch hcur.symm.trans hn
        · exact fun h => h.leased hreq hres _ hcur
      | scanned hres hcur hstop =>
        constructor
        · intro h
          refine ⟨fun _ hs => ?_, fun _ sl hsl => ?_, fun _ _ l hl => ?_, fun _ _ _ => ⟨ip, hstop, h⟩⟩
          · exact nomatch hreq.symm.trans hs
          · exact nomatch hres.symm.trans hsl
          · exact nomatch hcur.symm.trans hl
        · intro h
          obtain ⟨ip', hstop', husable⟩ := h.scanned hreq hres hcur
          rwa [hstop.unique hstop']
      | exhausted hres hcur hnone =>
        constructor
        · exact fun h => absurd rfl h.nonzero
        · intro h
          obtain ⟨ip', hstop', _⟩ := h.scanned hreq hres hcur
          exact absurd hstop' (hnone ip')

/-! ## When a DISCOVER should be served -/

/-- The pool has an address that is not reserved for another client and that no lease still running at
    `t` holds. -/
def Server.HasFree (s : Server) (mac : Mac) (t : Nat) : Prop :=
  ∃ ipH, (poolBounds s.config.lan).1 ≤ ipH ∧ ipH ≤ (poolBounds s.config.lan).2 ∧
    UnreservedFor s.config.lan mac (htonl ipH) ∧
    ∀ l ∈ s.leases, l.isActive = true → l.ipAddr = htonl ipH → l.leaseExpireSec ≤ t

/-- The allocator has an address for the client: a reservation, else the address of its active entry, else
    one whose first entry is not active. -/
inductive Server.Serves (s : Server) (mac : Mac) : Prop
  | reserved {sl : StaticLease} : s.reservation mac = some sl → s.Serves mac
  | leased {l : Lease} : s.reservation mac = none → s.current mac = some l → l.ipAddr ≠ 0 → s.Serves mac
  | scanned {ip : UInt32} : s.reservation mac = none → s.current mac = none → s.Stops mac ip → ip ≠ 0 →
      s.Serves mac

theorem allocateNextIp_ne_zero_iff (s : Server) (mac : Mac) :
    s.allocateNextIp mac ≠ 0 ↔ s.Serves mac := by
  have halloc := allocates_allocateNextIp s mac
  generalize s.allocateNextIp mac = ip at halloc
  cases halloc with
  | reserved hres => exact ⟨fun _ => .reserved hres, fun _ => (reservation_spec hres).2.2.2⟩
  | leased hres hcur =>
    refine ⟨.leased hres hcur, fun h => ?_⟩
    cases h with
    | reserved hres' => exact nomatch hres.symm.trans hres'
    | leased _ hcur' hne =>
      obtain rfl := Option.some.inj (hcur.symm.trans hcur')
      exact hne
    | scanned _ hcur' _ _ => exact nomatch hcur.symm.trans hcur'
  | scanned hres hcur hstop =>
    refine ⟨.scanned hres hcur hstop, fun h => ?_⟩
    cases h with
    | reserved hres' => exact nomatch hres.symm.trans hres'
    | leased _ hcur' _ => exact nomatch hcur.symm.trans hcur'
    | scanned _ _ hstop' hne => rwa [hstop.unique hstop']
  | exhausted hres hcur hnone =>
    refine ⟨fun h => absurd rfl h, fun h => ?_⟩
    cases h with
    | reserved hres' => exact nomatch hres.symm.trans hres'
    | leased _ hcur' _ => exact nomatch hcur.symm.trans hcur'
    | scanned _ _ hstop' _ => exact absurd hstop' (hnone _)

/-- A DISCOVER is answered whenever the pool has an address without a running lease, exactly if in that
    case the allocator, which does not look at the expiry, has one. -/
theorem discover_served_iff (s : Server) (a : Arrival) (ha : a.accepted = some discover) :
    (s.HasFree a.req.mac a.now → ∃ reply, (s.process a).2 = some reply) ↔
      (s.HasFree a.req.mac a.now → s.Serves a.req.mac) := by
  have hoffer : (∃ reply, (s.process a).2 = some reply) ↔ s.Serves a.req.mac := by
    rw [← allocateNextIp_ne_zero_iff, process_discover ha]
    by_cases hzero : s.allocateNextIp a.req.mac = 0
    · rw [if_pos hzero]
      exact ⟨fun ⟨_, h⟩ => (nomatch h), fun h => absurd hzero h⟩
    · rw [if_neg hzero]
      exact ⟨fun _ => hzero, fun _ => ⟨_, rfl⟩⟩
  rw [hoffer]

/-! ### A pool of one address -/

/-- Only 192.168.90.100, leased for a minute. -/
def tinyPool : Config where
  lan := { dhcpEnabled := true, dhcpStart := 0x645AA8C0, dhcpEnd := 0x645AA8C0, dhcpLeaseTime := 60 }

/-- A message of the client with this MAC, for the given address if any. -/
def message (type : UInt8) (mac : Mac) (wanted : Option UInt32) (now : Nat) : Arrival where
  req :=
    { op := bootRequest
      chaddr := Vector.ofFn fun i => mac.toList.getD i 0
      magic := htonl magicCookie
      options := optionArea
        ([optMsgType, 1, type] ++ wanted.elim [] fun ip => [optReqIp, 4] ++ Bytes.bytes32 ip) }
  received := 548
  now

def clientA : Mac := #v[2, 0, 0, 0, 0, 0xa]
def clientB : Mac := #v[2, 0, 0, 0, 0, 0xb]

/-- The server as it starts: the demonstration device has the address. -/
def tinyServer : Server := (Server.init tinyPool 0).getD {}

/-- Nobody has the address: it can be acknowledged. -/
theorem ack_usable_emptyTable :
    ∃ reply, ((Server.process { config := tinyPool } (message request clientA (some 0x645AA8C0) 5)).2 = some reply) ∧
      Server.Usable { config := tinyPool } clientA reply.yiaddr := by
  have hmac : (message request clientA (some 0x645AA8C0) 5).req.mac = clientA := by decide
  have hreq : (message request clientA (some 0x645AA8C0) 5).req.requestedIp = some 0x645AA8C0 := by
    decide +kernel
  obtain ⟨reply, hreply, hiff⟩ := ack_usable_iff { config := tinyPool }
    (message request clientA (some 0x645AA8C0) 5) (by decide +kernel)
  refine ⟨reply, hreply, ?_⟩
  rw [hmac] at hiff
  refine hiff.mpr ⟨fun ip hip => ?_, fun hn => ?_, fun hn => ?_, fun hn => ?_⟩
  · obtain rfl := Option.some.inj (hreq.symm.trans hip)
    exact ⟨by decide, fun l hl => (nomatch hl), fun sl hsl => (nomatch hsl), .inr ⟨by decide, by decide⟩⟩
  all_goals exact nomatch hreq.symm.trans hn

/-- A request for the address of the demonstration device is acknowledged. -/
theorem ack_not_usable :
    ∃ reply, (tinyServer.process (message request clientA (some 0x645AA8C0) 5)).2 = some reply ∧
      ¬ tinyServer.Usable clientA reply.yiaddr := by
  have ha : (message request clientA (some 0x645AA8C0) 5).accepted = some request := by decide +kernel
  have hip : tinyServer.assignedIp (message request clientA (some 0x645AA8C0) 5).req = 0x645AA8C0 := by
    decide +kernel
  rw [process_request ha, hip]
  refine ⟨_, rfl, fun h => ?_⟩
  have hheld : ∃ l ∈ tinyServer.leases, l.isActive = true ∧ l.ipAddr = 0x645AA8C0 ∧ l.macAddr ≠ clientA := by
    decide
  obtain ⟨l, hl, hact, hlip, hmac⟩ := hheld
  exact hmac (h.free l hl hact hlip)

/-- With an empty table the DISCOVER is answered. -/
theorem discover_served_emptyTable :
    ∃ reply, (Server.process { config := tinyPool } (message discover clientA none 5)).2 = some reply := by
  have hmac : (message discover clientA none 5).req.mac = clientA := by decide
  have hiff := discover_served_iff { config := tinyPool } (message discover clientA none 5)
    (by decide +kernel)
  rw [hmac] at hiff
  refine hiff.mpr (fun _ => ?_) ⟨0xC0A85A64, by decide, by decide, fun sl hsl => (nomatch hsl),
    fun l hl => (nomatch hl)⟩
  exact (allocateNextIp_ne_zero_iff _ _).mp (by decide)

/-- The lease of the demonstration device ran out at 60, but nobody ever gets its address: at 1000 the
    DISCOVER is not answered. -/
theorem discover_not_served :
    tinyServer.HasFree clientA 1000 ∧ (tinyServer.process (message discover clientA none 1000)).2 = none := by
  refine ⟨⟨0xC0A85A64, by decide +kernel, by decide +kernel, ?_, ?_⟩, by decide +kernel⟩
  · exact fun sl hsl => (nomatch hsl)
  · decide

end FluxWAN.Dhcp
