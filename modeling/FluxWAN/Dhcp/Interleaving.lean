/-
  Clients in any interleaving (`src/dhcp_server.c`: `dhcp_server_process` over whole runs).

  A client asks for an address (DISCOVER), requests the one it was last offered or the one it has, and
  releases it.  The server keeps no record of its offers, so the run carries them along as a ghost
  (`Net.offered`).  Wanted: no two clients hold the same address, and no offer names an address somebody
  else holds.

  `Sound` is the invariant: one entry per MAC, no shared address, no active entry and no offer on an address
  reserved for somebody else.  A REQUEST keeps it if the address is not held by another client by then; this
  the server does not check (`Careful`).
-/
import FluxWAN.Dhcp.Allocation

namespace FluxWAN.Dhcp

/-- The reservations are for different clients and different addresses. -/
structure ValidReservations (lan : LanConfig) : Prop where
  macs : (lan.staticLeases.map StaticLease.macAddr).Nodup
  ips : (lan.staticLeases.map StaticLease.ipAddr).Nodup

/-- No two clients hold the same address. -/
def Server.NoSharing (s : Server) : Prop :=
  ∀ l ∈ s.leases, ∀ l' ∈ s.leases, l.isActive = true → l'.isActive = true → l.ipAddr = l'.ipAddr →
    l.macAddr = l'.macAddr

/-! ## The lease table -/

section
variable {s : Server} {mac : Mac} {ip : UInt32} {hostname : CString.CStr} {now : Nat}

theorem mem_modify {α : Type} {xs : List α} {i : Nat} {f : α → α} {x : α} (h : x ∈ xs.modify i f) :
    (∃ y, xs[i]? = some y ∧ x = f y) ∨ ∃ j ≠ i, xs[j]? = some x := by
  obtain ⟨j, hj⟩ := List.mem_iff_getElem?.mp h
  rw [List.getElem?_modify] at hj
  by_cases hij : i = j
  · subst hij
    obtain ⟨y, hy, rfl⟩ := Option.map_eq_some_iff.mp hj
    exact .inl ⟨y, hy, by simp⟩
  · refine .inr ⟨j, Ne.symm hij, ?_⟩
    simpa [hij] using hj

/-- One entry per client. -/
def Server.OnePerMac (s : Server) : Prop := (s.leases.map Lease.macAddr).Nodup

theorem Server.OnePerMac.eq_of_getElem? (h : s.OnePerMac) {i j : Nat} {l l' : Lease}
    (hi : s.leases[i]? = some l) (hj : s.leases[j]? = some l') (hmac : l.macAddr = l'.macAddr) : i = j := by
  have hi' : (s.leases.map Lease.macAddr)[i]? = some l.macAddr := by rw [List.getElem?_map, hi]; rfl
  have hj' : (s.leases.map Lease.macAddr)[j]? = some l.macAddr := by rw [List.getElem?_map, hj, hmac]; rfl
  obtain ⟨hlt, heq⟩ := List.getElem?_eq_some_iff.mp hi'
  obtain ⟨hlt', heq'⟩ := List.getElem?_eq_some_iff.mp hj'
  exact (List.Nodup.getElem_inj_iff h).mp (heq.trans heq'.symm)

theorem writeLease_fields (lan : LanConfig) :
    (writeLease lan mac ip hostname now l).macAddr = mac ∧
      (writeLease lan mac ip hostname now l).ipAddr = ip :=
  ⟨rfl, rfl⟩

theorem map_macAddr_modify (xs : List Lease) (h : ∀ l, xs[i]? = some l → (f l).macAddr = l.macAddr) :
    (xs.modify i f).map Lease.macAddr = xs.map Lease.macAddr := by
  refine List.ext_getElem? fun j => ?_
  rw [List.getElem?_map, List.getElem?_map, List.getElem?_modify]
  by_cases hij : i = j
  · subst hij
    cases hget : xs[i]? with
    | none => rfl
    | some l => simp [h l hget]
  · simp [hij]

/-- After `update_lease_record` the client has its one entry, with the address; the other entries are old
    ones of other clients. -/
theorem updateLeaseRecord_spec (h : s.OnePerMac) (mac : Mac) (ip : UInt32) (hostname : CString.CStr) :
    (s.updateLeaseRecord mac ip hostname now).OnePerMac ∧
      ∀ l ∈ (s.updateLeaseRecord mac ip hostname now).leases,
        (l.macAddr = mac ∧ l.ipAddr = ip) ∨ (l ∈ s.leases ∧ l.macAddr ≠ mac) := by
  unfold Server.updateLeaseRecord
  cases hidx : s.leases.findIdx? (·.macAddr = mac) with
  | some i =>
    -- the client's own entry is rewritten
    obtain ⟨hi, hmac, -⟩ := List.findIdx?_eq_some_iff_getElem.mp hidx
    have hmac : s.leases[i].macAddr = mac := of_decide_eq_true hmac
    have hget : s.leases[i]? = some s.leases[i] := List.getElem?_eq_getElem hi
    constructor
    · show ((s.leases.modify i _).map Lease.macAddr).Nodup
      rw [map_macAddr_modify]
      · exact h
      · intro l hl
        obtain rfl := Option.some.inj (hget.symm.trans hl)
        exact hmac.symm
    · intro l hl
      rcases mem_modify hl with ⟨l₀, _, rfl⟩ | ⟨j, hji, hj⟩
      · exact .inl (writeLease_fields _)
      · refine .inr ⟨List.mem_of_getElem? hj, fun hm => hji ?_⟩
        exact h.eq_of_getElem? hj hget (hm.trans hmac.symm)
  | none =>
    have hnew : ∀ l ∈ s.leases, l.macAddr ≠ mac := by
      intro l hl
      simpa using List.findIdx?_eq_none_iff.mp hidx l hl
    have hnotin : mac ∉ s.leases.map Lease.macAddr := by
      rintro hm
      obtain ⟨l, hl, hlm⟩ := List.mem_map.mp hm
      exact hnew l hl hlm
    simp only [Server.addLease]
    split
    · -- a new entry
      constructor
      · show ((s.leases ++ [_]).map Lease.macAddr).Nodup
        rw [List.map_append, List.map_singleton, (writeLease_fields _).1]
        exact List.nodup_append.mpr ⟨h, List.nodup_singleton _, by
          rintro m hm m' hm' rfl
          obtain rfl := List.mem_singleton.mp hm'
          exact hnotin hm⟩
      · intro l hl
        rcases List.mem_append.mp hl with hl | hl
        · exact .inr ⟨hl, hnew l hl⟩
        · obtain rfl := List.mem_singleton.mp hl
          exact .inl (writeLease_fields _)
    · -- the table is full: entry 0 changes hands
      constructor
      · show ((s.leases.modify 0 _).map Lease.macAddr).Nodup
        rcases hls : s.leases with _ | ⟨l₀, rest⟩
        · exact List.nodup_nil
        · have hmod : (l₀ :: rest).modify 0 (writeLease s.config.lan mac ip hostname now) =
              writeLease s.config.lan mac ip hostname now l₀ :: rest := rfl
          have hnodup : (l₀.macAddr :: rest.map Lease.macAddr).Nodup := by
            have := h
            rwa [Server.OnePerMac, hls] at this
          rw [hmod, List.map_cons, (writeLease_fields _).1, List.nodup_cons]
          refine ⟨fun hm => hnotin ?_, (List.nodup_cons.mp hnodup).2⟩
          rw [hls, List.map_cons]
          exact List.mem_cons_of_mem _ hm
      · intro l hl
        rcases mem_modify hl with ⟨l₀, _, rfl⟩ | ⟨j, _, hj⟩
        · exact .inl (writeLease_fields _)
        · exact .inr ⟨List.mem_of_getElem? hj, hnew l (List.mem_of_getElem? hj)⟩

/-- A release leaves every entry with its client and address, and makes none active. -/
theorem releaseLease_spec (h : s.OnePerMac) (mac : Mac) :
    (s.releaseLease mac).OnePerMac ∧
      ∀ l ∈ (s.releaseLease mac).leases, l.isActive = true → l ∈ s.leases := by
  unfold Server.releaseLease
  cases s.leases.findIdx? (·.macAddr = mac) with
  | none => exact ⟨h, fun l hl _ => hl⟩
  | some i =>
    constructor
    · show ((s.leases.modify i _).map Lease.macAddr).Nodup
      rw [map_macAddr_modify]
      · exact h
      · intro l _
        rfl
    · intro l hl hact
      rcases mem_modify hl with ⟨l₀, _, rfl⟩ | ⟨j, _, hj⟩
      · cases hact
      · exact List.mem_of_getElem? hj

theorem updateLeaseRecord_config :
    (s.updateLeaseRecord mac ip hostname now).config = s.config := by
  unfold Server.updateLeaseRecord Server.addLease
  split
  · rfl
  · split <;> rfl

theorem releaseLease_config : (s.releaseLease mac).config = s.config := by
  unfold Server.releaseLease
  split <;> rfl

end

/-! ## Runs -/

/-- The server with the last offer made to each client. -/
structure Net where
  server : Server
  offered : Mac → Option UInt32 := fun _ => none

/-- One message. -/
def Net.step (n : Net) (a : Arrival) : Net where
  server := (n.server.process a).1
  offered :=
    match a.accepted, (n.server.process a).2 with
    | some 1, some reply => Function.update n.offered a.req.mac (some reply.yiaddr)
    | _, _ => n.offered

/-- A client requests the address it was last offered, or the one it has. -/
def Net.Honest (n : Net) (a : Arrival) : Prop :=
  a.accepted = some request → ∃ ip, a.req.requestedIp = some ip ∧
    (n.offered a.req.mac = some ip ∨ ∃ l, n.server.current a.req.mac = some l ∧ l.ipAddr = ip)

/-- What the server does not check: a requested address is not held by another client, and neither is
    the address at which a scan stops (its first entry is not active, but a later one may be). -/
structure Server.Careful (s : Server) (a : Arrival) : Prop where
  requested : a.accepted = some request → ∀ ip, a.req.requestedIp = some ip → s.FreeFor a.req.mac ip
  scanned : a.accepted = some discover → s.reservation a.req.mac = none → s.current a.req.mac = none →
    ∀ ip, s.Stops a.req.mac ip → s.FreeFor a.req.mac ip

/-- The states of a run whose messages all meet the condition. -/
inductive Net.Reachable (n₀ : Net) : Net → Prop
  | start : n₀.Reachable n₀
  | step {n : Net} {a : Arrival} : n₀.Reachable n → n.Honest a → n.server.Careful a → n₀.Reachable (n.step a)

/-- The invariant, for the LAN settings the server was started with. -/
structure Sound (lan : LanConfig) (n : Net) : Prop where
  config : n.server.config.lan = lan
  macs : n.server.OnePerMac
  sharing : n.server.NoSharing
  leases : ∀ l ∈ n.server.leases, l.isActive = true → UnreservedFor lan l.macAddr l.ipAddr
  offers : ∀ mac ip, n.offered mac = some ip → UnreservedFor lan mac ip

section
variable {lan : LanConfig} {n : Net} {mac : Mac} {ip : UInt32}

/-- An address with distinct reservations, one of which is the client's, is nobody else's. -/
theorem ValidReservations.unreservedFor (hv : ValidReservations lan) {sl : StaticLease}
    (hmem : sl ∈ lan.staticLeases) : UnreservedFor lan sl.macAddr sl.ipAddr := by
  intro sl' hmem' _ hip
  rw [List.inj_on_of_nodup_map hv.ips hmem' hmem hip]

/-- The scan passes over addresses reserved for others. -/
theorem ValidReservations.unreservedFor_of_stops (hv : ValidReservations lan)
    (hlan : n.server.config.lan = lan) (h : n.server.Stops mac ip) : UnreservedFor lan mac ip := by
  obtain ⟨k, _, _, _, hskip, rfl⟩ := h
  have hres : isIpReservedByStatic lan (htonl (n.server.visited k)) mac = false := by
    rw [← hlan]
    exact (Bool.or_eq_false_iff.mp hskip).1
  intro sl hmem hen hip
  unfold isIpReservedByStatic at hres
  cases hfind : lan.staticLeases.find? (fun sl => sl.enabled && decide
      (sl.ipAddr = htonl (n.server.visited k))) with
  | none =>
    have := List.find?_eq_none.mp hfind sl hmem
    simp [hen, hip] at this
  | some sl' =>
    rw [hfind] at hres
    have hp := List.find?_some hfind
    rw [Bool.and_eq_true] at hp
    have heq := List.inj_on_of_nodup_map hv.ips hmem (List.mem_of_find?_eq_some hfind)
      (hip.trans (of_decide_eq_true hp.2).symm)
    rw [heq]
    simpa using hres

/-- What the allocator finds is reserved for nobody else, and held by nobody else if the scan was lucky. -/
theorem Sound.allocates (h : Sound lan n) (hv : ValidReservations lan)
    (ha : n.server.Allocates mac ip) (hne : ip ≠ 0)
    (hscan : n.server.reservation mac = none → n.server.current mac = none →
      ∀ ip, n.server.Stops mac ip → n.server.FreeFor mac ip) :
    UnreservedFor lan mac ip ∧ n.server.FreeFor mac ip := by
  cases ha with
  | reserved hres =>
    obtain ⟨hmem, hen, hmac, _⟩ := reservation_spec hres
    rw [h.config] at hmem
    refine ⟨hmac ▸ hv.unreservedFor hmem, fun l hl hact hip => ?_⟩
    rw [← hmac]
    exact (h.leases l hl hact _ hmem hen hip.symm).symm
  | leased _ hcur =>
    obtain ⟨hmem, hmac, hact⟩ := current_spec hcur
    refine ⟨hmac ▸ h.leases _ hmem hact, fun l hl hact' hip => ?_⟩
    rw [← hmac]
    exact h.sharing l hl _ hmem hact' hact hip
  | scanned hres hcur hstop => exact ⟨hv.unreservedFor_of_stops h.config hstop, hscan hres hcur _ hstop⟩
  | exhausted => exact absurd rfl hne

/-- A client may be given an address that is reserved for and held by nobody else. -/
theorem Sound.updateLease (h : Sound lan n) (hunres : UnreservedFor lan mac ip)
    (hfree : n.server.FreeFor mac ip) (hostname : CString.CStr) (now : Nat) :
    Sound lan { n with server := n.server.updateLeaseRecord mac ip hostname now } := by
  obtain ⟨hmacs, hmem⟩ := updateLeaseRecord_spec h.macs mac ip hostname
  refine ⟨?_, hmacs, ?_, ?_, h.offers⟩
  · rw [← h.config]
    exact congrArg Config.lan updateLeaseRecord_config
  · intro l hl l' hl' hact hact' hip
    rcases hmem l hl with ⟨hm, hi⟩ | ⟨hl, hm⟩ <;> rcases hmem l' hl' with ⟨hm', hi'⟩ | ⟨hl', hm'⟩
    · rw [hm, hm']
    · exact absurd (hfree l' hl' hact' (hip.symm.trans hi)) hm'
    · exact absurd (hfree l hl hact (hip.trans hi')) hm
    · exact h.sharing l hl l' hl' hact hact' hip
  · intro l hl hact
    rcases hmem l hl with ⟨hm, hi⟩ | ⟨hl, _⟩
    · rw [hm, hi]
      exact hunres
    · exact h.leases l hl hact

theorem Sound.releaseLease (h : Sound lan n) (mac : Mac) :
    Sound lan { n with server := n.server.releaseLease mac } := by
  obtain ⟨hmacs, hmem⟩ := releaseLease_spec h.macs mac
  refine ⟨?_, hmacs, ?_, ?_, h.offers⟩
  · rw [← h.config]
    exact congrArg Config.lan releaseLease_config
  · intro l hl l' hl' hact hact' hip
    exact h.sharing l (hmem l hl hact) l' (hmem l' hl' hact') hact hact' hip
  · exact fun l hl hact => h.leases l (hmem l hl hact) hact

/-- An offer is recorded. -/
theorem Sound.recordOffer (h : Sound lan n) (hunres : UnreservedFor lan mac ip) :
    Sound lan { n with offered := Function.update n.offered mac (some ip) } := by
  refine ⟨h.config, h.macs, h.sharing, h.leases, fun m i hi => ?_⟩
  have hi : Function.update n.offered mac (some ip) m = some i := hi
  by_cases hm : m = mac
  · subst hm
    rw [Function.update_self] at hi
    obtain rfl := Option.some.inj hi
    exact hunres
  · exact h.offers m i (by rwa [Function.update_of_ne hm] at hi)

/-- A message in a sound state: the state stays sound, and an offer names an address nobody else holds. -/
theorem Sound.step {a : Arrival} (h : Sound lan n) (hv : ValidReservations lan) (hhonest : n.Honest a)
    (hcareful : n.server.Careful a) :
    Sound lan (n.step a) ∧
      (a.accepted = some discover → ∀ reply, (n.server.process a).2 = some reply →
        n.server.FreeFor a.req.mac reply.yiaddr) := by
  unfold Net.step
  by_cases hd : a.accepted = some discover
  · -- DISCOVER: the table stays, the offer is noted
    rw [process_discover hd]
    by_cases hzero : n.server.allocateNextIp a.req.mac = 0
    · rw [if_pos hzero, hd]
      exact ⟨h, fun _ _ hr => (nomatch hr)⟩
    · rw [if_neg hzero, hd]
      obtain ⟨hunres, hfree⟩ :=
        h.allocates hv (allocates_allocateNextIp n.server a.req.mac) hzero (hcareful.scanned hd)
      refine ⟨h.recordOffer hunres, fun _ reply hr => ?_⟩
      obtain rfl := Option.some.inj hr
      exact hfree
  · have hsame : (match a.accepted, (n.server.process a).2 with
        | some 1, some reply => Function.update n.offered a.req.mac (some reply.yiaddr)
        | _, _ => n.offered) = n.offered := by
      split
      · rename_i hacc _
        exact absurd hacc hd
      · rfl
    refine ⟨?_, fun hd' => absurd hd' hd⟩
    rw [hsame]
    by_cases hr : a.accepted = some request
    · -- REQUEST: the address was offered, or is the client's already
      obtain ⟨ip, hip, hsource⟩ := hhonest hr
      rw [process_request hr, Server.assignedIp, hip, Option.getD_some]
      refine h.updateLease ?_ (hcareful.requested hr ip hip) _ _
      rcases hsource with hoff | ⟨l, hcur, rfl⟩
      · exact h.offers _ _ hoff
      · obtain ⟨hmem, hmac, hact⟩ := current_spec hcur
        exact hmac ▸ h.leases l hmem hact
    · by_cases hrel : a.accepted = some release
      · rw [process_release hrel]
        exact h.releaseLease _
      · have hnop : (n.server.process a).1 = n.server := by
          unfold Server.process
          cases hacc : a.accepted with
          | none => rfl
          | some type =>
            rw [hacc] at hd hr hrel
            simp only
            rw [if_neg fun ht => hd (congrArg some ht), if_neg fun ht => hr (congrArg some ht),
              if_neg fun ht => hrel (congrArg some ht)]
        rw [hnop]
        exact h

end

/-! ## The start -/

section
variable {config : Config} {now : Nat}

/-- Reservations are entered one after the other. -/
theorem Sound.foldl_reservations (hv : ValidReservations config.lan) (now : Nat) :
    ∀ (sls : List StaticLease) (n : Net), (∀ sl ∈ sls, sl ∈ config.lan.staticLeases ∧ sl.enabled = true) →
      Sound config.lan n →
      Sound config.lan
        { n with
          server := sls.foldl
            (fun s sl => s.updateLeaseRecord sl.macAddr sl.ipAddr sl.hostname now) n.server } := by
  intro sls
  induction sls with
  | nil => intro n _ h; exact h
  | cons sl sls ih =>
    intro n hall h
    obtain ⟨hmem, hen⟩ := hall sl List.mem_cons_self
    have hstep := h.updateLease (hv.unreservedFor hmem)
      (fun l hl hact hip => (h.leases l hl hact sl hmem hen hip.symm).symm) sl.hostname now
    exact ih _ (fun sl' hsl' => hall sl' (List.mem_cons_of_mem _ hsl')) hstep

theorem updateLeaseRecord_ne_nil (s : Server) (mac : Mac) (ip : UInt32) (hostname : CString.CStr) :
    (s.updateLeaseRecord mac ip hostname now).leases ≠ [] := by
  unfold Server.updateLeaseRecord
  cases hidx : s.leases.findIdx? (·.macAddr = mac) with
  | some i =>
    obtain ⟨hi, -⟩ := List.findIdx?_eq_some_iff_getElem.mp hidx
    intro hnil
    have hlen : (s.leases.modify i (writeLease s.config.lan mac ip hostname now)).length = 0 :=
      congrArg List.length hnil
    rw [List.length_modify] at hlen
    omega
  | none =>
    simp only [Server.addLease]
    split
    · exact List.append_ne_nil_of_right_ne_nil _ (List.cons_ne_nil _ _)
    · rename_i hfull
      intro hnil
      have hlen : (s.leases.modify 0 (writeLease s.config.lan mac ip hostname now)).length = 0 :=
        congrArg List.length hnil
      rw [List.length_modify] at hlen
      exact hfull (by rw [hlen]; decide)

/-- The server starts sound: it knows its reservations, or else one device that has no rival. -/
theorem sound_init (hv : ValidReservations config.lan) (hs : Server.init config now = some s) :
    Sound config.lan { server := s } := by
  unfold Server.init at hs
  split at hs
  · cases hs
  · have hempty : Sound config.lan { server := { config } } :=
      ⟨rfl, List.nodup_nil, fun l hl => (nomatch hl), fun l hl => (nomatch hl), fun _ _ h => (nomatch h)⟩
    have hfold := Sound.foldl_reservations hv now
      (config.lan.staticLeases.filter fun sl => sl.enabled && sl.ipAddr ≠ 0) _ (fun sl hsl => by
        rw [List.mem_filter, Bool.and_eq_true] at hsl
        exact ⟨hsl.1, hsl.2.1⟩) hempty
    obtain rfl := Option.some.inj hs
    split
    · rename_i hnil
      refine hfold.updateLease ?_ (fun l hl => ?_) _ _
      · -- without any reservation entered, none has a non-zero address
        intro sl hmem hen hip
        exfalso
        have hne : sl.ipAddr ≠ 0 := by
          rw [hip]
          split
          · assumption
          · decide
        have hin : sl ∈ config.lan.staticLeases.filter fun sl => sl.enabled && sl.ipAddr ≠ 0 := by
          rw [List.mem_filter, hen, Bool.true_and]
          exact ⟨hmem, decide_eq_true hne⟩
        obtain ⟨front, last, heq⟩ := (List.eq_nil_or_concat _).resolve_left (List.ne_nil_of_mem hin)
        rw [heq, List.concat_eq_append, List.foldl_append] at hnil
        exact updateLeaseRecord_ne_nil _ _ _ _ hnil
      · have hl : l ∈ ([] : List Lease) := hnil ▸ hl
        cases hl
    · exact hfold

end

theorem sound_of_reachable {n₀ n : Net} (hv : ValidReservations lan)
    (h₀ : Sound lan n₀) (h : n₀.Reachable n) : Sound lan n := by
  induction h with
  | start => exact h₀
  | step _ hhonest hcareful ih => exact (ih.step hv hhonest hcareful).1

/-- 192.168.90.100 to 192.168.90.110, no reservations. -/
def smallPool : Config where
  lan := { dhcpEnabled := true, dhcpStart := 0x645AA8C0, dhcpEnd := 0x6E5AA8C0, dhcpLeaseTime := 60 }

def smallServer : Server := (Server.init smallPool 0).getD {}

theorem init_smallPool : Server.init smallPool 0 = some smallServer := rfl

theorem validReservations_smallPool : ValidReservations smallPool.lan := ⟨List.nodup_nil, List.nodup_nil⟩

/-- The first free address, 192.168.90.101. -/
abbrev firstFree : UInt32 := 0x655AA8C0

instance (s : Server) (mac : Mac) (ip : UInt32) : Decidable (s.FreeFor mac ip) :=
  inferInstanceAs (Decidable (∀ l ∈ s.leases, _))

/-- The server after these messages. -/
def smallNet (as : List Arrival) : Net := as.foldl Net.step { server := smallServer }

theorem smallNet_append_one (a : Arrival) : smallNet (as ++ [a]) = (smallNet as).step a := by
  rw [smallNet, List.foldl_append]
  rfl

def discoverA : Arrival := message discover clientA none 1
def discoverB : Arrival := message discover clientB none 2
def requestA : Arrival := message request clientA (some firstFree) 3
def requestB : Arrival := message request clientB (some firstFree) 4

theorem honest_of_discover {n : Net} {a : Arrival} (ha : a.accepted = some discover) : n.Honest a :=
  fun hr => absurd (ha.symm.trans hr) (by decide)

theorem honest_of_offered {n : Net} {a : Arrival} (ip : UInt32) (hreq : a.req.requestedIp = some ip)
    (hoff : n.offered a.req.mac = some ip) : n.Honest a :=
  fun _ => ⟨ip, hreq, .inl hoff⟩

end FluxWAN.Dhcp
