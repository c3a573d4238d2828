/-
  The XDP router (`bpf/xdp_router.bpf.c`: `xdp_router_func`).

  Per packet: parse, answer a ping to the router itself, look for a session in two tiers (a per-CPU cache
  in front of a shared map), and failing that dispatch the flow — LPM route, policy group, Maglev ring,
  health fallback — and write a new session into both tiers; then packet-too-big reflection, SNAT and
  counters.

  What the program writes is `RouterState` (the two tiers and the counters); what it only reads is
  `Tables`.  Selection is cut where its meaning changes:

  * `Sessions.find`   — what the packet finds, and the cache line it fills on the way;
  * `judge`           — what the WAN table says about a found session (`Verdict`);
  * `dispatch`        — the WAN the tables give to a flow that has no session to follow;
  * `selectWan`       — the composition, with what is deleted and written.

  The last section cuts the tiers the other way, by KEY: a packet only ever touches the row of its own
  key, and what it does there is the small machine `TierRow.select` (`selectWan_row`).  Everything about
  sessions is proved on that machine.
-/
import FluxWAN.BpfLoader
import FluxWAN.Xdp.Rewrite

namespace FluxWAN.Xdp

open Bytes BpfMap

abbrev Cpu := Nat

/-! ## State -/

/-- `struct bpf_session_val`; all-zero as the kernel's zero fill leaves it. -/
structure SessionVal where
  wanIdx : UInt32 := 0
  wanId : UInt32 := 0
  origSrcIp : UInt32 := 0
  lastSeenNs : UInt64 := 0
  deriving DecidableEq, Repr

/-- The two session tiers: `local_lru_map` and `sticky_flow_map`. -/
structure Sessions where
  localLru : LruPercpuHash Cpu FlowKey SessionVal := fun _ => none
  stickyFlow : LruHash FlowKey SessionVal := fun _ => none

/-- The counters of `global_stats_map` that the router moves. -/
structure GlobalStats where
  totalRxPackets : UInt64 := 0
  totalRxBytes : UInt64 := 0
  totalSnatRewrites : UInt64 := 0
  totalStickyHits : UInt64 := 0
  totalMaglevDispatches : UInt64 := 0
  totalFailovers : UInt64 := 0
  totalSessionEvictions : UInt64 := 0

/-- The counters of `wan_percpu_stats_map` that the router moves. -/
structure WanStats where
  rxPackets : UInt64 := 0
  rxBytes : UInt64 := 0
  snatPackets : UInt64 := 0

structure RouterState where
  sessions : Sessions := {}
  globalStats : Cpu → GlobalStats := fun _ => {}
  wanStats : Cpu → ArrayMap maxWans WanStats := fun _ _ => {}

/-! ## Sessions -/

/-- Delete a key from both tiers. -/
def Sessions.evict (m : Sessions) (key : FlowKey) : Sessions where
  localLru := m.localLru.delete key
  stickyFlow := m.stickyFlow.delete key

/-- Write a session into both tiers. -/
def Sessions.write (m : Sessions) (cpu : Cpu) (key : FlowKey) (v : SessionVal) : Sessions where
  localLru := m.localLru.update {} cpu key v
  stickyFlow := m.stickyFlow.update key v

/-- DNS and NTP bypass the session tiers. -/
def isDnsOrNtp (key : FlowKey) : Bool :=
  key.proto = ipprotoUdp && (key.dstPort = htons 53 || key.srcPort = htons 53 || key.dstPort = htons 123 ||
      key.srcPort = htons 123)

/-- Step 4: nothing for DNS and NTP; else the local tier first, then the shared one, whose hit fills
    the local cache. -/
def Sessions.find (m : Sessions) (cpu : Cpu) (key : FlowKey) : Option SessionVal × Sessions :=
  if isDnsOrNtp key then (none, m)
  else
    match m.localLru.lookup cpu key with
    | some v => (some v, m)
    | none =>
      match m.stickyFlow.lookup key with
      | some v => (some v, { m with localLru := m.localLru.update {} cpu key v })
      | none => (none, m)

/-- The packet carries RST or FIN. -/
def isClosing (key : FlowKey) : Bool := key.pktFlags &&& (pktFlagRst ||| pktFlagFin) ≠ 0

/-! ## Dispatch -/

section
variable (t : Tables)

/-- The row of a WAN index exists and passes the test. -/
def rowSatisfies (p : BpfWanEntry → Bool) (i : Nat) : Bool := (t.wanTable.lookup i).any p

/-- Row `i` may keep a session. -/
def isLive (i : Nat) : Bool := rowSatisfies t BpfWanEntry.isLive i

/-- Row `i` may receive new flows. -/
def isEligible (i : Nat) : Bool := rowSatisfies t BpfWanEntry.isEligible i

/-- The LPM route of a destination, if it names a row. -/
def lpmWan (dstIp : UInt32) : Option UInt32 :=
  (t.lpmSubnet.lookup (htonl dstIp)).filter fun w => w.toNat < maxWans

/-- The active policy entry covers a source address. -/
def policyMatches (pe : BpfPolicyEntry) (srcIp : UInt32) : Bool :=
  pe.isActive ≠ 0 && pe.netmask ≠ 0 && srcIp &&& pe.netmask = pe.subnetIp

/-- The policy scan: the first of the 16 entries that covers the source. -/
def firstPolicy (srcIp : UInt32) : Option Nat :=
  (List.range maxBpfPolicies).find? fun p => (t.policyRoute.lookup p).any (policyMatches · srcIp)

/-- `target_group_id`; 0 when the scan finds nothing. -/
def targetGroup (srcIp : UInt32) : UInt32 :=
  (((firstPolicy t srcIp).bind t.policyRoute.lookup).map BpfPolicyEntry.targetGroup).getD 0

/-- The ring entry for a hash: from the group's ring for groups 1 to 7, else (or if that lookup fails)
    from the default ring. -/
def picked (group : UInt32) (flowHash : UInt32) : Option UInt32 :=
  let ringSlot := flowHash.toNat % maglevRingSize
  let fromGroup :=
    if group > 0 ∧ group.toNat < maxBpfGroups then
      t.maglevGroup.lookup (group.toNat * maglevRingSize + ringSlot)
    else none
  fromGroup.or (t.maglevLut.lookup ringSlot)

/-- The WAN before the health check: a usable ring entry, else the hash itself. -/
def ringWan (key : FlowKey) : UInt32 :=
  let flowHash := hash5tuple key
  match picked t (targetGroup t key.srcIp) flowHash with
  | some w => if w.toNat < maxWans then w else UInt32.ofNat (flowHash.toNat % maxWans)
  | none => UInt32.ofNat (flowHash.toNat % maxWans)

/-- The health fallback's scan. -/
def firstEligible : Option Nat := (List.range maxWans).find? (isEligible t)

/-- The WAN before the health check, by LPM route or ring. -/
def candidate (key : FlowKey) : UInt32 := (lpmWan t key.dstIp).getD (ringWan t key)

/-- Step 5: the WAN a flow without a session is given. -/
def dispatch (key : FlowKey) : UInt32 :=
  let target := candidate t key
  if isEligible t target.toNat then target
  else (firstEligible t).elim target UInt32.ofNat

end

/-! ## Selection -/

/-- What becomes of a found session. -/
inductive Verdict where
  /-- The flow stays on this WAN. -/
  | hit (wan : UInt32)
  /-- The packet closes the session: evict it, dispatch the packet. -/
  | close
  /-- The session's WAN is gone: evict it, dispatch the flow again. -/
  | dead
  /-- No session, or one that names no row: dispatch. -/
  | miss
  deriving DecidableEq

def judge (t : Tables) (key : FlowKey) (sticky : Option SessionVal) : Verdict :=
  match sticky with
  | none => .miss
  | some v =>
    if v.wanIdx.toNat < maxWans then
      if isLive t v.wanIdx.toNat then
        if isClosing key then .close else .hit v.wanIdx
      else .dead
    else .miss

/-- `new_sess`. -/
def newSession (key : FlowKey) (wan : UInt32) : SessionVal :=
  { wanIdx := wan, wanId := wan + 1, origSrcIp := key.srcIp, lastSeenNs := 0 }

/-- Steps 4 and 5: the WAN of the packet and the tiers afterwards. -/
def selectWan (t : Tables) (cpu : Cpu) (m : Sessions) (key : FlowKey) : UInt32 × Sessions :=
  let (sticky, m) := m.find cpu key
  match judge t key sticky with
  | .hit wan => (wan, m)
  | verdict =>
    let m := if verdict = .close ∨ verdict = .dead then m.evict key else m
    let wan := dispatch t key
    let m := if !isDnsOrNtp key && !isClosing key then m.write cpu key (newSession key wan) else m
    (wan, m)

/-! ## The whole program -/

/-- `my_lan_ip`, with its default 192.168.1.1. -/
def myLanIp (t : Tables) : UInt32 := if t.ctrl.lanIp ≠ 0 then t.ctrl.lanIp else htonl 0xC0A80101

/-- The packet is the in-kernel responder's. -/
def pingsRouter (t : Tables) (key : FlowKey) : Bool :=
  key.proto = ipprotoIcmp && key.pktFlags &&& pktFlagIcmp ≠ 0 && key.dstIp = myLanIp t

/-- The source address is RFC 1918 private. -/
def isLan (srcIp : UInt32) : Bool :=
  let src := htonl srcIp
  src &&& (0xFF000000 : UInt32) = 0x0A000000 || src &&& (0xFFF00000 : UInt32) = 0xAC100000 ||
    src &&& (0xFFFF0000 : UInt32) = 0xC0A80000

/-- What a packet does to the global counters up to the WAN selection. -/
def countSelection (t : Tables) (cpu : Cpu) (m : Sessions) (key : FlowKey) (g : GlobalStats) :
    GlobalStats :=
  let verdict := judge t key (m.find cpu key).1
  let dispatched := match verdict with | .hit _ => false | _ => true
  let failedOver := !isEligible t (candidate t key).toNat && (firstEligible t).isSome
  { g with
    totalStickyHits := bif dispatched then g.totalStickyHits else g.totalStickyHits + 1
    totalSessionEvictions :=
      if verdict = .close ∨ verdict = .dead then g.totalSessionEvictions + 1
      else g.totalSessionEvictions
    totalMaglevDispatches :=
      bif dispatched && (lpmWan t key.dstIp).isNone then g.totalMaglevDispatches + 1
      else g.totalMaglevDispatches
    totalFailovers :=
      bif dispatched && failedOver then g.totalFailovers + 1 else g.totalFailovers }

/-- What the program leaves behind.  `wan` is `target_wan_idx` of a packet that reached the
    selection. -/
structure XdpResult where
  action : XdpAction
  frame : List UInt8
  state : RouterState
  wan : Option UInt32 := none

def setCpu {α : Type} (f : Cpu → α) (cpu : Cpu) (x : α) : Cpu → α :=
  fun c => if c = cpu then x else f c

/-- The frame is over the MTU of its WAN and may not be fragmented; the test reads the bytes behind an
    untagged Ethernet header. -/
def exceedsMtu (frame : List UInt8) (e : BpfWanEntry) : Bool :=
  e.mtu > 0 && frame.length > e.mtu.toNat && 14 ≤ frame.length && le16 frame 12 = htons ethPIp &&
    14 + 20 ≤ frame.length && le16 frame (14 + 6) &&& htons 0x4000 ≠ 0

/-- Step 6.1 on: packet-too-big reflection, SNAT, per-WAN counters. -/
def finish (t : Tables) (tailroom : Nat) (cpu : Cpu) (s : RouterState) (key : FlowKey)
    (frame : List UInt8) (wan : UInt32) : XdpResult :=
  match t.wanTable.lookup wan.toNat with
  -- no row: nothing to rewrite, and `wan_percpu_stats_map`, of the same size, has no row either
  | none => { action := .pass, frame, state := s, wan := some wan }
  | some e =>
    if exceedsMtu frame e then
      let (action, frame) := sendIcmpTooBig tailroom frame e.mtu
      { action, frame, state := s, wan := some wan }
    else
      let pktLen := UInt64.ofNat frame.length
      let snat := t.ctrl.snatEnabled ≠ 0 ∧ e.isActive ≠ 0 ∧ e.ipAddr ≠ 0 ∧ isLan key.srcIp
      let g := s.globalStats cpu
      let g := if snat then { g with totalSnatRewrites := g.totalSnatRewrites + 1 } else g
      let stats := s.wanStats cpu
      let row := (stats.lookup wan.toNat).getD {}
      let row := { row with
        rxPackets := row.rxPackets + 1
        rxBytes := row.rxBytes + pktLen
        snatPackets :=
          if e.isActive ≠ 0 ∧ e.ipAddr ≠ 0 then row.snatPackets + 1 else row.snatPackets }
      { action := .pass
        frame := if snat then applySnat frame e.ipAddr else frame
        state := { s with
          globalStats := setCpu s.globalStats cpu g
          wanStats := setCpu s.wanStats cpu (stats.update wan.toNat row) }
        wan := some wan }

/-- `xdp_router_func`. -/
def xdpRouterFunc (t : Tables) (tailroom : Nat) (cpu : Cpu) (s : RouterState) (frame : List UInt8) :
    XdpResult :=
  match parseFrame frame with
  | none => { action := .pass, frame, state := s }
  | some key =>
    let g := s.globalStats cpu
    let g := { g with
      totalRxPackets := g.totalRxPackets + 1
      totalRxBytes := g.totalRxBytes + UInt64.ofNat frame.length }
    if pingsRouter t key then
      let (action, frame) := sendIcmpEchoReply frame
      { action, frame, state := { s with globalStats := setCpu s.globalStats cpu g } }
    else
      let g := countSelection t cpu s.sessions key g
      let (wan, sessions) := selectWan t cpu s.sessions key
      finish t tailroom cpu { s with sessions, globalStats := setCpu s.globalStats cpu g } key frame
        wan

/-! ## The tiers, key by key -/

/-- What the two tiers hold under one key. -/
@[ext] structure TierRow where
  onCpus : Option (Cpu → SessionVal)
  shared : Option SessionVal

def Sessions.row (m : Sessions) (key : FlowKey) : TierRow := ⟨m.localLru key, m.stickyFlow key⟩

namespace TierRow

def empty : TierRow := ⟨none, none⟩

/-- What a packet on `cpu` finds. -/
def seen (r : TierRow) (cpu : Cpu) : Option SessionVal := (r.onCpus.map (· cpu)).or r.shared

/-- The local values after `cpu` writes `v`: ZERO on every other CPU that had none. -/
def localWrite (r : TierRow) (cpu : Cpu) (v : SessionVal) : Cpu → SessionVal :=
  fun c => if c = cpu then v else (r.onCpus.map (· c)).getD {}

/-- A shared hit fills the local tier. -/
def fill (r : TierRow) (cpu : Cpu) : TierRow :=
  match r.onCpus, r.shared with
  | none, some v => ⟨some (r.localWrite cpu v), some v⟩
  | _, _ => r

def write (r : TierRow) (cpu : Cpu) (v : SessionVal) : TierRow := ⟨some (r.localWrite cpu v), some v⟩

/-- One packet on one key: the WAN it gets and the row it leaves. -/
def select (t : Tables) (cpu : Cpu) (key : FlowKey) (r : TierRow) : UInt32 × TierRow :=
  if isDnsOrNtp key then (dispatch t key, r)
  else
    match judge t key (r.seen cpu) with
    | .hit wan => (wan, r.fill cpu)
    | .close | .dead =>
      (dispatch t key, if isClosing key then empty else empty.write cpu (newSession key (dispatch t key)))
    | .miss =>
      (dispatch t key, if isClosing key then r.fill cpu
        else (r.fill cpu).write cpu (newSession key (dispatch t key)))

end TierRow

section
variable (m : Sessions) (cpu : Cpu) (key key' : FlowKey) (v : SessionVal)

theorem Sessions.row_evict :
    (m.evict key).row key' = if key' = key then TierRow.empty else m.row key' := by
  by_cases h : key' = key
  · simp [row, evict, TierRow.empty, LruHash.delete, LruPercpuHash.delete, h]
  · simp [row, evict, LruHash.delete, LruPercpuHash.delete, h]

theorem Sessions.row_write :
    (m.write cpu key v).row key' = if key' = key then (m.row key).write cpu v else m.row key' := by
  by_cases h : key' = key
  · simp [row, write, TierRow.write, LruHash.update, LruPercpuHash.update, LruPercpuHash.lookup, h]
    rfl
  · simp [row, write, LruHash.update, LruPercpuHash.update, h]

theorem Sessions.find_fst (hdns : isDnsOrNtp key = false) :
    (m.find cpu key).1 = (m.row key).seen cpu := by
  simp only [find, hdns, Bool.false_eq_true, if_false, row, TierRow.seen, LruPercpuHash.lookup, LruHash.lookup]
  rcases m.localLru key with _ | vals
  · rcases m.stickyFlow key with _ | v <;> rfl
  · rfl

theorem Sessions.row_find (hdns : isDnsOrNtp key = false) :
    (m.find cpu key).2.row key' = if key' = key then (m.row key).fill cpu else m.row key' := by
  simp only [find, hdns, Bool.false_eq_true, if_false, LruPercpuHash.lookup, LruHash.lookup]
  rcases hl : m.localLru key with _ | vals
  · rcases hs : m.stickyFlow key with _ | v
    · by_cases h : key' = key <;> simp [row, TierRow.fill, hl, hs, h]
    · by_cases h : key' = key
      · simp [row, TierRow.fill, LruPercpuHash.update, LruPercpuHash.lookup, hl, hs, h]
        rfl
      · simp [row, LruPercpuHash.update, h]
  · by_cases h : key' = key
    · subst h
      simp [row, TierRow.fill, hl]
    · simp [h]

variable (t : Tables)

/-- **One key at a time.**  A packet gets the WAN that its own key's row selects, and leaves every
    other row as it was. -/
theorem selectWan_row :
    (selectWan t cpu m key).1 = ((m.row key).select t cpu key).1 ∧
      (selectWan t cpu m key).2.row key' = if key' = key then ((m.row key).select t cpu key).2 else m.row key' := by
  by_cases hdns : isDnsOrNtp key = true
  · -- DNS and NTP: nothing is found, nothing is written
    have hfind : m.find cpu key = (none, m) := by simp [Sessions.find, hdns]
    simp only [selectWan, hfind, judge, TierRow.select, hdns, if_true]
    by_cases h : key' = key <;> simp [h]
  · rw [Bool.not_eq_true] at hdns
    have hrow := m.row_find cpu key
    simp only [selectWan, TierRow.select, hdns, Bool.false_eq_true, if_false, m.find_fst cpu key hdns]
    rcases judge t key ((m.row key).seen cpu) with wan | _ | _ | _
    case hit => exact ⟨rfl, hrow key' hdns⟩
    all_goals
      by_cases hc : isClosing key = true <;> by_cases h : key' = key <;>
        simp [Sessions.row_write, Sessions.row_evict, hrow _ hdns, hc, h]

end

/-! ## The program and the tiers -/

section
variable (t : Tables) (tailroom : Nat) (cpu : Cpu) (s : RouterState) (frame : List UInt8)

theorem finish_sessions_wan (key : FlowKey) (wan : UInt32) :
    (finish t tailroom cpu s key frame wan).state.sessions = s.sessions ∧
      (finish t tailroom cpu s key frame wan).wan = some wan := by
  unfold finish
  split
  · exact ⟨rfl, rfl⟩
  · split <;> exact ⟨rfl, rfl⟩

/-- The frame reaches the WAN selection, with this key. -/
def Routed (key : FlowKey) : Prop := parseFrame frame = some key ∧ pingsRouter t key = false

variable {t frame}

theorem xdpRouterFunc_of_routed (h : Routed t frame key) :
    (xdpRouterFunc t tailroom cpu s frame).wan = some (selectWan t cpu s.sessions key).1 ∧
      (xdpRouterFunc t tailroom cpu s frame).state.sessions = (selectWan t cpu s.sessions key).2 := by
  obtain ⟨hparse, hping⟩ := h
  simp only [xdpRouterFunc, hparse, hping, Bool.false_eq_true, if_false]
  constructor
  · exact (finish_sessions_wan ..).2
  · exact (finish_sessions_wan ..).1

/-- A frame that does not reach the selection leaves the tiers alone. -/
theorem xdpRouterFunc_of_not_routed (h : ∀ key, ¬ Routed t frame key) :
    (xdpRouterFunc t tailroom cpu s frame).wan = none ∧
      (xdpRouterFunc t tailroom cpu s frame).state.sessions = s.sessions := by
  rcases hparse : parseFrame frame with _ | key
  · simp [xdpRouterFunc, hparse]
  · have hping : pingsRouter t key = true := by
      by_contra hp
      exact h key ⟨hparse, by simpa using hp⟩
    simp [xdpRouterFunc, hparse, hping]

/-- **What a routed frame does**: to its own row the row machine, to the others nothing. -/
theorem xdpRouterFunc_row (h : Routed t frame key) (key' : FlowKey) :
    (xdpRouterFunc t tailroom cpu s frame).wan = some ((s.sessions.row key).select t cpu key).1 ∧
      (xdpRouterFunc t tailroom cpu s frame).state.sessions.row key' =
        if key' = key then ((s.sessions.row key).select t cpu key).2 else s.sessions.row key' := by
  obtain ⟨hwan, hsess⟩ := xdpRouterFunc_of_routed tailroom cpu s h
  obtain ⟨hfst, hrow⟩ := selectWan_row s.sessions cpu key key' t
  rw [hwan, hsess, hfst, hrow]
  exact ⟨rfl, rfl⟩

end

end FluxWAN.Xdp
