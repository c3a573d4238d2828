/-
  The kernel healthchecker (`bpf/xdp_healthchecker.bpf.c`).

  Two programs share `hc_result_map`.  `tc_hc_tx` counts a probe for every WAN index that has a target and an
  entry, and marks the entry DOWN at the third one in a row; `xdp_hc_rx` resets the counter of the WAN that the
  sequence number of an echo reply encodes.  The sender's side of the encoding is the low BYTE; the receiver
  takes the low three BITS.

  1. **Programs** — `xdpHcRx` on the bytes of a frame, `tcHcTx` over the 256 indices.
  2. **Log** — `HcState.log` records each counted probe and each reply, under the WAN it encodes.
  3. **Invariant** — `Tracks`: `miss_count` is the number of probes since the WAN's own last reply, up to 255.
  4. **Result** — `tracked_iff`: replies stay with their own WAN, and no entry is alive after three unanswered
     probes, if and only if every reply encodes a WAN below 8.
-/
import FluxWAN.Lib.BpfHash
import FluxWAN.Lib.Trace
import FluxWAN.Xdp.Packet

namespace FluxWAN.Xdp

open Bytes BpfMap

variable {s : HcState} {frame : List UInt8}

/-! ## Maps -/

/-- `MAX_EBPF_WANS`. -/
def maxEbpfWans : Nat := 256

/-- `HC_PROBE_MAGIC_ID`. -/
def hcProbeMagicId : UInt16 := 0xF1A7

/-- `HC_PROBE_INTERVAL_NS`. -/
def hcProbeIntervalNs : UInt64 := 500 * 1000000

/-- `struct hc_probe_key`, as far as it is read. -/
structure HcProbeKey where
  gatewayIp : UInt32 := 0
  wanIp : UInt32 := 0

/-- `struct hc_result`. -/
structure HcResult where
  lastProbeNs : UInt64 := 0
  lastReplyNs : UInt64 := 0
  rttUs : UInt32 := 0
  isAlive : UInt32 := 0
  probeCount : UInt32 := 0
  replyCount : UInt32 := 0
  missCount : UInt32 := 0
  deriving DecidableEq, Repr

/-- What a monitor would note: a counted probe, or a reply, of a WAN. -/
inductive HcObs where
  | probe (wan : UInt32)
  | reply (wan : UInt32)
  deriving DecidableEq, Repr

/-- The maps, and the log of what happened. -/
structure HcState where
  results : Hash UInt32 HcResult := []
  /-- `hc_rate_limit_map`, by CPU and index. -/
  rateLimit : Nat → Nat → UInt64 := fun _ _ => 0
  log : List HcObs := []

/-! ## Replies -/

/-- The sequence number of an echo reply with the magic id; none if the frame is something else. -/
def hcReply (frame : List UInt8) : Option UInt16 :=
  if 14 > frame.length then none
  else if le16 frame 12 ≠ htons ethPIp then none
  else if 14 + 20 > frame.length then none
  else if byteAt frame (14 + 9) ≠ ipprotoIcmp then none
  else
    let icmp := 14 + (byteAt frame 14 &&& 0x0F).toNat * 4
    if icmp + 8 > frame.length then none
    else if byteAt frame icmp ≠ 0 then none
    else if be16 frame (icmp + 4) ≠ hcProbeMagicId then none
    else some (be16 frame (icmp + 6))

/-- `bpf_ntohs (icmph->un.echo.sequence) & 0x07`. -/
def hcWanIdx (seq : UInt16) : UInt32 := (seq &&& 0x07).toUInt32

/-- "wan_idx encoded in sequence number lower byte". -/
def encodedWan (seq : UInt16) : UInt32 := (seq &&& 0xFF).toUInt32

/-- An entry after a reply; the clock is read twice. -/
def HcResult.replied (now now' : UInt64) (r : HcResult) : HcResult :=
  { r with
    rttUs := if r.lastProbeNs > 0 ∧ now > r.lastProbeNs then ((now - r.lastProbeNs) / 1000).toUInt32 else r.rttUs
    lastReplyNs := now'
    isAlive := 1
    replyCount := r.replyCount + 1
    missCount := 0 }

/-- `xdp_hc_rx`; the packet itself passes in any case. -/
def xdpHcRx (now now' : UInt64) (frame : List UInt8) (results : Hash UInt32 HcResult) : Hash UInt32 HcResult :=
  match hcReply frame with
  | none => results
  | some seq =>
    match results.lookup (hcWanIdx seq) with
    | some r => results.update maxEbpfWans (hcWanIdx seq) (r.replied now now')
    | none =>
      results.update maxEbpfWans (hcWanIdx seq) { lastReplyNs := now', isAlive := 1, replyCount := 1 }

/-! ## Probes -/

/-- An entry after a probe. -/
def HcResult.probed (now : UInt64) (r : HcResult) : HcResult :=
  let missCount := if r.missCount < 255 then r.missCount + 1 else r.missCount
  { r with
    lastProbeNs := now
    probeCount := r.probeCount + 1
    missCount
    isAlive := if missCount ≥ 3 then 0 else r.isAlive }

/-- The body of the loop of `tc_hc_tx`. -/
def probeWan (cpu : Nat) (now : UInt64) (targets : Nat → HcProbeKey) (s : HcState) (i : Nat) : HcState :=
  if now - s.rateLimit cpu i < hcProbeIntervalNs then s
  else if (targets i).gatewayIp = 0 ∨ (targets i).wanIp = 0 then s
  else
    let s := { s with
      rateLimit := fun c k => if c = cpu ∧ k = i then now else s.rateLimit c k }
    match s.results.lookup (UInt32.ofNat i) with
    | some r =>
      { s with
        results := s.results.update maxEbpfWans (UInt32.ofNat i) (r.probed now)
        log := s.log ++ [HcObs.probe (UInt32.ofNat i)] }
    | none => s

/-- `tc_hc_tx`. -/
def tcHcTx (cpu : Nat) (now : UInt64) (targets : Nat → HcProbeKey) (s : HcState) : HcState :=
  (List.range maxEbpfWans).foldl (probeWan cpu now targets) s

/-- A run of either program; the targets are those user space has set by then. -/
inductive HcEvent where
  | tick (cpu : Nat) (now : UInt64) (targets : Nat → HcProbeKey)
  | packet (now now' : UInt64) (frame : List UInt8)

def HcState.step (s : HcState) : HcEvent → HcState
  | .tick cpu now targets => tcHcTx cpu now targets s
  | .packet now now' frame =>
    { s with
      results := xdpHcRx now now' frame s.results
      log := s.log ++ ((hcReply frame).map fun seq => HcObs.reply (encodedWan seq)).toList }

def HcState.run (s : HcState) (events : List HcEvent) : HcState := events.foldl HcState.step s

/-- The probes counted for a WAN since its own last reply. -/
def probesSince (wan : UInt32) (log : List HcObs) : Nat :=
  Trace.countSince (fun o => o = .reply wan) (fun o => o = .probe wan) log

/-! ## The two masks -/

theorem toNat_hcWanIdx (seq : UInt16) : (hcWanIdx seq).toNat = seq.toNat % 8 := by
  rw [hcWanIdx, UInt16.toNat_toUInt32, UInt16.toNat_and, show (0x07 : UInt16).toNat = 2 ^ 3 - 1 from rfl,
    Nat.and_two_pow_sub_one_eq_mod]

theorem toNat_encodedWan (seq : UInt16) : (encodedWan seq).toNat = seq.toNat % 256 := by
  rw [encodedWan, UInt16.toNat_toUInt32, UInt16.toNat_and, show (0xFF : UInt16).toNat = 2 ^ 8 - 1 from rfl,
    Nat.and_two_pow_sub_one_eq_mod]

theorem hcWanIdx_lt : hcWanIdx seq < 8 := by
  rw [UInt32.lt_iff_toNat_lt, toNat_hcWanIdx]
  exact Nat.mod_lt _ (by decide)

/-- The receiver reads the WAN that was meant exactly if it is below 8. -/
theorem hcWanIdx_eq_iff : hcWanIdx seq = encodedWan seq ↔ encodedWan seq < 8 := by
  constructor
  · intro h
    rw [← h]
    exact hcWanIdx_lt
  · intro h
    have hlt : seq.toNat % 256 < 8 := by
      rw [← toNat_encodedWan]
      exact UInt32.lt_iff_toNat_lt.mp h
    apply UInt32.toNat_inj.mp
    rw [toNat_hcWanIdx, toNat_encodedWan]
    omega

/-! ## The log -/

section
variable (wan wan' : UInt32) (log : List HcObs)

theorem probesSince_probe :
    probesSince wan (log ++ [HcObs.probe wan']) = probesSince wan log + if wan' = wan then 1 else 0 := by
  unfold probesSince
  rw [Trace.countSince_append_singleton]
  simp

theorem probesSince_reply :
    probesSince wan (log ++ [HcObs.reply wan']) = if wan' = wan then 0 else probesSince wan log := by
  unfold probesSince
  rw [Trace.countSince_append_singleton]
  simp

end

/-! ## The map has room -/

/-- One entry per key, and only for the eight keys that the receiver can read. -/
def FewKeys (results : Hash UInt32 HcResult) : Prop :=
  KeyedTable.Distinct Prod.fst results ∧ ∀ k ∈ results.map Prod.fst, k < 8

theorem FewKeys.room {results : Hash UInt32 HcResult} (h : FewKeys results) : results.length < maxEbpfWans := by
  obtain ⟨hdistinct, hkeys⟩ := h
  have hnodup : (results.map fun x => x.1.toNat).Nodup := by
    have := hdistinct.map fun (a b : UInt32) (hab : a.toNat = b.toNat) => UInt32.toNat_inj.mp hab
    rwa [List.map_map] at this
  have hsub : (results.map fun x => x.1.toNat) ⊆ List.range 8 := by
    intro n hn
    obtain ⟨x, hx, rfl⟩ := List.mem_map.mp hn
    exact List.mem_range.mpr (UInt32.lt_iff_toNat_lt.mp (hkeys x.1 (List.mem_map_of_mem hx)))
  have hlen := (hnodup.subperm hsub).length_le
  rw [List.length_map, List.length_range] at hlen
  exact lt_of_le_of_lt hlen (by decide)

theorem FewKeys.update {results : Hash UInt32 HcResult} (h : FewKeys results) (hk : k < 8) (r : HcResult) :
    FewKeys (results.update maxEbpfWans k r) := by
  refine ⟨Hash.distinct_update h.1, fun k' hk' => ?_⟩
  rcases Hash.mem_keys_update hk' with rfl | hk'
  · exact hk
  · exact h.2 k' hk'

theorem FewKeys.probeWan (h : FewKeys s.results) (cpu : Nat) (now : UInt64) (targets : Nat → HcProbeKey)
    (i : Nat) : FewKeys (probeWan cpu now targets s i).results := by
  unfold Xdp.probeWan
  split_ifs
  · exact h
  · exact h
  · dsimp only
    split
    case h_1 r hr => exact h.update (h.2 _ (Hash.mem_keys_of_lookup hr)) _
    case h_2 => exact h

theorem fewKeys_run : FewKeys (({} : HcState).run events).results := by
  have hstep : ∀ (s : HcState) (e : HcEvent), FewKeys s.results → FewKeys (s.step e).results := by
    intro s e h
    cases e with
    | tick cpu now targets =>
      show FewKeys (tcHcTx cpu now targets s).results
      unfold tcHcTx
      refine List.foldlRecOn (motive := fun s : HcState => FewKeys s.results) _ _ h ?_
      exact fun s hs i _ => hs.probeWan cpu now targets i
    | packet now now' frame =>
      show FewKeys (xdpHcRx now now' frame s.results)
      unfold xdpHcRx
      split
      · exact h
      · split
        · exact h.update hcWanIdx_lt _
        · exact h.update hcWanIdx_lt _
  refine List.foldlRecOn (motive := fun s : HcState => FewKeys s.results) events _ ?_ fun s hs e _ => hstep s e hs
  exact ⟨List.nodup_nil, fun _ hk => nomatch hk⟩

/-! ## One reply -/

/-- A reply writes one entry: alive, and with nothing missed. -/
theorem xdpHcRx_of_reply (h : hcReply frame = some seq)
    (results : Hash UInt32 HcResult) : ∃ r, xdpHcRx now now' frame results = results.update maxEbpfWans (hcWanIdx seq) r ∧
      r.isAlive = 1 ∧ r.missCount = 0 ∧ results.lookup (hcWanIdx seq) ≠ some r := by
  unfold xdpHcRx
  rw [h]
  dsimp only
  cases hold : results.lookup (hcWanIdx seq) with
  | some r =>
    refine ⟨r.replied now now', rfl, rfl, rfl, fun hsame => ?_⟩
    -- the entry did change: its reply count did
    have hcount : r.replyCount = r.replyCount + 1 := congrArg HcResult.replyCount (Option.some.inj hsame)
    exact absurd hcount (by grind)
  | none => exact ⟨_, rfl, rfl, rfl, nofun⟩

/-- A reply changes the entry that is read from it, and no other. -/
theorem packet_lookup (hroom : s.results.length < maxEbpfWans) (h : hcReply frame = some seq) :
    ∃ r, (s.step (.packet now now' frame)).results.lookup = Function.update s.results.lookup (hcWanIdx seq) (some r) ∧
      r.isAlive = 1 ∧ r.missCount = 0 ∧ s.results.lookup (hcWanIdx seq) ≠ some r := by
  obtain ⟨r, hrx, halive, hmiss, hne⟩ := xdpHcRx_of_reply h s.results
  refine ⟨r, ?_, halive, hmiss, hne⟩
  show (xdpHcRx now now' frame s.results).lookup = _
  rw [hrx]
  exact Hash.lookup_update (.inr hroom)

/-! ## The invariant -/

/-- The counter of every entry is the number of probes since the WAN's own last reply. -/
def Tracks (s : HcState) : Prop :=
  ∀ wan r, s.results.lookup wan = some r →
    r.missCount.toNat = min 255 (probesSince wan s.log) ∧ (r.isAlive = 1 → r.missCount.toNat < 3)

theorem HcResult.probed_missCount (r : HcResult) (h : r.missCount.toNat ≤ 255) :
    (r.probed now).missCount.toNat = min 255 (r.missCount.toNat + 1) := by
  show (if r.missCount < 255 then r.missCount + 1 else r.missCount).toNat = _
  split_ifs with hlt
  · have hlt : r.missCount.toNat < 255 := UInt32.lt_iff_toNat_lt.mp hlt
    rw [UInt32.toNat_add]
    show (r.missCount.toNat + 1) % 2 ^ 32 = _
    omega
  · have hge : ¬ r.missCount.toNat < 255 := fun h => hlt (UInt32.lt_iff_toNat_lt.mpr h)
    omega

/-- An entry that is still alive after a probe has missed fewer than three. -/
theorem HcResult.probed_isAlive {r : HcResult} (h : (r.probed now).isAlive = 1) :
    (r.probed now).missCount.toNat < 3 := by
  by_contra hge
  have hthree : (r.probed now).missCount ≥ 3 := UInt32.le_iff_toNat_le.mpr (not_lt.mp hge)
  have hdown : (r.probed now).isAlive = 0 := if_pos hthree
  exact absurd (hdown.symm.trans h) (by decide)

/-- **One index of a tick.** -/
theorem Tracks.probeWan (h : Tracks s) (cpu : Nat) (now : UInt64) (targets : Nat → HcProbeKey) (i : Nat) :
    Tracks (probeWan cpu now targets s i) := by
  unfold Xdp.probeWan
  split_ifs
  · exact h
  · exact h
  · dsimp only
    split
    case h_2 => exact h
    case h_1 r hr =>
      intro wan r' hr'
      dsimp only at hr' ⊢
      rw [Hash.lookup_update (.inl (Hash.mem_keys_of_lookup hr))] at hr'
      rw [probesSince_probe]
      by_cases hwan : wan = UInt32.ofNat i
      · subst hwan
        rw [Function.update_self] at hr'
        obtain rfl := Option.some.inj hr'
        obtain ⟨hmiss, -⟩ := h _ r hr
        rw [if_pos rfl]
        refine ⟨?_, HcResult.probed_isAlive⟩
        rw [HcResult.probed_missCount r (by omega), hmiss]
        omega
      · rw [Function.update_of_ne hwan] at hr'
        rw [if_neg (Ne.symm hwan)]
        exact h wan r' hr'

/-- **One packet**, if the WAN it encodes can be read. -/
theorem Tracks.packet (h : Tracks s) (hroom : s.results.length < maxEbpfWans) (now now' : UInt64)
    (hlow : ∀ seq, hcReply frame = some seq → encodedWan seq < 8) :
    Tracks (s.step (.packet now now' frame)) := by
  cases hreply : hcReply frame with
  | none =>
    have hsame : s.step (.packet now now' frame) = s := by
      simp [HcState.step, xdpHcRx, hreply]
    rwa [hsame]
  | some seq =>
    obtain ⟨r, hlookup, -, hmiss, -⟩ := packet_lookup hroom hreply
    have hidx := hcWanIdx_eq_iff.mpr (hlow seq hreply)
    have hlog : (s.step (.packet now now' frame)).log = s.log ++ [HcObs.reply (encodedWan seq)] := by
      simp [HcState.step, hreply]
    intro wan r' hr'
    rw [hlookup, hidx] at hr'
    rw [hlog, probesSince_reply]
    by_cases hwan : wan = encodedWan seq
    · subst hwan
      rw [Function.update_self] at hr'
      obtain rfl := Option.some.inj hr'
      rw [if_pos rfl, hmiss]
      exact ⟨rfl, fun _ => by decide⟩
    · rw [Function.update_of_ne hwan] at hr'
      rw [if_neg (Ne.symm hwan)]
      exact h wan r' hr'

/-- Every reply of the run encodes a WAN below 8. -/
def LowReplies (events : List HcEvent) : Prop :=
  ∀ now now' frame, .packet now now' frame ∈ events → ∀ seq, hcReply frame = some seq → encodedWan seq < 8

theorem run_append_singleton (s : HcState) (events : List HcEvent) (e : HcEvent) :
    s.run (events ++ [e]) = (s.run events).step e :=
  List.foldl_concat ..

theorem tracks_run (h : LowReplies events) : Tracks (({} : HcState).run events) := by
  induction events using List.reverseRecOn with
  | nil => exact fun _ _ hr => nomatch hr
  | append_singleton events e ih =>
    have hbefore := ih fun now now' frame hmem => h now now' frame (List.mem_append_left _ hmem)
    rw [run_append_singleton]
    cases e with
    | tick cpu now targets =>
      show Tracks (tcHcTx cpu now targets _)
      exact List.foldlRecOn (motive := Tracks) _ _ hbefore fun s hs i _ => hs.probeWan cpu now targets i
    | packet now now' frame =>
      exact hbefore.packet fewKeys_run.room now now' (h now now' frame (by simp))

/-! ## The result -/

/-- A reply changes the entry of the WAN it encodes, and no other. -/
def Isolated (events : List HcEvent) : Prop :=
  ∀ before now now' frame, before ++ [HcEvent.packet now now' frame] <+: events → ∀ seq, hcReply frame = some seq →
    ∀ wan, wan ≠ encodedWan seq →
      (({} : HcState).run (before ++ [HcEvent.packet now now' frame])).results.lookup wan =
        (({} : HcState).run before).results.lookup wan

/-- An entry is alive only with fewer than three probes since the WAN's own last reply. -/
def Prompt (events : List HcEvent) : Prop :=
  ∀ before, before <+: events → ∀ wan r, (({} : HcState).run before).results.lookup wan = some r → r.isAlive = 1 →
    probesSince wan (({} : HcState).run before).log < 3

theorem prompt_of_lowReplies (h : LowReplies events) : Prompt events := by
  intro before hpre wan r hr halive
  obtain ⟨hmiss, hlow⟩ := tracks_run (fun now now' frame hmem => h now now' frame (hpre.subset hmem)) wan r hr
  have := hlow halive
  omega

/-- **When the two programs agree.**  In every interleaving of ticks and packets from empty maps. -/
theorem tracked_iff (events : List HcEvent) : (Isolated events ∧ Prompt events) ↔ LowReplies events := by
  constructor
  · rintro ⟨hisolated, -⟩ now now' frame hmem seq hreply
    obtain ⟨before, after, rfl⟩ := List.append_of_mem hmem
    -- the entry that is read from the reply changes, so it must be the one that is encoded
    obtain ⟨r, hlookup, -, -, hne⟩ := packet_lookup fewKeys_run.room hreply
    by_contra hhigh
    have hidx : hcWanIdx seq ≠ encodedWan seq := fun h => hhigh (hcWanIdx_eq_iff.mp h)
    have hsame := hisolated before now now' frame ⟨after, by simp⟩ seq hreply (hcWanIdx seq) hidx
    rw [run_append_singleton, hlookup, Function.update_self] at hsame
    exact hne hsame.symm
  · intro hlow
    refine ⟨?_, prompt_of_lowReplies hlow⟩
    intro before now now' frame hpre seq hreply wan hwan
    obtain ⟨r, hlookup, -⟩ := packet_lookup fewKeys_run.room hreply
    have hidx := hcWanIdx_eq_iff.mpr (hlow now now' frame (hpre.subset (by simp)) seq hreply)
    rw [run_append_singleton, hlookup, hidx, Function.update_of_ne hwan]

/-- An echo reply with the magic id and this sequence number, behind an Ethernet and an IPv4 header. -/
def echoReply (seq : UInt8) : List UInt8 :=
  List.replicate 12 0 ++ [0x08, 0x00] ++ [0x45] ++ List.replicate 8 0 ++ [1] ++ List.replicate 10 0 ++
    [0, 0, 0, 0, 0xF1, 0xA7, 0, seq]

/-- Only WAN 1 has a gateway. -/
def sampleTargets : Nat → HcProbeKey := fun i => if i = 1 then { gatewayIp := 1, wanIp := 2 } else {}

/-- An index without a gateway is skipped. -/
theorem probeWan_of_no_gateway (h : (targets i).gatewayIp = 0) (s : HcState) : probeWan cpu now targets s i = s := by
  unfold probeWan
  split_ifs with hrate htarget
  · rfl
  · rfl
  · exact absurd (.inl h) htarget

/-- A tick with one gateway probes one WAN. -/
theorem tcHcTx_single (hk : k < maxEbpfWans) (h : ∀ i, i ≠ k → (targets i).gatewayIp = 0) (s : HcState) :
    tcHcTx cpu now targets s = probeWan cpu now targets s k := by
  have hskip : Xdp.probeWan cpu now targets = fun s i => if i = k then Xdp.probeWan cpu now targets s i else s := by
    funext s i
    split_ifs with hi
    · rfl
    · exact probeWan_of_no_gateway (h i hi) s
  have honly : (List.range maxEbpfWans).filter (fun i => i = k) = [k] := by
    rw [List.filter_eq, List.count_eq_one_of_mem List.nodup_range (List.mem_range.mpr hk)]
    rfl
  have hfilter : [k].foldl (Xdp.probeWan cpu now targets) s = _ := honly ▸ List.foldl_filter
  simp only [decide_eq_true_eq, ← hskip] at hfilter
  exact hfilter.symm

/-- WAN 1 answers once, is probed three times, and WAN 9 answers each time in between. -/
def aliasedReplies : List HcEvent :=
  [.packet 1 1 (echoReply 1), .tick 0 1000000000 sampleTargets, .packet 2 2 (echoReply 9),
    .tick 0 2000000000 sampleTargets, .packet 3 3 (echoReply 9), .tick 0 3000000000 sampleTargets]

/-- WAN 1 is alive after three unanswered probes, because the replies of WAN 9 are booked on it. -/
theorem aliasedReplies_not_tracked :
    ((({} : HcState).run aliasedReplies).results.lookup 1).map HcResult.isAlive = some 1 ∧
      probesSince 1 (({} : HcState).run aliasedReplies).log = 3 ∧
      ¬ Isolated aliasedReplies ∧ ¬ Prompt aliasedReplies := by
  have htick : ∀ now (s : HcState), s.step (.tick 0 now sampleTargets) = probeWan 0 now sampleTargets s 1 :=
    fun now s => tcHcTx_single (by decide) (fun i hi => by rw [sampleTargets, if_neg hi]) s
  have halive : ((({} : HcState).run aliasedReplies).results.lookup 1).map HcResult.isAlive = some 1 := by
    simp only [aliasedReplies, HcState.run, List.foldl_cons, List.foldl_nil, htick]
    decide
  have hprobes : probesSince 1 (({} : HcState).run aliasedReplies).log = 3 := by
    simp only [aliasedReplies, HcState.run, List.foldl_cons, List.foldl_nil, htick]
    decide
  refine ⟨halive, hprobes, fun h => ?_, fun h => ?_⟩
  · have hsame := h (aliasedReplies.take 2) 2 2 (echoReply 9) ⟨aliasedReplies.drop 3, rfl⟩ 9 (by decide) 1
      (by decide)
    rw [run_append_singleton] at hsame
    simp only [aliasedReplies, List.take_succ_cons, List.take_zero, HcState.run, List.foldl_cons, List.foldl_nil,
      htick] at hsame
    exact absurd hsame (by decide)
  · obtain ⟨r, hr, hone⟩ := Option.map_eq_some_iff.mp halive
    have := h aliasedReplies List.prefix_rfl 1 r hr hone
    omega

end FluxWAN.Xdp
