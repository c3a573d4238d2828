/-
  What the prober's history says about the probes (`src/prober.c`).

  A WAN's history is two 32-cell rings, one of losses and one of round-trip times, behind one index.  A reply
  books a success there, and a probe round books a loss when it finds the 16-cell slot it is about to reuse
  unanswered and overdue.  Neither looks at what the other has booked, so the history is only as good as the
  order in which rounds and packets come.

  Beside the daemon runs a LEDGER per WAN (`Ledger`): the probes by ordinal with their send times, the replies
  that came in, and every entry booked, each with the probe it stands for.  It is what the daemon would have to
  know to be right, and no function of the daemon reads it.

  * `OrderlyRound`, `OrderlyReply` — a step the two rings can take.
  * `Tracked` — the link between slots, rings and ledger; orderly steps keep it (`Tracked.send`, `Tracked.reply`).
  * `probes_accounted` — in an orderly run every probe is booked once, and the metrics are the ledger's.
  * `reply_counted_twice` — one reply in time, handed to the global socket AND to the WAN's own, is booked twice.
-/
import FluxWAN.Lib.RingBuffer
import FluxWAN.Prober

namespace FluxWAN.ProbeHistory

open CString Bytes RingBuffer

/-! ## Packets -/

/-- What `prober_handle_packet` makes of an echo reply it accepts. -/
structure Echo where
  wanIdx : Nat
  seq : UInt16
  /-- The time stamp in the payload, or that of the slot when the payload is too short for one. -/
  sendTimeUs : UInt64
  deriving DecidableEq, Repr

/-- The front half of `prober_handle_packet`: the checks, and the fields it reads. -/
def decodeEcho (d : Daemon) (buf : List UInt8) : Option Echo :=
  let ipHl := (byteAt buf 0 &&& 0x0F).toNat * 4
  if buf.length < 28 then none
  else if buf.length < ipHl + 8 then none
  else if byteAt buf ipHl ≠ 0 then none
  else
    let seq := be16 buf (ipHl + 6)
    let wanIdx := (be16 buf (ipHl + 4) - d.pid).toNat
    if wanIdx ≥ d.mgr.config.wans.length then none
    else
      let slot := (d.wanStates wanIdx).pendingProbes.get (probeSlotOf seq)
      some {
        wanIdx, seq
        sendTimeUs := if buf.length ≥ ipHl + 8 + 8 then le64 buf (ipHl + 8) else slot.sendTimeUs }

/-- The back half: book a success and show the measured time. -/
def recordEcho (nowUs : UInt64) (d : Daemon) (e : Echo) : Daemon :=
  let rtt := measuredRtt nowUs e.sendTimeUs
  { d with
    wanStates := fun j => if j = e.wanIdx then (d.wanStates e.wanIdx).recordReply e.seq rtt else d.wanStates j
    mgr := { d.mgr with
      config := d.mgr.config.modifyWan e.wanIdx fun w =>
        { w with metrics := { w.metrics with rttMs := rtt, lastProbeTime := nowUs / 1000 } } } }

theorem proberHandlePacket_eq (d : Daemon) (buf : List UInt8) :
    proberHandlePacket nowUs d buf = (decodeEcho d buf).elim d (recordEcho nowUs d) := by
  unfold proberHandlePacket decodeEcho
  dsimp only
  by_cases hshort : buf.length < 28
  · rw [if_pos hshort, if_pos hshort, Option.elim_none]
  rw [if_neg hshort, if_neg hshort]
  by_cases hhead : buf.length < (byteAt buf 0 &&& 0x0F).toNat * 4 + 8
  · rw [if_pos hhead, if_pos hhead, Option.elim_none]
  rw [if_neg hhead, if_neg hhead]
  by_cases htype : byteAt buf ((byteAt buf 0 &&& 0x0F).toNat * 4) ≠ 0
  · rw [if_pos htype, if_pos htype, Option.elim_none]
  rw [if_neg htype, if_neg htype]
  split
  · rfl
  · rfl

theorem decodeEcho_wanIdx {d : Daemon} {e : Echo} (h : decodeEcho d buf = some e) :
    e.wanIdx < d.mgr.config.wans.length := by
  unfold decodeEcho at h
  dsimp only at h
  split at h
  · cases h
  split at h
  · cases h
  split at h
  · cases h
  split at h
  · cases h
  · rename_i hlt
    obtain rfl := Option.some.inj h
    exact Nat.lt_of_not_le hlt

/-! ## Sockets -/

/-- A reply on the wire: the device it comes in on, its bytes from the IP header on, and the ordinal of the
    probe it answers. -/
structure Arrival where
  dev : CStr
  buf : List UInt8
  probe : Nat
  deriving DecidableEq, Repr

/-- `raw_fd >= 0`, and for each WAN the device its own socket is bound to, if it has one. -/
structure Sockets where
  raw : Bool
  bound : List (Option CStr)

/-- The packets a drain reads: the kernel hands a reply to every raw socket whose binding, if any, matches. -/
def Sockets.delivered (s : Sockets) (arrivals : List Arrival) : List Arrival :=
  (if s.raw = true then arrivals else []) ++ s.bound.flatMap fun
    | none => []
    | some dev => arrivals.filter (·.dev == dev)

/-- `prober_process_responses`: the global socket first, then the bound ones.  `clock k` is the time the handler
    of the `k`-th packet reads. -/
def proberProcessResponses (s : Sockets) (clock : Nat → UInt64) (arrivals : List Arrival) (d : Daemon) : Daemon :=
  (s.delivered arrivals).zipIdx.foldl (fun d p => proberHandlePacket (clock p.2) d p.1.buf) d

/-! ## The ledger -/

inductive Outcome where
  | success (rttMs : UInt32)
  | loss
  deriving DecidableEq, Repr

/-- The entry's cell in the loss ring … -/
def Outcome.lost : Outcome → Bool
  | success _ => false
  | loss => true

/-- … and in the RTT ring. -/
def Outcome.rtt : Outcome → UInt64
  | success rttMs => rttMs.toUInt64
  | loss => 0

/-- What happened to one WAN's probes. -/
structure Ledger where
  /-- Send times, by ordinal. -/
  sent : List UInt64 := []
  /-- Replies handled: the probe answered, and when. -/
  arrived : List (Nat × UInt64) := []
  /-- Entries booked in the history: the probe each stands for, and what it says. -/
  entries : List (Nat × Outcome) := []
  deriving DecidableEq, Repr

/-- The probes that have an entry. -/
def Ledger.resolved (l : Ledger) : List Nat := l.entries.map Prod.fst

/-- The outcomes in the order they were booked. -/
def Ledger.outcomes (l : Ledger) : List Outcome := l.entries.map Prod.snd

/-- A round sends the next probe; an overdue one is the probe 16 before it, whose slot is reused. -/
def Ledger.send (l : Ledger) (booked : Bool) (nowUs : UInt64) : Ledger :=
  { l with
    sent := l.sent ++ [nowUs]
    entries := if booked = true then l.entries ++ [(l.sent.length - 16, .loss)] else l.entries }

/-- A reply to probe `k` is booked with its measured time. -/
def Ledger.reply (l : Ledger) (k : Nat) (nowUs : UInt64) (rttMs : UInt32) : Ledger :=
  { l with
    arrived := l.arrived ++ [(k, nowUs)]
    entries := l.entries ++ [(k, .success rttMs)] }

/-! ## Runs -/

structure World where
  daemon : Daemon
  ledger : Nat → Ledger := fun _ => {}

inductive Event where
  | round (env : Env) (nowUs : UInt64)
  | packet (nowUs : UInt64) (a : Arrival)

/-- `prober.timeout_ms`. -/
def World.timeoutMs (x : World) : UInt32 := x.daemon.mgr.config.prober.timeoutMs

def World.step (x : World) : Event → World
  | .round env nowUs => {
      daemon := proberSendProbes env nowUs x.daemon
      ledger := fun i =>
        if x.daemon.probes i = true then
          (x.ledger i).send ((x.daemon.wanStates i).timedOut x.timeoutMs nowUs) nowUs
        else x.ledger i }
  | .packet nowUs a => {
      daemon := proberHandlePacket nowUs x.daemon a.buf
      ledger := (decodeEcho x.daemon a.buf).elim x.ledger fun e i =>
        if i = e.wanIdx then (x.ledger i).reply a.probe nowUs (measuredRtt nowUs e.sendTimeUs) else x.ledger i }

def World.run (x : World) (events : List Event) : World := events.foldl World.step x

/-- The prober just initialised. -/
def World.start (mgr : WanManagerCtx) (pid : UInt16) : World := { daemon := proberInit mgr pid }

/-- The packets a drain reads, as events. -/
def drain (s : Sockets) (clock : Nat → UInt64) (arrivals : List Arrival) : List Event :=
  (s.delivered arrivals).zipIdx.map fun p => .packet (clock p.2) p.1

/-- The events of a drain do to the daemon what `prober_process_responses` does. -/
theorem run_drain_daemon (s : Sockets) (x : World) :
    (x.run (drain s clock arrivals)).daemon = proberProcessResponses s clock arrivals x.daemon := by
  unfold drain proberProcessResponses World.run
  generalize (s.delivered arrivals).zipIdx = packets
  induction packets generalizing x with
  | nil => rfl
  | cons p packets ih => exact ih _

/-! ## What the history should say -/

/-- A reply at `nowUs` to a probe sent at `sentUs` came before `timeout_ms`. -/
def InTime (timeoutMs : UInt32) (sentUs nowUs : UInt64) : Prop := (nowUs - sentUs) / 1000 < timeoutMs.toUInt64

/-- Every probe has one entry once its slot is reused, and the entry says whether a reply came in time. -/
structure Accounted (timeoutMs : UInt32) (l : Ledger) : Prop where
  once : l.resolved.Nodup
  sent : ∀ k ∈ l.resolved, k < l.sent.length
  settled : ∀ k, k + 16 < l.sent.length → k ∈ l.resolved
  success : ∀ k r, (k, .success r) ∈ l.entries →
    ∃ s t, l.sent[k]? = some s ∧ (k, t) ∈ l.arrived ∧ InTime timeoutMs s t ∧ r = measuredRtt t s
  loss : ∀ k, (k, .loss) ∈ l.entries → ∀ s t, l.sent[k]? = some s → (k, t) ∈ l.arrived → ¬ InTime timeoutMs s t

/-- The outcomes of the last 32 resolved probes. -/
def Ledger.recent (l : Ledger) : List Outcome := latest probeWindowSize l.outcomes

/-- `pct` is exactly the percentage of losses among the outcomes; 0 when there is none. -/
def IsLossShare (pct : CFloat) (outcomes : List Outcome) : Prop :=
  match pct with
  | .fin num shift => num * (max outcomes.length 1 : Nat) = (outcomes.countP Outcome.lost * 100 * 2 ^ shift : Nat)
  | _ => False

/-- The round-trip time of a success. -/
def Outcome.measured : Outcome → Option UInt32
  | success rttMs => some rttMs
  | loss => none

/-- `rtt` is the mean of the successes among the outcomes, if there is one. -/
def IsMeanRtt (rtt : UInt32) (outcomes : List Outcome) : Prop :=
  let rtts := (outcomes.filterMap Outcome.measured).map UInt32.toNat
  rtts ≠ [] → rtt.toNat = rtts.sum / rtts.length

/-- The two rings and the loss percentage are the ledger's. -/
structure Exact (x : World) : Prop where
  accounted : ∀ i < x.daemon.mgr.config.wans.length, Accounted x.timeoutMs (x.ledger i)
  lossRing : ∀ i < x.daemon.mgr.config.wans.length,
    Records (x.daemon.wanStates i).lossHistory false ((x.ledger i).outcomes.map Outcome.lost)
  rttRing : ∀ i < x.daemon.mgr.config.wans.length,
    Records (x.daemon.wanStates i).rttHistory 0 ((x.ledger i).outcomes.map Outcome.rtt)
  lossShare : ∀ i w, x.daemon.mgr.config.wans[i]? = some w →
    IsLossShare w.metrics.packetLossPct (x.ledger i).recent

/-- The recomputed round-trip times are the ledger's. -/
def Averaged (x : World) : Prop :=
  ∀ i w, x.daemon.mgr.config.wans[i]? = some w → w.isProbed = true → IsMeanRtt w.metrics.rttMs (x.ledger i).recent

/-! ## Orderly steps -/

/-- The sequence number of the `k`-th probe. -/
def seqOf (k : Nat) : UInt16 := UInt16.ofNat (k + 1)

/-- The pending probe in the slot of a sequence number. -/
def pendingAt (ps : WanProbeState) (seq : UInt16) : ProbeSlot := ps.pendingProbes.get (probeSlotOf seq)

/-- A round that can tell what became of the probe whose slot it reuses. -/
structure OrderlyRound (timeoutMs : UInt32) (nowUs : UInt64) (ps : WanProbeState) (l : Ledger) : Prop where
  /-- A send time of 0 would read as an unused slot. -/
  clock : 0 < nowUs
  /-- An unanswered probe does not lose its slot before it is overdue. -/
  overdue : 0 < (pendingAt ps ps.currentSeq).sendTimeUs →
    (pendingAt ps ps.currentSeq).received = false → ps.timedOut timeoutMs nowUs = true
  /-- A loss is booked over a cell without an old round-trip time: the code does not clear it. -/
  cleared : ps.timedOut timeoutMs nowUs = true → ps.rttHistory.get ps.cursor = 0
  /-- The code divides by 32 however few probes are resolved. -/
  filled : ps.lostProbes timeoutMs nowUs = 0 ∨
    probeWindowSize ≤ (l.send (ps.timedOut timeoutMs nowUs) nowUs).entries.length

/-- A first reply in time to a probe whose slot is still its own. -/
structure OrderlyReply (timeoutMs : UInt32) (nowUs : UInt64) (ps : WanProbeState) (l : Ledger) (k : Nat)
    (e : Echo) : Prop where
  /-- The packet echoes probe `k`. -/
  seq : e.seq = seqOf k
  time : l.sent[k]? = some e.sendTimeUs
  /-- Its slot is not reused yet … -/
  recent : l.sent.length ≤ k + 16
  /-- … and has seen no other copy. -/
  first : (pendingAt ps e.seq).received = false
  inTime : InTime timeoutMs e.sendTimeUs nowUs
  /-- The percentage is recomputed by the next round only, so the entry pushed out must not be a loss. -/
  steady : ps.lossHistory.get ps.cursor = false

/-- The step leaves a history that can be trusted. -/
def Orderly (x : World) : Event → Prop
  | .round _ nowUs => ∀ i, x.daemon.probes i = true →
      OrderlyRound x.timeoutMs nowUs (x.daemon.wanStates i) (x.ledger i)
  | .packet nowUs a => ∀ e, decodeEcho x.daemon a.buf = some e →
      OrderlyReply x.timeoutMs nowUs (x.daemon.wanStates e.wanIdx) (x.ledger e.wanIdx) a.probe e

def OrderlyRun : World → List Event → Prop
  | _, [] => True
  | x, e :: events => Orderly x e ∧ OrderlyRun (x.step e) events

/-! ## Slots -/

theorem seqOf_succ (k : Nat) : seqOf (k + 1) = seqOf k + 1 := UInt16.ofNat_add (k + 1) 1

theorem probeSlotOf_seqOf (k : Nat) : (probeSlotOf (seqOf k)).val = (k + 1) % 16 := by
  show (UInt16.ofNat (k + 1)).toNat % 16 = _
  rw [UInt16.toNat_ofNat']
  omega

/-- Sixteen probes in a row use different slots … -/
theorem probeSlotOf_ne (hjk : j < k) (hk : k < j + 16) : probeSlotOf (seqOf j) ≠ probeSlotOf (seqOf k) := by
  intro h
  have hval := congrArg Fin.val h
  rw [probeSlotOf_seqOf, probeSlotOf_seqOf] at hval
  omega

/-- … and the seventeenth the first one's. -/
theorem pendingAt_reuse (hn : 16 ≤ n) : pendingAt ps (seqOf (n - 16)) = pendingAt ps (seqOf n) := by
  have hslot : probeSlotOf (seqOf (n - 16)) = probeSlotOf (seqOf n) := by
    apply Fin.ext
    rw [probeSlotOf_seqOf, probeSlotOf_seqOf]
    omega
  unfold pendingAt
  rw [hslot]

/-- The pending slots are those of the last sixteen probes. -/
structure Armed (ps : WanProbeState) (l : Ledger) : Prop where
  seq : ps.currentSeq = seqOf l.sent.length
  slot : ∀ k, k < l.sent.length → l.sent.length ≤ k + 16 →
    l.sent[k]? = some (pendingAt ps (seqOf k)).sendTimeUs ∧
      ((pendingAt ps (seqOf k)).received = true ↔ k ∈ l.resolved)
  fresh : ∀ k, l.sent.length ≤ k → k < 16 → (pendingAt ps (seqOf k)).sendTimeUs = 0
  clock : ∀ t ∈ l.sent, 0 < t

/-- The two rings hold the ledger's entries. -/
structure Booked (ps : WanProbeState) (l : Ledger) : Prop where
  idx : ps.historyIdx = UInt32.ofNat l.entries.length
  losses : Records ps.lossHistory false (l.outcomes.map Outcome.lost)
  rtts : Records ps.rttHistory 0 (l.outcomes.map Outcome.rtt)

/-- Slots, rings and ledger agree. -/
structure Tracked (timeoutMs : UInt32) (ps : WanProbeState) (l : Ledger) : Prop where
  armed : Armed ps l
  booked : Booked ps l
  accounted : Accounted timeoutMs l
  answered : ∀ k t, (k, t) ∈ l.arrived → k ∈ l.resolved

theorem Ledger.outcomes_length (l : Ledger) : l.outcomes.length = l.entries.length := List.length_map _

/-- The history index is the number of entries: 32 divides 2 ^ 32, so its wrapping does not matter. -/
theorem Booked.cursor {ps : WanProbeState} {l : Ledger} (h : Booked ps l) :
    ps.cursor.val = l.outcomes.length % probeWindowSize := by
  show ps.historyIdx.toNat % 32 = _ % 32
  rw [h.idx, UInt32.toNat_ofNat', Ledger.outcomes_length]
  omega

theorem Ledger.resolved_send_booked (l : Ledger) :
    (l.send true nowUs).resolved = l.resolved ++ [l.sent.length - 16] := List.map_append

theorem Ledger.resolved_reply (l : Ledger) (k : Nat) :
    (l.reply k nowUs rttMs).resolved = l.resolved ++ [k] := List.map_append

theorem Ledger.sent_send (l : Ledger) (booked : Bool) (nowUs : UInt64) (hk : k < l.sent.length) :
    (l.send booked nowUs).sent[k]? = l.sent[k]? := List.getElem?_append_left hk

/-! ## A round keeps the books -/

section
variable {timeoutMs : UInt32} {nowUs : UInt64} {ps : WanProbeState} {l : Ledger}

theorem timedOut_iff : ps.timedOut timeoutMs nowUs = true ↔
    0 < (pendingAt ps ps.currentSeq).sendTimeUs ∧
      (pendingAt ps ps.currentSeq).received = false ∧
      timeoutMs.toUInt64 ≤ (nowUs - (pendingAt ps ps.currentSeq).sendTimeUs) / 1000 := by
  unfold WanProbeState.timedOut
  simp only [Bool.and_eq_true, Bool.not_eq_true', decide_eq_true_eq, and_assoc]
  rfl

/-- An orderly round books the probe sixteen back exactly if that has no entry. -/
theorem Armed.timedOut_iff (h : Armed ps l) (o : OrderlyRound timeoutMs nowUs ps l) :
    ps.timedOut timeoutMs nowUs = true ↔ 16 ≤ l.sent.length ∧ l.sent.length - 16 ∉ l.resolved := by
  -- the slot about to be reused is that of the probe sixteen back, if there is one
  have hreused (hn : 16 ≤ l.sent.length) := h.slot (l.sent.length - 16) (by omega) (by omega)
  constructor
  · intro ht
    obtain ⟨hsent, hreceived, -⟩ := ProbeHistory.timedOut_iff.mp ht
    rw [h.seq] at hsent hreceived
    have hn : 16 ≤ l.sent.length := by
      by_contra hn
      rw [h.fresh l.sent.length le_rfl (by omega)] at hsent
      exact absurd hsent (by decide)
    refine ⟨hn, fun hmem => ?_⟩
    have hanswered := (hreused hn).2.mpr hmem
    rw [pendingAt_reuse hn, hreceived] at hanswered
    cases hanswered
  · rintro ⟨hn, hmem⟩
    obtain ⟨hsent, hreceived⟩ := hreused hn
    rw [pendingAt_reuse hn, ← h.seq] at hsent hreceived
    refine o.overdue (h.clock _ (List.mem_of_getElem? hsent)) ?_
    exact Bool.eq_false_iff.mpr fun hr => hmem (hreceived.mp hr)

theorem pendingAt_advance : pendingAt (ps.advance timeoutMs nowUs) seq =
    if probeSlotOf ps.currentSeq = probeSlotOf seq then
      { seq := ps.currentSeq, sendTimeUs := nowUs, received := false }
    else pendingAt ps seq := by
  have hset : (ps.advance timeoutMs nowUs).pendingProbes = ps.pendingProbes.set (probeSlotOf ps.currentSeq)
      { seq := ps.currentSeq, sendTimeUs := nowUs, received := false } := by
    simp only [WanProbeState.advance]
  unfold pendingAt
  rw [hset]
  exact SlotTable.getElem_set_fin ps.pendingProbes (probeSlotOf ps.currentSeq) (probeSlotOf seq) _

theorem advance_currentSeq : (ps.advance timeoutMs nowUs).currentSeq = ps.currentSeq + 1 := by
  simp only [WanProbeState.advance]

theorem Armed.advance (h : Armed ps l) (hclock : 0 < nowUs) (hsent : ∀ k ∈ l.resolved, k < l.sent.length)
    (hbooked : booked = true → 16 ≤ l.sent.length) :
    Armed (ps.advance timeoutMs nowUs) (l.send booked nowUs) := by
  have hlen : (l.send booked nowUs).sent.length = l.sent.length + 1 := List.length_append
  -- a probe that keeps its slot is not the one the round books
  have hresolved (k : Nat) (hk : l.sent.length + 1 ≤ k + 16) : k ∈ (l.send booked nowUs).resolved ↔ k ∈ l.resolved := by
    cases booked with
    | false => exact Iff.rfl
    | true =>
      have hn := hbooked rfl
      rw [Ledger.resolved_send_booked, List.mem_append, List.mem_singleton]
      have hne : k ≠ l.sent.length - 16 := by omega
      simp [hne]
  refine ⟨?_, ?_, ?_, ?_⟩
  · rw [advance_currentSeq, h.seq, hlen, seqOf_succ]
  · intro k hk hrecent
    rw [hlen] at hk hrecent
    rw [hresolved k hrecent, pendingAt_advance, h.seq]
    show (l.sent ++ [nowUs])[k]? = _ ∧ _
    rcases Nat.lt_or_eq_of_le (Nat.le_of_lt_succ hk) with hold | rfl
    · rw [if_neg (probeSlotOf_ne hold (by omega)).symm, List.getElem?_append_left hold]
      exact h.slot k hold (by omega)
    · rw [if_pos rfl, List.getElem?_concat_length]
      exact ⟨rfl, nofun, fun hmem => absurd (hsent _ hmem) (Nat.lt_irrefl _)⟩
  · intro k hk h16
    rw [hlen] at hk
    rw [pendingAt_advance, h.seq, if_neg (probeSlotOf_ne (by omega) (by omega))]
    exact h.fresh k (by omega) h16
  · intro t ht
    rcases List.mem_append.mp ht with ht | ht
    · exact h.clock t ht
    · obtain rfl := List.mem_singleton.mp ht
      exact hclock

theorem Booked.advance (h : Booked ps l)
    (hcleared : ps.timedOut timeoutMs nowUs = true → ps.rttHistory.get ps.cursor = 0) :
    Booked (ps.advance timeoutMs nowUs) (l.send (ps.timedOut timeoutMs nowUs) nowUs) := by
  cases ht : ps.timedOut timeoutMs nowUs with
  | false =>
    have hnot : ¬ ps.timedOut timeoutMs nowUs = true := by rw [ht]; decide
    refine ⟨?_, ?_, ?_⟩ <;> simp only [WanProbeState.advance, if_neg hnot]
    · exact h.idx
    · exact h.losses
    · exact h.rtts
  | true =>
    have hentries : (l.send true nowUs).entries = l.entries ++ [(l.sent.length - 16, .loss)] := rfl
    have houtcomes : (l.send true nowUs).outcomes = l.outcomes ++ [Outcome.loss] := List.map_append
    refine ⟨?_, ?_, ?_⟩
    · simp only [WanProbeState.advance, ht, if_true, hentries, List.length_append, List.length_singleton]
      rw [h.idx, UInt32.ofNat_add]
      rfl
    · have hwrite := h.losses.write (i := ps.cursor) (by rw [List.length_map]; exact h.cursor) true
      simp only [WanProbeState.advance, ht, if_true]
      rw [houtcomes, List.map_append]
      exact hwrite
    · -- the cell holds no old time, so leaving it alone is writing 0 to it
      have hwrite := h.rtts.write (i := ps.cursor) (by rw [List.length_map]; exact h.cursor) 0
      have hsame : ps.rttHistory.set ps.cursor 0 ps.cursor.isLt = ps.rttHistory := by
        rw [← hcleared ht]
        exact Vector.set_getElem_self _
      rw [hsame] at hwrite
      simp only [WanProbeState.advance, ht, if_true]
      rw [houtcomes, List.map_append]
      exact hwrite

theorem Accounted.send_quiet (h : Accounted timeoutMs l)
    (hsettled : 16 ≤ l.sent.length → l.sent.length - 16 ∈ l.resolved) : Accounted timeoutMs (l.send false nowUs) := by
  have hlen : (l.send false nowUs).sent.length = l.sent.length + 1 := List.length_append
  refine ⟨h.once, ?_, ?_, ?_, ?_⟩
  · intro k hk
    rw [hlen]
    exact Nat.lt_succ_of_lt (h.sent k hk)
  · intro k hk
    rw [hlen] at hk
    by_cases hlast : k + 16 < l.sent.length
    · exact h.settled k hlast
    · have hk' : k = l.sent.length - 16 := by omega
      rw [hk']
      exact hsettled (by omega)
  · intro k r hk
    obtain ⟨s, t, hs, hrest⟩ := h.success k r hk
    exact ⟨s, t, (l.sent_send false nowUs (h.sent k (List.mem_map_of_mem hk))).trans hs, hrest⟩
  · intro k hk s t hs ht
    rw [l.sent_send false nowUs (h.sent k (List.mem_map_of_mem hk))] at hs
    exact h.loss k hk s t hs ht

theorem Accounted.send_booked (h : Accounted timeoutMs l) (hn : 16 ≤ l.sent.length)
    (hnew : l.sent.length - 16 ∉ l.resolved) (hanswered : ∀ k t, (k, t) ∈ l.arrived → k ∈ l.resolved) :
    Accounted timeoutMs (l.send true nowUs) := by
  have hlen : (l.send true nowUs).sent.length = l.sent.length + 1 := List.length_append
  have hentry {k : Nat} {o : Outcome} (hk : (k, o) ∈ (l.send true nowUs).entries) :
      (k, o) ∈ l.entries ∨ k = l.sent.length - 16 ∧ o = .loss := by
    rcases List.mem_append.mp hk with hk | hk
    · exact .inl hk
    · exact .inr (Prod.mk.inj (List.mem_singleton.mp hk))
  refine ⟨?_, ?_, ?_, ?_, ?_⟩
  · rw [Ledger.resolved_send_booked, ← List.concat_eq_append]
    exact h.once.concat hnew
  · intro k hk
    rw [Ledger.resolved_send_booked, List.mem_append, List.mem_singleton] at hk
    rw [hlen]
    rcases hk with hk | rfl
    · exact Nat.lt_succ_of_lt (h.sent k hk)
    · omega
  · intro k hk
    rw [hlen] at hk
    rw [Ledger.resolved_send_booked, List.mem_append, List.mem_singleton]
    by_cases hlast : k + 16 < l.sent.length
    · exact .inl (h.settled k hlast)
    · exact .inr (by omega)
  · intro k r hk
    rcases hentry hk with hk | ⟨-, hloss⟩
    · obtain ⟨s, t, hs, hrest⟩ := h.success k r hk
      exact ⟨s, t, (l.sent_send true nowUs (h.sent k (List.mem_map_of_mem hk))).trans hs, hrest⟩
    · cases hloss
  · intro k hk s t hs ht
    rcases hentry hk with hk | ⟨rfl, -⟩
    · rw [l.sent_send true nowUs (h.sent k (List.mem_map_of_mem hk))] at hs
      exact h.loss k hk s t hs ht
    · -- a reply to it would have left an entry
      exact absurd (hanswered _ t ht) hnew

/-- **An orderly round keeps slots, rings and ledger together.** -/
theorem Tracked.send (h : Tracked timeoutMs ps l) (o : OrderlyRound timeoutMs nowUs ps l) :
    Tracked timeoutMs (ps.advance timeoutMs nowUs) (l.send (ps.timedOut timeoutMs nowUs) nowUs) := by
  have hiff := h.armed.timedOut_iff o
  refine ⟨h.armed.advance o.clock h.accounted.sent fun ht => (hiff.mp ht).1, h.booked.advance o.cleared, ?_, ?_⟩
  · cases ht : ps.timedOut timeoutMs nowUs with
    | false =>
      refine h.accounted.send_quiet fun hn => ?_
      by_contra hmem
      rw [hiff.mpr ⟨hn, hmem⟩] at ht
      cases ht
    | true => exact h.accounted.send_booked (hiff.mp ht).1 (hiff.mp ht).2 h.answered
  · intro k t hk
    cases ps.timedOut timeoutMs nowUs with
    | false => exact h.answered k t hk
    | true =>
      rw [Ledger.resolved_send_booked]
      exact List.mem_append_left _ (h.answered k t hk)

/-! ## A reply keeps the books -/

variable {k : Nat} {rttMs : UInt32}

theorem pendingAt_recordReply : pendingAt (ps.recordReply seq rttMs) seq' =
    if probeSlotOf seq = probeSlotOf seq' then { pendingAt ps seq with received := true } else pendingAt ps seq' :=
  SlotTable.getElem_set_fin ps.pendingProbes (probeSlotOf seq) (probeSlotOf seq') _

theorem Armed.recordReply (h : Armed ps l) (hk : k < l.sent.length) (hrecent : l.sent.length ≤ k + 16) :
    Armed (ps.recordReply (seqOf k) rttMs) (l.reply k nowUs rttMs) := by
  refine ⟨h.seq, ?_, ?_, h.clock⟩
  · intro j hj hjrecent
    rw [pendingAt_recordReply, Ledger.resolved_reply, List.mem_append, List.mem_singleton]
    show l.sent[j]? = _ ∧ _
    change j < l.sent.length at hj
    change l.sent.length ≤ j + 16 at hjrecent
    -- of the last sixteen probes only `k` itself uses the slot of `k`
    rcases Nat.lt_trichotomy k j with hlt | rfl | hlt
    · rw [if_neg (probeSlotOf_ne hlt (by omega))]
      have hne : j ≠ k := by omega
      simpa [hne] using h.slot j hj hjrecent
    · rw [if_pos rfl]
      exact ⟨(h.slot k hj hjrecent).1, fun _ => .inr rfl, fun _ => rfl⟩
    · rw [if_neg (probeSlotOf_ne hlt (by omega)).symm]
      have hne : j ≠ k := by omega
      simpa [hne] using h.slot j hj hjrecent
  · intro j hj h16
    have hfresh := h.fresh j hj h16
    have hne : probeSlotOf (seqOf k) ≠ probeSlotOf (seqOf j) := by
      change l.sent.length ≤ j at hj
      exact probeSlotOf_ne (by omega) (by omega)
    rw [pendingAt_recordReply, if_neg hne]
    exact hfresh

theorem Booked.recordReply (h : Booked ps l) (seq : UInt16) :
    Booked (ps.recordReply seq rttMs) (l.reply k nowUs rttMs) := by
  have houtcomes : (l.reply k nowUs rttMs).outcomes = l.outcomes ++ [Outcome.success rttMs] := List.map_append
  have hentries : (l.reply k nowUs rttMs).entries.length = l.entries.length + 1 := List.length_append
  refine ⟨?_, ?_, ?_⟩
  · rw [hentries, UInt32.ofNat_add, ← h.idx]
    rfl
  · rw [houtcomes, List.map_append]
    exact h.losses.write (by rw [List.length_map]; exact h.cursor) false
  · rw [houtcomes, List.map_append]
    exact h.rtts.write (by rw [List.length_map]; exact h.cursor) rttMs.toUInt64

theorem Accounted.reply (h : Accounted timeoutMs l) (hsent : l.sent[k]? = some sentUs)
    (hnew : k ∉ l.resolved) (htime : InTime timeoutMs sentUs nowUs) :
    Accounted timeoutMs (l.reply k nowUs (measuredRtt nowUs sentUs)) := by
  have hk : k < l.sent.length := (List.getElem?_eq_some_iff.mp hsent).1
  have hentry {j : Nat} {o : Outcome} (hj : (j, o) ∈ (l.reply k nowUs (measuredRtt nowUs sentUs)).entries) :
      (j, o) ∈ l.entries ∨ j = k ∧ o = .success (measuredRtt nowUs sentUs) := by
    rcases List.mem_append.mp hj with hj | hj
    · exact .inl hj
    · exact .inr (Prod.mk.inj (List.mem_singleton.mp hj))
  refine ⟨?_, ?_, ?_, ?_, ?_⟩
  · rw [Ledger.resolved_reply, ← List.concat_eq_append]
    exact h.once.concat hnew
  · intro j hj
    rw [Ledger.resolved_reply, List.mem_append, List.mem_singleton] at hj
    rcases hj with hj | rfl
    · exact h.sent j hj
    · exact hk
  · intro j hj
    rw [Ledger.resolved_reply]
    exact List.mem_append_left _ (h.settled j hj)
  · intro j r hj
    rcases hentry hj with hj | ⟨rfl, hr⟩
    · obtain ⟨s, t, hs, ht, hrest⟩ := h.success j r hj
      exact ⟨s, t, hs, List.mem_append_left _ ht, hrest⟩
    · refine ⟨sentUs, nowUs, hsent, ?_, htime, Outcome.success.inj hr⟩
      exact List.mem_append_right _ (List.mem_singleton.mpr rfl)
  · intro j hj s t hs ht
    rcases hentry hj with hold | ⟨-, hloss⟩
    · rcases List.mem_append.mp ht with ht | ht
      · exact h.loss j hold s t hs ht
      · -- the new reply is to a probe without an entry
        obtain ⟨rfl, -⟩ := Prod.mk.inj (List.mem_singleton.mp ht)
        exact absurd (List.mem_map_of_mem hold) hnew
    · cases hloss

/-- **An orderly reply keeps slots, rings and ledger together.** -/
theorem Tracked.reply (h : Tracked timeoutMs ps l) {e : Echo} (o : OrderlyReply timeoutMs nowUs ps l k e) :
    Tracked timeoutMs (ps.recordReply e.seq (measuredRtt nowUs e.sendTimeUs))
      (l.reply k nowUs (measuredRtt nowUs e.sendTimeUs)) := by
  have hk : k < l.sent.length := (List.getElem?_eq_some_iff.mp o.time).1
  have hnew : k ∉ l.resolved := by
    intro hmem
    have hreceived := (h.armed.slot k hk o.recent).2.mpr hmem
    rw [← o.seq, o.first] at hreceived
    cases hreceived
  refine ⟨?_, h.booked.recordReply e.seq, h.accounted.reply o.time hnew o.inTime, ?_⟩
  · rw [o.seq]
    exact h.armed.recordReply hk o.recent
  · intro j t hj
    rw [Ledger.resolved_reply, List.mem_append, List.mem_singleton]
    rcases List.mem_append.mp hj with hj | hj
    · exact .inl (h.answered j t hj)
    · exact .inr (Prod.mk.inj (List.mem_singleton.mp hj)).1

end

end FluxWAN.ProbeHistory
