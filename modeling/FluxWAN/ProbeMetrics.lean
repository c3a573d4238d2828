/-
  Loss and round-trip time as the history tells them (`src/prober.c`).

  A round scans the two rings and puts two numbers into the WAN's metrics: the cells marked lost, over 32, and
  the mean of the cells with a time.  Where slots, rings and ledger agree (`Tracked`) these scans see the last 32
  outcomes of the ledger, in some order and over cells that count for nothing; so the mean is the mean of the
  successes among them, and the percentage is the share of losses as soon as 32 probes are resolved, or while
  none is lost.
-/
import Mathlib.Algebra.Group.Action.Defs
import Mathlib.Algebra.Order.BigOperators.Group.List
import Mathlib.Algebra.Order.Ring.Nat
import FluxWAN.ProbeHistory

namespace FluxWAN.ProbeHistory

open RingBuffer

/-! ## Losses -/

section
variable {ps : WanProbeState} {l : Ledger}

theorem losses_eq_countP_toList (ps : WanProbeState) : ps.losses = ps.lossHistory.toList.countP id := by
  have hlist : ps.lossHistory.toList = (List.finRange probeWindowSize).map fun k => ps.lossHistory[k] := by
    apply List.ext_getElem
    · rw [Vector.length_toList, List.length_map, List.length_finRange]
    · intro i h₁ h₂
      simp
  rw [hlist, List.countP_map]
  rfl

theorem length_recent (l : Ledger) : l.recent.length = min probeWindowSize l.entries.length := by
  unfold Ledger.recent
  rw [length_latest, Ledger.outcomes_length]

theorem countP_lost_recent (l : Ledger) :
    l.recent.countP Outcome.lost = (latest probeWindowSize (l.outcomes.map Outcome.lost)).countP id := by
  unfold Ledger.recent
  rw [latest_map, List.countP_map]
  rfl

/-- The scan for losses counts those among the last 32 outcomes. -/
theorem Booked.losses_eq (h : Booked ps l) : ps.losses = l.recent.countP Outcome.lost := by
  rw [losses_eq_countP_toList, h.losses.countP rfl, countP_lost_recent]

/-- Enough probes are resolved to divide by 32, or none of them is lost. -/
def Divisible (l : Ledger) : Prop := l.recent.countP Outcome.lost = 0 ∨ probeWindowSize ≤ l.entries.length

theorem Divisible.isLossShare (h : Divisible l) :
    IsLossShare (.fin ((l.recent.countP Outcome.lost : Nat) * 100) 5) l.recent := by
  show (_ * 100 : Int) * (max l.recent.length 1 : Nat) = ((_ * 100 * 2 ^ 5 : Nat) : Int)
  rcases h with hnone | hfull
  · rw [hnone]
    simp
  · have hlen : l.recent.length = 32 := by
      rw [length_recent]
      exact Nat.min_eq_left hfull
    rw [hlen]
    push_cast
    rfl

/-- A success that pushes out a success or an unused cell leaves the number of losses as it is. -/
theorem Booked.countP_lost_reply (h : Booked ps l) (hsteady : ps.lossHistory.get ps.cursor = false) (k : Nat)
    (nowUs : UInt64) (rttMs : UInt32) :
    (l.reply k nowUs rttMs).recent.countP Outcome.lost = l.recent.countP Outcome.lost := by
  have hcursor : ps.cursor.val = (l.outcomes.map Outcome.lost).length % probeWindowSize := by
    rw [List.length_map]
    exact h.cursor
  have holdest := h.losses.oldest hcursor
  have houtcomes : (l.reply k nowUs rttMs).outcomes = l.outcomes ++ [Outcome.success rttMs] := List.map_append
  -- count over the cells: the unused ones are not marked lost
  have hcells (xs : List Bool) : (latest probeWindowSize xs).countP id = (contents probeWindowSize false xs).countP id := by
    rw [contents_eq, List.countP_append, List.countP_replicate]
    simp
  rw [countP_lost_recent, countP_lost_recent, hcells, hcells, houtcomes, List.map_append, holdest, hsteady,
    List.map_singleton, contents_append_singleton (by decide), List.countP_append]
  rfl

/-- An orderly reply leaves the percentage right. -/
theorem IsLossShare.reply (h : IsLossShare pct l.recent) (hdiv : Divisible l) (hb : Booked ps l)
    (hsteady : ps.lossHistory.get ps.cursor = false) (k : Nat) (nowUs : UInt64) (rttMs : UInt32) :
    IsLossShare pct (l.reply k nowUs rttMs).recent := by
  have hcount := hb.countP_lost_reply hsteady k nowUs rttMs
  have hentries : (l.reply k nowUs rttMs).entries.length = l.entries.length + 1 := List.length_append
  cases pct with
  | fin num shift =>
    change num * (max l.recent.length 1 : Nat) = ((_ * 100 * 2 ^ shift : Nat) : Int) at h
    show num * (max (l.reply k nowUs rttMs).recent.length 1 : Nat) = ((_ * 100 * 2 ^ shift : Nat) : Int)
    rw [hcount, length_recent, hentries]
    rw [length_recent] at h
    rcases hdiv with hnone | hfull
    · rw [hnone] at h ⊢
      have hnum : num = 0 := by
        rcases Int.mul_eq_zero.mp (h.trans (by simp)) with h | h
        · exact h
        · omega
      rw [hnum]
      simp
    · rw [Nat.min_eq_left hfull] at h
      rw [Nat.min_eq_left (Nat.le_succ_of_le hfull)]
      exact h
  | _ => exact h

theorem Divisible.reply (h : Divisible l) (hb : Booked ps l) (hsteady : ps.lossHistory.get ps.cursor = false)
    (k : Nat) (nowUs : UInt64) (rttMs : UInt32) : Divisible (l.reply k nowUs rttMs) := by
  unfold Divisible
  rw [hb.countP_lost_reply hsteady k nowUs rttMs]
  refine h.imp_right fun hfull => ?_
  exact hfull.trans (List.length_append ▸ Nat.le_add_right _ _)

/-- An orderly round divides what can be divided. -/
theorem OrderlyRound.divisible (o : OrderlyRound timeoutMs nowUs ps l)
    (hb : Booked (ps.advance timeoutMs nowUs) (l.send (ps.timedOut timeoutMs nowUs) nowUs)) :
    Divisible (l.send (ps.timedOut timeoutMs nowUs) nowUs) := by
  unfold Divisible
  rw [← hb.losses_eq, losses_advance]
  exact o.filled

end

/-! ## Round-trip times -/

theorem measuredRtt_pos : 0 < measuredRtt nowUs sendTimeUs := by
  unfold measuredRtt
  dsimp only
  split
  · split
    · decide
    · rename_i hne
      exact UInt32.pos_iff_ne_zero.mpr hne
  · decide

/-- A sum of 64-bit words that stays below `2 ^ 64`. -/
theorem toNat_foldl_add (xs : List UInt64) (acc : UInt64) (h : acc.toNat + (xs.map UInt64.toNat).sum < 2 ^ 64) :
    (xs.foldl (· + ·) acc).toNat = acc.toNat + (xs.map UInt64.toNat).sum := by
  induction xs generalizing acc with
  | nil => rfl
  | cons x xs ih =>
    rw [List.map_cons, List.sum_cons] at h ⊢
    have hadd : (acc + x).toNat = acc.toNat + x.toNat := by
      rw [UInt64.toNat_add]
      exact Nat.mod_eq_of_lt (by omega)
    rw [List.foldl_cons, ih (acc + x) (by omega), hadd]
    omega

/-- The code's average is exact: 32 times of 32 bits each do not overflow, and their mean has 32 bits again. -/
theorem toNat_average {xs : List UInt64} (hne : xs ≠ []) (hlen : xs.length ≤ 32)
    (hsmall : ∀ x ∈ xs, x.toNat < 2 ^ 32) :
    (xs.foldl (· + ·) 0 / UInt64.ofNat xs.length).toUInt32.toNat = (xs.map UInt64.toNat).sum / xs.length := by
  have hsum : (xs.map UInt64.toNat).sum ≤ xs.length * (2 ^ 32 - 1) := by
    have hbound : ∀ n ∈ xs.map UInt64.toNat, n ≤ 2 ^ 32 - 1 := by
      intro n hn
      obtain ⟨x, hx, rfl⟩ := List.mem_map.mp hn
      exact Nat.le_pred_of_lt (hsmall x hx)
    have hsum := List.sum_le_card_nsmul (xs.map UInt64.toNat) (2 ^ 32 - 1) hbound
    rwa [smul_eq_mul, List.length_map] at hsum
  have hpos : 0 < xs.length := List.length_pos_iff.mpr hne
  have htotal : (xs.foldl (· + ·) 0).toNat = (xs.map UInt64.toNat).sum := by
    rw [toNat_foldl_add xs 0 (by rw [UInt64.toNat_zero]; omega), UInt64.toNat_zero, Nat.zero_add]
  have hcount : (UInt64.ofNat xs.length).toNat = xs.length := by
    rw [UInt64.toNat_ofNat']
    exact Nat.mod_eq_of_lt (by omega)
  rw [UInt64.toNat_toUInt32, UInt64.toNat_div, htotal, hcount]
  refine Nat.mod_eq_of_lt (Nat.div_lt_of_lt_mul ?_)
  omega

section
variable {timeoutMs : UInt32} {ps : WanProbeState} {l : Ledger}

/-- The times of the successes among the last 32 outcomes. -/
def Ledger.times (l : Ledger) : List UInt32 := l.recent.filterMap Outcome.measured

theorem filter_rtt {outcomes : List Outcome} (hpos : ∀ r, .success r ∈ outcomes → 0 < r) :
    (outcomes.map Outcome.rtt).filter (· > 0) = (outcomes.filterMap Outcome.measured).map UInt32.toUInt64 := by
  induction outcomes with
  | nil => rfl
  | cons o outcomes ih =>
    have htail := ih fun r hr => hpos r (List.mem_cons_of_mem _ hr)
    cases o with
    | loss => exact htail
    | success r =>
      have hr : 0 < r.toUInt64 := by
        rw [UInt64.lt_iff_toNat_lt, UInt32.toNat_toUInt64]
        exact UInt32.lt_iff_toNat_lt.mp (hpos r List.mem_cons_self)
      show ((r.toUInt64 :: outcomes.map Outcome.rtt).filter (· > 0)) = _
      rw [List.filter_cons_of_pos (by simpa using hr), htail]
      rfl

/-- The scan for times meets those of the successes. -/
theorem Tracked.rtts_perm (h : Tracked timeoutMs ps l) : ps.rtts.Perm (l.times.map UInt32.toUInt64) := by
  have hperm := h.booked.rtts.filter_perm (p := (· > 0)) rfl
  rw [latest_map] at hperm
  refine hperm.trans (List.Perm.of_eq (filter_rtt fun r hr => ?_))
  obtain ⟨⟨k, o⟩, hk, rfl⟩ := List.mem_map.mp (List.mem_of_mem_drop hr)
  obtain ⟨s, t, -, -, -, rfl⟩ := h.accounted.success k r hk
  exact measuredRtt_pos

theorem Ledger.length_times_le (l : Ledger) : l.times.length ≤ 32 := by
  refine (List.length_filterMap_le _ _).trans ?_
  rw [length_recent]
  exact Nat.min_le_left _ _

/-- The recomputed time is the mean of the successes. -/
theorem Tracked.isMeanRtt (h : Tracked timeoutMs ps l) (nowUs : UInt64) (m : WanMetrics) :
    IsMeanRtt (refreshMetrics ps nowUs m).rttMs l.recent := by
  have hperm := h.rtts_perm
  have hlen : ps.rtts.length = l.times.length := by rw [hperm.length_eq, List.length_map]
  have hsum : (ps.rtts.map UInt64.toNat).sum = (l.times.map UInt32.toNat).sum := by
    rw [(hperm.map UInt64.toNat).sum_eq, List.map_map]
    rfl
  show l.times.map UInt32.toNat ≠ [] → _ = (l.times.map UInt32.toNat).sum / (l.times.map UInt32.toNat).length
  intro hne
  have hpos : 0 < ps.rtts.length := by
    rw [hlen]
    exact List.length_pos_iff.mpr fun hnil => hne (by rw [hnil]; rfl)
  have haverage := toNat_average (List.length_pos_iff.mp hpos) (hlen ▸ l.length_times_le) (by
    intro x hx
    obtain ⟨r, -, rfl⟩ := List.mem_map.mp (hperm.mem_iff.mp hx)
    rw [UInt32.toNat_toUInt64]
    exact r.toNat_lt)
  rw [List.length_map, ← hlen, ← hsum]
  unfold refreshMetrics
  rw [if_pos hpos]
  exact haverage

end

/-! ## Runs -/

/-- Every WAN is tracked, and the percentage shown is the ledger's. -/
structure Kept (x : World) : Prop where
  tracked : ∀ i < x.daemon.mgr.config.wans.length, Tracked x.timeoutMs (x.daemon.wanStates i) (x.ledger i)
  divisible : ∀ i < x.daemon.mgr.config.wans.length, Divisible (x.ledger i)
  lossShare : ∀ i w, x.daemon.mgr.config.wans[i]? = some w →
    IsLossShare w.metrics.packetLossPct (x.ledger i).recent

theorem Kept.exact (h : Kept x) : Exact x where
  accounted i hi := (h.tracked i hi).accounted
  lossRing i hi := (h.tracked i hi).booked.losses
  rttRing i hi := (h.tracked i hi).booked.rtts
  lossShare := h.lossShare

theorem tracked_start (timeoutMs : UInt32) : Tracked timeoutMs { currentSeq := 1 } {} where
  armed := {
    seq := rfl
    slot := fun _ hk => absurd hk (Nat.not_lt_zero _)
    fresh := fun k _ _ => by
      unfold pendingAt
      show (Vector.replicate 16 ({} : ProbeSlot))[(probeSlotOf (seqOf k)).val].sendTimeUs = 0
      rw [Vector.getElem_replicate]
    clock := nofun }
  booked := {
    idx := rfl
    losses := records_replicate false
    rtts := records_replicate 0 }
  accounted := {
    once := List.nodup_nil
    sent := nofun
    settled := fun _ hk => absurd hk (Nat.not_lt_zero _)
    success := nofun
    loss := nofun }
  answered := nofun

/-- A prober that starts on zeroed metrics. -/
theorem kept_start {mgr : WanManagerCtx} (hzero : ∀ w ∈ mgr.config.wans, w.metrics.packetLossPct = .fin 0 0)
    : Kept (World.start mgr pid) where
  tracked i hi := by
    have hps : (World.start mgr pid).daemon.wanStates i = { currentSeq := 1 } := if_pos hi
    rw [hps]
    exact tracked_start _
  divisible i _ := .inl rfl
  lossShare i w hw := by
    have hempty : ((World.start mgr pid).ledger i).recent = [] := rfl
    rw [hzero w (List.mem_of_getElem? hw), hempty]
    rfl

theorem round_timeoutMs (x : World) (env : Env) : (x.step (.round env nowUs)).timeoutMs = x.timeoutMs := by
  obtain ⟨_, _, hrest⟩ := (proberSendProbes_probed env x.daemon).rest
  show (proberSendProbes env nowUs x.daemon).mgr.config.prober.timeoutMs = _
  rw [hrest]
  rfl

/-- A round leaves WAN `i` alone, or advances its history and refreshes its metrics. -/
theorem round_wan (x : World) (env : Env) {w' : WanConfig}
    (hw' : (x.step (.round env nowUs)).daemon.mgr.config.wans[i]? = some w') :
    ∃ w, x.daemon.mgr.config.wans[i]? = some w ∧ w'.isProbed = w.isProbed ∧ x.daemon.probes i = w.isProbed ∧
      (w.isProbed = true → w'.metrics =
        refreshMetrics ((x.daemon.wanStates i).advance x.timeoutMs nowUs) nowUs w.metrics) ∧
      (w.isProbed = false → w' = w) := by
  change (proberSendProbes env nowUs x.daemon).mgr.config.wans[i]? = _ at hw'
  rw [proberSendProbes_wan] at hw'
  obtain ⟨w, hw, rfl⟩ := Option.map_eq_some_iff.mp hw'
  have hprobes : x.daemon.probes i = w.isProbed := by
    unfold Daemon.probes
    rw [hw, Option.any_some]
  refine ⟨w, hw, ?_, hprobes, fun hp => ?_, fun hp => ?_⟩
  · unfold observe
    split <;> rfl
  · simp only [observe, if_pos hp]
    rfl
  · exact observe_of_not_probed (by rw [hp]; decide)

section
variable {x : World} {env : Env} {nowUs : UInt64} {i : Nat}

theorem round_length : (x.step (.round env nowUs)).daemon.mgr.config.wans.length = x.daemon.mgr.config.wans.length := by
  have hnone (n : Nat) : (x.step (.round env nowUs)).daemon.mgr.config.wans[n]? = none ↔
      x.daemon.mgr.config.wans[n]? = none := by
    show (proberSendProbes env nowUs x.daemon).mgr.config.wans[n]? = none ↔ _
    rw [proberSendProbes_wan, Option.map_eq_none_iff]
  simp only [List.getElem?_eq_none_iff] at hnone
  exact Nat.le_antisymm ((hnone _).mpr le_rfl) ((hnone _).mp le_rfl)

/-- The history of a probed WAN and its ledger after the round. -/
theorem round_of_probed (hi : i < x.daemon.mgr.config.wans.length) (hp : x.daemon.probes i = true) :
    (x.step (.round env nowUs)).daemon.wanStates i = (x.daemon.wanStates i).advance x.timeoutMs nowUs ∧
      (x.step (.round env nowUs)).ledger i =
        (x.ledger i).send ((x.daemon.wanStates i).timedOut x.timeoutMs nowUs) nowUs := by
  refine ⟨?_, if_pos hp⟩
  show (proberSendProbes env nowUs x.daemon).wanStates i = _
  rw [proberSendProbes_wanStates env x.daemon hi, if_pos hp]
  rfl

theorem round_of_not_probed (hi : i < x.daemon.mgr.config.wans.length) (hp : ¬ x.daemon.probes i = true) :
    (x.step (.round env nowUs)).daemon.wanStates i = x.daemon.wanStates i ∧
      (x.step (.round env nowUs)).ledger i = x.ledger i := by
  refine ⟨?_, if_neg hp⟩
  show (proberSendProbes env nowUs x.daemon).wanStates i = _
  rw [proberSendProbes_wanStates env x.daemon hi, if_neg hp]

theorem Kept.round (h : Kept x) (o : Orderly x (.round env nowUs)) : Kept (x.step (.round env nowUs)) := by
  have hsend (i : Nat) (hi : i < x.daemon.mgr.config.wans.length) (hp : x.daemon.probes i = true) :=
    (h.tracked i hi).send (o i hp)
  refine ⟨fun i hi => ?_, fun i hi => ?_, fun i w' hw' => ?_⟩
  · rw [round_length] at hi
    rw [round_timeoutMs]
    by_cases hp : x.daemon.probes i = true
    · rw [(round_of_probed hi hp).1, (round_of_probed hi hp).2]
      exact hsend i hi hp
    · rw [(round_of_not_probed hi hp).1, (round_of_not_probed hi hp).2]
      exact h.tracked i hi
  · rw [round_length] at hi
    by_cases hp : x.daemon.probes i = true
    · rw [(round_of_probed hi hp).2]
      exact (o i hp).divisible (hsend i hi hp).booked
    · rw [(round_of_not_probed hi hp).2]
      exact h.divisible i hi
  · obtain ⟨w, hw, -, hprobes, hmetrics, hsame⟩ := round_wan x env hw'
    have hi : i < x.daemon.mgr.config.wans.length := (List.getElem?_eq_some_iff.mp hw).1
    by_cases hp : x.daemon.probes i = true
    · rw [(round_of_probed hi hp).2, hmetrics (hprobes ▸ hp), refreshMetrics_packetLossPct,
        (hsend i hi hp).booked.losses_eq]
      exact ((o i hp).divisible (hsend i hi hp).booked).isLossShare
    · rw [(round_of_not_probed hi hp).2, hsame (hprobes ▸ Bool.eq_false_iff.mpr hp)]
      exact h.lossShare i w hw

/-- A round's mean round-trip times are the ledger's. -/
theorem Kept.averaged (h : Kept x) (o : Orderly x (.round env nowUs)) : Averaged (x.step (.round env nowUs)) := by
  intro i w' hw' hp'
  obtain ⟨w, hw, hprobed, hprobes, hmetrics, -⟩ := round_wan x env hw'
  rw [hprobed] at hp'
  have hi : i < x.daemon.mgr.config.wans.length := (List.getElem?_eq_some_iff.mp hw).1
  have hp : x.daemon.probes i = true := hprobes.trans hp'
  rw [(round_of_probed hi hp).2, hmetrics hp']
  exact ((h.tracked i hi).send (o i hp)).isMeanRtt nowUs w.metrics

theorem packet_of_none {a : Arrival} (ha : decodeEcho x.daemon a.buf = none) : x.step (.packet nowUs a) = x := by
  show World.mk _ _ = _
  rw [proberHandlePacket_eq, ha]
  rfl

theorem packet_of_some {a : Arrival} (ha : decodeEcho x.daemon a.buf = some e) : x.step (.packet nowUs a) = {
      daemon := recordEcho nowUs x.daemon e
      ledger := fun i => if i = e.wanIdx then
        (x.ledger i).reply a.probe nowUs (measuredRtt nowUs e.sendTimeUs) else x.ledger i } := by
  show World.mk _ _ = _
  rw [proberHandlePacket_eq, ha]
  rfl

/-- A packet changes one WAN's time shown and nothing of its percentage. -/
theorem recordEcho_wan {d : Daemon} {w' : WanConfig} (hw' : (recordEcho nowUs d e).mgr.config.wans[i]? = some w') :
    ∃ w, d.mgr.config.wans[i]? = some w ∧ w'.metrics.packetLossPct = w.metrics.packetLossPct := by
  change (d.mgr.config.modifyWan e.wanIdx _).wans[i]? = _ at hw'
  rw [Config.getElem?_modifyWan] at hw'
  split at hw'
  · obtain ⟨w, hw, rfl⟩ := Option.map_eq_some_iff.mp hw'
    exact ⟨w, hw, rfl⟩
  · exact ⟨w', hw', rfl⟩

theorem Kept.packet (h : Kept x) (o : Orderly x (.packet nowUs a)) : Kept (x.step (.packet nowUs a)) := by
  cases ha : decodeEcho x.daemon a.buf with
  | none =>
    rw [packet_of_none ha]
    exact h
  | some e =>
    have hlen : (recordEcho nowUs x.daemon e).mgr.config.wans.length = x.daemon.mgr.config.wans.length :=
      List.length_modify _ _ _
    have hreply := (h.tracked e.wanIdx (decodeEcho_wanIdx ha)).reply (o e ha)
    rw [packet_of_some ha]
    refine ⟨fun i hi => ?_, fun i hi => ?_, fun i w' hw' => ?_⟩
    · have hi' : i < x.daemon.mgr.config.wans.length := hlen ▸ hi
      show Tracked x.timeoutMs (if i = e.wanIdx then _ else _) (if i = e.wanIdx then _ else _)
      by_cases hie : i = e.wanIdx
      · rw [if_pos hie, if_pos hie, hie]
        exact hreply
      · rw [if_neg hie, if_neg hie]
        exact h.tracked i hi'
    · have hi' : i < x.daemon.mgr.config.wans.length := hlen ▸ hi
      show Divisible (if i = e.wanIdx then _ else _)
      by_cases hie : i = e.wanIdx
      · rw [if_pos hie]
        exact (h.divisible i hi').reply (h.tracked i hi').booked (hie ▸ (o e ha).steady) _ _ _
      · rw [if_neg hie]
        exact h.divisible i hi'
    · obtain ⟨w, hw, hpct⟩ := recordEcho_wan hw'
      have hi' : i < x.daemon.mgr.config.wans.length := (List.getElem?_eq_some_iff.mp hw).1
      rw [hpct]
      show IsLossShare _ (if i = e.wanIdx then _ else _ : Ledger).recent
      by_cases hie : i = e.wanIdx
      · rw [if_pos hie]
        exact (h.lossShare i w hw).reply (h.divisible i hi') (h.tracked i hi').booked (hie ▸ (o e ha).steady) _ _ _
      · rw [if_neg hie]
        exact h.lossShare i w hw

theorem Kept.step (h : Kept x) (o : Orderly x e) : Kept (x.step e) := by
  cases e with
  | round env nowUs => exact h.round o
  | packet nowUs a => exact h.packet o

end

theorem Kept.run : ∀ {x : World}, Kept x → OrderlyRun x events → Kept (x.run events) := by
  induction events with
  | nil => exact fun h _ => h
  | cons e events ih => exact fun h o => ih (h.step o.1) o.2

theorem OrderlyRun.last : ∀ {x : World}, OrderlyRun x (before ++ [e]) →
    OrderlyRun x before ∧ Orderly (x.run before) e := by
  induction before with
  | nil => exact fun o => ⟨trivial, o.1⟩
  | cons e' before ih => exact fun o => ⟨⟨o.1, (ih o.2).1⟩, (ih o.2).2⟩

theorem World.run_append (x : World) (before after : List Event) :
    x.run (before ++ after) = (x.run before).run after := List.foldl_append

/-- **Every probe is accounted for.**  From a fresh start, in every state that orderly rounds and replies reach,
    each probe has one entry in the history that says what became of it, the rings and the loss percentage are
    those of the last 32 entries, and a round leaves the mean round-trip time of the successes among them. -/
theorem probes_accounted (mgr : WanManagerCtx) (pid : UInt16)
    (hzero : ∀ w ∈ mgr.config.wans, w.metrics.packetLossPct = .fin 0 0) (events : List Event)
    (h : OrderlyRun (World.start mgr pid) events) :
    Exact ((World.start mgr pid).run events) ∧
      ∀ before env nowUs, events = before ++ [Event.round env nowUs] → Averaged ((World.start mgr pid).run events) := by
  refine ⟨((kept_start hzero).run h).exact, ?_⟩
  rintro before env nowUs rfl
  obtain ⟨hbefore, hlast⟩ := h.last
  rw [World.run_append]
  exact ((kept_start hzero).run hbefore).averaged hlast

/-! ### One WAN -/

/-- One probed WAN, a timeout of one second. -/
def oneWan : WanManagerCtx where
  config := {
    wans := [{ name := "eth0".toList, enabled := true }]
    prober := { timeoutMs := 1000 } }

/-- The reply to the first probe if that was sent at one second. -/
def firstReply : Arrival where
  dev := "eth0".toList
  buf := (0x45 :: List.replicate 19 0) ++ [0, 0, 0, 0, 0, 0, 0, 1] ++ [0x40, 0x42, 0x0F, 0, 0, 0, 0, 0]
  probe := 0

/-- A probe, its reply ten milliseconds later, and the next probe. -/
def answered (s : Sockets) : List Event :=
  Event.round {} 1000000 :: drain s (fun _ => 1010000) [firstReply] ++ [Event.round {} 2000000]

theorem probes_one {x : World} (h : x.daemon.mgr.config.wans.length = 1) (hp : x.daemon.probes i = true) : i = 0 := by
  by_contra hi
  have hnone : x.daemon.mgr.config.wans[i]? = none := List.getElem?_eq_none_iff.mpr (by omega)
  unfold Daemon.probes at hp
  rw [hnone] at hp
  cases hp

/-- Seen through the global socket alone, the reply is booked once. -/
theorem probes_accounted_answered :
    (((World.start oneWan 0).run (answered ⟨true, [none]⟩)).ledger 0).entries = [(0, .success 10)] ∧
      Exact ((World.start oneWan 0).run (answered ⟨true, [none]⟩)) ∧
      Averaged ((World.start oneWan 0).run (answered ⟨true, [none]⟩)) := by
  have horderly : OrderlyRun (World.start oneWan 0) (answered ⟨true, [none]⟩) := by
    refine ⟨fun i hp => ?_, fun e he => ?_, fun i hp => ?_, trivial⟩
    · obtain rfl := probes_one rfl hp
      exact ⟨by decide, by decide, by decide, by decide⟩
    · have hecho : e = { wanIdx := 0, seq := 1, sendTimeUs := 1000000 } :=
        Option.some.inj (he.symm.trans (by decide))
      subst hecho
      exact ⟨rfl, by decide, by decide, by decide, by
        unfold InTime
        decide, by decide⟩
    · obtain rfl := probes_one (by decide) hp
      exact ⟨by decide, by decide, by decide, by decide⟩
  have hall := probes_accounted oneWan 0 (by decide) _ horderly
  exact ⟨by decide, hall.1, hall.2 _ {} 2000000 rfl⟩

/-- Probes a second apart that nobody answers: the seventeenth finds the first overdue. -/
def unanswered : List Event := (List.range 17).map fun k => .round {} (UInt64.ofNat ((k + 1) * 1000000))

/-- The reply is handed to the global socket and to the WAN's own, and each copy is booked; and the first loss of
    all, alone in the history, makes 3.125 per cent. -/
theorem reply_counted_twice :
    (((World.start oneWan 0).run (answered ⟨true, [some "eth0".toList]⟩)).ledger 0).entries =
        [(0, .success 10), (0, .success 10)] ∧
      ¬ Exact ((World.start oneWan 0).run (answered ⟨true, [some "eth0".toList]⟩)) ∧
      (((World.start oneWan 0).run unanswered).ledger 0).entries = [(0, .loss)] ∧
      ((World.start oneWan 0).run unanswered).daemon.mgr.config.wans.map (·.metrics.packetLossPct) = [.fin 100 5] ∧
      ¬ Exact ((World.start oneWan 0).run unanswered) := by
  have htwice : (((World.start oneWan 0).run (answered ⟨true, [some "eth0".toList]⟩)).ledger 0).entries =
      [(0, .success 10), (0, .success 10)] := by decide
  have hloss : (((World.start oneWan 0).run unanswered).ledger 0).entries = [(0, .loss)] := by decide
  have hpct : ((World.start oneWan 0).run unanswered).daemon.mgr.config.wans.map (·.metrics.packetLossPct) =
      [.fin 100 5] := by decide
  refine ⟨htwice, fun h => ?_, hloss, hpct, fun h => ?_⟩
  · have honce := (h.accounted 0 (by decide)).once
    unfold Ledger.resolved at honce
    rw [htwice] at honce
    exact absurd honce (by decide)
  · obtain ⟨w, hw, hwpct⟩ : ∃ w, ((World.start oneWan 0).run unanswered).daemon.mgr.config.wans[0]? = some w ∧
        w.metrics.packetLossPct = .fin 100 5 := by
      have hget := congrArg (·[0]?) hpct
      simpa using hget
    have hshare := h.lossShare 0 w hw
    rw [hwpct] at hshare
    unfold Ledger.recent Ledger.outcomes at hshare
    rw [hloss] at hshare
    exact absurd hshare (by
      show ¬ ((100 : Int) * (max 1 1 : Nat) = ((1 * 100 * 2 ^ 5 : Nat) : Int))
      decide)

end FluxWAN.ProbeHistory
