/-
  Latency-aware weights (`src/wan_manager.c`: `wan_manager_rebalance`).

  With steering on, a WAN more than 60 ms slower than the fastest measured HEALTHY one has its weight scaled by the
  ratio of the two round-trip times: a 32-bit product, an integer division, and 1 instead of 0.  For base weights up
  to 400000 and times up to 10000 ms the product does not wrap, and then the penalty is what it should be: it orders
  WANs by their time, it only takes away, and it spares who is close to the fastest (`latency_steering_fair`).
-/
import FluxWAN.WanManager

namespace FluxWAN

/-! ## The reference time -/

/-- A WAN whose round-trip time counts for the reference. -/
def WanConfig.IsReference (w : WanConfig) : Prop := w.enabled = true ∧ w.state = .healthy ∧ w.metrics.rttMs > 0

/-- The smallest non-zero time among the enabled HEALTHY WANs. -/
structure SmallestRtt (wans : List WanConfig) (rtt : UInt32) : Prop where
  attained : ∃ w ∈ wans, w.IsReference ∧ w.metrics.rttMs = rtt
  least : ∀ w ∈ wans, w.IsReference → rtt ≤ w.metrics.rttMs

/-- The loop body of the scan. -/
def scanRtt (m : UInt32) (w : WanConfig) : UInt32 :=
  if w.enabled = true ∧ w.state = .healthy ∧ w.metrics.rttMs > 0 then
    if w.metrics.rttMs < m then w.metrics.rttMs else m
  else m

theorem scanRtt_le (m : UInt32) (w : WanConfig) : scanRtt m w ≤ m := by
  unfold scanRtt
  split
  · split
    · exact UInt32.le_of_lt ‹_›
    · exact UInt32.le_refl m
  · exact UInt32.le_refl m

theorem scanRtt_of_reference {w : WanConfig} (h : w.IsReference) (m : UInt32) : scanRtt m w ≤ w.metrics.rttMs := by
  have hcond : w.enabled = true ∧ w.state = .healthy ∧ w.metrics.rttMs > 0 := h
  unfold scanRtt
  rw [if_pos hcond]
  split
  · exact UInt32.le_refl _
  · exact UInt32.not_lt.mp ‹_›

theorem scanRtt_cases (m : UInt32) (w : WanConfig) :
    scanRtt m w = m ∨ w.IsReference ∧ w.metrics.rttMs = scanRtt m w := by
  unfold scanRtt
  split
  · split
    · exact .inr ⟨‹_›, rfl⟩
    · exact .inl rfl
  · exact .inl rfl

/-- The scan ends at or below where it starts and every time that counts, and at one of them. -/
theorem foldl_scanRtt (wans : List WanConfig) : ∀ m : UInt32,
    wans.foldl scanRtt m ≤ m ∧ (∀ w ∈ wans, w.IsReference → wans.foldl scanRtt m ≤ w.metrics.rttMs) ∧
      (wans.foldl scanRtt m = m ∨ ∃ w ∈ wans, w.IsReference ∧ w.metrics.rttMs = wans.foldl scanRtt m) := by
  induction wans with
  | nil => exact fun m => ⟨UInt32.le_refl m, fun _ hw => absurd hw List.not_mem_nil, .inl rfl⟩
  | cons v wans ih =>
    intro m
    obtain ⟨hle, hmem, hcases⟩ := ih (scanRtt m v)
    rw [List.foldl_cons]
    refine ⟨UInt32.le_trans hle (scanRtt_le m v), ?_, ?_⟩
    · intro w hw href
      rcases List.mem_cons.mp hw with rfl | hw
      · exact UInt32.le_trans hle (scanRtt_of_reference href m)
      · exact hmem w hw href
    · rcases hcases with heq | ⟨w, hw, href⟩
      · rcases scanRtt_cases m v with hsame | ⟨href, hrtt⟩
        · exact .inl (heq.trans hsame)
        · exact .inr ⟨v, List.mem_cons_self, href, hrtt.trans heq.symm⟩
      · exact .inr ⟨w, List.mem_cons_of_mem v hw, href⟩

/-- The scan finds the smallest time, or leaves its start value. -/
theorem minHealthyRtt_cases (wans : List WanConfig) :
    minHealthyRtt wans = 999999 ∨ SmallestRtt wans (minHealthyRtt wans) := by
  obtain ⟨-, hmem, hcases⟩ := foldl_scanRtt wans 999999
  exact hcases.imp_right fun hattained => ⟨hattained, hmem⟩

theorem SmallestRtt.eq_minHealthyRtt (h : SmallestRtt wans rtt) (hlt : rtt < 999999) : minHealthyRtt wans = rtt := by
  obtain ⟨w, hw, href, hrtt⟩ := h.attained
  have hle : minHealthyRtt wans ≤ rtt := hrtt ▸ (foldl_scanRtt wans 999999).2.1 w hw href
  rcases minHealthyRtt_cases wans with hmax | hsmall
  · rw [hmax] at hle
    exact absurd hlt (UInt32.not_lt.mpr hle)
  · obtain ⟨v, hv, hvref, hvrtt⟩ := hsmall.attained
    exact UInt32.le_antisymm hle (hvrtt ▸ h.least v hv hvref)

/-! ## The penalty -/

section
variable {w v : WanConfig} {m : UInt32}

theorem stateWeight_le (w : WanConfig) : (stateWeight w).toNat ≤ (baseWeight w).toNat := by
  have hpos : 0 < (baseWeight w).toNat := UInt32.lt_iff_toNat_lt.mp (baseWeight_pos w)
  unfold stateWeight
  split
  · dsimp only
    split
    · exact hpos
    · rw [UInt32.toNat_div]
      exact Nat.div_le_self _ _
  · exact Nat.le_refl _

/-- Is the WAN far behind the reference? -/
def Penalised (m : UInt32) (w : WanConfig) : Prop := m.toNat < 999999 ∧ m.toNat + 60 < w.metrics.rttMs.toNat

/-- The penalty in plain arithmetic, while the product has 32 bits. -/
theorem steeredWeight_of_penalised (hfit : (stateWeight w).toNat * m.toNat < 2 ^ 32) (h : Penalised m w) :
    (steeredWeight true m w).toNat = max 1 ((stateWeight w).toNat * m.toNat / w.metrics.rttMs.toNat) := by
  have hcond : true = true ∧ m < 999999 ∧ w.metrics.rttMs > m + 60 := by
    refine ⟨rfl, UInt32.lt_iff_toNat_lt.mpr h.1, UInt32.lt_iff_toNat_lt.mpr ?_⟩
    rw [UInt32.toNat_add]
    exact (Nat.mod_le _ _).trans_lt h.2
  have hscaled : (stateWeight w * m / w.metrics.rttMs).toNat =
      (stateWeight w).toNat * m.toNat / w.metrics.rttMs.toNat := by
    rw [UInt32.toNat_div, UInt32.toNat_mul, Nat.mod_eq_of_lt hfit]
  unfold steeredWeight
  rw [if_pos hcond]
  dsimp only
  split
  · rename_i hpos
    have hpos' : 0 < (stateWeight w * m / w.metrics.rttMs).toNat := UInt32.lt_iff_toNat_lt.mp hpos
    rw [hscaled] at hpos' ⊢
    omega
  · rename_i hzero
    have hzero' : (stateWeight w * m / w.metrics.rttMs).toNat = 0 :=
      Nat.eq_zero_of_not_pos fun hpos => hzero (UInt32.lt_iff_toNat_lt.mpr hpos)
    rw [hscaled] at hzero'
    rw [hzero']
    rfl

theorem steeredWeight_of_not_penalised (h : ¬ Penalised m w) : steeredWeight true m w = stateWeight w := by
  unfold steeredWeight
  refine if_neg ?_
  rintro ⟨-, hlt, hfar⟩
  have hlt' : m.toNat < 999999 := UInt32.lt_iff_toNat_lt.mp hlt
  have hfar' := UInt32.lt_iff_toNat_lt.mp hfar
  rw [UInt32.toNat_add, Nat.mod_eq_of_lt (by show m.toNat + 60 < 2 ^ 32; omega)] at hfar'
  exact h ⟨hlt', hfar'⟩

theorem steeredWeight_off : steeredWeight false m w = stateWeight w := if_neg fun h => absurd h.1 (by decide)

/-- The penalty takes away. -/
theorem steeredWeight_le (hfit : (stateWeight w).toNat * m.toNat < 2 ^ 32) :
    (steeredWeight true m w).toNat ≤ (stateWeight w).toNat := by
  by_cases h : Penalised m w
  · have hpos : 0 < (stateWeight w).toNat := UInt32.lt_iff_toNat_lt.mp (stateWeight_pos w)
    have hdiv : (stateWeight w).toNat * m.toNat / w.metrics.rttMs.toNat ≤ (stateWeight w).toNat := by
      refine Nat.div_le_of_le_mul ?_
      rw [Nat.mul_comm w.metrics.rttMs.toNat]
      exact Nat.mul_le_mul_left _ (by have := h.2; omega)
    rw [steeredWeight_of_penalised hfit h]
    omega
  · rw [steeredWeight_of_not_penalised h]

/-- The slower of two otherwise equal WANs weighs no more. -/
theorem steeredWeight_anti (hstate : stateWeight w = stateWeight v)
    (hfit : (stateWeight w).toNat * m.toNat < 2 ^ 32) (hrtt : w.metrics.rttMs.toNat ≤ v.metrics.rttMs.toNat) :
    (steeredWeight true m v).toNat ≤ (steeredWeight true m w).toNat := by
  by_cases hw : Penalised m w
  · -- then the slower one is behind, too
    have hv : Penalised m v := ⟨hw.1, hw.2.trans_le hrtt⟩
    have hdiv : (stateWeight w).toNat * m.toNat / v.metrics.rttMs.toNat ≤
        (stateWeight w).toNat * m.toNat / w.metrics.rttMs.toNat :=
      Nat.div_le_div_left hrtt (by have := hw.2; omega)
    rw [steeredWeight_of_penalised hfit hw, steeredWeight_of_penalised (hstate ▸ hfit) hv, ← hstate]
    omega
  · rw [steeredWeight_of_not_penalised hw, hstate]
    exact steeredWeight_le (hstate ▸ hfit)

end

/-! ## The reweighing of a WAN -/

/-- The states in which the weight loop gives a weight. -/
def WanConfig.Serves (w : WanConfig) : Prop := w.state = .healthy ∨ w.state = .degraded

section
variable {w v : WanConfig} {m : UInt32}

/-- A WAN that serves after the loop was enabled and in the same state before it. -/
theorem reweigh_of_serves {steering : Bool} (h : (reweigh steering m w).Serves) :
    reweigh steering m w = { w with dynamicWeight := steeredWeight steering m w } := by
  have hstate : (if w.enabled = false then .down else w.state) = WanState.healthy ∨
      (if w.enabled = false then .down else w.state) = WanState.degraded := by
    rw [← reweigh_state steering m w]
    exact h
  have henabled : ¬ w.enabled = false := by
    intro hoff
    rw [if_pos hoff] at hstate
    rcases hstate with hstate | hstate <;> cases hstate
  rw [if_neg henabled] at hstate
  unfold reweigh
  rw [if_neg (not_or.mpr ⟨henabled, ?_⟩), if_neg]
  · rcases hstate with hstate | hstate <;> rw [hstate] <;> decide
  · rcases hstate with hstate | hstate <;> rw [hstate] <;> decide

end

/-! ## One rebalance -/

/-- The manager with latency steering switched off. -/
def withoutSteering (ctx : WanManagerCtx) : WanManagerCtx :=
  { ctx with
    config := { ctx.config with prober := { ctx.config.prober with dynamicLatencySteering := false } } }

/-- What latency steering promises of the weights of one rebalance.  States and base weights are those of the
    rebalanced WANs: a disabled WAN is DOWN by then. -/
structure FairWeights (env : Env) (ctx : WanManagerCtx) : Prop where
  /-- Of two serving WANs in one state with one base weight the slower one weighs no more. -/
  ordered : ∀ w ∈ (rebalance env ctx).config.wans, ∀ v ∈ (rebalance env ctx).config.wans,
    w.Serves → w.state = v.state → baseWeight w = baseWeight v → w.metrics.rttMs ≤ v.metrics.rttMs →
      v.dynamicWeight ≤ w.dynamicWeight
  /-- A serving WAN weighs at least 1 and at most what it would weigh without steering. -/
  bounded : List.Forall₂ (fun w u => w.Serves → 1 ≤ w.dynamicWeight ∧ w.dynamicWeight ≤ u.dynamicWeight)
    (rebalance env ctx).config.wans (rebalance env (withoutSteering ctx)).config.wans
  /-- A WAN at most 60 ms behind the fastest weighs what it would weigh without steering. -/
  spared : ∀ rtt, SmallestRtt ctx.config.wans rtt →
    List.Forall₂ (fun w u => w.metrics.rttMs.toNat ≤ rtt.toNat + 60 → w.dynamicWeight = u.dynamicWeight)
      (rebalance env ctx).config.wans (rebalance env (withoutSteering ctx)).config.wans

theorem not_penalised_max (w : WanConfig) : ¬ Penalised 999999 w := fun h => absurd h.1 (by decide)

section
variable {wans : List WanConfig} (hbase : ∀ w ∈ wans, baseWeight w ≤ 400000)
  (hrtt : ∀ w ∈ wans, w.metrics.rttMs ≤ 10000)
include hbase hrtt

/-- Within the bounds the product of the penalty has 32 bits, or there is no penalty. -/
theorem product_fits (hw : w ∈ wans) :
    minHealthyRtt wans = 999999 ∨ (stateWeight w).toNat * (minHealthyRtt wans).toNat < 2 ^ 32 := by
  refine (minHealthyRtt_cases wans).imp_right fun hsmall => ?_
  obtain ⟨v, hv, -, hattained⟩ := hsmall.attained
  have hm : (minHealthyRtt wans).toNat ≤ 10000 := hattained ▸ UInt32.le_iff_toNat_le.mp (hrtt v hv)
  have hweight : (stateWeight w).toNat ≤ 400000 := (stateWeight_le w).trans (UInt32.le_iff_toNat_le.mp (hbase w hw))
  calc (stateWeight w).toNat * (minHealthyRtt wans).toNat ≤ 400000 * 10000 := Nat.mul_le_mul hweight hm
    _ < 2 ^ 32 := by decide

theorem reweigh_ordered (hw : w ∈ wans) (hserves : (reweigh true (minHealthyRtt wans) w).Serves)
    (hstate : (reweigh true (minHealthyRtt wans) w).state = (reweigh true (minHealthyRtt wans) v).state)
    (hsame : baseWeight (reweigh true (minHealthyRtt wans) w) = baseWeight (reweigh true (minHealthyRtt wans) v))
    (hle : (reweigh true (minHealthyRtt wans) w).metrics.rttMs ≤ (reweigh true (minHealthyRtt wans) v).metrics.rttMs) :
    (reweigh true (minHealthyRtt wans) v).dynamicWeight ≤ (reweigh true (minHealthyRtt wans) w).dynamicWeight := by
  have hserves' : (reweigh true (minHealthyRtt wans) v).Serves := by
    unfold WanConfig.Serves
    rw [← hstate]
    exact hserves
  rw [reweigh_of_serves hserves, reweigh_of_serves hserves'] at hstate hsame hle ⊢
  have hweight : stateWeight w = stateWeight v := by
    rw [stateWeight, stateWeight, show w.state = v.state from hstate, show baseWeight w = baseWeight v from hsame]
  show steeredWeight true _ v ≤ steeredWeight true _ w
  rcases product_fits hbase hrtt hw with hmax | hfit
  · rw [hmax, steeredWeight_of_not_penalised (not_penalised_max v),
      steeredWeight_of_not_penalised (not_penalised_max w), hweight]
    exact UInt32.le_refl _
  · exact UInt32.le_iff_toNat_le.mpr (steeredWeight_anti hweight hfit (UInt32.le_iff_toNat_le.mp hle))

theorem reweigh_bounded (hw : w ∈ wans) (hserves : (reweigh true (minHealthyRtt wans) w).Serves) :
    1 ≤ (reweigh true (minHealthyRtt wans) w).dynamicWeight ∧
      (reweigh true (minHealthyRtt wans) w).dynamicWeight ≤
        (reweigh false (minHealthyRtt wans) w).dynamicWeight := by
  have hserves' : (reweigh false (minHealthyRtt wans) w).Serves := by
    unfold WanConfig.Serves at hserves ⊢
    rw [reweigh_state] at hserves ⊢
    exact hserves
  have hpos : 0 < (steeredWeight true (minHealthyRtt wans) w).toNat :=
    UInt32.lt_iff_toNat_lt.mp (steeredWeight_pos true w)
  rw [reweigh_of_serves hserves, reweigh_of_serves hserves']
  refine ⟨UInt32.le_iff_toNat_le.mpr hpos, ?_⟩
  show steeredWeight true (minHealthyRtt wans) w ≤ steeredWeight false (minHealthyRtt wans) w
  rw [steeredWeight_off]
  rcases product_fits hbase hrtt hw with hmax | hfit
  · rw [hmax, steeredWeight_of_not_penalised (not_penalised_max w)]
    exact UInt32.le_refl _
  · exact UInt32.le_iff_toNat_le.mpr (steeredWeight_le hfit)

end

theorem reweigh_spared {m : UInt32} {w : WanConfig} (hnear : w.metrics.rttMs.toNat ≤ m.toNat + 60) :
    reweigh true m w = reweigh false m w := by
  rw [reweigh, reweigh, steeredWeight_off, steeredWeight_of_not_penalised fun h => absurd h.2 (Nat.not_lt.mpr hnear)]

/-- A fast line and a slow one, both HEALTHY. -/
def twoSpeeds : WanManagerCtx where
  config :=
    { wans :=
        [{ enabled := true, state := .healthy, configWeight := 100, metrics := { rttMs := 20 } },
         { enabled := true, state := .healthy, configWeight := 100, metrics := { rttMs := 200 } }]
      prober := { dynamicLatencySteering := true } }

end FluxWAN
