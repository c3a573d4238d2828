/-
  How many slots a member of a weighted fill gets, and on what the outcome depends.

  `WeightedFill` says who owns slots; this file says how many.  Two kinds of result, both by way of the single
  member's TURN in a round:

  * two fills compared: a map of the member list that every round commutes with leaves the finished table
    unchanged (`fillLoop_simulates`); dropping the members without weight is one (`fillLoop_filter`), scaling all
    weights and the maximal weight by a factor is another (`fillLoop_scale`);
  * exact shares: with probe sequences that reach every slot, a member of weight `w` holds `⌊r * w / W⌋` slots
    after `r` complete rounds and carries the remainder in its accumulator (`Paid`); the last round may end
    early, so in the finished table it holds `⌊(K - 1) * w / W⌋` or `⌊K * w / W⌋` (`fillLoop_shares`).
-/
import FluxWAN.Lib.WeightedFill
import Mathlib.Data.List.Nodup

namespace FluxWAN.WeightedFill

open SlotTable

variable {α : Type} {n : Nat} [DecidableEq α]

/-- A round is a turn after the other, until the table is full. -/
theorem fillRound_cons (word maxWeight : Nat) (m : Member α n) {st : Fill α n} (hroom : st.runs ≠ n) :
    fillRound vacant word maxWeight (m :: ms) st = if (turn vacant word maxWeight m st).2.runs = n then
        ((turn vacant word maxWeight m st).1 :: ms, (turn vacant word maxWeight m st).2)
      else
        ((turn vacant word maxWeight m st).1 ::
            (fillRound vacant word maxWeight ms (turn vacant word maxWeight m st).2).1,
          (fillRound vacant word maxWeight ms (turn vacant word maxWeight m st).2).2) := by
  rcases fillRound_cons_cases vacant word maxWeight m ms st with ⟨h, hfull⟩ | ⟨h, hmore⟩
  · rw [h, if_pos hfull]
  · rw [h, if_neg (hmore hroom)]

/-! ## Two fills compared -/

section
variable {vacant : α} {word maxWeight maxWeight' : Nat}

/-- **The simulation rule**: a map of the member list that every round commutes with does not change the
    finished table. -/
theorem fillLoop_simulates (fallback : α) (f : List (Member α n) → List (Member α n))
    (Inv : List (Member α n) → Prop)
    (hround : ∀ (ms : List (Member α n)) (st : Fill α n), Inv ms → st.runs ≠ n →
      Inv (fillRound vacant word maxWeight ms st).1 ∧
        fillRound vacant word maxWeight' (f ms) st =
          (f (fillRound vacant word maxWeight ms st).1, (fillRound vacant word maxWeight ms st).2))
    (ms : List (Member α n)) (table : Vector α n) (runs : Nat) : Inv ms →
    fillLoop vacant word maxWeight' fallback (f ms) table runs =
      fillLoop vacant word maxWeight fallback ms table runs := by
  fun_induction fillLoop vacant word maxWeight fallback ms table runs with
  | case1 ms table runs hlt r hp =>
    intro hinv
    have hsame := (hround ms ⟨table, runs, false⟩ hinv (Nat.ne_of_lt hlt)).2
    rw [fillLoop, dif_pos hlt]
    simp only [hsame]
    exact dif_pos hp
  | case2 ms table runs hlt r hp ih =>
    intro hinv
    obtain ⟨hnext, hsame⟩ := hround ms ⟨table, runs, false⟩ hinv (Nat.ne_of_lt hlt)
    rw [fillLoop, dif_pos hlt]
    simp only [hsame]
    exact (dif_neg hp).trans (ih hnext)
  | case3 ms table runs hlt =>
    intro _
    rw [fillLoop, dif_neg hlt]

/-! ### Members without weight -/

/-- Members that take part. -/
def Member.contends (m : Member α n) : Bool := m.weight ≠ 0

theorem fillRound_filter (ms : List (Member α n)) : ∀ st : Fill α n, st.runs ≠ n →
    fillRound vacant word maxWeight (ms.filter Member.contends) st =
      ((fillRound vacant word maxWeight ms st).1.filter Member.contends,
        (fillRound vacant word maxWeight ms st).2) := by
  induction ms with
  | nil => exact fun st _ => rfl
  | cons m ms ih =>
    intro st hroom
    rw [fillRound_cons word maxWeight m hroom]
    by_cases hw : m.contends = true
    · rw [List.filter_cons_of_pos hw, fillRound_cons word maxWeight m hroom]
      have hw' : (turn vacant word maxWeight m st).1.contends = true := by
        rwa [Member.contends, (turn_member vacant word maxWeight m st).2.2]
      by_cases hfull : (turn vacant word maxWeight m st).2.runs = n
      · rw [if_pos hfull, if_pos hfull, List.filter_cons_of_pos hw']
      · rw [if_neg hfull, if_neg hfull, List.filter_cons_of_pos hw', ih _ hfull]
    · -- its turn is no turn
      have hturn : turn vacant word maxWeight m st = (m, st) :=
        if_pos (by simpa [Member.contends] using hw)
      rw [List.filter_cons_of_neg hw, hturn, if_neg hroom, List.filter_cons_of_neg hw]
      exact ih st hroom

theorem fillLoop_filter (ms : List (Member α n)) :
    fillLoop vacant word maxWeight fallback (ms.filter Member.contends) table runs =
      fillLoop vacant word maxWeight fallback ms table runs :=
  fillLoop_simulates fallback _ (fun _ => True) (fun ms st _ hroom => ⟨trivial, fillRound_filter ms st hroom⟩)
    ms table runs trivial

/-! ### Weights scaled by a factor -/

/-- The member with weight and accumulator multiplied. -/
def Member.scale (k : Nat) (m : Member α n) : Member α n :=
  { m with weight := k * m.weight, cum := k * m.cum }

/-- Weight and accumulator are within the maximal weight. -/
def Member.Within (maxWeight : Nat) (m : Member α n) : Prop := m.weight ≤ maxWeight ∧ m.cum < maxWeight

omit [DecidableEq α] in
theorem Member.Within.cum_lt {m : Member α n} (h : m.Within maxWeight) (hword : 2 * maxWeight ≤ word) :
    (m.cum + m.weight) % word = m.cum + m.weight :=
  Nat.mod_eq_of_lt (by have := h.1; have := h.2; omega)

theorem turn_within {m : Member α n} (h : m.Within maxWeight) (hword : 2 * maxWeight ≤ word) :
    (turn vacant word maxWeight m st).1.Within maxWeight := by
  have hcum := h.cum_lt hword
  obtain ⟨hweight, hlt⟩ := h
  unfold turn
  rw [hcum]
  split
  · exact ⟨hweight, hlt⟩
  · split
    · exact ⟨hweight, show m.cum + m.weight - maxWeight < maxWeight by omega⟩
    · exact ⟨hweight, show m.cum + m.weight < maxWeight by omega⟩

theorem fillRound_within (hword : 2 * maxWeight ≤ word) (ms : List (Member α n)) : ∀ st : Fill α n,
    st.runs ≠ n → (∀ m ∈ ms, m.Within maxWeight) →
      ∀ m ∈ (fillRound vacant word maxWeight ms st).1, m.Within maxWeight := by
  induction ms with
  | nil => exact fun st _ h => h
  | cons m ms ih =>
    intro st hroom h
    obtain ⟨hm, hms⟩ := List.forall_mem_cons.mp h
    have hturn : (turn vacant word maxWeight m st).1.Within maxWeight := turn_within hm hword
    rw [fillRound_cons word maxWeight m hroom]
    by_cases hfull : (turn vacant word maxWeight m st).2.runs = n
    · rw [if_pos hfull]
      exact List.forall_mem_cons.mpr ⟨hturn, hms⟩
    · rw [if_neg hfull]
      exact List.forall_mem_cons.mpr ⟨hturn, ih _ hfull hms⟩

variable {k : Nat}

/-- The scaled member has its turn when the member has, and claims the same slot. -/
theorem turn_scale (hk : 0 < k) (hword : 2 * (k * maxWeight) ≤ word) {m : Member α n} (h : m.Within maxWeight)
    : turn vacant word (k * maxWeight) (m.scale k) st =
      ((turn vacant word maxWeight m st).1.scale k, (turn vacant word maxWeight m st).2) := by
  have hle : maxWeight ≤ k * maxWeight := Nat.le_mul_of_pos_left _ hk
  have hcum := h.cum_lt (show 2 * maxWeight ≤ word by omega)
  have hcum' : ((m.scale k).cum + (m.scale k).weight) % word = k * (m.cum + m.weight) := by
    have hlt : m.cum + m.weight < 2 * maxWeight := by have := h.1; have := h.2; omega
    have hklt : k * (m.cum + m.weight) < k * (2 * maxWeight) := Nat.mul_lt_mul_of_pos_left hlt hk
    show (k * m.cum + k * m.weight) % word = _
    rw [← Nat.mul_add]
    refine Nat.mod_eq_of_lt (hklt.trans_le ?_)
    rw [Nat.mul_left_comm]
    exact hword
  unfold turn
  rw [hcum, hcum']
  by_cases hw : m.weight = 0
  · have hw' : (m.scale k).weight = 0 := by
      show k * m.weight = 0
      rw [hw, Nat.mul_zero]
    rw [if_pos hw', if_pos hw]
  · have hw' : ¬ (m.scale k).weight = 0 := Nat.mul_ne_zero hk.ne' hw
    rw [if_neg hw', if_neg hw]
    by_cases hc : maxWeight ≤ m.cum + m.weight
    · rw [if_pos (Nat.mul_le_mul_left k hc), if_pos hc, ← Nat.mul_sub]
      rfl
    · rw [if_neg (fun h => hc (Nat.le_of_mul_le_mul_left h hk)), if_neg hc]
      rfl

theorem fillRound_scale (hk : 0 < k) (hword : 2 * (k * maxWeight) ≤ word) (ms : List (Member α n)) :
    ∀ st : Fill α n, st.runs ≠ n → (∀ m ∈ ms, m.Within maxWeight) →
      fillRound vacant word (k * maxWeight) (ms.map (Member.scale k)) st =
        ((fillRound vacant word maxWeight ms st).1.map (Member.scale k),
          (fillRound vacant word maxWeight ms st).2) := by
  induction ms with
  | nil => exact fun st _ _ => rfl
  | cons m ms ih =>
    intro st hroom h
    obtain ⟨hm, hms⟩ := List.forall_mem_cons.mp h
    rw [List.map_cons, fillRound_cons word _ _ hroom, fillRound_cons word maxWeight m hroom,
      turn_scale hk hword hm]
    by_cases hfull : (turn vacant word maxWeight m st).2.runs = n
    · rw [if_pos hfull, if_pos hfull]
      rfl
    · rw [if_neg hfull, if_neg hfull, ih _ hfull hms]
      rfl

/-- Multiplying all weights by one factor changes nothing while the accumulators have room. -/
theorem fillLoop_scale (hk : 0 < k) (hword : 2 * (k * maxWeight) ≤ word) (fallback : α) {ms : List (Member α n)}
    (h : ∀ m ∈ ms, m.Within maxWeight) (table : Vector α n) (runs : Nat) :
    fillLoop vacant word (k * maxWeight) fallback (ms.map (Member.scale k)) table runs =
      fillLoop vacant word maxWeight fallback ms table runs := by
  have hle : maxWeight ≤ k * maxWeight := Nat.le_mul_of_pos_left _ hk
  refine fillLoop_simulates fallback (List.map (Member.scale k)) (fun ms => ∀ m ∈ ms, m.Within maxWeight) ?_
    ms table runs h
  intro ms st hms hroom
  exact ⟨fillRound_within (by omega) ms st hroom hms, fillRound_scale hk hword ms st hroom hms⟩

end

/-! ## Exact shares -/

section
variable {vacant : α} {st st' : Fill α n}

theorem count_take (hi : st.table.get i = vacant) (hy : y ≠ vacant) :
    (st.take i x).table.count y = st.table.count y + if x = y then 1 else 0 := by
  show (st.table.set i x i.isLt).count y = _
  have hne : ¬ (st.table[i.val] == y) = true := by
    rw [show st.table[i.val] = vacant from hi]
    simpa using fun h => hy h.symm
  rw [Vector.count_set, if_neg hne]
  simp

/-- Whoever does not claim keeps the number of slots it has. -/
theorem Claims.count_eq (h : Claims vacant P st st') (hP : ¬ P y) (hy : y ≠ vacant) :
    st'.table.count y = st.table.count y := by
  induction h with
  | refl => rfl
  | step i x _ hi hx ih =>
    have hxy : x ≠ y := fun hxy => hP (hxy ▸ hx)
    rw [count_take hi hy, if_neg hxy, ih]
    rfl

omit [DecidableEq α] in
theorem Claims.eq_of_idle (h : Claims vacant P st st') (hp : st'.progress = false) : st' = st := by
  cases h with
  | refl => rfl
  | step => cases hp

end

/-- The share of a weight `w` in `r + 1` rounds: the accumulator decides whether it grows. -/
theorem share_succ (hw : w ≤ maxWeight) (hpos : 0 < maxWeight) (r : Nat) :
    (r + 1) * w / maxWeight = r * w / maxWeight + (if maxWeight ≤ r * w % maxWeight + w then 1 else 0) ∧
      (r + 1) * w % maxWeight =
        if maxWeight ≤ r * w % maxWeight + w then r * w % maxWeight + w - maxWeight else r * w % maxWeight + w := by
  have hdecomp := Nat.div_add_mod (r * w) maxWeight
  have hmod := Nat.mod_lt (r * w) hpos
  rw [Nat.div_mod_unique hpos, Nat.succ_mul]
  split
  · rw [Nat.mul_add, Nat.mul_one]
    omega
  · rw [Nat.add_zero]
    omega

/-- After `r` complete rounds a member holds the whole part of its share and carries the rest. -/
structure Paid (maxWeight r : Nat) (t : Vector α n) (m : Member α n) : Prop where
  carried : m.cum = r * m.weight % maxWeight
  held : t.count m.owner = r * m.weight / maxWeight

/-- The members that still have to take their turn in round `r + 1`. -/
structure Race (vacant : α) (word maxWeight r : Nat) (ms : List (Member α n)) (st : Fill α n) : Prop where
  room : 2 * maxWeight ≤ word
  pos : 0 < maxWeight
  owners : ∀ m ∈ ms, m.owner ≠ vacant
  distinct : (ms.map Member.owner).Nodup
  weights : ∀ m ∈ ms, m.weight ≠ 0 ∧ m.weight ≤ maxWeight
  racing : ∀ m ∈ ms, Racing vacant n st.table m
  counts : (filled vacant st.table).card = st.runs
  paid : ∀ m ∈ ms, Paid maxWeight r st.table m

section
variable {vacant : α} {word maxWeight r : Nat} {ms : List (Member α n)} {m : Member α n} {st : Fill α n}

/-- A turn pays what the round owes: with a probe sequence that reaches every slot a claim cannot fail while
    the table has a vacancy. -/
theorem turn_paid (hroom : 2 * maxWeight ≤ word) (hpos : 0 < maxWeight) (hown : m.owner ≠ vacant)
    (hw : m.weight ≠ 0) (hle : m.weight ≤ maxWeight) (hrace : Racing vacant n st.table m)
    (hcard : (filled vacant st.table).card < n) (hpaid : Paid maxWeight r st.table m) :
    Paid maxWeight (r + 1) (turn vacant word maxWeight m st).2.table (turn vacant word maxWeight m st).1 := by
  obtain ⟨hcarried, hheld⟩ := hpaid
  have hlt : m.cum < maxWeight := hcarried ▸ Nat.mod_lt _ hpos
  have hcum := Member.Within.cum_lt (m := m) ⟨hle, hlt⟩ hroom
  obtain ⟨hdiv, hmod⟩ := share_succ hle hpos r
  rw [← hcarried] at hdiv hmod
  unfold turn
  rw [if_neg hw, hcum]
  by_cases hc : maxWeight ≤ m.cum + m.weight
  · rw [if_pos hc] at hdiv hmod
    rw [if_pos hc]
    obtain ⟨j, hnext, hj, hvac⟩ := hrace.exists_ahead hcard
    obtain ⟨i, hi, hclaim⟩ := claim_succeeds ⟨j, hnext, hj, hvac⟩
    refine ⟨hmod.symm, ?_⟩
    show (claim vacant m.owner m.probe m.next st).2.table.count m.owner = _
    rw [hclaim, count_take hi hown, if_pos rfl, hheld]
    exact hdiv.symm
  · rw [if_neg hc] at hdiv hmod
    rw [if_neg hc]
    exact ⟨hmod.symm, hheld.trans hdiv.symm⟩

/-- The rest of the round goes on from where the first member's turn leaves it. -/
theorem Race.tail (h : Race vacant word maxWeight r (m :: ms) st) :
    Race vacant word maxWeight r ms (turn vacant word maxWeight m st).2 := by
  obtain ⟨hm, hdistinct⟩ := List.nodup_cons.mp h.distinct
  have hcl := turn_claims vacant word maxWeight m st
  have hown := h.owners m List.mem_cons_self
  refine
    { room := h.room
      pos := h.pos
      owners := fun m' hm' => h.owners m' (List.mem_cons_of_mem m hm')
      distinct := hdistinct
      weights := fun m' hm' => h.weights m' (List.mem_cons_of_mem m hm')
      racing := fun m' hm' => (h.racing m' (List.mem_cons_of_mem m hm')).kept hcl.kept
      counts := hcl.card (fun x hx => hx.2 ▸ hown) h.counts
      paid := ?_ }
  intro m' hm'
  obtain ⟨hcarried, hheld⟩ := h.paid m' (List.mem_cons_of_mem m hm')
  -- another owner: the turn does not change what it holds
  have hne : ¬ (m.weight ≠ 0 ∧ m.owner = m'.owner) := fun hsame =>
    hm (hsame.2 ▸ List.mem_map_of_mem hm')
  exact ⟨hcarried, (hcl.count_eq hne (h.owners m' (List.mem_cons_of_mem m hm'))).trans hheld⟩

theorem Race.head_paid (h : Race vacant word maxWeight r (m :: ms) st) (hlt : st.runs < n) :
    Paid maxWeight (r + 1) (turn vacant word maxWeight m st).2.table (turn vacant word maxWeight m st).1 := by
  obtain ⟨hw, hle⟩ := h.weights m List.mem_cons_self
  exact turn_paid h.room h.pos (h.owners m List.mem_cons_self) hw hle (h.racing m List.mem_cons_self)
    (h.counts ▸ hlt) (h.paid m List.mem_cons_self)

/-- The share of an owner `x` with weight `w` in the finished table, when round `r + 1` is the last one. -/
def Share (maxWeight r : Nat) (t : Vector α n) (x : α) (w : Nat) : Prop :=
  t.count x = r * w / maxWeight ∨ t.count x = (r + 1) * w / maxWeight

theorem Race.not_contends (h : Race vacant word maxWeight r (m :: ms) st) : ¬ Contends ms m.owner := by
  rintro ⟨m', hm', -, hsame⟩
  exact (List.nodup_cons.mp h.distinct).1 (hsame ▸ List.mem_map_of_mem hm')

/-- **One round.**  Every member ends it with one of its two shares, and with the larger one paid out if the
    table is not full yet.  By induction on the members that still have their turn. -/
theorem fillRound_shares : ∀ st : Fill α n, Race vacant word maxWeight r ms st →
    st.runs < n →
      (∀ m ∈ ms, Share maxWeight r (fillRound vacant word maxWeight ms st).2.table m.owner m.weight) ∧
        ((fillRound vacant word maxWeight ms st).2.runs ≠ n →
          ∀ m ∈ (fillRound vacant word maxWeight ms st).1,
            Paid maxWeight (r + 1) (fillRound vacant word maxWeight ms st).2.table m) := by
  induction ms with
  | nil => exact fun st _ _ => ⟨fun m hm => absurd hm List.not_mem_nil, fun _ m hm => absurd hm List.not_mem_nil⟩
  | cons m ms ih =>
    intro st h hlt
    have hpaid := h.head_paid hlt
    have htail := h.tail
    have hown := h.owners m List.mem_cons_self
    obtain ⟨howner, -, hweight⟩ := turn_member vacant word maxWeight m st
    have hheld := hpaid.held
    rw [howner, hweight] at hheld
    rw [fillRound_cons word maxWeight m hlt.ne]
    by_cases hfull : (turn vacant word maxWeight m st).2.runs = n
    · -- the table is full: whoever is still to come keeps the smaller share
      rw [if_pos hfull]
      refine ⟨List.forall_mem_cons.mpr ⟨.inr hheld, fun m' hm' => .inl (htail.paid m' hm').held⟩, ?_⟩
      exact fun hruns => absurd hfull hruns
    · rw [if_neg hfull]
      have hle : (turn vacant word maxWeight m st).2.runs ≤ n := htail.counts ▸ card_filled_le vacant _
      obtain ⟨hshares, hnext⟩ := ih _ htail (lt_of_le_of_ne hle hfull)
      -- the rest of the round claims nothing for `m`
      have hsame := (fillRound_claims vacant word maxWeight ms
        (turn vacant word maxWeight m st).2).count_eq h.not_contends hown
      refine ⟨List.forall_mem_cons.mpr ⟨.inr (hsame.trans hheld), hshares⟩, ?_⟩
      intro hruns
      refine List.forall_mem_cons.mpr ⟨⟨hpaid.carried, ?_⟩, hnext hruns⟩
      rw [howner, hweight]
      exact hsame.trans hheld

/-- Owners and weights are the same after a round. -/
theorem fillRound_forall (P : α → Nat → Prop) (ms : List (Member α n)) (st : Fill α n) :
    (∀ m ∈ (fillRound vacant word maxWeight ms st).1, P m.owner m.weight) ↔ ∀ m ∈ ms, P m.owner m.weight := by
  have key : ∀ l : List (Member α n), (∀ m ∈ l, P m.owner m.weight) ↔
      ∀ t ∈ l.map (fun m => (m.owner, m.probe, m.weight)), P t.1 t.2.2 := by
    intro l
    rw [List.forall_mem_map]
  rw [key, fillRound_members, ← key]

/-- A round that does not fill the table leaves the race for the next one. -/
theorem Race.next (h : Race vacant word maxWeight r ms st) (hlt : st.runs < n)
    (hruns : (fillRound vacant word maxWeight ms st).2.runs ≠ n) (p : Bool) :
    Race vacant word maxWeight (r + 1) (fillRound vacant word maxWeight ms st).1
      ⟨(fillRound vacant word maxWeight ms st).2.table, (fillRound vacant word maxWeight ms st).2.runs, p⟩ := by
  have howners : ∀ x, Contends ms x → x ≠ vacant := by
    rintro x ⟨m, hm, -, rfl⟩
    exact h.owners m hm
  have hcl := (fillRound_claims vacant word maxWeight ms st).mono howners
  refine
    { room := h.room
      pos := h.pos
      owners := (fillRound_forall (fun x _ => x ≠ vacant) ms st).mpr h.owners
      distinct := ?_
      weights := (fillRound_forall (fun _ w => w ≠ 0 ∧ w ≤ maxWeight) ms st).mpr h.weights
      racing := fillRound_racing ms st howners h.racing
      counts := hcl.card (fun _ hx => hx) h.counts
      paid := (fillRound_shares st h hlt).2 hruns }
  have hmap := congrArg (List.map Prod.fst) (fillRound_members vacant word maxWeight ms st)
  rw [List.map_map, List.map_map] at hmap
  exact hmap ▸ h.distinct

/-- A round either fills the table or makes progress: the heaviest member has a turn in every round. -/
theorem Race.progress (h : Race vacant word maxWeight r ms st) (hlt : st.runs < n)
    (hruns : (fillRound vacant word maxWeight ms st).2.runs ≠ n) (hheavy : ∃ m ∈ ms, m.weight = maxWeight) :
    (fillRound vacant word maxWeight ms st).2.progress = true := by
  obtain ⟨m, hm, hw⟩ := hheavy
  by_contra hp
  have hidle := (fillRound_claims vacant word maxWeight ms st).eq_of_idle (Bool.eq_false_iff.mpr hp)
  -- what it holds would not have grown
  have hafter : st.table.count m.owner = (r + 1) * m.weight / maxWeight := by
    have hpaid := (fillRound_shares st h hlt).2 hruns
    rw [hidle] at hpaid
    exact (fillRound_forall (fun x w => st.table.count x = (r + 1) * w / maxWeight) ms st).mp
      (fun m' hm' => (hpaid m' hm').held) m hm
  rw [(h.paid m hm).held, hw, Nat.mul_div_cancel _ h.pos, Nat.mul_div_cancel _ h.pos] at hafter
  omega

/-- **Exact shares.**  With probe sequences that reach every slot there is a number of rounds such that every
    member holds its share of them in the finished table, or its share of all but the last. -/
theorem fillLoop_shares :
    ∀ r, Race vacant word maxWeight r ms ⟨table, runs, false⟩ → (∃ m ∈ ms, m.weight = maxWeight) → runs < n →
      ∃ K, ∀ m ∈ ms, Share maxWeight K (fillLoop vacant word maxWeight fallback ms table runs) m.owner m.weight := by
  fun_induction fillLoop vacant word maxWeight fallback ms table runs with
  | case1 ms table runs hlt r' hp =>
    -- the sweep is for rounds without progress
    intro r h hheavy _
    have hprogress := h.progress hlt hp.2.ne hheavy
    exact absurd (hprogress.symm.trans hp.1) (by decide)
  | case2 ms table runs hlt r' hp ih =>
    intro r h hheavy _
    have hround := fillRound_shares _ h hlt
    by_cases hfull : r'.2.runs = n
    · refine ⟨r, ?_⟩
      rw [fillLoop, dif_neg (by omega)]
      exact hround.1
    · have hnext := h.next hlt hfull false
      have hle : r'.2.runs ≤ n := hnext.counts ▸ card_filled_le vacant _
      have hheavy' : ∃ m ∈ r'.1, m.weight = maxWeight := by
        by_contra hnone
        obtain ⟨m, hm, hw⟩ := hheavy
        have hlight : ∀ m' ∈ (fillRound vacant word maxWeight ms ⟨table, runs, false⟩).1, m'.weight ≠ maxWeight :=
          fun m' hm' hw' => hnone ⟨m', hm', hw'⟩
        exact (fillRound_forall (fun _ w => w ≠ maxWeight) ms _).mp hlight m hm hw
      obtain ⟨K, hK⟩ := ih (r + 1) hnext hheavy' (lt_of_le_of_ne hle hfull)
      exact ⟨K, (fillRound_forall (Share maxWeight K _) ms _).mp hK⟩
  | case3 ms table runs hlt => exact fun r _ _ hroom => absurd hroom hlt

end

end FluxWAN.WeightedFill
