/-
  Weighted population of a slot table, the way Maglev-style consistent hashing does it.

  `n` slots start vacant.  Every member owns a PROBE SEQUENCE (`probe : Nat → Fin n`) with a cursor
  `next` into it, a weight, and an accumulator `cum`.  In each round every member with a non-zero
  weight adds its weight to its accumulator; a member whose accumulator reaches the maximal weight
  pays that weight and CLAIMS the next vacant slot of its probe sequence.  The rounds stop when all
  slots are taken; a round in which nobody could claim anything ends the construction with a sweep
  that hands the remaining vacancies to one designated owner.  Accumulators are machine words: they
  wrap at `word`.

  What one round can do is said ONCE (`Claims`, `fillRound_claims`): a sequence of claims of vacant
  slots by owners with a non-zero weight.  Everything else is read off that relation —

  * the number of filled slots is the counter `runs` (`Claims.card`), so a round that made progress
    raised it (`Claims.lt_of_progress`) and the outer loop TERMINATES whatever the weights, the probe
    sequences and the word size are;
  * filled slots are held by owners with a non-zero weight (`Claims.filledBy`), so after the loop every
    slot is (`fillLoop_spec`);
  * a claimed slot is never handed out again (`Claims.kept`, `fillLoop_kept`), so whoever gets a turn
    before the table is full owns a slot of the final table (`fillLoop_owns`).
-/
import FluxWAN.Lib.SlotTable
import Mathlib.Data.Nat.ModEq
import Mathlib.Data.Nat.Prime.Basic

set_option linter.unusedVariables false

namespace FluxWAN.WeightedFill

open SlotTable

variable {α : Type} {n : Nat}

/-! ## The algorithm -/

/-- A contender for slots. -/
structure Member (α : Type) (n : Nat) where
  /-- What a claimed slot is filled with. -/
  owner : α
  /-- The order in which the member looks at the slots. -/
  probe : Nat → Fin n
  weight : Nat
  /-- The weight accumulator. -/
  cum : Nat := 0
  /-- Cursor into the probe sequence. -/
  next : Nat := 0

/-- The table under construction with its counter of filled slots and the round's progress flag. -/
structure Fill (α : Type) (n : Nat) where
  table : Vector α n
  runs : Nat
  progress : Bool

/-- Write `x` into slot `i` and count it. -/
def Fill.take (st : Fill α n) (i : Fin n) (x : α) : Fill α n :=
  { table := st.table.set i x i.isLt, runs := st.runs + 1, progress := true }

/-- Advance along the probe sequence until a vacant slot is found, and claim it.  The sequence is
    looked at for at most `n` probes; an exhausted cursor claims nothing. -/
def claim [DecidableEq α] (vacant owner : α) (probe : Nat → Fin n) (next : Nat) (st : Fill α n) :
    Nat × Fill α n :=
  if next < n then
    if st.table[probe next] = vacant then (next + 1, st.take (probe next) owner)
    else claim vacant owner probe (next + 1) st
  else (next, st)
termination_by n - next

/-- One round over the members, left early once the table is full. -/
def fillRound [DecidableEq α] (vacant : α) (word maxWeight : Nat) :
    List (Member α n) → Fill α n → List (Member α n) × Fill α n
  | [], st => ([], st)
  | m :: ms, st =>
    if m.weight = 0 then
      let r := fillRound vacant word maxWeight ms st
      (m :: r.1, r.2)
    else if maxWeight ≤ (m.cum + m.weight) % word then
      let c := claim vacant m.owner m.probe m.next st
      let m' := { m with cum := (m.cum + m.weight) % word - maxWeight, next := c.1 }
      if c.2.runs = n then (m' :: ms, c.2)
      else
        let r := fillRound vacant word maxWeight ms c.2
        (m' :: r.1, r.2)
    else
      let r := fillRound vacant word maxWeight ms st
      ({ m with cum := (m.cum + m.weight) % word } :: r.1, r.2)

/-! ## What a round can do -/

/-- `Claims vacant P st st'`: `st'` arises from `st` by claiming vacant slots, each for an owner with
    the property `P`. -/
inductive Claims (vacant : α) (P : α → Prop) : Fill α n → Fill α n → Prop
  | refl (st : Fill α n) : Claims vacant P st st
  | step {st st' : Fill α n} (i : Fin n) (x : α) (h : Claims vacant P st st')
      (hi : st'.table.get i = vacant) (hx : P x) : Claims vacant P st (st'.take i x)

namespace Claims

variable {vacant : α} {P : α → Prop} {st st' st'' : Fill α n}

theorem trans (h : Claims vacant P st st') (h' : Claims vacant P st' st'') :
    Claims vacant P st st'' := by
  induction h' with
  | refl => exact h
  | step i x _ hi hx ih => exact ih.step i x hi hx

theorem mono (hPQ : ∀ x, P x → Q x) (h : Claims vacant P st st') : Claims vacant Q st st' := by
  induction h with
  | refl => exact refl _
  | step i x _ hi hx ih => exact ih.step i x hi (hPQ x hx)

theorem runs_le (h : Claims vacant P st st') : st.runs ≤ st'.runs := by
  induction h with
  | refl => exact Nat.le_refl _
  | step i x _ _ _ ih => exact Nat.le_succ_of_le ih

/-- Progress is never claimed without a claim. -/
theorem lt_of_progress (h : Claims vacant P st st') (h0 : st.progress = false)
    (hp : st'.progress = true) : st.runs < st'.runs := by
  cases h with
  | refl => rw [h0] at hp; cases hp
  | step i x h _ _ => exact Nat.lt_succ_of_le h.runs_le

/-- The counter counts the filled slots. -/
theorem card [DecidableEq α] (h : Claims vacant P st st') (hP : ∀ x, P x → x ≠ vacant)
    (h0 : (filled vacant st.table).card = st.runs) :
    (filled vacant st'.table).card = st'.runs := by
  induction h with
  | refl => exact h0
  | step i x _ hi hx ih =>
    show (filled vacant (Vector.set _ i x)).card = _
    rw [card_filled_set (hP x hx) hi, ih]; rfl

/-- Filled slots are held by the claimants' owners. -/
theorem filledBy (h : Claims vacant P st st') (h0 : FilledBy vacant P st.table) :
    FilledBy vacant P st'.table := by
  induction h with
  | refl => exact h0
  | step i x _ _ hx ih => exact ih.set hx i

/-- A claimed slot stays as it is. -/
theorem kept (h : Claims vacant P st st') : Kept vacant st.table st'.table := by
  induction h with
  | refl => exact Kept.refl _ _
  | step i x _ hi _ ih => exact ih.trans (Kept.set hi x)

end Claims

variable [DecidableEq α]

/-- **What the inner loop can do**: nothing, or claim one vacant slot further along the sequence. -/
theorem claim_cases (vacant owner : α) (probe : Nat → Fin n) (next : Nat) (st : Fill α n) :
    (claim vacant owner probe next st).2 = st ∨
    ∃ k, next ≤ k ∧ k < n ∧ st.table[probe k] = vacant ∧
      claim vacant owner probe next st = (k + 1, st.take (probe k) owner) := by
  fun_induction claim vacant owner probe next st with
  | case1 next hlt hv => exact Or.inr ⟨next, Nat.le_refl _, hlt, hv, rfl⟩
  | case2 next hlt hv ih =>
    rcases ih with ih | ⟨k, hk, hkn, hkv, he⟩
    · exact Or.inl ih
    · exact Or.inr ⟨k, by omega, hkn, hkv, he⟩
  | case3 next hlt => exact Or.inl rfl

theorem claim_claims (hP : P owner) (probe : Nat → Fin n) (next : Nat) (st : Fill α n) :
    Claims vacant P st (claim vacant owner probe next st).2 := by
  rcases claim_cases vacant owner probe next st with h | ⟨k, _, _, hk, h⟩
  · rw [h]; exact Claims.refl st
  · rw [h]; exact (Claims.refl st).step (probe k) owner hk hP

/-! ### One member's turn -/

/-- What a round does for one member. -/
def turn (vacant : α) (word maxWeight : Nat) (m : Member α n) (st : Fill α n) : Member α n × Fill α n :=
  if m.weight = 0 then (m, st)
  else if maxWeight ≤ (m.cum + m.weight) % word then
    ({ m with cum := (m.cum + m.weight) % word - maxWeight, next := (claim vacant m.owner m.probe m.next st).1 },
      (claim vacant m.owner m.probe m.next st).2)
  else ({ m with cum := (m.cum + m.weight) % word }, st)

section
variable (vacant : α) (word maxWeight : Nat) (m : Member α n) (ms : List (Member α n)) (st : Fill α n)

/-- A round is a turn after the other; it is left early only when the table is full. -/
theorem fillRound_cons_cases :
    (fillRound vacant word maxWeight (m :: ms) st =
        ((turn vacant word maxWeight m st).1 :: ms, (turn vacant word maxWeight m st).2) ∧
      (turn vacant word maxWeight m st).2.runs = n) ∨
    fillRound vacant word maxWeight (m :: ms) st = ((turn vacant word maxWeight m st).1 ::
            (fillRound vacant word maxWeight ms (turn vacant word maxWeight m st).2).1,
          (fillRound vacant word maxWeight ms (turn vacant word maxWeight m st).2).2) ∧
      (st.runs ≠ n → (turn vacant word maxWeight m st).2.runs ≠ n) := by
  rw [fillRound, turn]
  by_cases hw : m.weight = 0
  · rw [if_pos hw, if_pos hw]
    exact .inr ⟨rfl, id⟩
  · rw [if_neg hw, if_neg hw]
    by_cases hc : maxWeight ≤ (m.cum + m.weight) % word
    · rw [if_pos hc, if_pos hc]
      by_cases hfull : (claim vacant m.owner m.probe m.next st).2.runs = n
      · exact .inl ⟨if_pos hfull, hfull⟩
      · exact .inr ⟨if_neg hfull, fun _ => hfull⟩
    · rw [if_neg hc, if_neg hc]
      exact .inr ⟨rfl, id⟩

/-- A turn moves the member's cursor and accumulator only. -/
theorem turn_member :
    (turn vacant word maxWeight m st).1.owner = m.owner ∧ (turn vacant word maxWeight m st).1.probe = m.probe ∧
      (turn vacant word maxWeight m st).1.weight = m.weight := by
  unfold turn
  split
  · exact ⟨rfl, rfl, rfl⟩
  · split <;> exact ⟨rfl, rfl, rfl⟩

theorem turn_claims :
    Claims vacant (fun x => m.weight ≠ 0 ∧ m.owner = x) st (turn vacant word maxWeight m st).2 := by
  unfold turn
  split
  · exact Claims.refl st
  · rename_i hw
    split
    · exact claim_claims ⟨hw, rfl⟩ m.probe m.next st
    · exact Claims.refl st

end

/-- The owners a round may claim for. -/
def Contends (ms : List (Member α n)) (x : α) : Prop := ∃ m ∈ ms, m.weight ≠ 0 ∧ m.owner = x

omit [DecidableEq α] in
theorem Contends.cons (m : Member α n) : Contends ms x → Contends (m :: ms) x := by
  rintro ⟨m', hm', hx⟩
  exact ⟨m', List.mem_cons_of_mem m hm', hx⟩

/-- **What a round can do**: claims for owners of members with a non-zero weight. -/
theorem fillRound_claims (vacant : α) (word maxWeight : Nat) (ms : List (Member α n)) :
    ∀ st : Fill α n, Claims vacant (Contends ms) st (fillRound vacant word maxWeight ms st).2 := by
  induction ms with
  | nil => intro st; exact Claims.refl st
  | cons m ms ih =>
    intro st
    have hturn : Claims vacant (Contends (m :: ms)) st (turn vacant word maxWeight m st).2 :=
      (turn_claims vacant word maxWeight m st).mono fun x hx => ⟨m, List.mem_cons_self, hx⟩
    rcases fillRound_cons_cases vacant word maxWeight m ms st with ⟨h, -⟩ | ⟨h, -⟩
    · rw [h]; exact hturn
    · rw [h]; exact hturn.trans ((ih _).mono fun x => Contends.cons m)

/-- A round moves cursors and accumulators only: owners, probe sequences and weights stay. -/
theorem fillRound_members (vacant : α) (word maxWeight : Nat) (ms : List (Member α n)) :
    ∀ st : Fill α n, (fillRound vacant word maxWeight ms st).1.map (fun m => (m.owner, m.probe, m.weight))
        = ms.map (fun m => (m.owner, m.probe, m.weight)) := by
  induction ms with
  | nil => intro st; rfl
  | cons m ms ih =>
    intro st
    obtain ⟨howner, hprobe, hweight⟩ := turn_member vacant word maxWeight m st
    rcases fillRound_cons_cases vacant word maxWeight m ms st with ⟨h, -⟩ | ⟨h, -⟩
    · rw [h, List.map_cons, howner, hprobe, hweight]; rfl
    · rw [h, List.map_cons, ih, howner, hprobe, hweight]; rfl

/-- The contenders are the same in every round. -/
theorem contends_fillRound (vacant : α) (word maxWeight : Nat) (ms : List (Member α n))
    (st : Fill α n) (x : α) :
    Contends (fillRound vacant word maxWeight ms st).1 x ↔ Contends ms x := by
  have key : ∀ l : List (Member α n), Contends l x ↔
      ∃ t ∈ l.map (fun m => (m.owner, m.probe, m.weight)), t.2.2 ≠ 0 ∧ t.1 = x := by
    intro l; simp only [Contends, List.mem_map, exists_exists_and_eq_and]
  rw [key, fillRound_members, ← key]

/-! ## The outer loop -/

/-- Rounds until the table is full; a round without progress hands the rest to `fallback`. -/
def fillLoop (vacant : α) (word maxWeight : Nat) (fallback : α) (ms : List (Member α n))
    (table : Vector α n) (runs : Nat) : Vector α n :=
  if hlt : runs < n then
    let r := fillRound vacant word maxWeight ms ⟨table, runs, false⟩
    if hp : r.2.progress = false ∧ r.2.runs < n then fillVacant vacant fallback r.2.table
    else fillLoop vacant word maxWeight fallback r.1 r.2.table r.2.runs
  else table
termination_by n - runs
decreasing_by
  -- progress means a larger counter; without progress the counter is already at `n`
  have hcl := fillRound_claims vacant word maxWeight ms ⟨table, runs, false⟩
  rcases Bool.eq_false_or_eq_true
    (fillRound vacant word maxWeight ms ⟨table, runs, false⟩).2.progress with h | h
  · have hmore : runs < _ := hcl.lt_of_progress rfl h
    omega
  · have hfull : ¬ (fillRound vacant word maxWeight ms ⟨table, runs, false⟩).2.runs < n :=
      not_and.mp hp h
    omega

/-- **Every slot of the finished table is held by a contender**, for any weights, probe sequences and
    word size.  The invariant is that the counter counts the filled slots and that these are held by
    contenders; a loop left with a full counter has no vacancy, a loop left by the sweep has none
    either. -/
theorem fillLoop_spec (hP : ∀ x, P x → x ≠ vacant) (hfb : P fallback) (ms : List (Member α n))
    (table : Vector α n) (runs : Nat) :
    (∀ x, Contends ms x → P x) → (filled vacant table).card = runs → FilledBy vacant P table →
    ∀ i : Fin n, P ((fillLoop vacant word maxWeight fallback ms table runs).get i) := by
  fun_induction fillLoop vacant word maxWeight fallback ms table runs with
  | case1 ms table runs hlt r hp =>
    intro hms hcard hby i
    have hcl := (fillRound_claims vacant word maxWeight ms ⟨table, runs, false⟩).mono hms
    exact (hcl.filledBy hby).fillVacant hfb i
  | case2 ms table runs hlt r hp ih =>
    intro hms hcard hby
    have hcl := (fillRound_claims vacant word maxWeight ms ⟨table, runs, false⟩).mono hms
    refine ih (fun x hx => hms x ?_) (hcl.card hP hcard) (hcl.filledBy hby)
    exact (contends_fillRound vacant word maxWeight ms _ x).mp hx
  | case3 ms table runs hlt =>
    intro hms hcard hby i
    have hle := card_filled_le vacant table
    exact hby i (ne_of_card_filled (by omega) i)

/-- Whatever is claimed when the loop is entered is still there when it is left. -/
theorem fillLoop_kept (vacant : α) (word maxWeight : Nat) (fallback : α) (ms : List (Member α n))
    (table : Vector α n) (runs : Nat) :
    Kept vacant table (fillLoop vacant word maxWeight fallback ms table runs) := by
  fun_induction fillLoop vacant word maxWeight fallback ms table runs with
  | case1 ms table runs hlt r hp =>
    have hcl := fillRound_claims vacant word maxWeight ms ⟨table, runs, false⟩
    exact hcl.kept.trans (Kept.fillVacant vacant fallback r.2.table)
  | case2 ms table runs hlt r hp ih =>
    have hcl := fillRound_claims vacant word maxWeight ms ⟨table, runs, false⟩
    exact hcl.kept.trans ih
  | case3 ms table runs hlt => exact Kept.refl vacant table

/-! ## Who certainly gets a slot -/

/-- A cursor with a vacancy ahead claims a slot. -/
theorem claim_succeeds {st : Fill α n} (h : ∃ k, next ≤ k ∧ k < n ∧ st.table[probe k] = vacant) :
    ∃ k, st.table[probe k] = vacant ∧
      claim vacant owner probe next st = (k + 1, st.take (probe k) owner) := by
  fun_induction claim vacant owner probe next st with
  | case1 next hlt hv => exact ⟨next, hv, rfl⟩
  | case2 next hlt hv ih =>
    obtain ⟨k, hk, hkn, hkv⟩ := h
    rcases Nat.lt_or_eq_of_le hk with hlt' | rfl
    · exact ih ⟨k, hlt', hkn, hkv⟩
    · exact absurd hkv hv
  | case3 next hlt =>
    obtain ⟨k, hk, hkn, _⟩ := h
    omega

/-- Pigeonhole: `k` distinct probes cannot all hit fewer than `k` filled slots. -/
theorem exists_vacant_probe {vacant : α} {t : Vector α n} {probe : Nat → Fin n} {k : Nat}
    (hinj : Set.InjOn probe (Finset.range k)) (hcard : (filled vacant t).card < k) :
    ∃ j, j < k ∧ t[probe j] = vacant := by
  by_contra hnone
  have hsub : (Finset.range k).image probe ⊆ filled vacant t := by
    intro i hi
    obtain ⟨j, hj, rfl⟩ := Finset.mem_image.mp hi
    rw [mem_filled]
    exact fun hv => hnone ⟨j, Finset.mem_range.mp hj, hv⟩
  have hle := Finset.card_le_card hsub
  rw [Finset.card_image_of_injOn hinj, Finset.card_range] at hle
  omega

/-- A turn raises the counter by at most one. -/
theorem turn_runs_le (vacant : α) (word maxWeight : Nat) (m : Member α n) (st : Fill α n) :
    (turn vacant word maxWeight m st).2.runs ≤ st.runs + 1 := by
  unfold turn
  split
  · exact Nat.le_succ _
  · split
    · rcases claim_cases vacant m.owner m.probe m.next st with h | ⟨k, _, _, _, h⟩
      · rw [h]; exact Nat.le_succ _
      · rw [h]; exact Nat.le_refl _
    · exact Nat.le_succ _

/-- A member whose probes are distinct for `k` steps and whose cursor has passed taken slots only. -/
structure Racing (vacant : α) (k : Nat) (t : Vector α n) (m : Member α n) : Prop where
  inj : Set.InjOn m.probe (Finset.range k)
  passed : ∀ j, j < m.next → t[m.probe j] ≠ vacant

omit [DecidableEq α] in
theorem Racing.kept (h : Racing vacant k t m) (hkept : Kept vacant t t') : Racing vacant k t' m := by
  refine ⟨h.inj, fun j hj => ?_⟩
  rw [hkept _ (h.passed j hj)]
  exact h.passed j hj

/-- While fewer than `k` slots are taken, a vacancy lies ahead of the cursor. -/
theorem Racing.exists_ahead {vacant : α} {k : Nat} {t : Vector α n} {m : Member α n}
    (h : Racing vacant k t m) (hcard : (filled vacant t).card < k) :
    ∃ j, m.next ≤ j ∧ j < k ∧ t[m.probe j] = vacant := by
  obtain ⟨j, hj, hv⟩ := exists_vacant_probe h.inj hcard
  have hnext : m.next ≤ j := by
    by_contra hlt
    exact h.passed j (by omega) hv
  exact ⟨j, hnext, hj, hv⟩

/-- The inner loop leaves taken slots behind its cursor. -/
theorem claim_passed (hown : owner ≠ vacant) (probe : Nat → Fin n) (next : Nat)
    (st : Fill α n) (h : ∀ j, j < next → st.table[probe j] ≠ vacant) :
    ∀ j, j < (claim vacant owner probe next st).1 →
      (claim vacant owner probe next st).2.table[probe j] ≠ vacant := by
  fun_induction claim vacant owner probe next st with
  | case1 next hlt hv =>
    intro j hj
    show (Vector.set st.table (probe next) owner)[probe j] ≠ vacant
    rw [getElem_set_fin]
    by_cases heq : probe next = probe j
    · rw [if_pos heq]; exact hown
    · -- another slot: `j` is not the cursor itself
      have hne : j ≠ next := fun hjn => heq (congrArg probe hjn.symm)
      rw [if_neg heq]
      exact h j (by omega)
  | case2 next hlt hv ih =>
    refine ih fun j hj => ?_
    rcases Nat.lt_succ_iff_lt_or_eq.mp hj with hj | rfl
    · exact h j hj
    · exact hv
  | case3 next hlt => exact h

/-- A member whose turn it is gets a slot that was vacant, if fewer than `k` are taken. -/
theorem turn_claims_slot {m : Member α n} {st : Fill α n}
    (hw : m.weight ≠ 0) (hc : maxWeight ≤ (m.cum + m.weight) % word) (hk : k ≤ n)
    (hrace : Racing vacant k st.table m) (hcard : (filled vacant st.table).card < k) :
    ∃ i : Fin n, st.table[i] = vacant ∧ (turn vacant word maxWeight m st).2.table[i] = m.owner := by
  obtain ⟨j, hnext, hj, hv⟩ := hrace.exists_ahead hcard
  obtain ⟨i, hvac, hi⟩ := claim_succeeds
    (show ∃ j, m.next ≤ j ∧ j < n ∧ st.table[m.probe j] = vacant from ⟨j, hnext, by omega, hv⟩)
  refine ⟨m.probe i, hvac, ?_⟩
  rw [turn, if_neg hw, if_pos hc, hi]
  show (Vector.set st.table (m.probe i) m.owner)[m.probe i] = m.owner
  rw [getElem_set_fin, if_pos rfl]

/-- **A member whose turn it is gets a slot that was vacant.**  The members before it take at most one
    slot each, so one of its first `k` probes is still vacant and ahead of its cursor; and what it
    claims it keeps. -/
theorem fillRound_claims_slot {m : Member α n} (hP : ∀ x, Contends (m :: post) x → x ≠ vacant)
    (hw : m.weight ≠ 0) (hc : maxWeight ≤ (m.cum + m.weight) % word) (hk : k ≤ n) :
    ∀ (pre : List (Member α n)) (st : Fill α n), (∀ x, Contends pre x → x ≠ vacant) →
      Racing vacant k st.table m → (filled vacant st.table).card = st.runs →
      st.runs + pre.length < k →
      ∃ i : Fin n, st.table[i] = vacant ∧
        (fillRound vacant word maxWeight (pre ++ m :: post) st).2.table[i] = m.owner := by
  have hown : m.owner ≠ vacant := hP _ ⟨m, List.mem_cons_self, hw, rfl⟩
  intro pre
  induction pre with
  | nil =>
    intro st _ hrace hcard hlt
    obtain ⟨i, hvac, hslot⟩ := turn_claims_slot hw hc hk hrace (by rw [hcard]; simpa using hlt)
    refine ⟨i, hvac, ?_⟩
    rcases fillRound_cons_cases vacant word maxWeight m post st with ⟨h, -⟩ | ⟨h, -⟩
    · rw [List.nil_append, h]; exact hslot
    · have hkept := (fillRound_claims vacant word maxWeight post (turn vacant word maxWeight m st).2).kept
      rw [List.nil_append, h, hkept i (by rw [hslot]; exact hown), hslot]
  | cons p pre ih =>
    intro st hpre hrace hcard hlt
    rw [List.length_cons] at hlt
    have hruns := turn_runs_le vacant word maxWeight p st
    have hcl : Claims vacant (· ≠ vacant) st (turn vacant word maxWeight p st).2 :=
      (turn_claims vacant word maxWeight p st).mono fun x hx => hpre x ⟨p, List.mem_cons_self, hx⟩
    rcases fillRound_cons_cases vacant word maxWeight p (pre ++ m :: post) st with ⟨-, hfull⟩ | ⟨h, -⟩
    · omega
    · rw [List.cons_append, h]
      obtain ⟨i, hvac, hslot⟩ := ih _ (fun x hx => hpre x (hx.cons p)) (hrace.kept hcl.kept)
        (hcl.card (fun _ h => h) hcard) (by omega)
      refine ⟨i, ?_, hslot⟩
      -- a slot vacant after the turn was vacant before it
      by_contra hne
      exact hne ((hcl.kept i hne).symm.trans hvac)

/-! ## Waiting for a turn

A member whose weight is below the maximum waits until its accumulator has grown to it.  Meanwhile each
round takes at most one slot per member, and there is no round without progress while a member of
maximal weight still has a vacancy ahead; so the turn comes as long as the table is large enough. -/

theorem fillRound_runs_le (vacant : α) (word maxWeight : Nat) (ms : List (Member α n)) :
    ∀ st : Fill α n, (fillRound vacant word maxWeight ms st).2.runs ≤ st.runs + ms.length := by
  induction ms with
  | nil => intro st; exact Nat.le_refl _
  | cons m ms ih =>
    intro st
    have hone := turn_runs_le vacant word maxWeight m st
    have hrest := ih (turn vacant word maxWeight m st).2
    rw [List.length_cons]
    rcases fillRound_cons_cases vacant word maxWeight m ms st with ⟨h, -⟩ | ⟨h, -⟩
    · rw [h]; dsimp only; omega
    · rw [h]; dsimp only; omega

theorem turn_racing {m : Member α n} {st : Fill α n}
    (hown : m.weight ≠ 0 → m.owner ≠ vacant) (hm : Racing vacant k st.table m) :
    Racing vacant k (turn vacant word maxWeight m st).2.table (turn vacant word maxWeight m st).1 := by
  unfold turn
  split
  · exact hm
  · rename_i hw
    split
    · exact ⟨hm.inj, claim_passed (hown hw) m.probe m.next st hm.passed⟩
    · exact ⟨hm.inj, hm.passed⟩

/-- Every member is still racing after the round. -/
theorem fillRound_racing (ms : List (Member α n)) :
    ∀ st : Fill α n, (∀ x, Contends ms x → x ≠ vacant) →
      (∀ m ∈ ms, Racing vacant k st.table m) →
      ∀ m' ∈ (fillRound vacant word maxWeight ms st).1,
        Racing vacant k (fillRound vacant word maxWeight ms st).2.table m' := by
  induction ms with
  | nil => intro st _ _ m' hm'; cases hm'
  | cons m ms ih =>
    intro st hP hrace
    obtain ⟨hm, hms⟩ := List.forall_mem_cons.mp hrace
    have hown : m.weight ≠ 0 → m.owner ≠ vacant := fun hw => hP _ ⟨m, List.mem_cons_self, hw, rfl⟩
    have hcl : Claims vacant (· ≠ vacant) st (turn vacant word maxWeight m st).2 :=
      (turn_claims vacant word maxWeight m st).mono fun x (hx : m.weight ≠ 0 ∧ m.owner = x) => hx.2 ▸ hown hx.1
    have hms' : ∀ m' ∈ ms, Racing vacant k (turn vacant word maxWeight m st).2.table m' :=
      fun m' hm' => (hms m' hm').kept hcl.kept
    have hm' : Racing vacant k (turn vacant word maxWeight m st).2.table (turn vacant word maxWeight m st).1 :=
      turn_racing hown hm
    rcases fillRound_cons_cases vacant word maxWeight m ms st with ⟨h, -⟩ | ⟨h, -⟩
    · rw [h]
      exact List.forall_mem_cons.mpr ⟨hm', hms'⟩
    · rw [h]
      have hkept := (fillRound_claims vacant word maxWeight ms (turn vacant word maxWeight m st).2).kept
      exact List.forall_mem_cons.mpr ⟨hm'.kept hkept, ih _ (fun x hx => hP x (hx.cons m)) hms'⟩

/-- A member's accumulator after a round. -/
def Member.accrued (word maxWeight : Nat) (m : Member α n) : Nat :=
  let c := (m.cum + m.weight) % word
  if maxWeight ≤ c then c - maxWeight else c

theorem turn_accrued {m : Member α n} (hw : m.weight ≠ 0) :
    (turn vacant word maxWeight m st).1.cum = m.accrued word maxWeight := by
  rw [turn, if_neg hw, Member.accrued]
  split <;> rfl

/-- In a round that does not fill the table every contender accrues its weight. -/
theorem fillRound_accrued (vacant : α) (word maxWeight : Nat) {m : Member α n}
    (hw : m.weight ≠ 0) (ms : List (Member α n)) :
    ∀ st : Fill α n, m ∈ ms → (fillRound vacant word maxWeight ms st).2.runs ≠ n →
      ∃ m' ∈ (fillRound vacant word maxWeight ms st).1, m'.owner = m.owner ∧
        m'.weight = m.weight ∧ m'.cum = m.accrued word maxWeight := by
  induction ms with
  | nil => intro st hm; cases hm
  | cons p ms ih =>
    intro st hm hruns
    rcases fillRound_cons_cases vacant word maxWeight p ms st with ⟨h, hfull⟩ | ⟨h, -⟩
    · rw [h] at hruns
      exact absurd hfull hruns
    · rw [h] at hruns ⊢
      rcases List.mem_cons.mp hm with rfl | hm
      · obtain ⟨howner, -, hweight⟩ := turn_member vacant word maxWeight m st
        exact ⟨_, List.mem_cons_self, howner, hweight, turn_accrued hw⟩
      · obtain ⟨m', hm', h⟩ := ih _ hm hruns
        exact ⟨m', List.mem_cons_of_mem _ hm', h⟩

/-- The loop as it is entered: the counter counts, owners differ from the vacancy mark, every member is
    racing, and a member of maximal weight has spent all it had. -/
structure Contest (vacant : α) (word maxWeight k : Nat) (ms : List (Member α n))
    (table : Vector α n) (runs : Nat) : Prop where
  owners : ∀ x, Contends ms x → x ≠ vacant
  racing : ∀ m ∈ ms, Racing vacant k table m
  counts : (filled vacant table).card = runs
  heaviest : ∃ h ∈ ms, h.weight = maxWeight ∧ h.cum = 0
  pos : 0 < maxWeight
  lt_word : maxWeight < word

section
variable {vacant : α} {word maxWeight k runs : Nat} {ms : List (Member α n)} {table : Vector α n}

/-- Whoever has a turn in the round finds a vacancy. -/
theorem Contest.slot_of_turn (h : Contest vacant word maxWeight k ms table runs) (hk : k ≤ n)
    (hroom : runs + ms.length < k) {m : Member α n} (hm : m ∈ ms) (hw : m.weight ≠ 0)
    (hc : maxWeight ≤ (m.cum + m.weight) % word) :
    ∃ i : Fin n, table[i] = vacant ∧
      (fillRound vacant word maxWeight ms ⟨table, runs, false⟩).2.table[i] = m.owner := by
  have hrace := h.racing m hm
  obtain ⟨pre, post, rfl⟩ := List.append_of_mem hm
  rw [List.length_append, List.length_cons] at hroom
  refine fillRound_claims_slot ?_ hw hc hk pre ⟨table, runs, false⟩ ?_ hrace h.counts ?_
  · rintro x ⟨m', hm', hx⟩; exact h.owners x ⟨m', List.mem_append_right _ hm', hx⟩
  · rintro x ⟨m', hm', hx⟩; exact h.owners x ⟨m', List.mem_append_left _ hm', hx⟩
  · show runs + pre.length < k
    omega

/-- A round with room left makes progress: the heaviest member has a turn in every round. -/
theorem Contest.progress (h : Contest vacant word maxWeight k ms table runs) (hk : k ≤ n)
    (hroom : runs + ms.length < k) :
    (fillRound vacant word maxWeight ms ⟨table, runs, false⟩).2.progress = true := by
  obtain ⟨m, hm, hmw, hcum⟩ := h.heaviest
  have hpos := h.pos
  have hw : m.weight ≠ 0 := by omega
  have hc : maxWeight ≤ (m.cum + m.weight) % word := by
    rw [hcum, hmw, Nat.zero_add, Nat.mod_eq_of_lt h.lt_word]
  obtain ⟨i, hvac, hslot⟩ := h.slot_of_turn hk hroom hm hw hc
  have hown := h.owners _ ⟨m, hm, hw, rfl⟩
  -- a round without a claim would have left slot `i` vacant
  cases hp : (fillRound vacant word maxWeight ms ⟨table, runs, false⟩).2.progress with
  | true => rfl
  | false =>
    have hcl := fillRound_claims vacant word maxWeight ms ⟨table, runs, false⟩
    generalize fillRound vacant word maxWeight ms ⟨table, runs, false⟩ = r at hcl hp hslot
    obtain ⟨_, st'⟩ := r
    cases hcl with
    | refl => exact absurd (hslot.symm.trans hvac) hown
    | step => cases hp

/-- The contest goes on after a round that leaves room. -/
theorem Contest.next (h : Contest vacant word maxWeight k ms table runs) (hk : k ≤ n)
    (hroom : runs + ms.length < k) :
    Contest vacant word maxWeight k (fillRound vacant word maxWeight ms ⟨table, runs, false⟩).1
      (fillRound vacant word maxWeight ms ⟨table, runs, false⟩).2.table
      (fillRound vacant word maxWeight ms ⟨table, runs, false⟩).2.runs := by
  have hcl := (fillRound_claims vacant word maxWeight ms ⟨table, runs, false⟩).mono h.owners
  have hruns := fillRound_runs_le vacant word maxWeight ms ⟨table, runs, false⟩
  obtain ⟨m, hm, hmw, hcum⟩ := h.heaviest
  have hpos := h.pos
  obtain ⟨m', hm', _, hw', hcum'⟩ := fillRound_accrued vacant word maxWeight
    (show m.weight ≠ 0 by omega) ms ⟨table, runs, false⟩ hm (by simp only at hruns; omega)
  exact
    { owners := fun x hx => h.owners x ((contends_fillRound vacant word maxWeight ms _ x).mp hx)
      racing := fillRound_racing ms _ h.owners h.racing
      counts := hcl.card (fun _ hx => hx) h.counts
      heaviest := by
        refine ⟨m', hm', hw'.trans hmw, ?_⟩
        rw [hcum', Member.accrued, hcum, hmw, Nat.zero_add, Nat.mod_eq_of_lt h.lt_word]
        simp
      pos := h.pos
      lt_word := h.lt_word }

end

/-- **A member whose accumulator reaches the maximal weight within `rounds` rounds owns a slot of the
    finished table**, when the table has room for all members in all these rounds.  By induction on the
    rounds still to wait. -/
theorem fillLoop_owns (fallback : α) (hk : k ≤ n) (rounds : Nat) :
    ∀ {ms : List (Member α n)} {table : Vector α n} {runs : Nat} {m : Member α n},
      Contest vacant word maxWeight k ms table runs → m ∈ ms → m.weight ≠ 0 →
      m.cum < maxWeight → maxWeight ≤ m.cum + rounds * m.weight →
      m.cum + rounds * m.weight < word → runs + rounds * ms.length < k →
      ∃ i : Fin n, (fillLoop vacant word maxWeight fallback ms table runs)[i] = m.owner := by
  induction rounds with
  | zero => intro ms table runs m _ _ _ hlt hle; omega
  | succ rounds ih =>
    intro ms table runs m h hm hw hlt hle hword hroom
    rw [Nat.succ_mul] at hle hword hroom
    have hroom' : runs + ms.length < k := by omega
    have hown := h.owners _ ⟨m, hm, hw, rfl⟩
    have hmod : (m.cum + m.weight) % word = m.cum + m.weight :=
      Nat.mod_eq_of_lt (by omega)
    have hp := h.progress hk hroom'
    rw [fillLoop, dif_pos (show runs < n by omega)]
    simp only [hp, Bool.true_eq_false, false_and, dite_false]
    by_cases hc : maxWeight ≤ m.cum + m.weight
    · -- its turn: the slot it claims now is kept to the end
      obtain ⟨i, _, hslot⟩ := h.slot_of_turn hk hroom' hm hw (by rw [hmod]; exact hc)
      refine ⟨i, ?_⟩
      rw [fillLoop_kept _ _ _ _ _ _ _ i (by rw [hslot]; exact hown), hslot]
    · -- it waits: one round fewer to go
      have hruns := fillRound_runs_le vacant word maxWeight ms ⟨table, runs, false⟩
      simp only at hruns
      have hlen : (fillRound vacant word maxWeight ms ⟨table, runs, false⟩).1.length = ms.length := by
        have hmap := congrArg List.length
          (fillRound_members vacant word maxWeight ms ⟨table, runs, false⟩)
        rwa [List.length_map, List.length_map] at hmap
      obtain ⟨m', hm', hown', hw', hcum'⟩ := fillRound_accrued vacant word maxWeight hw ms
        ⟨table, runs, false⟩ hm (by omega)
      rw [Member.accrued, hmod, if_neg hc] at hcum'
      have hnext := ih (h.next hk hroom') hm' (by rw [hw']; exact hw) (by omega)
        (by rw [hcum', hw']; omega) (by rw [hcum', hw']; omega) (by rw [hlen]; omega)
      rwa [hown'] at hnext

/-! ## Stride probing in a table of prime size -/

/-- A stride below a prime table size visits different slots in its first `p` steps. -/
theorem stride_injOn {p : Nat} (hp : p.Prime) (h0 : 0 < skip) (hskip : skip < p) (hi : i < p) (hj : j < p)
    (h : (offset + i * skip) % p = (offset + j * skip) % p) : i = j := by
  have hmul : i * skip ≡ j * skip [MOD p] := Nat.ModEq.add_left_cancel' offset h
  have hcop : Nat.gcd p skip = 1 := Nat.coprime_of_lt_prime (by omega) hskip hp
  exact (Nat.ModEq.cancel_right_of_coprime hcop hmul).eq_of_lt_of_lt hi hj

end FluxWAN.WeightedFill
