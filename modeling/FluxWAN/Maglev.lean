/-
  Maglev ring construction (`src/wan_manager.c`: `murmurhash3_x64_64`, `build_single_maglev_ring`).

  A ring is built from a list of WAN INDICES, the members.  Every member hashes its interface name to
  an offset and a stride; members that are enabled, neither DOWN nor DRAINING and of positive weight
  contend for the 65537 slots by weighted rounds (`WeightedFill`), everyone else has weight 0 and gets
  nothing.  If nobody contends, the whole ring points at the first member.

  Two things the C code does quietly are explicit here:

  * a member index at or above `wan_count` is skipped by the set-up loop, which leaves that member's
    `permutation`, `next` and `weights` entries UNINITIALISED; what the stack holds there is the
    parameter `stack`, and every theorem is for all of its values;
  * the probe position `offset + next * skip` is 32-bit arithmetic and can wrap, so a member's probe
    sequence need not be a permutation of the ring: it is one if and only if the last position does not
    wrap (`permutes_iff`).
-/
import FluxWAN.Config
import FluxWAN.Lib.WeightedFill
import Mathlib.Data.Fintype.EquivFin
import Mathlib.Tactic.NormNum.Prime

namespace FluxWAN

open CString WeightedFill SlotTable

/-! ## Hashing an interface name -/

def rotl64 (x r : UInt64) : UInt64 := (x <<< r) ||| (x >>> (64 - r))

/-- The finalizer `murmurhash3_x64_64` applies to each half. -/
def fmix64 (h : UInt64) : UInt64 :=
  let h := h ^^^ (h >>> 33)
  let h := h * 0xff51afd7ed558ccd
  let h := h ^^^ (h >>> 33)
  let h := h * 0xc4ceb9fe1a85ec53
  h ^^^ (h >>> 33)

def murmurhash3X64 (A B : UInt64) (seed : UInt32) : UInt64 :=
  let c1 : UInt64 := 0x87c37b91114253d5
  let c2 : UInt64 := 0x4cf5ad432745937f
  let h1 := seed.toUInt64
  let h2 := seed.toUInt64
  let k1 := rotl64 (A * c1) 31 * c2
  let h1 := h1 ^^^ k1
  let h1 := rotl64 h1 27 + h2
  let h1 := h1 * 5 + 0x52dce729
  let k2 := rotl64 (B * c2) 33 * c1
  let h2 := h2 ^^^ k2
  let h2 := rotl64 h2 31 + h1
  let h2 := h2 * 5 + 0x38495ab5
  let h1 := h1 ^^^ 16
  let h2 := h2 ^^^ 16
  let h1 := h1 + h2
  let h2 := h2 + h1
  fmix64 h1 + fmix64 h2

def khashSeed0 : UInt32 := 0
def khashSeed1 : UInt32 := 2307
def khashSeed2 : UInt64 := 42
def khashSeed3 : UInt64 := 2718281828

/-- The running hash over the bytes of the interface name. -/
def wanHash (name : CStr) : UInt64 :=
  name.foldl (fun h c => (h * 33) ^^^ c.toNat.toUInt8.toUInt64) 0x811c9dc5

/-- `permutation[2 * m]`. -/
def maglevOffset (name : CStr) : Nat :=
  (murmurhash3X64 (wanHash name) khashSeed2 khashSeed0).toNat % maglevRingSize

/-- `permutation[2 * m + 1]`. -/
def maglevSkip (name : CStr) : Nat :=
  (murmurhash3X64 (wanHash name) khashSeed3 khashSeed1).toNat % (maglevRingSize - 1) + 1

theorem maglevSkip_pos (name : CStr) : 0 < maglevSkip name := Nat.succ_pos _

theorem maglevSkip_lt (name : CStr) : maglevSkip name < maglevRingSize := by
  have : (murmurhash3X64 (wanHash name) khashSeed3 khashSeed1).toNat % 65536 < 65536 :=
    Nat.mod_lt _ (by decide)
  show _ % 65536 + 1 < 65537
  omega

/-! ## Probe sequences -/

/-- The slot a member looks at with cursor `next`: 32-bit arithmetic, then modulo the ring size. -/
def maglevProbe (offset skip next : Nat) : Fin maglevRingSize :=
  ⟨(offset + next * skip) % 2 ^ 32 % maglevRingSize, Nat.mod_lt _ (by decide)⟩

/-- As long as the 32-bit position does not wrap, a probe sequence visits different slots. -/
theorem maglevProbe_injOn_of_lt (h0 : 0 < skip) (hs : skip < maglevRingSize)
    (hk : k ≤ maglevRingSize) (hfit : ∀ j < k, offset + j * skip < 2 ^ 32) :
    Set.InjOn (maglevProbe offset skip) (Finset.range k) := by
  have hprime : Nat.Prime 65537 := by norm_num
  intro i hi j hj h
  have hi' : i < k := by simpa using hi
  have hj' : j < k := by simpa using hj
  have hval : (offset + i * skip) % 65537 = (offset + j * skip) % 65537 := by
    have := congrArg Fin.val h
    simp only [maglevProbe] at this
    rwa [Nat.mod_eq_of_lt (hfit i hi'), Nat.mod_eq_of_lt (hfit j hj')] at this
  exact stride_injOn hprime h0 hs (hi'.trans_le hk) (hj'.trans_le hk) hval

/-- The first 65535 positions never wrap. -/
theorem maglevProbe_injOn (ho : offset < maglevRingSize) (h0 : 0 < skip)
    (hs : skip < maglevRingSize) : Set.InjOn (maglevProbe offset skip) (Finset.range 65535) := by
  refine maglevProbe_injOn_of_lt h0 hs (by decide) fun j hj => ?_
  have hmul : j * skip ≤ 65534 * 65536 := Nat.mul_le_mul (by omega) (Nat.le_of_lt_succ hs)
  have ho' : offset < 65537 := ho
  omega

/-- The probe sequence visits every slot exactly once. -/
def Permutes (offset skip : Nat) : Prop :=
  ∀ slot : Fin maglevRingSize, ∃! n, n < maglevRingSize ∧ maglevProbe offset skip n = slot

theorem not_permutes (hi : i < maglevRingSize) (hj : j < maglevRingSize) (hne : i ≠ j)
    (h : maglevProbe offset skip i = maglevProbe offset skip j) : ¬ Permutes offset skip := by
  intro hperm
  obtain ⟨n, -, hunique⟩ := hperm (maglevProbe offset skip j)
  exact hne ((hunique i ⟨hi, h⟩).trans (hunique j ⟨hj, rfl⟩).symm)

/-- **Probe sequences are permutations** exactly when the last position does not wrap. -/
theorem permutes_iff (offset skip : Nat) (ho : offset ≤ 65536) (h0 : 1 ≤ skip) (hs : skip ≤ 65536) :
    Permutes offset skip ↔ offset + 65536 * skip < 2 ^ 32 := by
  constructor
  · intro hperm
    by_contra hwrap
    obtain rfl | ⟨rfl, rfl⟩ : skip = 65536 ∨ skip = 65535 ∧ offset = 65536 := by omega
    · -- the last position is the first again
      refine not_permutes (i := 65536) (j := 0) (by decide) (by decide) (by decide) (Fin.ext ?_) hperm
      show (offset + 65536 * 65536) % 2 ^ 32 % 65537 = (offset + 0 * 65536) % 2 ^ 32 % 65537
      omega
    · exact not_permutes (i := 65536) (j := 32768) (by decide) (by decide) (by decide) (by decide) hperm
  · intro hfit slot
    have hinj : Set.InjOn (maglevProbe offset skip) (Finset.range maglevRingSize) := by
      refine maglevProbe_injOn_of_lt h0 (Nat.lt_succ_of_le hs) (Nat.le_refl _) fun j hj => ?_
      have hmul : j * skip ≤ 65536 * skip := Nat.mul_le_mul_right skip (Nat.le_of_lt_succ hj)
      omega
    have hfin : Function.Injective fun n : Fin maglevRingSize => maglevProbe offset skip n :=
      fun i j h => Fin.ext (hinj (by simp) (by simp) h)
    obtain ⟨n, hn⟩ := (Finite.injective_iff_surjective.mp hfin) slot
    refine ⟨n, ⟨n.isLt, hn⟩, ?_⟩
    rintro m ⟨hm, hslot⟩
    exact hinj (by simpa using hm) (by simp) (hslot.trans hn.symm)

theorem permutes_iff_one : Permutes 0 1 :=
  (permutes_iff 0 1 (by decide) (by decide) (by decide)).mpr (by decide)

/-- With the largest stride the last position is the first again. -/
theorem largest_skip_not_permutes : ¬ Permutes 0 65536 :=
  not_permutes (i := 65536) (j := 0) (by decide) (by decide) (by decide) (by decide)

/-! ## The members of a ring -/

/-- Slots start at `0xFFFFFFFF`. -/
def emptySlot : UInt32 := 0xFFFFFFFF

/-- What the stack happens to hold where a skipped member's entries would be. -/
structure StackCell where
  offset : UInt32
  skip : UInt32
  next : UInt32
  weight : UInt32

/-- Is the WAN at this index one that may receive flows?  Indices past the end are not. -/
def Config.activeIdx (c : Config) (v : UInt32) : Bool :=
  (c.wans[v.toNat]?).any WanConfig.isActive

/-- The set-up loop's entries for member `m`, whose WAN index is `wIdx`. -/
def maglevMember (c : Config) (stack : Nat → StackCell) (m : Nat) (wIdx : UInt32) :
    Member UInt32 maglevRingSize :=
  match c.wans[wIdx.toNat]? with
  | none =>
    { owner := wIdx
      probe := maglevProbe (stack m).offset.toNat (stack m).skip.toNat
      weight := (stack m).weight.toNat
      next := (stack m).next.toNat }
  | some w =>
    { owner := wIdx
      probe := maglevProbe (maglevOffset w.name) (maglevSkip w.name)
      weight := if w.isActive then w.dynamicWeight.toNat else 0 }

/-- `max_weight`, never 0. -/
def maxWeightOf (ms : List (Member UInt32 maglevRingSize)) : Nat :=
  let mx := (ms.map Member.weight).foldl max 0
  if mx = 0 then 1 else mx

/-- `build_single_maglev_ring`. -/
def buildSingleMaglevRing (c : Config) (stack : Nat → StackCell) (memberIndices : List UInt32) :
    MaglevRing :=
  match memberIndices with
  | [] => Vector.replicate _ 0
  | first :: _ =>
    match memberIndices.filter c.activeIdx with
    | [] => Vector.replicate _ first
    | firstActive :: _ =>
      let ms := memberIndices.mapIdx (maglevMember c stack)
      fillLoop emptySlot (2 ^ 32) (maxWeightOf ms) firstActive ms (Vector.replicate _ emptySlot) 0

/-! ## Who can own a slot -/

theorem Config.activeIdx_iff (c : Config) (v : UInt32) :
    c.activeIdx v = true ↔ ∃ w, c.wans[v.toNat]? = some w ∧ w.isActive = true := by
  rw [activeIdx, Option.any_eq_true]

/-- An index of a configured WAN is never mistaken for a vacancy. -/
theorem Config.ne_emptySlot (c : Config) {v : UInt32} (hv : v.toNat < c.wans.length) :
    v ≠ emptySlot := by
  rintro rfl
  have hle : c.wans.length ≤ 256 := c.wans_le
  have hval : emptySlot.toNat = 4294967295 := by decide
  omega

/-- With all member indices in range, no member's entries are left to the stack. -/
theorem member_of_mem {c : Config} {idx : List UInt32} (hlt : ∀ v ∈ idx, v.toNat < c.wans.length)
    (hm : m ∈ idx.mapIdx (maglevMember c stack)) :
    ∃ v w, v ∈ idx ∧ c.wans[v.toNat]? = some w ∧ m =
      { owner := v
        probe := maglevProbe (maglevOffset w.name) (maglevSkip w.name)
        weight := if w.isActive then w.dynamicWeight.toNat else 0 } := by
  obtain ⟨i, hi, rfl⟩ := List.mem_mapIdx.mp hm
  have hmem : idx[i] ∈ idx := List.getElem_mem hi
  have hget := List.getElem?_eq_getElem (hlt _ hmem)
  exact ⟨idx[i], _, hmem, hget, by simp only [maglevMember, hget]⟩

/-- With all member indices in range, only ACTIVE members contend. -/
theorem active_of_contends {c : Config} {idx : List UInt32} (hlt : ∀ v ∈ idx, v.toNat < c.wans.length)
    (hx : Contends (idx.mapIdx (maglevMember c stack)) x) :
    x ∈ idx ∧ c.activeIdx x = true := by
  obtain ⟨m, hm, hw, rfl⟩ := hx
  obtain ⟨v, w, hmem, hget, rfl⟩ := member_of_mem hlt hm
  refine ⟨hmem, (c.activeIdx_iff v).mpr ⟨w, hget, ?_⟩⟩
  by_contra hna
  exact hw (if_neg hna)

/-! ## The finished ring -/

/-- With an active member the ring is what the weighted rounds leave, and their fallback owner is an
    active member too. -/
theorem buildSingleMaglevRing_eq_fillLoop {c : Config} {idx : List UInt32} (hact : ∃ v ∈ idx, c.activeIdx v = true) :
    ∃ firstActive ∈ idx, c.activeIdx firstActive = true ∧
      buildSingleMaglevRing c stack idx =
        fillLoop emptySlot (2 ^ 32) (maxWeightOf (idx.mapIdx (maglevMember c stack))) firstActive
          (idx.mapIdx (maglevMember c stack)) (Vector.replicate _ emptySlot) 0 := by
  obtain ⟨v, hv, hva⟩ := hact
  have hmem : v ∈ idx.filter c.activeIdx := List.mem_filter.mpr ⟨hv, hva⟩
  obtain ⟨fa, fr, hfilter⟩ := List.exists_cons_of_ne_nil (List.ne_nil_of_mem hmem)
  have hfa : fa ∈ idx.filter c.activeIdx := hfilter ▸ List.mem_cons_self
  obtain ⟨hfa1, hfa2⟩ := List.mem_filter.mp hfa
  refine ⟨fa, hfa1, hfa2, ?_⟩
  cases idx with
  | nil => exact absurd hv List.not_mem_nil
  | cons first rest => simp only [buildSingleMaglevRing, hfilter]

/-- **Ring soundness.**  All member indices in range and some member active: every one of the 65537
    slots holds the index of an active member. -/
theorem buildSingleMaglevRing_sound {c : Config}
    (hlt : ∀ v ∈ idx, v.toNat < c.wans.length) (hact : ∃ v ∈ idx, c.activeIdx v = true)
    (i : Fin maglevRingSize) :
    (buildSingleMaglevRing c stack idx).get i ∈ idx ∧
      c.activeIdx ((buildSingleMaglevRing c stack idx).get i) = true := by
  obtain ⟨fa, hfa1, hfa2, heq⟩ := buildSingleMaglevRing_eq_fillLoop hact
  rw [heq]
  refine fillLoop_spec (P := fun x => x ∈ idx ∧ c.activeIdx x = true)
    (fun x hx => c.ne_emptySlot (hlt x hx.1)) ⟨hfa1, hfa2⟩ _ _ _
    (fun x hx => active_of_contends hlt hx) ?_ (FilledBy.replicate _ _) i
  rw [filled_replicate, Finset.card_empty]

/-- With no active member the whole ring points at the first one. -/
theorem buildSingleMaglevRing_idle {c : Config} (hnone : ∀ v ∈ first :: rest, ¬ c.activeIdx v = true)
    (i : Fin maglevRingSize) : (buildSingleMaglevRing c stack (first :: rest)).get i = first := by
  have hfilter : (first :: rest).filter c.activeIdx = [] := List.filter_eq_nil_iff.mpr hnone
  simp only [buildSingleMaglevRing, hfilter]
  show (Vector.replicate maglevRingSize first)[i] = first
  simp

/-- Every slot of a ring with members in range holds a member. -/
theorem buildSingleMaglevRing_mem {c : Config}
    (hlt : ∀ v ∈ idx, v.toNat < c.wans.length) (hne : idx ≠ []) (i : Fin maglevRingSize) :
    (buildSingleMaglevRing c stack idx).get i ∈ idx := by
  by_cases hact : ∃ v ∈ idx, c.activeIdx v = true
  · exact (buildSingleMaglevRing_sound hlt hact i).1
  · cases idx with
    | nil => exact absurd rfl hne
    | cons first rest =>
      rw [buildSingleMaglevRing_idle (fun v hv hva => hact ⟨v, hv, hva⟩)]
      exact List.mem_cons_self

/-! ## Who certainly owns a slot -/

theorem maxWeightOf_pos : 0 < maxWeightOf ms := by
  simp only [maxWeightOf]
  split <;> omega

/-- With a contender around, `max_weight` is the weight of a member and bounds all of them. -/
theorem maxWeightOf_spec {m : Member UInt32 maglevRingSize} (hm : m ∈ ms) (hw : m.weight ≠ 0) :
    (∃ h ∈ ms, h.weight = maxWeightOf ms) ∧ ∀ m' ∈ ms, m'.weight ≤ maxWeightOf ms := by
  have hmax : (0 :: ms.map Member.weight).max? = some ((ms.map Member.weight).foldl max 0) := rfl
  obtain ⟨hmem, hle⟩ := List.max?_eq_some_iff.mp hmax
  have hle' : ∀ m' ∈ ms, m'.weight ≤ (ms.map Member.weight).foldl max 0 := fun m' hm' =>
    hle _ (List.mem_cons_of_mem _ (List.mem_map_of_mem hm'))
  have hne : (ms.map Member.weight).foldl max 0 ≠ 0 := by
    have := hle' m hm
    omega
  have heq : maxWeightOf ms = (ms.map Member.weight).foldl max 0 := if_neg hne
  rw [heq]
  refine ⟨?_, hle'⟩
  rcases List.mem_cons.mp hmem with h0 | hmem
  · exact absurd h0 hne
  · exact List.mem_map.mp hmem

section
variable {c : Config} {idx : List UInt32}

/-- A member in range starts with an empty accumulator and probes 65535 different slots. -/
theorem racing_of_mem (hlt : ∀ v ∈ idx, v.toNat < c.wans.length)
    {m : Member UInt32 maglevRingSize} (hm : m ∈ idx.mapIdx (maglevMember c stack)) :
    m.cum = 0 ∧ Racing emptySlot 65535 (Vector.replicate maglevRingSize emptySlot) m := by
  obtain ⟨_, _, _, _, rfl⟩ := member_of_mem hlt hm
  refine ⟨rfl, ?_, fun j hj => absurd hj (Nat.not_lt_zero j)⟩
  exact maglevProbe_injOn (Nat.mod_lt _ (by decide)) (maglevSkip_pos _) (maglevSkip_lt _)

/-- The rounds of a ring with members in range start as a contest. -/
theorem contest_maglev (hlt : ∀ v ∈ idx, v.toNat < c.wans.length)
    (hact : ∃ m ∈ idx.mapIdx (maglevMember c stack), m.weight ≠ 0) :
    Contest emptySlot (2 ^ 32) (maxWeightOf (idx.mapIdx (maglevMember c stack))) 65535
      (idx.mapIdx (maglevMember c stack)) (Vector.replicate maglevRingSize emptySlot) 0 := by
  obtain ⟨m, hm, hw⟩ := hact
  obtain ⟨⟨h, hh, hheavy⟩, _⟩ := maxWeightOf_spec hm hw
  exact
    { owners := fun x hx => c.ne_emptySlot (hlt x (active_of_contends hlt hx).1)
      racing := fun m' hm' => (racing_of_mem hlt hm').2
      counts := by rw [filled_replicate, Finset.card_empty]
      heaviest := ⟨h, hh, hheavy, (racing_of_mem hlt hh).1⟩
      pos := maxWeightOf_pos
      lt_word := by
        obtain ⟨_, _, _, _, rfl⟩ := member_of_mem hlt hh
        rw [← hheavy]
        simp only
        split
        · exact UInt32.toNat_lt _
        · decide }

/-- **An active member whose weight is at least a `rounds`-th of every other active member's owns a
    slot**, when `rounds` rounds of all members fit into the ring. -/
theorem buildSingleMaglevRing_owns
    (hlt : ∀ v ∈ idx, v.toNat < c.wans.length) {v : UInt32} {w : WanConfig} (hv : v ∈ idx)
    (hw : c.wans[v.toNat]? = some w) (hact : w.isActive = true)
    (hmax : ∀ u ∈ idx, ∀ w', c.wans[u.toNat]? = some w' → w'.isActive = true →
      w'.dynamicWeight.toNat ≤ rounds * w.dynamicWeight.toNat)
    (hword : rounds * w.dynamicWeight.toNat < 2 ^ 32) (hroom : rounds * idx.length < 65535) :
    ∃ i : Fin maglevRingSize, (buildSingleMaglevRing c stack idx).get i = v := by
  have hpos : 0 < w.dynamicWeight.toNat := ((WanConfig.isActive_iff w).mp hact).2
  obtain ⟨fa, _, _, heq⟩ := buildSingleMaglevRing_eq_fillLoop
    ⟨v, hv, (c.activeIdx_iff v).mpr ⟨w, hw, hact⟩⟩
  -- the member that stands for `v`
  obtain ⟨i, hi, hiv⟩ := List.mem_iff_getElem.mp hv
  have hmem : maglevMember c stack i v ∈ idx.mapIdx (maglevMember c stack) :=
    List.mem_mapIdx.mpr ⟨i, hi, by rw [hiv]⟩
  have hm : maglevMember c stack i v =
      { owner := v, probe := maglevProbe (maglevOffset w.name) (maglevSkip w.name),
        weight := w.dynamicWeight.toNat } := by
    simp only [maglevMember, hw, if_pos hact]
  have hne : (maglevMember c stack i v).weight ≠ 0 := by
    rw [hm]
    exact hpos.ne'
  have hheavy : maxWeightOf (idx.mapIdx (maglevMember c stack)) ≤
      rounds * w.dynamicWeight.toNat := by
    obtain ⟨⟨h, hh, hweight⟩, _⟩ := maxWeightOf_spec hmem hne
    obtain ⟨u, w', hu, hget, rfl⟩ := member_of_mem hlt hh
    rw [← hweight]
    simp only
    split
    · rename_i ha; exact hmax u hu w' hget ha
    · exact Nat.zero_le _
  have howns := fillLoop_owns fa (show 65535 ≤ maglevRingSize by decide) rounds
    (contest_maglev hlt ⟨_, hmem, hne⟩) hmem hne
  rw [heq]
  rw [hm] at howns
  simp only [Nat.zero_add, List.length_mapIdx] at howns
  exact howns maxWeightOf_pos hheavy hword hroom

end

end FluxWAN
