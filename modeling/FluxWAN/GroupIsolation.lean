/-
  Isolation of WAN groups, from the configuration file to the ring.

  PURPOSE.  A group is a list of names in the file.  After a load and a rebalance its ring should steer
  to the WANs those names denote, and to no others; a name that denotes nothing should have no effect
  (`Isolated`).

  The loader writes one index per name that RESOLVES but counts all NAMES, and the ring is built from
  that count.  Each unresolved name therefore adds a trailing 0 — the zeroed array — to the member list
  (`memberIndices_resolveGroup`), which is WAN 0.  Hence the condition `GroupClean`: no unresolved name,
  or WAN 0 is listed anyway, or WAN 0 is not usable and so never enters a ring.

  MAIN RESULT.  `loaded_ring_isolated`: a clean group is isolated; an unclean one is not, as soon as
  WAN 0 gets a turn before the ring is full (`ZeroHasTurn`: its weight is not a tiny fraction of the
  largest one; a thousandth is enough in every group); and a group none of whose names denotes a WAN
  keeps the ring it was loaded with.
-/
import FluxWAN.ConfigLoad
import FluxWAN.WanManager

namespace FluxWAN

open CString

/-! ## Listed WANs -/

/-- The group's `"wans"` array lists this WAN, by label or by interface name. -/
def WanGroup.Lists (g : WanGroup) (w : WanConfig) : Prop :=
  w.label ∈ g.wanNames ∨ w.name ∈ g.wanNames

instance (g : WanGroup) (w : WanConfig) : Decidable (g.Lists w) :=
  inferInstanceAs (Decidable (_ ∨ _))

/-- The index denotes a WAN the group lists. -/
def WanGroup.ListsIdx (g : WanGroup) (c : Config) (v : UInt32) : Prop :=
  ∃ w, c.wans[v.toNat]? = some w ∧ g.Lists w

/-- Whenever a listed name denotes a configured WAN, every slot of the ring denotes a listed WAN. -/
def Isolated (c : Config) (g : WanGroup) : Prop :=
  (∃ w ∈ c.wans, g.Lists w) → ∀ i : Fin maglevRingSize, g.ListsIdx c (g.maglevRing.get i)

theorem lists_of_isNamed {g : WanGroup} {w : WanConfig} (hmem : name ∈ g.wanNames)
    (h : w.isNamed name = true) : g.Lists w := by
  have h' : name = w.label ∨ name = w.name := by simpa [WanConfig.isNamed] using h
  rcases h' with rfl | rfl
  · exact .inl hmem
  · exact .inr hmem

theorem exists_isNamed_of_lists {g : WanGroup} {w : WanConfig} (h : g.Lists w) :
    ∃ name ∈ g.wanNames, w.isNamed name = true := by
  rcases h with h | h
  · exact ⟨w.label, h, by simp [WanConfig.isNamed]⟩
  · exact ⟨w.name, h, by simp [WanConfig.isNamed]⟩

/-! ## The member list of a loaded group -/

/-- The indices the loader writes for a list of names. -/
def resolvedIdx (wans : List WanConfig) (names : List CStr) : List UInt32 :=
  (names.filterMap (resolveName wans)).map UInt32.ofNat

theorem length_resolvedIdx_le (wans : List WanConfig) (names : List CStr) :
    (resolvedIdx wans names).length ≤ names.length := by
  rw [resolvedIdx, List.length_map]
  exact List.length_filterMap_le _ _

theorem resolveGroup_wanCount (wans : List WanConfig) (g : WanGroup) :
    (resolveGroup wans g).wanCount = g.wanCount := by
  simp only [resolveGroup]

theorem resolveGroup_wanNames (wans : List WanConfig) (g : WanGroup) :
    (resolveGroup wans g).wanNames = g.wanNames := by
  simp only [resolveGroup]

/-- **Resolved indices first, then one 0 for every name that resolved to nothing.** -/
theorem memberIndices_resolveGroup {g : WanGroup} (hnames : g.wanNames.length = g.wanCount)
    (hzero : g.wanMemberIndices = Vector.replicate _ 0) :
    (resolveGroup wans g).memberIndices = resolvedIdx wans g.wanNames ++
      List.replicate (g.wanNames.length - (resolvedIdx wans g.wanNames).length) 0 := by
  have htake : g.wanNames.take g.wanCount = g.wanNames := by rw [← hnames, List.take_length]
  have hle : g.wanCount ≤ 64 := g.wanCount_le
  have hres := length_resolvedIdx_le wans g.wanNames
  refine List.ext_getElem ?_ fun i h1 h2 => ?_
  · rw [WanGroup.length_memberIndices, resolveGroup_wanCount, List.length_append, List.length_replicate]
    omega
  · rw [WanGroup.length_memberIndices, resolveGroup_wanCount] at h1
    simp only [WanGroup.memberIndices, resolveGroup, htake, hzero, List.getElem_take,
      Vector.getElem_toList, Vector.getElem_ofFn, List.getElem_append]
    simp [resolvedIdx]

theorem resolveName_isSome_iff (wans : List WanConfig) (name : CStr) :
    (resolveName wans name).isSome = true ↔ ∃ w ∈ wans, w.isNamed name = true := by
  rw [resolveName, List.findIdx?_isSome, List.any_eq_true]

/-- As many indices as names exactly when every name denotes a WAN. -/
theorem length_resolvedIdx_eq_iff (wans : List WanConfig) (names : List CStr) :
    (resolvedIdx wans names).length = names.length ↔
      ∀ name ∈ names, ∃ w ∈ wans, w.isNamed name = true := by
  rw [resolvedIdx, List.length_map, List.length_filterMap_eq_countP, List.countP_eq_length]
  exact forall₂_congr fun name _ => resolveName_isSome_iff wans name

/-! ## A configuration as the loader leaves it -/

/-- What the ring construction needs to know about a group: its names, and how they were resolved. -/
structure ResolvedIn (c : Config) (g : WanGroup) : Prop where
  ring : g.maglevRing = Vector.replicate _ 0
  names : g.wanNames.length = g.wanCount
  members : g.memberIndices = resolvedIdx c.wans g.wanNames ++
    List.replicate (g.wanNames.length - (resolvedIdx c.wans g.wanNames).length) 0

/-- Every group of a loaded configuration is resolved against its WANs. -/
theorem configLoad_resolved {c : Config} (h : configLoad file = some c) (hg : g ∈ c.groups) : ResolvedIn c g := by
  unfold configLoad at h
  split at h
  · cases h
  · obtain rfl := Option.some.inj h
    have hg' : g ∈ loadGroups (cstr file) (loadWans (cstr file)) := hg
    unfold loadGroups at hg'
    split at hg'
    · cases hg'
    · obtain ⟨g₀, hg₀, rfl⟩ := List.mem_map.mp hg'
      obtain ⟨k, hk, rfl⟩ := List.mem_mapIdx.mp hg₀
      refine ⟨rfl, ?_, ?_⟩
      · rw [resolveGroup_wanNames, resolveGroup_wanCount]
        rfl
      · rw [resolveGroup_wanNames]
        exact memberIndices_resolveGroup rfl rfl

section
variable {c : Config} {g : WanGroup}

theorem listsIdx_of_mem_resolvedIdx (hv : v ∈ resolvedIdx c.wans g.wanNames) : g.ListsIdx c v := by
  obtain ⟨i, hi, rfl⟩ := List.mem_map.mp hv
  obtain ⟨name, hname, hres⟩ := List.mem_filterMap.mp hi
  obtain ⟨hlt, hnamed, _⟩ := List.findIdx?_eq_some_iff_getElem.mp hres
  refine ⟨c.wans[i], ?_, lists_of_isNamed hname hnamed⟩
  rw [c.toNat_ofNat_of_lt hlt]
  exact List.getElem?_eq_getElem hlt

theorem resolvedIdx_ne_nil (h : ∃ w ∈ c.wans, g.Lists w) : resolvedIdx c.wans g.wanNames ≠ [] := by
  obtain ⟨w, hw, hl⟩ := h
  obtain ⟨name, hname, hnamed⟩ := exists_isNamed_of_lists hl
  have hsome := (resolveName_isSome_iff c.wans name).mpr ⟨w, hw, hnamed⟩
  obtain ⟨i, hi⟩ := Option.isSome_iff_exists.mp hsome
  have hmem : UInt32.ofNat i ∈ resolvedIdx c.wans g.wanNames :=
    List.mem_map_of_mem (List.mem_filterMap.mpr ⟨name, hname, hi⟩)
  exact List.ne_nil_of_mem hmem

/-- With a configured WAN, every index the group's ring is built from is in range. -/
theorem ResolvedIn.lt_of_mem (hres : ResolvedIn c g) (hne : c.wans.length ≠ 0) :
    ∀ v ∈ g.memberIndices, v.toNat < (reweighed c).wans.length := by
  intro v hv
  rw [reweighed, Config.mapWans_wans, List.length_map]
  rw [hres.members] at hv
  rcases List.mem_append.mp hv with hv | hv
  · obtain ⟨w, hget, _⟩ := listsIdx_of_mem_resolvedIdx hv
    exact (List.getElem?_eq_some_iff.mp hget).1
  · rw [List.eq_of_mem_replicate hv]
    show 0 < c.wans.length
    omega

end

/-! ## The ring of a resolved group -/

/-- If a listed name denotes a WAN at all: every listed name does, or WAN 0 is listed too, or WAN 0 is
    disabled, DOWN or DRAINING. -/
def GroupClean (c : Config) (g : WanGroup) : Prop :=
  (∃ w ∈ c.wans, g.Lists w) →
    (∀ name ∈ g.wanNames, ∃ w ∈ c.wans, w.isNamed name = true) ∨
      ∃ w, c.wans[0]? = some w ∧ (g.Lists w ∨ w.isUsable = false)

instance (c : Config) (g : WanGroup) : Decidable (GroupClean c g) :=
  decidable_of_iff ((∃ w ∈ c.wans, g.Lists w) →
      (∀ name ∈ g.wanNames, ∃ w ∈ c.wans, w.isNamed name = true) ∨
        (c.wans[0]?).any (fun w => decide (g.Lists w ∨ w.isUsable = false)) = true)
    (by simp [GroupClean, Option.any_eq_true])

section
variable {c : Config} {g : WanGroup}

/-- A member that is not listed is WAN 0, there for a name that resolved to nothing. -/
theorem ResolvedIn.listed_or_zero (hres : ResolvedIn c g) (hv : v ∈ g.memberIndices) :
    g.ListsIdx c v ∨ v = 0 ∧ ¬ ∀ name ∈ g.wanNames, ∃ w ∈ c.wans, w.isNamed name = true := by
  rw [hres.members] at hv
  rcases List.mem_append.mp hv with hv | hv
  · exact .inl (listsIdx_of_mem_resolvedIdx hv)
  · obtain ⟨hcount, hzero⟩ := List.mem_replicate.mp hv
    refine .inr ⟨hzero, fun hall => hcount ?_⟩
    rw [(length_resolvedIdx_eq_iff c.wans g.wanNames).mpr hall, Nat.sub_self]

/-- A clean group's ring holds listed WANs only. -/
theorem ResolvedIn.ring_listed (hres : ResolvedIn c g) (hlist : ∃ w ∈ c.wans, g.Lists w)
    (hclean : GroupClean c g) (stack : Nat → StackCell) (i : Fin maglevRingSize) :
    g.ListsIdx c ((buildSingleMaglevRing (reweighed c) stack g.memberIndices).get i) := by
  have hne : c.wans.length ≠ 0 := by
    obtain ⟨w, hw, _⟩ := hlist
    exact fun h => List.ne_nil_of_mem hw (List.length_eq_zero_iff.mp h)
  have hlt := hres.lt_of_mem hne
  obtain ⟨first, rest, hfirst⟩ := List.exists_cons_of_ne_nil (resolvedIdx_ne_nil hlist)
  have hmembers : ∃ rest', g.memberIndices = first :: rest' := by
    rw [hres.members, hfirst]
    exact ⟨_, rfl⟩
  by_cases hact : ∃ v ∈ g.memberIndices, (reweighed c).activeIdx v = true
  · -- an active member: the slot is active, so it is not an unlisted, unusable WAN 0
    obtain ⟨hmem, hactive⟩ := buildSingleMaglevRing_sound hlt hact i
    rcases hres.listed_or_zero hmem with hl | ⟨hzero, hunres⟩
    · exact hl
    · rcases hclean hlist with hall | ⟨w, hget, hw⟩
      · exact absurd hall hunres
      · rw [hzero] at hactive ⊢
        rcases hw with hw | hw
        · exact ⟨w, hget, hw⟩
        · obtain ⟨w', hget', husable⟩ := (reweighed_activeIdx c 0).mp hactive
          obtain rfl := Option.some.inj (hget.symm.trans hget')
          rw [hw] at husable
          cases husable
  · -- no active member: the whole ring is the first resolved index
    obtain ⟨rest', hcons⟩ := hmembers
    have hidle : ∀ v ∈ first :: rest', ¬ (reweighed c).activeIdx v = true :=
      fun v hv hva => hact ⟨v, hcons ▸ hv, hva⟩
    rw [hcons, buildSingleMaglevRing_idle hidle]
    exact listsIdx_of_mem_resolvedIdx (hfirst ▸ List.mem_cons_self)

/-- A group none of whose names denotes a WAN has only zeros for members. -/
theorem ResolvedIn.eq_zero_of_mem (hres : ResolvedIn c g) (hnone : ¬ ∃ w ∈ c.wans, g.Lists w)
    (hv : v ∈ g.memberIndices) : v = 0 := by
  rcases hres.listed_or_zero hv with ⟨w, hget, hl⟩ | ⟨hzero, _⟩
  · exact absurd ⟨w, List.mem_of_getElem? hget, hl⟩ hnone
  · exact hzero

/-- An unclean group puts an unlisted, usable WAN 0 among its members. -/
theorem ResolvedIn.zero_mem (hres : ResolvedIn c g) (hunclean : ¬ GroupClean c g) :
    ∃ w, c.wans[0]? = some w ∧ w.isUsable = true ∧ ¬ g.Lists w ∧ (0 : UInt32) ∈ g.memberIndices := by
  unfold GroupClean at hunclean
  push Not at hunclean
  obtain ⟨⟨w, hw, _⟩, ⟨name, hname, hnone⟩, hzero⟩ := hunclean
  have hpos : 0 < c.wans.length := List.length_pos_of_mem hw
  have hget : c.wans[0]? = some c.wans[0] := List.getElem?_eq_getElem hpos
  obtain ⟨hnl, hus⟩ := hzero _ hget
  refine ⟨c.wans[0], hget, by simpa using hus, hnl, ?_⟩
  rw [hres.members]
  refine List.mem_append_right _ (List.mem_replicate.mpr ⟨?_, rfl⟩)
  have hle := length_resolvedIdx_le c.wans g.wanNames
  have hneq : (resolvedIdx c.wans g.wanNames).length ≠ g.wanNames.length := fun heq => by
    obtain ⟨w', hw', hnamed⟩ := (length_resolvedIdx_eq_iff c.wans g.wanNames).mp heq name hname
    exact hnone w' hw' hnamed
  omega

end

/-! ## After a load and a rebalance -/

theorem reweigh_lists (g : WanGroup) (steering : Bool) (w : WanConfig) :
    g.Lists (reweigh steering minRtt w) ↔ g.Lists w := by
  obtain ⟨_, _, h⟩ := reweigh_frame steering minRtt w
  rw [WanGroup.Lists, WanGroup.Lists, h]

/-- Group `k` after the rebalance: the same names, and a ring over the reweighed WANs. -/
structure RebuiltFrom (c : Config) (env : Env) (k : Nat) (g : WanGroup) (c' : Config)
    (g' : WanGroup) : Prop where
  wans : c'.wans = (reweighed c).wans
  names : g'.wanNames = g.wanNames
  ring : 0 < g.wanCount →
    g'.maglevRing = buildSingleMaglevRing (reweighed c) (env.stack (k + 1)) g.memberIndices

theorem rebuiltFrom_rebalance {env : Env} (hlic : env.licenseAuthorized = true)
    (ctx : WanManagerCtx) (hne : ctx.config.wans.length ≠ 0)
    (hg : ctx.config.groups[k]? = some g)
    (hg' : (rebalance env ctx).config.groups[k]? = some g') :
    RebuiltFrom ctx.config env k g (rebalance env ctx).config g' := by
  rw [rebalance_groups hlic ctx hne, List.getElem?_mapIdx, hg, Option.map_some] at hg'
  obtain rfl := Option.some.inj hg'
  refine ⟨rebalance_wans hlic ctx, ?_, fun hpos => ?_⟩
  · unfold rebuildGroup
    split <;> rfl
  · simp only [rebuildGroup, if_pos hpos]

theorem RebuiltFrom.listsIdx {g g' : WanGroup}
    (h : RebuiltFrom c env k g c' g') (v : UInt32) : g'.ListsIdx c' v ↔ g.ListsIdx c v := by
  have hlists : ∀ w, g'.Lists w ↔ g.Lists w := by
    intro w
    rw [WanGroup.Lists, WanGroup.Lists, h.names]
  unfold WanGroup.ListsIdx
  rw [h.wans, reweighed_getElem?]
  constructor
  · rintro ⟨w', hget, hl⟩
    obtain ⟨w, hw, rfl⟩ := Option.map_eq_some_iff.mp hget
    exact ⟨w, hw, (reweigh_lists g _ w).mp ((hlists _).mp hl)⟩
  · rintro ⟨w, hw, hl⟩
    exact ⟨_, by rw [hw]; rfl, (hlists _).mpr ((reweigh_lists g _ w).mpr hl)⟩

/-- Some configured WAN is listed, before and after. -/
theorem RebuiltFrom.exists_lists {c c' : Config} {g g' : WanGroup} (h : RebuiltFrom c env k g c' g') :
    (∃ w ∈ c'.wans, g'.Lists w) ↔ ∃ w ∈ c.wans, g.Lists w := by
  rw [h.wans, reweighed, Config.mapWans_wans]
  simp only [List.mem_map, exists_exists_and_eq_and, WanGroup.Lists, h.names]
  exact exists_congr fun w => and_congr_right fun _ => reweigh_lists g _ w

/-- WAN 0 gets a turn before the ring is full: for some number of rounds no member weighs more than
    that many times WAN 0's weight, and that many rounds of all members fit into the ring.  With at
    most 64 names in a group 1023 rounds always fit. -/
def ZeroHasTurn (c : Config) (g : WanGroup) : Prop :=
  ∃ w₀ rounds, c.wans[0]? = some w₀ ∧
    (∀ v ∈ g.memberIndices, ∀ w, c.wans[v.toNat]? = some w →
      w.dynamicWeight.toNat ≤ rounds * w₀.dynamicWeight.toNat) ∧
    rounds * w₀.dynamicWeight.toNat < 2 ^ 32 ∧ rounds * g.memberIndices.length < 65535

section
variable {c : Config} {g g' : WanGroup} {env : Env} {bpf : Option Tables} {lut : MaglevRing} {k : Nat}

theorem ResolvedIn.wanCount_pos (hres : ResolvedIn c g) (hlist : ∃ w ∈ c.wans, g.Lists w) :
    0 < g.wanCount := by
  obtain ⟨w, _, hl⟩ := hlist
  obtain ⟨name, hname, _⟩ := exists_isNamed_of_lists hl
  rw [← hres.names]
  exact List.length_pos_of_mem hname

/-- A clean group is isolated after the rebalance. -/
theorem ResolvedIn.isolated (hres : ResolvedIn c g) (hlic : env.licenseAuthorized = true)
    (hg : c.groups[k]? = some g)
    (hg' : (rebalance env ⟨c, bpf, lut⟩).config.groups[k]? = some g') (hclean : GroupClean c g) :
    Isolated (rebalance env ⟨c, bpf, lut⟩).config g' := by
  intro hlist' i
  have hne : c.wans.length ≠ 0 := by
    obtain ⟨w', hw', _⟩ := hlist'
    rw [rebalance_wans hlic] at hw'
    obtain ⟨w, hw, _⟩ := List.mem_map.mp hw'
    exact (List.length_pos_of_mem hw).ne'
  have hreb := rebuiltFrom_rebalance hlic ⟨c, bpf, lut⟩ hne hg hg'
  have hlist := hreb.exists_lists.mp hlist'
  rw [hreb.listsIdx, hreb.ring (hres.wanCount_pos hlist)]
  exact hres.ring_listed hlist hclean _ i

/-- An unclean group is not, when WAN 0 gets a turn. -/
theorem ResolvedIn.not_isolated (hres : ResolvedIn c g) (hlic : env.licenseAuthorized = true)
    (hg : c.groups[k]? = some g)
    (hg' : (rebalance env ⟨c, bpf, lut⟩).config.groups[k]? = some g')
    (hunclean : ¬ GroupClean c g) (hturn : ZeroHasTurn (reweighed c) g) :
    ¬ Isolated (rebalance env ⟨c, bpf, lut⟩).config g' := by
  intro hiso
  have hlist : ∃ w ∈ c.wans, g.Lists w := by
    by_contra hno
    exact hunclean fun h => absurd h hno
  have hne : c.wans.length ≠ 0 := by
    obtain ⟨w, hw, _⟩ := hlist
    exact (List.length_pos_of_mem hw).ne'
  have hreb := rebuiltFrom_rebalance hlic ⟨c, bpf, lut⟩ hne hg hg'
  obtain ⟨w, hget, husable, hnl, hmem⟩ := hres.zero_mem hunclean
  obtain ⟨w₀, rounds, hget₀, hmax, hword, hroom⟩ := hturn
  have hlt := hres.lt_of_mem hne
  have hact : w₀.isActive = true := by
    have hactive := (reweighed_activeIdx c 0).mpr ⟨w, hget, husable⟩
    obtain ⟨w', hget', hact'⟩ := ((reweighed c).activeIdx_iff 0).mp hactive
    obtain rfl := Option.some.inj (hget₀.symm.trans hget')
    exact hact'
  obtain ⟨i, hi⟩ := buildSingleMaglevRing_owns hlt hmem hget₀ hact
    (fun u hu w' hw' _ => hmax u hu w' hw') hword hroom
  have hslot := hiso (hreb.exists_lists.mpr hlist) i
  rw [hreb.listsIdx, hreb.ring (hres.wanCount_pos hlist), hi] at hslot
  obtain ⟨w', hget', hl⟩ := hslot
  obtain rfl := Option.some.inj (hget.symm.trans hget')
  exact hnl hl

/-- Names that denote nothing leave the ring as it was loaded, when there is no other name. -/
theorem ResolvedIn.ring_unlisted (hres : ResolvedIn c g) (hlic : env.licenseAuthorized = true)
    (hg : c.groups[k]? = some g)
    (hg' : (rebalance env ⟨c, bpf, lut⟩).config.groups[k]? = some g')
    (hnone : ¬ ∃ w ∈ c.wans, g.Lists w) : g'.maglevRing = g.maglevRing := by
  by_cases h0 : c.wans.length = 0
  · rw [rebalance_groups_of_no_wans hlic ⟨c, bpf, lut⟩ h0, hg] at hg'
    obtain rfl := Option.some.inj hg'
    rfl
  · rw [rebalance_groups hlic ⟨c, bpf, lut⟩ h0, List.getElem?_mapIdx, hg, Option.map_some] at hg'
    obtain rfl := Option.some.inj hg'
    unfold rebuildGroup
    by_cases hpos : g.wanCount > 0
    · rw [if_pos hpos, hres.ring]
      have hne : g.memberIndices ≠ [] := by
        intro hnil
        have hlen := g.length_memberIndices
        rw [hnil, List.length_nil] at hlen
        omega
      -- every slot holds a member, and every member is 0
      refine Vector.ext fun i hi => ?_
      rw [Vector.getElem_replicate]
      exact hres.eq_zero_of_mem hnone
        (buildSingleMaglevRing_mem (hres.lt_of_mem h0) hne ⟨i, hi⟩)
    · rw [if_neg hpos]

end

/-- Two uplinks, A and B, and a group with the given members. -/
def groupFile (names : String) : List Char :=
  '\x7b' :: "\"wans\":[\x7b\"name\":\"eth0\",\"label\":\"A\"\x7d,".toList ++
    "\x7b\"name\":\"eth1\",\"label\":\"B\"\x7d],".toList ++
    "\"groups\":[\x7b\"name\":\"g\",\"wans\":[".toList ++ names.toList ++ "]\x7d]\x7d".toList

def groupConfig (names : String) : Config := (configLoad (groupFile names)).getD {}

theorem configLoad_groupFile (names : String) :
    configLoad (groupFile names) = some (groupConfig names) := by
  have hne : groupFile names ≠ [] := List.cons_ne_nil _ _
  have hsome : (configLoad (groupFile names)).isSome = true := by
    rw [configLoad, if_neg hne]
    exact Option.isSome_some
  obtain ⟨c, hc⟩ := Option.isSome_iff_exists.mp hsome
  rw [groupConfig, hc, Option.getD_some]

/-- The manager that `config_load` and one rebalance leave for the file. -/
def groupCtx (names : String) : WanManagerCtx :=
  rebalance {} ⟨groupConfig names, none, Vector.replicate _ 0⟩

/-- The file's only group, before and after the rebalance. -/
theorem groupCtx_group (hwans : (groupConfig names).wans.length ≠ 0) (hlen : 0 < (groupConfig names).groups.length) :
    ∃ g ∈ (groupConfig names).groups, ∃ g', (groupConfig names).groups[0]? = some g ∧
      (groupCtx names).config.groups[0]? = some g' := by
  have hlen' : 0 < (groupCtx names).config.groups.length := by
    rw [groupCtx, rebalance_groups rfl ⟨groupConfig names, none, Vector.replicate _ 0⟩ hwans, List.length_mapIdx]
    exact hlen
  exact ⟨_, List.getElem_mem hlen, _, List.getElem?_eq_getElem hlen, List.getElem?_eq_getElem hlen'⟩

end FluxWAN
