/-
  Sessions over whole packet histories.

  One key's row first: `Owner` says which WAN a packet of an open flow gets from what it finds and from
  the tables (`select_wan_iff`), and `select_seen_self` what the next packet on the same CPU finds.  Then
  histories: packets on any CPU, each under the tables of its time, and the kernel reclaiming entries in
  between.  A packet moves the row of its own key only (`Packet.row_next_of_not_has`), so what one packet
  keeps (`TierRow.Ok.select`) every reachable state has (`Reachable.row_ok`): nothing is ever stored under
  a key with FIN or RST, nor for DNS or NTP, and what is stored names a row of the WAN table.  `Goes` is the
  same as `Owner` for all packets, those that close their flow and those of DNS and NTP included.
-/
import FluxWAN.Xdp.Steering

namespace FluxWAN.Xdp

open BpfMap

/-! ## One packet on one row -/

/-- The session found is for a live WAN. -/
def Keeps (t : Tables) (found : Option SessionVal) (w : UInt32) : Prop :=
  ∃ v, found = some v ∧ isLive t v.wanIdx.toNat = true ∧ v.wanIdx = w

/-- The WAN of a packet of an open flow: that of its session while it is live, else where the tables
    steer the flow. -/
def Owner (t : Tables) (key : FlowKey) (found : Option SessionVal) (w : UInt32) : Prop :=
  Keeps t found w ∨ (∀ w', ¬ Keeps t found w') ∧ Steers t key w

/-- Only such keys are ever stored. -/
structure Storable (key : FlowKey) : Prop where
  notClosing : isClosing key = false
  notDns : isDnsOrNtp key = false

/-- An open flow follows its session exactly while the session's WAN is live. -/
theorem judge_eq_hit_iff (hopen : isClosing key = false) : judge t key found = .hit w ↔ Keeps t found w := by
  unfold Keeps judge
  rcases found with _ | v
  · simp
  · by_cases hlive : isLive t v.wanIdx.toNat = true
    · have hlt := rowSatisfies_lt hlive
      simp [hlive, hlt, hopen]
    · by_cases hlt : v.wanIdx.toNat < maxWans <;> simp [hlive, hlt]

namespace TierRow

variable {t : Tables} {cpu : Cpu} {key : FlowKey} {r : TierRow} {w : UInt32}

@[simp] theorem seen_empty : empty.seen cpu = none := rfl

theorem seen_fill (r : TierRow) : (r.fill cpu).seen cpu = r.seen cpu := by
  rcases r with ⟨_ | vals, _ | v⟩ <;> simp [fill, seen, localWrite]

theorem seen_write (r : TierRow) : (r.write cpu v).seen cpu = some v := by
  simp [write, seen, localWrite]

/-- The zero fill, seen from another CPU. -/
theorem seen_write_empty (h : cpu' ≠ cpu) : (empty.write cpu v).seen cpu' = some {} := by
  simp [write, seen, localWrite, empty, h]

theorem select_of_hit (hdns : isDnsOrNtp key = false) (h : judge t key (r.seen cpu) = .hit w) :
    r.select t cpu key = (w, r.fill cpu) := by
  simp [select, hdns, h]

/-- Without a live session an open flow is dispatched, and the session written — over nothing, unless
    the row still shows a session that names no WAN row. -/
theorem select_of_not_hit (hkey : Storable key) (h : ∀ w, judge t key (r.seen cpu) ≠ .hit w) :
    ∃ r' : TierRow, (r' = empty ∨ r' = r.fill cpu ∧ judge t key (r.seen cpu) = .miss) ∧
      r.select t cpu key = (dispatch t key, r'.write cpu (newSession key (dispatch t key))) := by
  rcases hj : judge t key (r.seen cpu) with w | _ | _ | _
  case hit => exact absurd hj (h w)
  case close => exact ⟨empty, .inl rfl, by simp [select, hkey.notDns, hkey.notClosing, hj]⟩
  case dead => exact ⟨empty, .inl rfl, by simp [select, hkey.notDns, hkey.notClosing, hj]⟩
  case miss =>
    exact ⟨r.fill cpu, .inr ⟨rfl, rfl⟩, by simp [select, hkey.notDns, hkey.notClosing, hj]⟩

/-- **The WAN of one packet.** -/
theorem select_wan_iff (hkey : Storable key) :
    (r.select t cpu key).1 = w ↔ Owner t key (r.seen cpu) w := by
  unfold Owner
  simp only [← judge_eq_hit_iff hkey.notClosing]
  by_cases h : ∃ w', judge t key (r.seen cpu) = .hit w'
  · obtain ⟨w', hw'⟩ := h
    rw [select_of_hit hkey.notDns hw', hw']
    simp
  · obtain ⟨r', -, hr'⟩ := select_of_not_hit hkey (not_exists.mp h)
    rw [hr', steers_iff]
    simp only [not_exists.mp h, false_or, not_false_eq_true, implies_true, true_and]
    exact eq_comm

/-- **What the next packet on the same CPU finds**: the WAN of this one. -/
theorem select_seen_self (hkey : Storable key) :
    ∃ v, (r.select t cpu key).2.seen cpu = some v ∧ v.wanIdx = (r.select t cpu key).1 := by
  by_cases h : ∃ w, judge t key (r.seen cpu) = .hit w
  · obtain ⟨w, hw⟩ := h
    obtain ⟨v, hv, -, rfl⟩ := (judge_eq_hit_iff hkey.notClosing).mp hw
    rw [select_of_hit hkey.notDns hw]
    exact ⟨v, by rw [seen_fill, hv], rfl⟩
  · obtain ⟨r', -, hr'⟩ := select_of_not_hit hkey (not_exists.mp h)
    rw [hr']
    exact ⟨_, seen_write .., rfl⟩

/-- The row shows WAN `w` to `cpu`. -/
def Shows (r : TierRow) (cpu : Cpu) (w : UInt32) : Prop := ∃ v, r.seen cpu = some v ∧ v.wanIdx = w

/-- While its WAN is live, a row that shows `w` selects `w`. -/
theorem Shows.select_eq (hkey : Storable key) (h : r.Shows cpu w) (hlive : isLive t w.toNat = true) :
    (r.select t cpu key).1 = w := by
  obtain ⟨v, hv, rfl⟩ := h
  rw [select_wan_iff hkey]
  exact .inl ⟨v, hv, hlive, rfl⟩

end TierRow

/-! ## Packets -/

/-- A packet with the circumstances of its processing: the tables as they are then, the CPU, and how far
    the driver can grow the frame. -/
structure Packet where
  tables : Tables
  tailroom : Nat := 0
  cpu : Cpu
  frame : List UInt8

namespace Packet

def wan (p : Packet) (s : RouterState) : Option UInt32 :=
  (xdpRouterFunc p.tables p.tailroom p.cpu s p.frame).wan

def next (p : Packet) (s : RouterState) : RouterState :=
  (xdpRouterFunc p.tables p.tailroom p.cpu s p.frame).state

/-- The packet reaches the selection under this key. -/
def Has (p : Packet) (key : FlowKey) : Prop := Routed p.tables p.frame key

variable {p : Packet} {s : RouterState} {key : FlowKey}

theorem wan_eq (h : p.Has key) :
    p.wan s = some ((s.sessions.row key).select p.tables p.cpu key).1 :=
  (xdpRouterFunc_row _ _ _ h key).1

theorem row_next (h : p.Has key) :
    (p.next s).sessions.row key = ((s.sessions.row key).select p.tables p.cpu key).2 := by
  have := (xdpRouterFunc_row p.tailroom p.cpu s h key).2
  rwa [if_pos rfl] at this

/-- **Frame lemma**: only the row of the packet's own key moves. -/
theorem row_next_of_not_has (h : ¬ p.Has key') : (p.next s).sessions.row key' = s.sessions.row key' := by
  by_cases hr : ∃ key, p.Has key
  · obtain ⟨key, hkey⟩ := hr
    have hne : key' ≠ key := by
      rintro rfl
      exact h hkey
    have := (xdpRouterFunc_row p.tailroom p.cpu s hkey key').2
    rwa [if_neg hne] at this
  · have := (xdpRouterFunc_of_not_routed p.tailroom p.cpu s (not_exists.mp hr)).2
    show (xdpRouterFunc _ _ _ _ _).state.sessions.row key' = _
    rw [this]

theorem Has.unique (h : p.Has key) (h' : p.Has key') : key' = key :=
  Option.some.inj (h'.1.symm.trans h.1)

theorem row_next_of_ne (h : p.Has key) (hne : key' ≠ key) : (p.next s).sessions.row key' = s.sessions.row key' :=
  row_next_of_not_has fun h' => hne (h.unique h')

theorem wan_eq_some_iff (h : p.Has key) (hkey : Storable key) :
    p.wan s = some w ↔ Owner p.tables key ((s.sessions.row key).seen p.cpu) w := by
  rw [wan_eq h, Option.some_inj]
  exact TierRow.select_wan_iff hkey

/-- The packet's WAN is what its CPU finds next. -/
theorem shows_next (h : p.Has key) (hkey : Storable key) (hw : p.wan s = some w) :
    ((p.next s).sessions.row key).Shows p.cpu w := by
  rw [wan_eq h, Option.some_inj] at hw
  rw [row_next h, ← hw]
  exact TierRow.select_seen_self hkey

end Packet

/-! ## Where a packet goes -/

/-- The WAN of a packet that does not close its flow, DNS and NTP included: for these nothing is looked up. -/
theorem Packet.wan_eq_some_iff_find {p : Packet} {s : RouterState} (hp : p.Has key) (hopen : isClosing key = false) :
    p.wan s = some w ↔ Owner p.tables key (s.sessions.find p.cpu key).1 w := by
  by_cases hdns : isDnsOrNtp key = true
  · have hfind : (s.sessions.find p.cpu key).1 = none := by simp [Sessions.find, hdns]
    rw [Packet.wan_eq hp, hfind, Option.some_inj]
    simp only [TierRow.select, hdns, if_true, Owner, Keeps, reduceCtorEq, false_and, exists_false,
      not_false_eq_true, implies_true, true_and, false_or, steers_iff]
    exact eq_comm
  · rw [Bool.not_eq_true] at hdns
    rw [Packet.wan_eq_some_iff hp ⟨hopen, hdns⟩, Sessions.find_fst _ _ _ hdns]

/-- The WAN of a packet, from what it finds and the tables: one that closes its flow follows no session. -/
def Goes (t : Tables) (key : FlowKey) (found : Option SessionVal) (w : UInt32) : Prop :=
  if isClosing key then Steers t key w else Owner t key found w

theorem Packet.wan_eq_some_iff_goes {p : Packet} {s : RouterState} (hp : p.Has key)
    : p.wan s = some w ↔ Goes p.tables key (s.sessions.find p.cpu key).1 w := by
  by_cases hclosing : isClosing key = true
  · have hdispatch : ((s.sessions.row key).select p.tables p.cpu key).1 = dispatch p.tables key := by
      unfold TierRow.select
      split
      · rfl
      · split
        · rename_i wan hjudge
          unfold judge at hjudge
          split at hjudge
          · cases hjudge
          · simp only [hclosing, if_true] at hjudge
            split at hjudge
            · split at hjudge <;> cases hjudge
            · cases hjudge
        all_goals rfl
    rw [Packet.wan_eq hp, hdispatch, Goes, if_pos hclosing, steers_iff, Option.some_inj, eq_comm]
  · rw [Goes, if_neg hclosing, Packet.wan_eq_some_iff_find hp (by simpa using hclosing)]

/-! ## Histories -/

/-- The state after a history. -/
def runState (s : RouterState) (ps : List Packet) : RouterState := ps.foldl (fun s p => p.next s) s

/-- The WANs its packets get. -/
def runWans : RouterState → List Packet → List (Option UInt32)
  | _, [] => []
  | s, p :: ps => p.wan s :: runWans (p.next s) ps

theorem runState_row_of_not_has :
    ∀ {s : RouterState}, (∀ p ∈ ps, ¬ p.Has key) →
      (runState s ps).sessions.row key = s.sessions.row key := by
  induction ps with
  | nil => exact fun _ => rfl
  | cons p ps ih =>
    intro s h
    obtain ⟨hp, hps⟩ := List.forall_mem_cons.mp h
    show (runState (p.next s) ps).sessions.row key = _
    rw [ih hps, Packet.row_next_of_not_has hp]

/-- The kernel reclaims entries of the two LRU maps. -/
def RouterState.reclaim (s : RouterState) (goneLocal goneShared : FlowKey → Bool) : RouterState :=
  { s with
    sessions :=
      { localLru := s.sessions.localLru.evict goneLocal
        stickyFlow := s.sessions.stickyFlow.evict goneShared } }

/-- The states of a router that started with empty maps. -/
inductive Reachable : RouterState → Prop where
  | init : Reachable {}
  | packet {s : RouterState} (p : Packet) : Reachable s → Reachable (p.next s)
  | reclaim {s : RouterState} (goneLocal goneShared : FlowKey → Bool) :
      Reachable s → Reachable (s.reclaim goneLocal goneShared)

/-! ## What is stored -/

/-- What one row holds in every reachable state: something only under a storable key, and always the
    index of a WAN row. -/
structure TierRow.Ok (key : FlowKey) (r : TierRow) : Prop where
  storable : r = TierRow.empty ∨ Storable key
  onCpus_lt : ∀ vals, r.onCpus = some vals → ∀ c, (vals c).wanIdx.toNat < maxWans
  shared_lt : ∀ v, r.shared = some v → v.wanIdx.toNat < maxWans

namespace TierRow

variable {t : Tables} {cpu : Cpu} {key : FlowKey} {r : TierRow}

theorem ok_empty : empty.Ok key where
  storable := .inl rfl
  onCpus_lt _ h := nomatch h
  shared_lt _ h := nomatch h

theorem Ok.localWrite_lt (h : r.Ok key) {v : SessionVal} (hv : v.wanIdx.toNat < maxWans) (c : Cpu) :
    (r.localWrite cpu v c).wanIdx.toNat < maxWans := by
  unfold localWrite
  split
  · exact hv
  · rcases hr : r.onCpus with _ | vals
    · exact (by decide : (0 : Nat) < 256)
    · exact h.onCpus_lt vals hr c

theorem Ok.write (h : r.Ok key) (hkey : Storable key) {v : SessionVal} (hv : v.wanIdx.toNat < maxWans) :
    (r.write cpu v).Ok key where
  storable := .inr hkey
  onCpus_lt vals hvals := by
    obtain rfl := Option.some.inj hvals
    exact h.localWrite_lt hv
  shared_lt v' hv' := by
    obtain rfl := Option.some.inj hv'
    exact hv

theorem Ok.fill (h : r.Ok key) : (r.fill cpu).Ok key := by
  unfold TierRow.fill
  split
  case h_1 v _ hv =>
    have hkey : Storable key := by
      rcases h.storable with rfl | hkey
      · cases hv
      · exact hkey
    refine ⟨.inr hkey, ?_, ?_⟩
    · rintro vals hvals
      obtain rfl := Option.some.inj hvals
      exact h.localWrite_lt (h.shared_lt v hv)
    · rintro v' hv'
      obtain rfl := Option.some.inj hv'
      exact h.shared_lt v hv
  case h_2 => exact h

theorem Ok.seen_lt (h : r.Ok key) {v : SessionVal} (hv : r.seen cpu = some v) :
    v.wanIdx.toNat < maxWans := by
  unfold seen at hv
  rcases hr : r.onCpus with _ | vals
  · rw [hr] at hv
    exact h.shared_lt v hv
  · rw [hr] at hv
    obtain rfl := Option.some.inj hv
    exact h.onCpus_lt vals hr cpu

theorem eq_empty_of_seen_eq_none (h : r.seen cpu = none) : r = empty := by
  rcases r with ⟨_ | vals, _ | v⟩
  · rfl
  all_goals simp [seen] at h

/-- One packet keeps the row in order. -/
theorem Ok.select (h : r.Ok key) : (r.select t cpu key).2.Ok key := by
  have hnew : (newSession key (dispatch t key)).wanIdx.toNat < maxWans := dispatch_lt t key
  unfold TierRow.select
  split
  · exact h
  · rename_i hdns
    -- what is written is written under a storable key
    have hkey : isClosing key ≠ true → Storable key := fun hc =>
      ⟨by simpa using hc, by simpa using hdns⟩
    split
    · exact h.fill
    · split
      · exact ok_empty
      · exact ok_empty.write (hkey ‹_›) hnew
    · split
      · exact ok_empty
      · exact ok_empty.write (hkey ‹_›) hnew
    · split
      · exact h.fill
      · exact h.fill.write (hkey ‹_›) hnew

/-- A flow that finds no live session gets a fresh row. -/
theorem Ok.select_new (h : r.Ok key) (hkey : Storable key)
    (hnone : ∀ w, ¬ Keeps t (r.seen cpu) w) :
    r.select t cpu key = (dispatch t key, empty.write cpu (newSession key (dispatch t key))) := by
  have hnot : ∀ w, judge t key (r.seen cpu) ≠ .hit w := by
    intro w hw
    exact hnone w ((judge_eq_hit_iff hkey.notClosing).mp hw)
  obtain ⟨r', rfl | ⟨rfl, hmiss⟩, hsel⟩ := select_of_not_hit hkey hnot
  · exact hsel
  · -- a stored session always names a row, so a miss means that there is none
    have hseen : r.seen cpu = none := by
      rcases hv : r.seen cpu with _ | v
      · rfl
      · have hlt := h.seen_lt hv
        rw [hv, judge, if_pos hlt, hkey.notClosing] at hmiss
        split at hmiss <;> simp at hmiss
    obtain rfl := eq_empty_of_seen_eq_none hseen
    exact hsel

/-- A closing packet that finds nothing leaves nothing. -/
theorem select_empty_of_closing (hclose : isClosing key = true) :
    (empty.select t cpu key).2 = empty := by
  unfold select
  split
  · rfl
  · simp only [seen_empty, judge]
    rfl

end TierRow

/-- **In every reachable state every row is in order.** -/
theorem Reachable.row_ok {s : RouterState} (h : Reachable s) (key : FlowKey) :
    (s.sessions.row key).Ok key := by
  induction h with
  | init => exact TierRow.ok_empty
  | @packet s p _ ih =>
    by_cases hp : p.Has key
    · rw [Packet.row_next hp]
      exact ih.select
    · rwa [Packet.row_next_of_not_has hp]
  | @reclaim s goneLocal goneShared _ ih =>
    constructor
    · rcases ih.storable with hempty | hkey
      · left
        have hl : s.sessions.localLru key = none := congrArg TierRow.onCpus hempty
        have hs : s.sessions.stickyFlow key = none := congrArg TierRow.shared hempty
        simp [RouterState.reclaim, Sessions.row, LruHash.evict, LruPercpuHash.evict, hl, hs, TierRow.empty]
      · exact .inr hkey
    · intro vals hvals
      simp only [RouterState.reclaim, Sessions.row, LruPercpuHash.evict] at hvals
      split at hvals
      · cases hvals
      · exact ih.onCpus_lt vals hvals
    · intro v hv
      simp only [RouterState.reclaim, Sessions.row, LruHash.evict] at hv
      split at hv
      · cases hv
      · exact ih.shared_lt v hv

end FluxWAN.Xdp
