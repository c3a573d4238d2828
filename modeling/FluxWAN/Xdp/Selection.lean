/-
  What the selection guarantees for ANY contents of the maps.

  Five ways lead to a WAN: a session, a session that is gone, an LPM route, a ring, and the hash when the
  ring names no row.  All but the first end in the health check, and the check ends in a scan over the 256
  rows; so with one eligible row in the table the packet gets an active WAN, and an eligible one unless it
  follows a session (`dispatch_eligible`, `selectWan_cases`).  Nothing about rings, routes or policy entries
  is needed for this.

  The session VALUES are another matter.  What the program makes itself names a row (`dispatch_lt`); but
  a hit in the shared tier is copied into the local one before anybody has looked at it.  To speak of it,
  the selection is written once more with a log of the values it hands to `bpf_map_update_elem`
  (`selectWanLogged`): a copy may be overwritten a few lines later, so the maps afterwards do not show it.
-/
import FluxWAN.Xdp.Stickiness

namespace FluxWAN.Xdp

open BpfMap

variable {m : Sessions} {cpu : Cpu} {v : SessionVal} {i : Nat}

/-! ## The selection with a log of its writes -/

/-- Step 4, and the values written on the way. -/
def Sessions.findLogged (m : Sessions) (cpu : Cpu) (key : FlowKey) :
    (Option SessionVal × Sessions) × List SessionVal :=
  if isDnsOrNtp key then ((none, m), [])
  else
    match m.localLru.lookup cpu key with
    | some v => ((some v, m), [])
    | none =>
      match m.stickyFlow.lookup key with
      | some v => ((some v, { m with localLru := m.localLru.update {} cpu key v }), [v])
      | none => ((none, m), [])

/-- Steps 4 and 5, and the values written on the way. -/
def selectWanLogged (t : Tables) (cpu : Cpu) (m : Sessions) (key : FlowKey) :
    (UInt32 × Sessions) × List SessionVal :=
  let ((sticky, m), log) := m.findLogged cpu key
  match judge t key sticky with
  | .hit wan => ((wan, m), log)
  | verdict =>
    let m := if verdict = .close ∨ verdict = .dead then m.evict key else m
    let wan := dispatch t key
    if !isDnsOrNtp key && !isClosing key then
      let newSess := newSession key wan
      -- one update per tier
      ((wan, m.write cpu key newSess), log ++ [newSess, newSess])
    else ((wan, m), log)

theorem Sessions.findLogged_fst (m : Sessions) (cpu : Cpu) (key : FlowKey) :
    (m.findLogged cpu key).1 = m.find cpu key := by
  unfold findLogged find
  rcases isDnsOrNtp key with _ | _
  · rcases m.localLru.lookup cpu key with _ | v
    · rcases m.stickyFlow.lookup key with _ | v <;> rfl
    · rfl
  · rfl

/-- The log changes nothing. -/
theorem selectWanLogged_fst (t : Tables) (m : Sessions) (key : FlowKey) :
    (selectWanLogged t cpu m key).1 = selectWan t cpu m key := by
  simp only [selectWanLogged, selectWan, ← m.findLogged_fst cpu key]
  rcases judge t key (m.findLogged cpu key).1.1 with w | _ | _ | _
  · rfl
  all_goals rcases !isDnsOrNtp key && !isClosing key with _ | _ <;> rfl

/-- The session values a packet writes. -/
def Packet.sessionWrites (p : Packet) (s : RouterState) : List SessionVal :=
  match parseFrame p.frame with
  | none => []
  | some key =>
    if pingsRouter p.tables key then []
    else (selectWanLogged p.tables p.cpu s.sessions key).2

theorem Packet.sessionWrites_of_has {p : Packet} (h : p.Has key) (s : RouterState) :
    p.sessionWrites s = (selectWanLogged p.tables p.cpu s.sessions key).2 := by
  obtain ⟨hparse, hping⟩ := h
  simp [Packet.sessionWrites, hparse, hping]

/-- A shared entry that is copied into the local tier unseen. -/
def Sessions.Copies (m : Sessions) (cpu : Cpu) (key : FlowKey) (v : SessionVal) : Prop :=
  isDnsOrNtp key = false ∧ m.localLru.lookup cpu key = none ∧ m.stickyFlow.lookup key = some v

theorem Sessions.mem_findLogged_iff : v ∈ (m.findLogged cpu key).2 ↔ m.Copies cpu key v := by
  unfold findLogged Copies
  by_cases hdns : isDnsOrNtp key = true
  · simp [hdns]
  · rcases hl : m.localLru.lookup cpu key with _ | u
    · rcases hs : m.stickyFlow.lookup key with _ | u
      · simp [hdns]
      · simp [hdns, eq_comm]
    · simp [hdns]

/-- What is written: copies, and new sessions. -/
theorem mem_selectWanLogged (h : v ∈ (selectWanLogged t cpu m key).2) :
    m.Copies cpu key v ∨ v = newSession key (dispatch t key) := by
  simp only [selectWanLogged] at h
  split at h
  · exact .inl (Sessions.mem_findLogged_iff.mp h)
  · split at h
    · rcases List.mem_append.mp h with h | h
      · exact .inl (Sessions.mem_findLogged_iff.mp h)
      · exact .inr (by simpa using h)
    · exact .inl (Sessions.mem_findLogged_iff.mp h)

/-- A copy is made whatever becomes of the session. -/
theorem Sessions.Copies.mem_selectWanLogged
    (h : m.Copies cpu key v) (t : Tables) : v ∈ (selectWanLogged t cpu m key).2 := by
  have hmem := Sessions.mem_findLogged_iff.mpr h
  simp only [selectWanLogged]
  split
  · exact hmem
  · split
    · exact List.mem_append_left _ hmem
    · exact hmem

/-! ## The WAN -/

section
variable {t : Tables} {key : FlowKey}

/-- The row of a WAN index is active. -/
def isUp (t : Tables) (i : Nat) : Bool := rowSatisfies t (fun e => e.isActive ≠ 0) i

theorem rowSatisfies_mono (hpq : ∀ e, p e = true → q e = true)
    (h : rowSatisfies t p i = true) : rowSatisfies t q i = true := by
  obtain ⟨e, hrow, he⟩ := (Option.any_eq_true p _).mp h
  exact (Option.any_eq_true q _).mpr ⟨e, hrow, hpq e he⟩

theorem isUp_of_isLive (h : isLive t i = true) : isUp t i = true :=
  rowSatisfies_mono (fun _ he => ((Bool.and_eq_true _ _).mp he).1) h

theorem isUp_of_isEligible (h : isEligible t i = true) : isUp t i = true :=
  rowSatisfies_mono
    (fun _ he => ((Bool.and_eq_true _ _).mp ((Bool.and_eq_true _ _).mp he).1).1) h

/-- The five ways meet in the health check, and the check finds the eligible row if there is one. -/
theorem Steers.eligible {w : UInt32} (h : Steers t key w) (hsome : ∃ i, isEligible t i = true) :
    isEligible t w.toNat = true := by
  obtain ⟨n, -, ⟨helig, rfl⟩ | ⟨-, hfirst, -⟩ | ⟨hnobody, -⟩⟩ := h
  · exact helig
  · exact hfirst
  · obtain ⟨i, hi⟩ := hsome
    rw [hnobody i] at hi
    cases hi

theorem dispatch_eligible (key : FlowKey) (hsome : ∃ i, isEligible t i = true) :
    isEligible t (dispatch t key).toNat = true :=
  (steers_iff.mpr rfl).eligible hsome

/-- The packet is served from the session it found. -/
def Served (t : Tables) (key : FlowKey) (found : Option SessionVal) : Prop :=
  isClosing key = false ∧ ∃ w, Keeps t found w

theorem judge_eq_hit (h : judge t key found = .hit w) : isClosing key = false ∧ Keeps t found w := by
  rcases hclose : isClosing key with _ | _
  · exact ⟨rfl, (judge_eq_hit_iff hclose).mp h⟩
  · -- a closing packet never follows its session
    exfalso
    unfold judge at h
    rw [hclose] at h
    split at h
    · cases h
    · split at h
      · split at h <;> cases h
      · cases h

/-- The WAN of a packet: that of the session that serves it, else what the tables give the flow. -/
theorem selectWan_cases (t : Tables) (m : Sessions) (key : FlowKey) :
    (isClosing key = false ∧ Keeps t (m.find cpu key).1 (selectWan t cpu m key).1) ∨
      ¬ Served t key (m.find cpu key).1 ∧ (selectWan t cpu m key).1 = dispatch t key := by
  rcases hj : judge t key (m.find cpu key).1 with w | _ | _ | _
  case hit =>
    refine .inl ?_
    have hwan : (selectWan t cpu m key).1 = w := by simp only [selectWan, hj]
    rw [hwan]
    exact judge_eq_hit hj
  all_goals
    refine .inr ⟨?_, by simp only [selectWan, hj]⟩
    rintro ⟨hopen, w, hkeeps⟩
    rw [(judge_eq_hit_iff hopen).mpr hkeeps] at hj
    cases hj

end

/-! ## Both together -/

/-- What the selection owes a packet. -/
structure SelectionSafe (p : Packet) (key : FlowKey) (s : RouterState) : Prop where
  /-- The WAN is active, … -/
  active : ∃ w, p.wan s = some w ∧ isUp p.tables w.toNat = true
  /-- … eligible unless a session serves the packet, … -/
  eligible : ¬ Served p.tables key (s.sessions.find p.cpu key).1 →
    ∃ w, p.wan s = some w ∧ isEligible p.tables w.toNat = true
  /-- … and every session value written names a row. -/
  written : ∀ v ∈ p.sessionWrites s, v.wanIdx.toNat < maxWans

/-- **When the selection is safe.**  For every packet that reaches it and every contents of the maps with
    an eligible row: exactly when the shared tier has no entry without a row that this packet copies. -/
theorem selectionSafe_iff (s : RouterState) (p : Packet) (key : FlowKey) (hp : p.Has key)
    (hsome : ∃ i, isEligible p.tables i = true) :
    SelectionSafe p key s ↔
      isDnsOrNtp key = true ∨ (s.sessions.localLru.lookup p.cpu key).isSome = true ∨
        ∀ v, s.sessions.stickyFlow.lookup key = some v → v.wanIdx.toNat < maxWans := by
  constructor
  · intro h
    by_contra hnot
    simp only [not_or, Bool.not_eq_true, not_forall, Nat.not_lt] at hnot
    obtain ⟨hdns, hlocal, v, hv, hge⟩ := hnot
    have hcopies : s.sessions.Copies p.cpu key v := ⟨hdns, by simpa using hlocal, hv⟩
    have hlt := h.written v (by
      rw [p.sessionWrites_of_has hp s]
      exact hcopies.mem_selectWanLogged p.tables)
    exact absurd hlt (Nat.not_lt.mpr hge)
  · intro hcond
    have hwan : p.wan s = some (selectWan p.tables p.cpu s.sessions key).1 :=
      (xdpRouterFunc_of_routed _ _ _ hp).1
    refine ⟨⟨_, hwan, ?_⟩, fun hnot => ⟨_, hwan, ?_⟩, ?_⟩
    · rcases selectWan_cases p.tables s.sessions key with ⟨-, v, -, hlive, hw⟩ | ⟨-, hw⟩
      · rw [← hw]
        exact isUp_of_isLive hlive
      · rw [hw]
        exact isUp_of_isEligible (dispatch_eligible key hsome)
    · rcases selectWan_cases p.tables s.sessions key with ⟨hopen, hkeeps⟩ | ⟨-, hw⟩
      · exact absurd ⟨hopen, _, hkeeps⟩ hnot
      · rw [hw]
        exact dispatch_eligible key hsome
    · intro v hv
      rw [p.sessionWrites_of_has hp s] at hv
      rcases mem_selectWanLogged hv with ⟨hdns, hlocal, hshared⟩ | rfl
      · rcases hcond with hdns' | hsomeLocal | hall
        · rw [hdns] at hdns'
          cases hdns'
        · rw [hlocal] at hsomeLocal
          cases hsomeLocal
        · exact hall v hshared
      · exact dispatch_lt p.tables key

/-- The router of `webFlow` with a session under its SYN key that was written elsewhere. -/
def preloaded (wanIdx : UInt32) : RouterState :=
  { sessions := { stickyFlow := fun key => if key = webFlow.openKey true then some { wanIdx } else none } }

theorem selectionSafe_iff_preloaded :
    SelectionSafe (webPacket 1 0 0x02) (webFlow.openKey true) (preloaded 1) ↔
      isDnsOrNtp (webFlow.openKey true) = true ∨
        ((preloaded 1).sessions.localLru.lookup 0 (webFlow.openKey true)).isSome = true ∨
        ∀ v, (preloaded 1).sessions.stickyFlow.lookup (webFlow.openKey true) = some v →
          v.wanIdx.toNat < maxWans :=
  selectionSafe_iff (preloaded 1) (webPacket 1 0 0x02) (webFlow.openKey true) webFlow_sends_syn.has
    ⟨1, by decide⟩

/-- A session for WAN 300 in the shared tier: the packet is dispatched, to an eligible WAN, but 300 has
    been written into the local tier. -/
theorem preloaded_not_selectionSafe :
    (webPacket 1 0 0x02).Has (webFlow.openKey true) ∧
      isEligible (webPacket 1 0 0x02).tables 1 = true ∧
      { wanIdx := 300 } ∈ (webPacket 1 0 0x02).sessionWrites (preloaded 300) ∧
      ¬ SelectionSafe (webPacket 1 0 0x02) (webFlow.openKey true) (preloaded 300) := by
  have hwritten : { wanIdx := 300 } ∈ (webPacket 1 0 0x02).sessionWrites (preloaded 300) := by
    decide
  refine ⟨webFlow_sends_syn.has, by decide, hwritten, ?_⟩
  intro h
  exact absurd (h.written _ hwritten) (by decide)

end FluxWAN.Xdp
