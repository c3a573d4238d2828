/-
  Address lists do not get in each other's way, as long as their kernel names differ (`src/net_apply.c`:
  `sanitize_set_name`, `net_apply_address_lists`).

  Lists are told apart by name, kernel objects by what the code makes of the name: folded to lower case, other
  characters replaced, cut to 25 characters for the set and to 20 for the subchain.  Two lists whose set names
  coincide share one set, and the later one's entries are in it for both; two lists that balance over groups and
  whose subchain names coincide share one subchain, and the later one's members are in it for both.  Apart from that
  every list's commands touch its own objects only, in any kernel state to start from (`lists_isolated_iff`).
-/
import FluxWAN.NetApply

namespace FluxWAN

open CString Netfilter

/-! ## Names -/

/-- The set of a list. -/
def AddressList.setName (al : AddressList) : CStr := sanitizeSetName al.name

/-- The subchain of a list. -/
def AddressList.subchain (al : AddressList) : CStr := subchainName al.setName

/-- No set is another list's temporary set. -/
theorem setName_ne_tmpSetName (al : AddressList) (s : CStr) : al.setName ≠ tmpSetName s := by
  intro h
  have hhead : some 'f' = some 't' := congrArg List.head? h
  exact absurd hhead (by decide)

/-- No subchain is the main chain. -/
theorem subchain_ne_addrlistChain (s : CStr) : subchainName s ≠ addrlistChain := by
  intro h
  have hsecond : some 'W' = some 'L' := congrArg (fun l : CStr => l[1]?) h
  exact absurd hsecond (by decide)

/-! ## What a list's rules are and do -/

/-- A list that balances over several members of a group. -/
def Steering.IsBalanced : Steering → Prop
  | .balanced _ => True
  | _ => False

/-- The rules of FLUXWAN_ADDRLIST that belong to a list. -/
def steerRules (c : Config) (al : AddressList) : List (Rule CStr) :=
  match steering c al with
  | .nowhere => []
  | .direct wan => directRules al.setName wan
  | .balanced _ => [{ matchSet := some al.setName, target := .jump al.subchain }]

/-- The rules mark packets for members of the group only. -/
def MarksWithin (grp : WanGroup) (rs : List (Rule CStr)) : Prop :=
  ∀ r ∈ rs, ∀ v, r.target = .setMark v → ∃ i ∈ grp.memberIndices, v = fwmark i.toNat

/-- The commands touch neither the set nor the subchain of the list. -/
structure Spares (c : Config) (al : AddressList) (cmds : List (Cmd CStr CStr)) : Prop where
  set : ∀ cmd ∈ cmds, cmd.touchesSet al.setName = false
  subchain : (steering c al).IsBalanced → ∀ cmd ∈ cmds, cmd.touchesChain al.subchain = false

/-- What the lists may expect of each other. -/
structure ListsIsolated (c : FluxwanConfig) (resolve : CStr → List CStr) (k : Kernel CStr CStr) : Prop where
  /-- Every list's own steering rules are there, in the order of the lists. -/
  steering : k.chains addrlistChain = some (skipMarked :: c.addressLists.flatMap (steerRules c.core))
  /-- The set they match on holds the list's own entries. -/
  content : ∀ al ∈ c.addressLists, ∃ es, k.sets al.setName = some es ∧ ∀ e, e ∈ es ↔ e ∈ al.elements resolve
  /-- The rules of a list that targets a group distribute over that group's members. -/
  members : ∀ al ∈ c.addressLists, al.targetType ≠ "wan".toList →
    ∀ grp, c.core.groups.find? al.targetsGroup = some grp →
      MarksWithin grp (steerRules c.core al) ∧
      ∀ ch, { matchSet := some al.setName, target := .jump ch } ∈ steerRules c.core al →
        ∃ rs, k.chains ch = some rs ∧ MarksWithin grp rs
  /-- No list's commands touch another list's set or subchain. -/
  apart : c.addressLists.Pairwise fun al al' =>
    Spares c.core al (addressListCmds c.core resolve al') ∧ Spares c.core al' (addressListCmds c.core resolve al)

/-- Kernel names do not coincide where it matters. -/
def NamesApart (c : Config) (al al' : AddressList) : Prop :=
  al.setName ≠ al'.setName ∧
    ((steering c al).IsBalanced → (steering c al').IsBalanced → al.subchain ≠ al'.subchain)

section
variable {c : Config} {resolve : CStr → List CStr} {al al' : AddressList}

/-- A list that takes part has the commands for its set and for its rules. -/
theorem addressListCmds_eq (h : al.enabled = true ∧ al.entries ≠ []) :
    addressListCmds c resolve al = replaceSet al.setName (tmpSetName al.setName) (al.elements resolve) ++
      steeringCmds al.setName (steering c al) := if_pos h

theorem touchesSet_steeringCmds (s x : CStr) : ∀ cmd ∈ steeringCmds s st, cmd.touchesSet x = false := by
  intro cmd hcmd
  cases st with
  | nowhere => cases hcmd
  | direct wan =>
    obtain ⟨r, -, rfl⟩ := List.mem_map.mp hcmd
    rfl
  | balanced members =>
    rcases List.mem_append.mp hcmd with hcmd | hcmd
    · simp only [List.mem_cons, List.not_mem_nil, or_false] at hcmd
      rcases hcmd with rfl | rfl | rfl <;> rfl
    · obtain ⟨r, -, rfl⟩ := List.mem_map.mp hcmd
      rfl

theorem touchesChain_steeringCmds {st : Steering} (hmain : ch ≠ addrlistChain)
    (hsub : st.IsBalanced → ch ≠ subchainName s) : ∀ cmd ∈ steeringCmds s st, cmd.touchesChain ch = false := by
  intro cmd hcmd
  cases st with
  | nowhere => cases hcmd
  | direct wan =>
    obtain ⟨r, -, rfl⟩ := List.mem_map.mp hcmd
    exact decide_eq_false hmain
  | balanced members =>
    have hsub' := hsub trivial
    rcases List.mem_append.mp hcmd with hcmd | hcmd
    · simp only [List.mem_cons, List.not_mem_nil, or_false] at hcmd
      rcases hcmd with rfl | rfl | rfl
      · exact decide_eq_false hsub'
      · exact decide_eq_false hsub'
      · exact decide_eq_false hmain
    · obtain ⟨r, -, rfl⟩ := List.mem_map.mp hcmd
      exact decide_eq_false hsub'

/-- Different names: a list's commands spare the other list. -/
theorem spares_of_apart (h : NamesApart c al al') : Spares c al (addressListCmds c resolve al') := by
  by_cases hpart : al'.enabled = true ∧ al'.entries ≠ []
  · rw [addressListCmds_eq hpart]
    constructor
    · refine fun cmd hcmd => (List.mem_append.mp hcmd).elim ?_ ?_
      · exact touchesSet_replaceSet h.1 (setName_ne_tmpSetName al _) cmd
      · exact touchesSet_steeringCmds _ _ cmd
    · intro hbal
      refine fun cmd hcmd => (List.mem_append.mp hcmd).elim ?_ ?_
      · exact touchesChain_replaceSet al.subchain cmd
      · exact touchesChain_steeringCmds (subchain_ne_addrlistChain _) (h.2 hbal) cmd
  · have hnone : addressListCmds c resolve al' = [] := if_neg hpart
    rw [hnone]
    exact ⟨fun cmd hcmd => absurd hcmd List.not_mem_nil, fun _ cmd hcmd => absurd hcmd List.not_mem_nil⟩

/-- Coinciding names: they do not. -/
theorem apart_of_spares (hpart : al'.enabled = true ∧ al'.entries ≠ [])
    (h : Spares c al (addressListCmds c resolve al')) : NamesApart c al al' := by
  rw [addressListCmds_eq hpart] at h
  constructor
  · intro hsame
    have hcreate := h.set (.createSet al'.setName) (List.mem_append_left _ (by simp [replaceSet]))
    exact of_decide_eq_false hcreate hsame
  · intro hbal hbal' hsame
    have hflush := h.subchain hbal (.flushChain al'.subchain) (List.mem_append_right _ ?_)
    · exact of_decide_eq_false hflush hsame
    · cases hst : steering c al' with
      | nowhere => rw [hst] at hbal'; exact hbal'.elim
      | direct wan => rw [hst] at hbal'; exact hbal'.elim
      | balanced members => exact List.mem_append_left _ List.mem_cons_self

end

/-! ## What a list's commands leave behind -/

section
variable {c : Config} {resolve : CStr → List CStr} {al : AddressList} (k : Kernel CStr CStr)

theorem own_set (hpart : al.enabled = true ∧ al.entries ≠ []) :
    ∃ es, (execAll k (addressListCmds c resolve al)).sets al.setName = some es ∧
      ∀ e, e ∈ es ↔ e ∈ al.elements resolve := by
  obtain ⟨es, hes, hiff⟩ := execAll_replaceSet (setName_ne_tmpSetName al al.setName) k (al.elements resolve)
  refine ⟨es, ?_, hiff⟩
  rw [addressListCmds_eq hpart, execAll_concat, execAll_sets _ (touchesSet_steeringCmds _ _), hes]

theorem accepts_weightedRules (inIface : Option CStr) (cands : List Candidate) : ∀ remaining : UInt32,
    ∀ r ∈ weightedRules inIface remaining cands, k.accepts r = true := by
  induction cands with
  | nil => exact fun _ r hr => absurd hr List.not_mem_nil
  | cons x cands ih =>
    intro remaining
    rw [weightedRules]
    split
    · exact List.forall_mem_cons.mpr ⟨rfl, ih _⟩
    · exact List.forall_mem_cons.mpr ⟨rfl, ih _⟩

theorem accepts_subchainRules (members : List (Nat × UInt32)) : ∀ r ∈ subchainRules members, k.accepts r = true := by
  intro r hr
  rcases List.mem_append.mp hr with hr | hr
  · exact accepts_weightedRules k _ _ _ r hr
  · rw [List.mem_singleton.mp hr]
    rfl

theorem own_subchain (hpart : al.enabled = true ∧ al.entries ≠ []) (hst : steering c al = .balanced members) :
    (execAll k (addressListCmds c resolve al)).chains al.subchain = some (subchainRules members) := by
  rw [addressListCmds_eq hpart, execAll_concat, hst]
  generalize execAll k _ = k₁
  show (execAll k₁ ([Cmd.flushChain al.subchain, Cmd.newChain al.subchain] ++
    [Cmd.append addrlistChain _] ++ (subchainRules members).map (Cmd.append al.subchain))).chains al.subchain = _
  rw [execAll_concat, execAll_concat]
  have hfresh := execAll_freshChain k₁ al.subchain
  generalize execAll k₁ [Cmd.flushChain al.subchain, Cmd.newChain al.subchain] = k₂ at hfresh ⊢
  show _ = some ([] ++ subchainRules members)
  refine execAll_append (subchainRules members) ?_ (accepts_subchainRules _ members)
  rw [execAll_chains _ fun cmd hcmd => ?_, hfresh]
  rw [List.mem_singleton.mp hcmd]
  exact decide_eq_false (subchain_ne_addrlistChain al.setName)

/-- The list's own rules are appended to the main chain. -/
theorem own_steering (hpart : al.enabled = true ∧ al.entries ≠ []) (hmain : k.chains addrlistChain = some rs) :
    (execAll k (addressListCmds c resolve al)).chains addrlistChain = some (rs ++ steerRules c al) := by
  obtain ⟨es, hes, -⟩ := execAll_replaceSet (setName_ne_tmpSetName al al.setName) k (al.elements resolve)
  have hmain' := (execAll_chains (replaceSet al.setName (tmpSetName al.setName) (al.elements resolve))
    (k := k) (touchesChain_replaceSet addrlistChain)).trans hmain
  rw [addressListCmds_eq hpart, execAll_concat]
  generalize execAll k (replaceSet _ _ _) = k₁ at hes hmain' ⊢
  unfold steerRules
  cases hst : steering c al with
  | nowhere =>
    show k₁.chains addrlistChain = some (rs ++ [])
    rw [hmain', List.append_nil]
  | direct wan =>
    refine execAll_append _ hmain' fun r hr => ?_
    -- the set that the rules match on is there
    simp only [directRules, List.mem_cons, List.not_mem_nil, or_false] at hr
    rcases hr with rfl | rfl <;> simp [Kernel.accepts, hes]
  | balanced members =>
    show (execAll k₁ ([Cmd.flushChain al.subchain, Cmd.newChain al.subchain] ++
      [{ matchSet := some al.setName, target := .jump al.subchain }].map (Cmd.append addrlistChain) ++
        (subchainRules members).map (Cmd.append al.subchain))).chains addrlistChain = _
    have hne : addrlistChain ≠ al.subchain := fun h => subchain_ne_addrlistChain _ h.symm
    rw [execAll_concat, execAll_concat]
    have hfresh := execAll_freshChain k₁ al.subchain
    have hsets : (execAll k₁ [Cmd.flushChain al.subchain, Cmd.newChain al.subchain]).sets al.setName = some es := by
      rw [execAll_sets _ fun cmd hcmd => ?_, hes]
      simp only [List.mem_cons, List.not_mem_nil, or_false] at hcmd
      rcases hcmd with rfl | rfl <;> rfl
    have hmain₂ : (execAll k₁ [Cmd.flushChain al.subchain, Cmd.newChain al.subchain]).chains addrlistChain = some rs := by
      rw [execAll_chains _ fun cmd hcmd => ?_, hmain']
      simp only [List.mem_cons, List.not_mem_nil, or_false] at hcmd
      rcases hcmd with rfl | rfl <;> exact decide_eq_false hne
    generalize execAll k₁ [Cmd.flushChain al.subchain, Cmd.newChain al.subchain] = k₂ at hfresh hsets hmain₂ ⊢
    rw [execAll_chains ((subchainRules members).map _) fun cmd hcmd => ?_, execAll_append _ hmain₂ fun r hr => ?_]
    · rw [List.mem_singleton.mp hr]
      simp [Kernel.accepts, hsets, hfresh]
    · obtain ⟨r, -, rfl⟩ := List.mem_map.mp hcmd
      exact decide_eq_false hne

end

/-! ## Marks -/

theorem mem_weightedRules : ∀ {remaining : UInt32} {r : Rule CStr},
    r ∈ weightedRules inIface remaining cands → ∃ x ∈ cands, r.target = .setMark (fwmark x.wan) := by
  induction cands with
  | nil => exact fun hr => absurd hr List.not_mem_nil
  | cons x cands ih =>
    intro remaining r hr
    have hcases : r.target = .setMark (fwmark x.wan) ∨ ∃ remaining', r ∈ weightedRules inIface remaining' cands := by
      rw [weightedRules] at hr
      split at hr
      · exact (List.mem_cons.mp hr).imp (fun h => by rw [h]; rfl) fun h => ⟨_, h⟩
      · exact (List.mem_cons.mp hr).imp (fun h => by rw [h]; rfl) fun h => ⟨_, h⟩
    rcases hcases with htarget | ⟨remaining', hr⟩
    · exact ⟨x, List.mem_cons_self, htarget⟩
    · obtain ⟨y, hy, htarget⟩ := ih hr
      exact ⟨y, List.mem_cons_of_mem x hy, htarget⟩

section
variable {c : Config} {al : AddressList} {grp : WanGroup}

theorem marksWithin_subchainRules : MarksWithin grp (subchainRules (c.activeMembers grp)) := by
  intro r hr v htarget
  rcases List.mem_append.mp hr with hr | hr
  · obtain ⟨x, hx, hmark⟩ := mem_weightedRules hr
    have hshare : x.share ∈ c.activeMembers grp := by
      rw [← memberCandidates_share (c.activeMembers grp)]
      exact List.mem_map_of_mem hx
    obtain ⟨i, hi, w, -, -, heq⟩ := mem_activeMembers hshare
    refine ⟨i, hi, ?_⟩
    rw [hmark] at htarget
    rw [← Target.setMark.inj htarget, (Prod.mk.inj heq).1]
  · rw [List.mem_singleton.mp hr] at htarget
    cases htarget

/-- The rules that a list with a group target has in the main chain. -/
theorem marksWithin_steerRules (htype : al.targetType ≠ "wan".toList)
    (hfind : c.groups.find? al.targetsGroup = some grp) : MarksWithin grp (steerRules c al) := by
  intro r hr v htarget
  unfold steerRules at hr
  rcases steering_group htype hfind with hst | ⟨m, hm, hst⟩ | ⟨-, hst⟩
  · rw [hst] at hr
    cases hr
  · rw [hst] at hr
    obtain ⟨i, hi, w, -, -, rfl⟩ := mem_activeMembers hm
    simp only [directRules, List.mem_cons, List.not_mem_nil, or_false] at hr
    rcases hr with rfl | rfl
    · exact ⟨i, hi, (Target.setMark.inj htarget).symm⟩
    · cases htarget
  · rw [hst] at hr
    rw [List.mem_singleton.mp hr] at htarget
    cases htarget

/-- A list that jumps jumps to its own subchain, and is balanced. -/
theorem jump_of_mem_steerRules (htype : al.targetType ≠ "wan".toList)
    (hfind : c.groups.find? al.targetsGroup = some grp)
    (h : { matchSet := some al.setName, target := .jump ch } ∈ steerRules c al) :
    ch = al.subchain ∧ steering c al = .balanced (c.activeMembers grp) := by
  unfold steerRules at h
  rcases steering_group htype hfind with hst | ⟨m, -, hst⟩ | ⟨-, hst⟩
  · rw [hst] at h
    cases h
  · rw [hst] at h
    simp [directRules] at h
  · rw [hst] at h
    refine ⟨?_, hst⟩
    simpa using List.mem_singleton.mp h

end

/-! ## All lists -/

section
variable {c : Config} {resolve : CStr → List CStr}

theorem steering_lists (lists : List AddressList) (hpart : ∀ al ∈ lists, al.enabled = true ∧ al.entries ≠ []) :
    ∀ {k : Kernel CStr CStr} {rs : List (Rule CStr)}, k.chains addrlistChain = some rs →
      (execAll k (lists.flatMap (addressListCmds c resolve))).chains addrlistChain =
        some (rs ++ lists.flatMap (steerRules c)) := by
  induction lists with
  | nil => exact fun {k rs} h => by simpa using h
  | cons al lists ih =>
    intro k rs h
    obtain ⟨hal, hlists⟩ := List.forall_mem_cons.mp hpart
    rw [List.flatMap_cons, execAll_concat, ih hlists (own_steering k hal h), List.flatMap_cons, List.append_assoc]

/-- Whatever holds after a list's own commands about objects that the later lists spare holds in the end. -/
theorem later_lists {al : AddressList} (k : Kernel CStr CStr)
    (hspares : ∀ al' ∈ post, Spares c al (addressListCmds c resolve al')) :
    ∃ k', (execAll k ((pre ++ al :: post).flatMap (addressListCmds c resolve))).sets al.setName =
        (execAll k' (addressListCmds c resolve al)).sets al.setName ∧
      ((steering c al).IsBalanced →
        (execAll k ((pre ++ al :: post).flatMap (addressListCmds c resolve))).chains al.subchain =
          (execAll k' (addressListCmds c resolve al)).chains al.subchain) := by
  refine ⟨execAll k (pre.flatMap (addressListCmds c resolve)), ?_, fun hbal => ?_⟩
  · rw [List.flatMap_append, List.flatMap_cons, execAll_concat, execAll_concat, execAll_sets]
    intro cmd hcmd
    obtain ⟨al', hal', hcmd⟩ := List.mem_flatMap.mp hcmd
    exact (hspares al' hal').set cmd hcmd
  · rw [List.flatMap_append, List.flatMap_cons, execAll_concat, execAll_concat, execAll_chains]
    intro cmd hcmd
    obtain ⟨al', hal', hcmd⟩ := List.mem_flatMap.mp hcmd
    exact (hspares al' hal').subchain hbal cmd hcmd

end

/-- The main chain before the first list. -/
theorem addrlistChain_start (k : Kernel CStr CStr) :
    (execAll k [.newChain addrlistChain, .flushChain addrlistChain,
      .ensure "PREROUTING".toList (some 6) { target := .jump addrlistChain },
      .ensure "OUTPUT".toList none { target := .jump addrlistChain },
      .append addrlistChain skipMarked]).chains addrlistChain = some [skipMarked] := by
  have hfresh : (exec (exec k (.newChain addrlistChain)) (.flushChain addrlistChain)).chains addrlistChain =
      some [] := by
    cases h : k.chains addrlistChain <;> simp [exec, h]
  simp only [execAll_cons, execAll_nil]
  generalize exec (exec k (.newChain addrlistChain)) (.flushChain addrlistChain) = k₁ at hfresh ⊢
  show (execAll _ ([skipMarked].map (Cmd.append addrlistChain))).chains addrlistChain = some ([] ++ [skipMarked])
  refine execAll_append [skipMarked] ?_ fun r hr => ?_
  · rw [exec_chains (by decide), exec_chains (by decide), hfresh]
  · rw [List.mem_singleton.mp hr]
    rfl

/-- **Address lists are isolated from each other exactly when their kernel names are.** -/
theorem lists_isolated_iff (c : FluxwanConfig) (resolve : CStr → List CStr) (k : Kernel CStr CStr)
    (hpart : ∀ al ∈ c.addressLists, al.enabled = true ∧ al.entries ≠ []) :
    ListsIsolated c resolve (execAll k (netApplyAddressLists c resolve)) ↔
      c.addressLists.Pairwise (NamesApart c.core) := by
  constructor
  · intro h
    refine h.apart.imp_of_mem fun {al al'} _ hal' hspares => ?_
    exact apart_of_spares (hpart al' hal') hspares.1
  · intro happart
    have hsymm : ∀ {al al' : AddressList}, NamesApart c.core al al' → NamesApart c.core al' al :=
      fun h => ⟨h.1.symm, fun hbal hbal' => (h.2 hbal' hbal).symm⟩
    have hmain := addrlistChain_start k
    rw [netApplyAddressLists, execAll_concat]
    generalize execAll k _ = k₁ at hmain ⊢
    -- what a list finds of its own objects in the end
    have hown : ∀ al ∈ c.addressLists, ∃ k',
        (execAll k₁ (c.addressLists.flatMap (addressListCmds c.core resolve))).sets al.setName =
          (execAll k' (addressListCmds c.core resolve al)).sets al.setName ∧
        ((steering c.core al).IsBalanced →
          (execAll k₁ (c.addressLists.flatMap (addressListCmds c.core resolve))).chains al.subchain =
            (execAll k' (addressListCmds c.core resolve al)).chains al.subchain) := by
      intro al hal
      obtain ⟨pre, post, heq⟩ := List.append_of_mem hal
      have hlater : ∀ al' ∈ post, NamesApart c.core al al' := by
        rw [heq, List.pairwise_append] at happart
        exact (List.pairwise_cons.mp happart.2.1).1
      rw [heq]
      exact later_lists k₁ fun al' hal' => spares_of_apart (hlater al' hal')
    refine ⟨?_, ?_, ?_, ?_⟩
    · exact steering_lists c.addressLists hpart hmain
    · intro al hal
      obtain ⟨k', hset, -⟩ := hown al hal
      rw [hset]
      exact own_set k' (hpart al hal)
    · intro al hal htype grp hfind
      refine ⟨marksWithin_steerRules htype hfind, fun ch hch => ?_⟩
      obtain ⟨rfl, hst⟩ := jump_of_mem_steerRules htype hfind hch
      obtain ⟨k', -, hchain⟩ := hown al hal
      refine ⟨subchainRules (c.core.activeMembers grp), ?_, marksWithin_subchainRules⟩
      rw [hchain (by rw [hst]; trivial)]
      exact own_subchain k' (hpart al hal) hst
    · exact happart.imp fun h => ⟨spares_of_apart h, spares_of_apart (hsymm h)⟩

theorem one_le_maxEntriesPerList : 1 ≤ maxEntriesPerList := by decide

theorem two_le_maxAddressLists : 2 ≤ maxAddressLists := by decide

/-- A list with one entry, for a WAN. -/
def listFor (name entry : String) : AddressList :=
  { name := name.toList, targetType := "wan".toList, targetId := 1, enabled := true,
    entries := [{ value := entry.toList }], entries_le := one_le_maxEntriesPerList }

/-- Two lists for one WAN. -/
def twoLists (name name' : String) : FluxwanConfig :=
  { core := { wans := [{ id := 1, enabled := true, state := .healthy, dynamicWeight := 10 }] }
    addressLists :=
      [listFor name "10.0.0.0/8", listFor name' "20.0.0.0/8"]
    addressLists_le := two_le_maxAddressLists }

/-- A list for a WAN is not balanced. -/
theorem not_isBalanced_of_wan {al : AddressList} (h : al.targetType = "wan".toList) : ¬ (steering c al).IsBalanced := by
  intro hbal
  cases hst : steering c al with
  | nowhere => rw [hst] at hbal; exact hbal
  | direct wan => rw [hst] at hbal; exact hbal
  | balanced members => exact (steering_balanced hst).1 h

theorem lists_isolated_iff_twoLists :
    ListsIsolated (twoLists "Netflix" "YouTube") (fun _ => [])
      (execAll ⟨fun _ => none, fun _ => none⟩ (netApplyAddressLists (twoLists "Netflix" "YouTube") fun _ => [])) := by
  have hpart : ∀ al ∈ (twoLists "Netflix" "YouTube").addressLists, al.enabled = true ∧ al.entries ≠ [] := by decide
  refine (lists_isolated_iff _ _ _ hpart).mpr (List.pairwise_pair.mpr ⟨?_, fun hbal => ?_⟩)
  · show sanitizeSetName "Netflix".toList ≠ sanitizeSetName "YouTube".toList
    decide
  · exact absurd hbal (not_isBalanced_of_wan rfl)

theorem not_isolated_of_content {c : FluxwanConfig} {k : Kernel CStr CStr}
    {al : AddressList} (hal : al ∈ c.addressLists) (hset : k.sets al.setName = some es)
    (he : e ∈ al.elements resolve) (hne : e ∉ es) : ¬ ListsIsolated c resolve k := by
  intro h
  obtain ⟨es', hes', hiff⟩ := h.content al hal
  rw [hset] at hes'
  exact hne (Option.some.inj hes' ▸ (hiff e).mpr he)

/-- Told apart by case only: the second list's entries are in the set of the first. -/
theorem netflix_twice_not_isolated :
    ¬ ListsIsolated (twoLists "Netflix" "netflix") (fun _ => [])
      (execAll ⟨fun _ => none, fun _ => none⟩ (netApplyAddressLists (twoLists "Netflix" "netflix") fun _ => [])) := by
  have hmem : listFor "Netflix" "10.0.0.0/8" ∈ (twoLists "Netflix" "netflix").addressLists := List.mem_cons_self
  have hentry : "10.0.0.0/8".toList ∈ (listFor "Netflix" "10.0.0.0/8").elements fun _ => [] := by decide
  have hother : "10.0.0.0/8".toList ∉ ["20.0.0.0/8".toList] := by decide
  exact not_isolated_of_content hmem (by decide +kernel) hentry hother

end FluxWAN
