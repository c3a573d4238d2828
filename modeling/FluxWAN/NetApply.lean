/-
  Steering rules in the kernel (`src/net_apply.c`).

  * the mark rules of PREROUTING, which deal unmarked packets from the LAN out among the WANs
    (`net_apply_configuration`, step 4: `markRules`);
  * the address lists (`net_apply_address_lists`): per list an ipset with its entries, rules of
    FLUXWAN_ADDRLIST that match on it, and, for a group with several active members, a subchain that deals the
    packets out in the same way (`subchainRules`).

  Both distribute by a chain of conditional probabilities with a shrinking denominator (`weightedRules`): the
  rule of a WAN takes `weight / remaining` of the packets that are still unmarked, and the last one takes the rest.
  A command line is the list of what it asks of the kernel (`Netfilter.Cmd`); of alternatives with `||` it is the
  first, the others are for kernels that lack it.  Name resolution is a parameter.
-/
import FluxWAN.ConfigServices
import FluxWAN.Lib.Netfilter

namespace FluxWAN

open CString Netfilter

/-! ## Dealing packets out by weight -/

/-- The WANs that get packets here: DRAINING ones still do. -/
def WanConfig.isMarkable (w : WanConfig) : Bool := w.enabled && w.state ≠ .down && 0 < w.dynamicWeight

/-- `0x100 + i + 1`. -/
def fwmark (i : Nat) : UInt32 := UInt32.ofNat (0x100 + i + 1)

/-- A WAN in the distribution loop; `last` is the loop's own test for the end. -/
structure Candidate where
  last : Bool
  wan : Nat
  weight : UInt32

def Candidate.share (x : Candidate) : Nat × UInt32 := (x.wan, x.weight)

/-- The rule of one candidate. -/
def markRule (inIface : Option CStr) (probability : Option (UInt32 × UInt32)) (wan : Nat) : Rule CStr :=
  { inIface, marked := some false, probability, target := .setMark (fwmark wan) }

/-- The distribution loop, from what remains of the total weight. -/
def weightedRules (inIface : Option CStr) : UInt32 → List Candidate → List (Rule CStr)
  | _, [] => []
  | remaining, cand :: cands =>
    if cand.last = true ∨ remaining = cand.weight then
      markRule inIface none cand.wan :: weightedRules inIface remaining cands
    else
      markRule inIface (some (cand.weight, remaining)) cand.wan ::
        weightedRules inIface (remaining - cand.weight) cands

def totalWeight (cands : List Candidate) : UInt32 := cands.foldl (fun total cand => total + cand.weight) 0

/-- The WANs of the main loop, with their place in the table. -/
def Config.markCandidates (c : Config) : List Candidate :=
  (c.wans.zipIdx.filter fun p => p.1.isMarkable).map fun p =>
    { last := p.2 = c.wans.length - 1, wan := p.2, weight := p.1.dynamicWeight }

/-- The rules for unmarked packets from the LAN. -/
def markRules (c : Config) : List (Rule CStr) :=
  if totalWeight c.markCandidates > 0 then
    weightedRules (some c.lan.name) (totalWeight c.markCandidates) c.markCandidates
  else []

/-- `active_member_indices`, with the weights. -/
def Config.activeMembers (c : Config) (grp : WanGroup) : List (Nat × UInt32) :=
  grp.memberIndices.filterMap fun v =>
    (c.wans[v.toNat]?).bind fun w => if w.isMarkable then some (v.toNat, w.dynamicWeight) else none

def memberCandidates (members : List (Nat × UInt32)) : List Candidate :=
  members.mapIdx fun i p => { last := i = members.length - 1, wan := p.1, weight := p.2 }

/-- The subchain of a list that targets a group with several active members. -/
def subchainRules (members : List (Nat × UInt32)) : List (Rule CStr) :=
  weightedRules none (totalWeight (memberCandidates members)) (memberCandidates members) ++ [{ target := .saveMark }]

/-! ## Address lists -/

/-- `sanitize_set_name`, for a buffer of 64 bytes. -/
def sanitizeSetName (name : CStr) : CStr :=
  "fw_".toList ++ (name.take 25).map fun ch =>
    if ch.isAlphanum || ch = '_' || ch = '-' then ch.toLower else '_'

/-- `tmp_set`, cut to the 31 characters of a set name. -/
def tmpSetName (setName : CStr) : CStr := ("t_".toList ++ setName).take 31

/-- `subchain`, cut to the 28 characters of a chain name. -/
def subchainName (setName : CStr) : CStr := ("FW_L_".toList ++ setName).take 28

/-- What the entries of a list stand for. -/
def AddressList.elements (resolve : CStr → List CStr) (al : AddressList) : List CStr :=
  al.entries.flatMap fun entry =>
    if entry.value = [] then []
    else
      match entry.type with
      | .ip => [entry.value]
      | .domain => resolve entry.value

def addrlistChain : CStr := "FLUXWAN_ADDRLIST".toList

/-- Mark and save the mark of packets to a set. -/
def directRules (setName : CStr) (wan : Nat) : List (Rule CStr) :=
  [{ matchSet := some setName, target := .setMark (fwmark wan) }, { matchSet := some setName, target := .saveMark }]

/-- Where the packets of a list go. -/
inductive Steering where
  /-- No rule: the target is not there, or has no active member. -/
  | nowhere
  | direct (wan : Nat)
  | balanced (members : List (Nat × UInt32))

/-- "Determine steering mark or group load balancing". -/
def steering (c : Config) (al : AddressList) : Steering :=
  if al.targetType = "wan".toList then
    match c.wans.findIdx? al.targetsWan with
    | some i => .direct i
    | none => .nowhere
  else
    match c.groups.find? al.targetsGroup with
    | some grp =>
      match c.activeMembers grp with
      | [] => .nowhere
      | [m] => .direct m.1
      | members => if totalWeight (memberCandidates members) > 0 then .balanced members else .nowhere
    | none => .nowhere

/-- The commands of a list's steering rules. -/
def steeringCmds (setName : CStr) : Steering → List (Cmd CStr CStr)
  | .nowhere => []
  | .direct wan => (directRules setName wan).map (.append addrlistChain)
  | .balanced members =>
    [.flushChain (subchainName setName), .newChain (subchainName setName),
      .append addrlistChain { matchSet := some setName, target := .jump (subchainName setName) }] ++
    (subchainRules members).map (.append (subchainName setName))

/-- The body of the loop over the lists. -/
def addressListCmds (c : Config) (resolve : CStr → List CStr) (al : AddressList) : List (Cmd CStr CStr) :=
  if al.enabled = true ∧ al.entries ≠ [] then
    let setName := sanitizeSetName al.name
    replaceSet setName (tmpSetName setName) (al.elements resolve) ++ steeringCmds setName (steering c al)
  else []

/-- Packets that already have a mark leave. -/
def skipMarked : Rule CStr := { marked := some true, target := .ret }

/-- `net_apply_address_lists`. -/
def netApplyAddressLists (c : FluxwanConfig) (resolve : CStr → List CStr) : List (Cmd CStr CStr) :=
  [.newChain addrlistChain, .flushChain addrlistChain,
    .ensure "PREROUTING".toList (some 6) { target := .jump addrlistChain },
    .ensure "OUTPUT".toList none { target := .jump addrlistChain }, .append addrlistChain skipMarked] ++
  c.addressLists.flatMap (addressListCmds c.core resolve)

/-! ## Members -/

theorem mem_activeMembers {c : Config} {grp : WanGroup} (hm : m ∈ c.activeMembers grp) :
    ∃ v ∈ grp.memberIndices, ∃ w, c.wans[v.toNat]? = some w ∧ w.isMarkable = true ∧ m = (v.toNat, w.dynamicWeight) := by
  obtain ⟨v, hv, hsome⟩ := List.mem_filterMap.mp hm
  obtain ⟨w, hget, hw⟩ := Option.bind_eq_some_iff.mp hsome
  by_cases hmark : w.isMarkable = true
  · rw [if_pos hmark] at hw
    exact ⟨v, hv, w, hget, hmark, (Option.some.inj hw).symm⟩
  · rw [if_neg hmark] at hw
    cases hw

theorem memberCandidates_share (members : List (Nat × UInt32)) :
    (memberCandidates members).map Candidate.share = members := by
  refine List.ext_getElem (by simp [memberCandidates]) fun i _ _ => ?_
  simp [memberCandidates, Candidate.share]

/-- Where a list goes that targets a group. -/
theorem steering_group {c : Config} {al : AddressList} (htype : al.targetType ≠ "wan".toList)
    (hfind : c.groups.find? al.targetsGroup = some grp) :
    steering c al = .nowhere ∨ (∃ m ∈ c.activeMembers grp, steering c al = .direct m.1) ∨
      c.activeMembers grp ≠ [] ∧ steering c al = .balanced (c.activeMembers grp) := by
  unfold steering
  rw [if_neg htype, hfind]
  dsimp only
  cases hmembers : c.activeMembers grp with
  | nil => exact .inl rfl
  | cons m members =>
    cases members with
    | nil => exact .inr (.inl ⟨m, List.mem_cons_self, rfl⟩)
    | cons m' members =>
      by_cases hpos : totalWeight (memberCandidates (m :: m' :: members)) > 0
      · exact .inr (.inr ⟨List.cons_ne_nil _ _, if_pos hpos⟩)
      · exact .inl (if_neg hpos)

/-- Only a list that targets a group is balanced. -/
theorem steering_balanced {c : Config} {al : AddressList} (h : steering c al = .balanced members) :
    al.targetType ≠ "wan".toList ∧ ∃ grp, c.groups.find? al.targetsGroup = some grp ∧
      members = c.activeMembers grp ∧ members ≠ [] := by
  have htype : al.targetType ≠ "wan".toList := by
    intro htype
    unfold steering at h
    rw [if_pos htype] at h
    split at h <;> cases h
  refine ⟨htype, ?_⟩
  cases hfind : c.groups.find? al.targetsGroup with
  | none =>
    unfold steering at h
    rw [if_neg htype, hfind] at h
    cases h
  | some grp =>
    rcases steering_group htype hfind with hst | ⟨m, -, hst⟩ | ⟨hne, hst⟩
    · rw [hst] at h; cases h
    · rw [hst] at h; cases h
    · rw [hst] at h; cases h
      exact ⟨grp, rfl, rfl, hne⟩

end FluxWAN
