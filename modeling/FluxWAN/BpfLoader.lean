/-
  The kernel tables userspace maintains, and the loader that writes them (`src/bpf_loader.c`,
  map declarations of `bpf/xdp_router.bpf.c` and `bpf/xdp_control_map.h`).

  `Tables` is everything the XDP program READS but never writes: the WAN table, the default Maglev
  ring, the group rings (one array, group `g` at `g * 65537`), the policy entries, the LPM trie and
  the control record.  Each `update…` is one loader call with its map present.  The bound of
  `bpf_loader_update_group_maglev_lut` is the loader's own: it refuses group ids from 8 on, while
  `config_load` numbers groups from 1.
-/
import FluxWAN.Config
import FluxWAN.Lib.BpfMap

namespace FluxWAN

open CString BpfMap

/-! ## Table entries -/

abbrev maxBpfPolicies : Nat := 16
abbrev maxBpfGroups : Nat := 8

/-- `struct bpf_wan_entry`. -/
structure BpfWanEntry where
  wanId : UInt32 := 0
  ifindex : UInt32 := 0
  ipAddr : UInt32 := 0
  gateway : UInt32 := 0
  weight : UInt32 := 0
  isActive : UInt32 := 0
  tableId : UInt32 := 0
  fwmark : UInt32 := 0
  isDraining : UInt32 := 0
  mtu : UInt32 := 0
  deriving DecidableEq, Repr

/-- A row that a running session may stay on: active, and with weight or draining. -/
def BpfWanEntry.isLive (e : BpfWanEntry) : Bool :=
  e.isActive ≠ 0 && (e.weight > 0 || e.isDraining ≠ 0)

/-- A row that may receive new flows: active, with weight, not draining. -/
def BpfWanEntry.isEligible (e : BpfWanEntry) : Bool :=
  e.isActive ≠ 0 && e.weight > 0 && e.isDraining = 0

/-- `struct bpf_policy_entry`. -/
structure BpfPolicyEntry where
  subnetIp : UInt32 := 0
  netmask : UInt32 := 0
  targetGroup : UInt32 := 0
  isActive : UInt32 := 0
  deriving DecidableEq, Repr

/-- `struct router_ctrl`, the single entry of `ctrl_map`. -/
structure RouterCtrl where
  lanIp : UInt32 := 0
  activeWans : UInt32 := 0
  snatEnabled : UInt32 := 0
  debugEnabled : UInt32 := 0
  routerFlags : UInt32 := 0
  hcIntervalMs : UInt32 := 0
  deriving DecidableEq, Repr

/-- The maps the XDP program only reads, as created: zeroed arrays, an empty trie. -/
structure Tables where
  maglevLut : ArrayMap maglevRingSize UInt32 := fun _ => 0
  wanTable : ArrayMap maxWans BpfWanEntry := fun _ => {}
  policyRoute : ArrayMap maxBpfPolicies BpfPolicyEntry := fun _ => {}
  maglevGroup : ArrayMap (maxBpfGroups * maglevRingSize) UInt32 := fun _ => 0
  lpmSubnet : LpmTrie UInt32 := []
  ctrl : RouterCtrl := {}

/-! ## Loader calls -/

/-- The table row `bpf_loader_update_wan_map` derives from a WAN; `ifindex` is the kernel's answer
    to `if_nametoindex`. -/
def wanEntry (ifindex : CStr → UInt32) (wanIdx : Nat) (wan : WanConfig) : BpfWanEntry where
  wanId := wan.id
  ifindex := ifindex wan.name
  ipAddr := wan.ipAddr
  gateway := wan.gateway
  weight := if wan.state = .draining then 0 else wan.dynamicWeight
  isActive := if wan.state ≠ .down then 1 else 0
  tableId := wan.tableId
  fwmark := UInt32.ofNat (0x100 + wanIdx + 1)
  isDraining := if wan.state = .draining then 1 else 0
  mtu := if wan.mtu ≠ 0 then wan.mtu else 1500

namespace Tables

/-- `bpf_loader_update_wan_map`. -/
def updateWanMap (ifindex : CStr → UInt32) (t : Tables) (wanIdx : Nat) (wan : WanConfig) : Tables :=
  if wanIdx ≥ maxWans then t
  else { t with wanTable := t.wanTable.update wanIdx (wanEntry ifindex wanIdx wan) }

/-- One `bpf_loader_update_wan_map` per configured WAN, in order. -/
def updateWanMaps (ifindex : CStr → UInt32) (t : Tables) (wans : List WanConfig) : Tables :=
  wans.zipIdx.foldl (fun t wi => t.updateWanMap ifindex wi.2 wi.1) t

/-- `bpf_loader_update_maglev_lut`. -/
def updateMaglevLut (t : Tables) (lut : MaglevRing) : Tables :=
  { t with maglevLut := fun i => lut[i] }

/-- `bpf_loader_update_group_maglev_lut`: slots `groupId * 65537 …` of the shared array. -/
def updateGroupMaglevLut (t : Tables) (groupId : UInt32) (lut : MaglevRing) : Tables :=
  if groupId.toNat ≥ 8 then t
  else
    { t with
      maglevGroup := fun k =>
        if h : groupId.toNat * maglevRingSize ≤ k.val ∧
            k.val - groupId.toNat * maglevRingSize < maglevRingSize
        then lut[k.val - groupId.toNat * maglevRingSize]
        else t.maglevGroup k }

/-- `bpf_loader_update_policy_routes`: every one of the 16 entries is rewritten; a disabled or
    missing route becomes an all-zero entry. -/
def updatePolicyRoutes (t : Tables) (routes : List PolicyRoute) : Tables :=
  { t with
    policyRoute := fun i =>
      match routes[i.val]? with
      | some r =>
        if r.enabled then
          { subnetIp := r.subnetIp, netmask := r.netmask, targetGroup := r.targetGroupId, isActive := 1 }
        else {}
      | none => {} }

/-- `bpf_loader_update_ctrl_map`. -/
def updateCtrlMap (t : Tables) (lanIp activeWans snatEnabled debugEnabled : UInt32) : Tables :=
  { t with
    ctrl :=
      { lanIp, activeWans, snatEnabled, debugEnabled
        routerFlags := (if snatEnabled ≠ 0 then 1 else 0) ||| (if debugEnabled ≠ 0 then 2 else 0)
        hcIntervalMs := 500 } }

end Tables

end FluxWAN
