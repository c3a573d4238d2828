/-
  The embedded DHCP server (`src/dhcp_server.c`).

  The lease table only grows: a release clears `is_active` and keeps the entry with its address, and when
  the table is full the next client overwrites entry 0.  Look-ups take the FIRST entry with the MAC, or with
  the address, whether it is active or not.  Nothing looks at `lease_expire_sec`.

  An offer is not recorded anywhere; a request is acknowledged with whatever address it names.
-/
import FluxWAN.Dhcp.Packet

namespace FluxWAN.Dhcp

open CString Bytes

abbrev maxDhcpLeases : Nat := 254

/-- `dhcp_lease_t`; times are seconds. -/
structure Lease where
  ipAddr : UInt32 := 0
  macAddr : Mac := Vector.replicate 6 0
  macStr : CStr := []
  hostname : CStr := []
  leaseStartSec : Nat := 0
  leaseExpireSec : Nat := 0
  isActive : Bool := false
  isStatic : Bool := false
  rxBytes : UInt64 := 0
  txBytes : UInt64 := 0
  currentRxKbps : UInt32 := 0
  currentTxKbps : UInt32 := 0
  deriving DecidableEq, Repr

theorem zero_le_maxDhcpLeases : 0 ≤ maxDhcpLeases := Nat.zero_le _

/-- `struct dhcp_server_ctx` without the socket. -/
structure Server where
  config : Config := {}
  leases : List Lease := []
  leases_le : leases.length ≤ maxDhcpLeases := by first | exact zero_le_maxDhcpLeases | decide

/-- Rewrite entry `i` in place. -/
def Server.modifyLease (s : Server) (i : Nat) (f : Lease → Lease) : Server :=
  { s with leases := s.leases.modify i f, leases_le := by simpa using s.leases_le }

/-- Append an entry, if there is room. -/
def Server.addLease (s : Server) (l : Lease) : Option Server :=
  if h : s.leases.length < maxDhcpLeases then
    some
      { s with
        leases := s.leases ++ [l]
        leases_le := by rw [List.length_append]; exact h }
  else none

/-! ## Look-ups -/

/-- `find_static_lease_by_mac`. -/
def findStaticLeaseByMac (lan : LanConfig) (mac : Mac) : Option StaticLease :=
  lan.staticLeases.find? fun sl => sl.enabled && sl.macAddr = mac

/-- `is_ip_reserved_by_static`: the first enabled reservation of the address decides. -/
def isIpReservedByStatic (lan : LanConfig) (ip : UInt32) (mac : Mac) : Bool :=
  match lan.staticLeases.find? fun sl => sl.enabled && sl.ipAddr = ip with
  | some sl => sl.macAddr ≠ mac
  | none => false

/-- `find_lease_by_mac`. -/
def findLeaseByMac (leases : List Lease) (mac : Mac) : Option Lease :=
  leases.find? fun l => l.macAddr = mac

/-- `find_lease_by_ip`. -/
def findLeaseByIp (leases : List Lease) (ip : UInt32) : Option Lease :=
  leases.find? fun l => l.ipAddr = ip

/-! ## Allocation -/

/-- The bounds of the pool in host order; the built-in pool if the configured one makes no sense. -/
def poolBounds (lan : LanConfig) : UInt32 × UInt32 :=
  let startH := htonl lan.dhcpStart
  let endH := htonl lan.dhcpEnd
  if startH = 0 ∨ endH = 0 ∨ endH < startH then
    (htonl (strToIp "192.168.90.100".toList), htonl (strToIp "192.168.90.200".toList))
  else (startH, endH)

/-- The scan passes over the address: reserved for another client, or its first entry is active. -/
def Server.skips (s : Server) (mac : Mac) (ip : UInt32) : Bool :=
  isIpReservedByStatic s.config.lan ip mac || (findLeaseByIp s.leases ip).any (·.isActive)

/-- The loop over the pool: `ip_h` is a `uint32_t` and wraps around if the pool ends at the very last
    address, hence the bound on the steps. -/
def Server.scanPool (s : Server) (mac : Mac) (endH : UInt32) : Nat → UInt32 → UInt32
  | 0, _ => 0
  | fuel + 1, ipH =>
    if endH < ipH then 0
    else if s.skips mac (htonl ipH) then s.scanPool mac endH fuel (ipH + 1)
    else htonl ipH

/-- `allocate_next_ip`; 0 if the pool is exhausted. -/
def Server.allocateNextIp (s : Server) (mac : Mac) : UInt32 :=
  match (findStaticLeaseByMac s.config.lan mac).filter (·.ipAddr ≠ 0) with
  | some sl => sl.ipAddr
  | none =>
    match (findLeaseByMac s.leases mac).filter (·.isActive) with
    | some l => l.ipAddr
    | none => s.scanPool mac (poolBounds s.config.lan).2 (2 ^ 32) (poolBounds s.config.lan).1

/-! ## The lease table -/

def hexDigit (n : Nat) : Char := "0123456789abcdef".toList.getD n '0'

/-- `%02x:%02x:…`. -/
def macText (mac : Mac) : CStr :=
  List.intercalate [':'] (mac.toList.map fun b => [hexDigit (b.toNat / 16), hexDigit (b.toNat % 16)])

/-- What `update_lease_record` writes into the entry it has chosen. -/
def writeLease (lan : LanConfig) (mac : Mac) (ip : UInt32) (hostname : CStr) (now : Nat) (l : Lease) :
    Lease :=
  let sl := findStaticLeaseByMac lan mac
  let reserved := sl.elim [] StaticLease.hostname
  let kept := if reserved ≠ [] then copyInto 64 reserved else l.hostname
  { l with
    macAddr := mac
    macStr := macText mac
    ipAddr := ip
    isStatic := sl.isSome
    hostname :=
      if hostname ≠ [] ∧ reserved = [] then copyInto 64 hostname
      else if kept = [] then "LAN-Client".toList
      else kept
    leaseStartSec := now
    leaseExpireSec := now + if sl.isSome then 31536000 else lan.dhcpLeaseTime.toNat
    isActive := true }

/-- `update_lease_record`: the client's entry, else a new one, else entry 0. -/
def Server.updateLeaseRecord (s : Server) (mac : Mac) (ip : UInt32) (hostname : CStr) (now : Nat) :
    Server :=
  let write := writeLease s.config.lan mac ip hostname now
  match s.leases.findIdx? (·.macAddr = mac) with
  | some i => s.modifyLease i write
  | none => (s.addLease (write {})).getD (s.modifyLease 0 write)

/-- `dhcp_server_init`: the reservations become leases, or else a device for demonstration. -/
def Server.init (config : Config) (now : Nat) : Option Server :=
  if config.lan.dhcpEnabled = false then none
  else
    let s := (config.lan.staticLeases.filter fun sl => sl.enabled && sl.ipAddr ≠ 0).foldl
      (fun s sl => s.updateLeaseRecord sl.macAddr sl.ipAddr sl.hostname now) { config }
    some <|
      if s.leases = [] then
        s.updateLeaseRecord #v[0xd8, 0x3a, 0xdd, 0x12, 0x34, 0x56]
          (if config.lan.dhcpStart ≠ 0 then config.lan.dhcpStart else strToIp "192.168.90.105".toList)
          "Workstation-Office".toList now
      else s

/-- One reservation of a reloaded configuration. -/
def Server.reloadLease (now : Nat) (s : Server) (sl : StaticLease) : Server :=
  match s.leases.findIdx? (·.macAddr = sl.macAddr) with
  | some i =>
    s.modifyLease i fun l =>
      { l with
        ipAddr := sl.ipAddr
        isStatic := true
        hostname := if sl.hostname ≠ [] then copyInto 64 sl.hostname else l.hostname }
  | none => s.updateLeaseRecord sl.macAddr sl.ipAddr sl.hostname now

/-- `dhcp_server_reload_config`. -/
def Server.reloadConfig (s : Server) (config : Config) (now : Nat) : Server :=
  (config.lan.staticLeases.filter (·.enabled)).foldl (Server.reloadLease now) { s with config }

/-! ## Messages -/

/-- The DNS servers of a reply. -/
def dnsServer (configured dflt : CStr) : UInt32 :=
  let ip := strToIp (if configured ≠ [] then configured else dflt)
  if ip = 0 then strToIp dflt else ip

/-- The reply to `req`: an OFFER or an ACK of `ip`. -/
def Server.reply (s : Server) (req : Packet) (type : UInt8) (ip : UInt32) : Packet :=
  let lan := s.config.lan
  let add := appendOption optionsSize
  let opts := add [] optMsgType [type]
  let opts := add opts optSubnetMask (bytes32 lan.netmask)
  let opts := add opts optRouter (bytes32 s.config.lanIpAddr)
  let opts := add opts optDns (bytes32 (dnsServer lan.dns.primaryDns "1.1.1.1".toList) ++
    bytes32 (dnsServer lan.dns.secondaryDns "8.8.8.8".toList))
  let opts := add opts optLeaseTime (bytes32 (htonl lan.dhcpLeaseTime))
  let opts := add opts optServerId (bytes32 s.config.lanIpAddr)
  { op := bootReply, htype := req.htype, hlen := req.hlen, xid := req.xid, flags := req.flags,
    yiaddr := ip, siaddr := s.config.lanIpAddr, chaddr := req.chaddr, magic := htonl magicCookie,
    options := optionArea opts }

/-- A received message with the circumstances of its reception. -/
structure Arrival where
  req : Packet
  /-- What `recvfrom` returned. -/
  received : Int
  /-- `time (NULL)`. -/
  now : Nat
  /-- The byte behind the record. -/
  beyond : UInt8 := 0

/-- The messages the server looks at, with their type. -/
def Arrival.accepted (a : Arrival) : Option UInt8 :=
  if a.received < 240 then none
  else if htonl a.req.magic ≠ magicCookie ∨ a.req.op ≠ bootRequest then none
  else (a.req.msgType a.beyond).filter fun _ => a.req.hostname ≠ "FluxWAN".toList

/-- The address a REQUEST is acknowledged with. -/
def Server.assignedIp (s : Server) (req : Packet) : UInt32 :=
  req.requestedIp.getD (s.allocateNextIp req.mac)

/-- A release, for the client's entry. -/
def Server.releaseLease (s : Server) (mac : Mac) : Server :=
  match s.leases.findIdx? (·.macAddr = mac) with
  | some i => s.modifyLease i fun l => { l with isActive := false }
  | none => s

/-- `dhcp_server_process`: the server afterwards and the reply sent, if any. -/
def Server.process (s : Server) (a : Arrival) : Server × Option Packet :=
  match a.accepted with
  | none => (s, none)
  | some type =>
    if type = discover then
      let offerIp := s.allocateNextIp a.req.mac
      if offerIp = 0 then (s, none) else (s, some (s.reply a.req offer offerIp))
    else if type = request then
      let ip := s.assignedIp a.req
      (s.updateLeaseRecord a.req.mac ip a.req.hostname a.now, some (s.reply a.req ack ip))
    else if type = release then (s.releaseLease a.req.mac, none)
    else (s, none)

/-- `dhcp_server_update_client_traffic`: unknown addresses get an entry without a MAC. -/
def Server.updateClientTraffic (s : Server) (clientIp : UInt32) (rx tx : UInt64) : Server :=
  let count (l : Lease) : Lease :=
    { l with
      currentRxKbps := if rx ≥ l.rxBytes ∧ l.rxBytes > 0 then ((rx - l.rxBytes) * 8 / 1000).toUInt32
        else l.currentRxKbps
      currentTxKbps := if tx ≥ l.txBytes ∧ l.txBytes > 0 then ((tx - l.txBytes) * 8 / 1000).toUInt32
        else l.currentTxKbps
      rxBytes := rx
      txBytes := tx }
  match s.leases.findIdx? (·.ipAddr = clientIp) with
  | some i => s.modifyLease i count
  | none =>
    (s.addLease
      (count { ipAddr := clientIp, isActive := true, hostname := copyInto 64 (ipToStr clientIp) })).getD s

end FluxWAN.Dhcp
