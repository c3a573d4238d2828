import FluxWAN.Maglev
import FluxWAN.BpfLoader
import FluxWAN.Prober
import FluxWAN.Failover
import FluxWAN.ConfigLoad
import FluxWAN.GroupIsolation
import FluxWAN.WanIds
import FluxWAN.Xdp.Packet
import FluxWAN.Xdp.Rewrite
import FluxWAN.Xdp.Router
import FluxWAN.Xdp.Steering
import FluxWAN.Xdp.Session
import FluxWAN.Xdp.Stickiness
import FluxWAN.Xdp.GroupPolicy
import FluxWAN.Dhcp.Interleaving
import FluxWAN.Lib.HttpText
import FluxWAN.Web.Auth
import FluxWAN.Web.Handlers
import FluxWAN.Web.Lockout
import FluxWAN.Web.Server
import FluxWAN.Web.Dispatch
import FluxWAN.Dhcp.Packet
import FluxWAN.Dhcp.Server
import FluxWAN.Dhcp.Allocation
import FluxWAN.Lib.Numerals
import FluxWAN.Lib.QuotedText
import FluxWAN.ConfigKeys
import FluxWAN.ProxyManager
import FluxWAN.ConfigServices
import FluxWAN.ConfigSave
import FluxWAN.JsonTokens
import FluxWAN.JsonBlocks
import FluxWAN.ConfigPlain
import FluxWAN.Xdp.PathMtu
import FluxWAN.Xdp.Selection
import FluxWAN.Xdp.PolicySubnet
import FluxWAN.Xdp.Payload
import FluxWAN.Xdp.Dispatcher
import FluxWAN.License.Key
import FluxWAN.License.Manager
import FluxWAN.License.Runs
import FluxWAN.MainLoop
import FluxWAN.Dns.Cache
import FluxWAN.Dns.Worker
import FluxWAN.Lib.KeyedTable
import FluxWAN.Pppoe.Subscribers
import FluxWAN.Pppoe.Profiles
import FluxWAN.Lib.Trace
import FluxWAN.Pppoe.Manager
import FluxWAN.Pppoe.Sessions
import FluxWAN.Pppoe.SecretFiles
import FluxWAN.Lib.BpfHash
import FluxWAN.Nat46.System
import FluxWAN.Xdp.Healthcheck
import FluxWAN.Nat46.Pool
import FluxWAN.Nat46.Replies
import FluxWAN.Lib.RingBuffer
import FluxWAN.ProbeHistory
import FluxWAN.ProbeMetrics
import FluxWAN.LatencySteering
import FluxWAN.Lib.WeightedShare
import FluxWAN.License.Activation
import FluxWAN.MaglevShares
import FluxWAN.Lib.Netfilter
import FluxWAN.NetApply
import FluxWAN.MarkShares
import FluxWAN.AddressLists
import FluxWAN.Backup
import FluxWAN.Web.Receiving
import FluxWAN.ConfigReload
import FluxWAN.WanReload
import FluxWAN.WanLinks
import FluxWAN.ServiceReload
import FluxWAN.RoundTrip
import FluxWAN.Settings
import FluxWAN.Web.Apply
import FluxWAN.Lib.OnesComplement
import FluxWAN.Xdp.Checksum
import FluxWAN.Xdp.SnatRewrite
import FluxWAN.Xdp.PacketTooBig
import FluxWAN.Xdp.EchoReply
import FluxWAN.Xdp.ControlFlows
import FluxWAN.Xdp.IcmpErrors
import FluxWAN.Xdp.QuicRoaming
import FluxWAN.Xdp.SnatCounters
import FluxWAN.Xdp.VlanTags
import FluxWAN.Crypto.Base64Text
import FluxWAN.Dhcp.LeaseTable
import FluxWAN.Dhcp.Options
import FluxWAN.Dns.Replies
import FluxWAN.License.GraceTicks
import FluxWAN.Nat46.Translation
import FluxWAN.VmessLinks
import FluxWAN.VpnManager
import FluxWAN.Pppoe.Expiry
import FluxWAN.Lib.PppdWords
import FluxWAN.Pppoe.SecretsText
import FluxWAN.Crypto.Sha
import FluxWAN.Netlink
import FluxWAN.Web.Versions
import FluxWAN.ShareLinks
