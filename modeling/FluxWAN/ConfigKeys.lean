/-
  The keys of the configuration file.

  `config_load` looks every setting up by the quoted text of its key and `config_save` writes it under
  the same text.  The keys are an enumeration with their spelling, so that reader and writer share one
  table and a key cannot be mistyped in one of them only.  The keys the loader looks for but
  `config_save` never writes are here too: `"mtu"`, `"mss_clamping"`, `"state"` and the alternative
  spellings `"ppp_username"`, `"ppp_password"`, `"custom_mac"` and `"ssid"`.

  Shorter names come first, names of one length in alphabetical order: read as numbers the names grow
  along the table, so no two keys have the same one (`text_injective`).
-/
import FluxWAN.Lib.QuotedText
import Mathlib.Data.List.Nodup

namespace FluxWAN

open CString QuotedText

/-- The keys `config_load` searches for. -/
inductive Key where
  | id | ip | dns | dpi | lan | mac | mru | mss | mtu | qos | vpn | web | auth | dns1 | dns2
  | name | nwid | port | ssid | type | wans | label | nat46 | peers | proto | state | users
  | groups | prober | radius | secret | server | sticky | subnet | weight | acName | address
  | bindIp | chatId | comment | enabled | entries | gateway | netmask | nodeId | profile | stealth
  | authKey | coaPort | dhcpEnd | endpoint | hostname | lanMode | localIp | networks | password
  | poolEnd | profiles | tableId | telegram | username | zerotier | acctPort | algorithm
  | authPort | botToken | diffserv4 | interface | proxySni | staticIp | tailscale | targetId
  | ttlValue | wifiSsid | wireguard | createdAt | customMac | dhcpStart | expiresAt | gatewayIp
  | poolStart | proxyHost | proxyPath | proxyPort | proxyUuid | publicKey | timeoutMs | allowedIps
  | description | intervalMs | listenPort | lossWindow | maxUpMbps | primaryDns | privateKey
  | proxyProto | rateLimits | targetName | targetType | appSteering | caCertPath | dhcpEnabled
  | isExitNode | loginServer | maxSessions | mssClamping | pppPassword | pppUsername | pppoeServer
  | probeTarget | proxyServer | rateUpKbps | serviceName | sniHostname | targetGroup | upstreamDns
  | acceptRoutes | addressLists | maxDownMbps | policyRoutes | presharedKey | proxyEnabled
  | proxyRawUri | proxyTunDev | secondaryDns | sessionToken | staticLeases | validityDays
  | wifiPassword | wifiSecurity | nasIdentifier | proxySecurity | proxyStrategy | rateDownKbps
  | adblockEnabled | clientKeyPath | dhcpLeaseTime | proxyRawUri2 | proxyRawUri3 | proxyTransport
  | timeoutSeconds | tlsVerifyCert | advertiseRoutes | blockWanProbes | clientCertPath
  | cloakTraceroute | fastDnsEnabled | interimInterval | proxyEncryption | syntheticPrefix
  | allowRemoteMgmt | bandwidthUpMbps | starlinkWanName | clientPrivateKey | notifyOnFailover
  | notifyOnRecovery | proxyStrategyStr | smartIpv6Bonding | bandwidthDownMbps | primaryVoipWanId
  | p2pThrottleEnabled | persistentKeepalive | maxAcceptableRttMs | primaryGamingWanId
  | voipPriorityEnabled | voipSteeringEnabled | bulkBalancingEnabled | p2pThrottleRateKbps
  | strictBankingEnabled | gamingPriorityEnabled | gamingSteeringEnabled | maxAcceptableLossPct
  | dynamicLatencySteering | streamingBalanceEnabled
  deriving DecidableEq, Repr

namespace Key

/-- The spelling of a key in the file. -/
def text : Key → CStr
  | .id => "id".toList
  | .ip => "ip".toList
  | .dns => "dns".toList
  | .dpi => "dpi".toList
  | .lan => "lan".toList
  | .mac => "mac".toList
  | .mru => "mru".toList
  | .mss => "mss".toList
  | .mtu => "mtu".toList
  | .qos => "qos".toList
  | .vpn => "vpn".toList
  | .web => "web".toList
  | .auth => "auth".toList
  | .dns1 => "dns1".toList
  | .dns2 => "dns2".toList
  | .name => "name".toList
  | .nwid => "nwid".toList
  | .port => "port".toList
  | .ssid => "ssid".toList
  | .type => "type".toList
  | .wans => "wans".toList
  | .label => "label".toList
  | .nat46 => "nat46".toList
  | .peers => "peers".toList
  | .proto => "proto".toList
  | .state => "state".toList
  | .users => "users".toList
  | .groups => "groups".toList
  | .prober => "prober".toList
  | .radius => "radius".toList
  | .secret => "secret".toList
  | .server => "server".toList
  | .sticky => "sticky".toList
  | .subnet => "subnet".toList
  | .weight => "weight".toList
  | .acName => "ac_name".toList
  | .address => "address".toList
  | .bindIp => "bind_ip".toList
  | .chatId => "chat_id".toList
  | .comment => "comment".toList
  | .enabled => "enabled".toList
  | .entries => "entries".toList
  | .gateway => "gateway".toList
  | .netmask => "netmask".toList
  | .nodeId => "node_id".toList
  | .profile => "profile".toList
  | .stealth => "stealth".toList
  | .authKey => "auth_key".toList
  | .coaPort => "coa_port".toList
  | .dhcpEnd => "dhcp_end".toList
  | .endpoint => "endpoint".toList
  | .hostname => "hostname".toList
  | .lanMode => "lan_mode".toList
  | .localIp => "local_ip".toList
  | .networks => "networks".toList
  | .password => "password".toList
  | .poolEnd => "pool_end".toList
  | .profiles => "profiles".toList
  | .tableId => "table_id".toList
  | .telegram => "telegram".toList
  | .username => "username".toList
  | .zerotier => "zerotier".toList
  | .acctPort => "acct_port".toList
  | .algorithm => "algorithm".toList
  | .authPort => "auth_port".toList
  | .botToken => "bot_token".toList
  | .diffserv4 => "diffserv4".toList
  | .interface => "interface".toList
  | .proxySni => "proxy_sni".toList
  | .staticIp => "static_ip".toList
  | .tailscale => "tailscale".toList
  | .targetId => "target_id".toList
  | .ttlValue => "ttl_value".toList
  | .wifiSsid => "wifi_ssid".toList
  | .wireguard => "wireguard".toList
  | .createdAt => "created_at".toList
  | .customMac => "custom_mac".toList
  | .dhcpStart => "dhcp_start".toList
  | .expiresAt => "expires_at".toList
  | .gatewayIp => "gateway_ip".toList
  | .poolStart => "pool_start".toList
  | .proxyHost => "proxy_host".toList
  | .proxyPath => "proxy_path".toList
  | .proxyPort => "proxy_port".toList
  | .proxyUuid => "proxy_uuid".toList
  | .publicKey => "public_key".toList
  | .timeoutMs => "timeout_ms".toList
  | .allowedIps => "allowed_ips".toList
  | .description => "description".toList
  | .intervalMs => "interval_ms".toList
  | .listenPort => "listen_port".toList
  | .lossWindow => "loss_window".toList
  | .maxUpMbps => "max_up_mbps".toList
  | .primaryDns => "primary_dns".toList
  | .privateKey => "private_key".toList
  | .proxyProto => "proxy_proto".toList
  | .rateLimits => "rate_limits".toList
  | .targetName => "target_name".toList
  | .targetType => "target_type".toList
  | .appSteering => "app_steering".toList
  | .caCertPath => "ca_cert_path".toList
  | .dhcpEnabled => "dhcp_enabled".toList
  | .isExitNode => "is_exit_node".toList
  | .loginServer => "login_server".toList
  | .maxSessions => "max_sessions".toList
  | .mssClamping => "mss_clamping".toList
  | .pppPassword => "ppp_password".toList
  | .pppUsername => "ppp_username".toList
  | .pppoeServer => "pppoe_server".toList
  | .probeTarget => "probe_target".toList
  | .proxyServer => "proxy_server".toList
  | .rateUpKbps => "rate_up_kbps".toList
  | .serviceName => "service_name".toList
  | .sniHostname => "sni_hostname".toList
  | .targetGroup => "target_group".toList
  | .upstreamDns => "upstream_dns".toList
  | .acceptRoutes => "accept_routes".toList
  | .addressLists => "address_lists".toList
  | .maxDownMbps => "max_down_mbps".toList
  | .policyRoutes => "policy_routes".toList
  | .presharedKey => "preshared_key".toList
  | .proxyEnabled => "proxy_enabled".toList
  | .proxyRawUri => "proxy_raw_uri".toList
  | .proxyTunDev => "proxy_tun_dev".toList
  | .secondaryDns => "secondary_dns".toList
  | .sessionToken => "session_token".toList
  | .staticLeases => "static_leases".toList
  | .validityDays => "validity_days".toList
  | .wifiPassword => "wifi_password".toList
  | .wifiSecurity => "wifi_security".toList
  | .nasIdentifier => "nas_identifier".toList
  | .proxySecurity => "proxy_security".toList
  | .proxyStrategy => "proxy_strategy".toList
  | .rateDownKbps => "rate_down_kbps".toList
  | .adblockEnabled => "adblock_enabled".toList
  | .clientKeyPath => "client_key_path".toList
  | .dhcpLeaseTime => "dhcp_lease_time".toList
  | .proxyRawUri2 => "proxy_raw_uri_2".toList
  | .proxyRawUri3 => "proxy_raw_uri_3".toList
  | .proxyTransport => "proxy_transport".toList
  | .timeoutSeconds => "timeout_seconds".toList
  | .tlsVerifyCert => "tls_verify_cert".toList
  | .advertiseRoutes => "advertise_routes".toList
  | .blockWanProbes => "block_wan_probes".toList
  | .clientCertPath => "client_cert_path".toList
  | .cloakTraceroute => "cloak_traceroute".toList
  | .fastDnsEnabled => "fast_dns_enabled".toList
  | .interimInterval => "interim_interval".toList
  | .proxyEncryption => "proxy_encryption".toList
  | .syntheticPrefix => "synthetic_prefix".toList
  | .allowRemoteMgmt => "allow_remote_mgmt".toList
  | .bandwidthUpMbps => "bandwidth_up_mbps".toList
  | .starlinkWanName => "starlink_wan_name".toList
  | .clientPrivateKey => "client_private_key".toList
  | .notifyOnFailover => "notify_on_failover".toList
  | .notifyOnRecovery => "notify_on_recovery".toList
  | .proxyStrategyStr => "proxy_strategy_str".toList
  | .smartIpv6Bonding => "smart_ipv6_bonding".toList
  | .bandwidthDownMbps => "bandwidth_down_mbps".toList
  | .primaryVoipWanId => "primary_voip_wan_id".toList
  | .p2pThrottleEnabled => "p2p_throttle_enabled".toList
  | .persistentKeepalive => "persistent_keepalive".toList
  | .maxAcceptableRttMs => "max_acceptable_rtt_ms".toList
  | .primaryGamingWanId => "primary_gaming_wan_id".toList
  | .voipPriorityEnabled => "voip_priority_enabled".toList
  | .voipSteeringEnabled => "voip_steering_enabled".toList
  | .bulkBalancingEnabled => "bulk_balancing_enabled".toList
  | .p2pThrottleRateKbps => "p2p_throttle_rate_kbps".toList
  | .strictBankingEnabled => "strict_banking_enabled".toList
  | .gamingPriorityEnabled => "gaming_priority_enabled".toList
  | .gamingSteeringEnabled => "gaming_steering_enabled".toList
  | .maxAcceptableLossPct => "max_acceptable_loss_pct".toList
  | .dynamicLatencySteering => "dynamic_latency_steering".toList
  | .streamingBalanceEnabled => "streaming_balance_enabled".toList

/-- Every key, in the order of the enumeration. -/
def all : List Key :=
  [.id, .ip, .dns, .dpi, .lan, .mac, .mru, .mss, .mtu, .qos, .vpn, .web, .auth, .dns1, .dns2,
   .name, .nwid, .port, .ssid, .type, .wans, .label, .nat46, .peers, .proto, .state, .users,
   .groups, .prober, .radius, .secret, .server, .sticky, .subnet, .weight, .acName, .address,
   .bindIp, .chatId, .comment, .enabled, .entries, .gateway, .netmask, .nodeId, .profile,
   .stealth, .authKey, .coaPort, .dhcpEnd, .endpoint, .hostname, .lanMode, .localIp, .networks,
   .password, .poolEnd, .profiles, .tableId, .telegram, .username, .zerotier, .acctPort,
   .algorithm, .authPort, .botToken, .diffserv4, .interface, .proxySni, .staticIp, .tailscale,
   .targetId, .ttlValue, .wifiSsid, .wireguard, .createdAt, .customMac, .dhcpStart, .expiresAt,
   .gatewayIp, .poolStart, .proxyHost, .proxyPath, .proxyPort, .proxyUuid, .publicKey, .timeoutMs,
   .allowedIps, .description, .intervalMs, .listenPort, .lossWindow, .maxUpMbps, .primaryDns,
   .privateKey, .proxyProto, .rateLimits, .targetName, .targetType, .appSteering, .caCertPath,
   .dhcpEnabled, .isExitNode, .loginServer, .maxSessions, .mssClamping, .pppPassword,
   .pppUsername, .pppoeServer, .probeTarget, .proxyServer, .rateUpKbps, .serviceName,
   .sniHostname, .targetGroup, .upstreamDns, .acceptRoutes, .addressLists, .maxDownMbps,
   .policyRoutes, .presharedKey, .proxyEnabled, .proxyRawUri, .proxyTunDev, .secondaryDns,
   .sessionToken, .staticLeases, .validityDays, .wifiPassword, .wifiSecurity, .nasIdentifier,
   .proxySecurity, .proxyStrategy, .rateDownKbps, .adblockEnabled, .clientKeyPath, .dhcpLeaseTime,
   .proxyRawUri2, .proxyRawUri3, .proxyTransport, .timeoutSeconds, .tlsVerifyCert,
   .advertiseRoutes, .blockWanProbes, .clientCertPath, .cloakTraceroute, .fastDnsEnabled,
   .interimInterval, .proxyEncryption, .syntheticPrefix, .allowRemoteMgmt, .bandwidthUpMbps,
   .starlinkWanName, .clientPrivateKey, .notifyOnFailover, .notifyOnRecovery, .proxyStrategyStr,
   .smartIpv6Bonding, .bandwidthDownMbps, .primaryVoipWanId, .p2pThrottleEnabled,
   .persistentKeepalive, .maxAcceptableRttMs, .primaryGamingWanId, .voipPriorityEnabled,
   .voipSteeringEnabled, .bulkBalancingEnabled, .p2pThrottleRateKbps, .strictBankingEnabled,
   .gamingPriorityEnabled, .gamingSteeringEnabled, .maxAcceptableLossPct, .dynamicLatencySteering,
   .streamingBalanceEnabled]

theorem getElem?_all (k : Key) : all[k.ctorIdx]? = some k := by cases k <;> rfl

/-- A text read as a number. -/
def code (s : CStr) : Nat := s.foldl (fun n c => n * 256 + c.toNat) 0

/-- The numbers of two literals are compared on their characters. -/
theorem code_lt {s t : String} (hs : s = String.ofList l) (ht : t = String.ofList l')
    (h : code l < code l') : code s.toList < code t.toList := by
  rw [hs, ht, String.toList_ofList, String.toList_ofList]
  exact h

theorem isChain_code : (all.map fun k => code k.text).IsChain (· < ·) := by
  repeat refine .cons_cons (code_lt rfl rfl (by decide +kernel)) ?_
  exact .singleton _

theorem text_injective (k k' : Key) (h : k.text = k'.text) : k = k' := by
  have hnodup : (all.map fun k => code k.text).Nodup :=
    (List.isChain_iff_pairwise.mp isChain_code).imp Nat.ne_of_lt
  have hmem (k : Key) : k ∈ all := List.mem_of_getElem? (getElem?_all k)
  exact List.inj_on_of_nodup_map hnodup (hmem k) (hmem k') (congrArg code h)

/-- Words that `config_save` itself puts into the file as values. -/
def fixedWords : List CStr :=
  [['e', 't', 'h', '0'], ['c', 'a', 'k', 'e'], ['d', 'u', 'a', 'l'], ['s', 't', 'a', 't', 'i', 'c'],
   ['d', 'h', 'c', 'p'], ['p', 'p', 'p', 'o', 'e'], ['w', 'i', 'f', 'i'], ['v', 'l', 'e', 's', 's'],
   ['w', 's'], ['t', 'l', 's'], ['r', 'a', 'd', 's', 'e', 'c'], ['u', 'd', 'p'], ['w', 'g', '0'],
   ['g', 'r', 'o', 'u', 'p']]

/-- What holds of the characters of a literal holds of the literal. -/
theorem of_literal {P : CStr → Prop} {s : String} {l : List Char} (hs : s = String.ofList l) (h : P l) :
    P s.toList := by
  rw [hs, String.toList_ofList]
  exact h

/-- The spelling of a key: not empty, made of word characters, and none of the fixed words. -/
def Spelling (s : CStr) : Prop := s ≠ [] ∧ (s.all isWord) = true ∧ s ∉ fixedWords

instance (s : CStr) : Decidable (Spelling s) := inferInstanceAs (Decidable (_ ∧ _ ∧ _))

theorem spelling_text (k : Key) : Spelling k.text := by
  cases k <;> exact of_literal rfl (by decide +kernel)

end Key

instance : Spelled Key where
  name := Key.text
  name_injective := Key.text_injective
  name_ne_nil k := (Key.spelling_text k).1
  name_word k := List.all_eq_true.mp (Key.spelling_text k).2.1

end FluxWAN
