/-
  The dispatch chain of the web server (`src/web_server.c`: `web_server_process_client_impl`).

  One `if (strstr(req, "METHOD /path") …) else if …` chain, taken in order: the first branch one of whose
  patterns occurs ANYWHERE in the text of the request gets it.  `routes` is the chain as data — the
  branches in the source's order, each with its patterns — and `routeOf` the walk along it.
-/
import FluxWAN.Lib.CString

namespace FluxWAN.Web

open CString

/-- The branches of the chain, except the last one, which serves the dashboard. -/
inductive Endpoint where
  | login | wanProxyParseUri | wanProxyTest | interfaces | wifiScan | wifiStatus | status | metrics
  | debug | dhcpLeases | logs | license | licenseActivate | groupsList | groupsDelete | groups
  | policyRoutesList | policyRoutesDelete | policyRoutes | addressListsList | addressListsDelete
  | addressLists | leases | leasesStaticDelete | leasesStatic | ratelimitsDelete | ratelimits | qos
  | dns | appSteering | dpiStats | dpiPolicy | telegramTest | telegram | systemBackup
  | systemRestore | systemReset | systemCheckUpdate | systemUpgrade | systemRollback | wansRenew
  | clientsList | broadbandStatus | broadbandSessions | broadbandToggle | broadbandConfig
  | broadbandUsersDelete | broadbandUsersRenew | broadbandUsersToggle | broadbandUsers
  | broadbandProfilesDelete | broadbandProfiles | broadbandSessionsDisconnect | broadbandRadius
  | vpnStatus | vpnWireguardToggle | vpnWireguardConfig | vpnWireguardGenkeys
  | vpnWireguardPeersDelete | vpnWireguardPeers | vpnWireguardClientConf | vpnZerotierToggle
  | vpnZerotierConfig | vpnZerotierJoin | vpnZerotierLeave | vpnTailscaleToggle | vpnTailscaleUp
  | vpnTailscaleDown | vpnTailscaleConfig | broadbandExportCsv | broadbandImport | stealth
  | clientsBlock | diagnosticsSpeedtest | diagnosticsGamingPing | apply | terminal
  | diagnosticsPcap | telemetry
  deriving DecidableEq, Repr

/-- The chain: which patterns lead into which branch. -/
def routes : List (Endpoint × List CStr) := [
  (.login, ["POST /api/v1/login".toList]), (.wanProxyParseUri, ["POST /api/v1/wan/proxy/parse_uri".toList]),
  (.wanProxyTest, ["POST /api/v1/wan/proxy/test".toList]), (.interfaces, ["GET /api/v1/interfaces".toList]),
  (.wifiScan, ["GET /api/v1/wifi/scan".toList]), (.wifiStatus, ["GET /api/v1/wifi/status".toList]),
  (.status, ["GET /api/v1/status".toList]), (.metrics, ["GET /api/v1/metrics".toList, "GET /metrics".toList]),
  (.debug, ["GET /api/v1/debug".toList]), (.dhcpLeases, ["GET /api/v1/dhcp/leases".toList]),
  (.logs, ["GET /api/v1/logs".toList]), (.license, ["GET /api/v1/license".toList]),
  (.licenseActivate, ["POST /api/v1/license/activate".toList]), (.groupsList, ["GET /api/v1/groups".toList]),
  (.groupsDelete, ["POST /api/v1/groups/delete".toList]), (.groups, ["POST /api/v1/groups".toList]),
  (.policyRoutesList, ["GET /api/v1/policy_routes".toList]),
  (.policyRoutesDelete, ["POST /api/v1/policy_routes/delete".toList]),
  (.policyRoutes, ["POST /api/v1/policy_routes".toList]), (.addressListsList, ["GET /api/v1/address_lists".toList]),
  (.addressListsDelete, ["POST /api/v1/address_lists/delete".toList]),
  (.addressLists, ["POST /api/v1/address_lists".toList]),
  (.leases, ["GET /api/v1/leases".toList, "GET /api/v1/dhcp/leases".toList]),
  (.leasesStaticDelete, ["POST /api/v1/leases/static/delete".toList]),
  (.leasesStatic, ["POST /api/v1/leases/static".toList]),
  (.ratelimitsDelete, ["POST /api/v1/ratelimits/delete".toList]), (.ratelimits, ["POST /api/v1/ratelimits".toList]),
  (.qos, ["POST /api/v1/qos".toList]), (.dns, ["POST /api/v1/dns".toList]),
  (.appSteering, ["POST /api/v1/app_steering".toList]),
  (.dpiStats, ["GET /api/v1/dpi/stats".toList, "GET /api/v1/dpi".toList]),
  (.dpiPolicy, ["POST /api/v1/dpi/policy".toList, "POST /api/v1/dpi".toList]),
  (.telegramTest, ["POST /api/v1/telegram/test".toList]), (.telegram, ["POST /api/v1/telegram".toList]),
  (.systemBackup, ["GET /api/v1/system/backup".toList]), (.systemRestore, ["POST /api/v1/system/restore".toList]),
  (.systemReset, ["POST /api/v1/system/reset".toList]),
  (.systemCheckUpdate, ["GET /api/v1/system/check_update".toList]),
  (.systemUpgrade, ["POST /api/v1/system/upgrade".toList]), (.systemRollback, ["POST /api/v1/system/rollback".toList]),
  (.wansRenew, ["POST /api/v1/wans/renew".toList]), (.clientsList, ["GET /api/v1/clients".toList]),
  (.broadbandStatus, ["GET /api/v1/broadband/status".toList]),
  (.broadbandSessions, ["GET /api/v1/broadband/sessions".toList]),
  (.broadbandToggle, ["POST /api/v1/broadband/toggle".toList]),
  (.broadbandConfig, ["POST /api/v1/broadband/config".toList]),
  (.broadbandUsersDelete, ["POST /api/v1/broadband/users/delete".toList]),
  (.broadbandUsersRenew, ["POST /api/v1/broadband/users/renew".toList]),
  (.broadbandUsersToggle, ["POST /api/v1/broadband/users/toggle".toList]),
  (.broadbandUsers, ["POST /api/v1/broadband/users".toList]),
  (.broadbandProfilesDelete, ["POST /api/v1/broadband/profiles/delete".toList]),
  (.broadbandProfiles, ["POST /api/v1/broadband/profiles".toList]),
  (.broadbandSessionsDisconnect, ["POST /api/v1/broadband/sessions/disconnect".toList]),
  (.broadbandRadius, ["POST /api/v1/broadband/radius".toList, "POST /api/v1/pppoe/radius".toList]),
  (.vpnStatus, ["GET /api/v1/vpn/status".toList]), (.vpnWireguardToggle, ["POST /api/v1/vpn/wireguard/toggle".toList]),
  (.vpnWireguardConfig, ["POST /api/v1/vpn/wireguard/config".toList]),
  (.vpnWireguardGenkeys, ["POST /api/v1/vpn/wireguard/genkeys".toList]),
  (.vpnWireguardPeersDelete, ["POST /api/v1/vpn/wireguard/peers/delete".toList]),
  (.vpnWireguardPeers, ["POST /api/v1/vpn/wireguard/peers".toList]),
  (.vpnWireguardClientConf, ["POST /api/v1/vpn/wireguard/client-conf".toList]),
  (.vpnZerotierToggle, ["POST /api/v1/vpn/zerotier/toggle".toList]),
  (.vpnZerotierConfig, ["POST /api/v1/vpn/zerotier/config".toList]),
  (.vpnZerotierJoin, ["POST /api/v1/vpn/zerotier/join".toList]),
  (.vpnZerotierLeave, ["POST /api/v1/vpn/zerotier/leave".toList]),
  (.vpnTailscaleToggle, ["POST /api/v1/vpn/tailscale/toggle".toList]),
  (.vpnTailscaleUp, ["POST /api/v1/vpn/tailscale/up".toList]),
  (.vpnTailscaleDown, ["POST /api/v1/vpn/tailscale/down".toList]),
  (.vpnTailscaleConfig, ["POST /api/v1/vpn/tailscale/config".toList]),
  (.broadbandExportCsv, ["GET /api/v1/broadband/export.csv".toList]),
  (.broadbandImport, ["POST /api/v1/broadband/import".toList]), (.stealth, ["POST /api/v1/stealth".toList]),
  (.clientsBlock, ["POST /api/v1/clients/block".toList]),
  (.diagnosticsSpeedtest, ["POST /api/v1/diagnostics/speedtest".toList]),
  (.diagnosticsGamingPing, ["GET /api/v1/diagnostics/gaming_ping".toList]),
  (.apply, ["POST /api/v1/assign".toList, "POST /api/v1/apply".toList]),
  (.terminal, ["POST /api/v1/terminal".toList, "POST /api/v1/exec".toList]),
  (.diagnosticsPcap, ["GET /api/v1/diagnostics/pcap".toList]), (.telemetry, ["GET /api/v1/telemetry".toList])]

/-- The text contains the pattern. -/
def mentions (req pattern : CStr) : Bool := (strstr req pattern).isSome

/-- The first branch whose test succeeds; `none` is the final `else`. -/
def routeOf (req : CStr) : Option Endpoint :=
  (routes.find? fun route => route.2.any (mentions req)).map Prod.fst

end FluxWAN.Web
