import VpnPack.Cleanup.Resources
import VpnPack.Exit.Cleared
import VpnPack.Exit.Exclusion
import VpnPack.Exit.Settle
import VpnPack.Exit.Watcher
import VpnPack.Firewall.ChainOrder
import VpnPack.Firewall.Presence
import VpnPack.Firewall.SetupAtomic
import VpnPack.Firewall.SetupUndone
import VpnPack.Httpmw.Gates
import VpnPack.Logredact.Hidden
import VpnPack.Server.Degraded
import VpnPack.Server.Flight
import VpnPack.Server.Guard
import VpnPack.Service.ApiKey
import VpnPack.Service.Diagnostics
import VpnPack.Service.Endpoints
import VpnPack.Service.PeerConfig
import VpnPack.Service.PortFile
import VpnPack.Service.RelayPort
import VpnPack.Service.WatcherRuns
import VpnPack.Sse.Hub
import VpnPack.State.Loading
import VpnPack.State.LogBuffer
import VpnPack.State.Restart
import VpnPack.State.WriteFailed
import VpnPack.Udapi.Batch
import VpnPack.Udapi.Isolation
import VpnPack.Udapi.Linearized
import VpnPack.Ui.Addresses
import VpnPack.Wgs2s.ClaimUndone
import VpnPack.Wgs2s.Names
import VpnPack.Wgs2s.OwnerMap
import VpnPack.Wgs2s.Restored
import VpnPack.Wgs2s.RouteHistory
