import Xupnp.Library.Run
import Xupnp.Library.CString
import Xupnp.Library.Links
import Xupnp.Library.Assoc
import Xupnp.Library.Fields
import Xupnp.Library.Escape
import Xupnp.Library.Replace
import Xupnp.Library.OutBuffer
import Xupnp.Library.ReadThrough
import Xupnp.Library.GList
import Xupnp.Library.MainLoop
import Xupnp.WhiteList.Model
import Xupnp.WhiteList.Lookup
import Xupnp.WhiteList.WellFormed
import Xupnp.WhiteList.Collision
import Xupnp.WhiteList.Flat
import Xupnp.WhiteList.FiniteMap
import Xupnp.WhiteList.Conservation
import Xupnp.Library.Inet
import Xupnp.Library.SortedTable
import Xupnp.Library.Stdio
import Xupnp.Library.Siblings
import Xupnp.Library.EditInTurn
import Xupnp.Discovery.Device
import Xupnp.Discovery.Publish
import Xupnp.Discovery.DeviceList
import Xupnp.Discovery.Services
import Xupnp.Discovery.Callbacks
import Xupnp.WhiteList.Presence
import Xupnp.WhiteList.Delete
import Xupnp.WhiteList.Uninitialised
import Xupnp.WhiteList.Acyclic
import Xupnp.Discovery.Table
import Xupnp.Discovery.Frames
import Xupnp.Discovery.Steps
import Xupnp.Discovery.Scan
import Xupnp.Discovery.Ownership
import Xupnp.Discovery.Routing
import Xupnp.Discovery.Trace
import Xupnp.Discovery.WhiteListing
import Xupnp.Discovery.Routes
import Xupnp.Library.Utf8
import Xupnp.Library.Reader
import Xupnp.Library.Json
import Xupnp.Library.JsonLines
import Xupnp.Library.Shell
import Xupnp.Discovery.Document
import Xupnp.Discovery.Command
import Xupnp.Discovery.GatewayCount
import Xupnp.Discovery.DeviceInfo
import Xupnp.Discovery.ReplaceString
import Xupnp.Discovery.OwnAddress
import Xupnp.Discovery.Repeated
import Xupnp.Discovery.PlayUrl
import Xupnp.Discovery.HostName
import Xupnp.Discovery.Telemetry
import Xupnp.Discovery.Mandatory
import Xupnp.Discovery.Requests
import Xupnp.Discovery.Handlers
import Xupnp.Discovery.DeviceAddNo
import Xupnp.XcalDevice.AccountId
import Xupnp.Idm.Model
import Xupnp.Idm.Intervals
import Xupnp.Library.Alternating
import Xupnp.Idm.Steps
import Xupnp.Idm.Admission
import Xupnp.Idm.Interleaving
import Xupnp.Idm.InfoCopies
import Xupnp.Idm.RemoveEntries
import Xupnp.Library.Mutex
import Xupnp.MediaBrowser.Model
import Xupnp.MediaBrowser.Locking
import Xupnp.MediaBrowser.Registry
import Xupnp.MediaBrowser.Client
import Xupnp.MediaBrowser.Rpc
import Xupnp.XcalDevice.TimeZone
import Xupnp.XcalDevice.SystemIds
import Xupnp.XcalDevice.SysEvents
import Xupnp.XcalDevice.PlaybackUrl
import Xupnp.XcalDevice.Mirror
import Xupnp.XcalDevice.UriValue
import Xupnp.XcalDevice.Escapes
import Xupnp.XcalDevice.DeviceName
import Xupnp.XcalDevice.Ipv6Prefix
import Xupnp.XcalDevice.TokenReads
import Xupnp.XcalDevice.DevFile
import Xupnp.XcalDevice.DiagFile
import Xupnp.XcalDevice.DeviceId
import Xupnp.XcalDevice.Getters
import Xupnp.XcalDevice.Hosts
import Xupnp.XcalDevice.IpSubnet
import Xupnp.XcalDevice.BroadbandGetters
import Xupnp.XcalDevice.BroadbandContract
import Xupnp.XcalDevice.XmlTree
import Xupnp.XcalDevice.UpdateXml
import Xupnp.XcalDevice.Callbacks
import Xupnp.XcalDevice.Requests
import Xupnp.Library.Turns
import Xupnp.Library.Channel
import Xupnp.Library.OnChange
import Xupnp.Library.Serving
import Xupnp.Library.Xml
import Xupnp.Discovery.Turns
import Xupnp.Discovery.Nesting
import Xupnp.Discovery.ZoneBroadcast
import Xupnp.Discovery.Watchdog
import Xupnp.XcalDevice.SystemValues
import Xupnp.XcalDevice.RuiListing
import Xupnp.System.Subscription
import Xupnp.System.ZoneRelay
import Xupnp.System.ServedDevice
import Xupnp.System.Inquiry
import Xupnp.System.RouteData
