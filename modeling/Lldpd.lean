import Lldpd.L2Marshal.Safety
import Lldpd.L2Proto.Cdp.Padding
import Lldpd.L2Proto.Cdp.RoundTrip
import Lldpd.L2Proto.Lldp.RoundTrip
import Lldpd.L2Proto.Sonmp.Safety
import Lldpd.L3Daemon.Agent
import Lldpd.L3Daemon.EdpNeighbor
import Lldpd.L3Daemon.EdpTable
import Lldpd.L3Daemon.Filter
import Lldpd.L3Daemon.Interfaces
import Lldpd.L3Daemon.Leak
import Lldpd.L3Daemon.MgmtAddress
import Lldpd.L3Daemon.Monitor
import Lldpd.L3Daemon.Send
import Lldpd.L3Daemon.Timer
import Lldpd.L3Daemon.Visible
import Lldpd.L4Control.Completion
import Lldpd.L4Control.Framing
import Lldpd.L4Control.Location
import Lldpd.L4Control.Notifications
import Lldpd.L4Control.Requests
import Lldpd.L4Control.SetPort
import Lldpd.L4Control.Tokenizer
import Lldpd.L4Ovsdb.Conserve
import Lldpd.L4Ovsdb.EnableDir
import Lldpd.L4Ovsdb.Identifiers
import Lldpd.L4Ovsdb.Mirror
import Lldpd.L4Ovsdb.Monotone
import Lldpd.L4Ovsdb.Poll
import Lldpd.L4Ovsdb.Ttl
import Lldpd.L4Ovsdb.Vlans
