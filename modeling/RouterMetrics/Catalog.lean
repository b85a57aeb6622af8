import RouterMetrics.Catalog.Groups

/-!
The catalog: the metric groups that a device's configuration can name.
-/

namespace RouterMetrics.Catalog

/-- The groups of a device. -/
def groups : List Group :=
  [interface, interfaceMonitor, dhcp, systemResource, health, identity, pool, route, ipv6Route,
   firewall, ipv6Firewall, ipv6Neighbor, arp, bridgeHosts, netwatch, publicIp, installedPackages,
   wifi, wifiClients, queueTree, queueSimple, wireguard, wireguardPeers, poe, user, bgp, capsman,
   kidControlDevices]

/-- The names of the groups. -/
def names : List String := groups.map (·.name)

/-- Whether a group has a name. -/
def isKnown (name : String) : Bool := names.contains name

/-- The group of a name. -/
def group? (name : String) : Option Group := groups.find? fun g => g.name == name

/-- The collector of the group of a name, with the identity its records get and its interval. -/
def build (name : String) (identity : List (String × String)) (interval : Duration) :
    Except LoadError Collector :=
  match group? name with
  | some g => .ok (g.collector identity interval)
  | none => .error (.config ("unknown collector '" ++ name ++ "'"))

end RouterMetrics.Catalog
