import RouterMetrics.Catalog.Rows
import RouterMetrics.Catalog.Translations

/-!
The metric groups of a device: which path is listed, what is done with the rows, and which series
are read from them.
-/

namespace RouterMetrics.Catalog

/-- An information series with the labels of its store. -/
def info (name help : String) : SeriesDef := ⟨.info, name, help, none, none⟩

/-- A gauge with the labels of its store. -/
def gauge (name help field : String) : SeriesDef := ⟨.gauge, name, help, some field, none⟩

/-- A counter with the labels of its store. -/
def counter (name help field : String) : SeriesDef := ⟨.counter, name, help, some field, none⟩

/-- A group of one stage. -/
def single (name : String) (stage : Stage) : Group := ⟨name, [stage]⟩

/-- A group that only lists what is there. -/
def inventory (name path : String) (labels : List String) (series help : String) : Group :=
  single name (.plain (listItems path []) labels [info series help])

def interface : Group := single "interface"
  { Stage.plain (listItems "interface" [])
      ["id", "name", "comment", "type", "mtu", "mac_address", "running"]
      [counter "interface_rx_byte" "Number of received bytes" "rx_byte",
       counter "interface_tx_byte" "Number of transmitted bytes" "tx_byte",
       counter "interface_rx_packet" "Number of packets received" "rx_packet",
       counter "interface_tx_packet" "Number of transmitted packets" "tx_packet",
       counter "interface_rx_error" "Number of packets received with an error" "rx_error",
       counter "interface_tx_error" "Number of packets transmitted with an error" "tx_error",
       counter "interface_rx_drop" "Number of received packets being dropped" "rx_drop",
       counter "interface_tx_drop" "Number of transmitted packets being dropped" "tx_drop",
       counter "link_downs" "Number of times link went down" "link_downs"] with
    rowRule := onlyRows isRunning }

def interfaceMonitor : Group := single "interface_monitor"
  { Stage.plain
      (MonitorPath.fetch
        ⟨"interface/ethernet", some ".id,name,comment,running,disabled", true, false⟩)
      ["id", "name", "comment"]
      [gauge "interface_status" "Current interface link status" "status",
       gauge "interface_rate" "Actual interface connection data rate" "rate",
       gauge "interface_full_duplex" "Full duplex data transmission" "full_duplex",
       gauge "interface_sfp_temperature" "Current SFP temperature" "sfp_temperature"] with
    translations :=
      [⟨"status", linkStatus⟩, ⟨"rate", rate⟩, ⟨"full_duplex", flagIfPresent⟩] }

def dhcp : Group :=
  let perLease := SeriesDef.by ["mac_address", "comment", "client_id"]
  single "dhcp"
    { Stage.plain (listItems "ip/dhcp-server/lease" [])
        ["active_address", "address", "mac_address", "host_name", "comment", "server", "dynamic",
         "client_id", "status", "address_lists"]
        [info "dhcp_lease" "DHCP active leases",
         perLease (gauge "dhcp_lease_expiry" "DHCP active lease expiry" "expires_after"),
         perLease (gauge "dhcp_lease_last_seen" "DHCP active lease last seen" "last_seen")] with
      translations := [⟨"expires_after", duration⟩, ⟨"last_seen", duration⟩]
      publishesLeases := true }

def systemResource : Group :=
  let perBoard := SeriesDef.by ["board_name", "cpu", "architecture_name"]
  single "system_resource"
    { Stage.plain (listItems "system/resource" [])
        ["version", "channel", "current_version", "cpu", "architecture_name", "board_name"]
        [info "system" "System resource information",
         perBoard (counter "system_uptime" "Time interval since boot-up" "uptime"),
         perBoard (gauge "system_free_memory" "Unused amount of RAM" "free_memory"),
         perBoard (gauge "system_total_memory" "Amount of installed RAM" "total_memory"),
         perBoard (gauge "system_free_hdd_space" "Free space on hard drive or NAND"
           "free_hdd_space"),
         perBoard (gauge "system_total_hdd_space" "Size of the hard drive or NAND"
           "total_hdd_space"),
         perBoard (gauge "system_cpu_load" "Percentage of used CPU resources" "cpu_load"),
         perBoard (gauge "system_cpu_count" "Number of CPUs present on the system" "cpu_count"),
         perBoard (gauge "system_cpu_frequency" "Current CPU frequency" "cpu_frequency"),
         perBoard (gauge "system_hdd_bad_blocks_percent" "HDD bad block percentage" "bad_blocks"),
         perBoard (counter "system_hdd_write_sector_count" "HDD written sector count"
           "write_sect_total")] with
      rowRule := rowRule fun _ => splitVersion
      translations := [⟨"uptime", durationOrZero⟩, ⟨"bad_blocks", percent⟩] }

def health : Group := single "health"
  { Stage.plain (listItems "system/health" []) []
      [gauge "system_routerboard_voltage" "Supplied routerboard voltage" "voltage",
       gauge "system_routerboard_temperature" "Routerboard current temperature" "temperature",
       gauge "system_routerboard_phy_temperature" "Routerboard PHY temperature" "phy_temperature",
       gauge "system_cpu_temperature" "CPU current temperature" "cpu_temperature",
       gauge "system_switch_temperature" "Switch chip current temperature" "switch_temperature",
       gauge "system_fan_one_speed" "System fan 1 current speed" "fan1_speed",
       gauge "system_fan_two_speed" "System fan 2 current speed" "fan2_speed",
       gauge "system_fan_three_speed" "System fan 3 current speed" "fan3_speed",
       gauge "system_fan_four_speed" "System fan 4 current speed" "fan4_speed",
       gauge "system_power_consumption" "System power consumption" "power_consumption"] with
    rowRule := rowRule fun _ => foldReading }

def identity : Group :=
  inventory "identity" "system/identity" ["name"] "system_identity" "System identity"

def pool : Group :=
  inventory "pool" "ip/pool/used" ["pool", "address", "owner", "info"] "ip_pool_device"
    "IP pool used addresses"

/-- The labels of a route. -/
def routeLabels : List String :=
  ["comment", "type", "dst_address", "gateway", "distance", "connect", "dynamic", "bgp", "ospf",
   "active"]

def route : Group := inventory "route" "ip/route" routeLabels "routes" "Routing table entries"

def ipv6Route : Group :=
  inventory "ipv6_route" "ipv6/route" routeLabels "ipv6_routes" "Routing table entries"

/-- The rules of one firewall table. -/
def firewallTable (path table suffix : String) : Stage :=
  .plain (listItems (path ++ table) []) ["chain", "action", "comment"]
    [counter ("firewall_" ++ table ++ suffix ++ "_bytes")
       ("Bytes matched by " ++ table ++ " rules") "bytes",
     counter ("firewall_" ++ table ++ suffix ++ "_packets")
       ("Packets matched by " ++ table ++ " rules") "packets"]

/-- The tables of a firewall. -/
def firewallTables : List String := ["filter", "mangle", "raw"]

def firewall : Group :=
  ⟨"firewall", firewallTables.map fun t => firewallTable "ip/firewall/" t ""⟩

def ipv6Firewall : Group :=
  ⟨"ipv6_firewall", firewallTables.map fun t => firewallTable "ipv6/firewall/" t "_ipv6"⟩

def ipv6Neighbor : Group := single "ipv6_neighbor"
  { Stage.plain (listItems "ipv6/neighbor" [("status", "reachable")])
      ["address", "interface", "mac_address", "status", "router", "dhcp_name", "dhcp_address",
       "dhcp_comment"]
      [info "ipv6_neighbor" "Reachable IPv6 neighbors"] with
    rowRule := rowRule withLease }

def arp : Group := single "arp"
  { Stage.plain (listItems "ip/arp" [])
      ["mac_address", "address", "interface", "status", "dynamic", "dhcp_name", "dhcp_comment",
       "dhcp_lease_type"]
      [info "arp_entry" "ARP entry"] with
    rowRule := rowRule withLeaseKind }

def bridgeHosts : Group := single "bridge_hosts"
  { Stage.plain (listItems "interface/bridge/host" [("local", "false"), ("external", "true")])
      ["mac_address", "vid", "bridge", "interface", "on_interface", "dhcp_name", "dhcp_comment",
       "dhcp_address"]
      [info "bridge_host" "Bridge host table entries"] with
    rowRule := rowRule withLease }

def netwatch : Group := single "netwatch"
  { Stage.plain (listItems "tool/netwatch" [("disabled", "false")])
      ["name", "host", "comment", "timeout", "interval", "type"]
      [gauge "netwatch_status" "Netwatch status" "status",
       gauge "netwatch_since" "Netwatch status since" "since",
       gauge "netwatch_icmp_loss_count" "Netwatch ICMP loss count" "loss_count",
       gauge "netwatch_icmp_response_count" "Netwatch ICMP response count" "response_count",
       gauge "netwatch_icmp_sent_count" "Netwatch ICMP sent count" "sent_count",
       gauge "netwatch_icmp_rtt_avg" "Netwatch ICMP RTT average" "rtt_avg",
       gauge "netwatch_icmp_rtt_jitter" "Netwatch ICMP RTT jitter" "rtt_jitter",
       gauge "netwatch_icmp_rtt_max" "Netwatch ICMP RTT max" "rtt_max",
       gauge "netwatch_icmp_rtt_min" "Netwatch ICMP RTT min" "rtt_min",
       gauge "netwatch_icmp_rtt_stdev" "Netwatch ICMP RTT standard deviation" "rtt_stdev",
       gauge "netwatch_http_status_code" "Netwatch HTTP status code" "http_status_code",
       gauge "netwatch_http_response_time" "Netwatch HTTP response time" "http_resp_time",
       gauge "netwatch_tcp_connect_time" "Netwatch TCP connect time" "tcp_connect_time"] with
    rowRule := rowRule fun _ => dropLossy
    translations := [⟨"status", upStatus⟩, ⟨"since", datetime⟩] ++
      ["rtt_avg", "rtt_jitter", "rtt_max", "rtt_min", "rtt_stdev", "http_resp_time",
       "tcp_connect_time"].map fun field => ⟨field, duration⟩ }

def publicIp : Group := single "public_ip"
  { Stage.plain (listItems "ip/cloud" []) ["public_address", "dns_name", "public_address_ipv6"]
      [info "public_ip_address" "Public IP address"] with
    translations := [⟨"dns_name", ddnsName⟩, ⟨"public_address_ipv6", emptyIfAbsent⟩] }

def installedPackages : Group :=
  inventory "installed_packages" "system/package" ["name", "version", "build_time", "disabled"]
    "installed_packages" "Installed packages"

def wifi : Group :=
  let perInterface := SeriesDef.by ["id", "name", "comment"]
  ⟨"wifi",
    [.plain (listItems "interface/wifi" [])
       ["id", "name", "comment", "configuration", "configuration_mode", "configuration_ssid",
        "mac_address", "master"]
       [info "wifi_interfaces" "Wifi interfaces"],
     .plain (MonitorPath.fetch ⟨"interface/wifi", none, false, false⟩)
       ["id", "name", "comment", "state", "channel", "tx_power"]
       [info "wifi_interfaces_monitor" "Wifi interfaces monitor",
        perInterface (gauge "wifi_interface_registered_peers" "Wifi interface registered peers"
          "registered_peers"),
        perInterface (gauge "wifi_interface_authorized_peers" "Wifi interface authorized peers"
          "authorized_peers")]]⟩

def wifiClients : Group :=
  let perClient := SeriesDef.by ["mac_address", "dhcp_name", "dhcp_comment"]
  single "wifi_clients"
    { Stage.plain (listItems "interface/wifi/registration-table" [])
        ["interface", "ssid", "mac_address", "dhcp_name", "dhcp_comment", "dhcp_address"]
        [info "wifi_clients_devices" "Registered client devices info",
         perClient (counter "wifi_clients_tx_bytes" "Number of sent packet bytes" "tx_bytes"),
         perClient (counter "wifi_clients_rx_bytes" "Number of received packet bytes" "rx_bytes"),
         perClient (gauge "wifi_clients_signal_strength" "Client devices signal strength" "signal"),
         perClient (gauge "wifi_clients_uptime" "Client devices uptime" "uptime"),
         perClient (gauge "wifi_clients_rx_rate" "Client devices RX bitrate" "rx_rate"),
         perClient (gauge "wifi_clients_tx_rate" "Client devices TX bitrate" "tx_rate")] with
      rowRule := splitClientBytes
      translations :=
        [⟨"uptime", durationOrZero⟩, ⟨"tx_rate", rateIfPresent⟩, ⟨"rx_rate", rateIfPresent⟩] }

/-- The labels of a queue. -/
def queueLabels : List String :=
  ["name", "parent", "packet_mark", "limit_at", "max_limit", "priority", "disabled"]

/-- A series with the name as its only label. -/
def byName : SeriesDef → SeriesDef := SeriesDef.by ["name"]

def queueTree : Group := single "queue_tree"
  (.plain (listItems "queue/tree" []) queueLabels
    [info "queue_tree" "Queue tree info",
     byName (counter "queue_tree_rates" "Average passing data rate in bytes per second" "rate"),
     byName (counter "queue_tree_bytes" "Number of processed bytes" "bytes"),
     byName (counter "queue_tree_queued_bytes" "Number of queued bytes" "queued_bytes"),
     byName (counter "queue_tree_dropped" "Number of dropped bytes" "dropped")])

def queueSimple : Group := single "queue_simple"
  { Stage.plain (listItems "queue/simple" []) queueLabels
      [info "queue_simple" "Simple queue info",
       byName (counter "queue_simple_bytes_upload" "Number of upload processed bytes" "bytes_up"),
       byName (counter "queue_simple_bytes_download" "Number of download processed bytes"
         "bytes_down"),
       byName (counter "queue_simple_queued_bytes_upload" "Number of upload queued bytes"
         "queued_bytes_up"),
       byName (counter "queue_simple_queued_bytes_download" "Number of download queued bytes"
         "queued_bytes_down"),
       byName (counter "queue_simple_dropped_upload" "Number of upload dropped bytes"
         "dropped_up"),
       byName (counter "queue_simple_dropped_download" "Number of download dropped bytes"
         "dropped_down")] with
    rowRule := rowRule fun _ => splitUpDown }

def wireguard : Group :=
  inventory "wireguard" "interface/wireguard"
    ["name", "mtu", "listen_port", "public_key", "comment", "running"] "wireguard_interfaces"
    "Wireguard interfaces"

def wireguardPeers : Group :=
  let perPeer := SeriesDef.by ["interface", "name", "comment"]
  single "wireguard_peers"
    { Stage.plain (listItems "interface/wireguard/peers" [])
        ["name", "interface", "public_key", "endpoint_address", "endpoint_port",
         "current_endpoint_address", "current_endpoint_port", "allowed_address", "comment"]
        [info "wireguard_peer" "Wireguard peer info",
         perPeer (gauge "wireguard_peer_last_handshake" "Seconds since the last handshake"
           "last_handshake"),
         perPeer (counter "wireguard_peer_tx_bytes" "Wireguard peer TX bytes" "tx"),
         perPeer (counter "wireguard_peer_rx_bytes" "Wireguard peer RX bytes" "rx")] with
      translations := [⟨"last_handshake", durationOrZero⟩] }

def poe : Group := single "poe"
  (.plain (MonitorPath.fetch ⟨"interface/ethernet/poe", none, true, true⟩)
    ["id", "name", "comment", "poe_out", "poe_priority", "poe_voltage", "poe_out_status",
     "poe_out_voltage", "poe_out_current", "poe_out_power"]
    [info "poe" "PoE port state"])

def user : Group := single "user"
  { Stage.plain (listItems "user/active" []) ["name", "address", "via", "group"]
      [gauge "active_users_last_login" "Active users last login" "when",
       gauge "active_users_count" "Active users session count" "count"] with
    batchRule := collapseSessions
    translations := [⟨"when", datetime⟩] }

def bgp : Group := single "bgp"
  { Stage.plain (listItems "routing/bgp/session" [])
      ["name", "remote_address", "remote_as", "local_as", "remote_afi", "local_afi"]
      [info "bgp_sessions_info" "BGP sessions info",
       byName (counter "bgp_remote_messages" "Number of remote messages" "remote_messages"),
       byName (counter "bgp_local_messages" "Number of local messages" "local_messages"),
       byName (counter "bgp_remote_bytes" "Number of remote bytes" "remote_bytes"),
       byName (counter "bgp_local_bytes" "Number of local bytes" "local_bytes"),
       byName (gauge "bgp_prefix_count" "BGP prefix count" "prefix_count"),
       byName (gauge "bgp_established" "BGP established" "established"),
       byName (gauge "bgp_uptime" "BGP uptime in seconds" "uptime")] with
    translations := [⟨"established", flag⟩, ⟨"uptime", duration⟩] }

def capsman : Group :=
  inventory "capsman" "interface/wifi/capsman/remote-cap"
    ["identity", "version", "base_mac", "board"] "capsman_remote_caps" "CAPsMAN remote caps"

def kidControlDevices : Group :=
  let perDevice := SeriesDef.by ["name", "mac_address", "user"]
  single "kid_control_devices"
    { Stage.plain (listItems "ip/kid-control/device" [])
        ["name", "user", "mac_address", "ip_address"]
        [info "kid_control_device" "Kid-control device Info",
         perDevice (gauge "kid_control_device_bytes_down" "Number of received bytes" "bytes_down"),
         perDevice (gauge "kid_control_device_bytes_up" "Number of transmitted bytes" "bytes_up"),
         perDevice (gauge "kid_control_device_rate_down" "Device rate down" "rate_down"),
         perDevice (gauge "kid_control_device_rate_up" "Device rate up" "rate_up"),
         perDevice (gauge "kid_control_device_idle_time" "Device idle time" "idle_time")] with
      rowRule := onlyRows hasUser
      translations := [⟨"rate_up", rate⟩, ⟨"rate_down", rate⟩, ⟨"idle_time", durationOrZero⟩] }

/-- The newest release of every channel, which belongs to no device. -/
def latestVersion (channels : List String) : Group := single "latest_version"
  { Stage.plain (releases channels) ["channel", "version"]
      [info "latest_routeros" "Latest RouterOS versions",
       SeriesDef.by ["channel"] (gauge "latest_routeros_published"
         "Latest RouterOS version publish timestamp" "ts")] with
    translations := [⟨"ts", buildTime⟩] }

end RouterMetrics.Catalog
