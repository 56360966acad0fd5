/-
  DockerDaemon.Bridge.CreateBridge — `createBridge` and `createBridgeIface`
  of `daemon/networkdriver/bridge/driver.go`, which make the bridge when
  `InitDriver` finds none, and the kernel test of `checkKernelAndArch` in
  `daemon/daemon.go`.
  ──────────────────────────────────────
  With no `BridgeIP` configured, `createBridge` walks the candidate networks
  of `addrs` in order and takes the first that overlaps no nameserver of the
  host's resolv.conf and no route of the host; then it asks netlink for the
  bridge, its address and its link up.  The answers of netlink and of the
  routing table are inputs, so every theorem holds for each of them.

  Main results:
    * `createBridge_no_free_range_iff` — the "Could not find a free IP
      address range" error comes exactly when no candidate passes both
      checks.
    * `createBridge_ok` — a bridge made is up and was created; it holds the
      first candidate that passes both checks only when `NetworkLinkAddIp`
      succeeded, whose error `createBridge` drops.
    * `createBridge_ignores_addIp_error` — `NetworkLinkAddIp` failing, the
      bridge is made without its address and `createBridge` succeeds.
    * `setBridgeMacAddr_iff` — `createBridgeIface` sets the bridge's MAC
      address for the kernels at or after 3.3 whose Major is 3 or more:
      not for 4.0, 4.1, 4.2 or 5.0, which `checkKernelAndArch` orders
      after 3.8.
-/
import DockerDaemon.Go.Stdlib
import DockerDaemon.Bridge.Allocators

namespace DockerDaemon.Bridge

/-! ## §1. Addresses as `net.ParseCIDR` reads them. -/

/-- A decimal number, as `net.ParseIP` reads one byte: digits only, at most 255. -/
def parseByte (cs : List Char) : Option Nat :=
  if cs ≠ [] ∧ cs.length ≤ 3 ∧ cs.all Char.isDigit then
    let n := cs.foldl (fun n c => n * 10 + (c.toNat - '0'.toNat)) 0
    if n ≤ 255 then some n else none
  else none

/-- A dotted IPv4 address, as a number. -/
def parseIPv4 (cs : List Char) : Option Nat :=
  match Go.splitChars '.' cs with
  | [a, b, c, d] => do
    let a ← parseByte a
    let b ← parseByte b
    let c ← parseByte c
    let d ← parseByte d
    pure (((a * 256 + b) * 256 + c) * 256 + d)
  | _ => none

/-- `net.ParseCIDR(s)` for IPv4: the address, and its network (the address
masked to the prefix). -/
def parseCIDR (s : String) : Option (Nat × Subnet) :=
  match Go.splitChars '/' s.toList with
  | [ip, len] => do
    let ip ← parseIPv4 ip
    let len ← parseByte len
    if len ≤ 32 then pure (ip, ⟨ip / 2 ^ (32 - len) * 2 ^ (32 - len), len⟩) else none
  | _ => none

/-- The error `net.ParseCIDR` returns. -/
def cidrError (s : String) : String := "invalid CIDR address: " ++ s

/-- `addrs`: the bridge networks `createBridge` tries, in order. -/
def addrs : List String :=
  ["172.17.42.1/16", "10.0.42.1/16", "10.1.42.1/16", "10.42.42.1/16", "172.16.42.1/24",
    "172.16.43.1/24", "172.16.44.1/24", "10.0.42.1/24", "10.0.43.1/24", "192.168.42.1/24",
    "192.168.43.1/24", "192.168.44.1/24"]

/-- Every candidate parses, and none is empty. -/
theorem addrs_parse : ∀ a ∈ addrs, (parseCIDR a).isSome ∧ a ≠ "" := by
  decide

/-! ## §2. Kernel versions. -/

/-- `kernel.KernelVersionInfo`. -/
structure KernelVersionInfo where
  kernel : Int
  major : Int
  minor : Int
  flavor : String
  deriving DecidableEq, Repr

/-- `kernel.CompareKernelVersion(a, b)` (pkg/parsers/kernel is not among the
sources): Kernel, then Major, then Minor, compared in turn. -/
def compareKernelVersion (a b : KernelVersionInfo) : Int :=
  if a.kernel < b.kernel then -1 else if a.kernel > b.kernel then 1
  else if a.major < b.major then -1 else if a.major > b.major then 1
  else if a.minor < b.minor then -1 else if a.minor > b.minor then 1
  else 0

/-- The kernel test of `checkKernelAndArch`: its error (an architecture other
than amd64), and whether it warns that the kernel is older than 3.8.0
(unless `DOCKER_NOWARN_KERNEL_VERSION` is set) or could not be read. -/
def checkKernelAndArch (goarch : String) (kv : Except String KernelVersionInfo) (nowarn : Bool) :
    Option String × Bool :=
  if goarch ≠ "amd64" then
    (some ("The Docker runtime currently only supports amd64 (not " ++ goarch ++
      "). This will change in the future. Aborting."), false)
  else
    match kv with
    | .error _ => (none, true)
    | .ok k => (none, compareKernelVersion k ⟨3, 8, 0, ""⟩ < 0 && !nowarn)

/-- `setBridgeMacAddr` of `createBridgeIface`: `err == nil && (kv.Kernel >= 3
&& kv.Major >= 3)`. -/
def setBridgeMacAddr (kv : Except String KernelVersionInfo) : Bool :=
  match kv with
  | .ok kv => decide (kv.kernel ≥ 3 ∧ kv.major ≥ 3)
  | .error _ => false

/-! ## §3. The overlap checks. -/

/-- Modelled from the spec: `networkdriver.NetworkOverlaps(x, y)`, whether
either network holds the other's first address. -/
def networkOverlaps (x y : Subnet) : Bool := y.contains x.base || x.contains y.base

/-- Modelled from the spec: `networkdriver.CheckNameserverOverlaps(nameservers,
toCheck)`, over the nameservers of resolv.conf as CIDRs. -/
def checkNameserverOverlaps : List String → Subnet → Option String
  | [], _ => none
  | ns :: nss, toCheck =>
    match parseCIDR ns with
    | none => some (cidrError ns)
    | some (_, nsNetwork) =>
      if networkOverlaps toCheck nsNetwork then some "requested network overlaps with nameserver"
      else checkNameserverOverlaps nss toCheck

/-- Modelled from the spec: `networkdriver.CheckRouteOverlaps(toCheck)`, given
what `netlink.NetworkGetRoutes` answers (a route may have no `IPNet`). -/
def checkRouteOverlaps (routes : Except String (List (Option Subnet))) (toCheck : Subnet) :
    Option String :=
  match routes with
  | .error e => some e
  | .ok networks =>
    if networks.any fun n => n.any (networkOverlaps toCheck) then
      some "requested network overlaps with existing network"
    else none

/-- What the host answers `createBridge`. -/
structure HostAnswers where
  /-- `resolvconf.GetNameserversAsCIDR`: empty when resolv.conf cannot be read. -/
  nameservers : List String
  /-- `netlink.NetworkGetRoutes()`, at the check of the `i`th candidate. -/
  routes : Nat → Except String (List (Option Subnet))
  /-- `kernel.GetKernelVersion()`. -/
  kernelVersion : Except String KernelVersionInfo
  /-- The error of `netlink.CreateBridge`, of `net.InterfaceByName`, of
  `netlink.NetworkLinkAddIp` and of `netlink.NetworkLinkUp`, if they fail. -/
  createBridge : Option String
  interfaceByName : Option String
  addIp : Option String
  linkUp : Option String

/-- Candidate `addr`, tried `i`th, passes both checks. -/
def passes (h : HostAnswers) (i : Nat) (addr : String) : Bool :=
  match parseCIDR addr with
  | some (_, net) =>
    (checkNameserverOverlaps h.nameservers net).isNone &&
      (checkRouteOverlaps (h.routes i) net).isNone
  | none => false

/-- The loop `for _, addr := range addrs` of `createBridge`, from the `i`th
candidate: the first that passes both checks, `""` when none does. -/
def findAddr (h : HostAnswers) : Nat → List String → Except String String
  | _, [] => .ok ""
  | i, addr :: rest =>
    match parseCIDR addr with
    | none => .error (cidrError addr)
    | some (_, dockerNetwork) =>
      if (checkNameserverOverlaps h.nameservers dockerNetwork).isNone then
        if (checkRouteOverlaps (h.routes i) dockerNetwork).isNone then .ok addr
        else findAddr h (i + 1) rest
      else findAddr h (i + 1) rest

/-! ## §4. Creating the bridge. -/

/-- What netlink has made on the host: bridges, each with whether its MAC
address was set, addresses on interfaces, and the interfaces up. -/
structure Host where
  bridges : List (String × Bool)
  ips : List (String × Nat × Subnet)
  up : List String
  deriving DecidableEq, Repr

/-- `createBridgeIface(name)`: `netlink.CreateBridge(name, setBridgeMacAddr)`. -/
def createBridgeIface (name : String) (h : HostAnswers) (host : Host) : Option String × Host :=
  match h.createBridge with
  | some e => (some e, host)
  | none =>
    (none, { host with bridges := host.bridges ++ [(name, setBridgeMacAddr h.kernelVersion)] })

/-- How `createBridge` fails. -/
inductive CreateBridgeError where
  /-- An error of `net.ParseCIDR`. -/
  | parse (msg : String)
  /-- `Could not find a free IP address range for interface ...`. -/
  | noFreeRange (iface : String)
  /-- An error of `netlink.CreateBridge` or of `net.InterfaceByName`. -/
  | netlink (msg : String)
  /-- `Unable to start network bridge: ...`. -/
  | linkUp (msg : String)
  deriving DecidableEq, Repr

/-- `err.Error()`. -/
def CreateBridgeError.text : CreateBridgeError → String
  | .parse msg => msg
  | .noFreeRange iface => "Could not find a free IP address range for interface '" ++ iface ++
      "'. Please configure its address manually and run 'docker -b " ++ iface ++ "'"
  | .netlink msg => msg
  | .linkUp msg => "Unable to start network bridge: " ++ msg

/-- The end of `createBridge`, once it has chosen `ifaceAddr`: make the
bridge, add the address, bring it up.  The call
`if netlink.NetworkLinkAddIp(iface, ipAddr, ipNet); err != nil` tests the
`err` of `net.ParseCIDR`, nil there: the call's own error is dropped. -/
def setupBridge (bridgeIface : String) (h : HostAnswers) (ifaceAddr : String) (host : Host) :
    Option CreateBridgeError × Host :=
  match createBridgeIface bridgeIface h host with
  | (some e, host) => (some (.netlink e), host)
  | (none, host) =>
    match h.interfaceByName with
    | some e => (some (.netlink e), host)
    | none =>
      match parseCIDR ifaceAddr with
      | none => (some (.parse (cidrError ifaceAddr)), host)
      | some (ipAddr, ipNet) =>
        let host := match h.addIp with
          | none => { host with ips := host.ips ++ [(bridgeIface, ipAddr, ipNet)] }
          | some _ => host
        match h.linkUp with
        | some e => (some (.linkUp e), host)
        | none => (none, { host with up := host.up ++ [bridgeIface] })

/-- `createBridge(bridgeIP)` for the bridge `bridgeIface`. -/
def createBridge (bridgeIface : String) (h : HostAnswers) (bridgeIP : String) (host : Host) :
    Option CreateBridgeError × Host :=
  let ifaceAddr : Except String String :=
    if bridgeIP.length ≠ 0 then
      match parseCIDR bridgeIP with
      | none => .error (cidrError bridgeIP)
      | some _ => .ok bridgeIP
    else findAddr h 0 addrs
  match ifaceAddr with
  | .error e => (some (.parse e), host)
  | .ok ifaceAddr =>
    if ifaceAddr = "" then (some (.noFreeRange bridgeIface), host)
    else setupBridge bridgeIface h ifaceAddr host

/-! ## §5. The first free range. -/

theorem findAddr_cons {h : HostAnswers} {i : Nat} {a : String} {rest : List String} {ip : Nat}
    {net : Subnet} (hp : parseCIDR a = some (ip, net)) :
    findAddr h i (a :: rest) = if passes h i a then .ok a else findAddr h (i + 1) rest := by
  simp only [findAddr, passes, hp]
  cases (checkNameserverOverlaps h.nameservers net).isNone <;>
    cases (checkRouteOverlaps (h.routes i) net).isNone <;> rfl

/-- Over candidates that all parse, the loop from the `i`th either finds
none that passes, or returns the first that does. -/
theorem findAddr_spec (h : HostAnswers) (L : List String)
    (hL : ∀ a ∈ L, (parseCIDR a).isSome ∧ a ≠ "") (i : Nat) :
    (findAddr h i L = .ok "" ∧ ∀ k (hk : k < L.length), passes h (i + k) L[k] = false) ∨
    ∃ k, ∃ hk : k < L.length, findAddr h i L = .ok L[k] ∧ passes h (i + k) L[k] = true ∧
      ∀ j (hj : j < k), passes h (i + j) L[j] = false := by
  induction L generalizing i with
  | nil => exact .inl ⟨rfl, fun _ hk => absurd hk (Nat.not_lt_zero _)⟩
  | cons a rest ih =>
    obtain ⟨⟨ip, net⟩, hp⟩ := Option.isSome_iff_exists.1 (hL a (.head _)).1
    rw [findAddr_cons hp]
    cases hpass : passes h i a
    case true => exact .inr ⟨0, Nat.zero_lt_succ _, rfl, hpass, fun _ hj => absurd hj (Nat.not_lt_zero _)⟩
    case false =>
      have shift : ∀ k, i + 1 + k = i + (k + 1) := fun k => by omega
      rcases ih (fun b hb => hL b (.tail _ hb)) (i + 1) with ⟨hf, hall⟩ | ⟨k, hk, hf, hk1, hbefore⟩
      · refine .inl ⟨hf, fun k hk => ?_⟩
        cases k with
        | zero => exact hpass
        | succ k => exact shift k ▸ hall k (Nat.lt_of_succ_lt_succ hk)
      · refine .inr ⟨k + 1, Nat.succ_lt_succ hk, hf, shift k ▸ hk1, fun j hj => ?_⟩
        cases j with
        | zero => exact hpass
        | succ j => exact shift j ▸ hbefore j (Nat.lt_of_succ_lt_succ hj)

/-! ## §6. What `createBridge` leaves. -/

/-- Everything the end of `createBridge` can do: fail with an error other
than the free-range one, or make the bridge, bring it up, and give it the
address only when `NetworkLinkAddIp` succeeded. -/
theorem setupBridge_cases (bridgeIface : String) (h : HostAnswers) (ifaceAddr : String)
    (host : Host) :
    (∃ e, (setupBridge bridgeIface h ifaceAddr host).1 = some e ∧ ∀ iface, e ≠ .noFreeRange iface) ∨
    ((setupBridge bridgeIface h ifaceAddr host).1 = none ∧ ∃ ip net,
      parseCIDR ifaceAddr = some (ip, net) ∧ (setupBridge bridgeIface h ifaceAddr host).2 =
        ⟨host.bridges ++ [(bridgeIface, setBridgeMacAddr h.kernelVersion)],
          host.ips ++ (if h.addIp = none then [(bridgeIface, ip, net)] else []),
          host.up ++ [bridgeIface]⟩) := by
  unfold setupBridge createBridgeIface
  rcases h with ⟨ns, routes, kv, _ | e1, _ | e2, ai, lu⟩
  all_goals try exact .inl ⟨_, rfl, fun _ => nofun⟩
  dsimp only
  rcases hp : parseCIDR ifaceAddr with _ | ⟨ip, net⟩
  · exact .inl ⟨_, rfl, fun _ => nofun⟩
  rcases lu with _ | e3 <;> rcases ai with _ | e4
  all_goals first
    | exact .inl ⟨_, rfl, fun _ => nofun⟩
    | exact .inr ⟨rfl, ip, net, rfl, rfl⟩
    | exact .inr ⟨rfl, ip, net, rfl, by simp⟩

/-- With no `BridgeIP`, `createBridge` takes its address from the loop. -/
theorem createBridge_empty (bridgeIface : String) (h : HostAnswers) (host : Host) :
    createBridge bridgeIface h "" host =
      match findAddr h 0 addrs with
      | .error e => (some (.parse e), host)
      | .ok ifaceAddr =>
        if ifaceAddr = "" then (some (.noFreeRange bridgeIface), host)
        else setupBridge bridgeIface h ifaceAddr host := rfl

/-- With no `BridgeIP`, `createBridge` fails with "Could not find a free IP
address range" exactly when no candidate of `addrs` passes both checks. -/
theorem createBridge_no_free_range_iff (bridgeIface : String) (h : HostAnswers) (host : Host) :
    (createBridge bridgeIface h "" host).1 = some (.noFreeRange bridgeIface) ↔
      ∀ k (hk : k < addrs.length), passes h k addrs[k] = false := by
  rcases findAddr_spec h addrs addrs_parse 0 with ⟨hf, hall⟩ | ⟨k, hk, hf, hpass, -⟩
  · rw [createBridge_empty, hf]
    exact iff_of_true rfl fun k hk => by rw [← hall k hk, Nat.zero_add]
  · have hne := (addrs_parse _ (List.getElem_mem hk)).2
    rw [createBridge_empty, hf]
    dsimp only
    rw [if_neg hne]
    refine iff_of_false ?_ fun hall => ?_
    · rcases setupBridge_cases bridgeIface h addrs[k] host with ⟨e, he, hne'⟩ | ⟨he, -⟩ <;>
        rw [he]
      · exact fun h' => hne' _ (Option.some.inj h')
      · exact nofun
    · rw [Nat.zero_add, hall k hk] at hpass
      exact Bool.false_ne_true hpass

/-- A bridge `createBridge` makes with no `BridgeIP` was created (with its MAC
address set as the kernel test says) and brought up, and holds the first
candidate that passes both checks only when `NetworkLinkAddIp` succeeded. -/
theorem createBridge_ok (bridgeIface : String) (h : HostAnswers) (host : Host)
    (hok : (createBridge bridgeIface h "" host).1 = none) :
    ∃ k, ∃ hk : k < addrs.length, passes h k addrs[k] = true ∧
      (∀ j (hj : j < k), passes h j addrs[j] = false) ∧
      ∃ ip net, parseCIDR addrs[k] = some (ip, net) ∧ (createBridge bridgeIface h "" host).2 =
        ⟨host.bridges ++ [(bridgeIface, setBridgeMacAddr h.kernelVersion)],
          host.ips ++ (if h.addIp = none then [(bridgeIface, ip, net)] else []),
          host.up ++ [bridgeIface]⟩ := by
  rcases findAddr_spec h addrs addrs_parse 0 with ⟨hf, -⟩ | ⟨k, hk, hf, hpass, hbefore⟩
  · rw [createBridge_empty, hf] at hok
    cases hok
  · have hne := (addrs_parse _ (List.getElem_mem hk)).2
    rw [createBridge_empty, hf] at hok ⊢
    dsimp only at hok ⊢
    rw [if_neg hne] at hok ⊢
    rcases setupBridge_cases bridgeIface h addrs[k] host with ⟨e, he, -⟩ | ⟨-, ip, net, hp, he⟩
    · rw [he] at hok
      cases hok
    · simp only [Nat.zero_add] at hpass hbefore
      exact ⟨k, hk, hpass, hbefore, ip, net, hp, he⟩

/-- The host of `docker0`: no nameserver, no route, kernel 3.13, and netlink
answering every call. -/
def quietHost (addIp : Option String) : HostAnswers :=
  ⟨[], fun _ => .ok [], .ok ⟨3, 13, 0, ""⟩, none, none, addIp, none⟩

/-- On the quiet host the bridge takes the first candidate. -/
theorem createBridge_ok_quiet :
    (createBridge "docker0" (quietHost none) "" ⟨[], [], []⟩).1 = none ∧
    ∃ k, ∃ hk : k < addrs.length, passes (quietHost none) k addrs[k] = true ∧
      (∀ j (hj : j < k), passes (quietHost none) j addrs[j] = false) ∧
      ∃ ip net, parseCIDR addrs[k] = some (ip, net) ∧
        (createBridge "docker0" (quietHost none) "" ⟨[], [], []⟩).2 =
          ⟨[] ++ [("docker0", setBridgeMacAddr (quietHost none).kernelVersion)],
            [] ++ (if (quietHost none).addIp = none then [("docker0", ip, net)] else []),
            [] ++ ["docker0"]⟩ :=
  ⟨by decide, createBridge_ok "docker0" (quietHost none) ⟨[], [], []⟩ (by decide)⟩

/-- `NetworkLinkAddIp` failing on the quiet host: `createBridge` succeeds,
and the bridge is up without an address. -/
theorem createBridge_ignores_addIp_error :
    createBridge "docker0" (quietHost (some "file exists")) "" ⟨[], [], []⟩ =
      (none, ⟨[("docker0", true)], [], ["docker0"]⟩) := by
  decide

/-! ## §7. The kernel test of `createBridgeIface`. -/

/-- One level of `CompareKernelVersion`. -/
theorem compare_level_nonneg (x y rest : Int) :
    0 ≤ (if x < y then -1 else if x > y then 1 else rest) ↔ y < x ∨ (x = y ∧ 0 ≤ rest) := by
  split_ifs <;> omega

/-- `CompareKernelVersion` is the lexicographic order of (Kernel, Major, Minor). -/
theorem compareKernelVersion_nonneg_iff (a b : KernelVersionInfo) :
    0 ≤ compareKernelVersion a b ↔ b.kernel < a.kernel ∨
      (a.kernel = b.kernel ∧ (b.major < a.major ∨ (a.major = b.major ∧ b.minor ≤ a.minor))) := by
  simp only [compareKernelVersion, compare_level_nonneg]
  omega

/-- `createBridgeIface` sets the bridge's MAC address exactly for the kernels
whose (Kernel, Major) is at least (3, 3) in `CompareKernelVersion`'s order,
except those after 3 with a Major below 3: 4.0, 4.1, 4.2, 5.0 and the like. -/
theorem setBridgeMacAddr_iff (kv : KernelVersionInfo) :
    setBridgeMacAddr (.ok kv) = true ↔
      0 ≤ compareKernelVersion ⟨kv.kernel, kv.major, 0, ""⟩ ⟨3, 3, 0, ""⟩ ∧
        ¬ (3 < kv.kernel ∧ kv.major < 3) := by
  rw [compareKernelVersion_nonneg_iff]
  simp only [setBridgeMacAddr, decide_eq_true_eq]
  omega

/-- Kernel 4.0: `checkKernelAndArch` orders it after 3.8 and does not warn,
`CompareKernelVersion` puts it after 3.3, and `createBridgeIface` asks for a
bridge without its MAC address. -/
theorem createBridgeIface_no_mac_on_4_0 :
    (createBridgeIface "docker0" ⟨[], fun _ => .ok [], .ok ⟨4, 0, 0, ""⟩, none, none, none, none⟩
        ⟨[], [], []⟩).2.bridges = [("docker0", false)] ∧
      compareKernelVersion ⟨4, 0, 0, ""⟩ ⟨3, 3, 0, ""⟩ = 1 ∧
      checkKernelAndArch "amd64" (.ok ⟨4, 0, 0, ""⟩) false = (none, false) := by
  decide

end DockerDaemon.Bridge
