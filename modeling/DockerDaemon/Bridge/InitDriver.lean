/-
  DockerDaemon.Bridge.InitDriver — `InitDriver` of
  `daemon/networkdriver/bridge/driver.go`, the `init_networkdriver` job that
  `NewDaemonFromDirectory` runs on every boot with networking on.
  ──────────────────────────────────────
  The job reads its environment, looks for the bridge with
  `networkdriver.GetIfaceAddr`, makes `docker0` with `createBridge` when it
  is missing, checks an existing bridge's address against `BridgeIP`,
  installs the iptables rules with `setupIPTables`, turns IPv4 forwarding
  on, makes the `DOCKER` chain afresh and registers the driver's four jobs.
  The driver's globals keep the binding address, the bridge's name and its
  network, which the jobs of `Bridge.Interfaces` read.

  `GetIfaceAddr`, the `DOCKER` chain's calls and the engine's `Register`
  are not among the sources: their answers are inputs, and what the chain
  calls do to the rules follows the spec (`removeExistingChain`,
  `newChain`).  Where a theorem needs `GetIfaceAddr` to report what netlink
  has made, it says so (`ReadsHost`).

  Main results:
    * `parseIP_formatIPv4` — an address printed by `IP.String()` parses
      back to itself.
    * `registerHandlers_spec` — registration fails iff one `Register`
      fails, whatever order `range` walks the handlers in.
    * `initDriver_ok_state` — what a successful job leaves: the globals,
      the rules `setupSpec` asks for with the `DOCKER` chain made afresh,
      the four handlers.
    * `initDriver_host` — the job makes no link but `docker0`, and that
      one only when `GetIfaceAddr` cannot find it.
    * `initDriver_created_bridge_has_address` — when it made the bridge
      and succeeds, the bridge holds the address `createBridge` chose,
      so `NetworkLinkAddIp`'s dropped error never reaches a running driver.
    * `initDriver_restart_idempotent` — on the host and rules a successful
      job left, the job of the next boot succeeds, makes nothing and
      changes no rule.
-/
import Mathlib.Data.Nat.Digits
import DockerDaemon.Go.Path
import DockerDaemon.Bridge.CreateBridge
import DockerDaemon.Bridge.SetupIPTables
import DockerDaemon.Bridge.Interfaces

namespace DockerDaemon.Bridge

open DockerDaemon.Iptables

/-! ## §1. Addresses as `net.IP` prints them. -/

/-- `ip.String()` for an IPv4 address: its four bytes in decimal, with dots. -/
def formatIPv4 (ip : Nat) : String :=
  ⟨Nat.toDigits 10 (ip / 16777216 % 256) ++ '.' :: Nat.toDigits 10 (ip / 65536 % 256) ++
    '.' :: Nat.toDigits 10 (ip / 256 % 256) ++ '.' :: Nat.toDigits 10 (ip % 256)⟩

/-- `net.ParseIP(s)` for IPv4 text (not among the sources); `none` is its nil. -/
def parseIP (s : String) : Option Nat := parseIPv4 s.toList

/-- `addr.String()` of the `*net.IPNet` that `GetIfaceAddr` returns: the
interface's address and the network's prefix length. -/
def ipNetString (ip : Nat) (n : Subnet) : String := formatIPv4 ip ++ "/" ++ toString n.prefixLen

theorem digitChar_lt_ten : ∀ d < 10,
    (Nat.digitChar d).isDigit = true ∧ (Nat.digitChar d).toNat - '0'.toNat = d := by
  decide

theorem isDigit_of_mem_toDigitsCore :
    ∀ (fuel n : Nat) (ds : List Char), (∀ c ∈ ds, c.isDigit = true) →
      ∀ c ∈ Nat.toDigitsCore 10 fuel n ds, c.isDigit = true
  | 0, _, _, hds => hds
  | fuel + 1, n, ds, hds => by
    have hd := (digitChar_lt_ten (n % 10) (Nat.mod_lt _ (by decide))).1
    have hds' : ∀ c ∈ Nat.digitChar (n % 10) :: ds, c.isDigit = true := by
      simpa [hd] using hds
    simp only [Nat.toDigitsCore]
    split
    · exact hds'
    · exact isDigit_of_mem_toDigitsCore fuel _ _ hds'

/-- `parseByte`'s fold reads back the digits `toDigitsCore` writes. -/
theorem foldl_toDigitsCore :
    ∀ (fuel n : Nat) (ds : List Char), n < fuel →
      (Nat.toDigitsCore 10 fuel n ds).foldl (fun n c => n * 10 + (c.toNat - '0'.toNat)) 0 =
        ds.foldl (fun n c => n * 10 + (c.toNat - '0'.toNat)) n
  | 0, _, _, hn => absurd hn (Nat.not_lt_zero _)
  | fuel + 1, n, ds, hn => by
    have hd := (digitChar_lt_ten (n % 10) (Nat.mod_lt _ (by decide))).2
    simp only [Nat.toDigitsCore]
    split
    · simp only [List.foldl_cons, hd]
      congr 1
      omega
    · rw [foldl_toDigitsCore fuel _ _ (by omega), List.foldl_cons, hd, Nat.div_add_mod' n 10]

theorem toDigitsCore_ne_nil :
    ∀ (fuel n : Nat) (ds : List Char), ds ≠ [] → Nat.toDigitsCore 10 fuel n ds ≠ []
  | 0, _, _, hds => hds
  | fuel + 1, n, ds, _ => by
    simp only [Nat.toDigitsCore]
    split
    · exact List.cons_ne_nil _ _
    · exact toDigitsCore_ne_nil fuel _ _ (List.cons_ne_nil _ _)

theorem parseByte_toDigits {b : Nat} (hb : b < 256) : parseByte (Nat.toDigits 10 b) = some b := by
  have hlen := Nat.toDigitsCore_length 10 (by decide) (b + 1) b 3 (by omega) (by decide)
  have hne : Nat.toDigits 10 b ≠ [] := by
    simp only [Nat.toDigits, Nat.toDigitsCore]
    split
    · exact List.cons_ne_nil _ _
    · exact toDigitsCore_ne_nil _ _ _ (List.cons_ne_nil _ _)
  have hall : (Nat.toDigits 10 b).all Char.isDigit = true :=
    List.all_eq_true.2 (isDigit_of_mem_toDigitsCore _ _ [] (fun _ h => nomatch h))
  have hval := foldl_toDigitsCore (b + 1) b [] (Nat.lt_succ_self b)
  simp only [parseByte, Nat.toDigits] at hne hall hval ⊢
  rw [if_pos ⟨hne, hlen, hall⟩, hval]
  simp [Nat.le_of_lt_succ hb]

theorem dot_not_mem_toDigits (n : Nat) : '.' ∉ Nat.toDigits 10 n := fun h => by
  have := isDigit_of_mem_toDigitsCore _ _ [] (fun _ h => nomatch h) _ h
  exact absurd this (by decide)

theorem formatIPv4_ne_empty (ip : Nat) : formatIPv4 ip ≠ "" := fun h => by
  have := congrArg String.length h
  simp [formatIPv4, String.length] at this

/-- An address `IP.String()` prints, `net.ParseIP` reads back. -/
theorem parseIP_formatIPv4 {ip : Nat} (h : ip < 4294967296) : parseIP (formatIPv4 ip) = some ip := by
  simp only [parseIP, formatIPv4, parseIPv4, String.toList]
  rw [Go.splitChars_append_sep, Go.splitChars_append_sep, Go.splitChars_append_sep,
    Go.splitChars_of_not_mem (dot_not_mem_toDigits _), Go.splitChars_of_not_mem (dot_not_mem_toDigits _),
    Go.splitChars_of_not_mem (dot_not_mem_toDigits _), Go.splitChars_of_not_mem (dot_not_mem_toDigits _)]
  simp only [List.append_assoc, List.cons_append, List.nil_append, parseByte_toDigits (Nat.mod_lt _ (by decide : 256 > 0)),
    Option.pure_def, Option.bind_eq_bind, Option.some_bind, Option.some.injEq]
  omega

/-! ## §2. The job. -/

/-- `DefaultNetworkBridge`. -/
def DefaultNetworkBridge : String := "docker0"

/-- The environment of an `init_networkdriver` job. -/
structure DriverEnv where
  /-- `EnableIptables`. -/
  enableIptables : Bool
  /-- `InterContainerCommunication`. -/
  interContainerCommunication : Bool
  /-- `EnableIpForward`. -/
  enableIpForward : Bool
  /-- `BridgeIface`. -/
  bridgeIface : String
  /-- `BridgeIP`. -/
  bridgeIP : String
  /-- `DefaultBindingIP`. -/
  defaultBindingIP : String
  deriving DecidableEq, Repr

/-- The jobs `InitDriver` registers. -/
def handlerNames : List String :=
  ["allocate_interface", "release_interface", "allocate_port", "link"]

/-- What the outside answers `InitDriver`, beside netlink (`HostAnswers`)
and the iptables binary (`Answer`). -/
structure DriverAnswers where
  /-- `networkdriver.GetIfaceAddr(name)`, on the host as it is at the call:
  the interface's address and its network. -/
  getIfaceAddr : Host → String → Except String (Nat × Subnet)
  /-- The error of writing `/proc/sys/net/ipv4/ip_forward`. -/
  writeIpForward : Option String
  /-- The error of `iptables.RemoveExistingChain("DOCKER")`. -/
  removeExistingChain : Option String
  /-- The error of `iptables.NewChain("DOCKER", bridgeIface)`. -/
  newChain : Option String
  /-- The error of `job.Eng.Register(name, handler)`. -/
  register : String → Option String
  /-- The order in which `range` walks the map of the handlers. -/
  handlerOrder : Go.RangeOrder handlerNames

/-- What `InitDriver` reads and changes: the driver's globals, what netlink
has made on the host, the rules, the kernel's IPv4 forwarding switch, and
the engine's handlers. -/
structure NetState where
  /-- The global `defaultBindingIP`; `none` is a nil `net.IP`. -/
  defaultBindingIP : Option Nat
  /-- The global `bridgeIface`. -/
  bridgeIface : String
  /-- The global `bridgeNetwork`: the bridge's address and network. -/
  bridgeNetwork : Option (Nat × Subnet)
  host : Host
  rules : Ruleset
  /-- `/proc/sys/net/ipv4/ip_forward` holds `1`. -/
  ipForward : Bool
  /-- The jobs the engine has handlers for. -/
  handlers : List String

/-- A new daemon process on the same host: the globals as the package
initialises them, an engine without the driver's jobs; the host's links and
addresses, its rules and its forwarding switch stay. -/
def NetState.restart (s : NetState) : NetState :=
  { s with defaultBindingIP := some 0, bridgeIface := "", bridgeNetwork := none, handlers := [] }

/-- What `Allocate`, `Release` and `AllocatePort` read of the driver's
globals; `none` while the network or the binding address is nil. -/
def NetState.bridgeConfig (s : NetState) : Option BridgeConfig :=
  match s.defaultBindingIP, s.bridgeNetwork with
  | some bind, some (ip, n) => some ⟨s.bridgeIface, ip, n, bind⟩
  | _, _ => none

/-- `bridgeIface = job.Getenv("BridgeIface")`, `DefaultNetworkBridge` when empty. -/
def bridgeName (iface : String) : String := if iface = "" then DefaultNetworkBridge else iface

/-- The first part of `InitDriver`: the bridge's address and network, as
`GetIfaceAddr` finds them, or, for the default bridge only, after
`createBridge` made it; an existing bridge must hold `BridgeIP`'s address
when one is set.  With the host as netlink leaves it. -/
def bridgeAddr (env : DriverEnv) (h : HostAnswers) (d : DriverAnswers) (host : Host) :
    Except String (Nat × Subnet) × Host :=
  match d.getIfaceAddr host (bridgeName env.bridgeIface) with
  | .error e =>
    if env.bridgeIface ≠ "" then (.error e, host)
    else
      match createBridge DefaultNetworkBridge h env.bridgeIP host with
      | (some e, host) => (.error e.text, host)
      | (none, host) => (d.getIfaceAddr host DefaultNetworkBridge, host)
  | .ok (ip, net) =>
    if env.bridgeIP = "" then (.ok (ip, net), host)
    else
      match parseCIDR env.bridgeIP with
      | none => (.error (cidrError env.bridgeIP), host)
      | some (bip, _) =>
        if ip = bip then (.ok (ip, net), host)
        else (.error ("bridge ip (" ++ formatIPv4 ip ++
          ") does not match existing bridge configuration " ++ formatIPv4 bip), host)

/-- `if enableIPTables { setupIPTables(addr, icc) }`. -/
def iptablesStep (env : DriverEnv) (addr : String) : Step := fun ans rs =>
  if env.enableIptables then
    setupIPTables (bridgeName env.bridgeIface) addr env.interContainerCommunication ans rs
  else (.ok (), ans, rs)

/-- The loop `for name, f := range map[string]engine.Handler{...}`, walking
the names in order: the first error, and the handlers after the loop. -/
def registerHandlers (register : String → Option String) :
    List String → List String → Option String × List String
  | [], handlers => (none, handlers)
  | name :: rest, handlers =>
    match register name with
    | some e => (some e, handlers)
    | none => registerHandlers register rest (handlers ++ [name])

/-- `iptables.RemoveExistingChain("DOCKER")`, then, with iptables on,
`iptables.NewChain("DOCKER", bridgeIface)`: the first error, and the rules. -/
def chainStep (env : DriverEnv) (d : DriverAnswers) (rs : Ruleset) : Option String × Ruleset :=
  match d.removeExistingChain with
  | some e => (some e, rs)
  | none =>
    let rs := removeExistingChain "DOCKER" rs
    if env.enableIptables then
      match d.newChain with
      | some e => (some e, rs)
      | none => (none, newChain "DOCKER" (bridgeName env.bridgeIface) rs)
    else (none, rs)

/-- `InitDriver(job)`, the iptables binary answering `ans`.  A failed write
of `ip_forward` is logged. -/
def initDriver (env : DriverEnv) (h : HostAnswers) (d : DriverAnswers) (ans : List Answer)
    (s : NetState) : Go.Status × NetState :=
  let s := { s with
    defaultBindingIP := if env.defaultBindingIP = "" then s.defaultBindingIP
      else parseIP env.defaultBindingIP
    bridgeIface := bridgeName env.bridgeIface }
  match bridgeAddr env h d s.host with
  | (.error e, host) => (.err e, { s with host })
  | (.ok (ip, net), host) =>
    match iptablesStep env (ipNetString ip net) ans s.rules with
    | (.error e, _, rules) => (.err e, { s with host, rules })
    | (.ok _, _, rules) =>
      let s := { s with
        host, rules
        ipForward := s.ipForward || env.enableIpForward && d.writeIpForward.isNone }
      match chainStep env d s.rules with
      | (some e, rules) => (.err e, { s with rules })
      | (none, rules) =>
        match registerHandlers d.register d.handlerOrder.order s.handlers with
        | (some e, handlers) => (.err e, { s with rules, bridgeNetwork := some (ip, net), handlers })
        | (none, handlers) => (.ok, { s with rules, bridgeNetwork := some (ip, net), handlers })

/-! ## §3. The parts of the job. -/

/-- Registration walks the names in order and stops at the first `Register`
that fails: it succeeds iff every one does, and then adds every name. -/
theorem registerHandlers_spec (register : String → Option String) :
    ∀ (names handlers : List String),
      ((registerHandlers register names handlers).1 = none ↔ ∀ n ∈ names, register n = none) ∧
      ((registerHandlers register names handlers).1 = none →
        (registerHandlers register names handlers).2 = handlers ++ names)
  | [], handlers => ⟨iff_of_true rfl fun _ h => (nomatch h), fun _ => (List.append_nil _).symm⟩
  | n :: rest, handlers => by
    simp only [registerHandlers]
    cases hr : register n with
    | some e =>
      refine ⟨iff_of_false nofun fun hall => ?_, nofun⟩
      exact absurd (hall n (.head _)) (by simp [hr])
    | none =>
      obtain ⟨hiff, happ⟩ := registerHandlers_spec register rest (handlers ++ [n])
      refine ⟨by simp only [hiff, List.forall_mem_cons, hr, true_and], fun hok => ?_⟩
      rw [happ hok, List.append_assoc, List.singleton_append]

/-- What the chain step does to the rules when its calls succeed: the
`DOCKER` chain made afresh, with iptables on the jump to it from FORWARD. -/
def chainSpec (env : DriverEnv) (rs : Ruleset) : Ruleset :=
  if env.enableIptables then
    newChain "DOCKER" (bridgeName env.bridgeIface) (removeExistingChain "DOCKER" rs)
  else removeExistingChain "DOCKER" rs

/-- The chain step succeeds iff its calls do, and then does `chainSpec`. -/
theorem chainStep_none {env : DriverEnv} {d : DriverAnswers} {rs rs' : Ruleset}
    (h : chainStep env d rs = (none, rs')) :
    d.removeExistingChain = none ∧ (env.enableIptables = true → d.newChain = none) ∧
      rs' = chainSpec env rs := by
  unfold chainStep chainSpec at *
  split at h
  · exact absurd (Prod.mk.inj h).1 nofun
  next hr =>
    split at h
    · next hi =>
      split at h
      · exact absurd (Prod.mk.inj h).1 nofun
      · next hc => exact ⟨hr, fun _ => hc, by rw [if_pos hi]; exact (Prod.mk.inj h).2.symm⟩
    · next hi => exact ⟨hr, fun h' => absurd h' hi, by rw [if_neg hi]; exact (Prod.mk.inj h).2.symm⟩

theorem chainStep_of_none {env : DriverEnv} {d : DriverAnswers} (hr : d.removeExistingChain = none)
    (hc : d.newChain = none) (rs : Ruleset) : chainStep env d rs = (none, chainSpec env rs) := by
  simp only [chainStep, chainSpec, hr, hc]
  split <;> rfl

theorem docker_ne_forward : "DOCKER" ≠ "FORWARD" := by decide

/-- A rule that jumps elsewhere is in FORWARD as often after the chain step
as before. -/
theorem count_chainSpec (env : DriverEnv) {r : Rule} (ht : r.target ≠ some "DOCKER")
    (rs : Ruleset) : (chainSpec env rs "FORWARD").count r = (rs "FORWARD").count r := by
  unfold chainSpec
  split
  · rw [count_newChain docker_ne_forward
      (fun h => ht ((congrArg Rule.target h).trans (jumpRule_target _ _))),
      count_removeExistingChain docker_ne_forward ht]
  · exact count_removeExistingChain docker_ne_forward ht rs

theorem iccRule_target (bridgeIface verdict : String) :
    (iccRule bridgeIface verdict).target = some verdict := rfl

theorem outgoingRule_target (bridgeIface : String) :
    (outgoingRule bridgeIface).target = some "ACCEPT" := rfl

theorem existingRule_target (bridgeIface : String) :
    (existingRule bridgeIface).target = some "ACCEPT" := rfl

/-- The chain step keeps the rules `setupIPTables` is after: none of them
jumps to `DOCKER`. -/
theorem installed_chainSpec (env : DriverEnv) {bridgeIface addr : String} {icc : Bool}
    {rs : Ruleset} (h : Installed bridgeIface addr icc rs) :
    Installed bridgeIface addr icc (chainSpec env rs) := by
  have hv : ∀ icc, (iccRule bridgeIface (iccVerdict icc)).target ≠ some "DOCKER" := fun icc => by
    rw [iccRule_target]
    cases icc <;> decide
  have ho : (outgoingRule bridgeIface).target ≠ some "DOCKER" := by rw [outgoingRule_target]; decide
  have he : (existingRule bridgeIface).target ≠ some "DOCKER" := by rw [existingRule_target]; decide
  have hp : chainSpec env rs "POSTROUTING" = rs "POSTROUTING" := by
    unfold chainSpec
    split <;> simp only [newChain_other (by decide : "POSTROUTING" ≠ "DOCKER") (by decide),
      removeExistingChain_other (by decide : "POSTROUTING" ≠ "DOCKER") (by decide)]
  exact ⟨hp ▸ h.nat, (count_chainSpec env (hv _) rs).trans h.bridge,
    (count_chainSpec env (hv _) rs).trans h.noOther, (count_chainSpec env ho rs).trans h.outgoing,
    (count_chainSpec env he rs).trans h.existing⟩

/-- Making the chain afresh twice is making it once. -/
theorem chainSpec_idem (env : DriverEnv) (rs : Ruleset) :
    chainSpec env (chainSpec env rs) = chainSpec env rs := by
  unfold chainSpec
  split
  · rw [removeExistingChain_newChain docker_ne_forward, removeExistingChain_idem docker_ne_forward]
  · rw [removeExistingChain_idem docker_ne_forward]

theorem string_length_ne_zero {s : String} : s.length ≠ 0 ↔ s ≠ "" := by
  rcases s with ⟨_ | ⟨c, l⟩⟩ <;> simp [String.length, String.ext_iff]

/-- A `createBridge` that succeeds made the bridge and brought it up, with
the address it chose (`BridgeIP`, or the first free candidate) when
`NetworkLinkAddIp` succeeded. -/
theorem createBridge_made {iface : String} {h : HostAnswers} {bridgeIP : String} {host : Host}
    (hok : (createBridge iface h bridgeIP host).1 = none) :
    ∃ addr ip net, (if bridgeIP = "" then findAddr h 0 addrs else .ok bridgeIP) = .ok addr ∧
      parseCIDR addr = some (ip, net) ∧ (createBridge iface h bridgeIP host).2 =
        ⟨host.bridges ++ [(iface, setBridgeMacAddr h.kernelVersion)],
          host.ips ++ (if h.addIp = none then [(iface, ip, net)] else []), host.up ++ [iface]⟩ := by
  have made : ∀ addr, (setupBridge iface h addr host).1 = none → ∃ ip net,
      parseCIDR addr = some (ip, net) ∧ (setupBridge iface h addr host).2 =
        ⟨host.bridges ++ [(iface, setBridgeMacAddr h.kernelVersion)],
          host.ips ++ (if h.addIp = none then [(iface, ip, net)] else []), host.up ++ [iface]⟩ :=
    fun addr hs => by
      rcases setupBridge_cases iface h addr host with ⟨e, he, -⟩ | ⟨-, hmade⟩
      · exact absurd (he.symm.trans hs) nofun
      · exact hmade
  unfold createBridge at hok ⊢
  by_cases hb : bridgeIP = ""
  · simp only [hb, String.length, List.length_nil, ne_eq, not_true_eq_false, if_false, if_true]
      at hok ⊢
    rcases hf : findAddr h 0 addrs with e | addr <;> rw [hf] at hok
    · exact absurd hok nofun
    dsimp only at hok ⊢
    by_cases ha : addr = ""
    · rw [if_pos ha] at hok
      exact absurd hok nofun
    rw [if_neg ha] at hok ⊢
    obtain ⟨ip, net, hp, hh⟩ := made addr hok
    exact ⟨addr, ip, net, rfl, hp, hh⟩
  · rw [if_pos (string_length_ne_zero.2 hb)] at hok ⊢
    rw [if_neg hb]
    rcases hp : parseCIDR bridgeIP with _ | ⟨ip, net⟩ <;> simp only [hp] at hok ⊢
    · exact absurd hok nofun
    rw [if_neg hb] at hok ⊢
    obtain ⟨ip, net, hp, hh⟩ := made bridgeIP hok
    exact ⟨bridgeIP, ip, net, rfl, hp, hh⟩

/-- The first address the host holds for the interface `name`. -/
def Host.firstAddr (host : Host) (name : String) : Option (Nat × Subnet) :=
  (host.ips.find? (·.1 = name)).map (·.2)

/-- `GetIfaceAddr` reports what netlink has made: the first address the
host holds for the interface, and an error when it holds none. -/
def ReadsHost (getIfaceAddr : Host → String → Except String (Nat × Subnet)) : Prop :=
  ∀ host name, (getIfaceAddr host name).toOption = host.firstAddr name

/-- Everything the first part of `InitDriver` can do: find the bridge, and
check its address against `BridgeIP`; fail on a missing bridge other than
the default one; or make `docker0` with `createBridge` and look again. -/
theorem bridgeAddr_cases (env : DriverEnv) (h : HostAnswers) (d : DriverAnswers) (host : Host) :
    (∃ ip net, d.getIfaceAddr host (bridgeName env.bridgeIface) = .ok (ip, net) ∧
      (bridgeAddr env h d host).2 = host ∧
      ((bridgeAddr env h d host).1 = .ok (ip, net) ∧
          (env.bridgeIP ≠ "" → ∃ n, parseCIDR env.bridgeIP = some (ip, n)) ∨
        ∃ e, (bridgeAddr env h d host).1 = .error e)) ∨
    (env.bridgeIface ≠ "" ∧ (∃ e, (bridgeAddr env h d host).1 = .error e) ∧
      (bridgeAddr env h d host).2 = host) ∨
    (env.bridgeIface = "" ∧ (∃ e, d.getIfaceAddr host DefaultNetworkBridge = .error e) ∧
      (bridgeAddr env h d host).2 = (createBridge DefaultNetworkBridge h env.bridgeIP host).2 ∧
      ((createBridge DefaultNetworkBridge h env.bridgeIP host).1 = none ∧
          (bridgeAddr env h d host).1 =
            d.getIfaceAddr (bridgeAddr env h d host).2 DefaultNetworkBridge ∨
        ∃ e, (bridgeAddr env h d host).1 = .error e)) := by
  unfold bridgeAddr
  rcases hg : d.getIfaceAddr host (bridgeName env.bridgeIface) with e | ⟨ip, net⟩
  case error =>
    by_cases hb : env.bridgeIface = ""
    · have hg' : d.getIfaceAddr host DefaultNetworkBridge = .error e := by
        rw [← hg, bridgeName, if_pos hb]
      refine .inr (.inr ⟨hb, ⟨e, hg'⟩, ?_⟩)
      dsimp only
      rw [if_neg (not_not.2 hb)]
      rcases createBridge DefaultNetworkBridge h env.bridgeIP host with ⟨_ | e', host'⟩
      · exact ⟨rfl, .inl ⟨rfl, rfl⟩⟩
      · exact ⟨rfl, .inr ⟨_, rfl⟩⟩
    · refine .inr (.inl ⟨hb, ?_⟩)
      dsimp only
      rw [if_pos hb]
      exact ⟨⟨e, rfl⟩, rfl⟩
  case ok =>
    refine .inl ⟨ip, net, rfl, ?_⟩
    dsimp only
    by_cases hi : env.bridgeIP = ""
    · rw [if_pos hi]
      exact ⟨rfl, .inl ⟨rfl, fun h => absurd hi h⟩⟩
    rw [if_neg hi]
    rcases parseCIDR env.bridgeIP with _ | ⟨bip, bn⟩
    · exact ⟨rfl, .inr ⟨_, rfl⟩⟩
    dsimp only
    by_cases he : ip = bip
    · rw [if_pos he]
      exact ⟨rfl, .inl ⟨rfl, fun _ => ⟨bn, he ▸ rfl⟩⟩⟩
    · rw [if_neg he]
      exact ⟨rfl, .inr ⟨_, rfl⟩⟩

/-- A successful `InitDriver` found or made the bridge, ran the iptables
step and the chain calls without error and registered every handler; the
state it leaves. -/
theorem initDriver_ok {env : DriverEnv} {h : HostAnswers} {d : DriverAnswers}
    {ans : List Answer} {s : NetState} (hok : (initDriver env h d ans s).1 = .ok) :
    ∃ ip net, (bridgeAddr env h d s.host).1 = .ok (ip, net) ∧
      (iptablesStep env (ipNetString ip net) ans s.rules).1 = .ok () ∧
      d.removeExistingChain = none ∧ (env.enableIptables = true → d.newChain = none) ∧
      (∀ n ∈ handlerNames, d.register n = none) ∧
      (initDriver env h d ans s).2 = {
        defaultBindingIP := if env.defaultBindingIP = "" then s.defaultBindingIP
          else parseIP env.defaultBindingIP
        bridgeIface := bridgeName env.bridgeIface
        bridgeNetwork := some (ip, net)
        host := (bridgeAddr env h d s.host).2
        rules := chainSpec env (iptablesStep env (ipNetString ip net) ans s.rules).2.2
        ipForward := s.ipForward || env.enableIpForward && d.writeIpForward.isNone
        handlers := s.handlers ++ d.handlerOrder.order } := by
  unfold initDriver at hok ⊢
  dsimp only at hok ⊢
  rcases hb : bridgeAddr env h d s.host with ⟨_ | ⟨ip, net⟩, host⟩ <;> rw [hb] at hok
  · exact absurd hok nofun
  dsimp only at hok ⊢
  rcases hi : iptablesStep env (ipNetString ip net) ans s.rules with ⟨_ | _, ans', rules⟩ <;>
    rw [hi] at hok
  · exact absurd hok nofun
  dsimp only at hok ⊢
  rcases hc : chainStep env d rules with ⟨_ | e, rules'⟩ <;> rw [hc] at hok
  case some => exact absurd hok nofun
  obtain ⟨hr, hn, rfl⟩ := chainStep_none hc
  dsimp only at hok ⊢
  obtain ⟨hiff, happ⟩ := registerHandlers_spec d.register d.handlerOrder.order s.handlers
  rcases hreg : registerHandlers d.register d.handlerOrder.order s.handlers with ⟨_ | e, handlers⟩ <;>
    rw [hreg] at hok hiff happ
  case some => exact absurd hok nofun
  refine ⟨ip, net, rfl, by rw [hi], hr, hn, fun n hn =>
    (hiff.1 rfl) n (d.handlerOrder.perm.mem_iff.2 hn), ?_⟩
  rw [hi, ← happ rfl]

/-- A bridge `GetIfaceAddr` finds, holding `BridgeIP`'s address when one
is set, is the one the first part of `InitDriver` settles on, unchanged. -/
theorem bridgeAddr_found {env : DriverEnv} {h : HostAnswers} {d : DriverAnswers} {host : Host}
    {ip : Nat} {net : Subnet} (hg : d.getIfaceAddr host (bridgeName env.bridgeIface) = .ok (ip, net))
    (hip : env.bridgeIP ≠ "" → ∃ n, parseCIDR env.bridgeIP = some (ip, n)) :
    bridgeAddr env h d host = (.ok (ip, net), host) := by
  unfold bridgeAddr
  rw [hg]
  dsimp only
  by_cases hi : env.bridgeIP = ""
  · rw [if_pos hi]
  · obtain ⟨n, hp⟩ := hip hi
    rw [if_neg hi, hp]
    exact if_pos rfl

/-- Under iptables answers that never refuse, a successful iptables step
leaves the rules `setupSpec` asks for when iptables is on. -/
theorem iptablesStep_rules {env : DriverEnv} {addr : String} {ans : List Answer} {rs : Ruleset}
    (ho : Obeys ans) (hok : (iptablesStep env addr ans rs).1 = .ok ()) :
    (iptablesStep env addr ans rs).2.2 = if env.enableIptables then
      setupSpec (bridgeName env.bridgeIface) addr env.interContainerCommunication rs else rs := by
  unfold iptablesStep at hok ⊢
  cases hip : env.enableIptables <;> rw [hip] at hok
  · rfl
  · exact (setupIPTables_computes _ _ _ ans rs ho hok).1

/-- On rules it installed, the iptables step succeeds again under answers
that never refuse, and changes nothing. -/
theorem iptablesStep_fixes {env : DriverEnv} {addr : String} {rs : Ruleset}
    (hin : env.enableIptables = true →
      Installed (bridgeName env.bridgeIface) addr env.interContainerCommunication rs)
    {ans : List Answer} (ho : Obeys ans) : ∃ ans', iptablesStep env addr ans rs = (.ok (), ans', rs) := by
  unfold iptablesStep
  cases hip : env.enableIptables
  · exact ⟨ans, rfl⟩
  · obtain ⟨ans', h, -⟩ := setupIPTables_fixes (hin hip) ans ho
    exact ⟨ans', h⟩

/-- `InitDriver` run through: its first part settles on a network, the
iptables step succeeds, and every later call succeeds. -/
theorem initDriver_of_parts {env : DriverEnv} {h : HostAnswers} {d : DriverAnswers}
    {ans : List Answer} {s : NetState} {ip : Nat} {net : Subnet} {host' : Host}
    {ans' : List Answer} {rules' : Ruleset}
    (hb : bridgeAddr env h d s.host = (.ok (ip, net), host'))
    (hi : iptablesStep env (ipNetString ip net) ans s.rules = (.ok (), ans', rules'))
    (hr : d.removeExistingChain = none) (hc : d.newChain = none) (hreg : ∀ n, d.register n = none) :
    initDriver env h d ans s = (.ok, {
      defaultBindingIP := if env.defaultBindingIP = "" then s.defaultBindingIP
        else parseIP env.defaultBindingIP
      bridgeIface := bridgeName env.bridgeIface
      bridgeNetwork := some (ip, net)
      host := host'
      rules := chainSpec env rules'
      ipForward := s.ipForward || env.enableIpForward && d.writeIpForward.isNone
      handlers := s.handlers ++ d.handlerOrder.order }) := by
  obtain ⟨hiff, happ⟩ := registerHandlers_spec d.register d.handlerOrder.order s.handlers
  have hnone := hiff.2 fun n _ => hreg n
  simp only [initDriver, hb, hi, chainStep_of_none hr hc]
  rcases hreg' : registerHandlers d.register d.handlerOrder.order s.handlers with ⟨_ | e, handlers⟩ <;>
    rw [hreg'] at hnone happ
  case some => exact absurd hnone nofun
  rw [← happ rfl]

theorem Except.toOption_eq_some {ε α : Type} {x : Except ε α} {a : α} (h : x.toOption = some a) :
    x = .ok a := by
  cases x
  · exact absurd h nofun
  · exact congrArg _ (Option.some.inj h)

/-- When `GetIfaceAddr` reports what netlink has made, the network the first
part of `InitDriver` settles on is the first address the host then holds for
the bridge, and `BridgeIP`'s when one is set; and either the bridge was there
and nothing changed, or the job made `docker0`, `NetworkLinkAddIp`
succeeding, with the address `createBridge` chose. -/
theorem bridgeAddr_ok_of_readsHost {env : DriverEnv} {h : HostAnswers} {d : DriverAnswers}
    {host : Host} {ip : Nat} {net : Subnet} (hr : ReadsHost d.getIfaceAddr)
    (hb : (bridgeAddr env h d host).1 = .ok (ip, net)) :
    (bridgeAddr env h d host).2.firstAddr (bridgeName env.bridgeIface) = some (ip, net) ∧
    (env.bridgeIP ≠ "" → ∃ n, parseCIDR env.bridgeIP = some (ip, n)) ∧
    ((bridgeAddr env h d host).2 = host ∨
      env.bridgeIface = "" ∧ h.addIp = none ∧ ∃ addr,
        (if env.bridgeIP = "" then findAddr h 0 addrs else .ok env.bridgeIP) = .ok addr ∧
        parseCIDR addr = some (ip, net) ∧
        (bridgeAddr env h d host).2 =
          ⟨host.bridges ++ [(DefaultNetworkBridge, setBridgeMacAddr h.kernelVersion)],
            host.ips ++ [(DefaultNetworkBridge, ip, net)], host.up ++ [DefaultNetworkBridge]⟩) := by
  rcases bridgeAddr_cases env h d host with ⟨ip', net', hg, hs, ⟨hok, hip⟩ | ⟨e, he⟩⟩ |
    ⟨-, ⟨e, he⟩, -⟩ | ⟨hb0, ⟨e, hg⟩, hs, ⟨hc, hagain⟩ | ⟨e', he⟩⟩
  case inl.intro.intro.intro.intro.inl =>
    obtain ⟨rfl, rfl⟩ := Prod.mk.inj (Except.ok.inj (hok.symm.trans hb))
    rw [hs, ← hr]
    exact ⟨by rw [hg]; rfl, hip, .inl rfl⟩
  all_goals try exact absurd (he.symm.trans hb) nofun
  obtain ⟨addr, ip', net', hchosen, hp, hmade⟩ := createBridge_made hc
  have hname : bridgeName env.bridgeIface = DefaultNetworkBridge := by rw [bridgeName, if_pos hb0]
  have hfirst : (bridgeAddr env h d host).2.firstAddr DefaultNetworkBridge = some (ip, net) := by
    rw [← hr, ← hagain, hb]; rfl
  have hold : host.ips.find? (·.1 = DefaultNetworkBridge) = none := by
    have h0 := hr host DefaultNetworkBridge
    rw [hg] at h0
    exact Option.map_eq_none'.1 h0.symm
  rw [hs, hmade] at hfirst
  simp only [Host.firstAddr, List.find?_append, hold, Option.none_or] at hfirst
  cases hadd : h.addIp
  case some => simp [hadd] at hfirst
  simp only [hadd, if_true, List.find?_cons, decide_True, Option.map_some', Option.some.injEq]
    at hfirst
  obtain ⟨rfl, rfl⟩ := Prod.mk.inj hfirst
  refine ⟨?_, fun hip => ⟨net', ?_⟩, .inr ⟨hb0, rfl, addr, hchosen, hp, ?_⟩⟩
  · rw [hname, hs, hmade]
    simp [Host.firstAddr, List.find?_append, hold, hadd]
  · rw [if_neg hip] at hchosen
    rw [Except.ok.inj hchosen]
    exact hp
  · rw [hs, hmade, hadd, if_pos rfl]

/-! ## §4. What the job leaves. -/

/-- `GetIfaceAddr` as `ReadsHost` has it. -/
def hostIfaceAddr (host : Host) (name : String) : Except String (Nat × Subnet) :=
  match host.firstAddr name with
  | some a => .ok a
  | none => .error ("Interface " ++ name ++ " has no IP addresses")

theorem readsHost_hostIfaceAddr : ReadsHost hostIfaceAddr := fun host name => by
  unfold hostIfaceAddr
  cases host.firstAddr name <;> rfl

/-- Every outside call of the job succeeding, `GetIfaceAddr` reading the
host, `range` walking the handlers as the map literal lists them. -/
def quietDriver : DriverAnswers :=
  ⟨hostIfaceAddr, none, none, none, fun _ => none, ⟨handlerNames, .refl _⟩⟩

/-- The job's environment with the daemon's default flags. -/
def defaultEnv : DriverEnv := ⟨true, true, true, "", "", "0.0.0.0"⟩

/-- A host before the daemon's first boot: no link, no rule, forwarding off. -/
def freshNet : NetState := ⟨some 0, "", none, ⟨[], [], []⟩, fun _ => [], false, []⟩

/-- A successful `InitDriver`, under iptables answers that never refuse,
leaves the driver set up: the bridge's name; the binding address read from
`DefaultBindingIP`, the old one when it is empty; the four handlers, in the
order `range` walked them; as the bridge's network, the address
`GetIfaceAddr` reports for it on the host the job leaves; the rules
`setupSpec` asks for when iptables is on, the old ones otherwise, with the
`DOCKER` chain made afresh (`chainSpec`).  A bridge the job finds is used as
it is, and holds `BridgeIP`'s address when one is set. -/
theorem initDriver_ok_state (env : DriverEnv) (h : HostAnswers) (d : DriverAnswers)
    (ans : List Answer) (s : NetState) (ho : Obeys ans) (hok : (initDriver env h d ans s).1 = .ok) :
    (initDriver env h d ans s).2.bridgeIface = bridgeName env.bridgeIface ∧
    (initDriver env h d ans s).2.defaultBindingIP =
      (if env.defaultBindingIP = "" then s.defaultBindingIP else parseIP env.defaultBindingIP) ∧
    (initDriver env h d ans s).2.handlers = s.handlers ++ d.handlerOrder.order ∧
    ∃ ip net, (initDriver env h d ans s).2.bridgeNetwork = some (ip, net) ∧
      d.getIfaceAddr (initDriver env h d ans s).2.host (bridgeName env.bridgeIface) = .ok (ip, net) ∧
      (initDriver env h d ans s).2.rules = chainSpec env (if env.enableIptables then
        setupSpec (bridgeName env.bridgeIface) (ipNetString ip net) env.interContainerCommunication
          s.rules else s.rules) ∧
      ∀ a, d.getIfaceAddr s.host (bridgeName env.bridgeIface) = .ok a →
        a = (ip, net) ∧ (initDriver env h d ans s).2.host = s.host ∧
        (env.bridgeIP ≠ "" → ∃ n, parseCIDR env.bridgeIP = some (ip, n)) := by
  obtain ⟨ip, net, hb, hi, -, -, -, hs⟩ := initDriver_ok hok
  rw [hs]
  refine ⟨rfl, rfl, rfl, ip, net, rfl, ?_, congrArg (chainSpec env) (iptablesStep_rules ho hi),
    fun a ha => ?_⟩
  · rcases bridgeAddr_cases env h d s.host with ⟨ip', net', hg, hsame, ⟨hok', -⟩ | ⟨e, he⟩⟩ |
      ⟨-, ⟨e, he⟩, -⟩ | ⟨hb0, -, -, ⟨-, hagain⟩ | ⟨e, he⟩⟩
    · rw [hsame, hg, ← hok', hb]
    all_goals try exact absurd (he.symm.trans hb) nofun
    rw [bridgeName, if_pos hb0, ← hagain, hb]
  · rcases bridgeAddr_cases env h d s.host with ⟨ip', net', hg, hsame, ⟨hok', hip⟩ | ⟨e, he⟩⟩ |
      ⟨-, ⟨e, he⟩, -⟩ | ⟨hb0, ⟨e, hg⟩, -⟩
    · obtain ⟨rfl, rfl⟩ := Prod.mk.inj (Except.ok.inj (hok'.symm.trans hb))
      exact ⟨Except.ok.inj (ha.symm.trans hg), hsame, hip⟩
    all_goals try exact absurd (he.symm.trans hb) nofun
    rw [bridgeName, if_pos hb0, hg] at ha
    exact absurd ha nofun

/-- The first boot of a fresh host with the default flags. -/
theorem initDriver_ok_state_fresh :
    Obeys [] ∧ (initDriver defaultEnv (quietHost none) quietDriver [] freshNet).1 = .ok ∧
    (initDriver defaultEnv (quietHost none) quietDriver [] freshNet).2.bridgeIface =
      bridgeName defaultEnv.bridgeIface ∧
    (initDriver defaultEnv (quietHost none) quietDriver [] freshNet).2.defaultBindingIP =
      (if defaultEnv.defaultBindingIP = "" then freshNet.defaultBindingIP
        else parseIP defaultEnv.defaultBindingIP) ∧
    (initDriver defaultEnv (quietHost none) quietDriver [] freshNet).2.handlers =
      freshNet.handlers ++ quietDriver.handlerOrder.order ∧
    ∃ ip net, (initDriver defaultEnv (quietHost none) quietDriver [] freshNet).2.bridgeNetwork =
        some (ip, net) ∧
      quietDriver.getIfaceAddr (initDriver defaultEnv (quietHost none) quietDriver [] freshNet).2.host
        (bridgeName defaultEnv.bridgeIface) = .ok (ip, net) ∧
      (initDriver defaultEnv (quietHost none) quietDriver [] freshNet).2.rules =
        chainSpec defaultEnv (if defaultEnv.enableIptables then setupSpec
          (bridgeName defaultEnv.bridgeIface) (ipNetString ip net)
          defaultEnv.interContainerCommunication freshNet.rules else freshNet.rules) ∧
      ∀ a, quietDriver.getIfaceAddr freshNet.host (bridgeName defaultEnv.bridgeIface) = .ok a →
        a = (ip, net) ∧
        (initDriver defaultEnv (quietHost none) quietDriver [] freshNet).2.host = freshNet.host ∧
        (defaultEnv.bridgeIP ≠ "" → ∃ n, parseCIDR defaultEnv.bridgeIP = some (ip, n)) :=
  have hok : (initDriver defaultEnv (quietHost none) quietDriver [] freshNet).1 = .ok := by decide
  ⟨obeys_nil, hok, initDriver_ok_state _ _ _ _ _ obeys_nil hok⟩

/-- When `GetIfaceAddr` reports what netlink has made, an `InitDriver` that
made a link and succeeds made `docker0` with its address: `NetworkLinkAddIp`
succeeded, the host holds for `docker0` the address `createBridge` chose
(`BridgeIP`, or the first free candidate of `addrs`), and that is the
bridge's network.  The error `createBridge` drops never leaves a driver
running on a bridge without an address. -/
theorem initDriver_created_bridge_has_address (env : DriverEnv) (h : HostAnswers)
    (d : DriverAnswers) (ans : List Answer) (s : NetState) (hr : ReadsHost d.getIfaceAddr)
    (hok : (initDriver env h d ans s).1 = .ok) (hnew : (initDriver env h d ans s).2.host ≠ s.host) :
    env.bridgeIface = "" ∧ h.addIp = none ∧ ∃ addr ip net,
      (if env.bridgeIP = "" then findAddr h 0 addrs else .ok env.bridgeIP) = .ok addr ∧
      parseCIDR addr = some (ip, net) ∧
      (initDriver env h d ans s).2.bridgeNetwork = some (ip, net) ∧
      (initDriver env h d ans s).2.host =
        ⟨s.host.bridges ++ [(DefaultNetworkBridge, setBridgeMacAddr h.kernelVersion)],
          s.host.ips ++ [(DefaultNetworkBridge, ip, net)], s.host.up ++ [DefaultNetworkBridge]⟩ := by
  obtain ⟨ip, net, hb, -, -, -, -, hs⟩ := initDriver_ok hok
  rw [hs] at hnew ⊢
  rcases (bridgeAddr_ok_of_readsHost hr hb).2.2 with hsame | ⟨hb0, hadd, addr, hchosen, hp, hhost⟩
  · exact absurd hsame hnew
  · exact ⟨hb0, hadd, addr, ip, net, hchosen, hp, rfl, hhost⟩

/-- On a fresh host the job makes `docker0` with the first candidate. -/
theorem initDriver_created_bridge_has_address_fresh :
    ReadsHost quietDriver.getIfaceAddr ∧
    (initDriver defaultEnv (quietHost none) quietDriver [] freshNet).1 = .ok ∧
    (initDriver defaultEnv (quietHost none) quietDriver [] freshNet).2.host ≠ freshNet.host ∧
    defaultEnv.bridgeIface = "" ∧ (quietHost none).addIp = none ∧ ∃ addr ip net,
      (if defaultEnv.bridgeIP = "" then findAddr (quietHost none) 0 addrs
        else .ok defaultEnv.bridgeIP) = .ok addr ∧
      parseCIDR addr = some (ip, net) ∧
      (initDriver defaultEnv (quietHost none) quietDriver [] freshNet).2.bridgeNetwork =
        some (ip, net) ∧
      (initDriver defaultEnv (quietHost none) quietDriver [] freshNet).2.host =
        ⟨freshNet.host.bridges ++
            [(DefaultNetworkBridge, setBridgeMacAddr (quietHost none).kernelVersion)],
          freshNet.host.ips ++ [(DefaultNetworkBridge, ip, net)],
          freshNet.host.up ++ [DefaultNetworkBridge]⟩ :=
  have hok : (initDriver defaultEnv (quietHost none) quietDriver [] freshNet).1 = .ok := by decide
  have hnew : (initDriver defaultEnv (quietHost none) quietDriver [] freshNet).2.host ≠
      freshNet.host := by decide
  ⟨readsHost_hostIfaceAddr, hok, hnew, initDriver_created_bridge_has_address _ _ _ _ _
    readsHost_hostIfaceAddr hok hnew⟩

/-- A daemon that boots again on the host and rules a successful
`InitDriver` left (under iptables answers that never refuse, from rules
holding each managed rule at most once), `GetIfaceAddr` reporting what
netlink has made: the next `InitDriver`, its calls succeeding, finds the
bridge, makes nothing, and leaves the host, the rules, the bridge's network
and the binding address as the first one left them. -/
theorem initDriver_restart_idempotent (env : DriverEnv) (h h' : HostAnswers)
    (d d' : DriverAnswers) (ans ans' : List Answer) (s : NetState) (hr : ReadsHost d.getIfaceAddr)
    (hr' : ReadsHost d'.getIfaceAddr) (ho : Obeys ans) (ho' : Obeys ans')
    (hat : ∀ addr, AtMostOnce (bridgeName env.bridgeIface) addr s.rules)
    (hok : (initDriver env h d ans s.restart).1 = .ok) (hchain : d'.removeExistingChain = none)
    (hnew : d'.newChain = none) (hreg : ∀ n, d'.register n = none) :
    (initDriver env h' d' ans' (initDriver env h d ans s.restart).2.restart).1 = .ok ∧
    (initDriver env h' d' ans' (initDriver env h d ans s.restart).2.restart).2.host =
      (initDriver env h d ans s.restart).2.host ∧
    (initDriver env h' d' ans' (initDriver env h d ans s.restart).2.restart).2.rules =
      (initDriver env h d ans s.restart).2.rules ∧
    (initDriver env h' d' ans' (initDriver env h d ans s.restart).2.restart).2.bridgeNetwork =
      (initDriver env h d ans s.restart).2.bridgeNetwork ∧
    (initDriver env h' d' ans' (initDriver env h d ans s.restart).2.restart).2.defaultBindingIP =
      (initDriver env h d ans s.restart).2.defaultBindingIP := by
  obtain ⟨ip, net, hb, hi, -, -, -, hs⟩ := initDriver_ok hok
  obtain ⟨hfirst, hip, -⟩ := bridgeAddr_ok_of_readsHost hr hb
  have hrules := iptablesStep_rules ho hi
  have hhost : (initDriver env h d ans s.restart).2.restart.host =
      (bridgeAddr env h d s.restart.host).2 := by rw [hs]; rfl
  have hrs : (initDriver env h d ans s.restart).2.restart.rules =
      chainSpec env (iptablesStep env (ipNetString ip net) ans s.restart.rules).2.2 := by
    rw [hs]; rfl
  have hg' : d'.getIfaceAddr (initDriver env h d ans s.restart).2.restart.host
      (bridgeName env.bridgeIface) = .ok (ip, net) := by
    rw [hhost]
    exact Except.toOption_eq_some ((hr' _ _).trans hfirst)
  obtain ⟨ans'', hi'⟩ := @iptablesStep_fixes env (ipNetString ip net)
      (initDriver env h d ans s.restart).2.restart.rules (fun hip' => by
    rw [hrs, hrules, if_pos hip']
    exact installed_chainSpec env (installed_setupSpec (hat _)).1) ans' ho'
  rw [initDriver_of_parts (bridgeAddr_found hg' hip) hi' hchain hnew hreg, hrs, chainSpec_idem, hs]
  exact ⟨rfl, rfl, rfl, rfl, rfl⟩

/-- A fresh host booted twice with the default flags. -/
theorem initDriver_restart_idempotent_fresh :
    ReadsHost quietDriver.getIfaceAddr ∧ Obeys [] ∧
    (∀ addr, AtMostOnce (bridgeName defaultEnv.bridgeIface) addr freshNet.rules) ∧
    (initDriver defaultEnv (quietHost none) quietDriver [] freshNet.restart).1 = .ok ∧
    quietDriver.removeExistingChain = none ∧ quietDriver.newChain = none ∧
    (∀ n, quietDriver.register n = none) ∧
    (initDriver defaultEnv (quietHost none) quietDriver []
      (initDriver defaultEnv (quietHost none) quietDriver [] freshNet.restart).2.restart).1 = .ok ∧
    (initDriver defaultEnv (quietHost none) quietDriver []
      (initDriver defaultEnv (quietHost none) quietDriver [] freshNet.restart).2.restart).2.host =
      (initDriver defaultEnv (quietHost none) quietDriver [] freshNet.restart).2.host ∧
    (initDriver defaultEnv (quietHost none) quietDriver []
      (initDriver defaultEnv (quietHost none) quietDriver [] freshNet.restart).2.restart).2.rules =
      (initDriver defaultEnv (quietHost none) quietDriver [] freshNet.restart).2.rules ∧
    (initDriver defaultEnv (quietHost none) quietDriver []
      (initDriver defaultEnv (quietHost none) quietDriver [] freshNet.restart).2.restart
      ).2.bridgeNetwork =
      (initDriver defaultEnv (quietHost none) quietDriver [] freshNet.restart).2.bridgeNetwork ∧
    (initDriver defaultEnv (quietHost none) quietDriver []
      (initDriver defaultEnv (quietHost none) quietDriver [] freshNet.restart).2.restart
      ).2.defaultBindingIP =
      (initDriver defaultEnv (quietHost none) quietDriver [] freshNet.restart).2.defaultBindingIP :=
  have hat : ∀ addr, AtMostOnce (bridgeName defaultEnv.bridgeIface) addr freshNet.rules :=
    fun _ => ⟨Nat.zero_le _, fun _ => Nat.zero_le _, Nat.zero_le _, Nat.zero_le _⟩
  have hok : (initDriver defaultEnv (quietHost none) quietDriver [] freshNet.restart).1 = .ok := by
    decide
  ⟨readsHost_hostIfaceAddr, obeys_nil, hat, hok, rfl, rfl, fun _ => rfl,
    initDriver_restart_idempotent _ _ _ _ _ _ _ _ readsHost_hostIfaceAddr readsHost_hostIfaceAddr
      obeys_nil obeys_nil hat hok rfl rfl fun _ => rfl⟩

end DockerDaemon.Bridge
