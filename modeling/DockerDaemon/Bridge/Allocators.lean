/-
  DockerDaemon.Bridge.Allocators — the IP allocator and the port mapper
  that the bridge driver's jobs call.
  ──────────────────────────────────────
  Neither `ipallocator` nor `portmapper` is among the sources: both are
  modelled from the spec (§4.E, §4.F), and every definition here says so.
  An IPv4 address is a `Nat`.  `Map` depends on more than the mappings (the
  port allocator's choice of a free port, a userland proxy that may fail to
  bind), so it takes a `MapAnswer` from the environment; whatever the
  answer, it never maps a host address that is already mapped.

  Main results:
    * `requestIP_fresh` — an address the allocator hands out is free: in
      the network, not held back, not handed out before.
    * `requestIP_ne_own` — it is never the interface's own address.
    * `map_fresh` — a host address `Map` returns was not mapped before.
-/
import Mathlib.Data.List.Basic
import Mathlib.Algebra.Group.Nat.Basic

namespace DockerDaemon.Bridge

/-! ## §1. The bridge network and its IP allocator. -/

/-- A network `base/prefixLen`, as `bridgeNetwork` is. -/
structure Subnet where
  base : Nat
  prefixLen : Nat
  deriving DecidableEq, Repr

/-- How many addresses the network spans. -/
def Subnet.size (n : Subnet) : Nat := 2 ^ (32 - n.prefixLen)

/-- Modelled from the spec: the "first usable" address of the network, which
the spec calls the gateway.  The bridge driver's gateway is the bridge's own
address instead ("we don't follow the convention of using the 1st IP of the
range for the gateway", driver.go). -/
def Subnet.firstUsable (n : Subnet) : Nat := n.base + 1

/-- The broadcast address, the network's last. -/
def Subnet.broadcast (n : Subnet) : Nat := n.base + n.size - 1

/-- What the allocator holds back in the network `n` whose interface has
the address `own` (`network.IP`): what the spec says it "reserves", the
"network address, gateway (first usable), broadcast", and the interface's own
address, the Gateway `Allocate` gives every container. -/
def Subnet.special (n : Subnet) (own ip : Nat) : Bool :=
  ip == n.base || ip == n.firstUsable || ip == own || ip == n.broadcast

/-- `ip` is one of the network's addresses. -/
def Subnet.contains (n : Subnet) (ip : Nat) : Bool :=
  n.base ≤ ip && ip < n.base + n.size

/-- An address the allocator may hand out, given those it has handed out. -/
def Subnet.free (n : Subnet) (own : Nat) (allocated : List Nat) (ip : Nat) : Bool :=
  n.contains ip && !n.special own ip && !allocated.contains ip

/-- The lowest free address among the `k` addresses from `ip` up. -/
def Subnet.firstFree (n : Subnet) (own : Nat) (allocated : List Nat) : (ip k : Nat) → Option Nat
  | _, 0 => none
  | ip, k + 1 => if n.free own allocated ip then some ip else n.firstFree own allocated (ip + 1) k

/-- Modelled from the spec: `ipallocator.RequestIP(network, ip)`, where
"RequestIP(net, nil) picks the lowest free address; RequestIP(net, &ip)
reserves a specific address or fails AddressInUse", for the network `n`
whose interface has the address `own`: the address, and the handed-out
addresses after it. -/
def requestIP (n : Subnet) (own : Nat) (allocated : List Nat) :
    Option Nat → Except String (Nat × List Nat)
  | none =>
    match n.firstFree own allocated n.base n.size with
    | some ip => .ok (ip, ip :: allocated)
    | none => .error "no available ip addresses on network"
  | some ip =>
    if n.free own allocated ip then .ok (ip, ip :: allocated)
    else .error "requested ip is not available"

/-- Modelled from the spec: `ipallocator.ReleaseIP(network, ip)`, which "is idempotent". -/
def releaseIP (allocated : List Nat) (ip : Nat) : List Nat :=
  allocated.erase ip

theorem firstFree_free {n : Subnet} {own : Nat} {allocated : List Nat} :
    ∀ {ip k a : Nat}, n.firstFree own allocated ip k = some a → n.free own allocated a
  | _, 0, _, h => by simp [Subnet.firstFree] at h
  | ip, k + 1, a, h => by
    by_cases hf : n.free own allocated ip
    · simp only [Subnet.firstFree, hf, if_true, Option.some.injEq] at h
      exact h ▸ hf
    · simp only [Subnet.firstFree, hf] at h
      exact firstFree_free h

/-- An address the allocator hands out was free, and is then handed out. -/
theorem requestIP_fresh {n : Subnet} {own : Nat} {allocated : List Nat} {req : Option Nat}
    {ip : Nat} {allocated' : List Nat} (h : requestIP n own allocated req = .ok (ip, allocated')) :
    n.free own allocated ip ∧ allocated' = ip :: allocated := by
  cases req with
  | none =>
    cases hf : n.firstFree own allocated n.base n.size with
    | none => simp [requestIP, hf] at h
    | some a =>
      simp only [requestIP, hf, Except.ok.injEq, Prod.mk.injEq] at h
      obtain ⟨rfl, rfl⟩ := h
      exact ⟨firstFree_free hf, rfl⟩
  | some r =>
    by_cases hr : n.free own allocated r
    · simp only [requestIP, hr, if_true, Except.ok.injEq, Prod.mk.injEq] at h
      obtain ⟨rfl, rfl⟩ := h
      exact ⟨hr, rfl⟩
    · simp [requestIP, hr] at h

/-- The allocator never hands out the interface's own address. -/
theorem requestIP_ne_own {n : Subnet} {own : Nat} {allocated : List Nat} {req : Option Nat}
    {ip : Nat} {allocated' : List Nat} (h : requestIP n own allocated req = .ok (ip, allocated')) :
    ip ≠ own := by
  have hfree := (requestIP_fresh h).1
  rintro rfl
  simp [Subnet.free, Subnet.special] at hfree

/-! ## §2. The port mapper. -/

/-- `tcp` or `udp`. -/
inductive Proto where
  | tcp
  | udp
  deriving DecidableEq, Repr

/-- A `*net.TCPAddr` or `*net.UDPAddr`. -/
structure Addr where
  proto : Proto
  ip : Nat
  port : Nat
  deriving DecidableEq, Repr

/-- Modelled from the spec: the port mapper's mappings, each host address with
the container address its DNAT rule rewrites traffic to. -/
abbrev Mappings := List (Addr × Addr)

/-- Modelled from the spec: how `portmapper.Map` answers, beside what the
mappings decide. -/
inductive MapAnswer where
  /-- The host port binds; `port` is the one the allocator picks when the
  request names none. -/
  | binds (port : Nat)
  /-- `ErrPortAlreadyAllocated`: something outside the mappings holds the port. -/
  | taken
  /-- Any other error. -/
  | fails (msg : String)
  deriving DecidableEq, Repr

/-- Modelled from the spec: the errors of `portmapper.Map`, "PortAlreadyAllocated
(carrying IP+port+proto for diagnostics)" or another. -/
inductive MapError where
  | alreadyAllocated (host : Addr)
  | other (msg : String)
  deriving DecidableEq, Repr

/-- `err.Error()`. -/
def MapError.text : MapError → String
  | .alreadyAllocated _ => "port is already allocated"
  | .other msg => msg

/-- Whether a host address is mapped. -/
def mapped (ms : Mappings) (host : Addr) : Bool := ms.any (·.1 == host)

@[simp] theorem mapped_iff (ms : Mappings) (host : Addr) :
    mapped ms host = true ↔ ∃ c, (host, c) ∈ ms := by
  simp [mapped]

/-- Modelled from the spec: `portmapper.Map(container, hostIP, hostPort)`, which
"allocates the host port and programs one DNAT rule" for it, and fails with
PortAlreadyAllocated when the port is in use: the host address and the
mappings after it. -/
def map (a : MapAnswer) (container : Addr) (hostIP hostPort : Nat) (ms : Mappings) :
    Except MapError (Addr × Mappings) :=
  match a with
  | .binds p =>
    let host : Addr := ⟨container.proto, hostIP, if hostPort = 0 then p else hostPort⟩
    if mapped ms host then .error (.alreadyAllocated host) else .ok (host, (host, container) :: ms)
  | .taken => .error (.alreadyAllocated ⟨container.proto, hostIP, hostPort⟩)
  | .fails msg => .error (.other msg)

/-- Modelled from the spec: `portmapper.Unmap(host)`, which "reverses" `Map`. -/
def unmap (host : Addr) (ms : Mappings) : Except String Mappings :=
  if mapped ms host then .ok (ms.filter fun p => p.1 ≠ host) else .error "port is not mapped"

/-- A host address `Map` returns was not mapped, and is then mapped to the container. -/
theorem map_fresh {a : MapAnswer} {container : Addr} {hostIP hostPort : Nat} {ms : Mappings}
    {host : Addr} {ms' : Mappings} (h : map a container hostIP hostPort ms = .ok (host, ms')) :
    mapped ms host = false ∧ ms' = (host, container) :: ms := by
  cases a with
  | binds p =>
    by_cases hm : mapped ms ⟨container.proto, hostIP, if hostPort = 0 then p else hostPort⟩
    · simp [map, hm] at h
    · simp only [map, hm, Except.ok.injEq, Prod.mk.injEq] at h
      obtain ⟨rfl, rfl⟩ := h
      exact ⟨Bool.eq_false_iff.2 hm, rfl⟩
  | taken => simp [map] at h
  | fails _ => simp [map] at h

end DockerDaemon.Bridge
