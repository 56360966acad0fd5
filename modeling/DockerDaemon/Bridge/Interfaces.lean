/-
  DockerDaemon.Bridge.Interfaces — the `allocate_interface`,
  `release_interface` and `allocate_port` jobs of the bridge driver
  (`Allocate`, `Release` and `AllocatePort` of driver.go).
  ──────────────────────────────────────
  The driver's state is `currentInterfaces` (container id to its network
  interface), the addresses the IP allocator has handed out in
  `bridgeNetwork`, and the port mapper's mappings.  `Allocate` records the
  address it gets; `Release` unmaps the record's ports and frees its
  address, and keeps the record; `AllocatePort` maps a host port to the
  record's address, retrying an auto-chosen port up to ten times.

  Main results:
    * `Consistent.step` — a job allowed by the holders (allocate for an id
      that holds nothing; release or map ports for a holder, or for an id
      never given a record) keeps the allocator and the port mapper in step
      with the holders' records.
    * `reach_consistent` — so does every run of allowed jobs.
    * `release_released_shares_ip` — a second `release_interface` of an id
      frees the address another container now holds, which the next
      `allocate_interface` hands out again: two containers share an IP.
    * `allocatePort_map_calls` — an `allocate_port` job calls `Map` at most
      ten times with the same arguments, retrying only an automatic port
      found allocated; it succeeds iff the last call did and the output was
      written, and the last call's host address is appended either way.
    * `allocatePort_write_error_keeps_mapping` — a failed output write fails
      the job and keeps the mapping in `PortMappings`.
-/
import DockerDaemon.Go.Stdlib
import DockerDaemon.Bridge.Allocators

namespace DockerDaemon.Bridge

/-! ## §1. The driver's state. -/

/-- `networkInterface`. -/
structure NetworkInterface where
  ip : Nat
  /-- `PortMappings`: the host addresses mapped to the interface. -/
  portMappings : List Addr
  deriving DecidableEq, Repr

/-- What `InitDriver` leaves in the driver's globals. -/
structure BridgeConfig where
  bridgeIface : String
  /-- `bridgeNetwork.IP`, the bridge's own address. -/
  bridgeIP : Nat
  bridgeNetwork : Subnet
  defaultBindingIP : Nat
  deriving DecidableEq, Repr

/-- The driver's mutable state. -/
structure BridgeState where
  currentInterfaces : String → Option NetworkInterface
  /-- The addresses the IP allocator has handed out in `bridgeNetwork`. -/
  allocated : List Nat
  /-- The port mapper's mappings. -/
  mappings : Mappings

/-- The driver before its first job. -/
def BridgeState.empty : BridgeState := ⟨fun _ => none, [], []⟩

/-- `currentInterfaces.Set(id, n)`. -/
def BridgeState.setInterface (s : BridgeState) (id : String) (n : NetworkInterface) :
    BridgeState :=
  { s with currentInterfaces := fun k => if k = id then some n else s.currentInterfaces k }

@[simp] theorem BridgeState.setInterface_same (s : BridgeState) (id : String)
    (n : NetworkInterface) : (s.setInterface id n).currentInterfaces id = some n := by
  simp [BridgeState.setInterface]

@[simp] theorem BridgeState.setInterface_ne (s : BridgeState) {id k : String}
    (n : NetworkInterface) (h : k ≠ id) :
    (s.setInterface id n).currentInterfaces k = s.currentInterfaces k := by
  simp [BridgeState.setInterface, h]

@[simp] theorem BridgeState.setInterface_allocated (s : BridgeState) (id : String)
    (n : NetworkInterface) : (s.setInterface id n).allocated = s.allocated := rfl

@[simp] theorem BridgeState.setInterface_mappings (s : BridgeState) (id : String)
    (n : NetworkInterface) : (s.setInterface id n).mappings = s.mappings := rfl

/-! ## §2. The jobs. -/

variable (cfg : BridgeConfig)

/-- `Allocate(job)` for the container `id`, with `RequestedIP` parsed (`none`
when it is empty or no address).  On success it writes `interfaceOut` of the
recorded address. -/
def allocate (id : String) (requestedIP : Option Nat) (s : BridgeState) : Go.Status × BridgeState :=
  match requestIP cfg.bridgeNetwork cfg.bridgeIP s.allocated requestedIP with
  | .error e => (.err e, s)
  | .ok (ip, allocated) => (.ok, { s with allocated := allocated }.setInterface id ⟨ip, []⟩)

/-- `for _, nat := range PortMappings { portmapper.Unmap(nat) }`: a failed
`Unmap` is logged and skipped. -/
def unmapAll : List Addr → Mappings → Mappings
  | [], ms => ms
  | h :: hs, ms =>
    unmapAll hs (match unmap h ms with
      | .ok ms' => ms'
      | .error _ => ms)

/-- `Release(job)` for the container `id`.  A failed `ReleaseIP` is logged. -/
def release (id : String) (s : BridgeState) : Go.Status × BridgeState :=
  match s.currentInterfaces id with
  | none => (.err ("No network information to release for " ++ id), s)
  | some n =>
    (.ok, { s with mappings := unmapAll n.portMappings s.mappings,
                   allocated := releaseIP s.allocated n.ip })

/-- `MaxAllocatedPortAttempts`. -/
def MaxAllocatedPortAttempts : Nat := 10

/-- The environment of an `allocate_port` job. -/
structure PortRequest where
  /-- `job.Args[0]`, the container id. -/
  id : String
  /-- `HostIP`, parsed; `none` when it is empty. -/
  hostIP : Option Nat
  hostPort : Nat
  containerPort : Nat
  proto : String
  deriving DecidableEq, Repr

/-- The loop `for i := 0; i < MaxAllocatedPortAttempts; i++` from attempt `i`,
with `retries` attempts left after it: the last `Map`'s result.  It retries
only an auto-chosen port (`hostPort = 0`) that `Map` found allocated. -/
def mapLoop (answers : Nat → MapAnswer) (container : Addr) (ip hostPort : Nat) (ms : Mappings) :
    (i retries : Nat) → Except MapError (Addr × Mappings)
  | i, retries =>
    match map (answers i) container ip hostPort ms, retries with
    | .ok r, _ => .ok r
    | .error (.alreadyAllocated h), k + 1 =>
      if hostPort ≠ 0 then .error (.alreadyAllocated h)
      else mapLoop answers container ip hostPort ms (i + 1) k
    | .error e, _ => .error e

/-- The `switch proto` of `AllocatePort`. -/
def parseProto : String → Option Proto
  | "tcp" => some .tcp
  | "udp" => some .udp
  | _ => none

/-- `AllocatePort(job)`: `Map` answers attempt `i` with `answers i`, and
`writeOk` says whether writing the job's output succeeds.  A record of `nil`
is dereferenced, and panics, once the protocol is known. -/
def allocatePort (req : PortRequest) (answers : Nat → MapAnswer) (writeOk : Bool)
    (s : BridgeState) : Go.Status × BridgeState :=
  match parseProto req.proto with
  | none => (.err ("unsupported address type " ++ req.proto), s)
  | some proto =>
    match s.currentInterfaces req.id with
    | none => (.panic Go.nilDeref, s)
    | some network =>
      match mapLoop answers ⟨proto, network.ip, req.containerPort⟩
          (req.hostIP.getD cfg.defaultBindingIP) req.hostPort s.mappings 0
          (MaxAllocatedPortAttempts - 1) with
      | .error e => (.err e.text, s)
      | .ok (host, ms) =>
        let s' := { s with mappings := ms }.setInterface req.id
          { network with portMappings := network.portMappings ++ [host] }
        if writeOk then (.ok, s') else (.err "write error", s')

/-- A call `portmapper.Map(container, hostIP, hostPort)` of `AllocatePort`,
with its answer. -/
structure MapCall where
  container : Addr
  hostIP : Nat
  hostPort : Nat
  result : Except MapError (Addr × Mappings)

/-- The calls to `Map` that `mapLoop` makes from attempt `i`, with `retries`
attempts left after it. -/
def mapCalls (answers : Nat → MapAnswer) (container : Addr) (ip hostPort : Nat) (ms : Mappings) :
    (i retries : Nat) → List MapCall
  | i, retries =>
    let call : MapCall := ⟨container, ip, hostPort, map (answers i) container ip hostPort ms⟩
    match map (answers i) container ip hostPort ms, retries with
    | .ok _, _ => [call]
    | .error (.alreadyAllocated _), k + 1 =>
      if hostPort ≠ 0 then [call]
      else call :: mapCalls answers container ip hostPort ms (i + 1) k
    | .error _, _ => [call]

/-- The calls to `Map` that `AllocatePort(job)` makes: none when it stops at
the protocol or at a missing record. -/
def allocatePortCalls (req : PortRequest) (answers : Nat → MapAnswer) (s : BridgeState) :
    List MapCall :=
  match parseProto req.proto, s.currentInterfaces req.id with
  | some proto, some network =>
    mapCalls answers ⟨proto, network.ip, req.containerPort⟩ (req.hostIP.getD cfg.defaultBindingIP)
      req.hostPort s.mappings 0 (MaxAllocatedPortAttempts - 1)
  | _, _ => []

/-- A job the bridge driver serves. -/
inductive BridgeJob where
  | allocateInterface (id : String) (requestedIP : Option Nat)
  | releaseInterface (id : String)
  | allocatePort (req : PortRequest) (answers : Nat → MapAnswer) (writeOk : Bool)

/-- Serve one job. -/
def BridgeJob.run : BridgeJob → BridgeState → Go.Status × BridgeState
  | .allocateInterface id req, s => allocate cfg id req s
  | .releaseInterface id, s => release id s
  | .allocatePort req answers writeOk, s => Bridge.allocatePort cfg req answers writeOk s

/-- Serve jobs one after the other: their statuses, and the state after them. -/
def runJobs : BridgeState → List BridgeJob → List Go.Status × BridgeState
  | s, [] => ([], s)
  | s, j :: js =>
    let r := j.run cfg s
    let rest := runJobs r.2 js
    (r.1 :: rest.1, rest.2)

/-! ## §3. What each job does to the mappings and the allocator. -/

/-- One turn of `unmapAll`: whether `Unmap` succeeds or not, the host address
is mapped no more. -/
theorem unmap_or_self (host : Addr) (ms : Mappings) :
    (match unmap host ms with
      | .ok ms' => ms'
      | .error _ => ms) = ms.filter fun p => p.1 ≠ host := by
  by_cases hm : mapped ms host
  · simp [unmap, hm]
  · simp only [unmap, hm, Bool.false_eq_true, if_false]
    refine (List.filter_eq_self.2 fun p hp => ?_).symm
    simp only [mapped_iff, not_exists] at hm
    have hne : p.1 ≠ host := fun he => hm p.2 (by rw [← he]; exact hp)
    simpa using hne

theorem unmapAll_eq : ∀ (hs : List Addr) (ms : Mappings),
    unmapAll hs ms = ms.filter (fun p => p.1 ∉ hs)
  | [], ms => by simp [unmapAll]
  | h :: hs, ms => by
    rw [unmapAll, unmap_or_self, unmapAll_eq hs, List.filter_filter]
    congr 1
    funext p
    rw [Bool.and_comm]
    simp

/-- A host address the port-mapping loop returns was not mapped, and is then
mapped to the container. -/
theorem mapLoop_fresh {answers : Nat → MapAnswer} {container : Addr} {ip hostPort : Nat}
    {ms : Mappings} {host : Addr} {ms' : Mappings} {i retries : Nat}
    (h : mapLoop answers container ip hostPort ms i retries = .ok (host, ms')) :
    mapped ms host = false ∧ ms' = (host, container) :: ms := by
  induction retries generalizing i with
  | zero =>
    unfold mapLoop at h
    rcases hm : map (answers i) container ip hostPort ms with e | r <;> simp only [hm] at h <;>
      exact map_fresh (hm.trans h)
  | succ k ih =>
    unfold mapLoop at h
    rcases hm : map (answers i) container ip hostPort ms with (a | e) | r <;> simp only [hm] at h
    · by_cases hp : hostPort = 0
      · exact ih (by rwa [if_neg (not_not_intro hp)] at h)
      · cases (if_pos hp).symm.trans h
    all_goals exact map_fresh (hm.trans h)

theorem release_of_none {id : String} {s : BridgeState} (h : s.currentInterfaces id = none) :
    release id s = (.err ("No network information to release for " ++ id), s) := by
  simp [release, h]

/-- `AllocatePort` for an id with no record changes nothing: it fails on the
protocol, or dereferences the missing record. -/
theorem allocatePort_of_none {req : PortRequest} {s : BridgeState}
    (h : s.currentInterfaces req.id = none) (answers : Nat → MapAnswer) (writeOk : Bool) :
    (allocatePort cfg req answers writeOk s).2 = s := by
  unfold allocatePort
  cases parseProto req.proto <;> simp [h]

/-! ## §4. The ids that hold an interface, and the invariant they keep. -/

/-- The ids that hold an interface after job `j` answered `st`: a successful
`allocate_interface` makes its id a holder, a `release_interface` ends it. -/
def BridgeJob.holders (H : String → Bool) (st : Go.Status) : BridgeJob → String → Bool
  | .allocateInterface id _ =>
    match st with
    | .ok => fun k => decide (k = id) || H k
    | _ => H
  | .releaseInterface id => fun k => !decide (k = id) && H k
  | .allocatePort .. => H

/-- The jobs the invariant is kept by: `allocate_interface` for an id that
holds no interface, `release_interface` and `allocate_port` for one that holds
one or never had a record. -/
def BridgeJob.Allowed (H : String → Bool) (s : BridgeState) : BridgeJob → Prop
  | .allocateInterface id _ => H id = false
  | .releaseInterface id => H id = true ∨ s.currentInterfaces id = none
  | .allocatePort req _ _ => H req.id = true ∨ s.currentInterfaces req.id = none

/-- `id` holds an interface, recorded as `n`. -/
def Held (H : String → Bool) (s : BridgeState) (id : String) (n : NetworkInterface) : Prop :=
  H id = true ∧ s.currentInterfaces id = some n

theorem Held.unique {H : String → Bool} {s : BridgeState} {id : String} {n m : NetworkInterface}
    (hn : Held H s id n) (hm : Held H s id m) : n = m :=
  Option.some.inj (hn.2.symm.trans hm.2)

/-- The driver's state agrees with its holders `H`. -/
structure Consistent (H : String → Bool) (s : BridgeState) : Prop where
  record : ∀ id, H id = true → s.currentInterfaces id ≠ none
  nodup : s.allocated.Nodup
  /-- The handed-out addresses are exactly the holders' IPs. -/
  allocated_iff : ∀ ip, ip ∈ s.allocated ↔ ∃ id n, Held H s id n ∧ n.ip = ip
  ip_inj : ∀ {a b na nb}, Held H s a na → Held H s b nb → na.ip = nb.ip → a = b
  /-- Every mapping is a port mapping of a holder, pointing at the holder's IP. -/
  mapping_held : ∀ {host c}, (host, c) ∈ s.mappings →
    ∃ id n, Held H s id n ∧ host ∈ n.portMappings ∧ c.ip = n.ip
  held_mapped : ∀ {id n host}, Held H s id n → host ∈ n.portMappings → mapped s.mappings host
  held_disjoint : ∀ {a b na nb host}, Held H s a na → Held H s b nb →
    host ∈ na.portMappings → host ∈ nb.portMappings → a = b

namespace Consistent

variable {H : String → Bool} {s : BridgeState}

theorem empty : Consistent (fun _ => false) BridgeState.empty where
  record := by simp
  nodup := List.nodup_nil
  allocated_iff := by simp [Held, BridgeState.empty]
  ip_inj h := by simp [Held] at h
  mapping_held h := by simp [BridgeState.empty] at h
  held_mapped h := by simp [Held] at h
  held_disjoint h := by simp [Held] at h

/-- A successful `Allocate` for an id that holds nothing, of an address not
handed out. -/
theorem allocate_ok (hc : Consistent H s) {id : String} (hid : H id = false) {ip : Nat}
    (hip : ip ∉ s.allocated) :
    Consistent (fun k => decide (k = id) || H k)
      ({ s with allocated := ip :: s.allocated }.setInterface id ⟨ip, []⟩) := by
  have held : ∀ {k m}, Held (fun k => decide (k = id) || H k)
      ({ s with allocated := ip :: s.allocated }.setInterface id ⟨ip, []⟩) k m ↔
        Held H s k m ∨ (k = id ∧ m = ⟨ip, []⟩) := by
    intro k m
    by_cases hk : k = id
    · subst hk; simp [Held, hid, eq_comm]
    · simp [Held, hk]
  have old_ip : ∀ {k m}, Held H s k m → m.ip ≠ ip := fun hk he =>
    hip ((hc.allocated_iff ip).2 ⟨_, _, hk, he⟩)
  refine ⟨fun k hk => ?_, List.nodup_cons.2 ⟨hip, hc.nodup⟩, fun x => ?_,
    fun ha hb he => ?_, fun hm => ?_, fun hk hh => ?_, fun ha hb h1 h2 => ?_⟩
  · by_cases hki : k = id
    · simp [hki]
    · simpa [hki] using hc.record k (by simpa [hki] using hk)
  · simp only [BridgeState.setInterface_allocated, List.mem_cons, held, hc.allocated_iff,
      or_and_right, exists_or]
    constructor
    · rintro (rfl | h)
      · exact Or.inr ⟨id, _, ⟨rfl, rfl⟩, rfl⟩
      · exact Or.inl h
    · rintro (h | ⟨_, _, ⟨rfl, rfl⟩, rfl⟩)
      · exact Or.inr h
      · exact Or.inl rfl
  · rcases held.1 ha with oa | ⟨rfl, rfl⟩ <;> rcases held.1 hb with ob | ⟨rfl, rfl⟩
    · exact hc.ip_inj oa ob he
    · exact absurd he (old_ip oa)
    · exact absurd he.symm (old_ip ob)
    · rfl
  · obtain ⟨k, m, hk, hh, he⟩ := hc.mapping_held hm
    exact ⟨k, m, held.2 (Or.inl hk), hh, he⟩
  · rcases held.1 hk with ok | ⟨rfl, rfl⟩
    · exact hc.held_mapped ok hh
    · simp at hh
  · rcases held.1 ha with oa | ⟨rfl, rfl⟩ <;> rcases held.1 hb with ob | ⟨rfl, rfl⟩
    · exact hc.held_disjoint oa ob h1 h2
    all_goals simp at h1 h2

/-- A `Release` of a holder: its ports unmapped, its address freed. -/
theorem release_some (hc : Consistent H s) {id : String} {n : NetworkInterface}
    (hn : Held H s id n) :
    Consistent (fun k => !decide (k = id) && H k)
      { s with mappings := unmapAll n.portMappings s.mappings,
               allocated := releaseIP s.allocated n.ip } := by
  have held : ∀ {k m}, Held (fun k => !decide (k = id) && H k)
      { s with mappings := unmapAll n.portMappings s.mappings,
               allocated := releaseIP s.allocated n.ip } k m ↔ Held H s k m ∧ k ≠ id := by
    intro k m
    simp only [Held, Bool.and_eq_true, Bool.not_eq_true', decide_eq_false_iff_not]
    tauto
  refine ⟨fun k hk => hc.record k (by simp_all), hc.nodup.erase _, fun x => ?_,
    fun ha hb he => hc.ip_inj (held.1 ha).1 (held.1 hb).1 he, fun hm => ?_, fun hk hh => ?_,
    fun ha hb h1 h2 => hc.held_disjoint (held.1 ha).1 (held.1 hb).1 h1 h2⟩
  · simp only [held]
    simp only [releaseIP, hc.nodup.mem_erase_iff, hc.allocated_iff]
    constructor
    · rintro ⟨hx, k, m, hk, rfl⟩
      exact ⟨k, m, ⟨hk, fun hki => hx (by rw [hn.unique (hki ▸ hk)])⟩, rfl⟩
    · rintro ⟨k, m, ⟨hk, hki⟩, rfl⟩
      exact ⟨fun he => hki (hc.ip_inj hk hn he), k, m, hk, rfl⟩
  · simp only [unmapAll_eq, List.mem_filter, decide_eq_true_eq] at hm
    obtain ⟨k, m, hk, hh, he⟩ := hc.mapping_held hm.1
    refine ⟨k, m, held.2 ⟨hk, fun hki => hm.2 ?_⟩, hh, he⟩
    rw [hn.unique (hki ▸ hk)]
    exact hh
  · obtain ⟨c, hc'⟩ := (mapped_iff _ _).1 (hc.held_mapped (held.1 hk).1 hh)
    refine (mapped_iff _ _).2 ⟨c, ?_⟩
    simp only [unmapAll_eq, List.mem_filter, decide_eq_true_eq]
    exact ⟨hc', fun hn' => (held.1 hk).2 (hc.held_disjoint (held.1 hk).1 hn hh hn')⟩

/-- A successful `AllocatePort` for a holder: a host address not mapped
before, mapped to the holder's IP and appended to its record. -/
theorem allocatePort_ok (hc : Consistent H s) {id : String} {network : NetworkInterface}
    (hn : Held H s id network) {host container : Addr} (hip : container.ip = network.ip)
    (hfresh : mapped s.mappings host = false) :
    Consistent H ({ s with mappings := (host, container) :: s.mappings }.setInterface id
      { network with portMappings := network.portMappings ++ [host] }) := by
  have held : ∀ {k m}, Held H ({ s with mappings := (host, container) :: s.mappings }.setInterface
      id { network with portMappings := network.portMappings ++ [host] }) k m ↔
        (Held H s k m ∧ k ≠ id) ∨
          (k = id ∧ m = { network with portMappings := network.portMappings ++ [host] }) := by
    intro k m
    by_cases hk : k = id
    · subst hk; simp [Held, hn.1, eq_comm]
    · simp [Held, hk]
  /- Every holder's record after the job is its record before it, with
  `host` perhaps appended. -/
  have back : ∀ {k m}, Held H ({ s with mappings := (host, container) :: s.mappings }.setInterface
      id { network with portMappings := network.portMappings ++ [host] }) k m →
        ∃ m₀, Held H s k m₀ ∧ m₀.ip = m.ip := by
    intro k m hk
    rcases held.1 hk with ⟨ok, -⟩ | ⟨rfl, rfl⟩
    · exact ⟨m, ok, rfl⟩
    · exact ⟨network, hn, rfl⟩
  have side : ∀ {k m x}, Held H ({ s with mappings := (host, container) :: s.mappings }.setInterface
      id { network with portMappings := network.portMappings ++ [host] }) k m →
        x ∈ m.portMappings → (∃ m₀, Held H s k m₀ ∧ x ∈ m₀.portMappings) ∨ (k = id ∧ x = host) := by
    intro k m x hk hx
    rcases held.1 hk with ⟨ok, -⟩ | ⟨rfl, rfl⟩
    · exact Or.inl ⟨m, ok, hx⟩
    · rcases List.mem_append.1 hx with hx | hx
      · exact Or.inl ⟨network, hn, hx⟩
      · exact Or.inr ⟨rfl, List.mem_singleton.1 hx⟩
  have unmapped : ∀ {k m}, Held H s k m → host ∉ m.portMappings := fun hk hh => by
    simpa [hfresh] using hc.held_mapped hk hh
  refine ⟨fun k hk => ?_, hc.nodup, fun x => ?_, fun ha hb he => ?_, fun hm => ?_,
    fun hk hh => ?_, fun ha hb h1 h2 => ?_⟩
  · by_cases hki : k = id
    · simp [hki]
    · simpa [hki] using hc.record k hk
  · rw [BridgeState.setInterface_allocated, hc.allocated_iff]
    constructor
    · rintro ⟨k, m, hk, rfl⟩
      by_cases hki : k = id
      · subst hki
        exact ⟨k, _, held.2 (Or.inr ⟨rfl, rfl⟩), by rw [hn.unique hk]⟩
      · exact ⟨k, m, held.2 (Or.inl ⟨hk, hki⟩), rfl⟩
    · rintro ⟨k, m, hk, rfl⟩
      obtain ⟨m₀, hk₀, he⟩ := back hk
      exact ⟨k, m₀, hk₀, he⟩
  · obtain ⟨ma, ha₀, hea⟩ := back ha
    obtain ⟨mb, hb₀, heb⟩ := back hb
    exact hc.ip_inj ha₀ hb₀ (by rw [hea, heb, he])
  · rcases List.mem_cons.1 hm with he | hm
    · obtain ⟨rfl, rfl⟩ := Prod.mk.inj he
      exact ⟨id, _, held.2 (Or.inr ⟨rfl, rfl⟩), by simp, hip⟩
    · obtain ⟨k, m, hk, hh, he⟩ := hc.mapping_held hm
      by_cases hki : k = id
      · subst hki
        obtain rfl := hn.unique hk
        exact ⟨k, _, held.2 (Or.inr ⟨rfl, rfl⟩), by simp [hh], he⟩
      · exact ⟨k, m, held.2 (Or.inl ⟨hk, hki⟩), hh, he⟩
  · rcases side hk hh with ⟨m₀, hk₀, hh₀⟩ | ⟨-, rfl⟩
    · obtain ⟨c, hc'⟩ := (mapped_iff _ _).1 (hc.held_mapped hk₀ hh₀)
      exact (mapped_iff _ _).2 ⟨c, List.mem_cons_of_mem _ hc'⟩
    · exact (mapped_iff _ _).2 ⟨container, List.mem_cons_self _ _⟩
  · rcases side ha h1 with ⟨ma, oa, xa⟩ | ⟨rfl, rfl⟩ <;>
      rcases side hb h2 with ⟨mb, ob, xb⟩ | ⟨rfl, hx⟩
    · exact hc.held_disjoint oa ob xa xb
    · exact absurd (hx ▸ xa) (unmapped oa)
    · exact absurd xb (unmapped ob)
    · rfl

end Consistent

/-! ## §5. Every reachable state. -/

/-- One allowed job keeps the invariant. -/
theorem Consistent.step {H : String → Bool} {s : BridgeState} (hc : Consistent H s)
    {j : BridgeJob} (hj : j.Allowed H s) :
    Consistent (j.holders H (j.run cfg s).1) (j.run cfg s).2 := by
  cases j with
  | allocateInterface id req =>
    simp only [BridgeJob.run, BridgeJob.holders, allocate]
    cases hr : requestIP cfg.bridgeNetwork cfg.bridgeIP s.allocated req with
    | error e => simpa using hc
    | ok r =>
      obtain ⟨ip, al⟩ := r
      obtain ⟨hfree, rfl⟩ := requestIP_fresh hr
      have hip : ip ∉ s.allocated := by simp only [Subnet.free, Bool.and_eq_true] at hfree; simpa using hfree.2
      exact hc.allocate_ok hj hip
  | releaseInterface id =>
    simp only [BridgeJob.run, BridgeJob.holders]
    cases hn : s.currentInterfaces id with
    | none =>
      have hid : H id = false := by simpa using mt (hc.record id) (by simp [hn])
      have hH : (fun k => !decide (k = id) && H k) = H := by
        funext k
        by_cases hk : k = id <;> simp [hk, hid]
      rw [release_of_none hn, hH]
      exact hc
    | some n =>
      simp only [release, hn]
      exact hc.release_some ⟨hj.resolve_right (by simp [hn]), hn⟩
  | allocatePort req answers writeOk =>
    simp only [BridgeJob.run, BridgeJob.holders]
    cases hn : s.currentInterfaces req.id with
    | none => rw [allocatePort_of_none cfg hn]; exact hc
    | some network =>
      have held : Held H s req.id network := ⟨hj.resolve_right (by simp [hn]), hn⟩
      unfold allocatePort
      cases parseProto req.proto with
      | none => exact hc
      | some proto =>
        simp only [hn]
        split
        · exact hc
        · next host ms hm =>
          obtain ⟨hfresh, rfl⟩ := mapLoop_fresh hm
          split <;> exact hc.allocatePort_ok held rfl hfresh

/-- The states the driver reaches from its start by allowed jobs, with the ids
that hold an interface there. -/
inductive Reach : (String → Bool) → BridgeState → Prop
  | empty : Reach (fun _ => false) BridgeState.empty
  | step {H : String → Bool} {s : BridgeState} (j : BridgeJob) :
      Reach H s → j.Allowed H s → Reach (j.holders H (j.run cfg s).1) (j.run cfg s).2

/-- In every state reached by allowed jobs, the handed-out addresses are the
holders' IPs, no two holders share one, and the mappings are the holders' port
mappings, each to its holder's IP; an allowed `release_interface` or
`allocate_port` for an id that holds nothing changes nothing. -/
theorem reach_consistent {H : String → Bool} {s : BridgeState} (h : Reach cfg H s) :
    Consistent H s ∧
      ∀ id, H id = false → (BridgeJob.releaseInterface id).Allowed H s →
        (release id s).2 = s ∧
          ∀ req answers writeOk, req.id = id → (allocatePort cfg req answers writeOk s).2 = s := by
  have hc : Consistent H s := by
    induction h with
    | empty => exact Consistent.empty
    | step j _ hj ih => exact ih.step cfg hj
  refine ⟨hc, fun id hid hj => ?_⟩
  have hn : s.currentInterfaces id = none := hj.resolve_left (by simp [hid])
  exact ⟨by rw [release_of_none hn], fun req _ _ hr => allocatePort_of_none cfg (hr ▸ hn) _ _⟩

/-- `DefaultNetworkBridge`, at the first of `addrs`, 172.17.42.1/16. -/
def docker0 : BridgeConfig := ⟨"docker0", 2886806017, ⟨2886795264, 16⟩, 0⟩

theorem reach_consistent_after_allocate :
    Reach docker0 ((BridgeJob.allocateInterface "web" none).holders (fun _ => false)
        ((BridgeJob.allocateInterface "web" none).run docker0 BridgeState.empty).1)
      ((BridgeJob.allocateInterface "web" none).run docker0 BridgeState.empty).2 ∧
    Consistent ((BridgeJob.allocateInterface "web" none).holders (fun _ => false)
        ((BridgeJob.allocateInterface "web" none).run docker0 BridgeState.empty).1)
      ((BridgeJob.allocateInterface "web" none).run docker0 BridgeState.empty).2 :=
  have h : Reach docker0 _ _ := Reach.step (.allocateInterface "web" none) Reach.empty rfl
  ⟨h, (reach_consistent docker0 h).1⟩

/-- A second `release_interface` of `a` frees the address `b` now holds, and
`c` is given it too: every job succeeds, and `b` and `c` share 172.17.0.2. -/
theorem release_released_shares_ip :
    (runJobs docker0 BridgeState.empty [.allocateInterface "a" none, .releaseInterface "a",
        .allocateInterface "b" none, .releaseInterface "a", .allocateInterface "c" none]).1
      = [.ok, .ok, .ok, .ok, .ok] ∧
    ((runJobs docker0 BridgeState.empty [.allocateInterface "a" none, .releaseInterface "a",
        .allocateInterface "b" none, .releaseInterface "a", .allocateInterface "c" none]).2
        |>.currentInterfaces "b" |>.map NetworkInterface.ip) = some 2886795266 ∧
    ((runJobs docker0 BridgeState.empty [.allocateInterface "a" none, .releaseInterface "a",
        .allocateInterface "b" none, .releaseInterface "a", .allocateInterface "c" none]).2
        |>.currentInterfaces "c" |>.map NetworkInterface.ip) = some 2886795266 := by
  decide

/-! ## §6. The calls to `Map`. -/

/-- One attempt of the loop: its call is the last, and the loop returns its
answer; or the call failed with `ErrPortAlreadyAllocated` on an automatic
port with attempts left, and the loop goes on at the next attempt. -/
theorem mapCalls_cases (answers : Nat → MapAnswer) (container : Addr) (ip hostPort : Nat)
    (ms : Mappings) (i retries : Nat) :
    (mapCalls answers container ip hostPort ms i retries =
        [⟨container, ip, hostPort, map (answers i) container ip hostPort ms⟩] ∧
      mapLoop answers container ip hostPort ms i retries = map (answers i) container ip hostPort ms) ∨
    ∃ h k, retries = k + 1 ∧ hostPort = 0 ∧
      map (answers i) container ip hostPort ms = .error (.alreadyAllocated h) ∧
      mapCalls answers container ip hostPort ms i retries =
        ⟨container, ip, hostPort, .error (.alreadyAllocated h)⟩ ::
          mapCalls answers container ip hostPort ms (i + 1) k ∧
      mapLoop answers container ip hostPort ms i retries =
        mapLoop answers container ip hostPort ms (i + 1) k := by
  rw [mapCalls.eq_def answers container ip hostPort ms i retries,
    mapLoop.eq_def answers container ip hostPort ms i retries]
  dsimp only
  rcases hm : map (answers i) container ip hostPort ms with (h | e) | r
  · rcases retries with _ | k
    · exact .inl ⟨rfl, rfl⟩
    by_cases hp : hostPort = 0
    · dsimp only
      rw [if_neg (not_not_intro hp), if_neg (not_not_intro hp)]
      exact .inr ⟨h, k, rfl, hp, rfl, rfl, rfl⟩
    · dsimp only
      rw [if_pos hp, if_pos hp]
      exact .inl ⟨rfl, rfl⟩
  all_goals exact .inl ⟨rfl, rfl⟩

section MapCalls

variable {answers : Nat → MapAnswer} {container : Addr} {ip hostPort : Nat} {ms : Mappings}

/-- The loop makes at most one call per attempt. -/
theorem mapCalls_length (i retries : Nat) :
    (mapCalls answers container ip hostPort ms i retries).length ≤ retries + 1 := by
  induction retries generalizing i with
  | zero =>
    rcases mapCalls_cases answers container ip hostPort ms i 0 with
      ⟨h, -⟩ | ⟨_, _, h, -⟩ <;> simp_all
  | succ k ih =>
    rcases mapCalls_cases answers container ip hostPort ms i (k + 1) with
      ⟨h, -⟩ | ⟨_, _, hk, -, -, h, -⟩ <;> rw [h]
    · simp
    · cases hk
      simpa using ih (i + 1)

/-- Every call has the same container address, host IP and host port. -/
theorem mapCalls_args (i retries : Nat) :
    ∀ c ∈ mapCalls answers container ip hostPort ms i retries,
      c.container = container ∧ c.hostIP = ip ∧ c.hostPort = hostPort := by
  induction retries generalizing i with
  | zero =>
    rcases mapCalls_cases answers container ip hostPort ms i 0 with
      ⟨h, -⟩ | ⟨_, _, h, -⟩ <;> simp_all
  | succ k ih =>
    rcases mapCalls_cases answers container ip hostPort ms i (k + 1) with
      ⟨h, -⟩ | ⟨_, _, hk, -, -, h, -⟩ <;> rw [h]
    · simp
    · cases hk
      exact List.forall_mem_cons.2 ⟨⟨rfl, rfl, rfl⟩, ih (i + 1)⟩

/-- A call is followed by another only when the host port is chosen
automatically and the call failed with `ErrPortAlreadyAllocated`. -/
theorem mapCalls_retry (i retries : Nat) :
    ∀ k (hk : k + 1 < (mapCalls answers container ip hostPort ms i retries).length),
      hostPort = 0 ∧ ∃ h, (mapCalls answers container ip hostPort ms i retries)[k].result =
        .error (.alreadyAllocated h) := by
  induction retries generalizing i with
  | zero =>
    rcases mapCalls_cases answers container ip hostPort ms i 0 with ⟨h, -⟩ | ⟨_, _, h, -⟩
    · simp [h]
    · cases h
  | succ n ih =>
    rcases mapCalls_cases answers container ip hostPort ms i (n + 1) with
      ⟨h, -⟩ | ⟨a, _, hn, hp, -, h, -⟩
    · simp [h]
    · cases hn
      intro k hk
      simp only [h] at hk ⊢
      rcases k with _ | k
      · exact ⟨hp, a, rfl⟩
      · exact ih (i + 1) k (by simpa using hk)

/-- The loop's result is the answer to its last call. -/
theorem mapCalls_last (i retries : Nat) :
    ∃ c, (mapCalls answers container ip hostPort ms i retries).getLast? = some c ∧
      mapLoop answers container ip hostPort ms i retries = c.result := by
  induction retries generalizing i with
  | zero =>
    rcases mapCalls_cases answers container ip hostPort ms i 0 with ⟨h, hl⟩ | ⟨_, _, h, -⟩
    · exact ⟨_, by rw [h]; rfl, hl⟩
    · cases h
  | succ n ih =>
    rcases mapCalls_cases answers container ip hostPort ms i (n + 1) with
      ⟨h, hl⟩ | ⟨_, _, hn, -, -, h, hl⟩
    · exact ⟨_, by rw [h]; rfl, hl⟩
    · cases hn
      obtain ⟨c, hc, hr⟩ := ih (i + 1)
      refine ⟨c, ?_, hl.trans hr⟩
      rw [h, List.getLast?_cons, hc]
      rfl

end MapCalls

/-- `AllocatePort` for a holder, once the protocol is known: the loop, then
the record grows by the host address before the output is written. -/
theorem allocatePort_of_some {req : PortRequest} {s : BridgeState} {network : NetworkInterface}
    {proto : Proto} (hp : parseProto req.proto = some proto)
    (hn : s.currentInterfaces req.id = some network) (answers : Nat → MapAnswer) (writeOk : Bool) :
    allocatePort cfg req answers writeOk s =
      match mapLoop answers ⟨proto, network.ip, req.containerPort⟩
          (req.hostIP.getD cfg.defaultBindingIP) req.hostPort s.mappings 0
          (MaxAllocatedPortAttempts - 1) with
      | .error e => (.err e.text, s)
      | .ok (host, ms) =>
        if writeOk then
          (.ok, { s with mappings := ms }.setInterface req.id
            { network with portMappings := network.portMappings ++ [host] })
        else
          (.err "write error", { s with mappings := ms }.setInterface req.id
            { network with portMappings := network.portMappings ++ [host] }) := by
  unfold allocatePort
  rw [hp, hn]

theorem allocatePortCalls_of_some {req : PortRequest} {s : BridgeState}
    {network : NetworkInterface} {proto : Proto} (hp : parseProto req.proto = some proto)
    (hn : s.currentInterfaces req.id = some network) (answers : Nat → MapAnswer) :
    allocatePortCalls cfg req answers s =
      mapCalls answers ⟨proto, network.ip, req.containerPort⟩
        (req.hostIP.getD cfg.defaultBindingIP) req.hostPort s.mappings 0
        (MaxAllocatedPortAttempts - 1) := by
  unfold allocatePortCalls
  rw [hp, hn]

/-- An `allocate_port` job for a holder, with protocol `tcp` or `udp`, calls
`Map` at most `MaxAllocatedPortAttempts` times, always with the same container
address, host IP and host port; it calls again only for an automatic host
port that the last call found allocated.  It succeeds iff its last call
succeeded and the output was written; when that call succeeded the host
address it returned is appended once to the holder's `PortMappings`, whether
the write then succeeds or not; when it failed nothing changes. -/
theorem allocatePort_map_calls (req : PortRequest) (answers : Nat → MapAnswer) (writeOk : Bool)
    (s : BridgeState) {network : NetworkInterface} (hn : s.currentInterfaces req.id = some network)
    (hproto : req.proto = "tcp" ∨ req.proto = "udp") :
    (allocatePortCalls cfg req answers s).length ≤ MaxAllocatedPortAttempts ∧
    (∃ proto, parseProto req.proto = some proto ∧ ∀ c ∈ allocatePortCalls cfg req answers s,
      c.container = ⟨proto, network.ip, req.containerPort⟩ ∧
        c.hostIP = req.hostIP.getD cfg.defaultBindingIP ∧ c.hostPort = req.hostPort) ∧
    (∀ k (hk : k + 1 < (allocatePortCalls cfg req answers s).length), req.hostPort = 0 ∧
      ∃ h, (allocatePortCalls cfg req answers s)[k].result = .error (.alreadyAllocated h)) ∧
    ∃ c, (allocatePortCalls cfg req answers s).getLast? = some c ∧
      ((allocatePort cfg req answers writeOk s).1 = .ok ↔ c.result.isOk ∧ writeOk = true) ∧
      (∀ host ms, c.result = .ok (host, ms) →
        (allocatePort cfg req answers writeOk s).2.currentInterfaces req.id =
          some { network with portMappings := network.portMappings ++ [host] }) ∧
      (∀ e, c.result = .error e → (allocatePort cfg req answers writeOk s).2 = s) := by
  obtain ⟨proto, hp⟩ : ∃ proto, parseProto req.proto = some proto := by
    rcases hproto with h | h <;> rw [h] <;> exact ⟨_, rfl⟩
  rw [allocatePortCalls_of_some cfg hp hn]
  obtain ⟨c, hc, hr⟩ := @mapCalls_last answers _ _ _ _ 0 (MaxAllocatedPortAttempts - 1)
  refine ⟨mapCalls_length _ _, ⟨proto, hp, mapCalls_args _ _⟩, mapCalls_retry _ _, c, hc, ?_⟩
  rw [allocatePort_of_some cfg hp hn, hr]
  rcases c.result with e | ⟨host, ms⟩
  · exact ⟨by simp [Except.isOk, Except.toBool], fun _ _ h => (nomatch h), fun _ _ => rfl⟩
  · refine ⟨?_, fun _ _ h => ?_, fun _ h => (nomatch h)⟩
    · cases writeOk <;> simp [Except.isOk, Except.toBool]
    · cases h
      cases writeOk <;> simp


/-- A container `web` holding 172.17.0.2 with no ports mapped. -/
def webHolder : BridgeState :=
  BridgeState.empty.setInterface "web" ⟨2886795266, []⟩

/-- `allocate_port web` for tcp port 80 on host port 8080. -/
def webPort : PortRequest := ⟨"web", none, 8080, 80, "tcp"⟩

theorem allocatePort_map_calls_web :
    webHolder.currentInterfaces webPort.id = some ⟨2886795266, []⟩ ∧
    (webPort.proto = "tcp" ∨ webPort.proto = "udp") ∧
    (allocatePortCalls docker0 webPort (fun _ => .binds 49153) webHolder).length ≤
      MaxAllocatedPortAttempts ∧
    (∃ proto, parseProto webPort.proto = some proto ∧
      ∀ c ∈ allocatePortCalls docker0 webPort (fun _ => .binds 49153) webHolder,
        c.container = ⟨proto, 2886795266, webPort.containerPort⟩ ∧
          c.hostIP = webPort.hostIP.getD docker0.defaultBindingIP ∧ c.hostPort = webPort.hostPort) ∧
    (∀ k (hk : k + 1 < (allocatePortCalls docker0 webPort (fun _ => .binds 49153) webHolder).length),
      webPort.hostPort = 0 ∧ ∃ h,
        (allocatePortCalls docker0 webPort (fun _ => .binds 49153) webHolder)[k].result =
          .error (.alreadyAllocated h)) ∧
    ∃ c, (allocatePortCalls docker0 webPort (fun _ => .binds 49153) webHolder).getLast? = some c ∧
      ((allocatePort docker0 webPort (fun _ => .binds 49153) false webHolder).1 = .ok ↔
        c.result.isOk ∧ false = true) ∧
      (∀ host ms, c.result = .ok (host, ms) →
        (allocatePort docker0 webPort (fun _ => .binds 49153) false webHolder).2.currentInterfaces
            webPort.id = some ⟨2886795266, [] ++ [host]⟩) ∧
      (∀ e, c.result = .error e →
        (allocatePort docker0 webPort (fun _ => .binds 49153) false webHolder).2 = webHolder) :=
  ⟨rfl, .inl rfl, allocatePort_map_calls docker0 webPort _ false webHolder rfl (.inl rfl)⟩

/-- The output write of `allocate_port web` fails: the job fails, and
`web`'s `PortMappings` holds the host address all the same. -/
theorem allocatePort_write_error_keeps_mapping :
    (allocatePort docker0 webPort (fun _ => .binds 49153) false webHolder).1 = .err "write error" ∧
    (allocatePort docker0 webPort (fun _ => .binds 49153) false webHolder).2.currentInterfaces "web" =
      some ⟨2886795266, [⟨.tcp, 0, 8080⟩]⟩ := by
  decide

end DockerDaemon.Bridge
