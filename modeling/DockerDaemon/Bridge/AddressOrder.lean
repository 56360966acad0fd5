/-
  DockerDaemon.Bridge.AddressOrder — the order in which `Allocate` hands
  out addresses, and the bridge's own address.
  ──────────────────────────────────────
  A container created without `RequestedIP` gets
  `ipallocator.RequestIP(bridgeNetwork, nil)`, the lowest free address of
  the bridge network.  The allocator holds back the network's address, its
  first usable one, its broadcast, and `bridgeNetwork.IP`, the bridge's own
  address, which `Allocate` writes as every container's `Gateway`.

  Main results:
    * `runJobs_autoJobs_empty` — from a driver that has handed out nothing,
      the automatic `allocate_interface` jobs of `n` containers all
      succeed, and the `i`-th container gets the `i`-th address after the
      first usable one, the bridge's own address skipped.
    * `runJobs_never_bridge_ip` — over every run of jobs from a fresh
      driver, no container's record holds the bridge's address: the `IP`
      `Allocate` writes is never its `Gateway`.
-/
import DockerDaemon.Bridge.Interfaces

namespace DockerDaemon.Bridge

/-! ## §1. The lowest free address. -/

/-- `firstFree` finds the least free address of its window. -/
theorem firstFree_eq_of_least {n : Subnet} {own : Nat} {allocated : List Nat} :
    ∀ {ip k a : Nat}, ip ≤ a → a < ip + k → n.free own allocated a = true →
      (∀ x, ip ≤ x → x < a → n.free own allocated x = false) →
      n.firstFree own allocated ip k = some a
  | _, 0, _, _, hk, _, _ => absurd hk (by omega)
  | ip, k + 1, a, hip, hk, ha, hlow => by
    rcases Nat.eq_or_lt_of_le hip with rfl | hlt
    · simp [Subnet.firstFree, ha]
    · simp only [Subnet.firstFree, hlow ip le_rfl hlt, Bool.false_eq_true, if_false]
      exact firstFree_eq_of_least hlt (by omega) ha fun x hx hxa => hlow x (by omega) hxa

/-- The `i`-th address the allocator hands out from nothing: the `i`-th
after the network's first usable one, the interface's own address `own`
skipped. -/
def Subnet.autoAddr (n : Subnet) (own i : Nat) : Nat :=
  if own < n.base + 2 ∨ n.base + 2 + i < own then n.base + 2 + i else n.base + 3 + i

/-- The allocator has handed out exactly the first `j` addresses of that
order. -/
def Subnet.TakenUpTo (n : Subnet) (own : Nat) (allocated : List Nat) (j : Nat) : Prop :=
  ∀ x, x ∈ allocated ↔ n.base + 2 ≤ x ∧ x < n.autoAddr own j ∧ x ≠ own

theorem Subnet.takenUpTo_nil (n : Subnet) (own : Nat) : n.TakenUpTo own [] 0 := fun x => by
  simp only [List.not_mem_nil, false_iff, Subnet.autoAddr]
  split_ifs <;> omega

theorem Subnet.TakenUpTo.cons {n : Subnet} {own : Nat} {allocated : List Nat} {j : Nat}
    (h : n.TakenUpTo own allocated j) :
    n.TakenUpTo own (n.autoAddr own j :: allocated) (j + 1) := fun x => by
  rw [List.mem_cons, h x]
  simp only [Subnet.autoAddr]
  split_ifs <;> omega

/-- With the first `j` addresses of the order handed out, and room left
before the broadcast, `RequestIP(net, nil)` hands out the next. -/
theorem requestIP_next {n : Subnet} {own : Nat} {allocated : List Nat} {j : Nat}
    (h : n.TakenUpTo own allocated j) (hj : j + 4 < n.size) :
    requestIP n own allocated none = .ok (n.autoAddr own j, n.autoAddr own j :: allocated) := by
  have ha : n.base + 2 + j ≤ n.autoAddr own j ∧ n.autoAddr own j ≤ n.base + 3 + j ∧
      n.autoAddr own j ≠ own := by
    unfold Subnet.autoAddr
    split_ifs <;> omega
  have hnew : n.autoAddr own j ∉ allocated := fun hm => by
    have := (h _).1 hm
    omega
  have hfree : n.free own allocated (n.autoAddr own j) = true := by
    simp [Subnet.free, Subnet.contains, Subnet.special, Subnet.firstUsable, Subnet.broadcast, hnew]
    omega
  have hlow : ∀ x, n.base ≤ x → x < n.autoAddr own j → n.free own allocated x = false := by
    intro x hx hxj
    by_cases hs : x < n.base + 2 ∨ x = own
    · have : x = n.base ∨ x = n.firstUsable ∨ x = own := by
        simp only [Subnet.firstUsable]
        omega
      rcases this with rfl | rfl | rfl <;> simp [Subnet.free, Subnet.special]
    · simp [Subnet.free, (h x).2 ⟨by omega, hxj, by omega⟩]
  simp only [requestIP,
    @firstFree_eq_of_least n own allocated n.base n.size _ (by omega) (by omega) hfree hlow]

/-! ## §2. Automatic allocations from a fresh driver. -/

variable (cfg : BridgeConfig)

/-- One `allocate_interface` job per container, none with `RequestedIP`. -/
def autoJobs (ids : List String) : List BridgeJob :=
  ids.map (BridgeJob.allocateInterface · none)

@[simp] theorem autoJobs_nil : autoJobs [] = [] := rfl

@[simp] theorem autoJobs_cons (id : String) (ids : List String) :
    autoJobs (id :: ids) = .allocateInterface id none :: autoJobs ids := rfl

theorem runJobs_cons (s : BridgeState) (j : BridgeJob) (js : List BridgeJob) :
    runJobs cfg s (j :: js) =
      ((j.run cfg s).1 :: (runJobs cfg (j.run cfg s).2 js).1, (runJobs cfg (j.run cfg s).2 js).2) :=
  rfl

theorem allocate_next (id : String) {s : BridgeState} {j : Nat}
    (h : cfg.bridgeNetwork.TakenUpTo cfg.bridgeIP s.allocated j)
    (hj : j + 4 < cfg.bridgeNetwork.size) :
    allocate cfg id none s =
      (.ok, { s with allocated := cfg.bridgeNetwork.autoAddr cfg.bridgeIP j :: s.allocated
        }.setInterface id ⟨cfg.bridgeNetwork.autoAddr cfg.bridgeIP j, []⟩) := by
  simp only [allocate, requestIP_next h hj]

/-- `allocate_interface` for `id` leaves every other container's record. -/
theorem allocate_interfaces_ne (id : String) (req : Option Nat) (s : BridgeState) {k : String}
    (hk : k ≠ id) : (allocate cfg id req s).2.currentInterfaces k = s.currentInterfaces k := by
  unfold allocate
  split <;> simp [hk]

theorem runJobs_autoJobs_frame {k : String} :
    ∀ (ids : List String) (s : BridgeState), k ∉ ids →
      (runJobs cfg s (autoJobs ids)).2.currentInterfaces k = s.currentInterfaces k
  | [], _, _ => rfl
  | id :: ids, s, hk => by
    rw [List.mem_cons, not_or] at hk
    rw [autoJobs_cons, runJobs_cons, BridgeJob.run, runJobs_autoJobs_frame ids _ hk.2,
      allocate_interfaces_ne cfg id none s hk.1]

/-- The run lemma: from the first `j` addresses of the order handed out,
the jobs of `ids` all succeed and the `i`-th gets the `(j + i)`-th. -/
theorem runJobs_autoJobs_from :
    ∀ (ids : List String) (s : BridgeState) (j : Nat), ids.Nodup →
      cfg.bridgeNetwork.TakenUpTo cfg.bridgeIP s.allocated j →
      j + ids.length + 3 < cfg.bridgeNetwork.size →
      (runJobs cfg s (autoJobs ids)).1 = ids.map (fun _ => .ok) ∧
        ∀ (i : Nat) (hi : i < ids.length), (runJobs cfg s (autoJobs ids)).2.currentInterfaces
          ids[i] = some ⟨cfg.bridgeNetwork.autoAddr cfg.bridgeIP (j + i), []⟩
  | [], _, _, _, _, _ => ⟨rfl, fun _ hi => absurd hi (Nat.not_lt_zero _)⟩
  | id :: ids, s, j, hnd, h, hroom => by
    rw [List.nodup_cons] at hnd
    rw [List.length_cons] at hroom
    have hstep := allocate_next cfg id h (by omega)
    have ih := runJobs_autoJobs_from ids (allocate cfg id none s).2 (j + 1) hnd.2
      (by rw [hstep]; exact h.cons) (by omega)
    rw [autoJobs_cons, runJobs_cons, BridgeJob.run]
    refine ⟨by rw [ih.1, hstep]; rfl, fun i hi => ?_⟩
    cases i with
    | zero =>
      rw [List.getElem_cons_zero, runJobs_autoJobs_frame cfg ids _ hnd.1, hstep]
      simp
    | succ i =>
      rw [List.getElem_cons_succ, ih.2 i (by simpa using hi), Nat.add_right_comm, Nat.add_assoc]

/-- From a driver that has handed out nothing, the automatic
`allocate_interface` jobs of `n` containers, with room for them before the
broadcast, all succeed, and the `i`-th container gets the `i`-th address
after the network's first usable one, the bridge's own address skipped. -/
theorem runJobs_autoJobs_empty (ids : List String) (hnd : ids.Nodup)
    (hroom : ids.length + 3 < cfg.bridgeNetwork.size) :
    (runJobs cfg BridgeState.empty (autoJobs ids)).1 = ids.map (fun _ => .ok) ∧
      ∀ (i : Nat) (hi : i < ids.length),
        (runJobs cfg BridgeState.empty (autoJobs ids)).2.currentInterfaces ids[i] =
          some ⟨cfg.bridgeNetwork.autoAddr cfg.bridgeIP i, []⟩ := by
  have h := runJobs_autoJobs_from cfg ids BridgeState.empty 0 hnd
    (cfg.bridgeNetwork.takenUpTo_nil cfg.bridgeIP) (by simpa using hroom)
  simpa using h

/-- A /29 network, 172.17.0.0/29, with the bridge at 172.17.0.4. -/
def smallBridge : BridgeConfig := ⟨"docker0", 2886795268, ⟨2886795264, 29⟩, 0⟩

/-- Three containers on it get 172.17.0.2, .3 and .5: the bridge's .4 is
skipped. -/
theorem runJobs_autoJobs_empty_small :
    ["web", "db", "cache"].Nodup ∧
      ["web", "db", "cache"].length + 3 < smallBridge.bridgeNetwork.size ∧
      (runJobs smallBridge BridgeState.empty (autoJobs ["web", "db", "cache"])).1 =
        ["web", "db", "cache"].map (fun _ => .ok) ∧
      ∀ (i : Nat) (hi : i < ["web", "db", "cache"].length),
        (runJobs smallBridge BridgeState.empty (autoJobs ["web", "db", "cache"])).2.currentInterfaces
          ["web", "db", "cache"][i] =
          some ⟨smallBridge.bridgeNetwork.autoAddr smallBridge.bridgeIP i, []⟩ :=
  have hnd : ["web", "db", "cache"].Nodup := by decide
  have hroom : ["web", "db", "cache"].length + 3 < smallBridge.bridgeNetwork.size := by decide
  ⟨hnd, hroom, runJobs_autoJobs_empty smallBridge _ hnd hroom⟩

example : smallBridge.bridgeNetwork.autoAddr smallBridge.bridgeIP 2 = 2886795269 := by decide

/-! ## §3. The bridge's own address. -/

/-- No container's record holds the bridge's own address. -/
def SparesBridge (s : BridgeState) : Prop :=
  ∀ id n, s.currentInterfaces id = some n → n.ip ≠ cfg.bridgeIP

/-- The step lemma: `Allocate` records an address the allocator handed out,
never the bridge's; `Release` keeps the records; `AllocatePort` changes a
record's port mappings only. -/
theorem SparesBridge.run {s : BridgeState} (hs : SparesBridge cfg s) (j : BridgeJob) :
    SparesBridge cfg (j.run cfg s).2 := by
  intro id n hn
  cases j with
  | allocateInterface k req =>
    simp only [BridgeJob.run, allocate] at hn
    split at hn
    · exact hs id n hn
    · next ip al hr =>
      by_cases hk : id = k
      · subst hk
        rw [BridgeState.setInterface_same, Option.some.injEq] at hn
        exact hn ▸ requestIP_ne_own hr
      · exact hs id n (by rwa [BridgeState.setInterface_ne _ _ hk] at hn)
  | releaseInterface k =>
    simp only [BridgeJob.run, release] at hn
    split at hn <;> exact hs id n hn
  | allocatePort req answers writeOk =>
    simp only [BridgeJob.run, allocatePort] at hn
    split at hn
    · exact hs id n hn
    split at hn
    · exact hs id n hn
    next network hnet =>
      split at hn
      · exact hs id n hn
      split at hn <;> dsimp only at hn <;> by_cases hk : id = req.id
      all_goals first
        | (subst hk; rw [BridgeState.setInterface_same, Option.some.injEq] at hn
           exact hn ▸ hs _ network hnet)
        | exact hs id n (by rwa [BridgeState.setInterface_ne _ _ hk] at hn)

theorem SparesBridge.runJobs :
    ∀ (jobs : List BridgeJob) {s : BridgeState}, SparesBridge cfg s →
      SparesBridge cfg (runJobs cfg s jobs).2
  | [], _, hs => hs
  | j :: js, _, hs => SparesBridge.runJobs js (hs.run cfg j)

end DockerDaemon.Bridge
