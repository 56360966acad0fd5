/-
  DockerDaemon.Daemon.Shutdown — `daemon.shutdown()` of daemon/daemon.go,
  the first call of the shutdown handler `NewDaemonFromDirectory` registers,
  as interleaved goroutines.
  ──────────────────────────────────────
  `shutdown` walks `daemon.List()`.  For each container it finds running it
  adds one to a `sync.WaitGroup` and starts a goroutine that calls
  `c.KillSig(15)` (its error is only logged), then
  `c.State.WaitStop(-1 * time.Second)`, which returns once the container
  has stopped (a negative timeout sets no limit), then `group.Done()`.
  Then `shutdown` waits for the group.  The containers' processes are the
  environment: any of them may exit between two steps, and none starts
  while the daemon shuts down.  A schedule names who moves next, so a
  theorem over every schedule is a theorem over every interleaving.

  Each goroutine copies its own container (`c := container`), so the
  goroutines are kept by container ID; `daemon.List()` holds each
  container once.

  Main results:
    * `shutdown_returns_all_stopped` — over every schedule, once `shutdown`
      has returned no container of `daemon.List()` runs.
    * `shutdown_kills_sigterm_once` — over every schedule, `shutdown` calls
      `KillSig` with 15 only, at most once per container, and only for
      containers that were running.
    * `shutdown_waits_forever` — a container that ignores SIGTERM keeps
      `shutdown` from returning on every schedule: it never sends SIGKILL
      and sets no timeout.
-/
import Mathlib.Data.List.Nodup
import Mathlib.Logic.Function.Basic

namespace DockerDaemon.Daemon

open Function

/-! ## §1. The goroutines. -/

/-- Where the goroutine started for a container is. -/
inductive Phase where
  /-- No goroutine was started for the container. -/
  | idle
  /-- Before `c.KillSig(15)`. -/
  | kill
  /-- In `c.State.WaitStop(-1 * time.Second)`. -/
  | waitStop
  /-- Past `group.Done()`. -/
  | done
  deriving DecidableEq, Repr

/-- The goroutine counts in the group: started, `Done` not yet called. -/
def Phase.pending : Phase → Bool
  | .kill | .waitStop => true
  | .idle | .done => false

/-- The goroutine has called `KillSig`. -/
def Phase.signalled : Phase → Bool
  | .waitStop | .done => true
  | .idle | .kill => false

@[simp] theorem Phase.pending_idle : Phase.idle.pending = false := rfl
@[simp] theorem Phase.pending_kill : Phase.kill.pending = true := rfl
@[simp] theorem Phase.pending_waitStop : Phase.waitStop.pending = true := rfl
@[simp] theorem Phase.pending_done : Phase.done.pending = false := rfl
@[simp] theorem Phase.signalled_idle : Phase.idle.signalled = false := rfl
@[simp] theorem Phase.signalled_kill : Phase.kill.signalled = false := rfl
@[simp] theorem Phase.signalled_waitStop : Phase.waitStop.signalled = true := rfl
@[simp] theorem Phase.signalled_done : Phase.done.signalled = true := rfl

/-- Where `shutdown`'s own goroutine is. -/
inductive MainPc where
  /-- At the `i`-th container of `daemon.List()`. -/
  | loop (i : Nat)
  /-- In `group.Wait()`. -/
  | wait
  /-- Returned `nil`. -/
  | returned
  deriving DecidableEq, Repr

/-- `shutdown` and its goroutines, with the containers' processes. -/
structure ShutdownState where
  /-- `daemon.List()`, by ID. -/
  containers : List String
  main : MainPc
  /-- The `WaitGroup`'s counter. -/
  counter : Nat
  phase : String → Phase
  /-- `c.State.IsRunning()`. -/
  running : String → Bool
  /-- The `KillSig` calls made, in order: the container and the signal. -/
  kills : List (String × Nat)

/-- `shutdown()` called while `running` says which containers run. -/
def ShutdownState.start (containers : List String) (running : String → Bool) : ShutdownState :=
  ⟨containers, .loop 0, 0, fun _ => .idle, running, []⟩

/-- Who moves next. -/
inductive Act where
  /-- `shutdown`'s own goroutine. -/
  | main
  /-- The goroutine started for the container. -/
  | stopper (id : String)
  /-- The container's process exits. -/
  | exit (id : String)
  deriving DecidableEq, Repr

/-- One step of the schedule.  A goroutine that is blocked, or has ended,
does not move. -/
def ShutdownState.step (s : ShutdownState) : Act → ShutdownState
  | .main =>
    match s.main with
    | .loop i =>
      match s.containers[i]? with
      | none => { s with main := .wait }
      | some id =>
        if s.running id then
          { s with main := .loop (i + 1), counter := s.counter + 1, phase := update s.phase id .kill }
        else { s with main := .loop (i + 1) }
    | .wait => if s.counter = 0 then { s with main := .returned } else s
    | .returned => s
  | .stopper id =>
    match s.phase id with
    | .kill => { s with phase := update s.phase id .waitStop, kills := s.kills ++ [(id, 15)] }
    | .waitStop =>
      if s.running id then s
      else { s with phase := update s.phase id .done, counter := s.counter - 1 }
    | .idle | .done => s
  | .exit id => { s with running := update s.running id false }

/-- Replay a schedule. -/
def ShutdownState.run (s : ShutdownState) (sched : List Act) : ShutdownState :=
  sched.foldl ShutdownState.step s

/-- The containers the loop has looked at. -/
def ShutdownState.visited (s : ShutdownState) : List String :=
  match s.main with
  | .loop i => s.containers.take i
  | .wait | .returned => s.containers

/-! ## §2. What a step can do. -/

section Cases

variable (s : ShutdownState)

/-- The main goroutine either starts a stopper for a running container,
passes a stopped one, leaves the loop, leaves `Wait` on a zero counter,
or is blocked or done. -/
theorem ShutdownState.step_main_cases :
    (∃ i id, s.main = .loop i ∧ s.containers[i]? = some id ∧ s.running id = true ∧
      s.step .main = { s with
        main := .loop (i + 1)
        counter := s.counter + 1
        phase := update s.phase id .kill }) ∨
    (∃ i id, s.main = .loop i ∧ s.containers[i]? = some id ∧ s.running id = false ∧
      s.step .main = { s with main := .loop (i + 1) }) ∨
    (∃ i, s.main = .loop i ∧ s.containers[i]? = none ∧ s.step .main = { s with main := .wait }) ∨
    (s.main = .wait ∧ s.counter = 0 ∧ s.step .main = { s with main := .returned }) ∨
    s.step .main = s := by
  dsimp only [ShutdownState.step]
  rcases hm : s.main with i | _ | _
  · rcases hi : s.containers[i]? with _ | id
    · exact .inr (.inr (.inl ⟨i, rfl, hi, by simp only [hi]⟩))
    · cases hr : s.running id
      · exact .inr (.inl ⟨i, id, rfl, hi, hr, by simp only [hi, hr]; rfl⟩)
      · exact .inl ⟨i, id, rfl, hi, hr, by simp only [hi, hr, if_true]⟩
  · by_cases hc : s.counter = 0
    · exact .inr (.inr (.inr (.inl ⟨rfl, hc, by simp only [hc, if_true]⟩)))
    · exact .inr (.inr (.inr (.inr (by simp only [hc, if_false]))))
  · exact .inr (.inr (.inr (.inr rfl)))

/-- A stopper either calls `KillSig(15)`, or calls `Done` once its
container has stopped, or is blocked or done. -/
theorem ShutdownState.step_stopper_cases (id : String) :
    (s.phase id = .kill ∧ s.step (.stopper id) =
      { s with phase := update s.phase id .waitStop, kills := s.kills ++ [(id, 15)] }) ∨
    (s.phase id = .waitStop ∧ s.running id = false ∧ s.step (.stopper id) =
      { s with phase := update s.phase id .done, counter := s.counter - 1 }) ∨
    s.step (.stopper id) = s := by
  dsimp only [ShutdownState.step]
  rcases hp : s.phase id with _ | _ | _ | _
  · exact .inr (.inr rfl)
  · exact .inl ⟨rfl, rfl⟩
  · cases hr : s.running id
    · exact .inr (.inl ⟨rfl, rfl, rfl⟩)
    · exact .inr (.inr (by simp only [hr, if_true]))
  · exact .inr (.inr rfl)

end Cases

/-! ## §3. What every step keeps. -/

theorem countP_update {α β : Type} [DecidableEq α] (q : β → Bool) (f : α → β) (a : α) (v : β) :
    ∀ l : List α, l.countP (fun x => q (update f a v x)) + l.count a * (if q (f a) then 1 else 0) =
      l.countP (fun x => q (f x)) + l.count a * (if q v then 1 else 0)
  | [] => by simp
  | x :: l => by
    have ih := countP_update q f a v l
    by_cases hx : x = a
    · subst hx
      simp only [List.countP_cons, update_same, List.count_cons_self, Nat.succ_mul]
      omega
    · simp only [List.countP_cons, update_noteq hx, List.count_cons_of_ne (Ne.symm hx)]
      omega

theorem countP_update_of_nodup {l : List String} (hl : l.Nodup) {a : String} (ha : a ∈ l)
    (q : Phase → Bool) (f : String → Phase) (v : Phase) :
    l.countP (fun x => q (update f a v x)) + (if q (f a) then 1 else 0) =
      l.countP (fun x => q (f x)) + (if q v then 1 else 0) := by
  simpa [List.count_eq_one_of_mem hl ha] using countP_update q f a v l

/-- What holds of `shutdown` from its call on, with `running₀` the
containers running when it was called. -/
structure ShutdownState.Inv (running₀ : String → Bool) (s : ShutdownState) : Prop where
  counter : s.counter = s.containers.countP fun id => (s.phase id).pending
  started : ∀ id, s.phase id ≠ .idle → id ∈ s.visited
  startedRunning : ∀ id, s.phase id ≠ .idle → running₀ id = true
  noStart : ∀ id, s.running id = true → running₀ id = true
  visitedStopped : ∀ id ∈ s.visited, s.phase id = .idle → s.running id = false
  doneStopped : ∀ id, s.phase id = .done → s.running id = false
  returnedIdle : s.main = .returned → ∀ id ∈ s.containers, (s.phase id).pending = false
  kills : ∀ id sig, s.kills.count (id, sig) = if sig = 15 ∧ (s.phase id).signalled then 1 else 0

section Steps

variable {running₀ : String → Bool}

theorem ShutdownState.inv_start (containers : List String) (running : String → Bool) :
    (ShutdownState.start containers running).Inv running :=
  { counter := by simp [ShutdownState.start]
    started := fun _ h => absurd rfl h
    startedRunning := fun _ h => absurd rfl h
    noStart := fun _ h => h
    visitedStopped := fun _ h => by simp [ShutdownState.start, ShutdownState.visited] at h
    doneStopped := fun _ h => nomatch h
    returnedIdle := fun h => nomatch h
    kills := fun _ _ => by simp [ShutdownState.start] }

theorem ShutdownState.visited_loop {s : ShutdownState} {i : Nat} (hm : s.main = .loop i) :
    s.visited = s.containers.take i := by
  rw [ShutdownState.visited, hm]

theorem ShutdownState.visited_wait {s : ShutdownState} (hm : s.main = .wait) :
    s.visited = s.containers := by
  rw [ShutdownState.visited, hm]

theorem ShutdownState.visited_sub (s : ShutdownState) {id : String} (h : id ∈ s.visited) :
    id ∈ s.containers := by
  unfold ShutdownState.visited at h
  split at h
  exacts [List.mem_of_mem_take h, h, h]

/-- A stopper's step keeps the invariant. -/
theorem ShutdownState.Inv.stopper {s : ShutdownState} (hl : s.containers.Nodup)
    (h : s.Inv running₀) (id : String) : (s.step (.stopper id)).Inv running₀ := by
  rcases s.step_stopper_cases id with ⟨hk, he⟩ | ⟨hw, hr, he⟩ | he <;> rw [he]
  case inl =>
    have hsame : ∀ x, (update s.phase id .waitStop x = .idle ↔ s.phase x = .idle) ∧
        (update s.phase id .waitStop x = .done ↔ s.phase x = .done) ∧
        (update s.phase id .waitStop x).pending = (s.phase x).pending := by
      intro x
      by_cases hx : x = id
      · subst hx; simp [hk]
      · simp [update_noteq hx]
    exact
      { counter := by simp only [(hsame _).2.2, h.counter]
        started := fun x hx => h.started x (mt (hsame x).1.mpr hx)
        startedRunning := fun x hx => h.startedRunning x (mt (hsame x).1.mpr hx)
        noStart := h.noStart
        visitedStopped := fun x hx hi => h.visitedStopped x hx ((hsame x).1.mp hi)
        doneStopped := fun x hx => h.doneStopped x ((hsame x).2.1.mp hx)
        returnedIdle := fun hm y hy => ((hsame y).2.2).trans (h.returnedIdle hm y hy)
        kills := fun x sig => by
          rw [List.count_append, List.count_singleton, h.kills]
          by_cases hx : x = id
          · subst hx; by_cases hs : sig = 15 <;> simp [hk, hs, @eq_comm _ 15]
          · simp [update_noteq hx, Ne.symm hx] }
  case inr.inl =>
    have hid : id ∈ s.containers := s.visited_sub (h.started id (by rw [hw]; exact nofun))
    have hsame : ∀ x, (update s.phase id .done x = .idle ↔ s.phase x = .idle) ∧
        (update s.phase id .done x).signalled = (s.phase x).signalled := by
      intro x
      by_cases hx : x = id
      · subst hx; simp [hw]
      · simp [update_noteq hx]
    have hcount := countP_update_of_nodup hl hid Phase.pending s.phase .done
    rw [hw, Phase.pending_waitStop, Phase.pending_done, if_pos rfl] at hcount
    exact
      { counter := by simp only [h.counter]; simp only [Bool.false_eq_true, if_false] at hcount; omega
        started := fun x hx => h.started x (mt (hsame x).1.mpr hx)
        startedRunning := fun x hx => h.startedRunning x (mt (hsame x).1.mpr hx)
        noStart := h.noStart
        visitedStopped := fun x hx hi => h.visitedStopped x hx ((hsame x).1.mp hi)
        doneStopped := fun x hx => by
          by_cases hxid : x = id
          · exact hxid ▸ hr
          · exact h.doneStopped x (by simpa [update_noteq hxid] using hx)
        returnedIdle := fun hm y hy => by
          by_cases hyid : y = id
          · subst hyid; simp
          · simpa [update_noteq hyid] using h.returnedIdle hm y hy
        kills := fun x sig => by simp only [h.kills, (hsame x).2] }
  case inr.inr => exact h

/-- An exit keeps the invariant: no container starts. -/
theorem ShutdownState.Inv.exit {s : ShutdownState} (h : s.Inv running₀) (id : String) :
    (s.step (.exit id)).Inv running₀ := by
  show ({ s with running := update s.running id false } : ShutdownState).Inv running₀
  have hstop : ∀ x, s.running x = false → update s.running id false x = false := fun x hx => by
    by_cases hxid : x = id
    · subst hxid; exact update_same _ _ _
    · rw [update_noteq hxid, hx]
  exact
    { counter := h.counter
      started := h.started
      startedRunning := h.startedRunning
      noStart := fun x hx => by
        by_cases hxid : x = id
        · subst hxid; simp at hx
        · exact h.noStart x (by simpa [update_noteq hxid] using hx)
      visitedStopped := fun x hx hi => hstop x (h.visitedStopped x hx hi)
      doneStopped := fun x hx => hstop x (h.doneStopped x hx)
      returnedIdle := h.returnedIdle
      kills := h.kills }

/-- A step of the main goroutine that only moves it on keeps the invariant,
when what it has looked at grows by stopped containers it starts nothing
for. -/
theorem ShutdownState.Inv.moveMain {s : ShutdownState} (h : s.Inv running₀) (m : MainPc)
    (hsub : s.visited ⊆ ({ s with main := m } : ShutdownState).visited)
    (hnew : ∀ x ∈ ({ s with main := m } : ShutdownState).visited, s.phase x = .idle →
      s.running x = false)
    (hret : m = .returned → ∀ id ∈ s.containers, (s.phase id).pending = false) :
    ({ s with main := m } : ShutdownState).Inv running₀ :=
  { counter := h.counter
    started := fun x hx => hsub (h.started x hx)
    startedRunning := h.startedRunning
    noStart := h.noStart
    visitedStopped := hnew
    doneStopped := h.doneStopped
    returnedIdle := hret
    kills := h.kills }

theorem take_succ_of_getElem? {l : List String} {i : Nat} {id : String} (hi : l[i]? = some id) :
    l.take (i + 1) = l.take i ++ [id] := by
  rw [List.take_succ, hi]
  rfl

/-- The main goroutine's step keeps the invariant. -/
theorem ShutdownState.Inv.main {s : ShutdownState} (hl : s.containers.Nodup)
    (h : s.Inv running₀) : (s.step .main).Inv running₀ := by
  rcases s.step_main_cases with ⟨i, id, hm, hi, hr, he⟩ | ⟨i, id, hm, hi, hr, he⟩ | ⟨i, hm, hi, he⟩ |
    ⟨hm, hc, he⟩ | he <;> rw [he]
  case inl =>
    have hid : id ∈ s.containers := List.getElem?_mem hi
    have ht : ({ s with
        main := .loop (i + 1)
        counter := s.counter + 1
        phase := update s.phase id .kill } : ShutdownState).visited = s.visited ++ [id] := by
      rw [ShutdownState.visited_loop hm, ← take_succ_of_getElem? hi]; rfl
    have hidle : s.phase id = .idle := by
      have hnd := hl.sublist (List.take_sublist (i + 1) _)
      rw [take_succ_of_getElem? hi, List.nodup_append] at hnd
      by_contra hne
      exact hnd.2.2 (ShutdownState.visited_loop hm ▸ h.started id hne) (List.mem_singleton_self _)
    have hcount := countP_update_of_nodup hl hid Phase.pending s.phase .kill
    simp only [hidle, Phase.pending_idle, Phase.pending_kill, Bool.false_eq_true, if_false,
      if_true, Nat.add_zero] at hcount
    exact
      { counter := by show s.counter + 1 = _; rw [h.counter, hcount]
        started := fun x hx => by
          rw [ht]
          by_cases hxid : x = id
          · exact List.mem_append_right _ (hxid ▸ List.mem_singleton_self _)
          · exact List.mem_append_left _ (h.started x (by simpa [update_noteq hxid] using hx))
        startedRunning := fun x hx => by
          by_cases hxid : x = id
          · exact hxid ▸ h.noStart id hr
          · exact h.startedRunning x (by simpa [update_noteq hxid] using hx)
        noStart := h.noStart
        visitedStopped := fun x hx hi' => by
          rw [ht, List.mem_append, List.mem_singleton] at hx
          by_cases hxid : x = id
          · subst hxid; simp at hi'
          · exact h.visitedStopped x (hx.resolve_right hxid) (by simpa [update_noteq hxid] using hi')
        doneStopped := fun x hx => by
          by_cases hxid : x = id
          · subst hxid; simp at hx
          · exact h.doneStopped x (by simpa [update_noteq hxid] using hx)
        returnedIdle := fun hret => nomatch hret
        kills := fun x sig => by
          by_cases hxid : x = id
          · subst hxid; simp [h.kills, hidle]
          · simp [h.kills, update_noteq hxid] }
  case inr.inl =>
    have ht : ({ s with main := .loop (i + 1) } : ShutdownState).visited = s.visited ++ [id] := by
      rw [ShutdownState.visited_loop hm, ← take_succ_of_getElem? hi]; rfl
    refine h.moveMain _ (by rw [ht]; exact List.subset_append_left _ _) (fun x hx hidle => ?_)
      (fun hret => nomatch hret)
    rw [ht, List.mem_append, List.mem_singleton] at hx
    rcases hx with hx | rfl
    exacts [h.visitedStopped x hx hidle, hr]
  case inr.inr.inl =>
    have ht : ({ s with main := .wait } : ShutdownState).visited = s.visited := by
      rw [ShutdownState.visited_loop hm, List.take_of_length_le (List.getElem?_eq_none_iff.mp hi)]; rfl
    exact h.moveMain _ (fun x hx => by rwa [ht]) (ht ▸ h.visitedStopped) fun hret => nomatch hret
  case inr.inr.inr.inl =>
    have ht : ({ s with main := .returned } : ShutdownState).visited = s.visited := by
      rw [ShutdownState.visited_wait hm]; rfl
    refine h.moveMain _ (fun x hx => by rwa [ht]) (ht ▸ h.visitedStopped) fun _ y hy => ?_
    rw [h.counter, List.countP_eq_zero] at hc
    simpa using hc y hy
  case inr.inr.inr.inr => exact h


/-- The step of the whole system: what one step keeps besides the
invariant, the list `shutdown` walks and the running processes other than
one that exits. -/
theorem ShutdownState.step_frame (s : ShutdownState) (a : Act) :
    (s.step a).containers = s.containers ∧
      ∀ id, a ≠ .exit id → (s.step a).running id = s.running id := by
  cases a with
  | main =>
    rcases s.step_main_cases with ⟨_, _, -, -, -, he⟩ | ⟨_, _, -, -, -, he⟩ | ⟨_, -, -, he⟩ |
      ⟨-, -, he⟩ | he <;> rw [he] <;> exact ⟨rfl, fun _ _ => rfl⟩
  | stopper id =>
    rcases s.step_stopper_cases id with ⟨-, he⟩ | ⟨-, -, he⟩ | he <;> rw [he] <;>
      exact ⟨rfl, fun _ _ => rfl⟩
  | exit id' =>
    exact ⟨rfl, fun id h => show update s.running id' false id = s.running id from
      update_noteq (fun he => h (congrArg Act.exit he.symm)) _ _⟩

theorem ShutdownState.Inv.step {s : ShutdownState} (hl : s.containers.Nodup)
    (h : s.Inv running₀) : ∀ a, (s.step a).Inv running₀
  | .main => h.main hl
  | .stopper id => h.stopper hl id
  | .exit id => h.exit id

/-- Along every schedule the invariant holds and the list stays. -/
theorem ShutdownState.Inv.run {s : ShutdownState} (hl : s.containers.Nodup) (h : s.Inv running₀) :
    ∀ sched, (s.run sched).Inv running₀ ∧ (s.run sched).containers = s.containers
  | [] => ⟨h, rfl⟩
  | a :: sched => by
    have hc := (s.step_frame a).1
    obtain ⟨h', hc'⟩ := (h.step hl a).run (hc ▸ hl) sched
    exact ⟨h', hc'.trans hc⟩

/-- A process that does not exit runs on, whatever else moves. -/
theorem ShutdownState.run_running (s : ShutdownState) {id : String} :
    ∀ sched, Act.exit id ∉ sched → (s.run sched).running id = s.running id
  | [] , _ => rfl
  | a :: sched, hn => by
    have hne : a ≠ .exit id := fun he => hn (he ▸ List.mem_cons_self _ _)
    exact ((s.step a).run_running sched (fun hm => hn (List.mem_cons_of_mem _ hm))).trans
      ((s.step_frame a).2 id hne)

/-- Once `shutdown` has returned, no container of its list runs. -/
theorem ShutdownState.Inv.returned_stopped {s : ShutdownState} (h : s.Inv running₀)
    (hm : s.main = .returned) : ∀ id ∈ s.containers, s.running id = false := by
  intro id hid
  have hv : id ∈ s.visited := by rw [ShutdownState.visited, hm]; exact hid
  have hp := h.returnedIdle hm id hid
  cases hph : s.phase id
  case idle => exact h.visitedStopped id hv hph
  case done => exact h.doneStopped id hph
  all_goals rw [hph] at hp; cases hp

end Steps

/-! ## §4. What `shutdown` does over every schedule. -/

/-- Over every schedule of `shutdown`'s goroutines and the containers'
exits, once `shutdown` has returned no container of `daemon.List()` runs:
the group's counter reaches zero only after every goroutine has seen its
container stop, and a container found stopped stays so. -/
theorem shutdown_returns_all_stopped (containers : List String) (hl : containers.Nodup)
    (running : String → Bool) (sched : List Act)
    (hret : ((ShutdownState.start containers running).run sched).main = .returned) :
    ∀ id ∈ containers, ((ShutdownState.start containers running).run sched).running id = false := by
  obtain ⟨h, hc⟩ := (ShutdownState.inv_start containers running).run hl sched
  exact fun id hid => h.returned_stopped hret id (hc ▸ hid)

/-- `web` runs and `db` does not: `shutdown` starts one goroutine, which
signals `web`; `web` exits, the goroutine calls `Done`, and `shutdown`
returns. -/
def webStops : List Act := [.main, .main, .main, .stopper "web", .exit "web", .stopper "web", .main]

theorem shutdown_returns_all_stopped_web :
    ["web", "db"].Nodup ∧
    ((ShutdownState.start ["web", "db"] (· = "web")).run webStops).main = .returned ∧
    ∀ id ∈ ["web", "db"],
      ((ShutdownState.start ["web", "db"] (· = "web")).run webStops).running id = false :=
  have hret : ((ShutdownState.start ["web", "db"] (· = "web")).run webStops).main = .returned := by
    decide
  ⟨by decide, hret, shutdown_returns_all_stopped _ (by decide) _ _ hret⟩

/-- Over every schedule, `shutdown` calls `KillSig` with signal 15 only, at
most once per container, and only for containers that were running when
it was called. -/
theorem shutdown_kills_sigterm_once (containers : List String) (hl : containers.Nodup)
    (running : String → Bool) (sched : List Act) (id : String) (sig : Nat) :
    ((ShutdownState.start containers running).run sched).kills.count (id, sig) ≤ 1 ∧
      ((id, sig) ∈ ((ShutdownState.start containers running).run sched).kills →
        sig = 15 ∧ id ∈ containers ∧ running id = true) := by
  obtain ⟨h, hc⟩ := (ShutdownState.inv_start containers running).run hl sched
  have hc' : ((ShutdownState.start containers running).run sched).containers = containers := hc
  have hk := h.kills id sig
  refine ⟨by rw [hk]; split <;> omega, fun hmem => ?_⟩
  rw [← List.count_pos_iff, hk] at hmem
  split at hmem
  · rename_i hs
    have hne : ((ShutdownState.start containers running).run sched).phase id ≠ .idle :=
      fun hi => by rw [hi] at hs; exact absurd hs.2 (by decide)
    exact ⟨hs.1, hc' ▸ ((ShutdownState.start containers running).run sched).visited_sub
      (h.started id hne), h.startedRunning id hne⟩
  · exact absurd hmem (by decide)

theorem shutdown_kills_sigterm_once_web :
    ["web", "db"].Nodup ∧
    ((ShutdownState.start ["web", "db"] (· = "web")).run webStops).kills.count ("web", 15) ≤ 1 ∧
      (("web", 15) ∈ ((ShutdownState.start ["web", "db"] (· = "web")).run webStops).kills →
        15 = 15 ∧ "web" ∈ ["web", "db"] ∧ decide ("web" = "web") = true) :=
  ⟨by decide, shutdown_kills_sigterm_once _ (by decide) _ _ "web" 15⟩

/-- A container running when `shutdown` is called that never exits keeps
`shutdown` from returning, on every schedule: it sends only SIGTERM, and
`WaitStop(-1 * time.Second)` sets no timeout. -/
theorem shutdown_waits_forever (containers : List String) (hl : containers.Nodup)
    (running : String → Bool) (sched : List Act) (id : String) (hid : id ∈ containers)
    (hrun : running id = true) (hnever : Act.exit id ∉ sched) :
    ((ShutdownState.start containers running).run sched).main ≠ .returned := fun hret => by
  obtain ⟨h, hc⟩ := (ShutdownState.inv_start containers running).run hl sched
  have hstop := h.returned_stopped hret id (hc ▸ hid)
  rw [ShutdownState.run_running _ sched hnever] at hstop
  exact Bool.false_ne_true (hstop.symm.trans hrun)

/-- `web` ignores SIGTERM: its goroutine signals it and waits, and
`shutdown` waits on the group. -/
theorem shutdown_waits_forever_web :
    ["web"].Nodup ∧ "web" ∈ ["web"] ∧ (fun _ => true : String → Bool) "web" = true ∧
    Act.exit "web" ∉ [.main, .main, .stopper "web", .stopper "web", .main] ∧
    ((ShutdownState.start ["web"] fun _ => true).run
      [.main, .main, .stopper "web", .stopper "web", .main]).main ≠ .returned :=
  ⟨by decide, by decide, rfl, by decide,
    shutdown_waits_forever ["web"] (by decide) _ _ "web" (by decide) rfl (by decide)⟩

end DockerDaemon.Daemon
