/-
  DockerDaemon.Serve.ListenBuffer — `mainDaemon` of docker/daemon.go and
  the listen buffer of pkg/listenbuffer: the API listens at once and hands
  out no connection before the daemon has booted.
  ──────────────────────────────────────
  `mainDaemon` boots the daemon in a goroutine: `daemon.NewDaemon`, then
  `d.Install(eng)`, then the `acceptconnections` job, each ending the
  process through `log.Fatal` when it fails.  Meanwhile the main goroutine
  serves the API on listen buffers that share the `activate` channel.  A
  buffer's `Accept` returns the wrapped listener's connections once it is
  `ready`; before that it receives from `activate`, sets `ready` and tries
  again.  The `acceptconnections` job (api/server, not among the sources)
  is how, "after the daemon is done setting up", the API is told "to start
  accepting connections": it closes `activate`, then returns its status.
  Clients connect at any time; the wrapped listener queues them.  A
  schedule names who moves next.

  Main results:
    * `accepted_after_install` — over every schedule and whatever the boot
      calls answer, a listener hands out a connection only after
      `NewDaemon` and `Install` have succeeded and `acceptconnections` has
      opened the buffers.
    * `accepted_after_boot` — with the calls answered by the daemon model
      (`NewDaemonFromDirectory`, then `Install` over the handlers the boot
      left), a connection handed out means the boot returned a daemon and
      every job of `Install` is registered.
-/
import DockerDaemon.Daemon.Boot

namespace DockerDaemon.Serve

open DockerDaemon.Daemon

/-! ## §1. The goroutines. -/

/-- Where the goroutine that boots the daemon is. -/
inductive BootPc where
  /-- `daemon.NewDaemon(daemonCfg, eng)`. -/
  | newDaemon
  /-- `d.Install(eng)`. -/
  | install
  /-- `eng.Job("acceptconnections").Run()`. -/
  | acceptConnections
  /-- The goroutine has ended. -/
  | done
  deriving DecidableEq, Repr

/-- The boot has passed `Install`. -/
def BootPc.installed : BootPc → Bool
  | .acceptConnections | .done => true
  | .newDaemon | .install => false

/-- The errors the boot goroutine's three calls return, `none` on success. -/
structure BootOutcome where
  newDaemon : Option String
  install : Option String
  acceptConnections : Option String
  deriving DecidableEq, Repr

/-- One `defaultListener`, with the connections its wrapped listener holds. -/
structure Listener where
  /-- `l.ready`. -/
  ready : Bool
  /-- Connections queued on the wrapped listener, not yet accepted. -/
  queued : Nat
  /-- Connections `Accept` has returned. -/
  accepted : Nat
  deriving DecidableEq, Repr

/-- The daemon process while it boots and serves. -/
structure ServeState where
  boot : BootPc
  /-- `activate` has been closed. -/
  activated : Bool
  /-- The error `log.Fatal` ended the process with. -/
  exited : Option String
  listeners : List Listener
  deriving DecidableEq, Repr

/-- `mainDaemon` once the API listens on `n` buffers: nothing booted,
`activate` open, every buffer not ready and empty. -/
def ServeState.start (n : Nat) : ServeState :=
  ⟨.newDaemon, false, none, List.replicate n ⟨false, 0, 0⟩⟩

/-- Who moves next. -/
inductive Act where
  /-- The boot goroutine. -/
  | boot
  /-- The accept loop of listener `j`, inside `Accept`. -/
  | accept (j : Nat)
  /-- A client connects to listener `j`. -/
  | connect (j : Nat)
  deriving DecidableEq, Repr

/-- `log.Fatal(err)`: the process ends. -/
def ServeState.fatal (s : ServeState) (e : String) : ServeState := { s with exited := some e }

/-- The boot goroutine's next call, answered by `out`. -/
def ServeState.bootStep (out : BootOutcome) (s : ServeState) : ServeState :=
  match s.boot with
  | .newDaemon =>
    match out.newDaemon with
    | some e => s.fatal e
    | none => { s with boot := .install }
  | .install =>
    match out.install with
    | some e => s.fatal e
    | none => { s with boot := .acceptConnections }
  | .acceptConnections =>
    match out.acceptConnections with
    | some e => { s with activated := true }.fatal e
    | none => { s with activated := true, boot := .done }
  | .done => s

/-- `defaultListener.Accept` makes one step: on a ready buffer it returns a
queued connection of the wrapped listener, or blocks; otherwise it passes
`<-l.activate` once the channel is closed and sets `ready`. -/
def Listener.acceptStep (activated : Bool) (l : Listener) : Listener :=
  if l.ready then
    if 0 < l.queued then { l with queued := l.queued - 1, accepted := l.accepted + 1 } else l
  else if activated then { l with ready := true } else l

@[simp] theorem Listener.acceptStep_ready (activated : Bool) (l : Listener) :
    (l.acceptStep activated).ready = (l.ready || activated) := by
  unfold Listener.acceptStep
  split_ifs <;> simp_all

theorem Listener.acceptStep_accepted (activated : Bool) (l : Listener) :
    (l.acceptStep activated).accepted = l.accepted + if l.ready = true ∧ 0 < l.queued then 1 else 0 := by
  unfold Listener.acceptStep
  split_ifs <;> simp_all

/-- Listener `j`, if there is one, becomes `f` of itself. -/
def ServeState.update (s : ServeState) (j : Nat) (f : Listener → Listener) : ServeState :=
  match s.listeners[j]? with
  | none => s
  | some l => { s with listeners := s.listeners.set j (f l) }

/-- One step of the schedule; once the process has exited nothing moves. -/
def ServeState.step (out : BootOutcome) (s : ServeState) (a : Act) : ServeState :=
  match s.exited with
  | some _ => s
  | none =>
    match a with
    | .boot => s.bootStep out
    | .accept j => s.update j (Listener.acceptStep s.activated)
    | .connect j => s.update j fun l => { l with queued := l.queued + 1 }

/-- Replay a schedule. -/
def ServeState.run (out : BootOutcome) (s : ServeState) (sched : List Act) : ServeState :=
  sched.foldl (ServeState.step out) s

/-! ## §2. No connection before the daemon is installed. -/

/-- What holds along every run: a buffer is ready only once `activate` is
closed, a buffer hands out connections only once ready, and `activate` is
closed only after `NewDaemon` and `Install` have succeeded. -/
structure ServeState.Inv (out : BootOutcome) (s : ServeState) : Prop where
  handed : ∀ l ∈ s.listeners, 0 < l.accepted → l.ready = true
  ready : ∀ l ∈ s.listeners, l.ready = true → s.activated = true
  activated : s.activated = true → s.boot.installed = true
  booted : s.boot ≠ .newDaemon → out.newDaemon = none
  installed : s.boot.installed = true → out.install = none

theorem ServeState.inv_start (out : BootOutcome) (n : Nat) : (ServeState.start n).Inv out where
  handed l hl := by
    rw [ServeState.start, List.mem_replicate] at hl
    rw [hl.2]; exact fun h => absurd h (Nat.lt_irrefl 0)
  ready l hl := by
    rw [ServeState.start, List.mem_replicate] at hl
    rw [hl.2]; exact fun h => absurd h Bool.false_ne_true
  activated h := absurd h Bool.false_ne_true
  booted h := absurd rfl h
  installed h := absurd h Bool.false_ne_true

/-- Changing one listener by `f`: every listener after is one before, or
`f` of one before; the rest of the state stays. -/
theorem ServeState.update_spec (s : ServeState) (j : Nat) (f : Listener → Listener) :
    (∀ l ∈ (s.update j f).listeners, l ∈ s.listeners ∨ ∃ l₀ ∈ s.listeners, l = f l₀) ∧
      (s.update j f).boot = s.boot ∧ (s.update j f).activated = s.activated := by
  unfold ServeState.update
  rcases hj : s.listeners[j]? with _ | l₀
  · exact ⟨fun l hl => .inl hl, rfl, rfl⟩
  · refine ⟨fun l hl => ?_, rfl, rfl⟩
    rcases List.mem_or_eq_of_mem_set hl with hl | rfl
    exacts [.inl hl, .inr ⟨l₀, List.getElem?_mem hj, rfl⟩]

/-- The boot goroutine ends the process, or moves on from `NewDaemon` or
from `Install` after it succeeded, or closes `activate` at
`acceptconnections` and ends, or has ended. -/
theorem ServeState.bootStep_cases (out : BootOutcome) (s : ServeState) :
    (∃ e, s.bootStep out = s.fatal e ∧ s.boot ≠ .acceptConnections) ∨
    (s.boot = .newDaemon ∧ out.newDaemon = none ∧ s.bootStep out = { s with boot := .install }) ∨
    (s.boot = .install ∧ out.install = none ∧
      s.bootStep out = { s with boot := .acceptConnections }) ∨
    (s.boot = .acceptConnections ∧ (s.bootStep out = { s with activated := true, boot := .done } ∨
      ∃ e, s.bootStep out = ({ s with activated := true } : ServeState).fatal e)) ∨
    s.bootStep out = s := by
  unfold ServeState.bootStep
  split <;> rename_i hb
  · split <;> rename_i hn
    · exact .inl ⟨_, rfl, by rw [hb]; exact nofun⟩
    · exact .inr (.inl ⟨hb, hn, rfl⟩)
  · split <;> rename_i hi
    · exact .inl ⟨_, rfl, by rw [hb]; exact nofun⟩
    · exact .inr (.inr (.inl ⟨hb, hi, rfl⟩))
  · split
    · exact .inr (.inr (.inr (.inl ⟨hb, .inr ⟨_, by rw [hb]⟩⟩)))
    · exact .inr (.inr (.inr (.inl ⟨hb, .inl rfl⟩)))
  · exact .inr (.inr (.inr (.inr rfl)))

section Steps

variable {out : BootOutcome} {s : ServeState}

theorem ServeState.Inv.fatal (h : s.Inv out) (e : String) : (s.fatal e).Inv out :=
  ⟨h.handed, h.ready, h.activated, h.booted, h.installed⟩

/-- A boot step keeps the invariant: `activate` is closed only at the
`acceptconnections` step, after `NewDaemon` and `Install` succeeded. -/
theorem ServeState.Inv.bootStep (h : s.Inv out) : (s.bootStep out).Inv out := by
  rcases s.bootStep_cases out with ⟨e, he, -⟩ | ⟨hb, hn, he⟩ | ⟨hb, hi, he⟩ |
    ⟨hb, he | ⟨e, he⟩⟩ | he <;> rw [he]
  · exact h.fatal e
  · refine ⟨h.handed, h.ready, fun ha => ?_, fun _ => hn, fun hi => nomatch hi⟩
    have hi := h.activated ha
    rw [hb] at hi
    exact absurd hi Bool.false_ne_true
  · exact ⟨h.handed, h.ready, fun _ => rfl, fun _ => h.booted (by rw [hb]; exact nofun),
      fun _ => hi⟩
  all_goals try exact h
  all_goals
    have hbooted := h.booted (by rw [hb]; exact nofun)
    have hinst := h.installed (by rw [hb]; rfl)
  · exact ⟨h.handed, fun _ _ _ => rfl, fun _ => rfl, fun _ => hbooted, fun _ => hinst⟩
  · exact ⟨h.handed, fun _ _ _ => rfl, fun _ => by rw [hb]; rfl, fun _ => hbooted, fun _ => hinst⟩

/-- Changing one listener keeps the invariant when the change keeps both
of its facts about listeners. -/
theorem ServeState.Inv.update (h : s.Inv out) (j : Nat) {f : Listener → Listener}
    (hf : ∀ l ∈ s.listeners, (0 < (f l).accepted → (f l).ready = true) ∧
      ((f l).ready = true → s.activated = true)) : (s.update j f).Inv out := by
  obtain ⟨hmem, hb, ha⟩ := s.update_spec j f
  refine ⟨fun l hl => ?_, fun l hl => ?_, ha ▸ hb ▸ h.activated, hb ▸ h.booted, hb ▸ h.installed⟩
  · rcases hmem l hl with hl | ⟨l₀, hl₀, rfl⟩
    exacts [h.handed l hl, (hf l₀ hl₀).1]
  · rw [ha]
    rcases hmem l hl with hl | ⟨l₀, hl₀, rfl⟩
    exacts [h.ready l hl, (hf l₀ hl₀).2]

/-- Every step keeps the invariant. -/
theorem ServeState.Inv.step (h : s.Inv out) (a : Act) : (s.step out a).Inv out := by
  unfold ServeState.step
  split
  · exact h
  cases a with
  | boot => exact h.bootStep
  | accept j =>
    refine h.update j fun l hl => ⟨fun hacc => ?_, fun hr => ?_⟩
    · rw [Listener.acceptStep_accepted] at hacc
      rw [Listener.acceptStep_ready]
      cases hready : l.ready
      · simp only [hready, Bool.false_eq_true, false_and, if_false, Nat.add_zero] at hacc
        exact absurd (h.handed l hl hacc) (by rw [hready]; exact Bool.false_ne_true)
      · rfl
    · rw [Listener.acceptStep_ready, Bool.or_eq_true] at hr
      exact hr.elim (h.ready l hl) id
  | connect j => exact h.update j fun l hl => ⟨h.handed l hl, h.ready l hl⟩

end Steps

theorem ServeState.Inv.run {out : BootOutcome} {s : ServeState} (h : s.Inv out) :
    ∀ sched, (s.run out sched).Inv out
  | [] => h
  | a :: sched => (h.step a).run sched

/-! ## §3. The buffer's promise. -/

/-- A listener of a state where the invariant holds that has handed out a
connection: `NewDaemon` and `Install` have succeeded, and `activate` is
closed. -/
theorem ServeState.Inv.accepted {out : BootOutcome} {s : ServeState} (h : s.Inv out) {l : Listener}
    (hl : l ∈ s.listeners) (hacc : 0 < l.accepted) :
    out.newDaemon = none ∧ out.install = none ∧ s.activated = true := by
  have ha := h.ready l hl (h.handed l hl hacc)
  have hi := h.activated ha
  refine ⟨h.booted fun hb => ?_, h.installed hi, ha⟩
  rw [hb] at hi
  exact absurd hi Bool.false_ne_true

/-- Over every schedule of the boot goroutine, the accept loops and the
clients, and whatever `NewDaemon`, `Install` and `acceptconnections`
answer: a listen buffer that has handed out a connection did so after
`NewDaemon` and `Install` succeeded and `acceptconnections` closed
`activate`.  A daemon whose boot fails serves no request. -/
theorem accepted_after_install (out : BootOutcome) (n : Nat) (sched : List Act) (l : Listener)
    (hl : l ∈ ((ServeState.start n).run out sched).listeners) (hacc : 0 < l.accepted) :
    out.newDaemon = none ∧ out.install = none ∧
      ((ServeState.start n).run out sched).activated = true :=
  ((ServeState.inv_start out n).run sched).accepted hl hacc

/-- A client connects before the daemon has booted; the boot succeeds,
and the buffer hands the connection out. -/
theorem accepted_after_install_early_client :
    (⟨true, 0, 1⟩ : Listener) ∈ ((ServeState.start 1).run ⟨none, none, none⟩
      [.connect 0, .accept 0, .boot, .boot, .boot, .accept 0, .accept 0]).listeners ∧
    0 < (⟨true, 0, 1⟩ : Listener).accepted ∧
    (⟨none, none, none⟩ : BootOutcome).newDaemon = none ∧ (⟨none, none, none⟩ : BootOutcome).install = none ∧
      ((ServeState.start 1).run ⟨none, none, none⟩
        [.connect 0, .accept 0, .boot, .boot, .boot, .accept 0, .accept 0]).activated = true :=
  have hl : (⟨true, 0, 1⟩ : Listener) ∈ ((ServeState.start 1).run ⟨none, none, none⟩
      [.connect 0, .accept 0, .boot, .boot, .boot, .accept 0, .accept 0]).listeners := by decide
  ⟨hl, by decide, accepted_after_install _ 1 _ _ hl (by decide)⟩

/-! ## §4. The daemon's own boot. -/

/-- What the boot goroutine's calls return in the daemon model: `NewDaemon`
is `NewDaemonFromDirectory` (its `log.Fatalf` ends the process as the
`log.Fatal` of `mainDaemon` does), `Install` runs over the handlers the boot
left on the engine, and `acceptconnections` answers `accept`. -/
def BootOutcome.ofDaemon (boot : BootEnd) (installed accept : Option String) : BootOutcome :=
  ⟨match boot with
    | .ok .. => none
    | .err msg | .fatal msg => some msg, installed, accept⟩

/-- Over every schedule, whatever the host, the drivers, the disk and the
engine answer the boot: a listen buffer that has handed out a connection did
so after `NewDaemonFromDirectory` returned a daemon and `Install` registered
every one of its jobs, each `Register` and the repositories' `Install`
having succeeded. -/
theorem accepted_after_boot (o : Oracle) (b : BootAnswers) (h : Bridge.HostAnswers)
    (d : Bridge.DriverAnswers) (ans : List Iptables.Answer) (validateID : String → Option String)
    (config : DaemonConfig) (net : Bridge.NetState) (w : World) (a : InstallAnswers)
    (accept : Option String) (n : Nat) (sched : List Act) (l : Listener)
    (hl : l ∈ ((ServeState.start n).run
      (BootOutcome.ofDaemon (newDaemonFromDirectory o b h d ans validateID config net w).1
        (install a (newDaemonFromDirectory o b h d ans validateID config net w).2.1.handlers).1
        accept) sched).listeners)
    (hacc : 0 < l.accepted) :
    (newDaemonFromDirectory o b h d ans validateID config net w).1.isOk = true ∧
      (∀ name ∈ installNames, a.register name = none) ∧ a.repositories = none ∧
      ∀ name ∈ installNames, name ∈
        (install a (newDaemonFromDirectory o b h d ans validateID config net w).2.1.handlers).2 := by
  obtain ⟨hboot, hinst, -⟩ := ((ServeState.inv_start _ n).run sched).accepted hl hacc
  obtain ⟨hiff, hall⟩ :=
    install_spec a (newDaemonFromDirectory o b h d ans validateID config net w).2.1.handlers
  refine ⟨?_, (hiff.1 hinst).1, (hiff.1 hinst).2, hall hinst⟩
  unfold BootOutcome.ofDaemon at hboot
  cases hb : (newDaemonFromDirectory o b h d ans validateID config net w).1 <;> rw [hb] at hboot
  · rfl
  all_goals exact absurd hboot nofun

/-- Every job registered in the order `Install` lists them. -/
def inOrder : InstallAnswers := ⟨fun _ => none, ⟨installNames, List.Perm.refl _⟩, none⟩

/-- A fresh host booted with the default flags, an engine that takes every
job, and the client of `accepted_after_install_early_client`. -/
theorem accepted_after_boot_fresh :
    (⟨true, 0, 1⟩ : Listener) ∈ ((ServeState.start 1).run
      (BootOutcome.ofDaemon (newDaemonFromDirectory Oracle.faultless smoothBoot
          (Bridge.quietHost none) Bridge.quietDriver [] (fun _ => none) installFlags
          Bridge.freshNet World.empty).1
        (install inOrder (newDaemonFromDirectory Oracle.faultless smoothBoot
          (Bridge.quietHost none) Bridge.quietDriver [] (fun _ => none) installFlags
          Bridge.freshNet World.empty).2.1.handlers).1 none)
      [.connect 0, .accept 0, .boot, .boot, .boot, .accept 0, .accept 0]).listeners ∧
    0 < (⟨true, 0, 1⟩ : Listener).accepted ∧
    (newDaemonFromDirectory Oracle.faultless smoothBoot (Bridge.quietHost none) Bridge.quietDriver []
        (fun _ => none) installFlags Bridge.freshNet World.empty).1.isOk = true ∧
      (∀ name ∈ installNames, inOrder.register name = none) ∧ inOrder.repositories = none ∧
      ∀ name ∈ installNames, name ∈ (install inOrder (newDaemonFromDirectory Oracle.faultless
        smoothBoot (Bridge.quietHost none) Bridge.quietDriver [] (fun _ => none) installFlags
        Bridge.freshNet World.empty).2.1.handlers).2 :=
  have hout : BootOutcome.ofDaemon (newDaemonFromDirectory Oracle.faultless smoothBoot
      (Bridge.quietHost none) Bridge.quietDriver [] (fun _ => none) installFlags
      Bridge.freshNet World.empty).1
      (install inOrder (newDaemonFromDirectory Oracle.faultless smoothBoot
        (Bridge.quietHost none) Bridge.quietDriver [] (fun _ => none) installFlags
        Bridge.freshNet World.empty).2.1.handlers).1 none = ⟨none, none, none⟩ := rfl
  have hl : (⟨true, 0, 1⟩ : Listener) ∈ ((ServeState.start 1).run
      (BootOutcome.ofDaemon (newDaemonFromDirectory Oracle.faultless smoothBoot
          (Bridge.quietHost none) Bridge.quietDriver [] (fun _ => none) installFlags
          Bridge.freshNet World.empty).1
        (install inOrder (newDaemonFromDirectory Oracle.faultless smoothBoot
          (Bridge.quietHost none) Bridge.quietDriver [] (fun _ => none) installFlags
          Bridge.freshNet World.empty).2.1.handlers).1 none)
      [.connect 0, .accept 0, .boot, .boot, .boot, .accept 0, .accept 0]).listeners := by
    rw [hout]
    decide
  ⟨hl, by decide, accepted_after_boot _ _ _ _ _ _ _ _ _ _ _ 1 _ _ hl (by decide)⟩

end DockerDaemon.Serve
