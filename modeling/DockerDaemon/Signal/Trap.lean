/-
  DockerDaemon.Signal.Trap — the signal trap of `pkg/signal/trap.go`, as
  interleaved handler goroutines.
  ──────────────────────────────────────
  `Trap` starts one goroutine per delivered signal.  A SIGINT/SIGTERM
  goroutine makes three atomic steps on the shared `uint32`
  `interruptCount`,

      load (< 3 ?)   →   add 1   →   load (= 1 ?),

  then calls `cleanup` and exits 0 if the second load read 1, and returns
  otherwise; a first load of 3 or more exits at once with 128 + signal.
  SIGQUIT exits at once.  A schedule names the goroutine that takes the
  next step and `run` replays it, so a theorem over every schedule is a
  theorem over every interleaving.

  Main results:
    * `cleanupCalls_le_one` — for at most 2^32 handlers and every
      schedule, `cleanup` is called at most once.
    * `trap_two_interrupts_lose_cleanup` — two SIGINTs whose goroutines
      both pass the first load before either adds: both read 2 at the
      second load and return, so the run ends with neither a cleanup nor
      an exit.
    * `forced_exit_needs_four_signals` — a forced exit, skipping `cleanup`,
      needs four SIGINT/SIGTERM signals: the guard `< 3` lets the third
      only add to the counter.
    * `trap_third_interrupt_returns` — three SIGINTs while `cleanup` runs:
      the third handler returns and the process has not exited.
-/
import Mathlib.Data.List.Basic
import Mathlib.Algebra.Group.Nat.Basic

namespace DockerDaemon.Signal

/-! ## §1. Handlers and the trap state. -/

/-- The signals `Trap` passes to `gosignal.Notify`. -/
inductive Sig where
  /-- `os.Interrupt` (SIGINT). -/
  | interrupt
  /-- `syscall.SIGTERM`. -/
  | term
  /-- `syscall.SIGQUIT`. -/
  | quit
  deriving DecidableEq, Repr

/-- `int(sig.(syscall.Signal))`. -/
def Sig.num : Sig → Nat
  | .interrupt => 2
  | .term => 15
  | .quit => 3

/-- The next atomic step of a handler goroutine. -/
inductive Pc where
  /-- `atomic.LoadUint32(&interruptCount) < 3`. -/
  | loadGuard
  /-- `atomic.AddUint32(&interruptCount, 1)`. -/
  | add
  /-- `atomic.LoadUint32(&interruptCount) == 1`. -/
  | loadFirst
  /-- Inside `cleanup()`; `os.Exit(0)` follows. -/
  | cleanup
  /-- Returned without exiting. -/
  | returned
  deriving DecidableEq, Repr

/-- The handler has made its `atomic.AddUint32`. -/
def Pc.pastAdd : Pc → Bool
  | .loadFirst | .cleanup | .returned => true
  | .loadGuard | .add => false

@[simp] theorem Pc.pastAdd_loadGuard : Pc.loadGuard.pastAdd = false := rfl
@[simp] theorem Pc.pastAdd_add : Pc.add.pastAdd = false := rfl
@[simp] theorem Pc.pastAdd_loadFirst : Pc.loadFirst.pastAdd = true := rfl
@[simp] theorem Pc.pastAdd_cleanup : Pc.cleanup.pastAdd = true := rfl
@[simp] theorem Pc.pastAdd_returned : Pc.returned.pastAdd = true := rfl

/-- One goroutine `go func(sig os.Signal)`. -/
structure Handler where
  sig : Sig
  pc : Pc
  deriving DecidableEq, Repr

/-- The process as the handlers see it. -/
structure TrapState where
  interruptCount : UInt32
  handlers : List Handler
  /-- How many times `cleanup()` has been called. -/
  cleanupCalls : Nat
  /-- The status passed to `os.Exit`, once the process has exited. -/
  exitCode : Option Nat
  deriving DecidableEq, Repr

/-- The process once the signals `sigs` are delivered: every handler before its first load. -/
def trap (sigs : List Sig) : TrapState :=
  ⟨0, sigs.map (⟨·, .loadGuard⟩), 0, none⟩

/-- Handler `i`, now `h`, moves to `pc`. -/
def TrapState.setPc (s : TrapState) (i : Nat) (h : Handler) (pc : Pc) : TrapState :=
  { s with handlers := s.handlers.set i { h with pc := pc } }

@[simp] theorem TrapState.setPc_interruptCount (s : TrapState) (i : Nat) (h : Handler) (pc : Pc) :
    (s.setPc i h pc).interruptCount = s.interruptCount := rfl

@[simp] theorem TrapState.setPc_cleanupCalls (s : TrapState) (i : Nat) (h : Handler) (pc : Pc) :
    (s.setPc i h pc).cleanupCalls = s.cleanupCalls := rfl

@[simp] theorem TrapState.setPc_exitCode (s : TrapState) (i : Nat) (h : Handler) (pc : Pc) :
    (s.setPc i h pc).exitCode = s.exitCode := rfl

/-- `os.Exit(code)`. -/
def TrapState.exit (s : TrapState) (code : Nat) : TrapState :=
  { s with exitCode := some code }

/-- Handler `i` takes its next atomic step.  Once the process has exited nothing moves. -/
def step (s : TrapState) (i : Nat) : TrapState :=
  match s.exitCode, s.handlers[i]? with
  | some _, _ => s
  | none, none => s
  | none, some h =>
    match h.pc with
    | .loadGuard =>
      match h.sig with
      | .interrupt | .term =>
        if s.interruptCount < 3 then s.setPc i h .add else s.exit (128 + h.sig.num)
      | .quit => s.exit (128 + h.sig.num)
    | .add => { s.setPc i h .loadFirst with interruptCount := s.interruptCount + 1 }
    | .loadFirst =>
      if s.interruptCount = 1 then
        { s.setPc i h .cleanup with cleanupCalls := s.cleanupCalls + 1 }
      else s.setPc i h .returned
    | .cleanup => s.exit 0
    | .returned => s

/-- Replay a schedule: each entry names the handler that steps next. -/
def run (s : TrapState) (sched : List Nat) : TrapState :=
  sched.foldl step s

@[simp] theorem run_nil (s : TrapState) : run s [] = s := rfl

@[simp] theorem run_cons (s : TrapState) (i : Nat) (sched : List Nat) :
    run s (i :: sched) = run (step s i) sched := rfl

/-! ## §2. The counter against the handlers. -/

theorem UInt32.toNat_add_one (a : UInt32) : (a + 1).toNat = (a.toNat + 1) % 2 ^ 32 := by
  simp [UInt32.add_def, UInt32.toNat, BitVec.toNat_add]

theorem UInt32.lt_three_iff (a : UInt32) : a < 3 ↔ a.toNat < 3 := by
  simp [UInt32.lt_def, BitVec.lt_def, UInt32.toNat]

theorem UInt32.eq_one_iff (a : UInt32) : a = 1 ↔ a.toNat = 1 :=
  ⟨fun h => h ▸ rfl, fun h => UInt32.toNat.inj (by simpa using h)⟩

/-- The handlers inside `cleanup()`. -/
def cleaning (hs : List Handler) : Nat := hs.countP (decide <| ·.pc = .cleanup)

/-- The handlers past their add. -/
def added (hs : List Handler) : Nat := hs.countP (·.pc.pastAdd)

/-- A handler in `cleanup` and one at its second load are both past their add. -/
theorem cleaning_add_loadFirst_le (hs : List Handler) :
    cleaning hs + hs.countP (decide <| ·.pc = .loadFirst) ≤ added hs := by
  induction hs with
  | nil => simp [cleaning, added]
  | cons h hs ih =>
    simp only [cleaning, added, List.countP_cons] at ih ⊢
    cases h.pc <;> simp <;> omega

/-- What every reachable trap state satisfies: the counter counts the adds
(modulo 2^32), `cleanupCalls` counts the handlers in `cleanup`, and there is
at most one of them. -/
structure TrapInv (s : TrapState) : Prop where
  count : s.interruptCount.toNat = added s.handlers % 2 ^ 32
  calls : s.cleanupCalls = cleaning s.handlers
  once : cleaning s.handlers ≤ 1

theorem trapInv_trap (sigs : List Sig) : TrapInv (trap sigs) where
  count := by simp [trap, added, Function.comp_def]
  calls := by simp [trap, cleaning, Function.comp_def]
  once := by simp [trap, cleaning, Function.comp_def]

/-- Everything one step can do.  A step that moves nobody leaves the state
as it is; a step that exits changes only `exitCode`. -/
theorem step_cases (s : TrapState) (i : Nat) :
    step s i = s ∨
    (∃ h, s.handlers[i]? = some h ∧ h.pc = .loadGuard ∧ (h.sig = .quit ∨ ¬ s.interruptCount < 3) ∧
      step s i = s.exit (128 + h.sig.num)) ∨
    (∃ h, s.handlers[i]? = some h ∧ h.pc = .cleanup ∧ step s i = s.exit 0) ∨
    ∃ h, s.handlers[i]? = some h ∧
      ((h.pc = .loadGuard ∧ h.sig ≠ .quit ∧ s.interruptCount < 3 ∧ step s i = s.setPc i h .add) ∨
       (h.pc = .add ∧
         step s i = { s.setPc i h .loadFirst with interruptCount := s.interruptCount + 1 }) ∨
       (h.pc = .loadFirst ∧ s.interruptCount = 1 ∧
         step s i = { s.setPc i h .cleanup with cleanupCalls := s.cleanupCalls + 1 }) ∨
       (h.pc = .loadFirst ∧ s.interruptCount ≠ 1 ∧ step s i = s.setPc i h .returned)) := by
  cases he : s.exitCode with
  | some _ => exact .inl (by simp [step, he])
  | none =>
  cases hi : s.handlers[i]? with
  | none => exact .inl (by simp [step, he, hi])
  | some h =>
    unfold step
    rw [he, hi]
    obtain ⟨sig, pc⟩ := h
    cases pc with
    | loadGuard =>
      cases sig
      case quit => exact .inr (.inl ⟨_, rfl, rfl, .inl rfl, rfl⟩)
      all_goals
        by_cases h3 : s.interruptCount < 3
        · exact .inr (.inr (.inr ⟨_, rfl, .inl ⟨rfl, nofun, h3, if_pos h3⟩⟩))
        · exact .inr (.inl ⟨_, rfl, rfl, .inr h3, if_neg h3⟩)
    | add => exact .inr (.inr (.inr ⟨_, rfl, .inr (.inl ⟨rfl, rfl⟩)⟩))
    | loadFirst =>
      by_cases h1 : s.interruptCount = 1
      · exact .inr (.inr (.inr ⟨_, rfl, .inr (.inr (.inl ⟨rfl, h1, if_pos h1⟩))⟩))
      · exact .inr (.inr (.inr ⟨_, rfl, .inr (.inr (.inr ⟨rfl, h1, if_neg h1⟩))⟩))
    | cleanup => exact .inr (.inr (.inl ⟨_, rfl, rfl, rfl⟩))
    | returned => exact .inl rfl

/-- Moving handler `i` from `h.pc` to `pc` changes a count by the two handlers' shares. -/
theorem countP_setPc (p : Handler → Bool) {s : TrapState} {i : Nat} {h : Handler}
    (hi : s.handlers[i]? = some h) (pc : Pc) :
    (s.setPc i h pc).handlers.countP p + (if p h then 1 else 0)
      = s.handlers.countP p + (if p { h with pc := pc } then 1 else 0) := by
  obtain ⟨hlt, rfl⟩ := List.getElem?_eq_some_iff.1 hi
  have := List.boole_getElem_le_countP p s.handlers i hlt
  rw [TrapState.setPc, List.countP_set p s.handlers i _ hlt]
  omega

@[simp] theorem length_setPc (s : TrapState) (i : Nat) (h : Handler) (pc : Pc) :
    (s.setPc i h pc).handlers.length = s.handlers.length := by
  simp [TrapState.setPc]

theorem length_step (s : TrapState) (i : Nat) : (step s i).handlers.length = s.handlers.length := by
  rcases step_cases s i with h | ⟨_, _, _, _, h⟩ | ⟨_, _, _, h⟩ | ⟨_, _, h | h | h | h⟩ <;>
    simp [h, TrapState.exit]

/-! ## §3. At most one cleanup. -/

theorem added_setPc {s : TrapState} {i : Nat} {g : Handler} (hi : s.handlers[i]? = some g)
    (pc : Pc) : added (s.setPc i g pc).handlers + (if g.pc.pastAdd then 1 else 0)
      = added s.handlers + (if pc.pastAdd then 1 else 0) :=
  countP_setPc _ hi pc

theorem cleaning_setPc {s : TrapState} {i : Nat} {g : Handler} (hi : s.handlers[i]? = some g)
    (pc : Pc) : cleaning (s.setPc i g pc).handlers + (if g.pc = .cleanup then 1 else 0)
      = cleaning s.handlers + (if pc = .cleanup then 1 else 0) := by
  simpa using countP_setPc (decide <| ·.pc = .cleanup) hi pc

/-- One step keeps the invariant, as long as the handlers are few enough
that the `uint32` counter cannot wrap back to 1. -/
theorem trapInv_step {s : TrapState} (hs : TrapInv s) (hn : s.handlers.length ≤ 2 ^ 32)
    (i : Nat) : TrapInv (step s i) := by
  obtain ⟨hcount, hcalls, honce⟩ := hs
  rcases step_cases s i with h | ⟨_, _, _, _, h⟩ | ⟨_, _, _, h⟩ | ⟨g, hi, hg⟩
  · rw [h]; exact ⟨hcount, hcalls, honce⟩
  · rw [h]; exact ⟨hcount, hcalls, honce⟩
  · rw [h]; exact ⟨hcount, hcalls, honce⟩
  rcases hg with ⟨hpc, -, -, h⟩ | ⟨hpc, h⟩ | ⟨hpc, h1, h⟩ | ⟨hpc, -, h⟩ <;> rw [h]
  · -- first load passed: `add` is not past the add, so no count moves
    have ha := added_setPc hi .add
    have hc := cleaning_setPc hi .add
    simp [hpc] at ha hc
    exact ⟨by simpa [ha] using hcount, by simpa [hc] using hcalls, by simpa [hc] using honce⟩
  · -- the add: one more handler past it, and the counter follows
    have ha := added_setPc hi .loadFirst
    have hc := cleaning_setPc hi .loadFirst
    simp [hpc] at ha hc
    refine ⟨?_, ?_, ?_⟩ <;> dsimp only
    · rw [UInt32.toNat_add_one, hcount, ha]
      omega
    · simpa [hc] using hcalls
    · simpa [hc] using honce
  · -- the second load read 1: this handler is the only one past its add
    have ha := added_setPc hi .cleanup
    have hc := cleaning_setPc hi .cleanup
    simp [hpc] at ha hc
    have hle : added s.handlers ≤ s.handlers.length := List.countP_le_length _
    have hsum := cleaning_add_loadFirst_le s.handlers
    have hfirst : 0 < s.handlers.countP (decide <| ·.pc = .loadFirst) :=
      List.countP_pos_iff.2 ⟨g, List.getElem?_mem hi, by simp [hpc]⟩
    rw [UInt32.eq_one_iff] at h1
    refine ⟨?_, ?_, ?_⟩ <;> dsimp only
    · simpa [ha] using hcount
    · simp [hc, hcalls]
    · omega
  · -- the second load read something else
    have ha := added_setPc hi .returned
    have hc := cleaning_setPc hi .returned
    simp [hpc] at ha hc
    exact ⟨by simpa [ha] using hcount, by simpa [hc] using hcalls, by simpa [hc] using honce⟩

theorem trapInv_run {s : TrapState} (hs : TrapInv s) (hn : s.handlers.length ≤ 2 ^ 32)
    (sched : List Nat) : TrapInv (run s sched) := by
  induction sched generalizing s with
  | nil => exact hs
  | cons i sched ih => exact ih (trapInv_step hs hn i) (by rwa [length_step])

/-- For at most 2^32 delivered signals, every interleaving of their handlers
calls `cleanup` at most once. -/
theorem cleanupCalls_le_one (sigs : List Sig) (hn : sigs.length ≤ 2 ^ 32) (sched : List Nat) :
    (run (trap sigs) sched).cleanupCalls ≤ 1 := by
  have h := trapInv_run (trapInv_trap sigs) (by simpa [trap] using hn) sched
  exact h.calls ▸ h.once

/-- Two SIGINTs and a SIGTERM, interleaved. -/
theorem cleanupCalls_le_one_three_signals :
    [Sig.interrupt, .interrupt, .term].length ≤ 2 ^ 32 ∧
      (run (trap [.interrupt, .interrupt, .term]) [0, 1, 0, 0, 2, 1, 2, 1]).cleanupCalls ≤ 1 :=
  ⟨by decide, cleanupCalls_le_one _ (by decide) _⟩

/-! ## §4. A lost shutdown. -/

/-- Once every handler has returned, no step moves anything: the process
waits forever. -/
theorem run_eq_self_of_all_returned {s : TrapState} (h : s.handlers.all (·.pc == .returned))
    (sched : List Nat) : run s sched = s := by
  have hret : ∀ (i : Nat) (g : Handler), s.handlers[i]? = some g → g.pc = .returned :=
    fun _ g hg => by simpa using List.all_eq_true.1 h g (List.getElem?_mem hg)
  induction sched with
  | nil => rfl
  | cons i sched ih =>
    rw [run_cons]
    rcases step_cases s i with h | ⟨g, hg, hpc, -⟩ | ⟨g, hg, hpc, -⟩ |
      ⟨g, hg, ⟨hpc, -⟩ | ⟨hpc, -⟩ | ⟨hpc, -⟩ | ⟨hpc, -⟩⟩ <;>
      first | rwa [h] | simp [hret i g hg] at hpc

/-- Two SIGINTs: both goroutines pass the first load (0 < 3), both add (the
counter reaches 2), and both then load 2 and return.  However the schedule
goes on, nothing moves again: `cleanup` is never called and the process
never exits. -/
theorem trap_two_interrupts_lose_cleanup :
    (∀ sched, run (trap [.interrupt, .interrupt]) ([0, 1, 0, 1, 0, 1] ++ sched)
        = run (trap [.interrupt, .interrupt]) [0, 1, 0, 1, 0, 1]) ∧
      (run (trap [.interrupt, .interrupt]) [0, 1, 0, 1, 0, 1]).cleanupCalls = 0 ∧
      (run (trap [.interrupt, .interrupt]) [0, 1, 0, 1, 0, 1]).exitCode = none :=
  ⟨fun sched => (List.foldl_append _ _ _ _).trans (run_eq_self_of_all_returned (by decide) sched),
    by decide, by decide⟩

/-! ## §5. Forced exits. -/

/-- The SIGINT and SIGTERM handlers. -/
def interrupts (hs : List Handler) : Nat := hs.countP (·.sig != .quit)

/-- An exit status that only a first load of 3 or more gives: 128 plus
SIGINT's or SIGTERM's number. -/
def Forced (code : Nat) : Prop := code = 128 + Sig.interrupt.num ∨ code = 128 + Sig.term.num

/-- The signal of a handler never changes, so neither does the number of
SIGINT/SIGTERM handlers. -/
theorem interrupts_setPc {s : TrapState} {i : Nat} {g : Handler} (hi : s.handlers[i]? = some g)
    (pc : Pc) : interrupts (s.setPc i g pc).handlers = interrupts s.handlers := by
  have := countP_setPc (·.sig != .quit) hi pc
  simp only at this
  unfold interrupts
  omega

theorem interrupts_step (s : TrapState) (i : Nat) :
    interrupts (step s i).handlers = interrupts s.handlers := by
  rcases step_cases s i with h | ⟨_, _, _, _, h⟩ | ⟨_, _, _, h⟩ |
    ⟨_, hi, ⟨-, -, -, h⟩ | ⟨-, h⟩ | ⟨-, -, h⟩ | ⟨-, -, h⟩⟩ <;> rw [h] <;>
    first | rfl | exact interrupts_setPc hi _

theorem interrupts_run (s : TrapState) (sched : List Nat) :
    interrupts (run s sched).handlers = interrupts s.handlers := by
  induction sched generalizing s with
  | nil => rfl
  | cons i sched ih => rw [run_cons, ih, interrupts_step]

/-- Every handler past its add, and one more at its first load, is a SIGINT or
SIGTERM handler, when no SIGQUIT handler has left its first load. -/
theorem added_lt_interrupts {hs : List Handler}
    (hq : ∀ h ∈ hs, h.sig = .quit → h.pc = .loadGuard) {g : Handler} (hg : g ∈ hs)
    (hsig : g.sig ≠ .quit) (hpc : g.pc = .loadGuard) : added hs < interrupts hs := by
  have hle : ∀ l : List Handler, (∀ h ∈ l, h ∈ hs) → added l ≤ interrupts l := fun l hl =>
    List.countP_mono_left fun h hh hadd => by
      by_cases hs' : h.sig = .quit
      · simp [hq h (hl h hh) hs'] at hadd
      · simpa using hs'
  obtain ⟨l1, l2, rfl⟩ := List.append_of_mem hg
  have h1 := hle l1 fun _ hh => List.mem_append_left _ hh
  have h2 := hle l2 fun _ hh => List.mem_append_right _ (.tail _ hh)
  simp only [added, interrupts, List.countP_append, List.countP_cons, hpc,
    Pc.pastAdd_loadGuard] at h1 h2 ⊢
  simp only [bne_iff_ne, ne_eq, hsig, not_false_eq_true, decide_True, if_true, Bool.false_eq_true,
    if_false]
  omega

/-- What a forced exit needs, kept by every step: no SIGQUIT handler has left
its first load, and a forced exit status comes with four SIGINT/SIGTERM
handlers. -/
structure ForcedInv (s : TrapState) : Prop where
  quitAtGuard : ∀ h ∈ s.handlers, h.sig = .quit → h.pc = .loadGuard
  four : ∀ c, s.exitCode = some c → Forced c → 4 ≤ interrupts s.handlers

theorem forcedInv_trap (sigs : List Sig) : ForcedInv (trap sigs) where
  quitAtGuard := by simp [trap]
  four := by simp [trap]

theorem forcedInv_step {s : TrapState} (hs : ForcedInv s) (ht : TrapInv s)
    (hn : s.handlers.length ≤ 2 ^ 32) (i : Nat) : ForcedInv (step s i) := by
  obtain ⟨hq, hfour⟩ := hs
  /- A handler that moves is not a SIGQUIT handler at its first load, and
  keeps its signal. -/
  have moved : ∀ {g : Handler} (pc : Pc), s.handlers[i]? = some g →
      (g.sig = .quit → pc = .loadGuard) → ForcedInv (s.setPc i g pc) := fun {g} pc hi hg => by
    refine ⟨fun h hh hsq => ?_, fun c hc hf => ?_⟩
    · rcases List.mem_or_eq_of_mem_set hh with hh | rfl
      · exact hq h hh hsq
      · exact hg hsq
    · rw [interrupts_setPc hi]
      exact hfour c hc hf
  rcases step_cases s i with h | ⟨g, hi, hpc, hsig, h⟩ | ⟨g, hi, -, h⟩ |
    ⟨g, hi, ⟨hpc, hsig, -, h⟩ | ⟨hpc, h⟩ | ⟨hpc, -, h⟩ | ⟨hpc, -, h⟩⟩ <;> rw [h]
  · exact ⟨hq, hfour⟩
  · -- the first load read 3 or more: four handlers for a forced status
    refine ⟨hq, fun c hc hf => ?_⟩
    obtain rfl : 128 + g.sig.num = c := Option.some.inj hc
    have hquit : g.sig ≠ .quit := by
      rintro hg
      rcases hf with hf | hf <;> simp [hg, Sig.num] at hf
    have h3 : ¬ s.interruptCount < 3 := hsig.resolve_left hquit
    have hadd : added s.handlers ≤ s.handlers.length := List.countP_le_length _
    have hlt := added_lt_interrupts hq (List.getElem?_mem hi) hquit hpc
    rw [UInt32.lt_three_iff, ht.count] at h3
    by_cases hfull : added s.handlers = 2 ^ 32
    · omega
    · rw [Nat.mod_eq_of_lt (by omega)] at h3
      exact (by omega : 4 ≤ interrupts s.handlers)
  · refine ⟨hq, fun c hc hf => ?_⟩
    obtain rfl : 0 = c := Option.some.inj hc
    rcases hf with hf | hf <;> simp [Sig.num] at hf
  · exact moved _ hi fun hsq => absurd hsq hsig
  · have hm := moved .loadFirst hi fun hsq =>
      absurd (hq g (List.getElem?_mem hi) hsq) (by rw [hpc]; decide)
    exact ⟨hm.quitAtGuard, hm.four⟩
  · have hm := moved .cleanup hi fun hsq =>
      absurd (hq g (List.getElem?_mem hi) hsq) (by rw [hpc]; decide)
    exact ⟨hm.quitAtGuard, hm.four⟩
  · exact moved _ hi fun hsq => absurd (hq g (List.getElem?_mem hi) hsq) (by rw [hpc]; decide)

theorem forcedInv_run {s : TrapState} (hs : ForcedInv s) (ht : TrapInv s)
    (hn : s.handlers.length ≤ 2 ^ 32) (sched : List Nat) : ForcedInv (run s sched) := by
  induction sched generalizing s with
  | nil => exact hs
  | cons i sched ih =>
    exact ih (forcedInv_step hs ht hn i) (trapInv_step ht hn i) (by rwa [length_step])

/-- For at most 2^32 delivered signals and every interleaving of their
handlers, the process exits with a SIGINT's or SIGTERM's status, skipping
`cleanup`, only when at least four of the signals are SIGINTs or SIGTERMs:
the third only adds to the counter. -/
theorem forced_exit_needs_four_signals (sigs : List Sig) (hn : sigs.length ≤ 2 ^ 32)
    (sched : List Nat) {code : Nat} (hexit : (run (trap sigs) sched).exitCode = some code)
    (hforced : Forced code) : 4 ≤ sigs.countP (· != .quit) := by
  have hlen : (trap sigs).handlers.length ≤ 2 ^ 32 := by simpa [trap] using hn
  have h := (forcedInv_run (forcedInv_trap sigs) (trapInv_trap sigs) hlen sched).four code hexit
    hforced
  rw [interrupts_run] at h
  simpa [interrupts, trap, List.countP_map, Function.comp_def] using h

/-- Four SIGINTs: three pass their first load and add, and the fourth then
reads 3 and forces the exit. -/
theorem forced_exit_needs_four_signals_at_fourth :
    [Sig.interrupt, .interrupt, .interrupt, .interrupt].length ≤ 2 ^ 32 ∧
      (run (trap [.interrupt, .interrupt, .interrupt, .interrupt]) [0, 0, 1, 1, 2, 2, 3]).exitCode
        = some 130 ∧ Forced 130 ∧
      4 ≤ [Sig.interrupt, .interrupt, .interrupt, .interrupt].countP (· != .quit) :=
  ⟨by decide, by decide, .inl rfl, forced_exit_needs_four_signals _ (by decide) [0, 0, 1, 1, 2, 2, 3]
    (by decide) (.inl rfl)⟩

/-- Three SIGINTs delivered while `cleanup` runs: the first handler takes the
counter to 1 and calls `cleanup`; the second and the third take it to 2 and
3 and return.  The third signal's handler is done, and the process has not
exited. -/
theorem trap_third_interrupt_returns :
    ((run (trap [.interrupt, .interrupt, .interrupt]) [0, 0, 0, 1, 1, 1, 2, 2, 2]).handlers.map
        (·.pc)) = [.cleanup, .returned, .returned] ∧
      (run (trap [.interrupt, .interrupt, .interrupt]) [0, 0, 0, 1, 1, 1, 2, 2, 2]).exitCode
        = none := by
  decide

end DockerDaemon.Signal
