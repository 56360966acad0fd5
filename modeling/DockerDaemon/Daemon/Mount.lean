/-
  DockerDaemon.Daemon.Mount — `Mount`, `Unmount`, `Changes` and `Diff` of
  daemon.go, the calls that ask the storage driver for a container's layer.
  ──────────────────────────────────────
  `Get(id)` mounts a layer and `Put(id)` releases one `Get`; the world
  counts, by layer, the successful `Get` calls minus the `Put` calls
  (`World.mounts`).  `Changes` and `createRootfs` release every layer they
  get, by `defer`, on every path.  `Mount` keeps its `Get` for `Unmount` to
  release, and `Diff` keeps its `Get` for the archive it returns, whose
  `Close` releases it.  Two error paths return without the `Put`: `Mount`
  when the driver answers a path other than the one the container already
  has, and `Diff` when `archive.ExportChanges` fails.

  The driver's own `Changes` and `Diff` (when it is a `graphdriver.Differ`),
  `archive.ChangesDirs`, `archive.ExportChanges` and the archive's `Close`
  are calls to the outside that may fail; the changes and the archive's
  bytes are left out.  The error texts of a failed `Get` read
  `container.daemon.driver`, which is the daemon's own driver once the
  container is registered; on a container with a nil `daemon` the Go code
  panics there, and the model returns the error.

  Main results:
    * `get_put_balanced` — over every answer of the driver and of the
      archive calls, `Changes` and `createRootfs` leave every count as it
      was, a successful `Mount` raises the container's by one and `Unmount`
      brings it back, and the archive of a successful `Diff` brings every
      count back when it is closed.
    * `mount_diff_counts` — a `Mount` raises the container's count iff its
      `Get` succeeds, and fails after that `Get` iff the paths differ; a
      `Diff` raises it iff `Changes` and its own `Get` succeed, whatever
      `ExportChanges` answers.
    * `failed_mount_diff_keep_layer_mounted` — an inconsistent path, and a
      failed `ExportChanges`: both calls fail with the layer still mounted.
-/
import DockerDaemon.Daemon.Restore

namespace DockerDaemon.Daemon

variable (o : Oracle)

/-! ## §1. The calls. -/

/-- `daemon.Mount(container)`, where `basefs` is `container.basefs` and the
driver's `Get` answers the path `dir` when it succeeds: the error, and
`container.basefs` after the call. -/
def mount (s : Setup) (c : Container) (basefs dir : String) (w : World) :
    (Option String × String) × World :=
  match driverGet o c.id w with
  | (some e, w) =>
    ((some ("Error getting container " ++ c.id ++ " from driver " ++ s.driver ++ ": " ++ e),
      basefs), w)
  | (none, w) =>
    if basefs = "" then ((none, dir), w)
    else if basefs ≠ dir then
      ((some ("Error: driver " ++ s.driver ++ " is returning inconsistent paths for container " ++
        c.id ++ " ('" ++ basefs ++ "' then '" ++ dir ++ "')"), basefs), w)
    else ((none, basefs), w)

/-- `daemon.Unmount(container)`, which always returns nil. -/
def unmount (c : Container) (w : World) : World := driverPut c.id w

/-- `daemon.Changes(container)`: `differ` says whether the driver is a
`graphdriver.Differ`. -/
def changes (s : Setup) (differ : Bool) (c : Container) (w : World) : Option String × World :=
  if differ then attempt o (fun w => w) w
  else
    match driverGet o c.id w with
    | (some e, w) =>
      (some ("Error getting container rootfs " ++ c.id ++ " from driver " ++ s.driver ++ ": " ++ e), w)
    | (none, w) =>
      -- `defer daemon.driver.Put(container.ID)`
      match driverGet o (c.id ++ "-init") w with
      | (some e, w) =>
        (some ("Error getting container init rootfs " ++ c.id ++ " from driver " ++ s.driver ++
          ": " ++ e), driverPut c.id w)
      | (none, w) =>
        -- `defer daemon.driver.Put(container.ID + "-init")`, then `archive.ChangesDirs`
        match attempt o (fun w => w) w with
        | (r, w) => (r, driverPut c.id (driverPut (c.id ++ "-init") w))

/-- The archive `Diff` returns: the `Differ`'s own, or that of
`archive.ExportChanges` in `utils.NewReadCloserWrapper`, whose close function
puts layer `id`. -/
inductive Archive where
  | driver
  | wrapped (id : String)
  deriving DecidableEq, Repr

/-- `Close()` of an archive `Diff` returned. -/
def Archive.close : Archive → World → Option String × World
  | .driver, w => attempt o (fun w => w) w
  | .wrapped id, w =>
    -- `err := archive.Close(); daemon.driver.Put(container.ID); return err`
    match attempt o (fun w => w) w with
    | (r, w) => (r, driverPut id w)

/-- `daemon.Diff(container)`. -/
def diff (s : Setup) (differ : Bool) (c : Container) (w : World) : Go.Result Archive × World :=
  if differ then
    match attempt o (fun w => w) w with
    | (some e, w) => (.err e, w)
    | (none, w) => (.ok .driver, w)
  else
    match changes o s differ c w with
    | (some e, w) => (.err e, w)
    | (none, w) =>
      match driverGet o c.id w with
      | (some e, w) =>
        (.err ("Error getting container rootfs " ++ c.id ++ " from driver " ++ s.driver ++ ": " ++
          e), w)
      | (none, w) =>
        -- `archive.ExportChanges(cDir, changes)`: its error returns without a `Put`
        match attempt o (fun w => w) w with
        | (some e, w) => (.err e, w)
        | (none, w) => (.ok (.wrapped c.id), w)

/-! ## §2. What each call does to the counts. -/

section Counts

variable {o}

theorem attempt_self_mounts {w w' : World} {r : Option String}
    (h : attempt o (fun w => w) w = (r, w')) : w'.mounts = w.mounts := by
  rw [attempt_self o h]
  rfl

/-- `Changes` puts every layer it gets: every count is as it was. -/
theorem changes_mounts (s : Setup) (differ : Bool) (c : Container) (w : World) :
    (changes o s differ c w).2.mounts = w.mounts := by
  unfold changes
  cases differ
  case true => exact attempt_self_mounts (Prod.mk.eta).symm
  case false =>
    rw [if_neg Bool.false_ne_true]
    rcases h1 : driverGet o c.id w with ⟨_ | e1, w1⟩
    case some => exact driverGet_error_mounts h1
    dsimp only
    rcases h2 : driverGet o (c.id ++ "-init") w1 with ⟨_ | e2, w2⟩
    case some => exact driverPut_after_get h1 (driverGet_error_mounts h2)
    dsimp only
    exact driverPut_after_get h1 (driverPut_after_get h2 (attempt_self_mounts (Prod.mk.eta).symm))

/-- A `Mount` raises the container's count by one iff its `Get` succeeds, and
then fails iff the container had a path and the driver answers another. -/
theorem mount_counts (s : Setup) (c : Container) (basefs dir : String) (w : World) :
    (mount o s c basefs dir w).2.mounts =
      (if (driverGet o c.id w).1 = none then oneMore c.id w.mounts else w.mounts) ∧
    ((mount o s c basefs dir w).1.1 = none ↔
      (driverGet o c.id w).1 = none ∧ (basefs = "" ∨ basefs = dir)) := by
  unfold mount
  rcases h : driverGet o c.id w with ⟨_ | e, w'⟩
  case some => simp [driverGet_error_mounts h]
  have hm := driverGet_ok_mounts h
  dsimp only
  by_cases h0 : basefs = ""
  · simp [h0, hm]
  by_cases hd : basefs = dir <;> simp [h0, hd, hm]

/-- A successful `Diff` returns the driver's archive, or, when the driver is
no `Differ`, the one that puts the container's layer, after `Changes` and its
own `Get` succeeded. -/
theorem diff_ok {s : Setup} {differ : Bool} {c : Container} {w : World} {a : Archive}
    (h : (diff o s differ c w).1 = .ok a) :
    a = (if differ then .driver else .wrapped c.id) ∧
    (differ = false → (changes o s differ c w).1 = none ∧
      (driverGet o c.id (changes o s differ c w).2).1 = none) := by
  unfold diff at h
  cases differ
  case true =>
    rcases hr : attempt o (fun w => w) w with ⟨_ | e, w'⟩ <;> simp_all
  case false =>
    rw [if_neg Bool.false_ne_true] at h
    rcases h1 : changes o s false c w with ⟨_ | e1, w1⟩ <;> rw [h1] at h <;> dsimp only at h ⊢
    case some => cases h
    rcases h2 : driverGet o c.id w1 with ⟨_ | e2, w2⟩ <;> rw [h2] at h <;> dsimp only at h ⊢
    case some => cases h
    rcases h3 : attempt o (fun w => w) w2 with ⟨_ | e3, w3⟩ <;> rw [h3] at h <;> dsimp only at h
    case some => cases h
    cases h
    exact ⟨rfl, fun _ => ⟨rfl, rfl⟩⟩

/-- A `Diff` raises the container's count by one iff the driver is no
`Differ` and `Changes` and its own `Get` succeed, whatever `ExportChanges`
answers. -/
theorem diff_mounts (s : Setup) (differ : Bool) (c : Container) (w : World) :
    (diff o s differ c w).2.mounts =
      if differ = false ∧ (changes o s differ c w).1 = none ∧
          (driverGet o c.id (changes o s differ c w).2).1 = none
        then oneMore c.id w.mounts else w.mounts := by
  unfold diff
  cases differ
  case true =>
    rcases h : attempt o (fun w => w) w with ⟨_ | e, w'⟩ <;> simpa using attempt_self_mounts h
  case false =>
    have hc := changes_mounts (o := o) s false c w
    rw [if_neg Bool.false_ne_true]
    rcases h1 : changes o s false c w with ⟨_ | e1, w1⟩ <;> rw [h1] at hc <;> dsimp only at hc
    case some => simp [hc]
    dsimp only
    rcases h2 : driverGet o c.id w1 with ⟨_ | e2, w2⟩
    case some => simp [driverGet_error_mounts h2, hc]
    have hm : w2.mounts = oneMore c.id w.mounts := by rw [driverGet_ok_mounts h2, hc]
    dsimp only
    rcases h3 : attempt o (fun w => w) w2 with ⟨_ | e3, w3⟩ <;>
      simp [attempt_self_mounts h3, hm]

/-- The archive that puts layer `id` lowers its count by one when it is
closed, whatever `archive.Close()` answers. -/
theorem close_wrapped_mounts (id : String) (w : World) :
    ((Archive.wrapped id).close o w).2.mounts = fun l => if l = id then w.mounts l - 1 else w.mounts l := by
  have h : (attempt o (fun w => w) w).2.mounts = w.mounts := attempt_self_mounts (Prod.mk.eta).symm
  show (driverPut id (attempt o (fun w => w) w).2).mounts = _
  simp only [driverPut, World.tick_mounts, h]

end Counts

/-! ## §3. Balance, and the two leaks. -/

/-- Over every answer of the driver and of the archive calls: `Changes` and
`createRootfs` leave every count as it was; a successful `Mount` raises the
container's by one, and `Unmount` brings it back; and closing the archive of a
successful `Diff` brings every count back to its value before the `Diff`. -/
theorem get_put_balanced (s : Setup) (differ : Bool) (c : Container) (image basefs dir : String)
    (w : World) :
    (changes o s differ c w).2.mounts = w.mounts ∧
    (createRootfs o c image w).2.mounts = w.mounts ∧
    ((mount o s c basefs dir w).1.1 = none →
      (mount o s c basefs dir w).2.mounts = oneMore c.id w.mounts ∧
      (unmount c (mount o s c basefs dir w).2).mounts = w.mounts) ∧
    (∀ a, (diff o s differ c w).1 = .ok a →
      (a.close o (diff o s differ c w).2).2.mounts = w.mounts) := by
  refine ⟨changes_mounts s differ c w, createRootfs_mounts o c image w, fun hok => ?_, fun a ha => ?_⟩
  · obtain ⟨hm, hiff⟩ := mount_counts (o := o) s c basefs dir w
    rw [hm, if_pos (hiff.1 hok).1]
    refine ⟨rfl, funext fun l => ?_⟩
    simp only [unmount, driverPut, World.tick_mounts, hm, if_pos (hiff.1 hok).1, oneMore]
    split <;> simp_all
  · obtain ⟨rfl, hheld⟩ := diff_ok ha
    have hm := diff_mounts (o := o) s differ c w
    cases differ
    case true =>
      rw [if_neg (by simp)] at hm
      exact (attempt_self_mounts (Prod.mk.eta).symm).trans hm
    case false =>
      rw [if_pos ⟨rfl, hheld rfl⟩] at hm
      funext l
      simp only [if_false, Bool.false_eq_true, close_wrapped_mounts, hm, oneMore]
      split <;> simp_all

/-- A `Mount` raises the container's count by one iff its `Get` succeeds, and
fails after that `Get` iff the container had a path and the driver answers
another; a `Diff` raises the count iff the driver is no `Differ` and
`Changes` and its own `Get` succeed, whatever `ExportChanges` answers, and a
successful one returns the driver's archive or the one that puts the layer. -/
theorem mount_diff_counts (s : Setup) (differ : Bool) (c : Container) (basefs dir : String)
    (w : World) :
    (mount o s c basefs dir w).2.mounts =
      (if (driverGet o c.id w).1 = none then oneMore c.id w.mounts else w.mounts) ∧
    ((mount o s c basefs dir w).1.1 = none ↔
      (driverGet o c.id w).1 = none ∧ (basefs = "" ∨ basefs = dir)) ∧
    (diff o s differ c w).2.mounts =
      (if differ = false ∧ (changes o s differ c w).1 = none ∧
          (driverGet o c.id (changes o s differ c w).2).1 = none
        then oneMore c.id w.mounts else w.mounts) ∧
    (∀ a, (diff o s differ c w).1 = .ok a → a = if differ then .driver else .wrapped c.id) :=
  ⟨(mount_counts s c basefs dir w).1, (mount_counts s c basefs dir w).2,
    diff_mounts s differ c w, fun _ ha => (diff_ok ha).1⟩


theorem get_put_balanced_abc :
    (changes Oracle.faultless aufsSetup false runningAbc World.empty).2.mounts =
      World.empty.mounts ∧
    (createRootfs Oracle.faultless runningAbc "img" World.empty).2.mounts = World.empty.mounts ∧
    ((mount Oracle.faultless aufsSetup runningAbc "" "/var/lib/docker/aufs/mnt/abc"
        World.empty).1.1 = none →
      (mount Oracle.faultless aufsSetup runningAbc "" "/var/lib/docker/aufs/mnt/abc"
        World.empty).2.mounts = oneMore runningAbc.id World.empty.mounts ∧
      (unmount runningAbc (mount Oracle.faultless aufsSetup runningAbc ""
        "/var/lib/docker/aufs/mnt/abc" World.empty).2).mounts = World.empty.mounts) ∧
    (∀ a, (diff Oracle.faultless aufsSetup false runningAbc World.empty).1 = .ok a →
      (a.close Oracle.faultless
        (diff Oracle.faultless aufsSetup false runningAbc World.empty).2).2.mounts =
        World.empty.mounts) :=
  get_put_balanced Oracle.faultless aufsSetup false runningAbc "img" ""
    "/var/lib/docker/aufs/mnt/abc" World.empty

theorem mount_diff_counts_abc :
    (mount Oracle.faultless aufsSetup runningAbc "" "/var/lib/docker/aufs/mnt/abc"
        World.empty).2.mounts =
      (if (driverGet Oracle.faultless runningAbc.id World.empty).1 = none
        then oneMore runningAbc.id World.empty.mounts else World.empty.mounts) ∧
    ((mount Oracle.faultless aufsSetup runningAbc "" "/var/lib/docker/aufs/mnt/abc"
        World.empty).1.1 = none ↔
      (driverGet Oracle.faultless runningAbc.id World.empty).1 = none ∧
        ("" = "" ∨ "" = "/var/lib/docker/aufs/mnt/abc")) ∧
    (diff Oracle.faultless aufsSetup false runningAbc World.empty).2.mounts =
      (if false = false ∧
          (changes Oracle.faultless aufsSetup false runningAbc World.empty).1 = none ∧
          (driverGet Oracle.faultless runningAbc.id
            (changes Oracle.faultless aufsSetup false runningAbc World.empty).2).1 = none
        then oneMore runningAbc.id World.empty.mounts else World.empty.mounts) ∧
    (∀ a, (diff Oracle.faultless aufsSetup false runningAbc World.empty).1 = .ok a →
      a = if false then .driver else .wrapped runningAbc.id) :=
  mount_diff_counts Oracle.faultless aufsSetup false runningAbc "" "/var/lib/docker/aufs/mnt/abc"
    World.empty

/-- The storage driver failing the call at clock 6, which in a `Diff` of a
fresh daemon is `archive.ExportChanges`. -/
def exportFault : Oracle :=
  ⟨fun _ => "", fun _ => "", fun t => if t = 6 then some "export failed" else none, fun _ => false⟩

/-- `abc` had the path `/var/lib/docker/aufs/mnt/abc` and the driver now answers
another: `Mount` fails and `abc`'s layer stays mounted.  `ExportChanges` fails
in a `Diff` of `abc`: `Diff` fails and the layer stays mounted too. -/
theorem failed_mount_diff_keep_layer_mounted :
    (mount Oracle.faultless aufsSetup runningAbc "/var/lib/docker/aufs/mnt/abc"
        "/var/lib/docker/aufs/mnt/abc-2" World.empty).1.1 =
      some ("Error: driver aufs is returning inconsistent paths for container abc " ++
        "('/var/lib/docker/aufs/mnt/abc' then '/var/lib/docker/aufs/mnt/abc-2')") ∧
    (mount Oracle.faultless aufsSetup runningAbc "/var/lib/docker/aufs/mnt/abc"
        "/var/lib/docker/aufs/mnt/abc-2" World.empty).2.mounts "abc" = 1 ∧
    (diff exportFault aufsSetup false runningAbc World.empty).1 = .err "export failed" ∧
    (diff exportFault aufsSetup false runningAbc World.empty).2.mounts "abc" = 1 := by
  decide

end DockerDaemon.Daemon
