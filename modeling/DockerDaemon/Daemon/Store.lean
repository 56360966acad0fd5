/-
  DockerDaemon.Daemon.Store — the daemon's world: its containers, its ID
  index and name graph, the container repository on disk and the storage
  driver's layers, and the lookups by ID and by name of daemon.go.
  ──────────────────────────────────────
  Everything the daemon asks the outside world (a database write, a disk
  write, a random name, whether a process is alive) is answered by an
  `Oracle` stream, read at the world's `clock`, which every such call
  advances.  A theorem over every oracle is a theorem over every pattern
  of answers and failures.

  The name graph (`graphdb`), the ID index (`truncindex`) and the container
  files (`FromDisk`, `ToDisk`) are not among the sources: they are modelled
  from the spec (§4.B, §4.C, §6).
-/
import DockerDaemon.Go.Path

namespace DockerDaemon.Daemon

/-! ## §1. Containers. -/

/-- `State`: whether the container runs, its process, its last exit code. -/
structure State where
  running : Bool
  pid : Nat
  exitCode : Int
  deriving DecidableEq, Repr

/-- Modelled from the spec: `NewState()`, a container that has not run. -/
def State.new : State := ⟨false, 0, 0⟩

/-- Modelled from the spec: `State.SetStopped(exitCode)`, which "marks Stopped
with exit code". -/
def State.setStopped (exitCode : Int) : State := ⟨false, 0, exitCode⟩

/-- `runconfig.Config`: the fields `newContainer` reads and writes. -/
structure Config where
  hostname : String
  entrypoint : List String
  cmd : List String
  deriving DecidableEq, Repr

/-- `runconfig.HostConfig`: the fields the daemon reads. -/
structure HostConfig where
  /-- `Links`; `none` is a nil slice. -/
  links : Option (List String)
  /-- `RestartPolicy.Name`. -/
  restartPolicy : String
  deriving DecidableEq, Repr

/-- `Container`: the fields the daemon reads and writes. -/
structure Container where
  id : String
  name : String
  path : String
  args : List String
  config : Config
  hostConfig : HostConfig
  image : String
  driver : String
  execDriver : String
  state : State
  root : String
  /-- Whether `container.daemon` is set. -/
  registered : Bool
  deriving DecidableEq, Repr

/-- `container.Name = name`. -/
def Container.withName (c : Container) (name : String) : Container := { c with name }

/-- The container with its state set to `st`. -/
def Container.withState (c : Container) (st : State) : Container := { c with state := st }

/-- `container.daemon = daemon`. -/
def Container.withDaemon (c : Container) : Container := { c with registered := true }

@[simp] theorem Container.withName_id (c : Container) (n : String) : (c.withName n).id = c.id := rfl
@[simp] theorem Container.withName_name (c : Container) (n : String) : (c.withName n).name = n := rfl
@[simp] theorem Container.withName_state (c : Container) (n : String) :
    (c.withName n).state = c.state := rfl
@[simp] theorem Container.withName_registered (c : Container) (n : String) :
    (c.withName n).registered = c.registered := rfl
@[simp] theorem Container.withState_id (c : Container) (st : State) : (c.withState st).id = c.id := rfl
@[simp] theorem Container.withState_state (c : Container) (st : State) :
    (c.withState st).state = st := rfl
@[simp] theorem Container.withState_withState (c : Container) (st st' : State) :
    (c.withState st).withState st' = c.withState st' := rfl
@[simp] theorem Container.withDaemon_id (c : Container) : c.withDaemon.id = c.id := rfl
@[simp] theorem Container.withDaemon_state (c : Container) : c.withDaemon.state = c.state := rfl

/-! ## §2. The world and its oracle. -/

/-- Modelled from the spec: the name graph, its (path, container ID) entries
in the order a walk yields them. -/
abbrev Graph := List (String × String)

/-- The daemon's memory and what it shares with the outside. -/
structure World where
  /-- `daemon.containers`. -/
  containers : String → Option Container
  /-- `daemon.idIndex`. -/
  idIndex : List String
  /-- `daemon.containerGraph`. -/
  containerGraph : Graph
  /-- The directories of the container repository. -/
  dirs : List String
  /-- Modelled from the spec: what each directory's files hold, as
  `FromDisk` reads them (`none` when they do not parse). -/
  disk : String → Option Container
  /-- The storage driver's layers, each with its parent. -/
  layers : List (String × String)
  /-- The storage driver's `Get` calls minus its `Put` calls, by layer. -/
  mounts : String → Int
  /-- How many calls to the outside have been made. -/
  clock : Nat

/-- The answers of the outside, by the `clock` of the call. -/
structure Oracle where
  /-- `namesgenerator.GetRandomName`. -/
  randomName : Nat → String
  /-- `utils.GenerateRandomID`. -/
  randomID : Nat → String
  /-- The error a write or a driver call fails with, if it fails. -/
  fault : Nat → Option String
  /-- `execDriver.Info(id).IsRunning()`. -/
  alive : Nat → Bool

/-- The outside answering every call without a fault, no process alive. -/
def Oracle.faultless : Oracle := ⟨fun _ => "", fun _ => "", fun _ => none, fun _ => false⟩

/-- What `NewDaemonFromDirectory` fixes for a run, and `validateID` (not among
the sources), which `register` calls. -/
structure Setup where
  repository : String
  /-- `daemon.driver.String()`. -/
  driver : String
  /-- `daemon.execDriver.Name()`. -/
  execDriver : String
  /-- `config.AutoRestart`. -/
  autoRestart : Bool
  validateID : String → Option String

/-- A daemon with no containers, names, files or layers. -/
def World.empty : World := ⟨fun _ => none, [], [], [], fun _ => none, [], fun _ => 0, 0⟩

/-- One more call to the outside. -/
def World.tick (w : World) : World := { w with clock := w.clock + 1 }

@[simp] theorem World.tick_containerGraph (w : World) : w.tick.containerGraph = w.containerGraph := rfl
@[simp] theorem World.tick_containers (w : World) : w.tick.containers = w.containers := rfl
@[simp] theorem World.tick_idIndex (w : World) : w.tick.idIndex = w.idIndex := rfl
@[simp] theorem World.tick_dirs (w : World) : w.tick.dirs = w.dirs := rfl
@[simp] theorem World.tick_disk (w : World) : w.tick.disk = w.disk := rfl
@[simp] theorem World.tick_layers (w : World) : w.tick.layers = w.layers := rfl
@[simp] theorem World.tick_mounts (w : World) : w.tick.mounts = w.mounts := rfl

variable (o : Oracle)

/-! ## §3. The name graph and the container files. -/

/-- The errors of the name graph's `Set`. -/
inductive GraphError where
  /-- `graphdb.IsNonUniqueNameError`: the path exists. -/
  | nonUnique
  | other (msg : String)
  deriving DecidableEq, Repr

/-- `err.Error()`. -/
def GraphError.text : GraphError → String
  | .nonUnique => "name is not unique"
  | .other msg => msg

/-- Modelled from the spec: `containerGraph.Set(path, id)`, "failing with
NonUniqueName if path exists". -/
def graphSet (path id : String) (w : World) : Except GraphError Unit × World :=
  match o.fault w.clock with
  | some msg => (.error (.other msg), w.tick)
  | none =>
    if (w.containerGraph.lookup path).isSome then (.error .nonUnique, w.tick)
    else (.ok (), { w.tick with containerGraph := w.containerGraph ++ [(path, id)] })

/-- A call to the outside that returns only an `error`: it fails with the
oracle's fault, or succeeds and does `effect`. -/
def attempt (effect : World → World) (w : World) : Option String × World :=
  match o.fault w.clock with
  | some msg => (some msg, w.tick)
  | none => (none, effect w.tick)

/-- Everything an `attempt` can do. -/
theorem attempt_cases (effect : World → World) (w : World) :
    (∃ msg, attempt o effect w = (some msg, w.tick)) ∨ attempt o effect w = (none, effect w.tick) := by
  unfold attempt
  cases o.fault w.clock with
  | some msg => exact .inl ⟨msg, rfl⟩
  | none => exact .inr rfl

/-- An `attempt` whose effect keeps the store keeps it. -/
theorem attempt_containers {f : World → World} (hf : ∀ w, (f w).containers = w.containers)
    (w : World) : (attempt o f w).2.containers = w.containers := by
  rcases attempt_cases o f w with ⟨msg, h⟩ | h <;> simp [h, hf]

/-- The store after a call, read off the call's result. -/
theorem containers_of_eq {α : Type} {p : α × World} {a : α} {w w' : World} (h : p = (a, w'))
    (hp : p.2.containers = w.containers) : w'.containers = w.containers := by
  subst h
  exact hp

/-- Modelled from the spec: `containerGraph.Delete(path)`. -/
def graphDelete (path : String) : World → Option String × World :=
  attempt o fun w => { w with containerGraph := w.containerGraph.filter (·.1 ≠ path) }

/-- Modelled from the spec: the storage driver's `Create(id, parent)`, a new layer. -/
def driverCreate (id parent : String) : World → Option String × World :=
  attempt o fun w => { w with layers := (id, parent) :: w.layers }

/-- Modelled from the spec: the storage driver's `Get(id, mountLabel)`, which
mounts the layer. -/
def driverGet (id : String) : World → Option String × World :=
  attempt o fun w => { w with mounts := fun l => if l = id then w.mounts l + 1 else w.mounts l }

/-- Modelled from the spec: the storage driver's `Put(id)`, which releases one `Get`. -/
def driverPut (id : String) (w : World) : World :=
  { w.tick with mounts := fun l => if l = id then w.mounts l - 1 else w.mounts l }

/-- The counts `m` with layer `id`'s one higher: what a successful `Get(id)`
leaves. -/
def oneMore (id : String) (m : String → Int) : String → Int :=
  fun l => if l = id then m l + 1 else m l

section Mounts

variable {o} {id : String} {w w' : World}

/-- A failed `Get` leaves every count as it was. -/
theorem driverGet_error_mounts {e : String} (h : driverGet o id w = (some e, w')) :
    w'.mounts = w.mounts := by
  unfold driverGet attempt at h
  split at h <;> cases h
  rfl

/-- A successful `Get` raises its layer's count by one. -/
theorem driverGet_ok_mounts (h : driverGet o id w = (none, w')) : w'.mounts = oneMore id w.mounts := by
  unfold driverGet attempt at h
  split at h <;> cases h
  rfl

/-- `Put(id)` on counts that a successful `Get(id)` left, untouched since,
brings them back. -/
theorem driverPut_after_get (h : driverGet o id w = (none, w')) {w'' : World}
    (hm : w''.mounts = w'.mounts) : (driverPut id w'').mounts = w.mounts := by
  funext l
  simp only [driverPut, World.tick_mounts, hm, driverGet_ok_mounts h, oneMore]
  split <;> simp_all

end Mounts

theorem graphDelete_cases (path : String) (w : World) :
    (∃ msg, graphDelete o path w = (some msg, w.tick)) ∨
    graphDelete o path w =
      (none, { w.tick with containerGraph := w.containerGraph.filter (·.1 ≠ path) }) :=
  attempt_cases o _ w

/-- Modelled from the spec: `container.ToDisk()`, which persists the container
under its directory. -/
def toDisk (c : Container) : World → Option String × World :=
  attempt o fun w => { w with disk := fun d => if d = c.id then some c else w.disk d }

@[simp] theorem graphDelete_containers (path : String) (w : World) :
    (graphDelete o path w).2.containers = w.containers := by
  unfold graphDelete
  exact attempt_containers o (by intros; rfl) w

@[simp] theorem driverCreate_containers (id parent : String) (w : World) :
    (driverCreate o id parent w).2.containers = w.containers := by
  unfold driverCreate
  exact attempt_containers o (by intros; rfl) w

@[simp] theorem driverGet_containers (id : String) (w : World) :
    (driverGet o id w).2.containers = w.containers := by
  unfold driverGet
  exact attempt_containers o (by intros; rfl) w

@[simp] theorem driverPut_containers (id : String) (w : World) :
    (driverPut id w).containers = w.containers := rfl

@[simp] theorem driverPut_containerGraph (id : String) (w : World) :
    (driverPut id w).containerGraph = w.containerGraph := rfl

@[simp] theorem toDisk_containerGraph (c : Container) (w : World) :
    (toDisk o c w).2.containerGraph = w.containerGraph := by
  unfold toDisk
  rcases attempt_cases o (fun w => { w with disk := fun d => if d = c.id then some c else w.disk d })
    w with ⟨msg, h⟩ | h <;> rw [h] <;> rfl

@[simp] theorem toDisk_containers (c : Container) (w : World) :
    (toDisk o c w).2.containers = w.containers := by
  unfold toDisk
  exact attempt_containers o (by intros; rfl) w

/-- Everything `Set` can do: fail on the database, fail on an existing path,
or add the entry. -/
theorem graphSet_cases (path id : String) (w : World) :
    (∃ msg, graphSet o path id w = (.error (.other msg), w.tick)) ∨
    ((w.containerGraph.lookup path).isSome ∧ graphSet o path id w = (.error .nonUnique, w.tick)) ∨
    (w.containerGraph.lookup path = none ∧
      graphSet o path id w = (.ok (), { w.tick with containerGraph := w.containerGraph ++ [(path, id)] })) := by
  unfold graphSet
  cases o.fault w.clock with
  | some msg => exact .inl ⟨msg, rfl⟩
  | none =>
    cases h : w.containerGraph.lookup path
    · exact .inr (.inr ⟨rfl, rfl⟩)
    · exact .inr (.inl ⟨rfl, rfl⟩)

@[simp] theorem graphSet_containers (path id : String) (w : World) :
    (graphSet o path id w).2.containers = w.containers := by
  rcases graphSet_cases o path id w with ⟨msg, h⟩ | ⟨-, h⟩ | ⟨-, h⟩ <;> simp [h]

/-- A failed `Set` leaves the graph as it was. -/
theorem graphSet_error_graph {path id : String} {w : World} {e : GraphError} {w' : World}
    (h : graphSet o path id w = (.error e, w')) : w'.containerGraph = w.containerGraph := by
  rcases graphSet_cases o path id w with ⟨msg, h'⟩ | ⟨-, h'⟩ | ⟨-, h'⟩ <;> rw [h'] at h <;> cases h
  all_goals rfl

/-- A successful `Set` adds its entry. -/
theorem graphSet_ok_graph {path id : String} {w : World} {w' : World}
    (h : graphSet o path id w = (.ok (), w')) :
    w'.containerGraph = w.containerGraph ++ [(path, id)] := by
  rcases graphSet_cases o path id w with ⟨msg, h'⟩ | ⟨-, h'⟩ | ⟨-, h'⟩ <;> rw [h'] at h <;> cases h
  rfl

/-! ## §4. Lookups by name and by ID. -/

/-- `GetFullContainerName`. -/
def getFullContainerName (name : String) : Except String String :=
  if name = "" then .error "Container name cannot be empty"
  else if name.toList.head? = some '/' then .ok name
  else .ok ("/" ++ name)

/-- `daemon.GetByName(name)`. -/
def getByName (name : String) (w : World) : Except String Container :=
  match getFullContainerName name with
  | .error e => .error e
  | .ok fullName =>
    match w.containerGraph.lookup fullName with
    | none => .error ("Could not find entity for " ++ name)
    | some id =>
      match w.containers id with
      | none => .error ("Could not find container for entity id " ++ id)
      | some c => .ok c

/-- Modelled from the spec: the ID index's lookup by prefix, which "resolves
only if the prefix is unique". -/
def idIndexGet (idx : List String) (s : String) : Option String :=
  match idx.filter (fun id => s.toList.isPrefixOf id.toList) with
  | [id] => some id
  | _ => none

/-- `daemon.Get(name)`: by a unique ID prefix, else by name. -/
def get (name : String) (w : World) : Option Container :=
  match idIndexGet w.idIndex name with
  | some id => w.containers id
  | none =>
    match getByName name w with
    | .ok c => some c
    | .error _ => none

/-- `daemon.Exists(id)`. -/
def «exists» (id : String) (w : World) : Bool := (get id w).isSome

/-- `daemon.containerRoot(id)`. -/
def containerRoot (s : Setup) (id : String) : String := Go.join [s.repository, id]

/-- `GetByName` finds a container only through the graph entry of its full name. -/
theorem getByName_ok {name : String} {w : World} {c : Container} (h : getByName name w = .ok c) :
    ∃ fullName id, getFullContainerName name = .ok fullName ∧
      w.containerGraph.lookup fullName = some id ∧ w.containers id = some c := by
  unfold getByName at h
  split at h
  · cases h
  · next fullName hf =>
    split at h
    · cases h
    · next id hid =>
      split at h
      · cases h
      · next hc => cases h; exact ⟨fullName, id, hf, hid, hc⟩

end DockerDaemon.Daemon
