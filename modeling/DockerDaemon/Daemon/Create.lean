/-
  DockerDaemon.Daemon.Create — how the daemon names a new container and lays
  out its files: `reserveName`, `generateNewName`, `generateIdAndName`,
  `newContainer` and `createRootfs` of daemon.go.
  ──────────────────────────────────────
  None of these undoes what it did before a later step failed: a name set in
  the graph stays when label generation fails, and the directory and the
  init layer stay when a later driver call fails.

  Main results:
    * `reserveName_graph`, `generateNewName_graph` — a failed call leaves
      the graph as it was; a successful one sets a name the graph did not
      know, or deletes the stale entry of the name and sets nothing.
    * `newContainer_names` — whatever `newContainer` returns, the graph is as
      it was when `generateIdAndName` failed, and as `generateIdAndName` left
      it (one name set, or its stale entry deleted) otherwise.
    * `createRootfs_error` — a failed `createRootfs` leaves at most the new
      directory and the init layer behind.
-/
import DockerDaemon.Daemon.Store

namespace DockerDaemon.Daemon

variable (o : Oracle)

/-! ## §1. Names. -/

/-- `validContainerNameChars`. -/
def validContainerNameChars : String := "[a-zA-Z0-9_.-]"

/-- A character of `validContainerNameChars`. -/
def validContainerNameChar (c : Char) : Bool :=
  c.isAlphanum || c = '_' || c = '.' || c = '-'

/-- `validContainerNamePattern.MatchString`, for `^/?[a-zA-Z0-9_.-]+$`. -/
def validContainerNamePattern (name : String) : Bool :=
  let rest := match name.toList with
    | '/' :: cs => cs
    | cs => cs
  !rest.isEmpty && rest.all validContainerNameChar

/-- `if name[0] != '/' { name = "/" + name }`. -/
def slashed (name : String) : String :=
  if name.toList.head? = some '/' then name else "/" ++ name

/-- Modelled from the spec: `utils.TruncateID`, "the 12-char truncated id". -/
def truncateID (id : String) : String := ⟨id.toList.take 12⟩

/-- `daemon.reserveName(id, name)`. -/
def reserveName (id name : String) (w : World) : Except String String × World :=
  if !validContainerNamePattern name then
    (.error ("Invalid container name (" ++ name ++ "), only " ++ validContainerNameChars ++
      " are allowed"), w)
  else
    let name := slashed name
    match graphSet o name id w with
    | (.ok (), w) => (.ok name, w)
    | (.error e, w) =>
      if e ≠ .nonUnique then (.error e.text, w)
      else
        match getByName name w with
        | .error msg =>
          if Go.contains msg "Could not find entity" then (.error msg, w)
          else
            -- Remove name and continue starting the container
            match graphDelete o name w with
            | (some msg, w) => (.error msg, w)
            | (none, w) => (.ok name, w)
        | .ok c =>
          -- `strings.TrimPrefix(name, "/")`, on a name that starts with one
          let nameAsKnownByUser : String := ⟨name.toList.drop 1⟩
          (.error ("Conflict, The name " ++ nameAsKnownByUser ++ " is already assigned to " ++
            truncateID c.id ++ ". You have to delete (or rename) that container to be able to assign " ++
            nameAsKnownByUser ++ " to a container again."), w)

/-- The loop of `generateNewName` with `left` random names still to try, then
the truncated ID. -/
def generateNewNameLoop (id : String) : (left : Nat) → World → Except String String × World
  | 0, w =>
    let name := "/" ++ truncateID id
    match graphSet o name id w with
    | (.error e, w) => (.error e.text, w)
    | (.ok (), w) => (.ok name, w)
  | k + 1, w =>
    let name := slashed (o.randomName w.clock)
    match graphSet o name id w.tick with
    | (.ok (), w) => (.ok name, w)
    | (.error .nonUnique, w) => generateNewNameLoop id k w
    | (.error e, w) => (.error e.text, w)

/-- `daemon.generateNewName(id)`: six random names, then the truncated ID. -/
def generateNewName (id : String) (w : World) : Except String String × World :=
  generateNewNameLoop o id 6 w

/-- `daemon.generateIdAndName(name)`. -/
def generateIdAndName (name : String) (w : World) : Except String (String × String) × World :=
  let id := o.randomID w.clock
  if name = "" then
    match generateNewName o id w.tick with
    | (.error e, w) => (.error e, w)
    | (.ok name, w) => (.ok (id, name), w)
  else
    match reserveName o id name w.tick with
    | (.error e, w) => (.error e, w)
    | (.ok name, w) => (.ok (id, name), w)

/-! ## §2. The graph after naming. -/

/-- The graph maps `name` to an ID the store does not hold, as a create that
failed after it reserved the name leaves it. -/
def Stale (w : World) (name : String) : Prop :=
  ∃ id, w.containerGraph.lookup name = some id ∧ w.containers id = none

@[simp] theorem stale_tick (w : World) (name : String) : Stale w.tick name ↔ Stale w name := Iff.rfl

/-- What a call does to the names of `w`: it keeps the store; it keeps the
graph when it fails; when it returns a `name`, which is never empty, it has
added the entry `(name, id)` for a name the graph did not know, or deleted
the stale entry of `name`. -/
def NamesGraph (id : String) (w : World) : Except String String × World → Prop
  | (.error _, w') => w'.containers = w.containers ∧ w'.containerGraph = w.containerGraph
  | (.ok name, w') => w'.containers = w.containers ∧ name ≠ "" ∧
    (w.containerGraph.lookup name = none ∧ w'.containerGraph = w.containerGraph ++ [(name, id)] ∨
      Stale w name ∧ w'.containerGraph = w.containerGraph.filter (·.1 ≠ name))

theorem NamesGraph.failed {id msg : String} {w w' : World} (hc : w'.containers = w.containers)
    (hg : w'.containerGraph = w.containerGraph) : NamesGraph id w (.error msg, w') := ⟨hc, hg⟩

theorem NamesGraph.added {id name : String} {w w' : World} (hc : w'.containers = w.containers)
    (hn : name ≠ "") (hl : w.containerGraph.lookup name = none)
    (hg : w'.containerGraph = w.containerGraph ++ [(name, id)]) : NamesGraph id w (.ok name, w') :=
  ⟨hc, hn, .inl ⟨hl, hg⟩⟩

theorem NamesGraph.deleted {id name : String} {w w' : World} (hc : w'.containers = w.containers)
    (hn : name ≠ "") (hst : Stale w name)
    (hg : w'.containerGraph = w.containerGraph.filter (·.1 ≠ name)) :
    NamesGraph id w (.ok name, w') :=
  ⟨hc, hn, .inr ⟨hst, hg⟩⟩

theorem slashed_ne_empty (name : String) : slashed name ≠ "" := by
  unfold slashed
  split
  · next h => rintro rfl; cases h
  · intro h
    cases congrArg String.length h

theorem getFullContainerName_slashed (name : String) :
    getFullContainerName (slashed name) = .ok (slashed name) := by
  have hhead : (slashed name).toList.head? = some '/' := by
    unfold slashed
    split
    · assumption
    · rfl
  unfold getFullContainerName
  rw [if_neg (slashed_ne_empty name), if_pos hhead]

/-- A `GetByName` of a slashed name that fails other than for a missing
entity met a stale entry. -/
theorem getByName_stale {name msg : String} {w : World}
    (h : getByName (slashed name) w = .error msg)
    (hmsg : Go.contains msg "Could not find entity" = false) : Stale w (slashed name) := by
  unfold getByName at h
  rw [getFullContainerName_slashed] at h
  dsimp only at h
  rcases hl : w.containerGraph.lookup (slashed name) with _ | id <;> rw [hl] at h <;> dsimp only at h
  · cases h
    rw [Go.contains_append (by decide)] at hmsg
    cases hmsg
  · rcases hc : w.containers id with _ | c <;> rw [hc] at h
    · exact ⟨id, hl, hc⟩
    · cases h

theorem generateNewNameLoop_graph (id : String) :
    ∀ (left : Nat) (w : World),
      NamesGraph id w (generateNewNameLoop o id left w)
  | 0, w => by
    unfold generateNewNameLoop
    dsimp only
    rcases graphSet_cases o ("/" ++ truncateID id) id w with ⟨msg, h⟩ | ⟨-, h⟩ | ⟨hl, h⟩ <;>
      rw [h]
    · exact .failed rfl rfl
    · exact .failed rfl rfl
    · exact .added rfl (fun h => nomatch congrArg String.length h) hl rfl
  | k + 1, w => by
    unfold generateNewNameLoop
    dsimp only
    rcases graphSet_cases o (slashed (o.randomName w.clock)) id w.tick with
      ⟨msg, h⟩ | ⟨-, h⟩ | ⟨hl, h⟩ <;> rw [h]
    · exact .failed rfl rfl
    · exact generateNewNameLoop_graph id k w.tick.tick
    · exact .added rfl (slashed_ne_empty _) hl rfl

theorem generateNewName_graph (id : String) (w : World) :
    NamesGraph id w (generateNewName o id w) :=
  generateNewNameLoop_graph o id 6 w

theorem reserveName_graph (id name : String) (w : World) :
    NamesGraph id w (reserveName o id name w) := by
  unfold reserveName
  split
  · exact ⟨rfl, rfl⟩
  · rcases graphSet_cases o (slashed name) id w with ⟨msg, h⟩ | ⟨-, h⟩ | ⟨hl, h⟩
    · simp [h, NamesGraph]
    · simp only [h, ne_eq, not_true_eq_false, if_false]
      split
      · next msg hget =>
        split
        · exact ⟨rfl, rfl⟩
        · next hmsg =>
          have hst : Stale w (slashed name) := getByName_stale hget (Bool.eq_false_iff.2 hmsg)
          rcases graphDelete_cases o (slashed name) w.tick with ⟨msg, hd⟩ | hd <;> rw [hd]
          · exact .failed rfl rfl
          · exact .deleted rfl (slashed_ne_empty _) hst rfl
      · exact ⟨rfl, rfl⟩
    · simp only [h]
      exact .added rfl (slashed_ne_empty _) hl rfl

theorem generateIdAndName_graph (name : String) (w : World) :
    (∀ e, (generateIdAndName o name w).1 = .error e →
      (generateIdAndName o name w).2.containerGraph = w.containerGraph) ∧
    (∀ id n, (generateIdAndName o name w).1 = .ok (id, n) →
      NamesGraph id w (.ok n, (generateIdAndName o name w).2)) := by
  unfold generateIdAndName
  dsimp only
  split
  · have hg := generateNewName_graph o (o.randomID w.clock) w.tick
    rcases hr : generateNewName o (o.randomID w.clock) w.tick with ⟨_ | n, w'⟩ <;>
      rw [hr] at hg <;> dsimp only
    · exact ⟨fun _ _ => hg.2, fun _ _ h => nomatch h⟩
    · exact ⟨fun _ h => (nomatch h), fun _ _ h => by cases h; exact hg⟩
  · have hg := reserveName_graph o (o.randomID w.clock) name w.tick
    rcases hr : reserveName o (o.randomID w.clock) name w.tick with ⟨_ | n, w'⟩ <;>
      rw [hr] at hg <;> dsimp only
    · exact ⟨fun _ _ => hg.2, fun _ _ h => nomatch h⟩
    · exact ⟨fun _ h => (nomatch h), fun _ _ h => by cases h; exact hg⟩

theorem NamesGraph.containers {id : String} {w : World} {r : Except String String × World}
    (h : NamesGraph id w r) : r.2.containers = w.containers := by
  rcases r with ⟨_ | _, w'⟩ <;> exact h.1

@[simp] theorem generateNewName_containers (id : String) (w : World) :
    (generateNewName o id w).2.containers = w.containers :=
  (generateNewName_graph o id w).containers

@[simp] theorem generateIdAndName_containers (name : String) (w : World) :
    (generateIdAndName o name w).2.containers = w.containers := by
  unfold generateIdAndName
  dsimp only
  split
  · rcases hr : generateNewName o (o.randomID w.clock) w.tick with ⟨_ | _, w'⟩ <;>
      exact containers_of_eq hr (generateNewName_containers o _ _)
  · rcases hr : reserveName o (o.randomID w.clock) name w.tick with ⟨_ | _, w'⟩ <;>
      exact containers_of_eq hr (reserveName_graph o _ name _).containers

/-! ## §3. `newContainer` and `createRootfs`. -/

/-- `generateHostname`: `id[:12]` when the config names no host; `none` is
the panic of that slice on an ID shorter than twelve. -/
def generateHostname (id : String) (config : Config) : Option Config :=
  if config.hostname = "" then
    if id.length < 12 then none else some { config with hostname := ⟨id.toList.take 12⟩ }
  else some config

/-- `getEntrypointAndArgs`: `none` is the panic of `config.Cmd[0]` on an empty command. -/
def getEntrypointAndArgs (config : Config) : Option (String × List String) :=
  match config.entrypoint, config.cmd with
  | entrypoint :: rest, cmd => some (entrypoint, rest ++ cmd)
  | [], c :: rest => some (c, rest)
  | [], [] => none

/-- `daemon.newContainer(name, config, img)`, given the image's ID.  The call
to `label.GenLabels` may fail. -/
def newContainer (s : Setup) (name : String) (config : Config) (image : String) (w : World) :
    Go.Result Container × World :=
  match generateIdAndName o name w with
  | (.error e, w) => (.err e, w)
  | (.ok (id, name), w) =>
    match generateHostname id config with
    | none => (.panic Go.sliceOutOfRange, w)
    | some config =>
      match getEntrypointAndArgs config with
      | none => (.panic Go.indexOutOfRange, w)
      | some (entrypoint, args) =>
        match attempt o (fun w => w) w with
        | (some msg, w) => (.err msg, w)
        | (none, w) =>
          (.ok { id, name, path := entrypoint, args, config, hostConfig := ⟨none, ""⟩, image,
                 driver := s.driver, execDriver := s.execDriver, state := State.new,
                 root := containerRoot s id, registered := false }, w)

/-- `os.Mkdir(container.root, 0700)`, for the container's directory in the
repository: it fails when the directory exists. -/
def mkdir (c : Container) (w : World) : Option String × World :=
  if c.id ∈ w.dirs then (some ("mkdir " ++ c.root ++ ": file exists"), w.tick)
  else attempt o (fun w => { w with dirs := c.id :: w.dirs }) w

/-- `daemon.createRootfs(container, img)`, given the image's ID.  The call to
`graph.SetupInitLayer` may fail. -/
def createRootfs (c : Container) (image : String) (w : World) : Option String × World :=
  match mkdir o c w with
  | (some e, w) => (some e, w)
  | (none, w) =>
    let initID := c.id ++ "-init"
    match driverCreate o initID image w with
    | (some e, w) => (some e, w)
    | (none, w) =>
      match driverGet o initID w with
      | (some e, w) => (some e, w)
      | (none, w) =>
        -- `defer daemon.driver.Put(initID)`
        match attempt o (fun w => w) w with
        | (some e, w) => (some e, driverPut initID w)
        | (none, w) =>
          match driverCreate o c.id initID w with
          | (some e, w) => (some e, driverPut initID w)
          | (none, w) => (none, driverPut initID w)

/-! ## §4. What a failed call leaves behind. -/

/-- What `newContainer` does to the names: nothing when `generateIdAndName`
fails, and what `generateIdAndName` did otherwise, whatever it returns. -/
theorem newContainer_names (s : Setup) (name : String) (config : Config) (image : String)
    (w : World) :
    (∀ e, (generateIdAndName o name w).1 = .error e →
      (newContainer o s name config image w).2.containerGraph = w.containerGraph) ∧
    (∀ id n, (generateIdAndName o name w).1 = .ok (id, n) →
      NamesGraph id w (.ok n, (newContainer o s name config image w).2)) := by
  obtain ⟨herr, hok⟩ := generateIdAndName_graph o name w
  unfold newContainer
  rcases hg : generateIdAndName o name w with ⟨e | ⟨id, n⟩, w1⟩ <;> rw [hg] at herr hok
  · exact ⟨fun e' _ => herr e rfl, fun _ _ h => nomatch h⟩
  refine ⟨fun _ h => (nomatch h), fun id' n' h => ?_⟩
  cases h
  have hw1 := hok id n rfl
  dsimp only
  split
  · exact hw1
  split
  · exact hw1
  rcases attempt_cases o (fun w => w) w1 with ⟨msg, h⟩ | h <;> rw [h] <;> exact hw1

/-- A container `newContainer` returns carries the ID and the name
`generateIdAndName` gave it, and a new state. -/
theorem newContainer_ok {s : Setup} {name : String} {config : Config} {image : String}
    {w : World} {c : Container} (h : (newContainer o s name config image w).1 = .ok c) :
    (generateIdAndName o name w).1 = .ok (c.id, c.name) ∧ c.state = State.new := by
  unfold newContainer at h
  rcases hg : generateIdAndName o name w with ⟨e | ⟨id, n⟩, w1⟩ <;> rw [hg] at h
  · cases h
  dsimp only at h
  split at h
  · cases h
  split at h
  · cases h
  rcases attempt_cases o (fun w => w) w1 with ⟨msg, ha⟩ | ha <;> rw [ha] at h
  · cases h
  · cases h
    exact ⟨rfl, rfl⟩

theorem mkdir_frame {c : Container} {w w' : World} {r : Option String} (h : mkdir o c w = (r, w')) :
    w'.containers = w.containers ∧ w'.containerGraph = w.containerGraph ∧ w'.layers = w.layers ∧
      w'.dirs = if r = none then c.id :: w.dirs else w.dirs := by
  unfold mkdir attempt at h
  split at h
  · cases h; simp
  · split at h <;> cases h <;> simp

theorem driverCreate_frame {id p : String} {w w' : World} {r : Option String}
    (h : driverCreate o id p w = (r, w')) :
    w'.containers = w.containers ∧ w'.containerGraph = w.containerGraph ∧ w'.dirs = w.dirs ∧
      w'.layers = if r = none then (id, p) :: w.layers else w.layers := by
  unfold driverCreate attempt at h
  split at h <;> cases h <;> simp

theorem driverGet_frame {id : String} {w w' : World} {r : Option String}
    (h : driverGet o id w = (r, w')) :
    w'.containers = w.containers ∧ w'.containerGraph = w.containerGraph ∧ w'.dirs = w.dirs ∧
      w'.layers = w.layers := by
  unfold driverGet attempt at h
  split at h <;> cases h <;> simp

theorem attempt_self {w w' : World} {r : Option String} (h : attempt o (fun w => w) w = (r, w')) :
    w' = w.tick := by
  unfold attempt at h
  split at h <;> cases h <;> rfl

@[simp] theorem driverPut_dirs (id : String) (w : World) : (driverPut id w).dirs = w.dirs := rfl
@[simp] theorem driverPut_layers (id : String) (w : World) : (driverPut id w).layers = w.layers := rfl

/-- What `createRootfs` leaves: the store and the graph as they were, and when
it fails, the directories as they were or with the container's own, and the
layers as they were or with the init layer. -/
theorem createRootfs_frame (c : Container) (image : String) (w : World) :
    (createRootfs o c image w).2.containers = w.containers ∧
    (createRootfs o c image w).2.containerGraph = w.containerGraph ∧
    ((createRootfs o c image w).1.isSome →
      ((createRootfs o c image w).2.dirs = w.dirs ∨
        (createRootfs o c image w).2.dirs = c.id :: w.dirs) ∧
      ((createRootfs o c image w).2.layers = w.layers ∨
        (createRootfs o c image w).2.layers = (c.id ++ "-init", image) :: w.layers)) := by
  unfold createRootfs
  rcases h1 : mkdir o c w with ⟨r1, w1⟩
  obtain ⟨c1, g1, l1, d1⟩ := mkdir_frame o h1
  rcases r1 with _ | e1
  case some => simp_all
  dsimp only
  rcases h2 : driverCreate o (c.id ++ "-init") image w1 with ⟨r2, w2⟩
  obtain ⟨c2, g2, d2, l2⟩ := driverCreate_frame o h2
  rcases r2 with _ | e2
  case some => simp_all
  dsimp only
  rcases h3 : driverGet o (c.id ++ "-init") w2 with ⟨r3, w3⟩
  obtain ⟨c3, g3, d3, l3⟩ := driverGet_frame o h3
  rcases r3 with _ | e3
  case some => simp_all
  dsimp only
  rcases h4 : attempt o (fun w => w) w3 with ⟨r4, w4⟩
  obtain rfl := attempt_self o h4
  rcases r4 with _ | e4
  case some => simp_all
  dsimp only
  rcases h5 : driverCreate o c.id (c.id ++ "-init") w3.tick with ⟨r5, w5⟩
  obtain ⟨c5, g5, d5, l5⟩ := driverCreate_frame o h5
  rcases r5 with _ | e5 <;> simp_all

/-- A failed `createRootfs` leaves the directories as they were or with the
container's own, and the layers as they were or with the init layer. -/
theorem createRootfs_error (c : Container) (image : String) (w : World) {msg : String}
    (h : (createRootfs o c image w).1 = some msg) :
    ((createRootfs o c image w).2.dirs = w.dirs ∨ (createRootfs o c image w).2.dirs = c.id :: w.dirs) ∧
    ((createRootfs o c image w).2.layers = w.layers ∨
      (createRootfs o c image w).2.layers = (c.id ++ "-init", image) :: w.layers) :=
  (createRootfs_frame o c image w).2.2 (by simp [h])

/-- A failed `newContainer` leaves the graph as it was when `generateIdAndName`
failed, and as `generateIdAndName` left it when a later step failed: the new
name appended, or its stale entry deleted.  A failed `createRootfs` leaves at
most the container's directory and its init layer behind. -/
theorem failed_create_leftovers (s : Setup) (name : String) (config : Config) (image : String)
    (c : Container) (w : World) :
    (∀ msg, (newContainer o s name config image w).1 = .err msg →
      (∀ e, (generateIdAndName o name w).1 = .error e →
        (newContainer o s name config image w).2.containerGraph = w.containerGraph) ∧
      ∀ id n, (generateIdAndName o name w).1 = .ok (id, n) →
        (w.containerGraph.lookup n = none ∧
          (newContainer o s name config image w).2.containerGraph = w.containerGraph ++ [(n, id)]) ∨
        (Stale w n ∧ (newContainer o s name config image w).2.containerGraph =
          w.containerGraph.filter (·.1 ≠ n))) ∧
    (∀ msg, (createRootfs o c image w).1 = some msg →
      ((createRootfs o c image w).2.dirs = w.dirs ∨
          (createRootfs o c image w).2.dirs = c.id :: w.dirs) ∧
        ((createRootfs o c image w).2.layers = w.layers ∨
          (createRootfs o c image w).2.layers = (c.id ++ "-init", image) :: w.layers)) :=
  ⟨fun _ _ => ⟨(newContainer_names o s name config image w).1,
      fun id n h => ((newContainer_names o s name config image w).2 id n h).2.2⟩,
    fun _ h => createRootfs_error o c image w h⟩

/-- Label generation failing after the name `/foo` was set leaves it in the
graph; the init layer's creation failing after `Mkdir` leaves the directory. -/
theorem failed_create_keeps_name_and_dir :
    (newContainer ⟨fun _ => "", fun _ => "4fa6e0f0c678", fun t => if t = 2 then some "label" else none,
        fun _ => false⟩ ⟨"/var/lib/docker/containers", "aufs", "native-0.2", false, fun _ => none⟩
        "foo" ⟨"", [], ["sh"]⟩ "img" World.empty).1 = .err "label" ∧
    (newContainer ⟨fun _ => "", fun _ => "4fa6e0f0c678", fun t => if t = 2 then some "label" else none,
        fun _ => false⟩ ⟨"/var/lib/docker/containers", "aufs", "native-0.2", false, fun _ => none⟩
        "foo" ⟨"", [], ["sh"]⟩ "img" World.empty).2.containerGraph = [("/foo", "4fa6e0f0c678")] ∧
    (createRootfs ⟨fun _ => "", fun _ => "", fun t => if t = 1 then some "driver" else none,
        fun _ => false⟩ ⟨"abc", "/foo", "sh", [], ⟨"abc", [], ["sh"]⟩, ⟨none, ""⟩, "img", "aufs",
          "native-0.2", State.new, "/var/lib/docker/containers/abc", false⟩ "img" World.empty).1 = some "driver" ∧
    (createRootfs ⟨fun _ => "", fun _ => "", fun t => if t = 1 then some "driver" else none,
        fun _ => false⟩ ⟨"abc", "/foo", "sh", [], ⟨"abc", [], ["sh"]⟩, ⟨none, ""⟩, "img", "aufs",
          "native-0.2", State.new, "/var/lib/docker/containers/abc", false⟩ "img" World.empty).2.dirs = ["abc"] := by
  decide

/-! ## §5. The store. -/

@[simp] theorem newContainer_containers (s : Setup) (name : String) (config : Config)
    (image : String) (w : World) :
    (newContainer o s name config image w).2.containers = w.containers := by
  unfold newContainer
  rcases hg : generateIdAndName o name w with ⟨_ | ⟨id, n⟩, w1⟩
  · exact containers_of_eq hg (generateIdAndName_containers o name w)
  have h1 := containers_of_eq hg (generateIdAndName_containers o name w)
  dsimp only
  split
  · exact h1
  split
  · exact h1
  rcases attempt_cases o (fun w => w) w1 with ⟨msg, ha⟩ | ha <;> simp [ha, h1]

theorem mkdir_mounts {c : Container} {w w' : World} {r : Option String} (h : mkdir o c w = (r, w')) :
    w'.mounts = w.mounts := by
  unfold mkdir attempt at h
  split at h
  · cases h; rfl
  · split at h <;> cases h <;> rfl

theorem driverCreate_mounts {id p : String} {w w' : World} {r : Option String}
    (h : driverCreate o id p w = (r, w')) : w'.mounts = w.mounts := by
  unfold driverCreate attempt at h
  split at h <;> cases h <;> rfl

/-- `createRootfs` puts back the init layer it gets, on every path: every
count of `Get` minus `Put` is as it was. -/
theorem createRootfs_mounts (c : Container) (image : String) (w : World) :
    (createRootfs o c image w).2.mounts = w.mounts := by
  unfold createRootfs
  rcases h1 : mkdir o c w with ⟨_ | e1, w1⟩
  case some => exact mkdir_mounts o h1
  dsimp only
  rcases h2 : driverCreate o (c.id ++ "-init") image w1 with ⟨_ | e2, w2⟩
  case some => exact (driverCreate_mounts o h2).trans (mkdir_mounts o h1)
  have m2 : w2.mounts = w.mounts := (driverCreate_mounts o h2).trans (mkdir_mounts o h1)
  dsimp only
  rcases h3 : driverGet o (c.id ++ "-init") w2 with ⟨_ | e3, w3⟩
  case some => exact (driverGet_error_mounts h3).trans m2
  dsimp only
  have back : ∀ {w5 : World}, w5.mounts = w3.mounts →
      (driverPut (c.id ++ "-init") w5).mounts = w.mounts :=
    fun hm => (driverPut_after_get h3 hm).trans m2
  rcases h4 : attempt o (fun w => w) w3 with ⟨_ | e4, w4⟩
  all_goals obtain rfl := attempt_self o h4; dsimp only
  · rcases h5 : driverCreate o c.id (c.id ++ "-init") w3.tick with ⟨_ | e5, w5⟩ <;>
      exact back ((driverCreate_mounts o h5).trans (World.tick_mounts w3))
  · exact back rfl

@[simp] theorem createRootfs_containers (c : Container) (image : String) (w : World) :
    (createRootfs o c image w).2.containers = w.containers :=
  (createRootfs_frame o c image w).1

@[simp] theorem createRootfs_containerGraph (c : Container) (image : String) (w : World) :
    (createRootfs o c image w).2.containerGraph = w.containerGraph :=
  (createRootfs_frame o c image w).2.1

end DockerDaemon.Daemon
