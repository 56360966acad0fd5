/-
  DockerDaemon.Daemon.Lifecycle — the daemon over a whole run: containers
  created, links registered, and the daemon restarted, one event after
  another.
  ──────────────────────────────────────
  `create` is the job behind `docker create`.  Its file, create.go, is not
  part of the source, so its steps follow the spec: verify the config, build
  the container with `newContainer`, lay out its files with `createRootfs`,
  save it and `Register` it, the first error ending it with nothing undone.
  A restart loses the daemon's memory and runs `restore` on what the disk
  and the name graph hold.  What a create can do is said once, in
  `create_cases`, and the invariants below are derived from it.

  Main results:
    * `Event.runAll_noneRunning` — along every run from a daemon that holds
      no container recorded as running, none is: creates store new
      containers and a restart's `register` stops the old ones.
    * `names_consistent_step` — while the name graph maps every stored
      container's Name to its ID (so no two share a Name), `RegisterLinks`
      keeps it so, and so does every create but one that succeeds on a stale
      name: its container is stored under a name the graph no longer has.
    * `names_sound_while_creates_succeed` — along every run from an empty
      daemon in which each create returns its container and the daemon
      never restarts, the graph maps every stored container's Name to its
      ID and no name to an ID the store lacks.
    * `stale_name_reused` — a create whose name meets the stale entry that
      a failed create left behind deletes the entry and registers its
      container under the name without setting it again; a third create
      then takes the same name.
-/
import DockerDaemon.Daemon.Links
import DockerDaemon.Daemon.Restore

namespace DockerDaemon.Daemon

variable (o : Oracle)

/-! ## §1. Create. -/

/-- `daemon.mergeAndVerifyConfig`, after the merge with the image's config
(images are not modelled): a container needs a command. -/
def mergeAndVerifyConfig (config : Config) : Except String Unit :=
  if config.entrypoint.isEmpty && config.cmd.isEmpty then .error "No command specified" else .ok ()

/-- Modelled from the spec: `daemon.Create(config, name)`, which "validates
entrypoint+cmd non-empty, generates id+name, writes root dir, creates init
layer ... and container layer parented on init, writes configs", then
registers the container. -/
def create (s : Setup) (name : String) (config : Config) (image : String) (w : World) :
    Go.Result Container × World :=
  match mergeAndVerifyConfig config with
  | .error e => (.err e, w)
  | .ok () =>
    match newContainer o s name config image w with
    | (.err e, w) => (.err e, w)
    | (.panic e, w) => (.panic e, w)
    | (.ok c, w) =>
      match createRootfs o c image w with
      | (some e, w) => (.err e, w)
      | (none, w) =>
        match toDisk o c w with
        | (some e, w) => (.err e, w)
        | (none, w) =>
          match register o s c w with
          | (some e, _, w) => (.err e, w)
          | (none, c, w) => (.ok c, w)

/-- Everything `create` can do: reject the config; stop at an error or a panic
with the store and the graph as `newContainer` left them; or register the
container `newContainer` built, in a world with that store and graph. -/
theorem create_cases (s : Setup) (name : String) (config : Config) (image : String) (w : World) :
    (create o s name config image w).2 = w ∨
    ((create o s name config image w).2.containers =
        (newContainer o s name config image w).2.containers ∧
      (create o s name config image w).2.containerGraph =
        (newContainer o s name config image w).2.containerGraph ∧
      ∀ c, (create o s name config image w).1 ≠ .ok c) ∨
    ∃ c w3, (newContainer o s name config image w).1 = .ok c ∧
      w3.containers = (newContainer o s name config image w).2.containers ∧
      w3.containerGraph = (newContainer o s name config image w).2.containerGraph ∧
      (create o s name config image w).2 = (register o s c w3).2.2 ∧
      ((register o s c w3).1 = none →
        (create o s name config image w).1 = .ok (register o s c w3).2.1) ∧
      ∀ c', (create o s name config image w).1 = .ok c' → (register o s c w3).1 = none := by
  unfold create
  split
  · exact .inl rfl
  rcases newContainer o s name config image w with ⟨c | e | e, w1⟩
  case err => exact .inr (.inl ⟨rfl, rfl, fun _ h => nomatch h⟩)
  case panic => exact .inr (.inl ⟨rfl, rfl, fun _ h => nomatch h⟩)
  dsimp only
  have h2 := createRootfs_containers o c image w1
  have g2 := createRootfs_containerGraph o c image w1
  generalize createRootfs o c image w1 = r at h2 g2 ⊢
  rcases r with ⟨_ | e, w2⟩
  case some => exact .inr (.inl ⟨h2, g2, fun _ h => nomatch h⟩)
  dsimp only at h2 g2 ⊢
  have h3 := (toDisk_containers o c w2).trans h2
  have g3 := (toDisk_containerGraph o c w2).trans g2
  generalize toDisk o c w2 = r at h3 g3 ⊢
  rcases r with ⟨_ | e, w3⟩
  case some => exact .inr (.inl ⟨h3, g3, fun _ h => nomatch h⟩)
  refine .inr (.inr ⟨c, w3, rfl, h3, g3, ?_⟩)
  dsimp only
  rcases register o s c w3 with ⟨_ | e, c', w4⟩
  · exact ⟨rfl, fun _ => rfl, fun _ _ => rfl⟩
  · exact ⟨rfl, fun h => (nomatch h), fun _ h => nomatch h⟩

/-! ## §2. Runs. -/

/-- What can happen to the daemon. -/
inductive Event where
  /-- `docker create` with `name`, or `""` for a generated one. -/
  | create (name : String) (config : Config) (image : String)
  /-- `daemon.RegisterLinks` for the container stored under `id`. -/
  | registerLinks (id : String) (hostConfig : Option HostConfig)
  /-- The daemon stops and boots again, and runs `restore`. -/
  | restart

/-- The daemon after one event.  A `RegisterLinks` for an ID the store does
not hold does nothing. -/
def Event.run (s : Setup) (w : World) : Event → World
  | .create name config image => (Daemon.create o s name config image w).2
  | .registerLinks id hostConfig =>
    match w.containers id with
    | none => w
    | some c => (Daemon.registerLinks o c hostConfig w).2.2
  | .restart => (restore o s w.restart).2

/-- The daemon after a run of events. -/
def Event.runAll (s : Setup) (w : World) (events : List Event) : World :=
  events.foldl (Event.run o s) w

/-! ## §3. The store along a run. -/

/-- Every container the store holds is stored under its own ID. -/
def StoredUnderId (w : World) : Prop := ∀ k c, w.containers k = some c → c.id = k

@[simp] theorem registerLinks_containers (c : Container) (hostConfig : Option HostConfig)
    (w : World) : (registerLinks o c hostConfig w).2.2.containers = w.containers := by
  rcases registerLinks_cases o c hostConfig w with ⟨-, h⟩ | ⟨_, -, -, h⟩ | ⟨_, links, _, -, -, -, h⟩ |
    ⟨_, links, -, -, -, h⟩ <;> rw [h]
  · exact (registerLinksLoop_spec o c links w).1
  · exact (writeHostConfig_containers o _ _).trans (registerLinksLoop_spec o c links w).1

theorem create_storesFrom (s : Setup) (name : String) (config : Config) (image : String)
    (w : World) : ∃ ids, StoresFrom ids w (create o s name config image w).2 := by
  have hn := newContainer_containers o s name config image w
  rcases create_cases o s name config image w with h | ⟨h, -⟩ | ⟨c, w3, -, h3, -, h, -⟩
  · exact ⟨[], .of_eq (by rw [h])⟩
  · exact ⟨[], .of_eq (h.trans hn)⟩
  · rw [h]
    exact ⟨[c.id], (StoresFrom.of_eq (h3.trans hn)).trans (register_storesFrom o s c w3)⟩

theorem lookup_append_of_some {g new : Graph} {a b : String} (h : g.lookup a = some b) :
    (g ++ new).lookup a = some b := by
  rw [List.lookup_append, h]
  rfl

theorem lookup_filter_ne {n a : String} (h : a ≠ n) :
    ∀ g : Graph, (g.filter (·.1 ≠ n)).lookup a = g.lookup a
  | [] => rfl
  | (k, v) :: g => by
    by_cases hk : k = n
    · subst hk
      rw [List.filter_cons_of_neg (by simp), List.lookup_cons, beq_false_of_ne h]
      exact lookup_filter_ne h g
    · rw [List.filter_cons_of_pos (by simpa using hk), List.lookup_cons, List.lookup_cons,
        lookup_filter_ne h g]

theorem lookup_filter_self (n : String) (g : Graph) : (g.filter (·.1 ≠ n)).lookup n = none := by
  rw [List.lookup_eq_none_iff]
  intro p hp
  rw [List.mem_filter, decide_eq_true_iff] at hp
  exact bne_iff_ne.2 (Ne.symm hp.2)

/-- The name graph knows every stored container: each is stored under its
ID, and the graph maps its Name to that ID. -/
structure NamesConsistent (w : World) : Prop where
  stored : StoredUnderId w
  named : ∀ k c, w.containers k = some c → w.containerGraph.lookup c.name = some c.id

theorem NamesConsistent.empty : NamesConsistent World.empty :=
  ⟨fun _ _ h => (nomatch h), fun _ _ h => nomatch h⟩

/-- No two stored containers share a Name. -/
theorem NamesConsistent.name_inj {w : World} (h : NamesConsistent w) {k1 k2 : String}
    {c1 c2 : Container} (h1 : w.containers k1 = some c1) (h2 : w.containers k2 = some c2)
    (hn : c1.name = c2.name) : k1 = k2 := by
  have e := h.named k1 c1 h1
  rw [hn, h.named k2 c2 h2] at e
  rw [← h.stored k1 c1 h1, ← h.stored k2 c2 h2]
  exact (Option.some.inj e).symm

section Preserve

variable {w w' : World} (h : NamesConsistent w)
include h

/-- Entries appended to the graph, the store kept. -/
theorem NamesConsistent.of_append (hs : w'.containers = w.containers) {new : Graph}
    (hg : w'.containerGraph = w.containerGraph ++ new) : NamesConsistent w' :=
  ⟨fun k c hk => h.stored k c (hs ▸ hk),
    fun k c hk => hg ▸ lookup_append_of_some (h.named k c (hs ▸ hk))⟩

theorem NamesConsistent.of_eq (hs : w'.containers = w.containers)
    (hg : w'.containerGraph = w.containerGraph) : NamesConsistent w' :=
  h.of_append hs (hg.trans (List.append_nil _).symm)

/-- A stale entry deleted, the store kept: it was no stored container's name. -/
theorem NamesConsistent.of_stale (hs : w'.containers = w.containers) {n : String}
    (hst : Stale w n) (hg : w'.containerGraph = w.containerGraph.filter (·.1 ≠ n)) :
    NamesConsistent w' := by
  refine ⟨fun k c hk => h.stored k c (hs ▸ hk), fun k c hk => ?_⟩
  rw [hs] at hk
  obtain ⟨id0, hl, hnone⟩ := hst
  have hc := h.named k c hk
  have hne : c.name ≠ n := by
    rintro rfl
    rw [hl] at hc
    cases hc
    rw [h.stored k c hk, hk] at hnone
    cases hnone
  rw [hg, lookup_filter_ne hne]
  exact hc

/-- What a naming call leaves, the store kept. -/
theorem NamesConsistent.of_names {id n : String} (hn : NamesGraph id w (.ok n, w')) :
    NamesConsistent w' := by
  obtain ⟨hs, -, ⟨-, hg⟩ | ⟨hst, hg⟩⟩ := hn
  · exact h.of_append hs hg
  · exact h.of_stale hs hst hg

/-- A container stored under its ID, with its fresh Name added to the graph. -/
theorem NamesConsistent.of_add {d : Container} (hfresh : w.containerGraph.lookup d.name = none)
    (hs : w'.containers = (w.addContainer d).containers)
    (hg : w'.containerGraph = w.containerGraph ++ [(d.name, d.id)]) : NamesConsistent w' := by
  have hnew : w'.containerGraph.lookup d.name = some d.id := by
    rw [hg, List.lookup_append, hfresh]
    simp
  refine ⟨fun k c hk => ?_, fun k c hk => ?_⟩ <;> rw [hs] at hk <;> by_cases hkd : k = d.id
  · subst hkd
    rw [World.addContainer_same] at hk
    cases hk
    rfl
  · exact h.stored k c (by rwa [World.addContainer_ne _ _ hkd] at hk)
  · subst hkd
    rw [World.addContainer_same] at hk
    cases hk
    exact hnew
  · rw [hg]
    exact lookup_append_of_some (h.named k c (by rwa [World.addContainer_ne _ _ hkd] at hk))

/-- `newContainer` keeps the graph knowing every container. -/
theorem newContainer_consistent (s : Setup) (name : String) (config : Config) (image : String) :
    NamesConsistent (newContainer o s name config image w).2 := by
  obtain ⟨herr, hok⟩ := newContainer_names o s name config image w
  rcases hg : (generateIdAndName o name w).1 with e | ⟨id, n⟩
  · exact h.of_eq (newContainer_containers o s name config image w) (herr e hg)
  · exact h.of_names (hok id n hg)

end Preserve

/-- A create keeps the graph knowing every stored container, except one that
succeeds with a name the graph mapped to an ID the store did not hold: that
container is stored, and its name has gone from the graph. -/
theorem create_names (s : Setup) (name : String) (config : Config) (image : String) {w : World}
    (h : NamesConsistent w) :
    NamesConsistent (create o s name config image w).2 ∨
    ∃ c, (create o s name config image w).1 = .ok c ∧ Stale w c.name ∧
      (create o s name config image w).2.containers c.id = some c ∧
      (create o s name config image w).2.containerGraph.lookup c.name = none := by
  have hw1 := newContainer_consistent o h s name config image
  rcases create_cases o s name config image w with
    hc | ⟨hs, hg, -⟩ | ⟨c, w3, hn, h3, g3, hc, hok, -⟩
  · rw [hc]
    exact .inl h
  · exact .inl (hw1.of_eq hs hg)
  obtain ⟨hgi, hstate⟩ := newContainer_ok o hn
  obtain ⟨hs1, hname, hnames⟩ := (newContainer_names o s name config image w).2 c.id c.name hgi
  have hidle : c.state.running = false := by rw [hstate]; rfl
  rw [hc]
  rcases register_named_idle o s c w3 hname hidle with ⟨-, h4⟩ | hreg
  · exact .inl (hw1.of_eq (h4.trans h3) ((register_named o s c w3 hname).2.trans g3))
  rw [hreg] at hok ⊢
  rcases hnames with ⟨hfresh, hg1⟩ | ⟨hst, hg1⟩
  · left
    refine h.of_add (d := c.withDaemon) hfresh ?_ (g3.trans hg1)
    show (w3.addContainer c.withDaemon).containers = (w.addContainer c.withDaemon).containers
    unfold World.addContainer
    rw [h3, hs1]
  · right
    refine ⟨c.withDaemon, hok rfl, hst, World.addContainer_same _ _, ?_⟩
    show w3.containerGraph.lookup c.name = none
    rw [g3, hg1]
    exact lookup_filter_self _ _

/-- From a state where the name graph knows every stored container, a
`RegisterLinks` keeps it so, and so does a create, except one that succeeds
with a name the graph mapped to an ID the store did not hold: that container
is stored, and its name has gone from the graph. -/
theorem names_consistent_step (s : Setup) {w : World} (h : NamesConsistent w) :
    (∀ id hostConfig, NamesConsistent (Event.run o s w (.registerLinks id hostConfig))) ∧
    ∀ name config image, NamesConsistent (Event.run o s w (.create name config image)) ∨
      ∃ c, (create o s name config image w).1 = .ok c ∧ Stale w c.name ∧
        (create o s name config image w).2.containers c.id = some c ∧
        (create o s name config image w).2.containerGraph.lookup c.name = none := by
  refine ⟨fun id hostConfig => ?_, fun name config image => create_names o s name config image h⟩
  dsimp only [Event.run]
  split
  · exact h
  · obtain ⟨new, hnew, -⟩ := registerLinks_appended o _ hostConfig w
    exact h.of_append (registerLinks_containers o _ _ _) hnew

/-- A daemon storing `/web` under `abc`, whose graph also maps `/foo` to
`2222…`, an ID the store lacks: what a create of `foo` that failed after
`reserveName` leaves behind. -/
def staleFooWorld : World :=
  { World.empty with
    containers := fun k => if k = "abc" then some (savedAbc "/web" State.new "") else none
    containerGraph := [("/web", "abc"), ("/foo", "2222222222222222")] }

theorem names_consistent_step_stale :
    NamesConsistent staleFooWorld ∧ Stale staleFooWorld "/foo" ∧
    (∀ id hostConfig, NamesConsistent
      (Event.run Oracle.faultless aufsSetup staleFooWorld (.registerLinks id hostConfig))) ∧
    ∀ name config image,
      NamesConsistent (Event.run Oracle.faultless aufsSetup staleFooWorld (.create name config image)) ∨
      ∃ c, (create Oracle.faultless aufsSetup name config image staleFooWorld).1 = .ok c ∧
        Stale staleFooWorld c.name ∧
        (create Oracle.faultless aufsSetup name config image staleFooWorld).2.containers c.id =
          some c ∧
        (create Oracle.faultless aufsSetup name config image staleFooWorld).2.containerGraph.lookup
          c.name = none := by
  have hw : NamesConsistent staleFooWorld := by
    refine ⟨fun k c hk => ?_, fun k c hk => ?_⟩ <;> simp only [staleFooWorld] at hk <;>
      split at hk <;> cases hk
    all_goals subst_vars; decide
  exact ⟨hw, ⟨"2222222222222222", rfl, rfl⟩, names_consistent_step Oracle.faultless aufsSetup hw⟩

/-! ## §5. Runs in which every create succeeds. -/

/-- Whether an event succeeds: a create that returns its container, or a
`RegisterLinks`; a restart does not count as one. -/
def Event.succeeds (s : Setup) (w : World) : Event → Bool
  | .create name config image =>
    match (Daemon.create o s name config image w).1 with
    | .ok _ => true
    | _ => false
  | .registerLinks _ _ => true
  | .restart => false

/-- Whether every event of a run succeeds, from the world the run has reached. -/
def Event.allSucceed (s : Setup) : World → List Event → Bool
  | _, [] => true
  | w, e :: es => Event.succeeds o s w e && Event.allSucceed s (Event.run o s w e) es

/-- The graph knows every stored container, and maps no name to an ID the
store does not hold. -/
structure NamesSound (w : World) : Prop where
  consistent : NamesConsistent w
  noStale : ∀ name, ¬ Stale w name

theorem NamesSound.empty : NamesSound World.empty :=
  ⟨NamesConsistent.empty, fun _ ⟨_, h, _⟩ => nomatch h⟩

theorem lookup_append_some {g new : Graph} {n id : String} (h : (g ++ new).lookup n = some id) :
    g.lookup n = some id ∨ (n, id) ∈ new := by
  rw [List.lookup_append] at h
  cases hg : g.lookup n <;> rw [hg] at h
  · obtain ⟨_, _, rfl, -⟩ := List.lookup_eq_some_iff.1 h
    exact .inr (List.mem_append_right _ (List.mem_cons_self _ _))
  · exact .inl h

/-- No name goes stale while the store keeps what it held and the graph's
entries are old ones or point into the store. -/
theorem not_stale_of_lookup {w w' : World} (hw : ∀ n, ¬ Stale w n)
    (hkeep : ∀ k, w.containers k ≠ none → w'.containers k ≠ none)
    (hl : ∀ n id, w'.containerGraph.lookup n = some id →
      w.containerGraph.lookup n = some id ∨ w'.containers id ≠ none) (n : String) :
    ¬ Stale w' n := by
  rintro ⟨id, hn, hid⟩
  rcases hl n id hn with h | h
  · exact hw n ⟨id, h, by_contra fun h' => hkeep id h' hid⟩
  · exact h hid

section Sound

variable {w w' : World} (hw : NamesSound w)
include hw

/-- Link entries appended to the graph, the store kept: each entry points to
the container `GetByName` gives, which the store holds under its ID. -/
theorem NamesSound.of_links (hs : w'.containers = w.containers) {c : Container}
    {hostConfig : Option HostConfig} (hg : LinksAppended c hostConfig w.containerGraph w') :
    NamesSound w' := by
  obtain ⟨new, hg, hent⟩ := hg
  refine ⟨hw.consistent.of_append hs hg,
    not_stale_of_lookup hw.noStale (fun k hk => hs ▸ hk) fun n id hl => ?_⟩
  rw [hg] at hl
  refine (lookup_append_some hl).imp_right fun hmem => ?_
  obtain ⟨_, _, _, _, _, _, _, _, child, _, _, hget, hid⟩ := hent _ hmem
  obtain ⟨-, key, -, -, hkey⟩ := getByName_ok hget
  rw [show id = key from hid.trans (hw.consistent.stored key child (hs ▸ hkey)), hkey]
  exact Option.some_ne_none _

/-- A create that returns its container keeps the names sound. -/
theorem NamesSound.of_create (s : Setup) {name : String} {config : Config} {image : String}
    {c' : Container} (hok : (create o s name config image w).1 = .ok c') :
    NamesSound (create o s name config image w).2 := by
  rcases create_cases o s name config image w with
    hc | ⟨-, -, hfail⟩ | ⟨c, w3, hn, -, g3, hc, -, hreg⟩
  · rw [hc]
    exact hw
  · exact absurd hok (hfail c')
  refine ⟨(create_names o s name config image hw.consistent).resolve_right
    fun ⟨_, _, hst, _⟩ => hw.noStale _ hst, ?_⟩
  obtain ⟨hgi, -⟩ := newContainer_ok o hn
  obtain ⟨-, hname, hnames⟩ := (newContainer_names o s name config image w).2 c.id c.name hgi
  obtain ⟨_, hfrom⟩ := create_storesFrom o s name config image w
  have hstored : (create o s name config image w).2.containers c.id ≠ none := by
    rw [hc, register_stored o s c w3 (hreg c' hok)]
    exact Option.some_ne_none _
  refine not_stale_of_lookup hw.noStale hfrom.2 fun n id hl => ?_
  rw [hc, (register_named o s c w3 hname).2, g3] at hl
  rcases hnames with ⟨-, hg1⟩ | ⟨-, hg1⟩ <;> rw [hg1] at hl
  · refine (lookup_append_some hl).imp_right fun hmem => ?_
    obtain ⟨-, rfl⟩ := Prod.mk.inj (List.mem_singleton.1 hmem)
    exact hstored
  · by_cases hnc : n = c.name
    · rw [hnc, lookup_filter_self] at hl
      cases hl
    · exact .inl ((lookup_filter_ne hnc _).symm.trans hl)

/-- One event that succeeds keeps the names sound. -/
theorem NamesSound.run (s : Setup) {e : Event} (he : Event.succeeds o s w e = true) :
    NamesSound (Event.run o s w e) := by
  cases e with
  | create name config image =>
    simp only [Event.succeeds] at he
    split at he
    · next hok => exact hw.of_create o s hok
    · cases he
  | registerLinks id hostConfig =>
    dsimp only [Event.run]
    split
    · exact hw
    · exact hw.of_links (registerLinks_containers o _ _ _) (registerLinks_appended o _ _ _)
  | restart => cases he

end Sound

theorem Event.allSucceed_namesSound (s : Setup) :
    ∀ (events : List Event) {w : World}, NamesSound w →
      Event.allSucceed o s w events = true → NamesSound (Event.runAll o s w events)
  | [], _, hw, _ => hw
  | e :: es, _, hw, h => by
    rw [Event.allSucceed, Bool.and_eq_true] at h
    exact Event.allSucceed_namesSound s es (hw.run o s h.1) h.2

/-- Along every run from an empty daemon in which each create returns its
container and the daemon never restarts, the graph maps every stored
container's Name to its ID and holds no stale name: only a failed create
leaves a stale entry behind (§6). -/
theorem names_sound_while_creates_succeed (s : Setup) (events : List Event)
    (h : Event.allSucceed o s World.empty events = true) :
    NamesSound (Event.runAll o s World.empty events) :=
  Event.allSucceed_namesSound o s events NamesSound.empty h

/-- An outside with no fault, which draws the ID `1111…` first and `2222…`
after. -/
def twoIdOracle : Oracle :=
  ⟨fun _ => "gen", fun t => if t = 0 then "1111111111111111" else "2222222222222222",
    fun _ => none, fun _ => false⟩

/-- Create `web` and `db`, then link `db` into `web` as `db`. -/
theorem names_sound_web_db :
    Event.allSucceed twoIdOracle aufsSetup World.empty
        [.create "web" ⟨"h", [], ["sh"]⟩ "img", .create "db" ⟨"h", [], ["sh"]⟩ "img",
          .registerLinks "1111111111111111" (some ⟨some ["db:db"], ""⟩)] = true ∧
      NamesSound (Event.runAll twoIdOracle aufsSetup World.empty
        [.create "web" ⟨"h", [], ["sh"]⟩ "img", .create "db" ⟨"h", [], ["sh"]⟩ "img",
          .registerLinks "1111111111111111" (some ⟨some ["db:db"], ""⟩)]) :=
  ⟨by decide, names_sound_while_creates_succeed twoIdOracle aufsSetup _ (by decide)⟩

/-! ## §6. A name the graph forgets. -/

/-- The outside of the run below: the first create's `os.Mkdir` of the
container's directory in `createRootfs` (the call at clock 3) fails, and the
three creates draw three IDs. -/
def mkdirFaultOracle : Oracle :=
  ⟨fun _ => "gen",
    fun t => if t = 0 then "1111111111111111" else if t = 4 then "2222222222222222"
      else "3333333333333333",
    fun t => if t = 3 then some "mkdir failure" else none, fun _ => false⟩

/-- Three creates of `foo`.  The first fails in `createRootfs`, after
`reserveName` set `/foo` in the graph; the second meets that stale entry,
deletes it and registers its container as `/foo` without setting the name
again; the third then sets `/foo` for its own container.  Two stored
containers are named `/foo`, and the graph gives `/foo` to the third only. -/
theorem stale_name_reused :
    ((Event.runAll mkdirFaultOracle aufsSetup World.empty
        [.create "foo" ⟨"h", [], ["sh"]⟩ "img", .create "foo" ⟨"h", [], ["sh"]⟩ "img",
          .create "foo" ⟨"h", [], ["sh"]⟩ "img"]).containers "2222222222222222").map (·.name) =
      some "/foo" ∧
    ((Event.runAll mkdirFaultOracle aufsSetup World.empty
        [.create "foo" ⟨"h", [], ["sh"]⟩ "img", .create "foo" ⟨"h", [], ["sh"]⟩ "img",
          .create "foo" ⟨"h", [], ["sh"]⟩ "img"]).containers "3333333333333333").map (·.name) =
      some "/foo" ∧
    (Event.runAll mkdirFaultOracle aufsSetup World.empty
        [.create "foo" ⟨"h", [], ["sh"]⟩ "img", .create "foo" ⟨"h", [], ["sh"]⟩ "img",
          .create "foo" ⟨"h", [], ["sh"]⟩ "img"]).containerGraph.lookup "/foo" =
      some "3333333333333333" := by
  decide

end DockerDaemon.Daemon
