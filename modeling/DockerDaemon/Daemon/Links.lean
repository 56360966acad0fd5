/-
  DockerDaemon.Daemon.Links — `RegisterLink` and `RegisterLinks` of
  daemon.go: a link `name:alias` puts the path `path.Join(parent.Name,
  alias)` in the name graph, mapped to the container `name` names.
  ──────────────────────────────────────
  A path already in the graph is kept as it is; a failure stops the loop
  with the links before it registered.  `path.Join` cleans the path, so an
  alias with `..` (or a parent named `/..`) climbs out of the parent.

  Main results:
    * `registerLinksLoop_spec` — the loop only appends entries, each the
      path of one of its links mapped to the ID of the container `GetByName`
      gives for the link's name; when it succeeds every link's path is in
      the graph, and when it fails the paths of the links before the failing
      one are.
    * `registerLinks_outcome` — what `RegisterLinks` returns and leaves in the
      graph, on success and on each failure.
    * `registerLinks_child_paths` — for a parent `/p` and aliases that are
      single segments, every new path is `/p/alias` for one of the links.
-/
import DockerDaemon.Daemon.Store

namespace DockerDaemon.Daemon

variable (o : Oracle)

/-! ## §1. The code. -/

/-- Modelled from the spec: `parsers.PartParser("name:alias", l)`, which reads
a link `name:alias` as its two parts. -/
def partParser (l : String) : Except String (String × String) :=
  match Go.split l ':' with
  | [name, linkAlias] => .ok (name, linkAlias)
  | _ => .error ("Invalid format to parse.  " ++ l ++ " should match template name:alias")

/-- `daemon.RegisterLink(parent, child, alias)`. -/
def registerLink (parent child : Container) (linkAlias : String) (w : World) :
    Option String × World :=
  let fullName := Go.join [parent.name, linkAlias]
  if (w.containerGraph.lookup fullName).isNone then
    match graphSet o fullName child.id w with
    | (.error e, w) => (some e.text, w)
    | (.ok (), w) => (none, w)
  else (none, w)

/-- The loop of `RegisterLinks` over the links. -/
def registerLinksLoop (container : Container) : List String → World → Option String × World
  | [], w => (none, w)
  | l :: ls, w =>
    match partParser l with
    | .error e => (some e, w)
    | .ok (name, linkAlias) =>
      match getByName name w with
      | .error e => (some e, w)
      | .ok child =>
        match registerLink o container child linkAlias w with
        | (some e, w) => (some e, w)
        | (none, w) => registerLinksLoop container ls w

/-- Modelled from the spec: `container.WriteHostConfig()`, which persists the
host config under the container's directory. -/
def writeHostConfig (c : Container) : World → Option String × World :=
  attempt o fun w =>
    { w with disk := fun d => if d = c.id then (w.disk d).map ({ · with hostConfig := c.hostConfig })
                              else w.disk d }

/-- `daemon.RegisterLinks(container, hostConfig)`: its error, the host config
after it, and the world. -/
def registerLinks (container : Container) (hostConfig : Option HostConfig) (w : World) :
    Option String × Option HostConfig × World :=
  match hostConfig with
  | none => (none, none, w)
  | some hc =>
    match hc.links with
    | none => (none, some hc, w)
    | some links =>
      match registerLinksLoop o container links w with
      | (some e, w) => (some e, some hc, w)
      | (none, w) =>
        -- After we load all the links into the daemon set them to nil on the hostconfig
        let hc : HostConfig := { hc with links := none }
        match writeHostConfig o { container with hostConfig := hc } w with
        | (some e, w) => (some e, some hc, w)
        | (none, w) => (none, some hc, w)

/-! ## §2. What the loop adds to the graph. -/

/-- `GetByName` reads only the graph and the store. -/
theorem getByName_congr (name : String) {w w' : World} (hs : w'.containers = w.containers)
    (hg : w'.containerGraph = w.containerGraph) : getByName name w' = getByName name w := by
  unfold getByName
  rw [hs, hg]

/-- A graph that grows at its end gives every name the container it gave. -/
theorem getByName_append {name : String} {w w' : World} {child : Container}
    (h : getByName name w = .ok child) (hs : w'.containers = w.containers) {new : Graph}
    (hg : w'.containerGraph = w.containerGraph ++ new) : getByName name w' = .ok child := by
  obtain ⟨fullName, id, hf, hid, hc⟩ := getByName_ok h
  simp only [getByName, hf, hg, hs, List.lookup_append, hid, Option.or_some, hc]

/-- An entry the loop may add: the path of one of the links, mapped to the ID
of the container `GetByName` gives in `w` for the link's name. -/
def LinkEntry (c : Container) (links : List String) (w : World) (e : String × String) : Prop :=
  ∃ l ∈ links, ∃ name linkAlias child, partParser l = .ok (name, linkAlias) ∧
    e.1 = Go.join [c.name, linkAlias] ∧ getByName name w = .ok child ∧ e.2 = child.id

/-- The link `l` parses, and its path is in the graph `g`. -/
def LinkPresent (c : Container) (g : Graph) (l : String) : Prop :=
  ∃ name linkAlias, partParser l = .ok (name, linkAlias) ∧
    (g.lookup (Go.join [c.name, linkAlias])).isSome

/-- How the link `l` fails in `w` with `err`: it does not parse, its name gives
no container, or its path is absent from the graph (`Set` failed). -/
def LinkFails (c : Container) (w : World) (l err : String) : Prop :=
  partParser l = .error err ∨ ∃ name linkAlias, partParser l = .ok (name, linkAlias) ∧
    (getByName name w = .error err ∨
      (∃ child, getByName name w = .ok child) ∧
        w.containerGraph.lookup (Go.join [c.name, linkAlias]) = none)

theorem LinkEntry.congr {c : Container} {links : List String} {w w' : World} {e : String × String}
    (h : LinkEntry c links w e) (hs : w'.containers = w.containers)
    (hg : w'.containerGraph = w.containerGraph) : LinkEntry c links w' e := by
  simpa only [LinkEntry, getByName_congr _ hs hg] using h

theorem LinkFails.congr {c : Container} {w w' : World} {l err : String} (h : LinkFails c w l err)
    (hs : w'.containers = w.containers) (hg : w'.containerGraph = w.containerGraph) :
    LinkFails c w' l err := by
  simpa only [LinkFails, getByName_congr _ hs hg, hg] using h

/-- `RegisterLink` changes no container; it sets its path to the child when the
path is new; the path is in the graph when it succeeds, and was absent, the
graph kept, when it fails. -/
theorem registerLink_spec (parent child : Container) (linkAlias : String) (w : World) :
    (registerLink o parent child linkAlias w).2.containers = w.containers ∧
    ((registerLink o parent child linkAlias w).2.containerGraph = w.containerGraph ∨
      (registerLink o parent child linkAlias w).2.containerGraph =
        w.containerGraph ++ [(Go.join [parent.name, linkAlias], child.id)]) ∧
    ((registerLink o parent child linkAlias w).1 = none →
      ((registerLink o parent child linkAlias w).2.containerGraph.lookup
        (Go.join [parent.name, linkAlias])).isSome) ∧
    (∀ e, (registerLink o parent child linkAlias w).1 = some e →
      (registerLink o parent child linkAlias w).2.containerGraph = w.containerGraph ∧
        w.containerGraph.lookup (Go.join [parent.name, linkAlias]) = none) := by
  unfold registerLink
  dsimp only
  split
  · next habsent =>
    have habsent := Option.isNone_iff_eq_none.1 habsent
    rcases graphSet_cases o (Go.join [parent.name, linkAlias]) child.id w with
      ⟨msg, h⟩ | ⟨-, h⟩ | ⟨-, h⟩ <;> rw [h]
    · exact ⟨rfl, .inl rfl, fun h => (nomatch h), fun _ _ => ⟨rfl, habsent⟩⟩
    · exact ⟨rfl, .inl rfl, fun h => (nomatch h), fun _ _ => ⟨rfl, habsent⟩⟩
    · exact ⟨rfl, .inr rfl, fun _ => (List.sublist_append_right _ _).lookup_isSome (by simp),
        fun _ h => nomatch h⟩
  · next hsome => exact ⟨rfl, .inl rfl, fun _ =>
      Option.isSome_iff_ne_none.2 fun h => hsome (Option.isNone_iff_eq_none.2 h), fun _ h => nomatch h⟩

/-- One turn of the loop: the link fails, and the loop stops with the graph
and the store as they were; or it is registered, and the loop goes on. -/
theorem registerLinksLoop_cons (c : Container) (l : String) (ls : List String) (w : World) :
    (∃ err, LinkFails c w l err ∧ (registerLinksLoop o c (l :: ls) w).1 = some err ∧
      (registerLinksLoop o c (l :: ls) w).2.containers = w.containers ∧
      (registerLinksLoop o c (l :: ls) w).2.containerGraph = w.containerGraph) ∨
    ∃ name linkAlias child, partParser l = .ok (name, linkAlias) ∧ getByName name w = .ok child ∧
      (registerLink o c child linkAlias w).1 = none ∧
      registerLinksLoop o c (l :: ls) w =
        registerLinksLoop o c ls (registerLink o c child linkAlias w).2 := by
  simp only [registerLinksLoop]
  rcases hp : partParser l with e | ⟨name, linkAlias⟩
  · exact .inl ⟨e, .inl hp, rfl, rfl, rfl⟩
  dsimp only
  rcases hg : getByName name w with e | child
  · exact .inl ⟨e, .inr ⟨name, linkAlias, hp, .inl hg⟩, rfl, rfl, rfl⟩
  dsimp only
  obtain ⟨hc1, -, -, hfail⟩ := registerLink_spec o c child linkAlias w
  rcases hr : registerLink o c child linkAlias w with ⟨_ | e, w1⟩
  · exact .inr ⟨name, linkAlias, child, rfl, hg, by rw [hr], by rw [hr]⟩
  · rw [hr] at hc1 hfail
    obtain ⟨hg1, habsent⟩ := hfail e rfl
    exact .inl ⟨e, .inr ⟨name, linkAlias, hp, .inr ⟨⟨child, hg⟩, habsent⟩⟩, rfl, hc1, hg1⟩

/-- The loop keeps the store and only appends to the graph, each new path that
of one of its links mapped to the container `GetByName` gives for the link's
name.  When it succeeds every link's path is in the graph; when it fails, the
paths of the links before the failing one are. -/
theorem registerLinksLoop_spec (c : Container) :
    ∀ (links : List String) (w : World),
      (registerLinksLoop o c links w).2.containers = w.containers ∧
      (∃ new, (registerLinksLoop o c links w).2.containerGraph = w.containerGraph ++ new ∧
        ∀ e ∈ new, LinkEntry c links (registerLinksLoop o c links w).2 e) ∧
      ((registerLinksLoop o c links w).1 = none →
        ∀ l ∈ links, LinkPresent c (registerLinksLoop o c links w).2.containerGraph l) ∧
      (∀ err, (registerLinksLoop o c links w).1 = some err →
        ∃ pre l post, links = pre ++ l :: post ∧
          (∀ l' ∈ pre, LinkPresent c (registerLinksLoop o c links w).2.containerGraph l') ∧
          LinkFails c (registerLinksLoop o c links w).2 l err)
  | [], w => ⟨rfl, ⟨[], (List.append_nil _).symm, fun _ h => nomatch h⟩, fun _ _ h => (nomatch h),
      fun _ h => nomatch h⟩
  | l :: ls, w => by
    rcases registerLinksLoop_cons o c l ls w with
      ⟨err, hfails, h1, hs, hg⟩ | ⟨name, linkAlias, child, hp, hget, hok, h⟩
    · refine ⟨hs, ⟨[], hg.trans (List.append_nil _).symm, fun _ h => nomatch h⟩,
        fun h => (nomatch h1.symm.trans h), fun err' h' => ?_⟩
      rw [h1] at h'
      cases h'
      exact ⟨[], l, ls, rfl, fun _ h => (nomatch h), hfails.congr hs hg⟩
    rw [h]
    obtain ⟨hc1, hg1, hpresent1, -⟩ := registerLink_spec o c child linkAlias w
    obtain ⟨hc2, ⟨new2, hnew2, hent2⟩, hok2, herr2⟩ :=
      registerLinksLoop_spec c ls (registerLink o c child linkAlias w).2
    obtain ⟨new1, hnew1, hent1⟩ : ∃ new1, (registerLink o c child linkAlias w).2.containerGraph =
        w.containerGraph ++ new1 ∧ ∀ e ∈ new1, e = (Go.join [c.name, linkAlias], child.id) :=
      hg1.elim (fun h => ⟨[], h.trans (List.append_nil _).symm, fun _ h => nomatch h⟩)
        fun h => ⟨_, h, fun _ he => List.mem_singleton.1 he⟩
    generalize registerLinksLoop o c ls (registerLink o c child linkAlias w).2 = r at *
    have hcf : r.2.containers = w.containers := hc2.trans hc1
    have hgf : r.2.containerGraph = w.containerGraph ++ (new1 ++ new2) := by
      rw [hnew2, hnew1, List.append_assoc]
    have hhead : LinkPresent c r.2.containerGraph l :=
      ⟨name, linkAlias, hp, hnew2 ▸ (List.sublist_append_left _ _).lookup_isSome (hpresent1 hok)⟩
    refine ⟨hcf, ⟨new1 ++ new2, hgf, fun e he => ?_⟩,
      fun hnone l' hl' => (List.mem_cons.1 hl').elim (fun h => h ▸ hhead) (hok2 hnone l'),
      fun err herr => ?_⟩
    · rcases List.mem_append.1 he with he | he
      · rw [hent1 e he]
        exact ⟨l, List.mem_cons_self l ls, name, linkAlias, child, hp, rfl,
          getByName_append hget hcf hgf, rfl⟩
      · obtain ⟨l', hl', rest⟩ := hent2 e he
        exact ⟨l', List.mem_cons_of_mem l hl', rest⟩
    · obtain ⟨pre, l', post, hsplit, hpre, hfail⟩ := herr2 err herr
      exact ⟨l :: pre, l', post, by rw [hsplit]; rfl, List.forall_mem_cons.2 ⟨hhead, hpre⟩, hfail⟩

/-! ## §3. `RegisterLinks`. -/

/-- `w'`'s graph is `g` with entries appended, each the path of a link of the
host config mapped to the container `GetByName` gives in `w'`. -/
def LinksAppended (c : Container) (hostConfig : Option HostConfig) (g : Graph) (w' : World) :
    Prop :=
  ∃ new, w'.containerGraph = g ++ new ∧ ∀ e ∈ new, ∃ hc links, hostConfig = some hc ∧
    hc.links = some links ∧ LinkEntry c links w' e

/-- Every link of the host config parses, and its path is in `g`. -/
def LinksRegistered (c : Container) (hostConfig : Option HostConfig) (g : Graph) : Prop :=
  ∀ hc links, hostConfig = some hc → hc.links = some links → ∀ l ∈ links, LinkPresent c g l

/-- The host config has links, one of which fails in `w'` with `err`, and the
links before it have their paths in `w'`'s graph. -/
def LinksFailed (c : Container) (hostConfig : Option HostConfig) (w' : World) (err : String) :
    Prop :=
  ∃ hc links, hostConfig = some hc ∧ hc.links = some links ∧ ∃ pre l post,
    links = pre ++ l :: post ∧ (∀ l' ∈ pre, LinkPresent c w'.containerGraph l') ∧
      LinkFails c w' l err

theorem writeHostConfig_graph (c : Container) (w : World) :
    (writeHostConfig o c w).2.containerGraph = w.containerGraph := by
  unfold writeHostConfig attempt
  split <;> rfl

theorem writeHostConfig_containers (c : Container) (w : World) :
    (writeHostConfig o c w).2.containers = w.containers := by
  unfold writeHostConfig attempt
  split <;> rfl

/-- Everything `RegisterLinks` can end in: no host config, no links, a failed
loop, or the loop done and the host config written (or not). -/
theorem registerLinks_cases (c : Container) (hostConfig : Option HostConfig) (w : World) :
    (hostConfig = none ∧ registerLinks o c hostConfig w = (none, none, w)) ∨
    (∃ hc, hostConfig = some hc ∧ hc.links = none ∧ registerLinks o c hostConfig w = (none, some hc, w)) ∨
    (∃ hc links e, hostConfig = some hc ∧ hc.links = some links ∧
      (registerLinksLoop o c links w).1 = some e ∧
      registerLinks o c hostConfig w = (some e, some hc, (registerLinksLoop o c links w).2)) ∨
    (∃ hc links, hostConfig = some hc ∧ hc.links = some links ∧
      (registerLinksLoop o c links w).1 = none ∧
      registerLinks o c hostConfig w =
        ((writeHostConfig o { c with hostConfig := { hc with links := none } }
            (registerLinksLoop o c links w).2).1, some { hc with links := none },
          (writeHostConfig o { c with hostConfig := { hc with links := none } }
            (registerLinksLoop o c links w).2).2)) := by
  rcases hostConfig with _ | hc
  · exact .inl ⟨rfl, rfl⟩
  rcases hl : hc.links with _ | links
  · exact .inr (.inl ⟨hc, rfl, hl, by simp [registerLinks, hl]⟩)
  rcases hr : registerLinksLoop o c links w with ⟨_ | e, w1⟩
  · refine .inr (.inr (.inr ⟨hc, links, rfl, hl, by rw [hr], ?_⟩))
    simp only [registerLinks, hl, hr]
    split <;> simp_all
  · exact .inr (.inr (.inl ⟨hc, links, e, rfl, hl, by rw [hr], by simp [registerLinks, hl, hr]⟩))

theorem registerLinks_appended (c : Container) (hostConfig : Option HostConfig) (w : World) :
    LinksAppended c hostConfig w.containerGraph (registerLinks o c hostConfig w).2.2 := by
  have appended : ∀ hc links, hostConfig = some hc → hc.links = some links → ∀ w' : World,
      w'.containers = (registerLinksLoop o c links w).2.containers →
      w'.containerGraph = (registerLinksLoop o c links w).2.containerGraph →
      LinksAppended c hostConfig w.containerGraph w' := by
    rintro hc links rfl hl w' hs hg
    obtain ⟨-, ⟨new, hnew, hent⟩, -⟩ := registerLinksLoop_spec o c links w
    exact ⟨new, hg.trans hnew, fun e he => ⟨hc, links, rfl, hl, (hent e he).congr hs hg⟩⟩
  rcases registerLinks_cases o c hostConfig w with
    ⟨-, h⟩ | ⟨hc, -, -, h⟩ | ⟨hc, links, e, h1, h2, -, h⟩ | ⟨hc, links, h1, h2, -, h⟩ <;> rw [h]
  · exact ⟨[], (List.append_nil _).symm, fun _ h => nomatch h⟩
  · exact ⟨[], (List.append_nil _).symm, fun _ h => nomatch h⟩
  · exact appended hc links h1 h2 _ rfl rfl
  · exact appended hc links h1 h2 _ (writeHostConfig_containers o _ _) (writeHostConfig_graph o _ _)

theorem registerLinks_result (c : Container) (hostConfig : Option HostConfig) (w : World) :
    ((registerLinks o c hostConfig w).1 = none →
      (registerLinks o c hostConfig w).2.1 = hostConfig.map (fun hc => { hc with links := none }) ∧
      LinksRegistered c hostConfig (registerLinks o c hostConfig w).2.2.containerGraph) ∧
    (∀ err, (registerLinks o c hostConfig w).1 = some err →
      ((registerLinks o c hostConfig w).2.1 = hostConfig ∧
        LinksFailed c hostConfig (registerLinks o c hostConfig w).2.2 err) ∨
      ((registerLinks o c hostConfig w).2.1 = hostConfig.map (fun hc => { hc with links := none }) ∧
        LinksRegistered c hostConfig (registerLinks o c hostConfig w).2.2.containerGraph)) := by
  rcases registerLinks_cases o c hostConfig w with
    ⟨rfl, h⟩ | ⟨hc, rfl, hl, h⟩ | ⟨hc, links, e, rfl, hl, he, h⟩ | ⟨hc, links, rfl, hl, hok, h⟩ <;>
    rw [h]
  · exact ⟨fun _ => ⟨rfl, fun _ _ h => nomatch h⟩, fun _ h => nomatch h⟩
  · have : { hc with links := none } = hc := by cases hc; simp_all
    refine ⟨fun _ => ⟨by simp [this], ?_⟩, fun _ h => nomatch h⟩
    rintro _ _ ⟨⟩ h2
    simp [hl] at h2
  · refine ⟨fun h => (nomatch h), fun err herr => .inl ⟨rfl, hc, links, rfl, hl, ?_⟩⟩
    cases herr
    exact (registerLinksLoop_spec o c links w).2.2.2 e he
  · obtain ⟨-, -, hreg, -⟩ := registerLinksLoop_spec o c links w
    have registered : LinksRegistered c (some hc) (writeHostConfig o
        { c with hostConfig := { hc with links := none } }
          (registerLinksLoop o c links w).2).2.containerGraph := by
      rintro hc' links' h1 h2
      cases h1
      rw [hl] at h2
      cases h2
      rw [writeHostConfig_graph]
      exact hreg hok
    exact ⟨fun _ => ⟨rfl, registered⟩, fun _ _ => .inr ⟨rfl, registered⟩⟩

/-- `RegisterLinks` only appends to the graph, each path of a link mapped to
the ID of the container `GetByName` gives for the link's name.  It succeeds
only with the links cleared and every link's path in the graph.  It fails with
the host config as it was, the links before the failing one having their
paths in the graph; or, when only `WriteHostConfig` failed, with the links
cleared and every path in the graph. -/
theorem registerLinks_outcome (c : Container) (hostConfig : Option HostConfig) (w : World) :
    LinksAppended c hostConfig w.containerGraph (registerLinks o c hostConfig w).2.2 ∧
    ((registerLinks o c hostConfig w).1 = none →
      (registerLinks o c hostConfig w).2.1 = hostConfig.map (fun hc => { hc with links := none }) ∧
      LinksRegistered c hostConfig (registerLinks o c hostConfig w).2.2.containerGraph) ∧
    (∀ err, (registerLinks o c hostConfig w).1 = some err →
      ((registerLinks o c hostConfig w).2.1 = hostConfig ∧
        LinksFailed c hostConfig (registerLinks o c hostConfig w).2.2 err) ∨
      ((registerLinks o c hostConfig w).2.1 = hostConfig.map (fun hc => { hc with links := none }) ∧
        LinksRegistered c hostConfig (registerLinks o c hostConfig w).2.2.containerGraph)) :=
  ⟨registerLinks_appended o c hostConfig w, registerLinks_result o c hostConfig w⟩

/-- A failing second link leaves the first one registered: `/web/db` stays. -/
theorem registerLinks_error_keeps_earlier_links :
    (registerLinks Oracle.faultless
        ⟨"webid", "/web", "sh", [], ⟨"", [], ["sh"]⟩, ⟨some ["db:db", "nosuch:n"], ""⟩, "img", "aufs",
          "native-0.2", State.new, "", true⟩
        (some ⟨some ["db:db", "nosuch:n"], ""⟩)
        ⟨fun k => if k = "dbid" then some ⟨"dbid", "/db", "sh", [], ⟨"", [], ["sh"]⟩, ⟨none, ""⟩,
            "img", "aufs", "native-0.2", State.new, "", true⟩ else none,
          ["dbid", "webid"], [("/web", "webid"), ("/db", "dbid")], [], fun _ => none, [],
          fun _ => 0, 0⟩).1 = some "Could not find entity for nosuch" ∧
    (registerLinks Oracle.faultless
        ⟨"webid", "/web", "sh", [], ⟨"", [], ["sh"]⟩, ⟨some ["db:db", "nosuch:n"], ""⟩, "img", "aufs",
          "native-0.2", State.new, "", true⟩
        (some ⟨some ["db:db", "nosuch:n"], ""⟩)
        ⟨fun k => if k = "dbid" then some ⟨"dbid", "/db", "sh", [], ⟨"", [], ["sh"]⟩, ⟨none, ""⟩,
            "img", "aufs", "native-0.2", State.new, "", true⟩ else none,
          ["dbid", "webid"], [("/web", "webid"), ("/db", "dbid")], [], fun _ => none, [],
          fun _ => 0, 0⟩).2.2.containerGraph
      = [("/web", "webid"), ("/db", "dbid"), ("/web/db", "dbid")] := by
  decide

/-- For a parent `/p` and links whose aliases are single segments, every path
`RegisterLinks` adds is `/p/alias` for the alias of one of the links. -/
theorem registerLinks_child_paths (c : Container) (hostConfig : Option HostConfig) (w : World)
    {p : String} (hp : Go.Segment p) (hname : c.name = "/" ++ p)
    (haliases : ∀ hc links, hostConfig = some hc → hc.links = some links → ∀ l ∈ links,
      ∀ name linkAlias, partParser l = .ok (name, linkAlias) → Go.Segment linkAlias) :
    ∃ new, (registerLinks o c hostConfig w).2.2.containerGraph = w.containerGraph ++ new ∧
      ∀ e ∈ new, ∃ hc links, hostConfig = some hc ∧ hc.links = some links ∧
        ∃ l ∈ links, ∃ name linkAlias, partParser l = .ok (name, linkAlias) ∧
          e.1 = c.name ++ "/" ++ linkAlias := by
  obtain ⟨new, hnew, hent⟩ := registerLinks_appended o c hostConfig w
  refine ⟨new, hnew, fun e he => ?_⟩
  obtain ⟨hc, links, h1, h2, l, hl, name, linkAlias, -, hparse, hpath, -⟩ := hent e he
  have ha := haliases hc links h1 h2 l hl name linkAlias hparse
  exact ⟨hc, links, h1, h2, l, hl, name, linkAlias, hparse, by rw [hpath, hname, Go.join_child hp ha]⟩

theorem registerLinks_child_paths_web_db :
    Go.Segment "web" ∧ "/web" = "/" ++ "web" ∧
    ∃ new, (registerLinks Oracle.faultless
        ⟨"webid", "/web", "sh", [], ⟨"", [], ["sh"]⟩, ⟨some ["db:db"], ""⟩, "img", "aufs",
          "native-0.2", State.new, "", true⟩ (some ⟨some ["db:db"], ""⟩)
        World.empty).2.2.containerGraph = World.empty.containerGraph ++ new ∧
      ∀ e ∈ new, ∃ hc links, (some ⟨some ["db:db"], ""⟩ : Option HostConfig) = some hc ∧
        hc.links = some links ∧
        ∃ l ∈ links, ∃ name linkAlias, partParser l = .ok (name, linkAlias) ∧
          e.1 = "/web" ++ "/" ++ linkAlias := by
  have hweb : Go.Segment "web" := ⟨by decide, by decide, by decide, by decide⟩
  refine ⟨hweb, rfl, registerLinks_child_paths Oracle.faultless _ _ World.empty hweb rfl ?_⟩
  rintro _ _ ⟨⟩ ⟨⟩ l hl name linkAlias h
  simp only [List.mem_singleton] at hl
  subst hl
  simp only [partParser, show Go.split "db:db" ':' = ["db", "db"] by decide, Except.ok.injEq,
    Prod.mk.injEq] at h
  obtain ⟨-, rfl⟩ := h
  exact ⟨by decide, by decide, by decide, by decide⟩

/-- An alias `../foo`, or a parent named `/..`, puts the link at the top of the
graph: `/foo` and `/x`. -/
theorem registerLinks_dotdot_escapes :
    (registerLinks Oracle.faultless
        ⟨"webid", "/web", "sh", [], ⟨"", [], ["sh"]⟩, ⟨some ["db:../foo"], ""⟩, "img", "aufs",
          "native-0.2", State.new, "", true⟩ (some ⟨some ["db:../foo"], ""⟩)
        ⟨fun k => if k = "dbid" then some ⟨"dbid", "/db", "sh", [], ⟨"", [], ["sh"]⟩, ⟨none, ""⟩,
            "img", "aufs", "native-0.2", State.new, "", true⟩ else none,
          ["dbid", "webid"], [("/web", "webid"), ("/db", "dbid")], [], fun _ => none, [],
          fun _ => 0, 0⟩).2.2.containerGraph
      = [("/web", "webid"), ("/db", "dbid"), ("/foo", "dbid")] ∧
    (registerLinks Oracle.faultless
        ⟨"dotid", "/..", "sh", [], ⟨"", [], ["sh"]⟩, ⟨some ["db:x"], ""⟩, "img", "aufs",
          "native-0.2", State.new, "", true⟩ (some ⟨some ["db:x"], ""⟩)
        ⟨fun k => if k = "dbid" then some ⟨"dbid", "/db", "sh", [], ⟨"", [], ["sh"]⟩, ⟨none, ""⟩,
            "img", "aufs", "native-0.2", State.new, "", true⟩ else none,
          ["dbid", "dotid"], [("/..", "dotid"), ("/db", "dbid")], [], fun _ => none, [],
          fun _ => 0, 0⟩).2.2.containerGraph
      = [("/..", "dotid"), ("/db", "dbid"), ("/x", "dbid")] := by
  decide

end DockerDaemon.Daemon
