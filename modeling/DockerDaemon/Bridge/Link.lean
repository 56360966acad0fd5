/-
  DockerDaemon.Bridge.Link — the `link` job, `LinkContainers` of
  `daemon/networkdriver/bridge/driver.go`.
  ──────────────────────────────────────
  For each `port/proto` of `Ports` the job asks iptables for two FORWARD
  rules, parent to child on the destination port and child to parent on
  the source port, with the job's action (`-I` when the child starts, `-D`
  when it stops).  It stops at the first command that fails (unless
  `IgnoreErrors`) or prints anything.

  Main results:
    * `linkContainers_insert` — a fault-free `-I` job puts exactly its
      rules, two per port, at the head of FORWARD and touches nothing else.
    * `link_delete_undoes_insert` — after an `-I` job, any link jobs of
      other parent/child pairs, with any answers from iptables, and then the
      `-D` job with the same environment: the `-D` job succeeds, and the
      rules are what the other jobs alone would have left.
    * `linkContainers_insert_prefix` — whatever iptables answers, an `-I`
      job that does not ignore errors leaves the first `k` of its rules at
      the head of FORWARD; a job that fails part way takes none of them back.
    * `link_failed_insert_keeps_rule` — the web/db link with the second
      rule refused: the job fails and its first rule stays.
-/
import DockerDaemon.Go.Stdlib
import DockerDaemon.Iptables.Chain

namespace DockerDaemon.Bridge

open DockerDaemon.Iptables

/-! ## §1. The job. -/

/-- The environment of a `link` job. -/
structure LinkJob where
  /-- `job.Args[0]`, the iptables action: `-I` or `-D`. -/
  action : String
  childIP : String
  parentIP : String
  ignoreErrors : Bool
  /-- `job.GetenvList("Ports")`, entries `port/proto`. -/
  ports : List String
  deriving DecidableEq, Repr

/-- `split(p)`: `strings.Split(p, "/")`, then `parts[0], parts[1]`; `none` where
`parts[1]` is out of range and the job panics. -/
def split (p : String) : Option (String × String) :=
  match Go.split p '/' with
  | port :: proto :: _ => some (port, proto)
  | _ => none

/-- A FORWARD rule of a link: bridge traffic from `src` to `dst`, with `port`
as its destination (`--dport`) or source (`--sport`) port. -/
def forwardRule (bridgeIface proto src flag port dst : String) : Rule :=
  ["-i", bridgeIface, "-o", bridgeIface, "-p", proto, "-s", src, flag, port, "-d", dst,
    "-j", "ACCEPT"]

theorem forwardRule_inj {b proto src flag port dst b' proto' src' flag' port' dst' : String} :
    forwardRule b proto src flag port dst = forwardRule b' proto' src' flag' port' dst' ↔
      b = b' ∧ proto = proto' ∧ src = src' ∧ flag = flag' ∧ port = port' ∧ dst = dst' := by
  show (["-i", b, "-o", b, "-p", proto, "-s", src, flag, port, "-d", dst, "-j", "ACCEPT"] :
      List String) = ["-i", b', "-o", b', "-p", proto', "-s", src', flag', port', "-d", dst',
      "-j", "ACCEPT"] ↔ _
  simp [and_assoc]

/-- `if output, err := iptables.Raw(...); !ignoreErrors && err != nil {...} else if
len(output) != 0 {...}`. -/
def toggleStatus (ignoreErrors : Bool) (r : RawResult) : Except String Unit :=
  if !ignoreErrors && r.err.isSome then .error (r.err.getD "")
  else if r.output.length ≠ 0 then .error ("Error toggle iptables forward: " ++ r.output)
  else .ok ()

@[simp] theorem toggleStatus_quiet (ignoreErrors : Bool) :
    toggleStatus ignoreErrors ⟨"", none⟩ = .ok () := by
  simp [toggleStatus]

/-- One `iptables.Raw(action, "FORWARD", rule...)` of the job, answered by the
head of `ans` (`quiet` once they run out). -/
def toggle (ignoreErrors : Bool) (action : String) (rule : Rule) (ans : List Answer)
    (rs : Ruleset) : Except String Unit × List Answer × Ruleset :=
  let r := raw (ans.headD .quiet) (action :: "FORWARD" :: rule) rs
  (toggleStatus ignoreErrors r.1, ans.tail, r.2)

/-- The loop `for _, p := range ports` of `LinkContainers`. -/
def linkPorts (bridgeIface : String) (job : LinkJob) :
    List String → List Answer → Ruleset → Go.Status × Ruleset
  | [], _, rs => (.ok, rs)
  | p :: ps, ans, rs =>
    match split p with
    | none => (.panic "runtime error: index out of range [1] with length 1", rs)
    | some (port, proto) =>
      match toggle job.ignoreErrors job.action
          (forwardRule bridgeIface proto job.parentIP "--dport" port job.childIP) ans rs with
      | (.error e, _, rs) => (.err e, rs)
      | (.ok (), ans, rs) =>
        match toggle job.ignoreErrors job.action
            (forwardRule bridgeIface proto job.childIP "--sport" port job.parentIP) ans rs with
        | (.error e, _, rs) => (.err e, rs)
        | (.ok (), ans, rs) => linkPorts bridgeIface job ps ans rs

/-- `LinkContainers(job)` against the bridge `bridgeIface`, iptables answering
`ans`: the job's status and the rules it leaves. -/
def linkContainers (bridgeIface : String) (job : LinkJob) (ans : List Answer) (rs : Ruleset) :
    Go.Status × Ruleset :=
  linkPorts bridgeIface job job.ports ans rs

/-- Link jobs one after the other, each with its own answers. -/
def runLinks (bridgeIface : String) (jobs : List (LinkJob × List Answer)) (rs : Ruleset) :
    Ruleset :=
  jobs.foldl (fun rs j => (linkContainers bridgeIface j.1 j.2 rs).2) rs

/-- The two rules of one port, in the order the job issues them. -/
def portRules (bridgeIface : String) (job : LinkJob) (p : String) : List Rule :=
  match split p with
  | some (port, proto) =>
    [forwardRule bridgeIface proto job.parentIP "--dport" port job.childIP,
      forwardRule bridgeIface proto job.childIP "--sport" port job.parentIP]
  | none => []

/-- Every rule a link job issues, in order. -/
def linkRules (bridgeIface : String) (job : LinkJob) : List Rule :=
  job.ports.flatMap (portRules bridgeIface job)

/-! ## §2. Inserting. -/

variable (bridgeIface : String)

theorem toggle_nil (ignoreErrors : Bool) (action : String) (rule : Rule) (rs : Ruleset) :
    toggle ignoreErrors action rule [] rs
      = (toggleStatus ignoreErrors (raw .quiet (action :: "FORWARD" :: rule) rs).1, [],
          (raw .quiet (action :: "FORWARD" :: rule) rs).2) := rfl

/-- With no fault, an `-I` run over `ps` puts their rules, last first, at the
head of FORWARD. -/
theorem linkPorts_insert {job : LinkJob} (hI : job.action = "-I") :
    ∀ (ps : List String), (∀ p ∈ ps, (split p).isSome) → ∀ rs : Ruleset,
      linkPorts bridgeIface job ps [] rs
        = (.ok, rs.set "FORWARD"
            ((ps.flatMap (portRules bridgeIface job)).reverse ++ rs "FORWARD"))
  | [], _, rs => by simp [linkPorts]
  | p :: ps, hps, rs => by
    obtain ⟨⟨port, proto⟩, hp⟩ := Option.isSome_iff_exists.1 (hps p (.head _))
    simp [linkPorts, hp, toggle_nil, hI, raw_of_quiet, toggleStatus, portRules,
      linkPorts_insert hI ps (fun q hq => hps q (.tail _ hq))]

/-- A fault-free `-I` job puts exactly its rules at the head of FORWARD, two
per port, and leaves every other chain alone. -/
theorem linkContainers_insert {job : LinkJob} (hI : job.action = "-I")
    (hports : ∀ p ∈ job.ports, (split p).isSome) (rs : Ruleset) :
    linkContainers bridgeIface job [] rs
      = (.ok, rs.set "FORWARD" ((linkRules bridgeIface job).reverse ++ rs "FORWARD")) :=
  linkPorts_insert bridgeIface hI job.ports hports rs

/-! ## §3. Deleting. -/

/-- With no fault, a `-D` run over `ps` deletes their rules from a FORWARD
chain `B ++ A ++ c` in which `A` holds exactly them and `B` none of them. -/
theorem linkPorts_delete {job : LinkJob} (hD : job.action = "-D") :
    ∀ (ps : List String), (∀ p ∈ ps, (split p).isSome) →
    ∀ (A B c : List Rule) (rs : Ruleset), A.Perm (ps.flatMap (portRules bridgeIface job)) →
      (∀ r ∈ B, r ∉ ps.flatMap (portRules bridgeIface job)) → rs "FORWARD" = B ++ A ++ c →
      linkPorts bridgeIface job ps [] rs = (.ok, rs.set "FORWARD" (B ++ c))
  | [], _, A, B, c, rs, hA, _, hF => by
    rw [List.flatMap_nil, List.perm_nil] at hA
    subst hA
    rw [List.append_nil] at hF
    simp [linkPorts, ← hF]
  | p :: ps, hps, A, B, c, rs, hA, hB, hF => by
    obtain ⟨⟨port, proto⟩, hp⟩ := Option.isSome_iff_exists.1 (hps p (.head _))
    have hrules : (p :: ps).flatMap (portRules bridgeIface job)
        = forwardRule bridgeIface proto job.parentIP "--dport" port job.childIP ::
          forwardRule bridgeIface proto job.childIP "--sport" port job.parentIP ::
          ps.flatMap (portRules bridgeIface job) := by
      simp [portRules, hp]
    rw [hrules] at hA hB
    simp only [linkPorts, hp, toggle_nil, hD]
    generalize forwardRule bridgeIface proto job.parentIP "--dport" port job.childIP = r1 at hA hB ⊢
    generalize forwardRule bridgeIface proto job.childIP "--sport" port job.parentIP = r2 at hA hB ⊢
    have hA1 := (hA.erase r1).trans (List.Perm.of_eq (List.erase_cons_head _ _))
    have hA2 := (hA1.erase r2).trans (List.Perm.of_eq (List.erase_cons_head _ _))
    have e1 := raw_delete_middle hF (hA.symm.subset (.head _)) fun h => hB _ h (.head _)
    have e2 : raw .quiet ("-D" :: "FORWARD" :: r2) (rs.set "FORWARD" (B ++ A.erase r1 ++ c))
        = _ := raw_delete_middle (Ruleset.set_same _ _ _) (hA1.symm.subset (.head _))
      fun h => hB _ h (.tail _ (.head _))
    simp only [e1, toggleStatus_quiet, toggle_nil, e2, Ruleset.set_set]
    simpa using linkPorts_delete hD ps (fun q hq => hps q (.tail _ hq)) _ B c
      (rs.set "FORWARD" _) hA2 (fun r hr hm => hB r hr (.tail _ (.tail _ hm)))
      (Ruleset.set_same _ _ _)

/-! ## §4. Other links do not see the block. -/

section Others

variable {ours : Rule → Prop} {A : List Rule}

/-- A link job none of whose rules is ours runs the same with and without the
hidden block, and leaves it hidden. -/
theorem linkPorts_congr_hidden (hA : ∀ r ∈ A, ours r) (j : LinkJob)
    (hj : ∀ proto port, ¬ ours (forwardRule bridgeIface proto j.parentIP "--dport" port j.childIP)
      ∧ ¬ ours (forwardRule bridgeIface proto j.childIP "--sport" port j.parentIP)) :
    ∀ (ps : List String) (ans : List Answer) (rs rs' : Ruleset), Hidden ours A rs rs' →
      (linkPorts bridgeIface j ps ans rs).1 = (linkPorts bridgeIface j ps ans rs').1 ∧
      Hidden ours A (linkPorts bridgeIface j ps ans rs).2 (linkPorts bridgeIface j ps ans rs').2
  | [], _, _, _, h => ⟨rfl, h⟩
  | p :: ps, ans, rs, rs', h => by
    cases hp : split p with
    | none => simpa [linkPorts, hp] using h
    | some pp =>
      obtain ⟨port, proto⟩ := pp
      obtain ⟨h1, h2⟩ := hj proto port
      obtain ⟨e1, k1⟩ := raw_congr_hidden hA h (ans.headD .quiet) j.action "FORWARD" h1
      simp only [linkPorts, hp, toggle, e1]
      rcases toggleStatus j.ignoreErrors
        (raw (ans.headD .quiet) (j.action :: "FORWARD" :: _) rs').1 with e | u
      · exact ⟨rfl, k1⟩
      obtain ⟨e2, k2⟩ := raw_congr_hidden hA k1 (ans.tail.headD .quiet) j.action "FORWARD" h2
      simp only [e2]
      rcases toggleStatus j.ignoreErrors
        (raw (ans.tail.headD .quiet) (j.action :: "FORWARD" :: _) _).1 with e | u
      · exact ⟨rfl, k2⟩
      exact linkPorts_congr_hidden hA j hj ps _ _ _ k2

/-- Link jobs none of whose rules is ours leave the block hidden. -/
theorem runLinks_congr_hidden (hA : ∀ r ∈ A, ours r) :
    ∀ (jobs : List (LinkJob × List Answer)),
      (∀ j ∈ jobs, ∀ proto port,
        ¬ ours (forwardRule bridgeIface proto j.1.parentIP "--dport" port j.1.childIP) ∧
        ¬ ours (forwardRule bridgeIface proto j.1.childIP "--sport" port j.1.parentIP)) →
      ∀ rs rs', Hidden ours A rs rs' →
        Hidden ours A (runLinks bridgeIface jobs rs) (runLinks bridgeIface jobs rs')
  | [], _, _, _, h => h
  | j :: jobs, hj, rs, rs', h =>
    runLinks_congr_hidden hA jobs (fun j' hj' => hj j' (.tail _ hj')) _ _
      (linkPorts_congr_hidden bridgeIface hA j.1 (hj j (.head _)) j.1.ports j.2 rs rs' h).2

end Others

/-! ## §5. A link deleted is a link undone. -/

theorem mem_portRules {job : LinkJob} {p : String} {r : Rule} :
    r ∈ portRules bridgeIface job p ↔ ∃ port proto, split p = some (port, proto) ∧
      (r = forwardRule bridgeIface proto job.parentIP "--dport" port job.childIP ∨
        r = forwardRule bridgeIface proto job.childIP "--sport" port job.parentIP) := by
  unfold portRules
  cases split p with
  | none => simp
  | some pp =>
    constructor
    · intro h; exact ⟨pp.1, pp.2, rfl, by simpa using h⟩
    · rintro ⟨port, proto, h, hr⟩
      cases h
      simpa using hr

/-- The rules of a link of another parent/child pair are never those of this one. -/
theorem forwardRule_not_mem_linkRules {job j : LinkJob}
    (hj : (j.parentIP, j.childIP) ≠ (job.parentIP, job.childIP)) (proto port : String) :
    forwardRule bridgeIface proto j.parentIP "--dport" port j.childIP ∉ linkRules bridgeIface job ∧
      forwardRule bridgeIface proto j.childIP "--sport" port j.parentIP ∉
        linkRules bridgeIface job := by
  simp only [ne_eq, Prod.mk.injEq] at hj
  simp only [linkRules, List.mem_flatMap, mem_portRules, forwardRule_inj]
  constructor <;> rintro ⟨_, _, _, _, _, h | h⟩ <;> simp_all

/-- After a fault-free `-I` job, any link jobs of other parent/child pairs
(with any answers from iptables), then the fault-free `-D` job with the same
environment: the `-I` job put its two rules per port at the head of FORWARD,
the `-D` job succeeds, and the rules are those the other jobs alone leave. -/
theorem link_delete_undoes_insert (job : LinkJob) (hI : job.action = "-I")
    (hports : ∀ p ∈ job.ports, (split p).isSome) (others : List (LinkJob × List Answer))
    (hothers : ∀ o ∈ others, (o.1.parentIP, o.1.childIP) ≠ (job.parentIP, job.childIP))
    (rs : Ruleset) :
    linkContainers bridgeIface job [] rs
        = (.ok, rs.set "FORWARD" ((linkRules bridgeIface job).reverse ++ rs "FORWARD")) ∧
      linkContainers bridgeIface { job with action := "-D" } []
          (runLinks bridgeIface others (linkContainers bridgeIface job [] rs).2)
        = (.ok, runLinks bridgeIface others rs) := by
  have hins := linkContainers_insert bridgeIface hI hports rs
  refine ⟨hins, ?_⟩
  rw [hins]
  have hA : ∀ r ∈ (linkRules bridgeIface job).reverse, r ∈ linkRules bridgeIface job :=
    fun _ h => List.mem_reverse.1 h
  have h0 : Hidden (· ∈ linkRules bridgeIface job) (linkRules bridgeIface job).reverse
      (rs.set "FORWARD" ((linkRules bridgeIface job).reverse ++ rs "FORWARD")) rs := by
    simpa using hidden_set_forward (· ∈ linkRules bridgeIface job)
      (linkRules bridgeIface job).reverse (fun ch _ => (rfl : rs ch = rs ch)) [] (rs "FORWARD")
      (by simp)
  obtain ⟨⟨B, c, hF, hF', hB⟩, hrest⟩ := runLinks_congr_hidden bridgeIface hA others
    (fun o ho => forwardRule_not_mem_linkRules bridgeIface (hothers o ho)) _ _ h0
  rw [linkContainers, @linkPorts_delete bridgeIface { job with action := "-D" } rfl
    job.ports hports _ B c _ (List.reverse_perm _) hB hF]
  congr 1
  funext ch
  by_cases hch : ch = "FORWARD"
  · subst hch; simp [hF']
  · simp [hch, hrest ch hch]

/-- A web container linked to its database on port 80, and a link of another
pair, refused once by iptables, in between. -/
theorem link_delete_undoes_insert_web_db :
    linkContainers "docker0" ⟨"-I", "172.17.0.3", "172.17.0.2", false, ["80/tcp"]⟩ []
        (fun _ => [])
      = (.ok, Ruleset.set (fun _ => []) "FORWARD"
          (linkRules "docker0" ⟨"-I", "172.17.0.3", "172.17.0.2", false, ["80/tcp"]⟩).reverse) ∧
    linkContainers "docker0" ⟨"-D", "172.17.0.3", "172.17.0.2", false, ["80/tcp"]⟩ []
        (runLinks "docker0" [(⟨"-I", "172.17.0.5", "172.17.0.4", false, ["53/udp"]⟩, [.fails "xtables lock"])]
          (linkContainers "docker0" ⟨"-I", "172.17.0.3", "172.17.0.2", false, ["80/tcp"]⟩ []
            (fun _ => [])).2)
      = (.ok, runLinks "docker0"
          [(⟨"-I", "172.17.0.5", "172.17.0.4", false, ["53/udp"]⟩, [.fails "xtables lock"])]
          (fun _ => [])) := by
  simpa using link_delete_undoes_insert "docker0"
    ⟨"-I", "172.17.0.3", "172.17.0.2", false, ["80/tcp"]⟩ rfl (by decide)
    [(⟨"-I", "172.17.0.5", "172.17.0.4", false, ["53/udp"]⟩, [.fails "xtables lock"])]
    (by decide) (fun _ => [])

/-! ## §6. A failed `-I` job keeps what it inserted. -/

/-- One `-I` command of a job that does not ignore errors either leaves the
rules alone or puts its rule first in FORWARD; the job goes on only in the
second case. -/
theorem toggle_insert (rule : Rule) (ans : List Answer) (rs : Ruleset) :
    ((toggle false "-I" rule ans rs).2.2 = rs ∨
      (toggle false "-I" rule ans rs).2.2 = rs.insert "FORWARD" rule) ∧
    ((toggle false "-I" rule ans rs).1 = .ok () →
      (toggle false "-I" rule ans rs).2.2 = rs.insert "FORWARD" rule) := by
  simp only [toggle, raw, command_insert]
  cases ans.headD .quiet with
  | fails msg => exact ⟨.inl rfl, fun h => by simp [toggleStatus] at h⟩
  | quiet => exact ⟨.inr rfl, fun _ => rfl⟩
  | prints out => exact ⟨.inr rfl, fun _ => rfl⟩

/-- Whatever iptables answers, an `-I` run over `ps` that does not ignore
errors leaves the first `k` of its rules, last first, at the head of FORWARD
and every other chain alone; when it succeeds, all of its rules. -/
theorem linkPorts_insert_prefix {job : LinkJob} (hI : job.action = "-I")
    (hig : job.ignoreErrors = false) :
    ∀ (ps : List String) (ans : List Answer) (rs : Ruleset), ∃ k,
      (linkPorts bridgeIface job ps ans rs).2 = rs.set "FORWARD"
        (((ps.flatMap (portRules bridgeIface job)).take k).reverse ++ rs "FORWARD") ∧
      ((linkPorts bridgeIface job ps ans rs).1 = .ok →
        k = (ps.flatMap (portRules bridgeIface job)).length) := by
  intro ps
  induction ps with
  | nil => exact fun _ rs => ⟨0, by simp [linkPorts], fun _ => rfl⟩
  | cons p ps ih =>
    intro ans rs
    cases hp : split p with
    | none => exact ⟨0, by simp [linkPorts, hp], fun h => by simp [linkPorts, hp] at h⟩
    | some pp =>
      obtain ⟨port, proto⟩ := pp
      have hrules : (p :: ps).flatMap (portRules bridgeIface job)
          = forwardRule bridgeIface proto job.parentIP "--dport" port job.childIP ::
            forwardRule bridgeIface proto job.childIP "--sport" port job.parentIP ::
            ps.flatMap (portRules bridgeIface job) := by
        simp [portRules, hp]
      rw [hrules]
      simp only [linkPorts, hp, hI, hig]
      generalize forwardRule bridgeIface proto job.parentIP "--dport" port job.childIP = r1
      generalize forwardRule bridgeIface proto job.childIP "--sport" port job.parentIP = r2
      obtain ⟨c1, k1⟩ := toggle_insert r1 ans rs
      rcases h1 : toggle false "-I" r1 ans rs with ⟨_ | ⟨⟩, ans1, rs1⟩ <;> rw [h1] at c1 k1 <;>
        dsimp only at c1 k1 ⊢
      · rcases c1 with rfl | rfl
        · exact ⟨0, by simp, fun h => nomatch h⟩
        · exact ⟨1, by simp [Ruleset.insert], fun h => nomatch h⟩
      obtain rfl := k1 rfl
      obtain ⟨c2, k2⟩ := toggle_insert r2 ans1 (rs.insert "FORWARD" r1)
      rcases h2 : toggle false "-I" r2 ans1 (rs.insert "FORWARD" r1) with ⟨_ | ⟨⟩, ans2, rs2⟩ <;>
        rw [h2] at c2 k2 <;> dsimp only at c2 k2 ⊢
      · rcases c2 with rfl | rfl
        · exact ⟨1, by simp [Ruleset.insert], fun h => nomatch h⟩
        · exact ⟨2, by simp [Ruleset.insert], fun h => nomatch h⟩
      obtain rfl := k2 rfl
      obtain ⟨k, hk, hok⟩ := ih ans2 ((rs.insert "FORWARD" r1).insert "FORWARD" r2)
      refine ⟨k + 2, ?_, fun h => by simp [hok h]⟩
      rw [hk]
      simp [Ruleset.insert]

/-- An `-I` link job that does not ignore errors leaves, whatever iptables
answers, the first `k` of its rules at the head of FORWARD and every other
chain alone: a job that fails part way keeps the rules it got in. -/
theorem linkContainers_insert_prefix (job : LinkJob) (hI : job.action = "-I")
    (hig : job.ignoreErrors = false) (ans : List Answer) (rs : Ruleset) : ∃ k,
      (linkContainers bridgeIface job ans rs).2 = rs.set "FORWARD"
        (((linkRules bridgeIface job).take k).reverse ++ rs "FORWARD") ∧
      ((linkContainers bridgeIface job ans rs).1 = .ok → k = (linkRules bridgeIface job).length) :=
  linkPorts_insert_prefix bridgeIface hI hig job.ports ans rs

/-- The web/db link with iptables refusing the second rule. -/
theorem linkContainers_insert_prefix_refused :
    (⟨"-I", "172.17.0.3", "172.17.0.2", false, ["80/tcp"]⟩ : LinkJob).action = "-I" ∧
    (⟨"-I", "172.17.0.3", "172.17.0.2", false, ["80/tcp"]⟩ : LinkJob).ignoreErrors = false ∧
    ∃ k, (linkContainers "docker0" ⟨"-I", "172.17.0.3", "172.17.0.2", false, ["80/tcp"]⟩
          [.quiet, .fails "xtables lock"] (fun _ => [])).2 = Ruleset.set (fun _ => []) "FORWARD"
        (((linkRules "docker0" ⟨"-I", "172.17.0.3", "172.17.0.2", false, ["80/tcp"]⟩).take
          k).reverse ++ []) ∧
      ((linkContainers "docker0" ⟨"-I", "172.17.0.3", "172.17.0.2", false, ["80/tcp"]⟩
          [.quiet, .fails "xtables lock"] (fun _ => [])).1 = .ok →
        k = (linkRules "docker0" ⟨"-I", "172.17.0.3", "172.17.0.2", false, ["80/tcp"]⟩).length) :=
  ⟨rfl, rfl, linkContainers_insert_prefix "docker0" ⟨"-I", "172.17.0.3", "172.17.0.2", false,
    ["80/tcp"]⟩ rfl rfl [.quiet, .fails "xtables lock"] (fun _ => [])⟩

/-- The web/db link on port 80, iptables taking the first rule and refusing
the second: the job fails, and the first rule stays in FORWARD. -/
theorem link_failed_insert_keeps_rule :
    (linkContainers "docker0" ⟨"-I", "172.17.0.3", "172.17.0.2", false, ["80/tcp"]⟩
        [.quiet, .fails "xtables lock"] (fun _ => [])).1 = .err "xtables lock" ∧
    (linkContainers "docker0" ⟨"-I", "172.17.0.3", "172.17.0.2", false, ["80/tcp"]⟩
        [.quiet, .fails "xtables lock"] (fun _ => [])).2 "FORWARD" =
      [forwardRule "docker0" "tcp" "172.17.0.2" "--dport" "80" "172.17.0.3"] := by
  decide

end DockerDaemon.Bridge
