/-
  DockerDaemon.Bridge.SetupIPTables — `setupIPTables` of
  `daemon/networkdriver/bridge/driver.go`, which `InitDriver` runs on every
  start of the daemon when iptables is enabled.
  ──────────────────────────────────────
  The function sees to five rules: the MASQUERADE rule of POSTROUTING (nat
  table) for the bridge's network, and in FORWARD the bridge-to-bridge rule
  for `icc` (ACCEPT, or DROP), the rule accepting outgoing packets and the
  rule accepting packets of established connections.  It asks for each
  with `Exists` and inserts it with `-I` only when it is missing; before
  the icc rule it deletes the other verdict's rule with `-D` and ignores
  the result.

  Each invocation of the binary takes an `Answer`, as in `Iptables.Chain`.
  `setupSpec` is what the function is for, on the rules alone.  Under
  answers that never refuse, a successful run does exactly `setupSpec`;
  with the quiet answers every run succeeds.

  Main results:
    * `setupIPTables_computes` — under answers that never refuse, a
      successful `setupIPTables` leaves `setupSpec` of the rules.
    * `setupIPTables_nil` — with the quiet answers it succeeds and leaves
      `setupSpec` of the rules.
    * `installed_setupSpec` — from rules holding each managed rule at most
      once, `setupSpec` leaves the MASQUERADE, icc, outgoing and
      established rules once each, the other icc rule not at all, and every
      rule it does not manage in its place.
    * `setupIPTables_idempotent` — so a successful run is followed by
      second runs that succeed and change nothing.
    * `setupIPTables_keeps_others` — whatever iptables answers, refusals
      included, no rule the function does not manage moves.
-/
import DockerDaemon.Iptables.Chain

namespace DockerDaemon.Bridge

open DockerDaemon.Iptables

/-! ## §1. The rules. -/

/-- `natArgs` after its chain `POSTROUTING`: masquerade what the bridge's
network `addr` sends out of another interface. -/
def natRule (bridgeIface addr : String) : Rule :=
  ["-t", "nat", "-s", addr, "!", "-o", bridgeIface, "-j", "MASQUERADE"]

/-- `acceptArgs` (`verdict = "ACCEPT"`) and `dropArgs` (`"DROP"`) after their
chain `FORWARD`: packets from the bridge to the bridge. -/
def iccRule (bridgeIface verdict : String) : Rule :=
  ["-i", bridgeIface, "-o", bridgeIface, "-j", verdict]

/-- `outgoingArgs` after its chain `FORWARD`. -/
def outgoingRule (bridgeIface : String) : Rule :=
  ["-i", bridgeIface, "!", "-o", bridgeIface, "-j", "ACCEPT"]

/-- `existingArgs` after its chain `FORWARD`. -/
def existingRule (bridgeIface : String) : Rule :=
  ["-o", bridgeIface, "-m", "conntrack", "--ctstate", "RELATED,ESTABLISHED", "-j", "ACCEPT"]

/-- The verdict of the bridge-to-bridge rule `setupIPTables(addr, icc)` wants. -/
def iccVerdict (icc : Bool) : String := if icc then "ACCEPT" else "DROP"

theorem iccRule_ne (bridgeIface : String) (icc : Bool) :
    iccRule bridgeIface (iccVerdict icc) ≠ iccRule bridgeIface (iccVerdict !icc) := by
  cases icc <;> simp [iccRule, iccVerdict, Ne, Rule]

theorem outgoingRule_ne_iccRule (bridgeIface verdict : String) :
    outgoingRule bridgeIface ≠ iccRule bridgeIface verdict := by
  simp [outgoingRule, iccRule, Ne, Rule]

theorem existingRule_ne_iccRule (bridgeIface verdict : String) :
    existingRule bridgeIface ≠ iccRule bridgeIface verdict := by
  simp [existingRule, iccRule, Ne, Rule]

theorem existingRule_ne_outgoingRule (bridgeIface : String) :
    existingRule bridgeIface ≠ outgoingRule bridgeIface := by
  simp [existingRule, outgoingRule, Ne, Rule]

/-! ## §2. The function. -/

/-- A part of `setupIPTables`, from the answers left and the rules: its
error, the answers it did not use, and the rules after it. -/
abbrev Step := List Answer → Ruleset → Except String Unit × List Answer × Ruleset

/-- Go's `if err != nil { return err }` between two parts. -/
def Step.andThen (f g : Step) : Step := fun ans rs =>
  match f ans rs with
  | (.error e, ans, rs) => (.error e, ans, rs)
  | (.ok _, ans, rs) => g ans rs

/-- `if output, err := iptables.Raw("-I", args...); err != nil {...} else if
len(output) != 0 {...}`. -/
def insertStatus (errMsg outMsg : String) (r : RawResult) : Except String Unit :=
  match r.err with
  | some e => .error (errMsg ++ ": " ++ e)
  | none => if r.output.length ≠ 0 then .error (outMsg ++ ": " ++ r.output) else .ok ()

/-- `if !iptables.Exists(args...) { ...iptables.Raw("-I", args...)... }` for
`args = chain :: rule`: the block each rule the function ensures gets, with
its two error texts. -/
def ensureRule (errMsg outMsg chain : String) (rule : Rule) : Step := fun ans rs =>
  if ruleExists (ans.headD .quiet) (chain :: rule) rs then (.ok (), ans.tail, rs)
  else
    let r := raw (ans.tail.headD .quiet) ("-I" :: chain :: rule) rs
    (insertStatus errMsg outMsg r.1, ans.tail.tail, r.2)

/-- `iptables.Raw("-D", args...)` with its result ignored. -/
def deleteIgnored (chain : String) (rule : Rule) : Step := fun ans rs =>
  (.ok (), ans.tail, (raw (ans.headD .quiet) ("-D" :: chain :: rule) rs).2)

/-- The `if !icc {...} else {...}` block. -/
def iccRules (bridgeIface : String) (icc : Bool) : Step :=
  if !icc then
    (deleteIgnored "FORWARD" (iccRule bridgeIface "ACCEPT")).andThen
      (ensureRule "Unable to prevent intercontainer communication"
        "Error disabling intercontainer communication" "FORWARD" (iccRule bridgeIface "DROP"))
  else
    (deleteIgnored "FORWARD" (iccRule bridgeIface "DROP")).andThen
      (ensureRule "Unable to allow intercontainer communication"
        "Error enabling intercontainer communication" "FORWARD" (iccRule bridgeIface "ACCEPT"))

/-- `setupIPTables(addr, icc)`, `bridgeIface` being the driver's global and
`addr` the text of the bridge's network. -/
def setupIPTables (bridgeIface addr : String) (icc : Bool) : Step :=
  (ensureRule "Unable to enable network bridge NAT" "Error iptables postrouting" "POSTROUTING"
      (natRule bridgeIface addr)).andThen <|
  (iccRules bridgeIface icc).andThen <|
  (ensureRule "Unable to allow outgoing packets" "Error iptables allow outgoing" "FORWARD"
      (outgoingRule bridgeIface)).andThen <|
  ensureRule "Unable to allow incoming packets" "Error iptables allow incoming" "FORWARD"
    (existingRule bridgeIface)

theorem andThen_of_ok {f g : Step} {ans ans' : List Answer} {rs rs' : Ruleset}
    (h : f ans rs = (.ok (), ans', rs')) : f.andThen g ans rs = g ans' rs' := by
  simp only [Step.andThen, h]

/-! ## §3. What it is for. -/

/-- A chain with `rule` in it: unchanged when it is there, `rule` first
otherwise. -/
def ensureIn (rule : Rule) (rules : List Rule) : List Rule :=
  if rule ∈ rules then rules else rule :: rules

/-- What `setupIPTables(addr, icc)` does to the rules: the MASQUERADE rule in
POSTROUTING; in FORWARD, the other verdict's bridge-to-bridge rule out, then
the icc, outgoing and established rules in. -/
def setupSpec (bridgeIface addr : String) (icc : Bool) (rs : Ruleset) : Ruleset :=
  (rs.set "POSTROUTING" (ensureIn (natRule bridgeIface addr) (rs "POSTROUTING"))).set "FORWARD"
    (ensureIn (existingRule bridgeIface) <| ensureIn (outgoingRule bridgeIface) <|
      ensureIn (iccRule bridgeIface (iccVerdict icc)) <|
      (rs "FORWARD").erase (iccRule bridgeIface (iccVerdict !icc)))

/-- The rules `setupIPTables` manages, by chain. -/
def managed (bridgeIface addr chain : String) (rule : Rule) : Bool :=
  (chain == "POSTROUTING" && rule == natRule bridgeIface addr) ||
    (chain == "FORWARD" && (rule == iccRule bridgeIface "ACCEPT" ||
      rule == iccRule bridgeIface "DROP" || rule == outgoingRule bridgeIface ||
      rule == existingRule bridgeIface))

/-- Each managed rule occurs at most once. -/
structure AtMostOnce (bridgeIface addr : String) (rs : Ruleset) : Prop where
  nat : (rs "POSTROUTING").count (natRule bridgeIface addr) ≤ 1
  bridge : ∀ icc, (rs "FORWARD").count (iccRule bridgeIface (iccVerdict icc)) ≤ 1
  outgoing : (rs "FORWARD").count (outgoingRule bridgeIface) ≤ 1
  existing : (rs "FORWARD").count (existingRule bridgeIface) ≤ 1

/-- The rules `setupIPTables(addr, icc)` is after: the MASQUERADE, icc,
outgoing and established rules once each, the other verdict's rule not at
all. -/
structure Installed (bridgeIface addr : String) (icc : Bool) (rs : Ruleset) : Prop where
  nat : (rs "POSTROUTING").count (natRule bridgeIface addr) = 1
  bridge : (rs "FORWARD").count (iccRule bridgeIface (iccVerdict icc)) = 1
  noOther : (rs "FORWARD").count (iccRule bridgeIface (iccVerdict !icc)) = 0
  outgoing : (rs "FORWARD").count (outgoingRule bridgeIface) = 1
  existing : (rs "FORWARD").count (existingRule bridgeIface) = 1

/-- Every rule `setupIPTables` does not manage keeps its place: without the
managed rules, each chain of `rs'` is that of `rs`. -/
def OthersKept (bridgeIface addr : String) (rs rs' : Ruleset) : Prop :=
  ∀ chain, (rs' chain).filter (fun r => !managed bridgeIface addr chain r) =
    (rs chain).filter (fun r => !managed bridgeIface addr chain r)

/-! ## §4. `setupSpec`. -/

section EnsureIn

variable {rule : Rule} {rules : List Rule}

theorem count_ensureIn_self (h : rules.count rule ≤ 1) : (ensureIn rule rules).count rule = 1 := by
  unfold ensureIn
  split
  · have := List.count_pos_iff.2 ‹rule ∈ rules›
    omega
  · rw [List.count_cons_self, List.count_eq_zero.2 ‹_›]

theorem count_ensureIn_of_ne {r : Rule} (h : r ≠ rule) :
    (ensureIn rule rules).count r = rules.count r := by
  unfold ensureIn
  split
  · rfl
  · exact List.count_cons_of_ne h _

theorem filter_ensureIn {p : Rule → Bool} (hp : p rule = false) :
    (ensureIn rule rules).filter p = rules.filter p := by
  unfold ensureIn
  split
  · rfl
  · simp [hp]

end EnsureIn

/-- Erasing a rule the filter drops does not change what it keeps. -/
theorem filter_erase_of_false {p : Rule → Bool} {rule : Rule} (hp : p rule = false)
    (rules : List Rule) : (rules.erase rule).filter p = rules.filter p := by
  rw [← List.erase_filter, List.erase_of_not_mem (by simp [hp])]

theorem managed_forward (bridgeIface addr : String) (icc : Bool) :
    managed bridgeIface addr "FORWARD" (iccRule bridgeIface (iccVerdict icc)) = true ∧
      managed bridgeIface addr "FORWARD" (outgoingRule bridgeIface) = true ∧
      managed bridgeIface addr "FORWARD" (existingRule bridgeIface) = true := by
  cases icc <;> simp [managed, iccVerdict]

section Spec

variable {bridgeIface addr : String} {icc : Bool} {rs : Ruleset}

@[simp] theorem setupSpec_postrouting :
    setupSpec bridgeIface addr icc rs "POSTROUTING" =
      ensureIn (natRule bridgeIface addr) (rs "POSTROUTING") := by
  simp [setupSpec]

@[simp] theorem setupSpec_forward :
    setupSpec bridgeIface addr icc rs "FORWARD" =
      ensureIn (existingRule bridgeIface) (ensureIn (outgoingRule bridgeIface)
        (ensureIn (iccRule bridgeIface (iccVerdict icc))
          ((rs "FORWARD").erase (iccRule bridgeIface (iccVerdict !icc))))) := by
  simp [setupSpec]

theorem setupSpec_other {chain : String} (h1 : chain ≠ "POSTROUTING") (h2 : chain ≠ "FORWARD") :
    setupSpec bridgeIface addr icc rs chain = rs chain := by
  simp [setupSpec, h1, h2]

/-- From rules holding each managed rule at most once, `setupSpec` leaves
each rule it wants once, the other verdict's rule not at all, and the rules
it does not manage where they were. -/
theorem installed_setupSpec (h : AtMostOnce bridgeIface addr rs) :
    Installed bridgeIface addr icc (setupSpec bridgeIface addr icc rs) ∧
      OthersKept bridgeIface addr rs (setupSpec bridgeIface addr icc rs) := by
  have hi := iccRule_ne bridgeIface icc
  have ho := outgoingRule_ne_iccRule bridgeIface
  have he := existingRule_ne_iccRule bridgeIface
  have heo := existingRule_ne_outgoingRule bridgeIface
  refine ⟨⟨?nat, ?bridge, ?noOther, ?outgoing, ?existing⟩, fun chain => ?others⟩
  case nat => simpa using count_ensureIn_self h.nat
  case bridge =>
    rw [setupSpec_forward, count_ensureIn_of_ne (he _).symm, count_ensureIn_of_ne (ho _).symm]
    exact count_ensureIn_self (by rw [List.count_erase_of_ne hi]; exact h.bridge icc)
  case noOther =>
    rw [setupSpec_forward, count_ensureIn_of_ne (he _).symm, count_ensureIn_of_ne (ho _).symm,
      count_ensureIn_of_ne hi.symm, List.count_erase_self]
    have := h.bridge !icc
    omega
  case outgoing =>
    rw [setupSpec_forward, count_ensureIn_of_ne heo.symm]
    exact count_ensureIn_self (by
      rw [count_ensureIn_of_ne (ho _), List.count_erase_of_ne (ho _)]; exact h.outgoing)
  case existing =>
    rw [setupSpec_forward]
    exact count_ensureIn_self (by
      rw [count_ensureIn_of_ne heo, count_ensureIn_of_ne (he _), List.count_erase_of_ne (he _)]
      exact h.existing)
  case others =>
    obtain ⟨mi, mo, me⟩ := managed_forward bridgeIface addr icc
    by_cases hF : chain = "FORWARD"
    · subst hF
      rw [setupSpec_forward, filter_ensureIn (by simp [me]), filter_ensureIn (by simp [mo]),
        filter_ensureIn (by simp [mi]),
        filter_erase_of_false (by cases icc <;> simp [managed, iccVerdict])]
    by_cases hP : chain = "POSTROUTING"
    · subst hP
      rw [setupSpec_postrouting, filter_ensureIn (by simp [managed])]
    · rw [setupSpec_other hP hF]

end Spec

/-! ## §5. The function does what it is for. -/

/-- Under answers none of which refuses, a successful `f` does `F` to the
rules and leaves answers none of which refuses. -/
def Computes (f : Step) (F : Ruleset → Ruleset) : Prop :=
  ∀ ans rs, Obeys ans → (f ans rs).1 = .ok () → (f ans rs).2.2 = F rs ∧ Obeys (f ans rs).2.1

theorem Computes.andThen {f g : Step} {F G : Ruleset → Ruleset} (hf : Computes f F)
    (hg : Computes g G) : Computes (f.andThen g) (G ∘ F) := by
  intro ans rs ho hok
  unfold Step.andThen at hok ⊢
  rcases hr : f ans rs with ⟨_ | _, ans', rs'⟩ <;> rw [hr] at hok
  · simp at hok
  · obtain ⟨h1, h2⟩ := hf ans rs ho (by rw [hr])
    rw [hr] at h1 h2
    subst h1
    exact hg ans' (F rs) h2 hok

theorem ensureRule_computes (errMsg outMsg chain : String) (rule : Rule) :
    Computes (ensureRule errMsg outMsg chain rule)
      (fun rs => rs.set chain (ensureIn rule (rs chain))) := by
  intro ans rs ho _
  unfold ensureRule ensureIn
  rw [ruleExists_of_obeyed ho.head]
  by_cases h : rule ∈ rs chain
  · simp [h, ho.tail]
  · rw [decide_eq_false h]
    simp only [h, Bool.false_eq_true, if_false]
    exact ⟨(raw_insert_of_obeyed ho.tail.head chain rule rs).2, ho.tail.tail⟩

theorem deleteIgnored_computes (chain : String) (rule : Rule) :
    Computes (deleteIgnored chain rule) (fun rs => rs.set chain ((rs chain).erase rule)) :=
  fun _ rs ho _ => ⟨raw_delete_of_obeyed ho.head chain rule rs, ho.tail⟩

theorem iccRules_computes (bridgeIface : String) (icc : Bool) :
    Computes (iccRules bridgeIface icc) (fun rs => rs.set "FORWARD"
      (ensureIn (iccRule bridgeIface (iccVerdict icc))
        ((rs "FORWARD").erase (iccRule bridgeIface (iccVerdict !icc))))) := by
  have h := fun v v' e o => (deleteIgnored_computes "FORWARD" (iccRule bridgeIface v')).andThen
    (ensureRule_computes e o "FORWARD" (iccRule bridgeIface v))
  cases icc
  · simpa [iccRules, iccVerdict, Function.comp_def] using h "DROP" "ACCEPT" _ _
  · simpa [iccRules, iccVerdict, Function.comp_def] using h "ACCEPT" "DROP" _ _

/-- Under answers that never refuse, a successful `setupIPTables` leaves
`setupSpec` of the rules. -/
theorem setupIPTables_computes (bridgeIface addr : String) (icc : Bool) :
    Computes (setupIPTables bridgeIface addr icc) (setupSpec bridgeIface addr icc) := by
  have h := (ensureRule_computes "Unable to enable network bridge NAT" "Error iptables postrouting"
    "POSTROUTING" (natRule bridgeIface addr)).andThen <| (iccRules_computes bridgeIface icc).andThen <|
    (ensureRule_computes "Unable to allow outgoing packets" "Error iptables allow outgoing"
      "FORWARD" (outgoingRule bridgeIface)).andThen <|
    ensureRule_computes "Unable to allow incoming packets" "Error iptables allow incoming"
      "FORWARD" (existingRule bridgeIface)
  intro ans rs ho hok
  simpa [setupSpec, Function.comp_def] using h ans rs ho hok

theorem ensureRule_nil (errMsg outMsg chain : String) (rule : Rule) (rs : Ruleset) :
    ensureRule errMsg outMsg chain rule [] rs = (.ok (), [], rs.set chain (ensureIn rule (rs chain))) := by
  unfold ensureRule ensureIn
  rw [ruleExists_of_obeyed obeys_nil.head]
  by_cases h : rule ∈ rs chain
  · simp [h]
  · simp [h, raw_of_quiet, insertStatus, Ruleset.insert]

theorem deleteIgnored_nil (chain : String) (rule : Rule) (rs : Ruleset) :
    deleteIgnored chain rule [] rs = (.ok (), [], rs.set chain ((rs chain).erase rule)) :=
  congrArg (fun rs' => (Except.ok (), [], rs')) (raw_delete_of_obeyed obeys_nil.head chain rule rs)

/-- With the quiet answers, `setupIPTables` succeeds and leaves `setupSpec`
of the rules. -/
theorem setupIPTables_nil (bridgeIface addr : String) (icc : Bool) (rs : Ruleset) :
    setupIPTables bridgeIface addr icc [] rs = (.ok (), [], setupSpec bridgeIface addr icc rs) := by
  cases icc <;>
    simp [setupIPTables, iccRules, setupSpec, iccVerdict, Step.andThen, ensureRule_nil,
      deleteIgnored_nil]

/-! ## §6. A second run. -/

/-- Under answers none of which refuses, `f` succeeds on `rs` and leaves it
as it is. -/
def Fixes (f : Step) (rs : Ruleset) : Prop :=
  ∀ ans, Obeys ans → ∃ ans', f ans rs = (.ok (), ans', rs) ∧ Obeys ans'

theorem Fixes.andThen {f g : Step} {rs : Ruleset} (hf : Fixes f rs) (hg : Fixes g rs) :
    Fixes (f.andThen g) rs := fun ans ho => by
  obtain ⟨ans', h, ho'⟩ := hf ans ho
  rw [andThen_of_ok h]
  exact hg ans' ho'

section Fixes

variable {chain : String} {rule : Rule} {rs : Ruleset}

theorem ensureRule_fixes (errMsg outMsg : String) (h : rule ∈ rs chain) :
    Fixes (ensureRule errMsg outMsg chain rule) rs :=
  fun ans ho => ⟨ans.tail, by
    unfold ensureRule
    rw [ruleExists_of_obeyed ho.head, if_pos (decide_eq_true h)], ho.tail⟩

theorem deleteIgnored_fixes (h : rule ∉ rs chain) : Fixes (deleteIgnored chain rule) rs :=
  fun ans ho => ⟨ans.tail, by
    unfold deleteIgnored
    rw [raw_delete_of_obeyed ho.head, List.erase_of_not_mem h, Ruleset.set_self], ho.tail⟩

end Fixes

/-- On rules it is after, `setupIPTables` succeeds under answers that never
refuse, and changes nothing. -/
theorem setupIPTables_fixes {bridgeIface addr : String} {icc : Bool} {rs : Ruleset}
    (h : Installed bridgeIface addr icc rs) : Fixes (setupIPTables bridgeIface addr icc) rs := by
  have mem : ∀ {chain rule}, (rs chain).count rule = 1 → rule ∈ rs chain :=
    fun hc => List.count_pos_iff.1 (by omega)
  have hicc : Fixes (iccRules bridgeIface icc) rs := by
    have hdel := deleteIgnored_fixes (List.count_eq_zero.1 h.noOther)
    cases icc
    · exact hdel.andThen (ensureRule_fixes _ _ (mem h.bridge))
    · exact hdel.andThen (ensureRule_fixes _ _ (mem h.bridge))
  exact (ensureRule_fixes _ _ (mem h.nat)).andThen <| hicc.andThen <|
    (ensureRule_fixes _ _ (mem h.outgoing)).andThen (ensureRule_fixes _ _ (mem h.existing))

/-- From rules holding each managed rule at most once, a `setupIPTables`
that succeeds under answers that never refuse leaves the MASQUERADE, icc,
outgoing and established rules once each, the other verdict's rule not at
all, and every other rule in its place; and a second run with the same
arguments, under answers that never refuse, succeeds and changes nothing. -/
theorem setupIPTables_idempotent (bridgeIface addr : String) (icc : Bool) (ans : List Answer)
    (rs : Ruleset) (ho : Obeys ans) (hat : AtMostOnce bridgeIface addr rs)
    (hok : (setupIPTables bridgeIface addr icc ans rs).1 = .ok ()) :
    Installed bridgeIface addr icc (setupIPTables bridgeIface addr icc ans rs).2.2 ∧
    OthersKept bridgeIface addr rs (setupIPTables bridgeIface addr icc ans rs).2.2 ∧
    ∀ ans', Obeys ans' →
      (setupIPTables bridgeIface addr icc ans' (setupIPTables bridgeIface addr icc ans rs).2.2).1
        = .ok () ∧
      (setupIPTables bridgeIface addr icc ans' (setupIPTables bridgeIface addr icc ans rs).2.2).2.2
        = (setupIPTables bridgeIface addr icc ans rs).2.2 := by
  rw [(setupIPTables_computes bridgeIface addr icc ans rs ho hok).1]
  obtain ⟨hi, hk⟩ := @installed_setupSpec _ _ icc _ hat
  refine ⟨hi, hk, fun ans' ho' => ?_⟩
  obtain ⟨_, h, _⟩ := setupIPTables_fixes hi ans' ho'
  rw [h]
  exact ⟨rfl, rfl⟩


/-- What a daemon run with `--icc=false` on docker0 leaves, beside a rule of
the host's own. -/
def iccOffRules : Ruleset := fun chain =>
  if chain = "POSTROUTING" then [natRule "docker0" "172.17.42.1/16"]
  else if chain = "FORWARD" then
    [existingRule "docker0", outgoingRule "docker0", iccRule "docker0" "DROP",
      ["-i", "eth0", "-j", "ACCEPT"]]
  else []

/-- The daemon restarted with `--icc=true`: the DROP rule gives way to ACCEPT. -/
theorem setupIPTables_idempotent_icc_on :
    Obeys [] ∧ AtMostOnce "docker0" "172.17.42.1/16" iccOffRules ∧
    (setupIPTables "docker0" "172.17.42.1/16" true [] iccOffRules).1 = .ok () ∧
    Installed "docker0" "172.17.42.1/16" true
      (setupIPTables "docker0" "172.17.42.1/16" true [] iccOffRules).2.2 ∧
    OthersKept "docker0" "172.17.42.1/16" iccOffRules
      (setupIPTables "docker0" "172.17.42.1/16" true [] iccOffRules).2.2 ∧
    ∀ ans', Obeys ans' →
      (setupIPTables "docker0" "172.17.42.1/16" true ans'
        (setupIPTables "docker0" "172.17.42.1/16" true [] iccOffRules).2.2).1 = .ok () ∧
      (setupIPTables "docker0" "172.17.42.1/16" true ans'
        (setupIPTables "docker0" "172.17.42.1/16" true [] iccOffRules).2.2).2.2 =
        (setupIPTables "docker0" "172.17.42.1/16" true [] iccOffRules).2.2 :=
  have hat : AtMostOnce "docker0" "172.17.42.1/16" iccOffRules :=
    ⟨by decide, fun icc => by cases icc <;> decide, by decide, by decide⟩
  have hok : (setupIPTables "docker0" "172.17.42.1/16" true [] iccOffRules).1 = .ok () := by
    rw [setupIPTables_nil]
  ⟨obeys_nil, hat, hok,
    setupIPTables_idempotent "docker0" "172.17.42.1/16" true [] iccOffRules obeys_nil hat hok⟩


/- The idempotence needs iptables to obey: after a first run, a restart whose
first `-C` is refused (the xtables lock is taken) still succeeds, and the
MASQUERADE rule is there twice. -/
example :
    (setupIPTables "docker0" "172.17.42.1/16" true [.fails "xtables lock"]
        (setupIPTables "docker0" "172.17.42.1/16" true [] iccOffRules).2.2).1.isOk = true ∧
    ((setupIPTables "docker0" "172.17.42.1/16" true [.fails "xtables lock"]
        (setupIPTables "docker0" "172.17.42.1/16" true [] iccOffRules).2.2).2.2
          "POSTROUTING").count (natRule "docker0" "172.17.42.1/16") = 2 := by
  decide

/-! ## §7. Whatever iptables answers. -/

section Others

variable {bridgeIface addr : String}

theorem OthersKept.refl (rs : Ruleset) : OthersKept bridgeIface addr rs rs := fun _ => rfl

theorem OthersKept.trans {rs rs' rs'' : Ruleset} (h1 : OthersKept bridgeIface addr rs rs')
    (h2 : OthersKept bridgeIface addr rs' rs'') : OthersKept bridgeIface addr rs rs'' :=
  fun chain => (h2 chain).trans (h1 chain)

/-- Replacing a chain by one with the same unmanaged rules keeps the others. -/
theorem othersKept_set {rs : Ruleset} {chain : String} {rules : List Rule}
    (h : rules.filter (fun r => !managed bridgeIface addr chain r) =
      (rs chain).filter (fun r => !managed bridgeIface addr chain r)) :
    OthersKept bridgeIface addr rs (rs.set chain rules) := fun c => by
  by_cases hc : c = chain
  · subst hc
    simpa using h
  · simp [hc]

/-- A part that, whatever iptables answers and however it ends, moves no
rule the function does not manage. -/
def KeepsOthers (bridgeIface addr : String) (f : Step) : Prop :=
  ∀ ans rs, OthersKept bridgeIface addr rs (f ans rs).2.2

theorem KeepsOthers.andThen {f g : Step} (hf : KeepsOthers bridgeIface addr f)
    (hg : KeepsOthers bridgeIface addr g) : KeepsOthers bridgeIface addr (f.andThen g) := by
  intro ans rs
  have h1 := hf ans rs
  unfold Step.andThen
  rcases hr : f ans rs with ⟨_ | _, ans', rs'⟩ <;> rw [hr] at h1
  · exact h1
  · exact h1.trans (hg ans' rs')

theorem ensureRule_keepsOthers (errMsg outMsg : String) {chain : String} {rule : Rule}
    (hm : managed bridgeIface addr chain rule = true) :
    KeepsOthers bridgeIface addr (ensureRule errMsg outMsg chain rule) := by
  intro ans rs
  unfold ensureRule
  split
  · exact .refl rs
  · show OthersKept bridgeIface addr rs (raw (ans.tail.headD .quiet) ("-I" :: chain :: rule) rs).2
    rcases raw_rules_cases (ans.tail.headD .quiet) ("-I" :: chain :: rule) rs with h | h
    · rw [h]
      exact .refl rs
    · rw [command_insert] at h
      rw [← Option.some.inj h]
      exact othersKept_set (by simp [hm])

theorem deleteIgnored_keepsOthers {chain : String} {rule : Rule}
    (hm : managed bridgeIface addr chain rule = true) :
    KeepsOthers bridgeIface addr (deleteIgnored chain rule) := by
  intro ans rs
  show OthersKept bridgeIface addr rs (raw (ans.headD .quiet) ("-D" :: chain :: rule) rs).2
  rcases raw_rules_cases (ans.headD .quiet) ("-D" :: chain :: rule) rs with h | h
  · rw [h]
    exact .refl rs
  · rw [command_delete] at h
    split_ifs at h
    rw [← Option.some.inj h]
    exact othersKept_set (filter_erase_of_false (by simp [hm]) _)

/-- Whatever iptables answers, refusals included, and whether it succeeds or
not, `setupIPTables` moves no rule it does not manage: without the managed
rules, every chain is as it was. -/
theorem setupIPTables_keeps_others (bridgeIface addr : String) (icc : Bool) (ans : List Answer)
    (rs : Ruleset) :
    OthersKept bridgeIface addr rs (setupIPTables bridgeIface addr icc ans rs).2.2 := by
  have m : ∀ {chain rule}, managed bridgeIface addr chain rule = true →
      ∀ e o, KeepsOthers bridgeIface addr (ensureRule e o chain rule) :=
    fun hm e o => ensureRule_keepsOthers e o hm
  have hicc : KeepsOthers bridgeIface addr (iccRules bridgeIface icc) := by
    cases icc
    · exact (deleteIgnored_keepsOthers (by simp [managed])).andThen (m (by simp [managed]) _ _)
    · exact (deleteIgnored_keepsOthers (by simp [managed])).andThen (m (by simp [managed]) _ _)
  exact ((m (by simp [managed]) _ _).andThen <| hicc.andThen <|
    (m (by simp [managed]) _ _).andThen (m (by simp [managed]) _ _)) ans rs

end Others

end DockerDaemon.Bridge
