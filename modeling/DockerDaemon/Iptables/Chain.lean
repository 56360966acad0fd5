/-
  DockerDaemon.Iptables.Chain — the iptables binary, as the bridge driver
  drives it through `iptables.Raw` and `iptables.Exists`.
  ──────────────────────────────────────
  A chain is a list of rules; a rule is the argument list that follows the
  chain's name (`-i docker0 -o docker0 -p tcp ... -j ACCEPT`).  `-I` puts
  the rule first, `-D` deletes its first occurrence and fails when there is
  none, `-C` (what `Exists` asks) succeeds iff the rule is there.

  Beyond what the rules decide, the binary may refuse an invocation (the
  kernel says no, the lock is taken) or print something while obeying it.
  The driver cannot tell these apart from its arguments, so each invocation
  takes an `Answer` from the environment; a theorem over every answer is a
  theorem over every pattern of failures.

  Main results:
    * `raw_of_quiet` — a quiet answer makes `raw` exactly `command`.
    * `removeExistingChain_newChain` — removing a chain forgets that
      `NewChain` made it, so making a chain afresh twice is making it once.
    * `raw_congr_hidden` — a command whose rule is not one of a hidden
      block of rules cannot tell a ruleset with the block from one without
      it, and keeps the block hidden.
-/
import Mathlib.Data.List.Basic

namespace DockerDaemon.Iptables

/-! ## §1. Rules, chains and the binary. -/

/-- A rule: the arguments after the chain's name. -/
def Rule := List String

instance : DecidableEq Rule := inferInstanceAs (DecidableEq (List String))

/-- The rules of every chain, by chain name, in the order iptables matches them. -/
def Ruleset := String → List Rule

/-- The ruleset with `chain` replaced by `rules`. -/
def Ruleset.set (rs : Ruleset) (chain : String) (rules : List Rule) : Ruleset :=
  fun c => if c = chain then rules else rs c

@[simp] theorem Ruleset.set_same (rs : Ruleset) (chain : String) (rules : List Rule) :
    rs.set chain rules chain = rules := by
  simp [Ruleset.set]

@[simp] theorem Ruleset.set_ne (rs : Ruleset) {chain c : String} (rules : List Rule)
    (h : c ≠ chain) : rs.set chain rules c = rs c := by
  simp [Ruleset.set, h]

@[simp] theorem Ruleset.set_set (rs : Ruleset) (chain : String) (rules rules' : List Rule) :
    (rs.set chain rules).set chain rules' = rs.set chain rules' := by
  funext c
  by_cases h : c = chain <;> simp [Ruleset.set, h]

@[simp] theorem Ruleset.set_self (rs : Ruleset) (chain : String) : rs.set chain (rs chain) = rs := by
  funext c
  by_cases h : c = chain <;> simp [Ruleset.set, h]

/-- `-I chain rule...`: the rule goes first. -/
def Ruleset.insert (rs : Ruleset) (chain : String) (rule : Rule) : Ruleset :=
  rs.set chain (rule :: rs chain)

/-- `-D chain rule...`: its first occurrence goes; there must be one. -/
def Ruleset.delete (rs : Ruleset) (chain : String) (rule : Rule) : Option Ruleset :=
  if rule ∈ rs chain then some (rs.set chain ((rs chain).erase rule)) else none

/-- `-C chain rule...`: succeeds iff the rule is there. -/
def Ruleset.check (rs : Ruleset) (chain : String) (rule : Rule) : Option Ruleset :=
  if rule ∈ rs chain then some rs else none

/-- What one invocation of the binary does to the rules, when it is obeyed:
`none` when iptables itself refuses it (no rule to delete, or to find). -/
def command (args : List String) (rs : Ruleset) : Option Ruleset :=
  match args with
  | "-I" :: chain :: rule => some (rs.insert chain rule)
  | "-D" :: chain :: rule => rs.delete chain rule
  | "-C" :: chain :: rule => rs.check chain rule
  | _ => none

/-- How the binary answers one invocation, beside what the rules decide. -/
inductive Answer where
  /-- It obeys and prints nothing. -/
  | quiet
  /-- It obeys and prints `out`. -/
  | prints (out : String)
  /-- It fails and changes nothing. -/
  | fails (msg : String)
  deriving DecidableEq, Repr

/-- What `iptables.Raw` returns: its `output` and its `err`. -/
structure RawResult where
  output : String
  err : Option String
  deriving DecidableEq, Repr

/-- `iptables.Raw(args...)`, answered `a`: the result, and the rules after it.
A failed run returns a nil output. -/
def raw (a : Answer) (args : List String) (rs : Ruleset) : RawResult × Ruleset :=
  match a, command args rs with
  | .fails msg, _ => (⟨"", some msg⟩, rs)
  | _, none => (⟨"", some ("iptables failed: iptables " ++ " ".intercalate args)⟩, rs)
  | .quiet, some rs' => (⟨"", none⟩, rs')
  | .prints out, some rs' => (⟨out, none⟩, rs')

/-- `iptables.Exists(args...)`: whether `-C` succeeds. -/
def ruleExists (a : Answer) (args : List String) (rs : Ruleset) : Bool :=
  (raw a ("-C" :: args) rs).1.err.isNone

@[simp] theorem command_insert (chain : String) (rule : Rule) (rs : Ruleset) :
    command ("-I" :: chain :: rule) rs = some (rs.set chain (rule :: rs chain)) := rfl

@[simp] theorem command_delete (chain : String) (rule : Rule) (rs : Ruleset) :
    command ("-D" :: chain :: rule) rs
      = if rule ∈ rs chain then some (rs.set chain ((rs chain).erase rule)) else none := rfl

@[simp] theorem command_check (chain : String) (rule : Rule) (rs : Ruleset) :
    command ("-C" :: chain :: rule) rs = if rule ∈ rs chain then some rs else none := rfl

theorem command_other {act : String} (h1 : act ≠ "-I") (h2 : act ≠ "-D") (h3 : act ≠ "-C")
    (chain : String) (rule : Rule) (rs : Ruleset) : command (act :: chain :: rule) rs = none := by
  unfold command
  split <;> simp_all

theorem raw_of_quiet (args : List String) (rs : Ruleset) :
    raw .quiet args rs = match command args rs with
      | some rs' => (⟨"", none⟩, rs')
      | none => (⟨"", some ("iptables failed: iptables " ++ " ".intercalate args)⟩, rs) := by
  unfold raw
  split <;> simp_all

/-- Deleting a rule of the middle block `A` of FORWARD, when the prefix `B`
does not hold it, deletes it from `A`. -/
theorem raw_delete_middle {B A c : List Rule} {r : Rule} {rs : Ruleset}
    (hF : rs "FORWARD" = B ++ A ++ c) (hA : r ∈ A) (hB : r ∉ B) :
    raw .quiet ("-D" :: "FORWARD" :: r) rs
      = (⟨"", none⟩, rs.set "FORWARD" (B ++ A.erase r ++ c)) := by
  have hmem : r ∈ rs "FORWARD" := by simp [hF, hA]
  rw [raw_of_quiet, command_delete, if_pos hmem, hF, List.append_assoc,
    List.erase_append_right _ hB, List.erase_append_left _ hA, ← List.append_assoc]

/-! ## §2. A hidden block of rules. -/

/-- `rs` is `rs'` with the block `A` of rules, all satisfying `ours`, inserted
in the FORWARD chain, behind a prefix `B` holding none of them.  Commands on
other rules cannot tell the two apart. -/
def Hidden (ours : Rule → Prop) (A : List Rule) (rs rs' : Ruleset) : Prop :=
  (∃ B c, rs "FORWARD" = B ++ A ++ c ∧ rs' "FORWARD" = B ++ c ∧ ∀ r ∈ B, ¬ ours r) ∧
    ∀ ch, ch ≠ "FORWARD" → rs ch = rs' ch

section Hidden

variable {ours : Rule → Prop} {A : List Rule} {rs rs' : Ruleset}

theorem hidden_set_forward (ours : Rule → Prop) (A : List Rule)
    (hrest : ∀ ch, ch ≠ "FORWARD" → rs ch = rs' ch) (B c : List Rule)
    (hB : ∀ r ∈ B, ¬ ours r) :
    Hidden ours A (rs.set "FORWARD" (B ++ A ++ c)) (rs'.set "FORWARD" (B ++ c)) :=
  ⟨⟨B, c, by simp, by simp, hB⟩, fun ch hch => by simp [hch, hrest ch hch]⟩

theorem hidden_set_ne (h : Hidden ours A rs rs') {chain : String} (hch : chain ≠ "FORWARD")
    (rules : List Rule) : Hidden ours A (rs.set chain rules) (rs'.set chain rules) := by
  obtain ⟨⟨B, c, hF, hF', hB⟩, hrest⟩ := h
  refine ⟨⟨B, c, by simp [Ne.symm hch, hF], by simp [Ne.symm hch, hF'], hB⟩, fun ch hc => ?_⟩
  by_cases h : ch = chain
  · simp [h]
  · simp [h, hrest ch hc]

/-- A command on a rule that is not ours does the same to the ruleset with the
hidden block as to the one without it, and the block stays hidden. -/
theorem command_congr_hidden (hA : ∀ r ∈ A, ours r) (h : Hidden ours A rs rs')
    (act chain : String) {rule : Rule} (hr : ¬ ours rule) :
    Option.Rel (Hidden ours A) (command (act :: chain :: rule) rs)
      (command (act :: chain :: rule) rs') := by
  have hnA : rule ∉ A := fun hm => hr (hA _ hm)
  by_cases hch : chain = "FORWARD"
  · obtain ⟨⟨B, c, hF, hF', hB⟩, hrest⟩ := h
    subst hch
    have hmem : rule ∈ rs "FORWARD" ↔ rule ∈ rs' "FORWARD" := by simp [hF, hF', hnA]
    by_cases hI : act = "-I"
    · subst hI
      simp only [command_insert, hF, hF']
      exact .some (hidden_set_forward ours A hrest (rule :: B) c (by simpa [hr] using hB))
    by_cases hD : act = "-D"
    · subst hD
      simp only [command_delete, hmem]
      split
      · refine .some ?_
        by_cases hb : rule ∈ B
        · rw [hF, hF', List.append_assoc, List.erase_append_left _ hb,
            List.erase_append_left _ hb, ← List.append_assoc]
          exact hidden_set_forward ours A hrest _ c fun r hm => hB r (List.mem_of_mem_erase hm)
        · rw [hF, hF', List.append_assoc, List.erase_append_right _ hb,
            List.erase_append_right _ hnA, List.erase_append_right _ hb, ← List.append_assoc]
          exact hidden_set_forward ours A hrest B _ hB
      · exact .none
    by_cases hC : act = "-C"
    · subst hC
      simp only [command_check, hmem]
      split
      · exact .some ⟨⟨B, c, hF, hF', hB⟩, hrest⟩
      · exact .none
    simp only [command_other hI hD hC]
    exact .none
  · have heq : rs chain = rs' chain := h.2 chain hch
    by_cases hI : act = "-I"
    · subst hI
      simp only [command_insert, heq]
      exact .some (hidden_set_ne h hch _)
    by_cases hD : act = "-D"
    · subst hD
      simp only [command_delete, heq]
      split
      · exact .some (hidden_set_ne h hch _)
      · exact .none
    by_cases hC : act = "-C"
    · subst hC
      simp only [command_check, heq]
      split
      · exact .some h
      · exact .none
    simp only [command_other hI hD hC]
    exact .none

/-- `raw` on a rule that is not ours returns the same with and without the
hidden block, and keeps it hidden. -/
theorem raw_congr_hidden (hA : ∀ r ∈ A, ours r) (h : Hidden ours A rs rs') (a : Answer)
    (act chain : String) {rule : Rule} (hr : ¬ ours rule) :
    (raw a (act :: chain :: rule) rs).1 = (raw a (act :: chain :: rule) rs').1 ∧
      Hidden ours A (raw a (act :: chain :: rule) rs).2 (raw a (act :: chain :: rule) rs').2 := by
  have hc := command_congr_hidden hA h act chain hr
  unfold raw
  generalize command (act :: chain :: rule) rs = o at hc ⊢
  generalize command (act :: chain :: rule) rs' = o' at hc ⊢
  cases a <;> cases hc <;> simp_all

end Hidden


/-! ## §3. Invocations the binary obeys. -/

/-- The binary refuses the invocation. -/
def Answer.refuses : Answer → Bool
  | .fails _ => true
  | _ => false

/-- None of the answers, taken one per invocation, refuses; neither does the
`quiet` that answers once they run out. -/
def Obeys (ans : List Answer) : Prop := ∀ a ∈ ans, a.refuses = false

theorem obeys_nil : Obeys [] := by simp [Obeys]

theorem Obeys.tail {ans : List Answer} (h : Obeys ans) : Obeys ans.tail :=
  fun a ha => h a (List.mem_of_mem_tail ha)

theorem Obeys.head {ans : List Answer} (h : Obeys ans) : (ans.headD .quiet).refuses = false := by
  cases ans with
  | nil => rfl
  | cons a _ => exact h a (List.mem_cons_self _ _)

/-- Whatever the answer, `raw` leaves the rules as they were or as `command`
says. -/
theorem raw_rules_cases (a : Answer) (args : List String) (rs : Ruleset) :
    (raw a args rs).2 = rs ∨ command args rs = some (raw a args rs).2 := by
  unfold raw
  cases a <;> cases command args rs <;> simp

section Obeyed

variable {a : Answer} (ha : a.refuses = false) (chain : String) (rule : Rule) (rs : Ruleset)
include ha

/-- An obeyed invocation does what `command` says to the rules, and nothing
when the command fails. -/
theorem raw_rules_of_obeyed (args : List String) : (raw a args rs).2 = (command args rs).getD rs := by
  unfold raw
  cases a <;> cases command args rs <;> simp_all [Answer.refuses]

theorem ruleExists_of_obeyed : ruleExists a (chain :: rule) rs = decide (rule ∈ rs chain) := by
  unfold ruleExists raw
  by_cases h : rule ∈ rs chain <;> cases a <;> simp_all [Answer.refuses]

theorem raw_insert_of_obeyed :
    (raw a ("-I" :: chain :: rule) rs).1.err = none ∧
      (raw a ("-I" :: chain :: rule) rs).2 = rs.insert chain rule := by
  cases a <;> simp_all [raw, Answer.refuses, Ruleset.insert]

/-- An obeyed `-D` leaves the chain without the rule's first occurrence,
whether or not there was one. -/
theorem raw_delete_of_obeyed :
    (raw a ("-D" :: chain :: rule) rs).2 = rs.set chain ((rs chain).erase rule) := by
  rw [raw_rules_of_obeyed ha, command_delete]
  by_cases h : rule ∈ rs chain
  · simp [h]
  · simp [h, List.erase_of_not_mem h]

end Obeyed

/-! ## §4. A chain of its own.

`iptables.RemoveExistingChain` and `iptables.NewChain` live in pkg/iptables,
which is not among the sources.  Their effect follows the spec: the
bridge driver makes the `DOCKER` chain "fresh (remove any pre-existing)",
and FORWARD refers to it "via jump". -/

/-- The chain a rule jumps to: the argument after its last-but-one `-j`. -/
def Rule.target (rule : Rule) : Option String :=
  match rule.reverse with
  | t :: "-j" :: _ => some t
  | _ => none

/-- Modelled from the spec: the rule of FORWARD by which `NewChain(name,
bridge)` sends the bridge's traffic to the chain. -/
def jumpRule (name bridge : String) : Rule := ["-o", bridge, "-j", name]

@[simp] theorem jumpRule_target (name bridge : String) : (jumpRule name bridge).target = some name :=
  rfl

/-- Modelled from the spec: a successful `RemoveExistingChain(name)` leaves
the chain without rules and FORWARD without the rules that jump to it. -/
def removeExistingChain (name : String) (rs : Ruleset) : Ruleset :=
  (rs.set "FORWARD" ((rs "FORWARD").filter fun r => r.target != some name)).set name []

/-- Modelled from the spec: a successful `NewChain(name, bridge)` makes the
chain, empty, and appends the jump to it to FORWARD. -/
def newChain (name bridge : String) (rs : Ruleset) : Ruleset :=
  (rs.set "FORWARD" (rs "FORWARD" ++ [jumpRule name bridge])).set name []

section Chains

variable {name : String} (hn : name ≠ "FORWARD")
include hn

@[simp] theorem removeExistingChain_forward (rs : Ruleset) :
    removeExistingChain name rs "FORWARD" = (rs "FORWARD").filter fun r => r.target != some name := by
  simp [removeExistingChain, Ne.symm hn]

@[simp] theorem newChain_forward (bridge : String) (rs : Ruleset) :
    newChain name bridge rs "FORWARD" = rs "FORWARD" ++ [jumpRule name bridge] := by
  simp [newChain, Ne.symm hn]

/-- A rule that does not jump to the chain is in FORWARD as often after
`RemoveExistingChain` as before. -/
theorem count_removeExistingChain {r : Rule} (hr : r.target ≠ some name) (rs : Ruleset) :
    (removeExistingChain name rs "FORWARD").count r = (rs "FORWARD").count r := by
  rw [removeExistingChain_forward hn]
  exact List.count_filter (by simpa using hr)

/-- A rule other than the jump is in FORWARD as often after `NewChain` as
before. -/
theorem count_newChain {r : Rule} {bridge : String} (hr : r ≠ jumpRule name bridge)
    (rs : Ruleset) : (newChain name bridge rs "FORWARD").count r = (rs "FORWARD").count r := by
  rw [newChain_forward hn, List.count_append, List.count_singleton', if_neg (Ne.symm hr),
    Nat.add_zero]

/-- Removing the chain forgets that `NewChain` made it. -/
theorem removeExistingChain_newChain (bridge : String) (rs : Ruleset) :
    removeExistingChain name (newChain name bridge rs) = removeExistingChain name rs := by
  funext c
  by_cases hc : c = name
  · simp [removeExistingChain, hc]
  by_cases hf : c = "FORWARD"
  · subst hf
    simp [removeExistingChain_forward hn, newChain_forward hn]
  · simp [removeExistingChain, newChain, hc, hf]

theorem removeExistingChain_idem (rs : Ruleset) :
    removeExistingChain name (removeExistingChain name rs) = removeExistingChain name rs := by
  funext c
  by_cases hc : c = name
  · simp [removeExistingChain, hc]
  by_cases hf : c = "FORWARD"
  · subst hf
    simp [removeExistingChain_forward hn, List.filter_filter]
  · simp [removeExistingChain, hc, hf]

end Chains

theorem removeExistingChain_other {name c : String} (hc : c ≠ name) (hf : c ≠ "FORWARD")
    (rs : Ruleset) : removeExistingChain name rs c = rs c := by
  simp [removeExistingChain, hc, hf]

theorem newChain_other {name c : String} (hc : c ≠ name) (hf : c ≠ "FORWARD") (bridge : String)
    (rs : Ruleset) : newChain name bridge rs c = rs c := by
  simp [newChain, hc, hf]

end DockerDaemon.Iptables
