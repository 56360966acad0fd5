/-
  DockerDaemon.Go.Stdlib — what the daemon's code takes from Go itself:
  how a job handler or a call ends, the few `strings` functions it leans
  on, written by structural recursion over the characters so that they
  run inside proofs, and the orders in which `range` walks a map.
-/
import Mathlib.Data.List.Basic
import Mathlib.Data.List.Infix

namespace DockerDaemon.Go

/-! ## §1. How a handler ends. -/

/-- The end of a job handler: `engine.StatusOK`, an error (`job.Error`,
`job.Errorf`, or a returned `error`) with its text, or a Go runtime panic. -/
inductive Status where
  | ok
  | err (msg : String)
  | panic (msg : String)
  deriving DecidableEq, Repr

/-- What a Go call that returns a value and an `error` ends in, or its panic. -/
inductive Result (α : Type) where
  | ok (a : α)
  | err (msg : String)
  | panic (msg : String)
  deriving DecidableEq, Repr

/-- The text of a nil pointer dereference. -/
def nilDeref : String := "runtime error: invalid memory address or nil pointer dereference"

/-- The text of an index past the end of a slice. -/
def indexOutOfRange : String := "runtime error: index out of range"

/-- The text of a slice expression past the end of a string. -/
def sliceOutOfRange : String := "runtime error: slice bounds out of range"

/-! ## §2. `strings`. -/

/-- The pieces of `cs` between the occurrences of `sep`. -/
def splitChars (sep : Char) : List Char → List (List Char)
  | [] => [[]]
  | c :: cs =>
    if c = sep then [] :: splitChars sep cs
    else match splitChars sep cs with
      | w :: ws => (c :: w) :: ws
      | [] => [[c]]

/-- `strings.Contains(s, substr)`. -/
def contains (s substr : String) : Bool :=
  s.toList.tails.any substr.toList.isPrefixOf

/-- A string holds every prefix of its first part. -/
theorem contains_append {substr p : String} (h : substr.toList.isPrefixOf p.toList = true)
    (s : String) : contains (p ++ s) substr = true := by
  have hp : substr.toList.isPrefixOf (p ++ s).toList = true := by
    rw [List.isPrefixOf_iff_prefix] at h ⊢
    exact h.trans (List.prefix_append p.toList s.toList)
  exact List.any_eq_true.2 ⟨_, (List.mem_tails _ _).2 (List.suffix_refl _), hp⟩

/-- `strings.Split(s, string(sep))`: never empty, one piece more than there are separators. -/
def split (s : String) (sep : Char) : List String :=
  (splitChars sep s.toList).map String.mk

/-! ## §3. Walking a map. -/

/-- An order in which `for k := range m` may walk a map whose keys are
`keys`: Go promises none, so every permutation is one. -/
structure RangeOrder {α : Type} (keys : List α) where
  order : List α
  perm : order.Perm keys

end DockerDaemon.Go
