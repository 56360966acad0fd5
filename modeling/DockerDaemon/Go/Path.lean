/-
  DockerDaemon.Go.Path — Go's `path.Clean` and `path.Join`, which the
  daemon uses to place a link under its parent's name.
  ──────────────────────────────────────
  `Clean` works lexically: it drops empty elements and `.`, lets `..` take
  back the element before it, and drops a `..` that would climb above the
  root.  `Join` cleans the elements joined with slashes, so a `..` in an
  element climbs out of the ones before it.

  Main results:
    * `split_rooted_pair` — the pieces of `/p/a` for two slash-free names.
    * `join_child` — joining a clean one-element rooted name and a
      `Segment` appends the segment as a child.
-/
import DockerDaemon.Go.Stdlib

namespace DockerDaemon.Go

/-! ## §1. `strings.Split` on a slash. -/

theorem splitChars_ne_nil (sep : Char) : ∀ cs : List Char, splitChars sep cs ≠ []
  | [] => by simp [splitChars]
  | c :: cs => by
    unfold splitChars
    split
    · simp
    · split <;> simp

theorem splitChars_of_not_mem {sep : Char} : ∀ {cs : List Char}, sep ∉ cs → splitChars sep cs = [cs]
  | [], _ => rfl
  | c :: cs, h => by
    have hc : c ≠ sep := fun he => h (he ▸ List.mem_cons_self c cs)
    simp [splitChars, hc, splitChars_of_not_mem (fun hm => h (List.mem_cons_of_mem c hm))]

theorem splitChars_append_sep (sep : Char) (ys : List Char) :
    ∀ xs : List Char, splitChars sep (xs ++ sep :: ys) = splitChars sep xs ++ splitChars sep ys
  | [] => by simp [splitChars]
  | c :: xs => by
    by_cases hc : c = sep
    · simp [splitChars, hc, splitChars_append_sep sep ys xs]
    · obtain ⟨w, ws, hw⟩ := List.exists_cons_of_ne_nil (splitChars_ne_nil sep xs)
      simp [splitChars, hc, splitChars_append_sep sep ys xs, hw]

/-- The pieces of `/p/a`, for names `p` and `a` without a slash. -/
theorem split_rooted_pair {p a : String} (hp : '/' ∉ p.toList) (ha : '/' ∉ a.toList) :
    split ("/" ++ p ++ "/" ++ a) '/' = ["", p, a] := by
  have h : ("/" ++ p ++ "/" ++ a).toList = [] ++ '/' :: (p.toList ++ '/' :: a.toList) := by
    simp [String.toList, String.append]
  rw [split, h, splitChars_append_sep, splitChars_append_sep, splitChars_of_not_mem hp,
    splitChars_of_not_mem ha]
  rfl

/-! ## §2. `Clean` and `Join`. -/

/-- The elements of a path as `Clean` reads them: the pieces between slashes,
without the empty ones and `.`. -/
def elements (p : String) : List String :=
  (split p '/').filter fun e => e ≠ "" ∧ e ≠ "."

/-- One `..` or real element of `Clean`'s loop, over the elements kept so far,
last first: `..` takes back the last real element; with none to take back, it
is dropped in a rooted path and kept in a relative one. -/
def cleanStep (rooted : Bool) : List String → String → List String
  | x :: kept, ".." => if x = ".." then ".." :: x :: kept else kept
  | [], ".." => if rooted then [] else [".."]
  | kept, e => e :: kept

/-- `path.Clean`: the shortest path naming the same file, by lexical processing. -/
def clean (p : String) : String :=
  let rooted := decide (p.toList.head? = some '/')
  let body := "/".intercalate ((elements p).foldl (cleanStep rooted) []).reverse
  if rooted then "/" ++ body else if body = "" then "." else body

/-- `path.Join`: the elements from the first non-empty one on, joined with
slashes and cleaned; `""` when every element is empty. -/
def join : List String → String
  | [] => ""
  | e :: es => if e = "" then join es else clean ("/".intercalate (e :: es))

example : clean "a//b/./../../../c" = "../c" := by decide

/-- A single path element that `Clean` keeps as it is. -/
structure Segment (s : String) : Prop where
  ne_empty : s ≠ ""
  no_slash : '/' ∉ s.toList
  ne_dot : s ≠ "."
  ne_dotdot : s ≠ ".."

theorem cleanStep_segment (rooted : Bool) (kept : List String) {e : String} (he : Segment e) :
    cleanStep rooted kept e = e :: kept := by
  unfold cleanStep
  split
  · exact absurd rfl he.ne_dotdot
  · exact absurd rfl he.ne_dotdot
  · rfl

/-- Joining the clean rooted name `/p` and a segment `a` gives the child `/p/a`. -/
theorem join_child {p a : String} (hp : Segment p) (ha : Segment a) :
    join ["/" ++ p, a] = "/" ++ p ++ "/" ++ a := by
  have hj : "/".intercalate ["/" ++ p, a] = "/" ++ p ++ "/" ++ a := by
    simp [String.intercalate, String.intercalate.go, String.append_assoc]
  have hel : elements ("/" ++ p ++ "/" ++ a) = [p, a] := by
    simp [elements, split_rooted_pair hp.no_slash ha.no_slash, hp.ne_empty, hp.ne_dot,
      ha.ne_empty, ha.ne_dot]
  have hroot : ("/" ++ p ++ "/" ++ a).toList.head? = some '/' := by
    simp [String.toList, String.append]
  have hne : "/" ++ p ≠ "" := fun h => by simp [String.ext_iff, String.append] at h
  simp only [join, hne, if_false, hj, clean, hel, hroot, decide_True, List.foldl,
    cleanStep_segment _ _ hp, cleanStep_segment _ _ ha, List.reverse_cons, List.reverse_nil,
    List.nil_append, List.singleton_append, if_true]
  simp [String.intercalate, String.intercalate.go, String.append_assoc]

end DockerDaemon.Go
