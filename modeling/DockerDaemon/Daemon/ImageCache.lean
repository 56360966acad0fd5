/-
  DockerDaemon.Daemon.ImageCache — `ImageGetCached` of daemon/daemon.go:
  the build cache's lookup of an image made from `imgID` with `config`.
  ──────────────────────────────────────
  The image graph (`graph.Graph`) and `runconfig.Compare` are not among the
  sources: what the graph's `Map` and `Get` answer is an input, and
  `Compare` a parameter.  `ImageGetCached` gathers the children of every
  image into a map of sets, walks the children of `imgID` in the order of
  Go's map, which the language leaves open, and keeps the last-created
  image whose container config `Compare` finds equal to `config`.

  Main results:
    * `mem_buildImageMap` — the set built for a parent holds the IDs of the
      images naming it as parent, each once.
    * `imageGetCached_error` — in every walk order, the lookup fails
      exactly when `Map` fails or `Get` fails for a child, with that error.
    * `imageGetCached_latest` — in every walk order, a successful lookup
      returns an image `Get` gives for a child, whose config matches and
      that no matching child's image postdates; nothing when no child
      matches.
    * `imageGetCached_answers` — the answers over all walk orders are
      exactly those latest images: when two matching children were created
      at the same time, which one the cache hits is up to Go's map.
-/
import Mathlib.Data.List.Nodup
import DockerDaemon.Daemon.Store

namespace DockerDaemon.Daemon

/-! ## §1. The lookup. -/

/-- `image.Image`: the fields `ImageGetCached` reads. -/
structure Image where
  id : String
  parent : String
  /-- `Created`, in ticks of the clock: `Before` is `<`. -/
  created : Nat
  containerConfig : Config
  deriving DecidableEq, Repr

/-- What the image graph answers `ImageGetCached`. -/
structure GraphAnswers where
  /-- `daemon.Graph().Map()`: the images it holds, or its error. -/
  map : Except String (List Image)
  /-- `daemon.Graph().Get(id)`. -/
  get : String → Except String Image

/-- `imageMap[img.Parent][img.ID] = struct{}{}`, the inner map as the list of
its keys; a parent with no entry and one with an empty set read alike. -/
def addChild (m : String → List String) (img : Image) : String → List String :=
  fun p => if p = img.parent ∧ img.id ∉ m p then m p ++ [img.id] else m p

/-- The loop over `images` that stores the tree in a map of maps. -/
def buildImageMap (images : List Image) : String → List String :=
  images.foldl addChild fun _ => []

/-- `match == nil || match.Created.Before(img.Created)`. -/
def replaces : Option Image → Image → Bool
  | none, _ => true
  | some m, img => m.created < img.created

/-- The body of the loop once `Get` has answered `img`: `fits` is
`runconfig.Compare(&img.ContainerConfig, config)`. -/
def keep (fits : Image → Bool) (m : Option Image) (img : Image) : Option Image :=
  if fits img && replaces m img then some img else m

/-- The loop over the children of `imgID`, in the order it walks them. -/
def cachedLoop (get : String → Except String Image) (fits : Image → Bool) :
    Option Image → List String → Except String (Option Image)
  | m, [] => .ok m
  | m, elem :: rest =>
    match get elem with
    | .error e => .error e
    | .ok img => cachedLoop get fits (keep fits m img) rest

/-- `daemon.ImageGetCached(imgID, config)`; `order` is the order in which
Go walks each map whose keys are given, and `none` is a nil image. -/
def imageGetCached (g : GraphAnswers) (compare : Config → Config → Bool)
    (order : (keys : List String) → Go.RangeOrder keys) (imgID : String) (config : Config) :
    Except String (Option Image) :=
  match g.map with
  | .error e => .error e
  | .ok images =>
    cachedLoop g.get (fun img => compare img.containerConfig config) none
      (order (buildImageMap images imgID)).order

/-! ## §2. The map of children. -/

theorem mem_addChild (m : String → List String) (img : Image) (p x : String) :
    x ∈ addChild m img p ↔ x ∈ m p ∨ img.parent = p ∧ img.id = x := by
  unfold addChild
  split_ifs with hc
  · simp [hc.1, eq_comm]
  · refine ⟨.inl, ?_⟩
    rintro (h | ⟨rfl, rfl⟩)
    exacts [h, not_not.mp fun h => hc ⟨rfl, h⟩]

theorem mem_foldl_addChild (images : List Image) (m : String → List String) (p x : String) :
    x ∈ images.foldl addChild m p ↔ x ∈ m p ∨ ∃ img ∈ images, img.parent = p ∧ img.id = x := by
  induction images generalizing m with
  | nil => simp
  | cons img rest ih =>
    rw [List.foldl_cons, ih, mem_addChild]
    simp only [List.mem_cons, or_and_right, exists_or, exists_eq_left, or_assoc]

theorem nodup_foldl_addChild (images : List Image) {m : String → List String}
    (hm : ∀ p, (m p).Nodup) (p : String) : (images.foldl addChild m p).Nodup := by
  induction images generalizing m with
  | nil => exact hm p
  | cons img rest ih =>
    refine ih fun q => ?_
    unfold addChild
    split_ifs with hc
    · exact List.nodup_append.mpr ⟨hm q, List.nodup_singleton _, List.disjoint_singleton.mpr hc.2⟩
    · exact hm q

/-- The set built for `p` holds the IDs of the images naming `p` as their
parent, and each once: the map of maps is the parent relation of `Map`. -/
theorem mem_buildImageMap (images : List Image) (p x : String) :
    (x ∈ buildImageMap images p ↔ ∃ img ∈ images, img.parent = p ∧ img.id = x) ∧
      (buildImageMap images p).Nodup := by
  refine ⟨?_, nodup_foldl_addChild images (fun _ => List.nodup_nil) p⟩
  simpa using mem_foldl_addChild images (fun _ => []) p x

/-! ## §3. The loop. -/

section Loop

variable {get : String → Except String Image} {fits : Image → Bool}

/-- The loop fails exactly on a child whose `Get` fails, with its error. -/
theorem cachedLoop_error {m : Option Image} {l : List String} {e : String}
    (h : cachedLoop get fits m l = .error e) : ∃ c ∈ l, get c = .error e := by
  induction l generalizing m with
  | nil => cases h
  | cons c rest ih =>
    unfold cachedLoop at h
    split at h
    · rename_i e' he
      cases h
      exact ⟨c, .head _, he⟩
    · obtain ⟨c', hc', he⟩ := ih h
      exact ⟨c', .tail _ hc', he⟩

/-- What the loop leaves from `m` over the children `l`, once every `Get`
has answered: the image it started with or one of theirs that matches,
never older than what it started with or than any matching child's
image. -/
structure Latest (get : String → Except String Image) (fits : Image → Bool) (l : List String)
    (m r : Option Image) : Prop where
  fetched : ∀ c ∈ l, ∃ img, get c = .ok img
  origin : r = m ∨ ∃ c ∈ l, ∃ img, get c = .ok img ∧ fits img = true ∧ r = some img
  grows : ∀ x ∈ m, ∃ y ∈ r, x.created ≤ y.created
  covers : ∀ c ∈ l, ∀ img, get c = .ok img → fits img = true → ∃ y ∈ r, img.created ≤ y.created

theorem keep_grows (m : Option Image) (img : Image) :
    ∀ x ∈ m, ∃ y ∈ keep fits m img, x.created ≤ y.created := by
  intro x hx
  rw [Option.mem_def] at hx
  subst hx
  unfold keep replaces
  split_ifs with h
  · exact ⟨img, rfl, by simp at h; omega⟩
  · exact ⟨x, rfl, le_rfl⟩

theorem keep_covers (m : Option Image) {img : Image} (hf : fits img = true) :
    ∃ y ∈ keep fits m img, img.created ≤ y.created := by
  unfold keep
  split_ifs with h
  · exact ⟨img, rfl, le_rfl⟩
  · cases m with
    | none => simp [replaces, hf] at h
    | some x => exact ⟨x, rfl, by simpa [replaces, hf] using h⟩

theorem Latest.cons {c : String} {l : List String} {m r : Option Image} {img : Image}
    (hc : get c = .ok img) (h : Latest get fits l (keep fits m img) r) :
    Latest get fits (c :: l) m r where
  fetched c' hc' := by
    rcases List.mem_cons.mp hc' with rfl | hc'
    exacts [⟨img, hc⟩, h.fetched c' hc']
  origin := by
    rcases h.origin with hr | ⟨c', hc', i, hi⟩
    · unfold keep at hr
      split_ifs at hr with hk
      · exact .inr ⟨c, .head _, img, hc, (Bool.and_eq_true _ _).mp hk |>.1, hr⟩
      · exact .inl hr
    · exact .inr ⟨c', .tail _ hc', i, hi⟩
  grows x hx := by
    obtain ⟨y, hy, hxy⟩ := keep_grows m img x hx
    obtain ⟨z, hz, hyz⟩ := h.grows y hy
    exact ⟨z, hz, hxy.trans hyz⟩
  covers c' hc' i hi hf := by
    rcases List.mem_cons.mp hc' with rfl | hc'
    · cases hc.symm.trans hi
      obtain ⟨y, hy, hiy⟩ := keep_covers m hf
      obtain ⟨z, hz, hyz⟩ := h.grows y hy
      exact ⟨z, hz, hiy.trans hyz⟩
    · exact h.covers c' hc' i hi hf

/-- A loop that returns leaves the latest matching image. -/
theorem cachedLoop_latest {m r : Option Image} {l : List String}
    (h : cachedLoop get fits m l = .ok r) : Latest get fits l m r := by
  induction l generalizing m with
  | nil =>
    cases h
    exact ⟨fun _ hc => (nomatch hc), .inl rfl, fun x hx => ⟨x, hx, le_rfl⟩, fun _ hc => nomatch hc⟩
  | cons c rest ih =>
    unfold cachedLoop at h
    split at h
    · cases h
    · rename_i img hc
      exact (ih h).cons hc

/-- A loop from nothing that ends on an image took it from a matching
child, and no matching child's image postdates it. -/
theorem Latest.none_some {l : List String} {x : Image} (hl : Latest get fits l none (some x)) :
    (∃ c ∈ l, get c = .ok x ∧ fits x = true) ∧
      ∀ c ∈ l, ∀ img, get c = .ok img → fits img = true → img.created ≤ x.created := by
  refine ⟨?_, fun c hc img hg hf => ?_⟩
  · rcases hl.origin with h0 | ⟨c, hc, img, hg, hf, himg⟩
    · cases h0
    · cases himg
      exact ⟨c, hc, hg, hf⟩
  · obtain ⟨y, hy, hle⟩ := hl.covers c hc img hg hf
    cases hy
    exact hle

/-- From an image no matching child postdates, the loop keeps it. -/
theorem cachedLoop_keeps {x : Image} {l : List String}
    (hl : ∀ c ∈ l, ∃ img, get c = .ok img ∧ (fits img = true → img.created ≤ x.created)) :
    cachedLoop get fits (some x) l = .ok (some x) := by
  induction l with
  | nil => rfl
  | cons c rest ih =>
    obtain ⟨img, hc, hle⟩ := hl c (.head _)
    have hk : keep fits (some x) img = some x := by
      unfold keep replaces
      by_cases hf : fits img = true
      · simp [hf, Nat.not_lt.mpr (hle hf)]
      · simp [hf]
    simp only [cachedLoop, hc, hk]
    exact ih fun c' hc' => hl c' (.tail _ hc')

end Loop

/-! ## §4. What the cache answers. -/

/-- A build step's config: `RUN make`. -/
def makeConfig : Config := ⟨"", [], ["/bin/sh", "-c", "make"]⟩

/-- An image `base` with three children made by `RUN make`: `old` at tick 3,
and `left` and `right` both at tick 5. -/
def twinImages : List Image :=
  [⟨"base", "", 1, ⟨"", [], []⟩⟩, ⟨"old", "base", 3, makeConfig⟩, ⟨"left", "base", 5, makeConfig⟩,
    ⟨"right", "base", 5, makeConfig⟩]

/-- A graph holding `twinImages`, `Get` finding each by its ID. -/
def twinGraph : GraphAnswers where
  map := .ok twinImages
  get id := match twinImages.find? (·.id = id) with
    | some img => .ok img
    | none => .error ("could not find image " ++ id)

/-- Go walking each map in the order its keys were added. -/
def insertionOrder (keys : List String) : Go.RangeOrder keys := ⟨keys, List.Perm.refl _⟩

/-- A key of the walk over the children of `imgID` is the ID of an image
naming `imgID` as parent. -/
theorem mem_rangeOrder_buildImageMap (order : (keys : List String) → Go.RangeOrder keys)
    (images : List Image) (imgID c : String) :
    c ∈ (order (buildImageMap images imgID)).order ↔
      ∃ child ∈ images, child.parent = imgID ∧ child.id = c :=
  (order _).perm.mem_iff.trans (mem_buildImageMap images imgID c).1

/-- In every order Go walks its maps, the lookup fails exactly when the
graph's `Map` fails or its `Get` fails for a child of `imgID`, and then
with the error of one of those calls. -/
theorem imageGetCached_error (g : GraphAnswers) (compare : Config → Config → Bool)
    (order : (keys : List String) → Go.RangeOrder keys) (imgID : String) (config : Config) :
    (∀ e, imageGetCached g compare order imgID config = .error e →
      g.map = .error e ∨ ∃ images child, g.map = .ok images ∧ child ∈ images ∧
        child.parent = imgID ∧ g.get child.id = .error e) ∧
    ((∃ e, g.map = .error e) ∨ (∃ images child e, g.map = .ok images ∧ child ∈ images ∧
        child.parent = imgID ∧ g.get child.id = .error e) →
      ∃ e, imageGetCached g compare order imgID config = .error e) := by
  unfold imageGetCached
  rcases hm : g.map with e | images
  · exact ⟨fun e' h => .inl (by cases h; rfl), fun _ => ⟨e, rfl⟩⟩
  dsimp only
  refine ⟨fun e h => ?_, fun h => ?_⟩
  · obtain ⟨c, hc, he⟩ := cachedLoop_error h
    obtain ⟨child, hchild, hp, rfl⟩ := (mem_rangeOrder_buildImageMap order images imgID c).mp hc
    exact .inr ⟨images, child, rfl, hchild, hp, he⟩
  · obtain ⟨e, he⟩ | ⟨_, child, e, hi, hchild, hp, he⟩ := h
    · cases he
    cases hi
    rcases hl : cachedLoop g.get (fun img => compare img.containerConfig config) none
      (order (buildImageMap images imgID)).order with e' | r
    · exact ⟨e', rfl⟩
    · obtain ⟨img, hg⟩ := (cachedLoop_latest hl).fetched child.id
        ((mem_rangeOrder_buildImageMap order images imgID _).mpr ⟨child, hchild, hp, rfl⟩)
      cases he.symm.trans hg

/-- In every order Go walks its maps, a lookup that succeeds found `Map`'s
answer and every child's `Get` answer, and returns an image `Get` gave for
a child of `imgID`, whose container config matches, and which no matching
child's image postdates; it returns nothing when no child matches. -/
theorem imageGetCached_latest (g : GraphAnswers) (compare : Config → Config → Bool)
    (order : (keys : List String) → Go.RangeOrder keys) (imgID : String) (config : Config)
    {r : Option Image} (h : imageGetCached g compare order imgID config = .ok r) :
    ∃ images, g.map = .ok images ∧
      (∀ child ∈ images, child.parent = imgID → ∃ img, g.get child.id = .ok img) ∧
      (∀ x ∈ r, (∃ child ∈ images, child.parent = imgID ∧ g.get child.id = .ok x) ∧
        compare x.containerConfig config = true) ∧
      ∀ child ∈ images, child.parent = imgID → ∀ img, g.get child.id = .ok img →
        compare img.containerConfig config = true → ∃ y ∈ r, img.created ≤ y.created := by
  unfold imageGetCached at h
  rcases hm : g.map with e | images <;> rw [hm] at h
  · cases h
  have hl := cachedLoop_latest h
  have hmem := mem_rangeOrder_buildImageMap order images imgID
  refine ⟨images, rfl, fun child hc hp => hl.fetched _ ((hmem _).mpr ⟨child, hc, hp, rfl⟩),
    fun x hx => ?_, fun child hc hp => hl.covers _ ((hmem _).mpr ⟨child, hc, hp, rfl⟩)⟩
  rw [Option.mem_def] at hx
  subst hx
  obtain ⟨⟨c, hc, hg, hf⟩, -⟩ := hl.none_some
  obtain ⟨child, hchild, hp, rfl⟩ := (hmem c).mp hc
  exact ⟨⟨child, hchild, hp, hg⟩, hf⟩

/-- The lookup from `base` for `RUN make`, walking in insertion order. -/
theorem imageGetCached_latest_twin :
    imageGetCached twinGraph (· = ·) insertionOrder "base" makeConfig =
      .ok (some ⟨"left", "base", 5, makeConfig⟩) ∧
    ∃ images, twinGraph.map = .ok images ∧
      (∀ child ∈ images, child.parent = "base" → ∃ img, twinGraph.get child.id = .ok img) ∧
      (∀ x ∈ some (⟨"left", "base", 5, makeConfig⟩ : Image),
        (∃ child ∈ images, child.parent = "base" ∧ twinGraph.get child.id = .ok x) ∧
        decide (x.containerConfig = makeConfig) = true) ∧
      ∀ child ∈ images, child.parent = "base" → ∀ img, twinGraph.get child.id = .ok img →
        decide (img.containerConfig = makeConfig) = true →
          ∃ y ∈ some (⟨"left", "base", 5, makeConfig⟩ : Image), img.created ≤ y.created :=
  have h : imageGetCached twinGraph (· = ·) insertionOrder "base" makeConfig =
      .ok (some ⟨"left", "base", 5, makeConfig⟩) := rfl
  ⟨h, imageGetCached_latest twinGraph (· = ·) insertionOrder "base" makeConfig h⟩

/-- An order that walks `first` before the other keys. -/
def firstOrder (first : String) (keys : List String) : Go.RangeOrder keys :=
  if h : first ∈ keys then ⟨first :: keys.erase first, (List.perm_cons_erase h).symm⟩
  else ⟨keys, List.Perm.refl _⟩

/-- When `Map` and every child's `Get` answer, the images the lookup may
return, over all the orders Go may walk its maps in, are exactly the
matching children's images that no matching child's image postdates.  With
one latest image the cache hit is determined; with two created at the same
time either may be the hit. -/
theorem imageGetCached_answers (g : GraphAnswers) (compare : Config → Config → Bool)
    (imgID : String) (config : Config) {images : List Image} (hmap : g.map = .ok images)
    (hget : ∀ child ∈ images, child.parent = imgID → ∃ img, g.get child.id = .ok img)
    (x : Image) :
    (∃ order, imageGetCached g compare order imgID config = .ok (some x)) ↔
      (∃ child ∈ images, child.parent = imgID ∧ g.get child.id = .ok x) ∧
      compare x.containerConfig config = true ∧
      ∀ child ∈ images, child.parent = imgID → ∀ img, g.get child.id = .ok img →
        compare img.containerConfig config = true → img.created ≤ x.created := by
  unfold imageGetCached
  rw [hmap]
  dsimp only
  constructor
  · rintro ⟨order, h⟩
    obtain ⟨⟨c, hc, hg, hf⟩, hcov⟩ := (cachedLoop_latest h).none_some
    have hmem := mem_rangeOrder_buildImageMap order images imgID
    obtain ⟨child, hchild, hp, rfl⟩ := (hmem c).mp hc
    exact ⟨⟨child, hchild, hp, hg⟩, hf, fun child' hc' hp' =>
      hcov _ ((hmem _).mpr ⟨child', hc', hp', rfl⟩)⟩
  · rintro ⟨⟨child, hchild, hp, hg⟩, hf, hmax⟩
    have hin : child.id ∈ buildImageMap images imgID :=
      (mem_buildImageMap images imgID _).1.mpr ⟨child, hchild, hp, rfl⟩
    refine ⟨firstOrder child.id, ?_⟩
    simp only [firstOrder, dif_pos hin, cachedLoop, hg, keep, hf, replaces, Bool.and_self,
      if_true]
    refine cachedLoop_keeps fun c hc => ?_
    obtain ⟨child', hc', hp', rfl⟩ :=
      (mem_buildImageMap images imgID c).1.mp (List.mem_of_mem_erase hc)
    obtain ⟨img, hg'⟩ := hget child' hc' hp'
    exact ⟨img, hg', hmax child' hc' hp' img hg'⟩

theorem twinGraph_get (child : Image) (hc : child ∈ twinImages) :
    twinGraph.get child.id = .ok child := by
  simp only [twinImages, List.mem_cons, List.mem_singleton, List.not_mem_nil, or_false] at hc
  rcases hc with rfl | rfl | rfl | rfl <;> rfl

/-- Both `left` and `right` may be the hit from `base`, as Go walks its map. -/
theorem imageGetCached_answers_twin :
    twinGraph.map = .ok twinImages ∧
    (∀ child ∈ twinImages, child.parent = "base" → ∃ img, twinGraph.get child.id = .ok img) ∧
    ((∃ order, imageGetCached twinGraph (· = ·) order "base" makeConfig =
        .ok (some ⟨"right", "base", 5, makeConfig⟩)) ↔
      (∃ child ∈ twinImages, child.parent = "base" ∧
        twinGraph.get child.id = .ok ⟨"right", "base", 5, makeConfig⟩) ∧
      decide ((⟨"right", "base", 5, makeConfig⟩ : Image).containerConfig = makeConfig) = true ∧
      ∀ child ∈ twinImages, child.parent = "base" → ∀ img, twinGraph.get child.id = .ok img →
        decide (img.containerConfig = makeConfig) = true →
          img.created ≤ (⟨"right", "base", 5, makeConfig⟩ : Image).created) :=
  have hget : ∀ child ∈ twinImages, child.parent = "base" → ∃ img, twinGraph.get child.id = .ok img :=
    fun child hc _ => ⟨child, twinGraph_get child hc⟩
  ⟨rfl, hget, imageGetCached_answers twinGraph (· = ·) "base" makeConfig rfl hget _⟩

end DockerDaemon.Daemon
