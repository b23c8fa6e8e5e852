import Percolator.Proofs.Evaluation.Run
import Percolator.Proofs.Workspace.Suspension

/-!
# Matching through an index

A filter is matched by dispatching values to the leaves of its tree. A value tells the result of
every condition on its path that is not known yet, except that on a repeated path a value that fails
tells nothing, since another one may succeed. Main statement: after any values the verdict of an
evaluation is known exactly if it no longer depends on the conditions of which nothing was told, and
dispatching a value answers the verdict that it settles. Suspended subscriptions and those of decided
leaves are passed over on the way; their conditions do not matter any more.
-/

namespace Percolator

open Percolator.Expr PredicateIndex

/-- The values among those dispatched that were dispatched on a path, in order. -/
def valuesAt (dispatched : List (Path × Option Value)) (path : Path) : List (Option Value) :=
  (dispatched.filter fun value => value.1 = path).map Prod.snd

/-- The result that values tell of the predicate of a leaf: that of the first value, or on a repeated
path that some value succeeds. -/
def Leaf.result? (leaf : Leaf) (values : List (Option Value)) : Option Bool :=
  if leaf.path.repeated then if values.any leaf.predicate.accepts then some true else none
  else values.head?.map leaf.predicate.accepts

/-- What dispatched values tell about the conditions. -/
def learned (tree : Tree) (dispatched : List (Path × Option Value)) (i : Nat) : Option Bool :=
  (tree.leaf? i).bind fun leaf => leaf.result? (valuesAt dispatched leaf.path)

/-- A result that is known stays. -/
theorem Leaf.result?_append_of_some {leaf : Leaf} {values : List (Option Value)} {b : Bool}
    (h : leaf.result? values = some b) (value : Option Value) :
    leaf.result? (values ++ [value]) = some b := by
  unfold result? at h ⊢
  split
  · rename_i hrepeated
    rw [if_pos hrepeated] at h
    split at h
    · rename_i hany
      rw [List.any_append, hany, Bool.true_or, if_pos rfl, h]
    · simp at h
  · rename_i hrepeated
    rw [if_neg hrepeated] at h
    obtain ⟨first, hfirst, hb⟩ := Option.map_eq_some_iff.mp h
    rw [List.head?_append, hfirst, Option.some_or, Option.map_some, hb]

/-- A value tells the result if that is not known, unless it fails on a repeated path. -/
theorem Leaf.result?_append_of_none {leaf : Leaf} {values : List (Option Value)}
    (h : leaf.result? values = none) (value : Option Value) :
    leaf.result? (values ++ [value])
      = if leaf.path.repeated && !leaf.predicate.accepts value then none
        else some (leaf.predicate.accepts value) := by
  unfold result? at h ⊢
  split
  · rename_i hrepeated
    rw [if_pos hrepeated] at h
    have hany : values.any leaf.predicate.accepts = false := by
      cases hany : values.any leaf.predicate.accepts with
      | false => rfl
      | true => simp [hany] at h
    rw [List.any_append, hany, List.any_cons, List.any_nil, Bool.or_false, Bool.false_or, hrepeated]
    cases leaf.predicate.accepts value <;> rfl
  · rename_i hrepeated
    rw [if_neg hrepeated, Option.map_eq_none_iff, List.head?_eq_none_iff] at h
    rw [Bool.not_eq_true] at hrepeated
    rw [h, hrepeated]
    rfl

/-- The values on a path after another value was dispatched. -/
theorem valuesAt_append (dispatched : List (Path × Option Value)) (path other : Path)
    (value : Option Value) : valuesAt (dispatched ++ [(path, value)]) other
      = if other = path then valuesAt dispatched other ++ [value] else valuesAt dispatched other := by
  rw [valuesAt, List.filter_append, List.map_append, List.filter_cons, List.filter_nil, valuesAt]
  by_cases h : other = path
  · rw [if_pos h, if_pos (decide_eq_true h.symm)]
    rfl
  · rw [if_neg h, if_neg (by simpa using Ne.symm h), List.map_nil, List.append_nil]

variable {tree : Tree} {dispatched : List (Path × Option Value)} {path : Path}
  {value : Option Value}

/-- What was learned stays. -/
theorem learned_append_of_some {i : Nat} {b : Bool} (h : learned tree dispatched i = some b) :
    learned tree (dispatched ++ [(path, value)]) i = some b := by
  obtain ⟨leaf, hleaf, hresult⟩ := Option.bind_eq_some_iff.mp h
  rw [learned, hleaf, Option.bind_some, valuesAt_append]
  split
  · exact Leaf.result?_append_of_some hresult value
  · exact hresult

/-- A value tells nothing about leaves on other paths. -/
theorem learned_append_of_ne {i : Nat} (h : ∀ leaf, tree.leaf? i = some leaf → leaf.path ≠ path) :
    learned tree (dispatched ++ [(path, value)]) i = learned tree dispatched i := by
  rw [learned, learned]
  cases hleaf : tree.leaf? i with
  | none => rfl
  | some leaf => rw [Option.bind_some, Option.bind_some, valuesAt_append, if_neg (h leaf hleaf)]

/-- What a value tells about a leaf on its path of which nothing is known. -/
theorem learned_append_of_none {i : Nat} {leaf : Leaf} (hleaf : tree.leaf? i = some leaf)
    (hpath : leaf.path = path) (h : learned tree dispatched i = none) :
    learned tree (dispatched ++ [(path, value)]) i
      = if leaf.path.repeated && !leaf.predicate.accepts value then none
        else some (leaf.predicate.accepts value) := by
  rw [learned, hleaf, Option.bind_some] at h ⊢
  rw [valuesAt_append, if_pos hpath]
  exact Leaf.result?_append_of_none h value

/-- An evaluation whose root is decided is on track of whatever is learned later. -/
theorem Tracks.of_decided {known target : Nat → Option Bool} {e : Expr} {σ : Type}
    {context : Context σ} (h : Tracks tree known context.counter 0 e)
    (hdecided : context.isDecided = true)
    (hext : ∀ i b, known i = some b → target i = some b) :
    Tracks tree target context.counter 0 e := by
  have hroot : context.counter 0 ≤ 0 := Context.isDecidedAt_iff.mp hdecided
  refine h.extend (fun i _ => hext i) fun i hi hleaf hopen => ?_
  have hpos := h.counter_pos (h.open_of_leaf hi hleaf hopen)
  omega

section Sequences

variable {φ : Type} [BEq φ]

/-- The state of an evaluation after values were dispatched, one after the other. -/
def PredicateIndex.dispatchEach (index : PredicateIndex φ) (treeId : Nat) (tree : Tree)
    (suspend : Nat → MatchSession → MatchSession) (filter : φ) :
    List (Path × Option Value) → Context MatchSession → Context MatchSession
  | [], context => context
  | (path, value) :: values, context =>
    index.dispatchEach treeId tree suspend filter values
      (index.dispatch treeId tree suspend filter path value context).1

/-- Values that follow others are dispatched into the evaluation that those leave. -/
theorem PredicateIndex.dispatchEach_append (index : PredicateIndex φ) (treeId : Nat) (tree : Tree)
    (suspend : Nat → MatchSession → MatchSession) (filter : φ)
    (earlier later : List (Path × Option Value)) (context : Context MatchSession) :
    index.dispatchEach treeId tree suspend filter (earlier ++ later) context
      = index.dispatchEach treeId tree suspend filter later
          (index.dispatchEach treeId tree suspend filter earlier context) := by
  induction earlier generalizing context with
  | nil => rfl
  | cons value earlier ih => exact ih _

end Sequences

namespace Workspace

variable {φ : Type} {resolve : String → Option Path} {e : Expr}
  {w : Workspace (PredicateIndex φ) MatchSession} {log : List (Handle × φ)} {number treeId : Nat}
  {index : PredicateIndex φ} {filter : φ} {known target : Nat → Option Bool}
  {context : Context MatchSession}

/-- What is known after a value was handed to all subscriptions but those with some keys: of their
leaves what was known before, and of other leaves what is known in the end. -/
def partly (w : Workspace (PredicateIndex φ) MatchSession) (number treeId : Nat) (keys : List Nat)
    (known target : Nat → Option Bool) (i : Nat) : Option Bool :=
  if ∃ key ∈ keys, w.handle? treeId i = some ⟨number, key⟩ then known i else target i

/-- When no subscription is left everything is known that is known in the end. -/
theorem partly_nil : w.partly number treeId [] known target = target := by
  funext i
  rw [partly, if_neg (by simp)]

/-- Handing a value to one subscription more matters for the leaf of this subscription only. -/
theorem partly_cons_of_ne {key : Nat} {keys : List Nat} {i : Nat}
    (h : w.handle? treeId i ≠ some ⟨number, key⟩) :
    w.partly number treeId (key :: keys) known target i
      = w.partly number treeId keys known target i := by
  unfold partly
  simp only [List.mem_cons, exists_eq_or_imp, h, false_or]

/-- The leaf of the next subscription is known as before. -/
theorem partly_cons_self {key : Nat} {keys : List Nat} {i : Nat}
    (h : w.handle? treeId i = some ⟨number, key⟩) :
    w.partly number treeId (key :: keys) known target i = known i :=
  if_pos ⟨key, List.mem_cons_self, h⟩

/-- The leaf of the subscription just served is known as in the end. -/
theorem partly_of_not_mem {key : Nat} {keys : List Nat} {i : Nat}
    (h : w.handle? treeId i = some ⟨number, key⟩) (hkey : key ∉ keys) :
    w.partly number treeId keys known target i = target i := by
  refine if_neg ?_
  intro hparts
  rcases hparts with ⟨other, hother, hslot⟩
  rw [h] at hslot
  have hsame : key = other := congrArg Handle.key (Option.some.inj hslot)
  exact hkey (hsame ▸ hother)

/-- What is known on the way is known in the end. -/
theorem partly_settles {keys : List Nat} (hext : ∀ i b, known i = some b → target i = some b)
    (i : Nat) (b : Bool) (h : w.partly number treeId keys known target i = some b) :
    target i = some b := by
  unfold partly at h
  split at h
  · exact hext i b h
  · exact h

/-- A subscription may be passed over if its leaf is decided or learns nothing. -/
theorem tracks_skip {key : Nat} {keys : List Nat} (hkey : key ∉ keys)
    (hext : ∀ i b, known i = some b → target i = some b)
    (ht : Tracks tree (w.partly number treeId (key :: keys) known target) context.counter 0 e)
    (hskip : ∀ i, (tree.leaf? i).isSome = true → w.handle? treeId i = some ⟨number, key⟩ →
      0 < context.counter i → known i = target i) :
    Tracks tree (w.partly number treeId keys known target) context.counter 0 e := by
  refine ht.extend (fun i _ b hb => ?_) fun i _ hleaf hopen => ?_
  · by_cases hslot : w.handle? treeId i = some ⟨number, key⟩
    · rw [partly_cons_self hslot] at hb
      rw [partly_of_not_mem hslot hkey]
      exact hext i b hb
    · rw [← partly_cons_of_ne hslot]
      exact hb
  · by_cases hslot : w.handle? treeId i = some ⟨number, key⟩
    · rw [partly_cons_self hslot, partly_of_not_mem hslot hkey]
      exact hskip i hleaf hslot hopen
    · exact partly_cons_of_ne hslot

variable [BEq φ]

/-- All leaves of a tree are subscribed to an index for a filter, for which no leaf of another tree
is subscribed to the index. -/
structure WhollySubscribed (w : Workspace (PredicateIndex φ) MatchSession) (number : Nat)
    (index : PredicateIndex φ) (treeId : Nat) (tree : Tree) (filter : φ) : Prop where
  planted : w.tree? treeId = some tree
  present : w.dispatcher? number = some index
  leaves : ∀ leaf, (tree.leaf? leaf).isSome = true → ∃ key entry,
    w.handle? treeId leaf = some ⟨number, key⟩ ∧ index.active? key = some entry ∧
      (entry.filter == filter) = true
  own : ∀ key entry, index.active? key = some entry → (entry.filter == filter) = true →
    entry.tree = treeId

/-- All leaves of a wholly subscribed tree are subscribed to the one index. -/
theorem WhollySubscribed.subscribedTo (hm : WhollySubscribed w number index treeId tree filter)
    (h : Sound w log) : w.SubscribedTo treeId number := by
  intro leaf handle hslot
  obtain ⟨_, found, hfound, hleaf⟩ := h.subscribed treeId leaf handle hslot
  rw [hm.planted] at hfound
  rw [← Option.some.inj hfound] at hleaf
  obtain ⟨key, _, hslot', _⟩ := hm.leaves leaf hleaf
  rw [hslot] at hslot'
  rw [Option.some.inj hslot']

/-- The leaf with a subscription of the index is the one that the subscription refers to. -/
theorem WhollySubscribed.slot_iff (hm : WhollySubscribed w number index treeId tree filter)
    (h : Sound w log) {key : Nat} {entry : Entry φ} (hentry : index.active? key = some entry)
    (hown : entry.tree = treeId) {i : Nat} :
    w.handle? treeId i = some ⟨number, key⟩ ↔ i = entry.leaf := by
  rw [h.active number index hm.present treeId i key, hentry]
  constructor
  · intro hparts
    rcases hparts with ⟨found, hfound, _, hleaf⟩
    rw [Option.some.inj hfound, hleaf]
  · intro heq
    subst heq
    exact ⟨entry, rfl, hown, rfl⟩

/-- Serving the subscription of an undecided leaf reports what is learned about the leaf. -/
theorem tracks_serve (hm : WhollySubscribed w number index treeId tree filter) (h : Sound w log)
    (hl : Laid resolve tree [] 0 e) (hsize : tree.size = e.size) {key : Nat} {keys : List Nat}
    (hkey : key ∉ keys) {entry : Entry φ} (hentry : index.active? key = some entry)
    (hown : entry.tree = treeId) (hleaf : (tree.leaf? entry.leaf).isSome = true)
    (ht : Tracks tree (w.partly number treeId (key :: keys) known target) context.counter 0 e)
    (hopen : context.isDecidedAt entry.leaf = false) {result : Bool}
    (htarget : target entry.leaf = some result) :
    ∃ next, tree.report (w.suspend treeId) entry.leaf result context = (next, .ok next.verdict) ∧
      Tracks tree (w.partly number treeId keys known target) next.counter 0 e := by
  obtain ⟨next, hreport, htrack⟩ :=
    report_of_tracks (w.suspend treeId) hl hsize ht hleaf hopen result
  refine ⟨next, hreport, htrack.congr (fun i _ => ?_) fun _ _ => rfl⟩
  have hslot := hm.slot_iff h hentry hown (i := i)
  rw [learn]
  split
  · rename_i hi
    rw [partly_of_not_mem (hslot.mpr hi) hkey, hi, htarget]
  · rename_i hi
    exact partly_cons_of_ne fun hkey => hi (hslot.mp hkey)

/-- The subscription of an undecided leaf of the tree is not passed over unseen. -/
theorem seen_of_undecided (hm : WhollySubscribed w number index treeId tree filter) {key : Nat}
    {entry : Entry φ} (hfind : index.find? key = some entry) (htimely : Timely w treeId context)
    {i : Nat} (hleaf : (tree.leaf? i).isSome = true)
    (hslot : w.handle? treeId i = some ⟨number, key⟩) (hopen : 0 < context.counter i) :
    (entry.filter != filter || entry.cancelled || context.session.isSuspended key) = false := by
  obtain ⟨_, found, hslot', hactive, hfilter⟩ := hm.leaves i hleaf
  rw [hslot, Option.some.injEq, Handle.mk.injEq] at hslot'
  rw [← hslot'.2] at hactive
  obtain ⟨hfound, hkept⟩ := active?_eq_some_iff.mp hactive
  rw [hfind] at hfound
  obtain rfl := Option.some.inj hfound
  rw [bne, hfilter, hkept, Bool.not_true, Bool.false_or, Bool.false_or]
  cases hsuspended : context.session.isSuspended key with
  | false => rfl
  | true =>
    have hdecided := htimely i _ hslot hsuspended
    rw [Context.isDecidedAt_iff] at hdecided
    omega

/-- A subscription to the path of a value is passed over only if its leaf is decided or learns
nothing; otherwise what the leaf learns is reported. -/
theorem passed_or_served (hm : WhollySubscribed w number index treeId tree filter)
    (h : Sound w log) (hl : Laid resolve tree [] 0 e) (hsize : tree.size = e.size)
    (hnew : ∀ i leaf, tree.leaf? i = some leaf → leaf.path = path → known i = none →
      target i = if leaf.path.repeated && !leaf.predicate.accepts value then none
        else some (leaf.predicate.accepts value))
    {key : Nat} {keys : List Nat} (hkey : key ∉ keys) (hlisted : key ∈ index.keysAt path)
    (ht : Tracks tree (w.partly number treeId (key :: keys) known target) context.counter 0 e)
    (htimely : Timely w treeId context) (hundecided : context.isDecided = false) :
    (index.dispatchTo treeId tree (w.suspend treeId) filter value (key :: keys) context
        = index.dispatchTo treeId tree (w.suspend treeId) filter value keys context ∧
      ∀ i, (tree.leaf? i).isSome = true → w.handle? treeId i = some ⟨number, key⟩ →
        0 < context.counter i → known i = target i) ∨
    ∃ next, index.dispatchTo treeId tree (w.suspend treeId) filter value (key :: keys) context
        = (if next.isDecided then (next, .ok next.verdict)
          else index.dispatchTo treeId tree (w.suspend treeId) filter value keys next) ∧
      Tracks tree (w.partly number treeId keys known target) next.counter 0 e ∧
      Timely w treeId next := by
  have hc := (h.indexes number index hm.present).consistent
  obtain ⟨entry, hfind, hpath⟩ := (hc.listed path key).mp hlisted
  rw [dispatchTo, hundecided, if_neg (by decide), hfind]
  dsimp only
  split
  · rename_i hpassed
    refine .inl ⟨rfl, fun i hleaf hslot hopen => ?_⟩
    rw [seen_of_undecided hm hfind htimely hleaf hslot hopen] at hpassed
    simp at hpassed
  · rename_i hseen
    rw [Bool.not_eq_true, Bool.or_eq_false_iff, Bool.or_eq_false_iff, bne, Bool.not_eq_false']
      at hseen
    obtain ⟨⟨hfilter, hkept⟩, _⟩ := hseen
    have hactive := active?_eq_some_iff.mpr ⟨hfind, hkept⟩
    have hown := hm.own key entry hactive hfilter
    have hslot : ∀ i, w.handle? treeId i = some ⟨number, key⟩ ↔ i = entry.leaf :=
      fun _ => hm.slot_iff h hactive hown
    obtain ⟨found, leaf, hfound, hleaf, hleafPath⟩ :=
      h.path number index hm.present key entry hactive
    rw [hown, hm.planted] at hfound
    rw [← Option.some.inj hfound] at hleaf
    have hisLeaf : (tree.leaf? entry.leaf).isSome = true := Option.isSome_of_eq_some hleaf
    have hlearns : context.isDecidedAt entry.leaf = false → known entry.leaf = none ∧
        target entry.leaf = if leaf.path.repeated && !leaf.predicate.accepts value then none
          else some (leaf.predicate.accepts value) := by
      intro hopen
      have hmidway := ht.known_eq_none hl (covers_of_leaf hsize hisLeaf) hisLeaf
        (Context.isDecidedAt_eq_false_iff.mp hopen)
      rw [partly_cons_self ((hslot _).mpr rfl)] at hmidway
      exact ⟨hmidway, hnew entry.leaf leaf hleaf (hleafPath.trans hpath) hmidway⟩
    rw [hown, bne_self_eq_false, if_neg (by decide), hleaf]
    dsimp only
    rw [(h.numbered treeId tree hm.planted).leaves entry.leaf leaf hleaf]
    split
    · rename_i hsilent
      refine .inl ⟨rfl, fun i _ hslot' hopen => ?_⟩
      rw [(hslot i).mp hslot', ← Context.isDecidedAt_eq_false_iff] at hopen
      rw [hopen, Bool.false_or] at hsilent
      rw [(hslot i).mp hslot', (hlearns hopen).1, (hlearns hopen).2, if_pos hsilent]
    · rename_i hloud
      rw [Bool.not_eq_true, Bool.or_eq_false_iff] at hloud
      have htarget := (hlearns hloud.1).2
      rw [hloud.2, if_neg (by decide)] at htarget
      obtain ⟨next, hreport, htrack⟩ :=
        tracks_serve hm h hl hsize hkey hactive hown hisLeaf ht hloud.1 htarget
      have hafter := (timely_invariant h (hm.subscribedTo h) tree).report entry.leaf
        (leaf.predicate.accepts value) context htimely
      rw [hreport] at hafter ⊢
      refine .inr ⟨next, ?_, htrack, hafter⟩
      cases hverdict : next.verdict with
      | none => rw [Context.verdict_eq_none_iff.mp hverdict, if_neg (by decide)]
      | some b =>
        have hdecided : next.isDecided = true := by
          rw [← Bool.not_eq_false, ← Context.verdict_eq_none_iff, hverdict]
          simp
        rw [hdecided, if_pos rfl]

/-- Handing a value to subscriptions keeps an evaluation on track of what the value tells about
their leaves, and answers the verdict if it was not known before. -/
theorem tracks_dispatchTo (hm : WhollySubscribed w number index treeId tree filter)
    (h : Sound w log) (hl : Laid resolve tree [] 0 e) (hsize : tree.size = e.size)
    (hext : ∀ i b, known i = some b → target i = some b)
    (hnew : ∀ i leaf, tree.leaf? i = some leaf → leaf.path = path → known i = none →
      target i = if leaf.path.repeated && !leaf.predicate.accepts value then none
        else some (leaf.predicate.accepts value))
    {keys : List Nat} (hnodup : keys.Nodup) (hkeys : ∀ key ∈ keys, key ∈ index.keysAt path)
    (ht : Tracks tree (w.partly number treeId keys known target) context.counter 0 e)
    (htimely : Timely w treeId context) :
    ∃ next result, index.dispatchTo treeId tree (w.suspend treeId) filter value keys context
        = (next, .ok result) ∧
      result = (if context.isDecided then none else next.verdict) ∧
      Tracks tree target next.counter 0 e := by
  induction keys generalizing context with
  | nil =>
    rw [partly_nil] at ht
    refine ⟨context, none, rfl, ?_, ht⟩
    rw [Context.verdict]
    split <;> rfl
  | cons key keys ih =>
    by_cases hdecided : context.isDecided = true
    · refine ⟨context, none, ?_, (if_pos hdecided).symm, ht.of_decided hdecided
        (partly_settles hext)⟩
      rw [dispatchTo, if_pos hdecided]
    · rw [List.nodup_cons] at hnodup
      have hlater := fun other hother => hkeys other (List.mem_cons_of_mem _ hother)
      simp only [if_neg hdecided]
      rw [Bool.not_eq_true] at hdecided
      rcases passed_or_served hm h hl hsize hnew hnodup.1 (hkeys key List.mem_cons_self) ht htimely
        hdecided with ⟨hsame, hskip⟩ | ⟨next, hnext, htrack, hafter⟩
      · have hrest := ih hnodup.2 hlater (tracks_skip hnodup.1 hext ht hskip) htimely
        simp only [hdecided, Bool.false_eq_true, if_false] at hrest
        rw [hsame]
        exact hrest
      · rw [hnext]
        by_cases hroot : next.isDecided = true
        · rw [if_pos hroot]
          exact ⟨next, _, rfl, rfl, htrack.of_decided hroot (partly_settles hext)⟩
        · have hrest := ih hnodup.2 hlater htrack hafter
          simp only [if_neg hroot] at hrest ⊢
          exact hrest

/-- A leaf on a path is subscribed to the path. -/
theorem listed_of_leaf (hm : WhollySubscribed w number index treeId tree filter) (h : Sound w log)
    {i : Nat} {leaf : Leaf} (hleaf : tree.leaf? i = some leaf) :
    ∃ key ∈ index.keysAt leaf.path, w.handle? treeId i = some ⟨number, key⟩ := by
  obtain ⟨key, entry, hslot, hactive, hfilter⟩ := hm.leaves i (Option.isSome_of_eq_some hleaf)
  have hown := hm.own key entry hactive hfilter
  obtain ⟨found, leaf', hfound, hleaf', hpath⟩ := h.path number index hm.present key entry hactive
  rw [hown, hm.planted] at hfound
  rw [← Option.some.inj hfound, ← (hm.slot_iff h hactive hown).mp hslot, hleaf] at hleaf'
  have hc := (h.indexes number index hm.present).consistent
  refine ⟨key, (hc.listed _ _).mpr ⟨entry, (active?_eq_some_iff.mp hactive).1, ?_⟩, hslot⟩
  rw [Option.some.inj hleaf', hpath]

/-- Dispatching a value keeps an evaluation on track of what values tell, and answers the verdict if
it was not known before. -/
theorem tracks_dispatch (hm : WhollySubscribed w number index treeId tree filter)
    (h : Sound w log) (hl : Laid resolve tree [] 0 e) (hsize : tree.size = e.size)
    (ht : Tracks tree (learned tree dispatched) context.counter 0 e)
    (htimely : Timely w treeId context) (path : Path) (value : Option Value) :
    ∃ next result,
      index.dispatch treeId tree (w.suspend treeId) filter path value context = (next, .ok result) ∧
      result = (if context.isDecided then none else next.verdict) ∧
      Tracks tree (learned tree (dispatched ++ [(path, value)])) next.counter 0 e ∧
      Timely w treeId next := by
  have hc := (h.indexes number index hm.present).consistent
  have hbefore : Tracks tree (w.partly number treeId (index.keysAt path) (learned tree dispatched)
      (learned tree (dispatched ++ [(path, value)]))) context.counter 0 e := by
    refine ht.congr (fun i _ => ?_) fun _ _ => rfl
    unfold partly
    split
    · rfl
    · rename_i hfree
      refine (learned_append_of_ne ?_).symm
      intro leaf hleaf heq
      subst heq
      obtain ⟨key, hkey, hslot⟩ := listed_of_leaf hm h hleaf
      exact hfree ⟨key, hkey, hslot⟩
  obtain ⟨next, result, hdispatch, hresult, htrack⟩ := tracks_dispatchTo hm h hl hsize
    (fun _ _ => learned_append_of_some) (fun _ _ => learned_append_of_none) (hc.keys path)
    (fun _ => id) hbefore htimely
  have hafter := (timely_invariant h (hm.subscribedTo h) tree).dispatchTo index treeId
    filter value (index.keysAt path) htimely
  rw [hdispatch] at hafter
  exact ⟨next, result, hdispatch, hresult, htrack, hafter⟩

/-- Dispatching values keeps an evaluation on track of what they tell. -/
theorem tracks_dispatchEach (hm : WhollySubscribed w number index treeId tree filter)
    (h : Sound w log) (hl : Laid resolve tree [] 0 e) (hsize : tree.size = e.size)
    (ht : Tracks tree (learned tree dispatched) context.counter 0 e)
    (htimely : Timely w treeId context) (values : List (Path × Option Value)) :
    Tracks tree (learned tree (dispatched ++ values)) (index.dispatchEach treeId tree
        (w.suspend treeId) filter values context).counter 0 e ∧
      Timely w treeId
        (index.dispatchEach treeId tree (w.suspend treeId) filter values context) := by
  induction values generalizing dispatched context with
  | nil =>
    rw [List.append_nil]
    exact ⟨ht, htimely⟩
  | cons first values ih =>
    obtain ⟨path, value⟩ := first
    obtain ⟨next, result, hdispatch, _, htrack, hafter⟩ :=
      tracks_dispatch hm h hl hsize ht htimely path value
    rw [dispatchEach, hdispatch, ← List.singleton_append, ← List.append_assoc]
    exact ih htrack hafter

/-- After any values dispatched into a new evaluation the verdict is the value of the filter as soon
as that no longer depends on the conditions of which the values tell nothing, and unknown before;
and dispatching one value more answers the verdict that becomes known by it, without a fault. -/
theorem matching_exact (hcompile : e.compile resolve = .ok tree)
    (hconstant : ∀ value, e ≠ .constant value) {steps : List (IndexStep φ)}
    (hm : WhollySubscribed (run resolve steps (.new .empty)) number index treeId tree filter)
    {session : MatchSession} (hsession : session = .empty ∨ session = index.session)
    (dispatched : List (Path × Option Value)) :
    let suspend := (run resolve steps (.new .empty)).suspend treeId
    let after := fun values =>
      index.dispatchEach treeId tree suspend filter values (.new tree session)
    ((after dispatched).verdict = some true ↔
      e.evaluate (learned tree dispatched) false 0 = true) ∧
    ((after dispatched).verdict = some false ↔
      e.evaluate (learned tree dispatched) true 0 = false) ∧
    ∀ path value,
      (index.dispatch treeId tree suspend filter path value (after dispatched)).2
        = .ok (if (after dispatched).verdict = none then
            (after (dispatched ++ [(path, value)])).verdict else none) := by
  have hsound := sound_new.run resolve steps
  have hfresh : ∀ key, session.isSuspended key = false := by
    intro key
    rcases hsession with rfl | rfl
    · exact MatchSession.isSuspended_empty key
    · exact MatchSession.isSuspended_withCapacity _ key
  obtain ⟨hl, hsize, hnew⟩ := tracks_new hcompile hconstant session
  have hnothing : learned tree [] = fun _ => none := by
    funext i
    unfold learned
    cases tree.leaf? i with
    | none => rfl
    | some leaf => simp [valuesAt, Leaf.result?]
  rw [← hnothing] at hnew
  obtain ⟨htrack, htimely⟩ :=
    tracks_dispatchEach hm hsound hl hsize hnew (timely_new _ treeId tree hfresh) dispatched
  dsimp only
  rw [List.nil_append] at htrack
  have hverdict := verdict_of_tracks htrack
  rw [verdict_eq_status] at hverdict
  refine ⟨by rw [hverdict, status_eq_some_iff]; rfl, by rw [hverdict, status_eq_some_iff]; rfl,
    fun path value => ?_⟩
  obtain ⟨next, result, hdispatch, hresult, _⟩ :=
    tracks_dispatch hm hsound hl hsize htrack htimely path value
  rw [dispatchEach_append, dispatchEach, dispatchEach, hdispatch, hresult]
  simp only [Context.verdict_eq_none_iff]
  cases Context.isDecided _ <;> rfl

/-- Either there are no tags, or `a` is absent and `b` is not. -/
def taggedFilter : Expr :=
  .join .or [.test "tags" .isNull, .join .and [.test "a" .isNull, .not (.test "b" .isNull)]]

/-- The attributes of `taggedFilter`, of which `tags` is a collection. -/
def taggedPath (name : String) : Option Path :=
  some (if name = "tags" then ⟨[0], true⟩ else if name = "a" then ⟨[1], false⟩ else ⟨[2], false⟩)

/-- The tree of `taggedFilter`. -/
def taggedTree : Tree :=
  .arena #[⟨[], 0, 5, .join .or 2⟩, ⟨[0], 1, 2, .leaf ⟨1, .isNull, false, ⟨[0], true⟩⟩⟩,
    ⟨[0], 2, 5, .join .and 2⟩, ⟨[2, 0], 3, 4, .leaf ⟨3, .isNull, false, ⟨[1], false⟩⟩⟩,
    ⟨[2, 0], 4, 5, .leaf ⟨4, .isNull, true, ⟨[2], false⟩⟩⟩]

/-- An index to which `taggedTree` is wholly subscribed. -/
def taggedIndex : PredicateIndex Nat :=
  ⟨#[some ⟨⟨7, 0, 1, ⟨[0], true⟩⟩, false⟩, some ⟨⟨7, 0, 3, ⟨[1], false⟩⟩, false⟩,
      some ⟨⟨7, 0, 4, ⟨[2], false⟩⟩, false⟩], [],
    [(⟨[0], true⟩, [0]), (⟨[1], false⟩, [1]), (⟨[2], false⟩, [2])]⟩

/-- The steps that subscribe `taggedFilter`. -/
def subscribeTagged : List (IndexStep Nat) :=
  [.basic (.compile taggedFilter), .basic (.subscribe 0 none 7 0)]

/-- Subscribing all leaves of `taggedTree` subscribes it wholly. -/
theorem whollySubscribed_tagged : WhollySubscribed (run taggedPath subscribeTagged (.new .empty)) 0
    taggedIndex 0 taggedTree 7 where
  planted := rfl
  present := rfl
  leaves
    | 0, h => by simp [taggedTree, Tree.leaf?, Tree.nodes, Node.leaf?] at h
    | 1, _ => ⟨0, _, rfl, rfl, rfl⟩
    | 2, h => by simp [taggedTree, Tree.leaf?, Tree.nodes, Node.leaf?] at h
    | 3, _ => ⟨1, _, rfl, rfl, rfl⟩
    | 4, _ => ⟨2, _, rfl, rfl, rfl⟩
    | leaf + 5, h => by simp [taggedTree, Tree.leaf?, Tree.nodes] at h
  own
    | 0, _, h, _ => Option.some.inj h ▸ rfl
    | 1, _, h, _ => Option.some.inj h ▸ rfl
    | 2, _, h, _ => Option.some.inj h ▸ rfl
    | key + 3, _, h, _ => by simp [taggedIndex, active?, find?] at h

/-- A tag decides nothing, since another might be missing; that `a` is absent and `b` is not decides
the filter. -/
theorem matching_exact_tagged :
    (taggedIndex.dispatch 0 taggedTree ((run taggedPath subscribeTagged (.new .empty)).suspend 0) 7
        ⟨[2], false⟩ (some (.integer 2))
        (taggedIndex.dispatchEach 0 taggedTree
          ((run taggedPath subscribeTagged (.new .empty)).suspend 0) 7
          [(⟨[0], true⟩, some (.integer 1)), (⟨[1], false⟩, none)] (.new taggedTree .empty))).2
      = .ok (some true) := by
  have hcompile : taggedFilter.compile taggedPath = .ok taggedTree := rfl
  have hconstant : ∀ value, taggedFilter ≠ .constant value := fun _ h => by cases h
  have hmatch := (matching_exact hcompile hconstant whollySubscribed_tagged (.inl rfl)
    [(⟨[0], true⟩, some (.integer 1)), (⟨[1], false⟩, none)]).2.2 ⟨[2], false⟩ (some (.integer 2))
  rw [hmatch]
  decide +kernel

end Workspace

end Percolator
