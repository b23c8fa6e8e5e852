import Percolator.Session

/-!
# A session is a set of keys

A key is suspended in a session if it was suspended in some step and no later step resumed all keys.
The buckets are read and written by indexing, which could fail beyond their end; the buckets that a
key needs are there whenever they are indexed. Main statement: whatever room a new session has and
whatever steps are taken, no index is out of bounds and exactly the keys suspended since the last
clear are suspended, so that neither the room nor the order or repetition of the keys matters.
-/

namespace Percolator.MatchSession

/-- The buckets with the bit of a key set, if there is a bucket for it. -/
def setBit? (buckets : Array (BitVec 64)) (key : Nat) : Option (Array (BitVec 64)) :=
  if h : key / 64 < buckets.size then
    some (buckets.set (key / 64) (buckets[key / 64] ||| 1#64 <<< (key % 64)) h)
  else none

/-- Whether the bit of a key is set, if there is a bucket for it. -/
def getBit? (buckets : Array (BitVec 64)) (key : Nat) : Option Bool :=
  if h : key / 64 < buckets.size then
    some (buckets[key / 64] &&& 1#64 <<< (key % 64) != 0#64)
  else none

/-- Suspend a key by indexing, once the missing buckets are added. -/
def suspendIndexed? (session : MatchSession) (key : Nat) : Option MatchSession :=
  (setBit? (session.grow (key / 64 + 1)).buckets key).map mk

/-- Read a key by indexing, unless it lies beyond the buckets. -/
def isSuspendedIndexed? (session : MatchSession) (key : Nat) : Option Bool :=
  if key / 64 < session.buckets.size then getBit? session.buckets key else some false

/-- Take a step by indexing. -/
def applyIndexed? (session : MatchSession) : Option Nat → Option MatchSession
  | some key => session.suspendIndexed? key
  | none => some session.clear

/-- Take some steps by indexing, as far as no index is out of bounds. -/
def runIndexed? (session : MatchSession) (steps : List (Option Nat)) : Option MatchSession :=
  steps.foldlM applyIndexed? session

/-- The missing buckets are added before a bit is set. -/
theorem suspendIndexed?_eq (session : MatchSession) (key : Nat) :
    session.suspendIndexed? key = some (session.suspend key) := by
  have hbound : key / 64 < (session.grow (key / 64 + 1)).buckets.size := by
    have hsize := size_grow session (key / 64 + 1)
    omega
  rw [suspendIndexed?, setBit?, dif_pos hbound, Option.map_some, suspend]
  congr 2
  refine Array.ext_getElem? fun i => ?_
  rw [Array.getElem?_set, Array.getElem?_modify]
  split
  · rename_i h
    rw [← h, Array.getElem?_eq_getElem hbound, Option.map_some, BitVec.twoPow_eq]
  · rfl

/-- A bit is set if the mask for it leaves something. -/
theorem and_mask_ne_zero (bucket : BitVec 64) {i : Nat} (h : i < 64) :
    (bucket &&& 1#64 <<< i != 0#64) = bucket.getLsbD i := by
  rw [← BitVec.twoPow_eq, BitVec.and_twoPow]
  cases hbit : bucket.getLsbD i with
  | false => rfl
  | true =>
    have hpow : BitVec.twoPow 64 i ≠ 0#64 := by
      intro hzero
      have hself : (BitVec.twoPow 64 i).getLsbD i = (0#64).getLsbD i := by rw [hzero]
      simp [h] at hself
    simpa using hpow

/-- Only buckets that exist are read. -/
theorem isSuspendedIndexed?_eq (session : MatchSession) (key : Nat) :
    session.isSuspendedIndexed? key = some (session.isSuspended key) := by
  rw [isSuspendedIndexed?, isSuspended]
  split
  · rename_i hbound
    rw [getBit?, dif_pos hbound, and_mask_ne_zero _ (Nat.mod_lt key (by decide)),
      Array.getElem?_eq_getElem hbound]
  · rename_i hbound
    rw [Array.getElem?_eq_none (Nat.le_of_not_lt hbound)]

/-- No step indexes out of bounds. -/
theorem applyIndexed?_eq (session : MatchSession) (step : Option Nat) :
    session.applyIndexed? step = some (session.apply step) := by
  cases step with
  | none => rfl
  | some key => exact suspendIndexed?_eq session key

/-- Nor do some steps. -/
theorem runIndexed?_eq (session : MatchSession) (steps : List (Option Nat)) :
    session.runIndexed? steps = some (steps.foldl apply session) := by
  have happly : applyIndexed? = fun session step => some (session.apply step) := by
    funext session step
    exact applyIndexed?_eq session step
  rw [runIndexed?, happly]
  exact List.foldlM_pure

/-- A run ends with the session after all steps. -/
theorem getLast?_run (session : MatchSession) (steps : List (Option Nat)) :
    (session.run steps).getLast? = some (steps.foldl apply session) := by
  induction steps generalizing session with
  | nil => rfl
  | cons step steps ih => rw [run, List.getLast?_cons, ih, List.foldl_cons, Option.getD_some]

/-- A key was suspended in some step, and no later step resumed all keys. -/
def SuspendedSince (steps : List (Option Nat)) (key : Nat) : Prop :=
  ∃ before after, steps = before ++ some key :: after ∧ none ∉ after

variable {steps : List (Option Nat)} {key : Nat}

/-- Before the first step no key is suspended. -/
theorem not_suspendedSince_nil : ¬ SuspendedSince [] key := by
  intro h
  obtain ⟨before, after, heq, -⟩ := h
  exact List.append_ne_nil_of_right_ne_nil before (List.cons_ne_nil _ _) heq.symm

/-- What the first step does is undone by a later clear. -/
theorem suspendedSince_cons_iff {step : Option Nat} :
    SuspendedSince (step :: steps) key ↔
      SuspendedSince steps key ∨ none ∉ steps ∧ step = some key := by
  constructor
  · intro h
    obtain ⟨before, after, heq, hafter⟩ := h
    cases before with
    | nil =>
      obtain ⟨rfl, rfl⟩ := List.cons.inj heq
      exact .inr ⟨hafter, rfl⟩
    | cons first before =>
      obtain ⟨-, rfl⟩ := List.cons.inj heq
      exact .inl ⟨before, after, rfl, hafter⟩
  · intro h
    rcases h with ⟨before, after, rfl, hafter⟩ | ⟨hnone, rfl⟩
    · exact ⟨step :: before, after, rfl, hafter⟩
    · exact ⟨[], steps, rfl, hnone⟩

/-- All keys are suspended by steps that only suspend keys. -/
theorem suspendedSince_map_some_iff {keys : List Nat} :
    SuspendedSince (keys.map some) key ↔ key ∈ keys := by
  induction keys with
  | nil => exact iff_of_false not_suspendedSince_nil List.not_mem_nil
  | cons first keys ih =>
    have hnone : none ∉ keys.map some := by simp
    rw [List.map_cons, suspendedSince_cons_iff, ih, List.mem_cons, and_iff_right hnone,
      Option.some_inj, or_comm, eq_comm]

/-- A clear undoes all steps before it. -/
theorem suspendedSince_clear_iff {keys : List Nat} :
    SuspendedSince (steps ++ none :: keys.map some) key ↔ key ∈ keys := by
  induction steps with
  | nil =>
    rw [List.nil_append, suspendedSince_cons_iff, suspendedSince_map_some_iff]
    exact or_iff_left fun h => nomatch h.2
  | cons step steps ih =>
    rw [List.cons_append, suspendedSince_cons_iff, ih]
    exact or_iff_left fun h => h.1 (List.mem_append_right _ List.mem_cons_self)

/-- A step suspends its key and no other one, or resumes all. -/
theorem isSuspended_apply_iff (session : MatchSession) (step : Option Nat) (key : Nat) :
    (session.apply step).isSuspended key = true ↔
      step = some key ∨ none ≠ step ∧ session.isSuspended key = true := by
  cases step with
  | none => simp [apply]
  | some other =>
    rw [apply, isSuspended_suspend, Bool.or_eq_true, beq_iff_eq, or_comm, Option.some_inj, eq_comm]
    simp

/-- After some steps, the keys suspended since the last clear are suspended, and those suspended
before if nothing was cleared. -/
theorem isSuspended_foldl_iff (session : MatchSession) (steps : List (Option Nat)) (key : Nat) :
    (steps.foldl apply session).isSuspended key = true ↔
      SuspendedSince steps key ∨ none ∉ steps ∧ session.isSuspended key = true := by
  induction steps generalizing session with
  | nil => simp [not_suspendedSince_nil]
  | cons step steps ih =>
    rw [List.foldl_cons, ih, suspendedSince_cons_iff, isSuspended_apply_iff, List.mem_cons, not_or]
    grind

/-- A session as it is made, without buckets or with room for some keys. -/
inductive Fresh : MatchSession → Prop where
  | empty : Fresh .empty
  | withCapacity (capacity : Nat) : Fresh (.withCapacity capacity)

/-- Nothing is suspended in a new session. -/
theorem Fresh.isSuspended {session : MatchSession} (h : session.Fresh) (key : Nat) :
    session.isSuspended key = false := by
  cases h with
  | empty => exact isSuspended_empty key
  | withCapacity capacity => exact isSuspended_withCapacity capacity key

/-- The keys suspended in a session that started as a new one are those suspended since the last
clear. -/
theorem Fresh.isSuspended_foldl_iff {initial : MatchSession} (h : initial.Fresh)
    (steps : List (Option Nat)) (key : Nat) :
    (steps.foldl apply initial).isSuspended key = true ↔ SuspendedSince steps key := by
  rw [MatchSession.isSuspended_foldl_iff, h.isSuspended]
  simp

/-- Steps that clear equally often and suspend the same keys between clears, in any order and any
number of times. -/
inductive Reordered : List (Option Nat) → List (Option Nat) → Prop where
  | suspends {keys keys' : List Nat} (h : ∀ key, key ∈ keys ↔ key ∈ keys') :
    Reordered (keys.map some) (keys'.map some)
  | clear {steps steps' : List (Option Nat)} {keys keys' : List Nat}
    (before : Reordered steps steps') (h : ∀ key, key ∈ keys ↔ key ∈ keys') :
    Reordered (steps ++ none :: keys.map some) (steps' ++ none :: keys'.map some)

/-- The order of keys between clears does not matter, nor does their repetition. -/
theorem Reordered.suspendedSince_iff {steps' : List (Option Nat)} (h : Reordered steps steps')
    (key : Nat) : SuspendedSince steps' key ↔ SuspendedSince steps key := by
  cases h with
  | suspends h => rw [suspendedSince_map_some_iff, suspendedSince_map_some_iff, h]
  | clear _ h => rw [suspendedSince_clear_iff, suspendedSince_clear_iff, h]

/-- What holds of the session after some steps from a new one. -/
structure KeepsKeys (initial : MatchSession) (steps : List (Option Nat)) (last : MatchSession) :
    Prop where
  /-- The run ends with this session. -/
  reached : (initial.run steps).getLast? = some last
  /-- It is also reached by indexing, so that no index is out of bounds on the way. -/
  written : initial.runIndexed? steps = some last
  /-- No key is read out of bounds. -/
  read : ∀ key, last.isSuspendedIndexed? key = some (last.isSuspended key)
  /-- The keys suspended since the last clear are suspended, and no others. -/
  exact : ∀ key, last.isSuspended key = true ↔ SuspendedSince steps key
  /-- From any other new session, the same keys in any order and any number of times lead to the
  same answers. -/
  independent : ∀ (other last' : MatchSession) (steps' : List (Option Nat)), other.Fresh →
    Reordered steps steps' → (other.run steps').getLast? = some last' →
    ∀ key, last'.isSuspended key = last.isSuspended key

/-- After any steps from a new session, exactly the keys suspended since the last clear are
suspended, and no index was out of bounds. -/
theorem keys_kept {initial : MatchSession} (hfresh : initial.Fresh) (steps : List (Option Nat)) :
    ∃ last, KeepsKeys initial steps last := by
  refine ⟨steps.foldl apply initial, getLast?_run initial steps, runIndexed?_eq initial steps,
    isSuspendedIndexed?_eq _, hfresh.isSuspended_foldl_iff steps, ?_⟩
  intro other last' steps' hother hreordered hlast key
  rw [getLast?_run] at hlast
  obtain rfl := Option.some.inj hlast
  rw [Bool.eq_iff_iff, hother.isSuspended_foldl_iff, hfresh.isSuspended_foldl_iff,
    hreordered.suspendedSince_iff]

/-- A session with room for 128 keys grows and is cleared on the way; the keys at the edges of its
buckets are told apart, and a session without room gives the same answers after the same keys in
another order. -/
theorem keys_kept_at_edges : (withCapacity 128).Fresh ∧
    ∃ last, KeepsKeys (withCapacity 128)
        [some 127, some 300, none, some 255, some 64, some 255] last ∧
      (last.isSuspended 255 = true ∧ last.isSuspended 64 = true ∧ last.isSuspended 127 = false ∧
        last.isSuspended 256 = false ∧ last.isSuspended 100000 = false) ∧
      ∃ last', (run .empty [some 300, some 127, none, some 64, some 255]).getLast? = some last' ∧
        ∀ key, last'.isSuspended key = last.isSuspended key := by
  refine ⟨.withCapacity 128, ?_⟩
  obtain ⟨last, hlast⟩ := keys_kept (.withCapacity 128)
    [some 127, some 300, none, some 255, some 64, some 255]
  have hreordered : Reordered ([127, 300].map some ++ none :: [255, 64, 255].map some)
      ([300, 127].map some ++ none :: [64, 255].map some) :=
    .clear (.suspends (by simp [or_comm])) (by simp)
  have hempty := getLast?_run .empty [some 300, some 127, none, some 64, some 255]
  have hsame := hlast.independent .empty _ _ .empty hreordered hempty
  obtain rfl := Option.some.inj ((getLast?_run _ _).symm.trans hlast.reached)
  exact ⟨_, hlast, by simp [apply], _, hempty, hsame⟩

end Percolator.MatchSession
