/-!
# Match sessions

A match session is the set of the subscription keys suspended during one match attempt. The set is
a row of 64-bit buckets that grows when a key beyond its end is suspended; keys beyond the end are
simply not suspended.
-/

namespace Percolator

/-- A set of keys: key `k` is bit `k % 64` of bucket `k / 64`. -/
structure MatchSession where
  buckets : Array (BitVec 64)

namespace MatchSession

/-- A session without buckets. -/
def empty : MatchSession := ⟨#[]⟩

/-- A session with room for the keys up to `capacity`; larger keys are still accepted. -/
def withCapacity (capacity : Nat) : MatchSession := ⟨Array.replicate (capacity / 64 + 1) 0⟩

/-- Add empty buckets at the end until there are `count`. -/
def grow (session : MatchSession) (count : Nat) : MatchSession :=
  ⟨session.buckets ++ Array.replicate (count - session.buckets.size) 0⟩

/-- Suspend a key. -/
def suspend (session : MatchSession) (key : Nat) : MatchSession :=
  ⟨(session.grow (key / 64 + 1)).buckets.modify (key / 64) (· ||| BitVec.twoPow 64 (key % 64))⟩

/-- Whether a key is suspended. -/
def isSuspended (session : MatchSession) (key : Nat) : Bool :=
  match session.buckets[key / 64]? with
  | some bucket => bucket.getLsbD (key % 64)
  | none => false

/-- Resume all keys; the buckets are kept. -/
def clear (session : MatchSession) : MatchSession := ⟨session.buckets.map fun _ => 0⟩

/-! The view of a session is its set of suspended keys. -/

/-- A session without buckets suspends no key. -/
@[simp] theorem isSuspended_empty (key : Nat) : empty.isSuspended key = false := by
  simp [isSuspended, empty]

/-- A new session suspends no key, whatever its capacity. -/
@[simp] theorem isSuspended_withCapacity (capacity key : Nat) :
    (withCapacity capacity).isSuspended key = false := by
  unfold isSuspended withCapacity
  by_cases h : key / 64 < capacity / 64 + 1 <;> simp [h]

/-- A cleared session suspends no key. -/
@[simp] theorem isSuspended_clear (session : MatchSession) (key : Nat) :
    session.clear.isSuspended key = false := by
  unfold isSuspended clear
  cases h : session.buckets[key / 64]? <;> simp [h]

/-- A session grows to the buckets that are asked for and never shrinks. -/
theorem size_grow (session : MatchSession) (count : Nat) :
    (session.grow count).buckets.size = max session.buckets.size count := by
  simp [grow]
  omega

/-- Growing adds only keys that are not suspended. -/
@[simp] theorem isSuspended_grow (session : MatchSession) (count key : Nat) :
    (session.grow count).isSuspended key = session.isSuspended key := by
  unfold isSuspended grow
  by_cases h : key / 64 < session.buckets.size
  · simp [Array.getElem?_append_left h]
  · rw [Array.getElem?_append_right (by omega)]
    by_cases hnew : key / 64 - session.buckets.size < count - session.buckets.size <;>
      simp [Array.getElem?_eq_none (show session.buckets.size ≤ key / 64 by omega), hnew]

/-- Suspending a key suspends it and no other key. -/
@[simp] theorem isSuspended_suspend (session : MatchSession) (key other : Nat) :
    (session.suspend key).isSuspended other = (session.isSuspended other || other == key) := by
  rw [← isSuspended_grow session (key / 64 + 1) other]
  have hsize := size_grow session (key / 64 + 1)
  generalize hgrown : session.grow (key / 64 + 1) = grown at *
  unfold suspend isSuspended
  rw [hgrown, Array.getElem?_modify]
  by_cases h : key / 64 = other / 64
  · have hlt : other / 64 < grown.buckets.size := by omega
    simp only [h, if_true, Array.getElem?_eq_getElem hlt, Option.map_some, BitVec.getLsbD_or,
      BitVec.getLsbD_twoPow]
    congr 1
    rw [Bool.eq_iff_iff]
    simp
    omega
  · have hne : (other == key) = false := by
      rw [beq_eq_false_iff_ne]
      rintro rfl
      exact h rfl
    rw [if_neg h, hne, Bool.or_false]

/-- Suspend a key, or resume all keys if there is none. -/
def apply (session : MatchSession) : Option Nat → MatchSession
  | some key => session.suspend key
  | none => session.clear

/-- The session at the start and after each of some steps. -/
def run (session : MatchSession) : List (Option Nat) → List MatchSession
  | [] => [session]
  | step :: steps => session :: (session.apply step).run steps

end MatchSession

end Percolator
