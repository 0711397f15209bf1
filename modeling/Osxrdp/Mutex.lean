import Mathlib.Logic.Basic

/-! A value behind a mutex. A task that wants the mutex waits until nobody holds
it; only the holder sees the value, and gives it back as it leaves it. -/
namespace Osxrdp

/-- A value that one task at a time may hold. -/
structure Mutex (τ α : Type) where
  value : α
  holder : Option τ
  deriving DecidableEq, Repr

namespace Mutex
variable {τ α : Type}

/-- `lock` for a task, if it returns now. -/
def lock (mutex : Mutex τ α) (task : τ) : Option (Mutex τ α) :=
  match mutex.holder with
  | none => some { mutex with holder := some task }
  | some _ => none

/-- What a task finds behind its guard. -/
def access [DecidableEq τ] (mutex : Mutex τ α) (task : τ) : Option α :=
  if mutex.holder = some task then some mutex.value else none

/-- The guard is dropped, with the value as the task left it. -/
def unlock (_ : Mutex τ α) (value : α) : Mutex τ α := { value, holder := none }

variable {mutex held : Mutex τ α} {task other : τ} {value : α}

/-- A mutex is locked when nobody holds it. -/
theorem lock_eq_some : mutex.lock task = some held ↔
    mutex.holder = none ∧ held = { mutex with holder := some task } := by
  unfold lock
  cases mutex.holder with
  | none => simp [eq_comm]
  | some _ => simp

/-- Who holds a mutex can use its value. -/
theorem access_eq_some [DecidableEq τ] : mutex.access task = some value ↔
    mutex.holder = some task ∧ mutex.value = value := by
  unfold access
  by_cases holds : mutex.holder = some task
  · simp [holds]
  · simp [holds]

/-- While one task holds the mutex, no task gets it. -/
theorem lock_of_held (holds : mutex.holder = some task) : mutex.lock other = none := by
  rw [lock, holds]

/-- While one task holds the mutex, no other sees the value. -/
theorem access_of_held [DecidableEq τ] (holds : mutex.holder = some task) (apart : other ≠ task) :
    mutex.access other = none := by
  refine if_neg fun same => apart ?_
  exact Option.some_inj.mp (same.symm.trans holds)

end Mutex
end Osxrdp
