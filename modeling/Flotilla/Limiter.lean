/-!
# Limiters

A limiter hands out a fixed number of slots.  Who finds none free waits in line, and a slot that is given
back goes to the first in line.
-/

namespace Flotilla

/-- Slots that are free, and who waits for one. -/
structure Limiter (α : Type) where
  free : Nat
  line : List α
  deriving DecidableEq, Inhabited, Repr

namespace Limiter

variable {α : Type}

/-- A limiter with all its slots free; there is at least one. -/
def new (limit : Nat) : Limiter α := ⟨max limit 1, []⟩

/-- Asks for a slot; says whether there was one, and else who asked waits in line. -/
def acquire (l : Limiter α) (who : α) : Limiter α × Bool :=
  if l.free = 0 then ({ l with line := l.line ++ [who] }, false)
  else ({ l with free := l.free - 1 }, true)

/-- Gives a slot back; gives who has it next, if anybody waited. -/
def release (l : Limiter α) : Limiter α × Option α :=
  match l.line with
  | [] => ({ l with free := l.free + 1 }, none)
  | who :: line => ({ l with line }, some who)

/-- A slot that is given was free before. -/
theorem free_acquire (l : Limiter α) (who : α) :
    (l.acquire who).1.free + (if (l.acquire who).2 then 1 else 0) = l.free := by
  unfold acquire
  split
  · simp
  · simp only [if_true]; omega

/-- A slot that is given back is free again, unless somebody was waiting for it. -/
theorem free_release (l : Limiter α) :
    l.release.1.free = l.free + (if l.release.2.isNone then 1 else 0) := by
  unfold release
  split <;> simp

end Limiter

end Flotilla
