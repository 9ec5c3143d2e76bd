import Flotilla.Time

/-!
# Agendas

What is to happen, in the order in which it will: by the instant when it is due, then by the slot of the
one whom it concerns, then as it was entered.
-/

namespace Flotilla.Simulation

/-- Something that is to happen. -/
structure Appointment (α : Type) where
  due : Instant
  slot : Nat
  what : α

/-- Whether an appointment comes before one that is entered after it. -/
def Appointment.isBefore {α : Type} (a b : Appointment α) : Bool :=
  a.due < b.due || (a.due == b.due && a.slot ≤ b.slot)

/-- Appointments in order. -/
structure Agenda (α : Type) where
  appointments : List (Appointment α)

namespace Agenda

variable {α : Type}

def empty : Agenda α := ⟨[]⟩

/-- Enters an appointment after those that come before it. -/
def add (a : Agenda α) (new : Appointment α) : Agenda α :=
  ⟨a.appointments.takeWhile (·.isBefore new) ++ new :: a.appointments.dropWhile (·.isBefore new)⟩

/-- The first appointment that is due before an instant, and the others. -/
def next? (a : Agenda α) (horizon : Instant) : Option (Appointment α × Agenda α) :=
  match a.appointments with
  | first :: rest => if first.due < horizon then some (first, ⟨rest⟩) else none
  | [] => none

end Agenda

end Flotilla.Simulation
