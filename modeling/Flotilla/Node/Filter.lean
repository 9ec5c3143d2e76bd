import Flotilla.Node.Basic

/-!
# Named filters

Conditions on records that are chosen by name.
-/

namespace Flotilla.Node

/-- The conditions that need no more than their name. -/
def filters : List (String × (Instant → Node → Bool)) :=
  [("all", fun _ _ => true), ("valid", fun now n => n.isValidAt now),
    ("valid_now", fun now n => n.isValidAt now), ("valid_or_local", fun now n => n.survivesAt now),
    ("local", fun _ n => n.isLocal), ("registered_local", fun now n => n.registeredLocalAt now),
    ("registered_remote", fun now n => n.registeredRemoteAt now)]

/-- The condition with a name; a name or a host is given after a colon.  No record satisfies a condition
that is not known. -/
def filter (condition : String) (now : Instant) (n : Node) : Bool :=
  match filters.lookup condition with
  | some f => f now n
  | none => condition == "name:" ++ n.name || condition == "host:" ++ n.identity.host

end Flotilla.Node
