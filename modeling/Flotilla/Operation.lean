import Flotilla.Engine.Shape

/-!
# Operations

The eight operations that a node can carry out on its engine and certificate manager.  A task is an
operation with its arguments, and running a task gives an outcome or an engine error.
-/

namespace Flotilla

inductive Operation where
  | addUsers
  | deleteUsers
  | getUsers
  | addInbound
  | deleteInbound
  | getStats
  | obtainCert
  | getCerts
  deriving DecidableEq, Repr, Inhabited

namespace Operation

def all : List Operation :=
  [.addUsers, .deleteUsers, .getUsers, .addInbound, .deleteInbound, .getStats, .obtainCert,
    .getCerts]

def name : Operation → String
  | .addUsers => "add_users"
  | .deleteUsers => "delete_users"
  | .getUsers => "get_users"
  | .addInbound => "add_inbound"
  | .deleteInbound => "delete_inbound"
  | .getStats => "get_stats"
  | .obtainCert => "obtain_cert"
  | .getCerts => "get_certs"

def ofName? (s : String) : Option Operation := all.find? (·.name == s)

theorem mem_all (o : Operation) : o ∈ all := by cases o <;> decide

/-- The name of an operation is read back as this operation. -/
@[simp] theorem ofName?_name (o : Operation) : ofName? o.name = some o := by cases o <;> decide

end Operation

/-- An operation with its arguments. -/
inductive Task where
  | addUsers (users : List User)
  | deleteUsers (tag : String) (emails : List String)
  | getUsers (tag : String)
  | addInbound (inbound : Inbound)
  | deleteInbound (tag : String)
  | getStats (pattern : String) (reset : Bool)
  | obtainCert (domain : String)
  | getCerts (domain : String)
  deriving DecidableEq, Inhabited

namespace Task

open Json (required optional)

/-- The operation that a task carries out. -/
def operation : Task → Operation
  | .addUsers _ => .addUsers
  | .deleteUsers .. => .deleteUsers
  | .getUsers _ => .getUsers
  | .addInbound _ => .addInbound
  | .deleteInbound _ => .deleteInbound
  | .getStats .. => .getStats
  | .obtainCert _ => .obtainCert
  | .getCerts _ => .getCerts

def ofJson? (o : Operation) (v : Json) : Option Task :=
  match o with
  | .addUsers => do
    match ← v.slots? [required "users"] with
    | [some users] => return .addUsers (← users.toListOf? User.ofJson?)
    | _ => none
  | .deleteUsers => do
    match ← v.slots? [required "inbound_tag", required "emails"] with
    | [some tag, some emails] =>
      return .deleteUsers (← tag.toText?) (← emails.toListOf? Json.toText?)
    | _ => none
  | .getUsers => do
    match ← v.slots? [required "inbound_tag"] with
    | [some tag] => return .getUsers (← tag.toText?)
    | _ => none
  | .addInbound => do
    match ← v.slots? [required "inbound"] with
    | [some inbound] => return .addInbound (← Inbound.ofJson? inbound)
    | _ => none
  | .deleteInbound => do
    match ← v.slots? [required "tag"] with
    | [some tag] => return .deleteInbound (← tag.toText?)
    | _ => none
  | .getStats => do
    match ← v.slots? [optional "pattern", optional "reset"] with
    | [pattern, reset] =>
      return .getStats (← Json.readOr? "" Json.toText? pattern) (← Json.readOr? false Json.toBool? reset)
    | _ => none
  | .obtainCert => do
    match ← v.slots? [required "domain"] with
    | [some domain] => return .obtainCert (← domain.toText?)
    | _ => none
  | .getCerts => do
    match ← v.slots? [optional "domain"] with
    | [domain] => return .getCerts (← Json.readOr? "" Json.toText? domain)
    | _ => none

end Task

inductive Outcome where
  | done
  | users (users : List User)
  | stats (stats : List Stat)
  | certs (certs : List Cert)
  deriving DecidableEq, Inhabited

/-- An outcome as a value tagged by its kind. -/
def Outcome.toJson : Outcome → Json
  | .done => .ofFields [("kind", .text "done")]
  | .users us => .ofFields [("kind", .text "users"), ("data", .list (us.map User.toJson))]
  | .stats ss => .ofFields [("kind", .text "stats"), ("data", .list (ss.map Stat.toJson))]
  | .certs cs => .ofFields [("kind", .text "certs"), ("data", .list (cs.map Cert.toJson))]

namespace Task

variable {σ : Type} [ProxyEngine σ] [CertManager σ]

/-- The call that carries out a task. -/
def call : Task → EngineCall σ Outcome
  | .addUsers users => (ProxyEngine.addUsers users).map fun _ => .done
  | .deleteUsers tag emails => (ProxyEngine.removeUsers tag emails).map fun _ => .done
  | .getUsers tag => (ProxyEngine.getUsers tag).map .users
  | .addInbound inbound => (ProxyEngine.addInbound inbound).map fun _ => .done
  | .deleteInbound tag => (ProxyEngine.deleteInbound tag).map fun _ => .done
  | .getStats pattern reset => (ProxyEngine.queryStats pattern reset).map .stats
  | .obtainCert domain => (CertManager.obtainCert domain).map fun _ => .done
  | .getCerts domain =>
    if domain = "" then CertManager.allCerts.map .certs
    else (CertManager.getCert domain).map fun cert => .certs cert.toList

/-- Carries out a task: what this leaves behind, and its outcome or why it fails. -/
def run (t : Task) (now : Instant) (engine : σ) : σ × Except EngineError Outcome := t.call now engine

end Task

end Flotilla
