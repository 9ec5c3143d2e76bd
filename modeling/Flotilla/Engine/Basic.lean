import Flotilla.Json.Basic
import Flotilla.Time

/-!
# Engines

A proxy engine has inbounds, users of inbounds and traffic counters; a certificate manager has
certificates.  Account and inbound settings are opaque JSON values.  What keeps them is somebody else's
business: a node calls an engine and a certificate manager, and knows no more of them than what a call
leaves behind and gives.
-/

namespace Flotilla

structure User where
  email : String
  protocol : String
  inboundTag : String
  account : Json
  deriving DecidableEq, Inhabited

/-- A port on which the engine accepts connections. -/
structure Inbound where
  tag : String
  protocol : String
  port : UInt16
  settings : Json
  deriving DecidableEq, Inhabited

structure Stat where
  name : String
  value : Int64
  deriving DecidableEq, Inhabited

/-- A certificate and its span of validity in Unix seconds. -/
structure Cert where
  domain : String
  notBefore : Int64
  notAfter : Int64
  deriving DecidableEq, Inhabited

/-- Why an engine call fails. -/
inductive EngineError where
  | notConfigured (facility : String)
  | notFound (what : String)
  | alreadyExists (what : String)
  | failed (reason : String)
  deriving DecidableEq, Repr

def EngineError.message : EngineError → String
  | .notConfigured facility => facility ++ " is not configured on this node"
  | .notFound what => what ++ " not found"
  | .alreadyExists what => what ++ " already exists"
  | .failed reason => reason

/-! ### Calls -/

/-- A call at an instant: what it leaves behind, and what it gives or why it fails. -/
abbrev EngineCall (σ α : Type) := Instant → σ → σ × Except EngineError α

namespace EngineCall

variable {σ τ α β : Type}

/-- Makes something of what a call gives. -/
def map (f : α → β) (call : EngineCall σ α) : EngineCall σ β := fun now s =>
  ((call now s).1, (call now s).2.map f)

def onFirst (call : EngineCall σ α) : EngineCall (σ × τ) α := fun now s =>
  (((call now s.1).1, s.2), (call now s.1).2)

def onSecond (call : EngineCall τ α) : EngineCall (σ × τ) α := fun now s =>
  ((s.1, (call now s.2).1), (call now s.2).2)

/-- A call to the one of two that is there. -/
def either (left : EngineCall σ α) (right : EngineCall τ α) : EngineCall (σ ⊕ τ) α := fun now s =>
  match s with
  | .inl s => (.inl (left now s).1, (left now s).2)
  | .inr s => (.inr (right now s).1, (right now s).2)

end EngineCall

/-- What acts as a proxy engine. -/
class ProxyEngine (σ : Type) where
  addUsers (users : List User) : EngineCall σ Unit
  removeUsers (tag : String) (emails : List String) : EngineCall σ Unit
  getUsers (tag : String) : EngineCall σ (List User)
  addInbound (inbound : Inbound) : EngineCall σ Unit
  deleteInbound (tag : String) : EngineCall σ Unit
  /-- The counters whose name contains a pattern; `reset` sets them to zero. -/
  queryStats (pattern : String) (reset : Bool) : EngineCall σ (List Stat)

/-- What acts as a certificate manager. -/
class CertManager (σ : Type) where
  obtainCert (domain : String) : EngineCall σ Cert
  getCert (domain : String) : EngineCall σ (Option Cert)
  allCerts : EngineCall σ (List Cert)

/-! ### Two that have nothing to do with each other -/

section Pair

variable {σ τ : Type}

instance [ProxyEngine σ] : ProxyEngine (σ × τ) where
  addUsers users := .onFirst (ProxyEngine.addUsers users)
  removeUsers tag emails := .onFirst (ProxyEngine.removeUsers tag emails)
  getUsers tag := .onFirst (ProxyEngine.getUsers tag)
  addInbound inbound := .onFirst (ProxyEngine.addInbound inbound)
  deleteInbound tag := .onFirst (ProxyEngine.deleteInbound tag)
  queryStats pattern reset := .onFirst (ProxyEngine.queryStats pattern reset)

instance [CertManager τ] : CertManager (σ × τ) where
  obtainCert domain := .onSecond (CertManager.obtainCert domain)
  getCert domain := .onSecond (CertManager.getCert domain)
  allCerts := .onSecond CertManager.allCerts

end Pair

/-! ### One or the other -/

section Sum

variable {σ τ : Type}

instance [ProxyEngine σ] [ProxyEngine τ] : ProxyEngine (σ ⊕ τ) where
  addUsers users := .either (ProxyEngine.addUsers users) (ProxyEngine.addUsers users)
  removeUsers tag emails := .either (ProxyEngine.removeUsers tag emails) (ProxyEngine.removeUsers tag emails)
  getUsers tag := .either (ProxyEngine.getUsers tag) (ProxyEngine.getUsers tag)
  addInbound inbound := .either (ProxyEngine.addInbound inbound) (ProxyEngine.addInbound inbound)
  deleteInbound tag := .either (ProxyEngine.deleteInbound tag) (ProxyEngine.deleteInbound tag)
  queryStats pattern reset :=
    .either (ProxyEngine.queryStats pattern reset) (ProxyEngine.queryStats pattern reset)

instance [CertManager σ] [CertManager τ] : CertManager (σ ⊕ τ) where
  obtainCert domain := .either (CertManager.obtainCert domain) (CertManager.obtainCert domain)
  getCert domain := .either (CertManager.getCert domain) (CertManager.getCert domain)
  allCerts := .either CertManager.allCerts CertManager.allCerts

end Sum

/-! ### Nothing -/

/-- What stands in for an engine or a certificate manager that a node was built without. -/
structure Unconfigured where
  deriving DecidableEq, Inhabited

/-- A call to what is not there. -/
def Unconfigured.call {α : Type} (facility : String) : EngineCall Unconfigured α := fun _ s =>
  (s, .error (.notConfigured facility))

instance : ProxyEngine Unconfigured where
  addUsers _ := Unconfigured.call "proxy engine"
  removeUsers _ _ := Unconfigured.call "proxy engine"
  getUsers _ := Unconfigured.call "proxy engine"
  addInbound _ := Unconfigured.call "proxy engine"
  deleteInbound _ := Unconfigured.call "proxy engine"
  queryStats _ _ := Unconfigured.call "proxy engine"

instance : CertManager Unconfigured where
  obtainCert _ := Unconfigured.call "certificate manager"
  getCert _ := Unconfigured.call "certificate manager"
  allCerts := Unconfigured.call "certificate manager"

end Flotilla
