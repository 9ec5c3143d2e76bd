import Flotilla.Engine.Basic
import Flotilla.Json.Shape

/-!
# Engine data as JSON values
-/

namespace Flotilla

open Json (required optional)

/-- Reads a user; the account may be left out. -/
def User.ofJson? (v : Json) : Option User := do
  match ← v.slots? [required "email", required "protocol", required "inbound_tag",
      optional "account"] with
  | [some email, some protocol, some tag, account] =>
    return ⟨← email.toText?, ← protocol.toText?, ← tag.toText?, account.getD .null⟩
  | _ => none

def User.toJson (u : User) : Json :=
  .ofFields [("email", .text u.email), ("protocol", .text u.protocol),
    ("inbound_tag", .text u.inboundTag), ("account", u.account)]

/-- Reads an inbound; the settings may be left out. -/
def Inbound.ofJson? (v : Json) : Option Inbound := do
  match ← v.slots? [required "tag", required "protocol", required "port", optional "settings"] with
  | [some tag, some protocol, some port, settings] =>
    return ⟨← tag.toText?, ← protocol.toText?, ← port.toUInt16?, settings.getD .null⟩
  | _ => none

def Inbound.toJson (i : Inbound) : Json :=
  .ofFields [("tag", .text i.tag), ("protocol", .text i.protocol),
    ("port", .int i.port.toNat), ("settings", i.settings)]

def Stat.ofJson? (v : Json) : Option Stat := do
  match ← v.slots? [required "name", required "value"] with
  | [some name, some value] => return ⟨← name.toText?, ← value.toInt64?⟩
  | _ => none

def Stat.toJson (s : Stat) : Json :=
  .ofFields [("name", .text s.name), ("value", .int s.value.toInt)]

def Cert.ofJson? (v : Json) : Option Cert := do
  match ← v.slots? [required "domain", required "not_before", required "not_after"] with
  | [some domain, some notBefore, some notAfter] =>
    return ⟨← domain.toText?, ← notBefore.toInt64?, ← notAfter.toInt64?⟩
  | _ => none

def Cert.toJson (c : Cert) : Json :=
  .ofFields [("domain", .text c.domain), ("not_before", .int c.notBefore.toInt),
    ("not_after", .int c.notAfter.toInt)]

end Flotilla
