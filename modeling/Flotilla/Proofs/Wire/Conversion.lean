import Flotilla.Proofs.FanOut.Remote
import Flotilla.Proofs.Json.Reading

/-!
# Conversions for the wire

What is converted for the wire and back is what it was, and what arrives from the wire stays what it is when
it is sent on.  Only floating-point numbers are left out, which the reader rounds.
-/

namespace Flotilla.Wire

/-! ### Opaque values -/

/-- The text of a JSON value, or any text that is none, stands for a value that can be written again. -/
lemma plain_opaqueValue {raw : String} (h : ∀ v, Json.parse? raw = some v → v.FloatFree) :
    (opaqueValue raw).Plain := by
  rw [opaqueValue]
  split_ifs
  · exact ⟨trivial, Nat.zero_le _⟩
  · cases hparse : Json.parse? raw with
    | none => exact ⟨trivial, Nat.zero_le _⟩
    | some v => exact Json.plain_of_parse? hparse (h v hparse)

/-! ### Messages -/

/-- A user that has arrived may be sent on without a loss. -/
lemma toUser_ofUser_toUser {w : User} (h : ∀ v, Json.parse? w.accountText = some v → v.FloatFree) :
    (User.ofUser w.toUser).toUser = w.toUser :=
  User.toUser_ofUser (plain_opaqueValue h)

/-- An inbound that has arrived may be sent on without a loss. -/
lemma toInbound_ofInbound_of_toInbound {w : Inbound} {i : Flotilla.Inbound}
    (h : ∀ v, Json.parse? w.settingsText = some v → v.FloatFree) (hi : w.toInbound = .ok i) :
    (Inbound.ofInbound i).toInbound = .ok i := by
  rw [Inbound.toInbound] at hi
  split_ifs at hi
  cases hi
  exact Inbound.toInbound_ofInbound (plain_opaqueValue h)

/-- Conversions for the wire lose nothing.  Users, inbounds, counters and certificates come back from the wire
as they were sent, and users and inbounds that arrived are the same when they are sent on.  An identity comes
back if it has a host and a port, and one that is accepted is the one that was on the wire. -/
theorem conversions_lose_nothing :
    (∀ u : Flotilla.User, u.account.Regular → u.account.FloatFree →
        u.account.depth ≤ Json.nestingLimit → (User.ofUser u).toUser = u) ∧
      (∀ i : Flotilla.Inbound, i.settings.Regular → i.settings.FloatFree →
        i.settings.depth ≤ Json.nestingLimit → (Inbound.ofInbound i).toInbound = .ok i) ∧
      (∀ s : Stat, Stat.ofData? s.toData = some s) ∧
      (∀ c : Cert, Cert.ofData? c.toData = some c) ∧
      (∀ w : User, (∀ v, Json.parse? w.accountText = some v → v.FloatFree) →
        (User.ofUser w.toUser).toUser = w.toUser) ∧
      (∀ (w : Inbound) (i : Flotilla.Inbound),
        (∀ v, Json.parse? w.settingsText = some v → v.FloatFree) → w.toInbound = .ok i →
          (Inbound.ofInbound i).toInbound = .ok i) ∧
      (∀ i : Flotilla.Identity,
        (Identity.ofIdentity i).toIdentity = .ok i ↔ i.host ≠ "" ∧ i.port ≠ 0) ∧
      ∀ (w : Identity) (i : Flotilla.Identity), w.toIdentity = .ok i → Identity.ofIdentity i = w := by
  refine ⟨?_, ?_, fun _ => rfl, fun _ => rfl, fun _ h => toUser_ofUser_toUser h,
    fun _ _ h hi => toInbound_ofInbound_of_toInbound h hi, ?_, ?_⟩
  · exact fun u hregular hfree hdepth =>
      User.toUser_ofUser ⟨Json.exact_iff.2 ⟨hfree, hregular⟩, hdepth⟩
  · exact fun i hregular hfree hdepth =>
      Inbound.toInbound_ofInbound ⟨Json.exact_iff.2 ⟨hfree, hregular⟩, hdepth⟩
  · exact fun i => toIdentity_eq_ok_iff.trans (and_iff_right rfl)
  · exact fun w i h => (toIdentity_eq_ok_iff.1 h).1.symm

/-- An account with escapes, the greatest numbers and texts that look like values is kept, and so are settings
of which the text is in disorder, and an account of which the text is no value. -/
theorem conversions_lose_nothing_sample :
    let account : Json := .object
      [("id", .text "\"\\\n\x01é"),
        ("limits", .list [.int (-9223372036854775808), .int 18446744073709551615, .null]),
        ("note", .list [.text "", .text "null", .text "[1]"])]
    let user : Flotilla.User := ⟨"ann", "vmess", "in", account⟩
    let inbound : Flotilla.Inbound := ⟨"in", "vless", 443, .object [("a", .int 0), ("b", .list [])]⟩
    let unreadable : User := ⟨"ann", "vmess", "in", "[1,"⟩
    let unsorted : Inbound := ⟨"in", "vless", 443, "\x7b\"b\": [], \"a\": 0\x7d"⟩
    let peer : Flotilla.Identity := ⟨"ann", "localhost", 443, "home"⟩
    let accepted : Identity := ⟨"localhost", 443, "home", "ann"⟩
    (User.ofUser user).toUser = user ∧ (Inbound.ofInbound inbound).toInbound = .ok inbound ∧
      unreadable.toUser = ⟨"ann", "vmess", "in", .text "[1,"⟩ ∧
      (User.ofUser unreadable.toUser).toUser = unreadable.toUser ∧
      unsorted.toInbound = .ok inbound ∧ (Inbound.ofInbound inbound).toInbound = .ok inbound ∧
      (Identity.ofIdentity peer).toIdentity = .ok peer ∧ accepted.toIdentity = .ok peer ∧
      Identity.ofIdentity peer = accepted := by
  intro account user inbound unreadable unsorted peer accepted
  obtain ⟨husers, hinbounds, -, -, hunreadable, hunsorted, hpeers, haccepted⟩ := conversions_lose_nothing
  have haccount : account.FloatFree ∧ account.Regular := Json.exact_iff.1 <| by
    simp only [account, Json.Exact, Json.ExactFields, Json.ExactField, Json.ExactItems, Json.Ascending]
    decide
  have hsettings : inbound.settings.FloatFree ∧ inbound.settings.Regular := Json.exact_iff.1 <| by
    simp only [inbound, Json.Exact, Json.ExactFields, Json.ExactField, Json.ExactItems, Json.Ascending]
    decide
  have hnone : Json.parse? unreadable.accountText = none := by decide +kernel
  have hsome : Json.parse? unsorted.settingsText = some inbound.settings := by decide +kernel
  have harrived : unsorted.toInbound = .ok inbound := by decide +kernel
  have hpeer : accepted.toIdentity = .ok peer := by decide +kernel
  refine ⟨husers user haccount.2 haccount.1 (by decide), ?_, by decide +kernel, ?_, harrived, ?_, ?_,
    hpeer, haccepted accepted peer hpeer⟩
  · exact hinbounds inbound hsettings.2 hsettings.1 (by decide)
  · exact hunreadable unreadable fun v hv => by rw [hnone] at hv; cases hv
  · refine hunsorted unsorted inbound (fun v hv => ?_) harrived
    obtain rfl := Option.some.inj (hsome.symm.trans hv)
    exact hsettings.1
  · exact (hpeers peer).2 ⟨by decide, by decide⟩

end Flotilla.Wire
