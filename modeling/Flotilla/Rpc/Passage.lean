import Flotilla.Endpoint.Percent
import Flotilla.Rpc.Exchange
import Flotilla.Text.Fault

/-!
# Answers over channels

A channel carries the message of a status among its headers, where a percent sign with two hexadecimal
digits stands for a byte.  Whoever sends a status does not spell out percent signs, so what looks like such
a byte in a message arrives as one.
-/

namespace Flotilla.Rpc

/-- What arrives of a status that was sent over a channel.  A message whose bytes write no text is lost,
and a status that reports no failure lacks the reply. -/
def Status.arrived (s : Status) : Status :=
  let bytes := Endpoint.percentDecode (Bytes.ofText s.message)
  match Bytes.toText? bytes, Text.fault? bytes with
  | some message, _ =>
    if s.code = .ok then ⟨.internal, "Missing response message."⟩ else ⟨s.code, message⟩
  | none, fault =>
    ⟨.unknown, "Error deserializing status message header: " ++
      (fault.map Text.Fault.message).getD ""⟩

/-- What arrives of an answer that was sent over a channel. -/
def arrived (a : Answer) : Answer := a.mapError Status.arrived

theorem arrived_ok (e : Envelope) : arrived (.ok e) = .ok e := rfl

end Flotilla.Rpc
