import Mathlib.Tactic.Common
import Flotilla.Rpc.Exchange
import Flotilla.Proofs.Seal.Opening
import Flotilla.Proofs.Wire.RoundTrip

/-!
# Sealed messages open as they were closed

Every request and every reply is a message of the layout of its method, from whose fields it is read
again.  So whoever holds the token that it was sealed with gets what was sealed.
-/

namespace Flotilla

open Wire (AuthInfo Datum Kind MessageType list? listDatum optional? optionalDatum textItem? texts?)
open Wire.Datum (AllOfKind OfKind OfLayout)

/-! ### Envelopes -/

namespace Envelope

variable {kind : KeyKind} {token cluster sender : String} {t : MessageType} {ds : List Datum}

/-- The payload is no longer than a byte string in memory can be. -/
def Portable (e : Envelope) : Prop := e.payload.length < Word.size64

instance (e : Envelope) : Decidable e.Portable := inferInstanceAs (Decidable (_ < _))

/-- An envelope is portable just if its padded message and the tag are not too long together. -/
lemma portable_close_iff :
    (close kind token cluster sender t ds).Portable ↔
      16 * ((Datum.encode t ds).length / 16 + 1) + 32 < Word.size64 := by
  rw [Portable, close, Seal.length_close]

/-- A sealed message opens as soon as its bytes are read back. -/
lemma open?_close_of_decode? (h : Datum.decode? t (Datum.encode t ds) = some ds) :
    (close kind token cluster sender t ds).open? token t = .ok ds := by
  simp only [open?, close, Seal.reopen_close, h]

/-- An envelope opens to the message that was closed. -/
lemma open?_close (hlayout : OfLayout t.layout ds)
    (h : (close kind token cluster sender t ds).Portable) :
    (close kind token cluster sender t ds).open? token t = .ok ds := by
  apply open?_close_of_decode?
  apply Datum.decode?_encode hlayout
  have hclosed := portable_close_iff.1 h
  omega

/-- Whatever a message holds, it is read from its encoding as it was written, and it opens as it was
sealed.  The header is what it was given, and the kind of the key shows there only: what is sealed with
either kind is the same, so whoever holds the token opens it.  The encoding is a byte string in memory. -/
theorem opens_as_sealed (t : MessageType) (ds : List Datum) (hlayout : OfLayout t.layout ds)
    (hsize : (Datum.encode t ds).length < Word.size64) :
    Datum.decode? t (Datum.encode t ds) = some ds ∧
      ∀ (kind : KeyKind) (token cluster sender : String),
        let e := close kind token cluster sender t ds
        e.open? token t = .ok ds ∧ e.cluster = cluster ∧ e.sender = sender ∧
          e.keyKind = kind.number ∧
          ∀ kind' : KeyKind,
            close kind' token cluster sender t ds = { e with keyKind := kind'.number } := by
  have hdecode : Datum.decode? t (Datum.encode t ds) = some ds := Datum.decode?_encode hlayout hsize
  refine ⟨hdecode, fun kind token cluster sender => ?_⟩
  exact ⟨open?_close_of_decode? hdecode, rfl, rfl, rfl, fun kind' => rfl⟩

/-- A reply with a negative code, which takes ten bytes, and two peers, one of them blank. -/
theorem opens_as_sealed_negative_code :
    let t : MessageType := .heartbeatResponse
    let ds : List Datum :=
      [.int32 (-7), .text "é",
        .repeated [.message .nodeIdentity [.text "", .uint32 0, .text "", .text ""],
          .message .nodeIdentity [.text "10.0.0.2", .uint32 4294967295, .text "prod", .text "b"]]]
    OfLayout t.layout ds ∧ (Datum.encode t ds).length < Word.size64 ∧
      (close .node "" "prod" "a" t ds).open? "" t = .ok ds := by
  intro t ds
  have hblank : OfLayout MessageType.nodeIdentity.layout [.text "", .uint32 0, .text "", .text ""] :=
    ⟨trivial, trivial, trivial, trivial, trivial⟩
  have hfull : OfLayout MessageType.nodeIdentity.layout
      [.text "10.0.0.2", .uint32 4294967295, .text "prod", .text "b"] :=
    ⟨trivial, trivial, trivial, trivial, trivial⟩
  have hlayout : OfLayout t.layout ds :=
    ⟨trivial, trivial, ⟨⟨rfl, hblank⟩, ⟨rfl, hfull⟩, trivial⟩, trivial⟩
  have hsize : (Datum.encode t ds).length < Word.size64 := by decide +kernel
  obtain ⟨-, hopens⟩ := opens_as_sealed t ds hlayout hsize
  exact ⟨hlayout, hsize, (hopens .node "" "prod" "a").1⟩

end Envelope

namespace Wire

/-! ### Fields that hold messages -/

section Parts

variable {α : Type} {t : MessageType} {data : α → List Datum} {ofData? : List Datum → Option α}

/-- A message that may be absent is read back. -/
lemma optional?_optionalDatum (h : ∀ a, ofData? (data a) = some a) (a : Option α) :
    optional? ofData? (optionalDatum t data a) = some a := by
  cases a with
  | none => rfl
  | some a => simp [optionalDatum, optional?, h a]

lemma mapM_map_eq_some {β : Type} {f : Datum → Option β} {g : β → Datum} (h : ∀ b, f (g b) = some b)
    (bs : List β) : (bs.map g).mapM f = some bs := by
  induction bs with
  | nil => rfl
  | cons b bs ih => simp [List.mapM_cons, h b, ih]

lemma list?_listDatum (h : ∀ a, ofData? (data a) = some a) (as : List α) :
    list? ofData? (listDatum t data as) = some as :=
  mapM_map_eq_some h as

lemma texts?_repeated (ss : List String) : texts? (.repeated (ss.map .text)) = some ss := by
  have htext : ∀ s, textItem? (.text s) = some s := fun _ => rfl
  exact mapM_map_eq_some htext ss

lemma allOfKind_map {β : Type} {k : Kind} {g : β → Datum} (h : ∀ b, OfKind k (g b)) (bs : List β) :
    AllOfKind k (bs.map g) := by
  induction bs with
  | nil => trivial
  | cons b bs ih => exact ⟨h b, ih⟩

lemma ofField_sub {name : String} {number : ℕ} (h : ∀ a, OfLayout t.layout (data a))
    (a : Option α) : Datum.OfField (MessageType.sub name number t) (optionalDatum t data a) := by
  cases a with
  | none => trivial
  | some a => exact ⟨rfl, h a⟩

lemma ofField_many {name : String} {number : ℕ} (h : ∀ a, OfLayout t.layout (data a))
    (as : List α) : Datum.OfField (MessageType.many name number t) (listDatum t data as) := by
  have hitem : ∀ a, OfKind (.message t) (.message t (data a)) := fun a => ⟨rfl, h a⟩
  exact allOfKind_map hitem as

lemma ofField_texts {name : String} {number : ℕ} (ss : List String) :
    Datum.OfField ⟨name, number, .scalar .text, true⟩ (.repeated (ss.map .text)) := by
  have htext : ∀ s, OfKind (.scalar .text) (.text s) := fun _ => trivial
  exact allOfKind_map htext ss

end Parts

/-! ### Parts of messages -/

lemma Identity.ofData?_toData (i : Identity) : ofData? i.toData = some i := rfl

lemma Identity.ofLayout_toData (i : Identity) : OfLayout MessageType.nodeIdentity.layout i.toData :=
  ⟨trivial, trivial, trivial, trivial, trivial⟩

lemma AuthInfo.ofData?_toData (a : AuthInfo) : ofData? a.toData = some a := by
  simp [toData, ofData?, optional?_optionalDatum Identity.ofData?_toData]

lemma AuthInfo.ofLayout_toData (a : AuthInfo) : OfLayout MessageType.nodeAuthInfo.layout a.toData :=
  ⟨trivial, ofField_sub Identity.ofLayout_toData a.node, trivial⟩

lemma User.ofData?_toData (u : User) : ofData? u.toData = some u := rfl

lemma User.ofLayout_toData (u : User) : OfLayout MessageType.user.layout u.toData :=
  ⟨trivial, trivial, trivial, trivial, trivial⟩

lemma Inbound.ofData?_toData (i : Inbound) : ofData? i.toData = some i := rfl

lemma Inbound.ofLayout_toData (i : Inbound) : OfLayout MessageType.inbound.layout i.toData :=
  ⟨trivial, trivial, trivial, trivial, trivial⟩

end Wire

lemma Stat.ofData?_toData (s : Stat) : ofData? s.toData = some s := rfl

lemma Stat.ofLayout_toData (s : Stat) : OfLayout MessageType.stat.layout s.toData :=
  ⟨trivial, trivial, trivial⟩

lemma Cert.ofData?_toData (c : Cert) : ofData? c.toData = some c := rfl

lemma Cert.ofLayout_toData (c : Cert) : OfLayout MessageType.cert.layout c.toData :=
  ⟨trivial, trivial, trivial, trivial⟩

/-! ### Requests -/

/-- The arguments of an operation are read back. -/
lemma Wire.Task.ofData?_toData (t : Wire.Task) : ofData? t.operation t.toData = some t := by
  cases t with
  | addUsers users =>
    simp [operation, toData, ofData?, list?_listDatum User.ofData?_toData]
  | deleteUsers tag emails =>
    simp [operation, toData, ofData?, texts?_repeated]
  | addInbound inbound =>
    simp [operation, toData, ofData?, optional?_optionalDatum Inbound.ofData?_toData]
  | getUsers | deleteInbound | getStats | obtainCert | getCerts => rfl

namespace Rpc

namespace Request

variable {kind : KeyKind} {token cluster sender : String}

/-- A request is read back by the method that it was sent to. -/
lemma ofData?_toData (r : Request) : ofData? r.call.method r.toData = some r := by
  obtain ⟨auth, call⟩ := r
  have hauth : optional? AuthInfo.ofData? (optionalDatum .nodeAuthInfo AuthInfo.toData auth) = some auth :=
    Wire.optional?_optionalDatum AuthInfo.ofData?_toData auth
  cases call with
  | register => simp [toData, ofData?, hauth, callOfData?, Call.method]
  | heartbeat => simp [toData, ofData?, hauth, callOfData?, Call.method]
  | operate t => simp [toData, ofData?, hauth, callOfData?, Call.method, t.ofData?_toData]

/-- A request has the fields of its message. -/
lemma ofLayout_toData (r : Request) : OfLayout r.call.method.requestType.layout r.toData := by
  obtain ⟨auth, call⟩ := r
  have hauth : Datum.OfField MessageType.auth (optionalDatum .nodeAuthInfo AuthInfo.toData auth) :=
    Wire.ofField_sub AuthInfo.ofLayout_toData auth
  cases call with
  | register | heartbeat => exact ⟨hauth, trivial⟩
  | operate t =>
    cases t with
    | addUsers users => exact ⟨hauth, Wire.ofField_many Wire.User.ofLayout_toData users, trivial⟩
    | deleteUsers tag emails =>
      exact ⟨hauth, trivial, Wire.ofField_texts emails, trivial⟩
    | addInbound inbound =>
      exact ⟨hauth, Wire.ofField_sub Wire.Inbound.ofLayout_toData inbound, trivial⟩
    | getUsers | deleteInbound | obtainCert | getCerts => exact ⟨hauth, trivial, trivial⟩
    | getStats => exact ⟨hauth, trivial, trivial, trivial⟩

/-- A request opens as it was closed. -/
lemma open?_close {r : Request} (h : (r.close kind token cluster sender).Portable) :
    Request.open? token r.call.method (r.close kind token cluster sender) = .ok r := by
  rw [Request.close] at h
  rw [Request.close, Request.open?, Envelope.open?_close r.ofLayout_toData h]
  simp only [bind, Except.bind, r.ofData?_toData]

end Request

/-! ### Replies -/

/-- The data are of the kind that a method answers with. -/
def Body.Answers : Method → Body → Prop
  | .register, .token _ => True
  | .heartbeat, .peers _ => True
  | .operate .getUsers, .users _ => True
  | .operate .getStats, .stats _ => True
  | .operate .getCerts, .certs _ => True
  | .operate .addUsers, .nothing | .operate .deleteUsers, .nothing | .operate .addInbound, .nothing
  | .operate .deleteInbound, .nothing | .operate .obtainCert, .nothing => True
  | _, _ => False

/-- The empty data answer every method. -/
lemma Body.answers_blank (m : Method) : (blank m).Answers m := by
  match m with
  | .register | .heartbeat => trivial
  | .operate o => cases o <;> trivial

namespace Reply

variable {kind : KeyKind} {token cluster sender : String} {m : Method} {r : Reply}

/-- A reply is read back by the method that it answers. -/
lemma ofData?_toData (h : r.body.Answers m) : ofData? m r.toData = some r := by
  obtain ⟨code, msg, body⟩ := r
  suffices hbody : Body.ofData? m body.toData = some body by
    simp [toData, ofData?, hbody]
  match m, body, h with
  | .register, .token s, _ => rfl
  | .heartbeat, .peers ps, _ =>
    simp [Body.toData, Body.ofData?, Wire.list?_listDatum Wire.Identity.ofData?_toData]
  | .operate .getUsers, .users us, _ =>
    simp [Body.toData, Body.ofData?, Wire.list?_listDatum Wire.User.ofData?_toData]
  | .operate .getStats, .stats ss, _ =>
    simp [Body.toData, Body.ofData?, Wire.list?_listDatum Stat.ofData?_toData]
  | .operate .getCerts, .certs cs, _ =>
    simp [Body.toData, Body.ofData?, Wire.list?_listDatum Cert.ofData?_toData]
  | .operate .addUsers, .nothing, _ | .operate .deleteUsers, .nothing, _
  | .operate .addInbound, .nothing, _ | .operate .deleteInbound, .nothing, _
  | .operate .obtainCert, .nothing, _ => rfl

/-- A reply has the fields of its message. -/
lemma ofLayout_toData (h : r.body.Answers m) : OfLayout m.replyType.layout r.toData := by
  obtain ⟨code, msg, body⟩ := r
  match m, body, h with
  | .register, .token s, _ => exact ⟨trivial, trivial, trivial, trivial⟩
  | .heartbeat, .peers ps, _ =>
    exact ⟨trivial, trivial, Wire.ofField_many Wire.Identity.ofLayout_toData ps, trivial⟩
  | .operate .getUsers, .users us, _ =>
    exact ⟨trivial, trivial, Wire.ofField_many Wire.User.ofLayout_toData us, trivial⟩
  | .operate .getStats, .stats ss, _ =>
    exact ⟨trivial, trivial, Wire.ofField_many Stat.ofLayout_toData ss, trivial⟩
  | .operate .getCerts, .certs cs, _ =>
    exact ⟨trivial, trivial, Wire.ofField_many Cert.ofLayout_toData cs, trivial⟩
  | .operate .addUsers, .nothing, _ | .operate .deleteUsers, .nothing, _
  | .operate .addInbound, .nothing, _ | .operate .deleteInbound, .nothing, _
  | .operate .obtainCert, .nothing, _ => exact ⟨trivial, trivial, trivial⟩

/-- A reply opens as it was closed. -/
lemma open?_close (hbody : r.body.Answers m) (h : (r.close kind token cluster sender m).Portable) :
    Reply.open? token m (r.close kind token cluster sender m) = .ok r := by
  rw [Reply.close] at h
  rw [Reply.close, Reply.open?, Envelope.open?_close (ofLayout_toData hbody) h]
  simp only [bind, Except.bind, ofData?_toData hbody]

end Reply

end Rpc

end Flotilla
