import Flotilla.Proofs.Cluster.Records

/-!
# What comes of a registration

There are four reasons to turn a registration down, and the first one that applies is the answer.  Two of
them leave everything alone; the other two say whether the name is put into quarantine or taken out of it.
A registration that is not turned down changes the record under its name, takes the name out of quarantine,
and leaves all other names alone.
-/

namespace Flotilla

/-- What a registration leaves in quarantine under the name that it claims, if `known` was there before. -/
def quarantinedAfter (claimed : Identity) (now : Instant) (known : Option Node) :
    Except RegisterError Registration → Option Node
  | .ok _ | .error (.nameCollision _) => none
  | .error (.wrongCluster _) => some (.new claimed now)
  | .error (.invalidAddress ..) | .error (.sameNameAsServer _) => known

namespace Cluster

variable {c : Cluster} {claimed : Identity} {token server fresh : String} {now : Instant}

/-- The first reason against a registration, if there is one. -/
def refusal? (c : Cluster) (claimed : Identity) (token server : String) : Option RegisterError :=
  if claimed.host = "" ∨ claimed.port = 0 then
    some (.invalidAddress claimed.host claimed.port.toUInt32)
  else if claimed.name = server then some (.sameNameAsServer claimed.name)
  else if claimed.cluster ≠ c.name ∨ token ≠ c.token then some (.wrongCluster claimed.cluster)
  else if ∃ node ∈ c.nodes.get? claimed.name, node.identity ≠ claimed then
    some (.nameCollision claimed.name)
  else none

/-! ### Screening -/

/-- The address is checked before everything else, and nothing is touched if it is missing. -/
lemma screen_of_address (haddress : claimed.host = "" ∨ claimed.port = 0) :
    c.screen claimed token server now =
      (c, .error (.invalidAddress claimed.host claimed.port.toUInt32)) := by
  rw [screen, if_pos haddress]

/-- A node with the name of the server is refused before its credentials are looked at. -/
lemma screen_of_server (haddress : ¬ (claimed.host = "" ∨ claimed.port = 0))
    (hserver : claimed.name = server) :
    c.screen claimed token server now = (c, .error (.sameNameAsServer claimed.name)) := by
  rw [screen, if_neg haddress, if_pos hserver]

/-- A node with the wrong credentials is put into quarantine. -/
lemma screen_of_stranger (haddress : ¬ (claimed.host = "" ∨ claimed.port = 0))
    (hserver : claimed.name ≠ server) (hcluster : claimed.cluster ≠ c.name ∨ token ≠ c.token) :
    c.screen claimed token server now =
      (c.isolate claimed now, .error (.wrongCluster claimed.cluster)) := by
  rw [screen, if_neg haddress, if_neg hserver, belongs, if_pos hcluster]

/-- Only the name of the node leaves the quarantine if all checks are passed. -/
lemma screen_of_member (haddress : ¬ (claimed.host = "" ∨ claimed.port = 0))
    (hserver : claimed.name ≠ server) (hcluster : ¬ (claimed.cluster ≠ c.name ∨ token ≠ c.token)) :
    c.screen claimed token server now = (c.release claimed.name, .ok ()) := by
  rw [screen, if_neg haddress, if_neg hserver, belongs, if_neg hcluster]

/-! ### Outcomes -/

/-- All that may come of a registration. -/
inductive Registers (c : Cluster) (claimed : Identity) (token server fresh : String) (now : Instant) :
    Cluster × Except RegisterError Registration → Prop where
  | unreachable (hrefusal : c.refusal? claimed token server =
        some (.invalidAddress claimed.host claimed.port.toUInt32)) :
      Registers c claimed token server fresh now
        (c, .error (.invalidAddress claimed.host claimed.port.toUInt32))
  | namesake (hrefusal : c.refusal? claimed token server = some (.sameNameAsServer claimed.name)) :
      Registers c claimed token server fresh now (c, .error (.sameNameAsServer claimed.name))
  | stranger (hrefusal : c.refusal? claimed token server = some (.wrongCluster claimed.cluster)) :
      Registers c claimed token server fresh now
        (c.isolate claimed now, .error (.wrongCluster claimed.cluster))
  | rival {node : Node} (hrefusal : c.refusal? claimed token server = some (.nameCollision claimed.name))
      (hget : c.nodes.get? claimed.name = some node) :
      Registers c claimed token server fresh now
        ({ c.release claimed.name with nodes := c.nodes.insert claimed.name node },
          .error (.nameCollision claimed.name))
  | known {node : Node} {r : Registration} (hrefusal : c.refusal? claimed token server = none)
      (hget : c.nodes.get? claimed.name = some node) (hid : node.identity = claimed)
      (hr : r = if node.registeredLocalAt now then ⟨node.inToken, true⟩ else ⟨fresh, false⟩) :
      Registers c claimed token server fresh now
        ({ c.release claimed.name with
            nodes := c.nodes.insert claimed.name (heard now { node with inToken := r.token }) }, .ok r)
  | new (hrefusal : c.refusal? claimed token server = none) (hget : c.nodes.get? claimed.name = none) :
      Registers c claimed token server fresh now
        ({ c.release claimed.name with
            nodes := c.nodes.insert claimed.name (.registered claimed fresh now) }, .ok ⟨fresh, false⟩)

/-- What a node that belongs to the cluster is answered depends on the record under its name. -/
lemma register_of_member (haddress : ¬ (claimed.host = "" ∨ claimed.port = 0))
    (hserver : claimed.name ≠ server) (hcluster : ¬ (claimed.cluster ≠ c.name ∨ token ≠ c.token)) :
    c.Registers claimed token server fresh now (c.register claimed token server fresh now) := by
  have hscreen : c.screen claimed token server now = _ := screen_of_member haddress hserver hcluster
  have hok : (c.screen claimed token server now).2 = .ok () := by rw [hscreen]
  cases hget : c.nodes.get? claimed.name with
  | none =>
    rw [register_of_none hok hget, hscreen]
    refine .new ?_ hget
    simp [refusal?, haddress, hserver, hcluster, hget]
  | some node =>
    rw [register_of_known hok hget, hscreen]
    by_cases hid : node.identity = claimed
    · have hrefusal : c.refusal? claimed token server = none := by
        simp [refusal?, haddress, hserver, hcluster, hget, hid]
      cases hlive : node.registeredLocalAt now with
      | true =>
        rw [reregister_of_live hid hlive]
        exact .known (r := ⟨node.inToken, true⟩) hrefusal hget hid (by rw [if_pos hlive])
      | false =>
        rw [reregister_of_stale hid hlive]
        exact .known (r := ⟨fresh, false⟩) hrefusal hget hid (by simp [hlive])
    · rw [reregister_of_ne hid]
      refine .rival ?_ hget
      simp [refusal?, haddress, hserver, hcluster, hget, hid]

/-- A registration comes to one of the ends that `Registers` lists. -/
theorem registers_register (c : Cluster) (claimed : Identity) (token server fresh : String)
    (now : Instant) :
    c.Registers claimed token server fresh now (c.register claimed token server fresh now) := by
  by_cases haddress : claimed.host = "" ∨ claimed.port = 0
  · have hscreen : c.screen claimed token server now = _ := screen_of_address haddress
    rw [register_of_screen_error (by rw [hscreen]), hscreen]
    exact .unreachable (by rw [refusal?, if_pos haddress])
  by_cases hserver : claimed.name = server
  · have hscreen : c.screen claimed token server now = _ := screen_of_server haddress hserver
    rw [register_of_screen_error (by rw [hscreen]), hscreen]
    exact .namesake (by rw [refusal?, if_neg haddress, if_pos hserver])
  by_cases hcluster : claimed.cluster ≠ c.name ∨ token ≠ c.token
  · have hscreen : c.screen claimed token server now = _ := screen_of_stranger haddress hserver hcluster
    rw [register_of_screen_error (by rw [hscreen]), hscreen]
    exact .stranger (by rw [refusal?, if_neg haddress, if_neg hserver, if_pos hcluster])
  exact register_of_member haddress hserver hcluster

/-- What a registration leaves in quarantine under a name. -/
lemma get?_quarantine_register (c : Cluster) (claimed : Identity) (token server fresh : String)
    (now : Instant) (name : String) :
    (c.register claimed token server fresh now).1.quarantine.get? name =
      if claimed.name = name then
        quarantinedAfter claimed now (c.quarantine.get? name) (c.register claimed token server fresh now).2
      else c.quarantine.get? name := by
  have hregisters := c.registers_register claimed token server fresh now
  generalize c.register claimed token server fresh now = x at hregisters
  cases hregisters with
  | unreachable | namesake => exact (ite_self _).symm
  | stranger => exact Roster.get?_insert ..
  | rival | known | new => exact Roster.get?_erase ..

/-- What a registration comes to, in either case with both tables.  If it is turned down, the answer is the
first reason against it; the records stay, and in quarantine only the claimed name may change.  If it is not,
the record under the name is about the node, with the token that is answered and a signal from now; a live
token is answered again, and a known record keeps all else, while a new one has nothing else; the name is not
in quarantine; and the records and the quarantine of all other names stay. -/
theorem register_eq_refusal_or_admission (c : Cluster) (claimed : Identity) (token server fresh : String)
    (now : Instant) :
    let result := (c.register claimed token server fresh now).2
    let after := (c.register claimed token server fresh now).1
    match c.refusal? claimed token server with
    | some e =>
      result = .error e ∧ (∀ key, after.nodes.get? key = c.nodes.get? key) ∧
        (∀ key, after.quarantine.get? key =
          if claimed.name = key then quarantinedAfter claimed now (c.quarantine.get? key) (.error e)
          else c.quarantine.get? key) ∧
        (e.code = .invalidAddress ∨ e.code = .sameNameAsServer → after = c)
    | none =>
      ∃ r node, result = .ok r ∧ after.nodes.get? claimed.name = some node ∧
        after.quarantine.get? claimed.name = none ∧
        (∀ key, claimed.name ≠ key →
          after.nodes.get? key = c.nodes.get? key ∧ after.quarantine.get? key = c.quarantine.get? key) ∧
        node.identity = claimed ∧ node.inToken = r.token ∧ node.heardAt = some now ∧
        match c.nodes.get? claimed.name with
        | some old =>
          r = (if old.registeredLocalAt now then ⟨old.inToken, true⟩ else ⟨fresh, false⟩) ∧
            node = { old with inToken := r.token, heardAt := some now }
        | none =>
          r = ⟨fresh, false⟩ ∧ node.isLocal = false ∧ node.outToken = "" ∧ node.reportedAt = none ∧
            node.createdAt = now := by
  intro result after
  have hregisters := c.registers_register claimed token server fresh now
  have hresult : (c.register claimed token server fresh now).2 = result := rfl
  have hafter : (c.register claimed token server fresh now).1 = after := rfl
  clear_value result after
  generalize c.register claimed token server fresh now = x at hregisters hresult hafter
  cases hregisters with
  | unreachable hrefusal =>
    subst hresult hafter
    rw [hrefusal]
    exact ⟨rfl, fun _ => rfl, fun _ => (ite_self _).symm, fun _ => rfl⟩
  | namesake hrefusal =>
    subst hresult hafter
    rw [hrefusal]
    exact ⟨rfl, fun _ => rfl, fun _ => (ite_self _).symm, fun _ => rfl⟩
  | stranger hrefusal =>
    subst hresult hafter
    rw [hrefusal]
    exact ⟨rfl, fun _ => rfl, fun key => Roster.get?_insert .., by simp [RegisterError.code]⟩
  | rival hrefusal hget =>
    subst hresult hafter
    rw [hrefusal]
    refine ⟨rfl, fun key => ?_, fun key => Roster.get?_erase .., by simp [RegisterError.code]⟩
    rw [Roster.get?_insert]
    split_ifs with hkey
    · rw [← hkey, hget]
    · rfl
  | @known node r hrefusal hget hid hr =>
    subst hresult hafter
    rw [hrefusal, hget]
    refine ⟨r, heard now { node with inToken := r.token }, rfl, by simp, by simp [release], ?_, hid, rfl,
      rfl, hr, rfl⟩
    intro key hkey
    exact ⟨by simp [hkey], by simp [release, hkey]⟩
  | new hrefusal hget =>
    subst hresult hafter
    rw [hrefusal, hget]
    refine ⟨⟨fresh, false⟩, .registered claimed fresh now, rfl, by simp, by simp [release], ?_, rfl, rfl,
      rfl, rfl, rfl, rfl, rfl, rfl⟩
    intro key hkey
    exact ⟨by simp [hkey], by simp [release, hkey]⟩

end Cluster

end Flotilla
