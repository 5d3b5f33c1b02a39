/-
  File:      RetroBridge/Terminal/Exclusive.lean
  Subject:   ONE RUNNING BRIDGE PER PORT, and what takes a port away from a running bridge.

  * `PortExclusive`, `PortsLocked` -- no two registered bridges that run have one port, and each
    holds the lease of its port;
  * `Leased` -- the invariant behind it: each registered bridge has the lease of its port. The lease
    is UNIQUE by port, so exclusivity follows (`Leased.portExclusive`);
  * `SparesLiveLeases` -- the steps whose recovery finds no expired lease of a session that a
    bridge of this process drives;
  * `port_exclusive_run` -- **every run of such steps keeps the ports exclusive**;
  * `two_bridges_on_one_port` -- a recovery deletes the expired lease of a suspended session, and
    the next request gets the port.

  A suspended bridge is not heard of for up to `GRACE_PERIOD`, which is twice as long as a lease.
-/
import RetroBridge.Terminal.Operations

namespace RetroBridge.Terminal

open Relational Ordered Transition

/-! ## 1. The property -/

/-- **No two bridges on one port**, suspended ones included. -/
def PortExclusive (s : Server) : Prop :=
  ∀ p q b c, s.bridge? p = some b → s.bridge? q = some c → b.running = true → c.running = true →
    b.portId = c.portId → p = q

/-- **Locked ports**: every registered bridge holds the lease of its port. -/
def PortsLocked (s : Server) : Prop :=
  ∀ q b, s.bridge? q = some b → ∃ l ∈ s.leases, l.portId = b.portId ∧ l.sessionId = b.sessionId

/-- The recovery of the step, if it runs one, finds no expired lease of a session that a bridge
    drives. -/
def SparesLiveLeases (P : Process) (s : Server) (l : Label) : Prop :=
  ∀ r, recovers? P l.now (s.at l.now) l.op = some r →
    ∀ k ∈ r.leases, k.expired l.now = true → r.hasLocalBridge k.sessionId = false

/-- The operations of the terminal itself, and a recovery that spares live leases. -/
def Sparing (P : Process) (s : Server) (l : Label) : Prop :=
  l.op.deletes = false ∧ SparesLiveLeases P s l

/-! ## 2. The invariant -/

/-- **Every registered bridge holds the lease of its port**, in a tidy process with distinct
    sessions. -/
structure Leased (s : Server) : Prop where
  tidy : s.Tidy
  distinct : Distinct s
  lease : PortsLocked s

/-- Leases are unique by port, and bridges by session. -/
theorem Leased.portExclusive {s : Server} (h : Leased s) : PortExclusive s := by
  intro p q b c hb hc _ _ hport
  obtain ⟨l, hl, hlport, hlsession⟩ := h.lease p b hb
  obtain ⟨k, hk, hkport, hksession⟩ := h.lease q c hc
  have hsame : l = k := Table.eq_of_key hl hk (hlport.trans (hport.trans hkport.symm))
  have hid : b.sessionId = c.sessionId := by rw [← hlsession, hsame, hksession]
  exact h.distinct.unique p q b c hb hc hid

theorem leased_started {s : Server} (h : s.Started) (hrows : s.LeaseRows) : Leased s where
  tidy := ⟨fun _ _ hb => absurd hb h.no_bridge, hrows⟩
  distinct := ⟨fun _ _ _ _ hb => absurd hb h.no_bridge, fun _ _ hb => absurd hb h.no_bridge⟩
  lease _ _ hb := absurd hb h.no_bridge

/-! ## 3. Every move keeps the leases of live bridges -/

section Moves

variable {P : Process} {now : Time} {s₀ s s' : Server} {op : Op}

/-- A bridge's lease, where the recovery spares it, is not expired. -/
theorem Leased.unexpired (h : Leased s)
    (hspares : ∀ k ∈ s.leases, k.expired now = true → s.hasLocalBridge k.sessionId = false)
    {q : Place} {b : Bridge} (hb : s.bridge? q = some b) :
    ∃ l ∈ s.leases, l.expired now = false ∧ l.portId = b.portId ∧ l.sessionId = b.sessionId := by
  obtain ⟨l, hl, hport, hsession⟩ := h.lease q b hb
  refine ⟨l, hl, ?_, hport, hsession⟩
  by_contra hexp
  have hno := hspares l hl (by simpa using hexp)
  rw [hsession, Server.hasLocalBridge_of hb (h.tidy.running q b hb)] at hno
  cases hno

theorem Move.portsLocked (m : Move P now s₀ op s s') (hop : op.deletes = false)
    (hspares : ∀ r, recovers? P now s₀ op = some r →
      ∀ k ∈ r.leases, k.expired now = true → r.hasLocalBridge k.sessionId = false)
    (h : Leased s) : PortsLocked s' := by
  intro q b hq
  cases m with
  | pass hw hf =>
      obtain ⟨origin, hback, -⟩ := hw.origin
      obtain ⟨c, hc, hsame⟩ := hback q b hq
      obtain ⟨l, hl, hport, hsession⟩ := h.lease _ c hc
      obtain ⟨l', hl', hport', hsession'⟩ := hf.lease l hl
      exact ⟨l', hl', by rw [hport', hport, hsame.portId],
        by rw [hsession', hsession, hsame.sessionId]⟩
  | ends i reason hf hback hother hgone =>
      obtain ⟨l, hl, hport, hsession⟩ := h.lease q b (hback q b hq)
      obtain ⟨l', hl', hport', hsession'⟩ := hf.lease l hl
      have hne : b.sessionId ≠ i := h.distinct.other hback hgone hq
      exact ⟨l', Server.mem_leases_endSession.mpr ⟨hl', by rw [hsession', hsession]; exact hne⟩,
        hport'.trans hport, hsession'.trans hsession⟩
  | recover hrec =>
      obtain ⟨l, hl, hfresh, hkeys⟩ := h.unexpired (hspares _ hrec) hq
      exact ⟨l, Server.mem_leases_recover.mpr ⟨hl, hfresh⟩, hkeys⟩
  | lease _ hrec =>
      obtain ⟨l, hl, hfresh, hkeys⟩ := h.unexpired (hspares _ hrec) hq
      exact ⟨l, Table.mem_insert_of_mem (Server.mem_leases_recover.mpr ⟨hl, hfresh⟩), hkeys⟩
  | stranded hloop hfree =>
      obtain ⟨l, hl, hfresh, hkeys⟩ := h.unexpired (hspares _ (recovers_of_portLoop hloop)) hq
      exact ⟨l, (mem_leases_entered hfree).mpr (.inl ⟨hl, hfresh⟩), hkeys⟩
  | refused hloop hfree =>
      obtain ⟨l, hl, hfresh, hport, hsession⟩ :=
        h.unexpired (hspares _ (recovers_of_portLoop hloop)) hq
      have hne : l.sessionId ≠ s.sessions.nextKey := by
        rw [hsession]
        exact h.distinct.fresh hq
      exact ⟨l, Server.mem_leases_endSession.mpr
        ⟨(mem_leases_entered hfree).mpr (.inl ⟨hl, hfresh⟩), hne⟩, hport, hsession⟩
  | started hloop hfree =>
      rw [bridge?_opened] at hq
      split at hq
      · cases hq
        exact ⟨_, (mem_leases_entered hfree).mpr (.inr rfl), rfl, rfl⟩
      · obtain ⟨l, hl, hfresh, hkeys⟩ := h.unexpired (hspares _ (recovers_of_portLoop hloop)) hq
        exact ⟨l, (mem_leases_entered hfree).mpr (.inl ⟨hl, hfresh⟩), hkeys⟩
  | delete hdel => exact absurd (hdel.symm.trans hop) (by decide)

theorem Move.leased (m : Move P now s₀ op s s') (hop : op.deletes = false)
    (hspares : ∀ r, recovers? P now s₀ op = some r →
      ∀ k ∈ r.leases, k.expired now = true → r.hasLocalBridge k.sessionId = false)
    (h : Leased s) : Leased s' :=
  ⟨m.tidy h.tidy, m.distinct hop h.distinct, m.portsLocked hop hspares h⟩

end Moves

/-- **One step** whose recovery spares live leases. -/
theorem leased_step {P : Process} {s s' : Server} {l : Label} (h : Leased s)
    (hsparing : Sparing P s l) (hs : Step P s l s') : Leased s' := by
  have hat : Leased (s.at l.now) := ⟨tidy_at h.tidy l.now, h.distinct.at l.now, h.lease⟩
  exact (hs.moves h.tidy).invariant hat fun h m => m.leased hsparing.1 hsparing.2 h

/-! ## 4. Runs -/

/-- **PORT EXCLUSIVITY**, in every run whose recoveries spare the leases of live bridges. -/
theorem port_exclusive_run {P : Process} {s₀ s : Server} {ls : List Label} (h0 : s₀.Started)
    (hrows : s₀.LeaseRows) (h : Run (guarded (Step P) (Sparing P)) s₀ ls s) :
    PortExclusive s ∧ PortsLocked s := by
  have hL : Leased s := h.invariant (leased_started h0 hrows) fun _ _ _ hI hs =>
    leased_step hI hs.1 hs.2
  exact ⟨hL.portExclusive, hL.lease⟩

/-- `Sparing`, decided. -/
def sparing (P : Process) (s : Server) (l : Label) : Bool :=
  !l.op.deletes && (recovers? P l.now (s.at l.now) l.op).all fun r =>
    r.leases.rows.all fun k => !k.expired l.now || !r.hasLocalBridge k.sessionId

theorem sparing_of {P : Process} (s : Server) (l : Label) (h : sparing P s l = true) :
    Sparing P s l := by
  obtain ⟨hop, hrec⟩ := Bool.and_eq_true_iff.mp h
  refine ⟨by simpa using hop, fun r hr k hk hexp => ?_⟩
  rw [hr] at hrec
  have hk' := List.all_eq_true.mp hrec k hk
  simpa [hexp] using hk'

/-- A bridge at a place, running on a port. -/
def runsOn (s : Server) (q : Place) (portId : Nat) : Bool :=
  (s.bridge? q).any fun b => b.running && b.portId == portId

/-- User 1 leaves and keeps the port of device 1; user 2 gets the port of device 2. -/
theorem port_exclusive_run_small : ∃ ls s, Run (Step desk) deskStart ls s ∧
    runsOn s (.suspended 1) 1 = true ∧ runsOn s (.active "bob") 2 = true ∧
      PortExclusive s ∧ PortsLocked s := by
  have h : (play (fire desk (sparing desk)) deskStart
      [(0, requestOk "alice" 1), (seconds 1, .disconnect "alice"), (seconds 100, requestOk "bob" 1),
        (seconds 101, requestOk "bob" 2)]).any
      (fun r => runsOn r.2 (.suspended 1) 1 && runsOn r.2 (.active "bob") 2) = true := by decide
  obtain ⟨ls, s, hr, hp⟩ := exists_run_of_play (guarded_of_fire sparing_of) h
  obtain ⟨ha, hb⟩ := Bool.and_eq_true_iff.mp hp
  exact ⟨ls, s, hr.of_guarded, ha, hb,
    port_exclusive_run deskStart_started deskStart_leaseRows hr⟩

/-- User 1 leaves; 301 s later, in the grace period, user 2 asks for the device. -/
def lateRequest : List (Time × Op) :=
  [(0, requestOk "alice" 1), (seconds 1, .disconnect "alice"), (seconds 302, requestOk "bob" 1)]

theorem not_portExclusive_of {s : Server} {p q : Place} {portId : Nat} (hpq : p ≠ q)
    (hp : runsOn s p portId = true) (hq : runsOn s q portId = true) : ¬ PortExclusive s := by
  intro h
  obtain ⟨b, hb, hbr⟩ := (Option.any_eq_true _ _).mp hp
  obtain ⟨c, hc, hcr⟩ := (Option.any_eq_true _ _).mp hq
  simp only [Bool.and_eq_true, beq_iff_eq] at hbr hcr
  exact hpq (h p q b c hb hc hbr.1 hcr.1 (hbr.2.trans hcr.2.symm))

/-- **Two running bridges on one port**: the recovery of the second request deletes the lease that
    the suspended session cannot renew. -/
theorem two_bridges_on_one_port : ∃ ls s,
    Run (guarded (Step desk) fun _ l => l.op.deletes = false) deskStart ls s ∧
      ¬ PortExclusive s := by
  have h : (play (fire desk fun _ l => !l.op.deletes) deskStart lateRequest).any
      (fun r => runsOn r.2 (.suspended 1) 1 && runsOn r.2 (.active "bob") 1) = true := by decide
  obtain ⟨ls, s, hr, hp⟩ :=
    exists_run_of_play (guarded_of_fire fun _ _ hok => by simpa using hok) h
  obtain ⟨ha, hb⟩ := Bool.and_eq_true_iff.mp hp
  exact ⟨ls, s, hr, not_portExclusive_of (by decide) ha hb⟩

end RetroBridge.Terminal
