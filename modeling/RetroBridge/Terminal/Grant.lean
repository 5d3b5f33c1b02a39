/-
  File:      RetroBridge/Terminal/Grant.lean
  Subject:   A SESSION REQUEST IS GRANTED OR UNDONE, and the one that is neither
             (retrobridge/terminal/events.py: `handle_request_session`;
             retrobridge/terminal/utils.py: `start_bridge`; retrobridge/transport.py:
             `open_transport`).

  * `SessionGranted`, `Undone` -- the two ends that leave nothing half done;
  * `Kept` -- what a request that resumes nothing does before it opens a session;
  * `tryPorts_wins` -- the port loop gets a lease where a port is free;
  * `OpensTransport` -- the request comes to open the transport of a port;
  * `granted_or_undone_iff` -- **a request that resumes nothing is granted or undone exactly when it
    does not meet an exception of the transport that is no `SerialException`**;
  * `stranded_session` -- one that does: its session stays active, with its lease.
-/
import RetroBridge.Terminal.Course

namespace RetroBridge.Terminal

open Relational Transition

/-! ## 1. The two ends -/

/-- **The request's session is granted**: it is new and active, has the lease of its port, and its
    bridge runs for the socket. -/
def SessionGranted (s s' : Server) (sid : Sid) (outs : List Out) : Prop :=
  ∃ i deviceName portLabel baud, Out.sessionGranted sid i deviceName portLabel baud ∈ outs ∧
    s.sessions.get? i = none ∧
    (∃ r, s'.sessions.get? i = some r ∧ r.status = .active ∧
      ∃ l ∈ s'.leases, l.sessionId = i ∧ l.portId = r.portId) ∧
    ∃ b, s'.bridge? (.active sid) = some b ∧ b.sessionId = i ∧ b.sid = some sid ∧ b.running = true

/-- **The request is undone**: no new session is active, no lease is new, no bridge is new. -/
structure Undone (s s' : Server) : Prop where
  session : ∀ i r, s'.sessions.get? i = some r → s.sessions.get? i = none → r.status ≠ .active
  lease : ∀ l ∈ s'.leases, l ∈ s.leases
  bridge : Back s s'

/-- Nothing has come: no row, no lease, no bridge. -/
structure Kept (s s' : Server) : Prop where
  rows : ∀ i, s'.sessions.get? i = none ↔ s.sessions.get? i = none
  lease : ∀ l ∈ s'.leases, l ∈ s.leases
  bridge : Back s s'

/-- The event grants a session. -/
def Out.isGrant : Out → Bool
  | .sessionGranted _ _ _ _ _ => true
  | _ => false

section Grant

variable {P : Process} {now : Time} {s s' v : Server} {sid : Sid} {outs outs' : List Out}

theorem Kept.refl : Kept s s := ⟨fun _ => Iff.rfl, fun _ hl => hl, .refl⟩

theorem Kept.undone (h : Kept s s') : Undone s s' :=
  ⟨fun i r hr hnone => absurd (hr.symm.trans ((h.rows i).mpr hnone)) (Option.some_ne_none r),
    h.lease, h.bridge⟩

theorem Kept.then_undone (h : Kept s v) (h' : Undone v s') : Undone s s' :=
  ⟨fun i r hr hnone => h'.session i r hr ((h.rows i).mpr hnone),
    fun l hl => h.lease l (h'.lease l hl), h.bridge.trans h'.bridge⟩

theorem Kept.recover (s : Server) : Kept s (s.recoverStaleLeases now) := by
  refine ⟨fun i => ?_, fun l hl => (Server.mem_leases_recover.mp hl).1, fun q b hb => hb⟩
  rw [Server.session?_recover, Option.map_eq_none_iff]

theorem Kept.endSession {i : Nat} {reason : String} (h : Kept s s') :
    Kept s (s'.endSession now i reason) := by
  refine ⟨fun j => ?_, fun l hl => h.lease l (Server.mem_leases_endSession.mp hl).1, h.bridge⟩
  rw [Server.session?_endSession, ← h.rows j]
  split
  · rw [Option.map_eq_none_iff]
  · exact Iff.rfl

/-- A socket that is told of no session is granted none. -/
theorem not_granted (h : outs.any Out.isGrant = false) : ¬SessionGranted s s' sid outs := by
  rintro ⟨i, deviceName, portLabel, baud, hmem, -⟩
  exact absurd (List.any_eq_true.mpr ⟨_, hmem, rfl⟩) (by rw [h]; exact Bool.false_ne_true)

/-! ## 2. Before the port loop -/

/-- A resume that fails. -/
theorem resumeBridge_kept {i : Nat} {waiting : List UInt8}
    (h : (s.resumeBridge P now sid i waiting).2.1 = none) :
    Kept s (s.resumeBridge P now sid i waiting).1 ∧
      (s.resumeBridge P now sid i waiting).2.2 = [] := by
  have hback := resumeBridge_back h
  have hends := resumption P now s sid i waiting
  generalize s.resumeBridge P now sid i waiting = out at hends h hback ⊢
  cases hends with
  | unknown => exact ⟨.refl, rfl⟩
  | elsewhere => exact ⟨⟨fun _ => Iff.rfl, fun _ hl => hl, hback⟩, rfl⟩
  | @expired b =>
      have hgone : Kept s ((s.removeAt (.suspended i)).closeSerial b.serial) :=
        ⟨fun _ => Iff.rfl, fun _ hl => hl, hback⟩
      exact ⟨hgone.endSession, rfl⟩
  | resumed => cases h

/-- **A request that resumes nothing**, up to the port loop. -/
theorem admitOrResume_kept {deviceId : Nat} {env : RequestEnv}
    (h : s.resumed? P now sid deviceId env = none) :
    Kept s (s.admitOrResume P now sid deviceId env).1 ∧
      (s.admitOrResume P now sid deviceId env).2.1.any Out.isGrant = false := by
  unfold Server.admitOrResume
  cases hgates : s.gates P sid deviceId env with
  | inr reason => exact ⟨.refl, rfl⟩
  | inl who =>
      obtain ⟨user, device⟩ := who
      dsimp only
      cases hr : s.existingSession user.id deviceId with
      | none => exact ⟨.refl, rfl⟩
      | some r =>
          have hfails : (s.resumeBridge P now sid r.id env.waiting).2.1 = none := by
            rw [Server.resumed?, hgates] at h
            dsimp only at h
            rw [hr] at h
            rw [resumeBridge_bridge]
            exact h
          obtain ⟨hkept, houts⟩ := resumeBridge_kept hfails
          dsimp only
          rw [hfails]
          dsimp only
          rw [houts]
          split
          · exact ⟨hkept, rfl⟩
          · exact ⟨hkept, rfl⟩

/-! ## 3. The port loop -/

/-- The lease of a free port is got. -/
theorem attempt_wins (h : s.LeaseRows) (u d : Nat) {port : DevicePort}
    (hfree : (s.recoverStaleLeases now).leases.get? port.id = none)
    (hport : (s.site.ports.get? port.id).isSome = true) :
    ((s.addSession (s.newSession now u d port.id)).acquirePortLease P now port.id
      s.sessions.nextKey).2 = true := by
  have hrow : ((s.recoverStaleLeases now).addSession
      (s.newSession now u d port.id)).sessions.get? s.sessions.nextKey =
        some (s.newSession now u d port.id) := by
    have hnew := (Table.get?_insert (r := s.newSession now u d port.id)
      (@Server.recover_session?_nextKey now s)) s.sessions.nextKey
    exact hnew.trans (if_pos rfl)
  have hleases : (((s.recoverStaleLeases now).addSession
      (s.newSession now u d port.id)).leases.get? port.id).isNone = true := by
    rw [Option.isNone_iff_eq_none]
    exact hfree
  unfold Server.acquirePortLease
  rw [Server.recoverStaleLeases_addSession now h u d port.id]
  dsimp only
  rw [hleases, hrow, Bool.true_and, Option.isSome_some, Bool.true_and]
  exact congrArg Prod.snd (if_pos hport)

/-- **The port loop gets a lease** where a port is free. -/
theorem tryPorts_wins (u d : Nat) {port : DevicePort} (ports : List DevicePort)
    (hmem : port ∈ ports) : ∀ {s : Server} (_ : s.LeaseRows),
      (s.recoverStaleLeases now).leases.get? port.id = none →
      (s.site.ports.get? port.id).isSome = true →
      (Server.tryPorts P now u d ports s).2 ≠ none := by
  induction ports with
  | nil => exact absurd hmem List.not_mem_nil
  | cons p ps ih =>
      intro s hrows hfree hport
      rcases Server.attempt_cases P now hrows u d p with ⟨ht, -⟩ | ⟨t, ht, hback⟩
      · rw [Server.tryPorts_cons ps ht, if_pos rfl]
        exact Option.some_ne_none _
      · rw [Server.tryPorts_cons ps ht, if_neg Bool.false_ne_true, hback]
        rcases List.mem_cons.mp hmem with rfl | hmem
        · have hwins := @attempt_wins P now s hrows u d port hfree hport
          rw [ht] at hwins
          cases hwins
        · refine ih hmem hrows.recover ?_ hport
          rw [Server.recoverStaleLeases_idem]
          exact hfree

/-- A port of the device is free. -/
def FreePort (now : Time) (s : Server) (device : Device) : Prop :=
  ∃ port ∈ enabledPorts s.site device.id .interactive,
    (s.recoverStaleLeases now).leases.get? port.id = none

/-- **The request comes to open the transport of a port**: it is admitted and within the quota, and
    a port of the device is free. -/
def OpensTransport (P : Process) (now : Time) (s : Server) (sid : Sid) (deviceId : Nat)
    (env : RequestEnv) : Prop :=
  ∃ user device v, portLoop? P now s (.request sid deviceId env) = some (user, device, v) ∧
    FreePort now v device

/-- A port in the loop has its row. -/
theorem enabledPort_row {device : Device} {port : DevicePort}
    (h : port ∈ enabledPorts s.site device.id .interactive) :
    (s.site.ports.get? port.id).isSome = true := by
  have hmem : port ∈ s.site.ports := (mem_enabledPorts.mp h).1
  have hget : s.site.ports.get? (key port) = some port := Table.get?_key hmem
  exact Option.isSome_iff_exists.mpr ⟨port, hget⟩

/-- How `start_bridge` ends for a session that has just entered. -/
theorem startBridge_entered (hsid : s.bridge? (.active sid) = none) (u d : Nat) (port : DevicePort)
    (answer : OpenAnswer) :
    (s.entered P now u d port).startBridge P now sid (s.newSession now u d port.id) port answer =
      match answer with
      | .opened => (s.opened P now sid u d port, .started)
      | .serialException => (s.entered P now u d port, .refused)
      | .otherException => (s.entered P now u d port, .raised) := by
  have hactive : ((s.entered P now u d port).active.get? sid).isSome = false := by
    have hnone : (s.entered P now u d port).active.get? sid = none := hsid
    rw [hnone]
    rfl
  have hremote : (s.entered P now u d port).isBridgeActiveRemotely P now
      (s.newSession now u d port.id).id = false := by
    have hrow := @session?_entered P now s u d port s.sessions.nextKey
    rw [if_pos rfl] at hrow
    have hid : (s.newSession now u d port.id).id = s.sessions.nextKey := rfl
    rw [Server.isBridgeActiveRemotely, hid, hrow]
    rfl
  unfold Server.startBridge
  rw [hactive, hremote, if_neg Bool.false_ne_true, if_neg Bool.false_ne_true]
  cases answer <;> rfl

/-- Without a free port, or over the quota, nothing comes. -/
theorem openSession_kept {user : User} {device : Device} {env : RequestEnv} (hrows : s.LeaseRows)
    (h : s.sessionsExceeded user = true ∨ ¬FreePort now s device) :
    Kept s (s.openSession P now sid user device env).1 := by
  have hnot : ∀ {port : DevicePort}, s.sessionsExceeded user = false →
      port ∈ enabledPorts s.site device.id .interactive →
      (s.recoverStaleLeases now).leases.get? port.id ≠ none := by
    intro port hquota hport hfree
    rcases h with hover | hnone
    · rw [hquota] at hover
      cases hover
    · exact hnone ⟨port, hport, hfree⟩
  have hends := opening P now sid user device env hrows
  generalize s.openSession P now sid user device env = out at hends ⊢
  cases hends with
  | exceeded => exact .refl
  | portless => exact .refl
  | taken => exact .recover s
  | refused hquota hport hfree => exact absurd hfree (hnot hquota hport)
  | stranded hquota hport hfree => exact absurd hfree (hnot hquota hport)
  | started hquota hport hfree => exact absurd hfree (hnot hquota hport)

/-- **With a free port** the transport decides. -/
theorem openSession_opens {user : User} {device : Device} {env : RequestEnv} (hrows : s.LeaseRows)
    (hsid : s.bridge? (.active sid) = none) (hquota : s.sessionsExceeded user = false)
    (hfree : FreePort now s device) :
    ∃ port ∈ enabledPorts s.site device.id .interactive,
      (s.recoverStaleLeases now).leases.get? port.id = none ∧
      s.openSession P now sid user device env =
        match env.opening with
        | .opened => (s.opened P now sid user.id device.id port,
            [.sessionGranted sid s.sessions.nextKey (Server.deviceName device) port.portLabel
              port.baud])
        | .serialException =>
          ((s.entered P now user.id device.id port).endSession now s.sessions.nextKey "error",
            [.sessionDenied sid ("Could not open serial port: " ++ port.devPath)])
        | .otherException => (s.entered P now user.id device.id port, []) := by
  obtain ⟨free, hfreemem, hfreelease⟩ := hfree
  have hports : enabledPorts s.site device.id .interactive ≠ [] :=
    List.ne_nil_of_mem hfreemem
  rcases Server.tryPorts_cases P now user.id device.id _ hports hrows with
    htry | ⟨port, hport, hlease, htry⟩
  · have hwins := @tryPorts_wins P now user.id device.id free _ hfreemem s hrows hfreelease
      (enabledPort_row hfreemem)
    rw [htry] at hwins
    exact absurd rfl hwins
  · refine ⟨port, hport, hlease, ?_⟩
    unfold Server.openSession
    rw [hquota, if_neg Bool.false_ne_true]
    simp only [htry, startBridge_entered hsid]
    cases env.opening <;> rfl

/-! ## 4. How a request ends -/

/-- The transport is open: the session is granted. -/
theorem granted_opened {u d : Nat} {port : DevicePort} {name : String}
    (hfree : (s.recoverStaleLeases now).leases.get? port.id = none) :
    SessionGranted s (s.opened P now sid u d port) sid
      [.sessionGranted sid s.sessions.nextKey name port.portLabel port.baud] := by
  refine ⟨s.sessions.nextKey, name, port.portLabel, port.baud, List.mem_singleton.mpr rfl,
    Table.get?_nextKey, ⟨_, (session?_opened _).trans (if_pos rfl), rfl,
      Server.newLease P now port.id s.sessions.nextKey, ?_, rfl, rfl⟩,
    _, (bridge?_opened _).trans (if_pos rfl), rfl, rfl, rfl⟩
  exact (mem_leases_entered hfree).mpr (Or.inr rfl)

/-- The transport refuses: the session is over, and its lease gone. -/
theorem undone_refused {u d : Nat} {port : DevicePort}
    (hfree : (s.recoverStaleLeases now).leases.get? port.id = none) :
    Undone s ((s.entered P now u d port).endSession now s.sessions.nextKey "error") := by
  refine ⟨fun i r hr hnone => ?_, fun l hl => ?_, fun q b hb => hb⟩
  · rw [Server.session?_endSession, session?_entered, hnone] at hr
    split at hr
    · cases hr
      exact SessionStatus.noConfusion
    · cases hr
  · obtain ⟨hl, hne⟩ := Server.mem_leases_endSession.mp hl
    rcases (mem_leases_entered hfree).mp hl with ⟨hold, -⟩ | rfl
    · exact hold
    · exact absurd rfl hne

theorem Kept.then_granted (h : Kept s v) (h' : SessionGranted v s' sid outs') :
    SessionGranted s s' sid (outs ++ outs') := by
  obtain ⟨i, name, label, baud, hmem, hnone, hrest⟩ := h'
  exact ⟨i, name, label, baud, List.mem_append_right _ hmem, (h.rows i).mp hnone, hrest⟩

/-- A request that goes on past the resume comes to open a transport exactly when it is within the
    quota and a port is free. -/
theorem opensTransport_iff {deviceId : Nat} {env : RequestEnv} {user : User} {device : Device}
    (hgoes : (s.admitOrResume P now sid deviceId env).2.2 = some (user, device)) :
    OpensTransport P now s sid deviceId env ↔
      (s.admitOrResume P now sid deviceId env).1.sessionsExceeded user = false ∧
        FreePort now (s.admitOrResume P now sid deviceId env).1 device := by
  have hloop : portLoop? P now s (.request sid deviceId env) =
      if (s.admitOrResume P now sid deviceId env).1.sessionsExceeded user ||
          (enabledPorts (s.admitOrResume P now sid deviceId env).1.site device.id
            .interactive).isEmpty then none
      else some (user, device, (s.admitOrResume P now sid deviceId env).1) := by
    simp only [portLoop?, hgoes]
  constructor
  · rintro ⟨u, d, v, hsome, hfree⟩
    rw [hloop] at hsome
    split at hsome
    · cases hsome
    · rename_i hcond
      cases hsome
      exact ⟨(Bool.or_eq_false_iff.mp (Bool.eq_false_iff.mpr hcond)).1, hfree⟩
  · rintro ⟨hquota, hfree⟩
    refine ⟨user, device, _, hloop.trans (if_neg ?_), hfree⟩
    obtain ⟨port, hport, -⟩ := hfree
    have hports : (enabledPorts (s.admitOrResume P now sid deviceId env).1.site device.id
        .interactive).isEmpty = false := by
      rw [List.isEmpty_eq_false_iff]
      exact List.ne_nil_of_mem hport
    rw [hquota, hports]
    exact Bool.false_ne_true

/-- **The end of a request that resumes nothing.** -/
theorem handleRequestSession_ends (h : s.Tidy) {deviceId : Nat} {env : RequestEnv}
    (hfresh : s.resumed? P now sid deviceId env = none) :
    (SessionGranted s (s.handleRequestSession P now sid deviceId env).1 sid
          (s.handleRequestSession P now sid deviceId env).2 ∨
        Undone s (s.handleRequestSession P now sid deviceId env).1) ↔
      ¬(OpensTransport P now s sid deviceId env ∧ env.opening = .otherException) := by
  obtain ⟨hkept, hnone⟩ := @admitOrResume_kept P now s sid deviceId env hfresh
  obtain ⟨hmoves, hgo⟩ := admitOrResume_moves P now s (.request sid deviceId env) sid deviceId env h
  have hrows := (hmoves.invariant h fun h m => m.tidy h).leaseRows
  have hopens := @opensTransport_iff P now s sid deviceId env
  rw [Server.handleRequestSession]
  cases hgoes : (s.admitOrResume P now sid deviceId env).2.2 with
  | none =>
      refine iff_of_true (Or.inr hkept.undone) fun hor => ?_
      obtain ⟨⟨u, d, v, hloop, -⟩, -⟩ := hor
      simp only [portLoop?, hgoes] at hloop
      cases hloop
  | some who =>
      obtain ⟨user, device⟩ := who
      obtain ⟨-, hsid⟩ := hgo user device hgoes
      rw [hopens hgoes]
      dsimp only
      by_cases hcomes : (s.admitOrResume P now sid deviceId env).1.sessionsExceeded user = false ∧
          FreePort now (s.admitOrResume P now sid deviceId env).1 device
      · obtain ⟨port, -, hlease, heq⟩ := @openSession_opens P now _ sid user device env hrows hsid
          hcomes.1 hcomes.2
        rw [heq]
        cases hopening : env.opening with
        | opened =>
            exact iff_of_true (Or.inl (hkept.then_granted (granted_opened hlease)))
              fun hother => OpenAnswer.noConfusion hother.2
        | serialException =>
            exact iff_of_true (Or.inr (hkept.then_undone (undone_refused hlease)))
              fun hother => OpenAnswer.noConfusion hother.2
        | otherException =>
            refine iff_of_false ?_ fun hnot => hnot ⟨hcomes, rfl⟩
            dsimp only
            rw [List.append_nil]
            rintro (hgranted | hundone)
            · exact not_granted hnone hgranted
            · exact hundone.session _ _ ((session?_entered _).trans (if_pos rfl))
                ((hkept.rows _).mp Table.get?_nextKey) rfl
      · have hwhy : (s.admitOrResume P now sid deviceId env).1.sessionsExceeded user = true ∨
            ¬FreePort now (s.admitOrResume P now sid deviceId env).1 device := by
          by_cases hquota : (s.admitOrResume P now sid deviceId env).1.sessionsExceeded user = false
          · exact Or.inr fun hfree => hcomes ⟨hquota, hfree⟩
          · exact Or.inl (Bool.not_eq_false _ ▸ hquota)
        exact iff_of_true (Or.inr (hkept.then_undone (openSession_kept hrows hwhy).undone))
          fun hother => hcomes hother.1

/-- **GRANTED OR UNDONE**: in every state that a server reaches from any database, a request that
    resumes nothing is one of the two exactly when opening the transport, if it comes to it, does
    not raise an exception that is no `SerialException`. -/
theorem granted_or_undone_iff {s₀ : Server} {ls : List Label} (h0 : s₀.Started)
    (hrows : s₀.LeaseRows) (h : Run (Step P) s₀ ls s) {deviceId : Nat} {env : RequestEnv}
    (hs : Step P s ⟨now, .request sid deviceId env, outs⟩ s')
    (hfresh : (s.at now).resumed? P now sid deviceId env = none) :
    (SessionGranted s s' sid outs ∨ Undone s s') ↔
      ¬(OpensTransport P now (s.at now) sid deviceId env ∧ env.opening = .otherException) := by
  have hends := handleRequestSession_ends (tidy_at (tidy_run h0 hrows h) now) hfresh
  have hexec : (s.at now).handleRequestSession P now sid deviceId env = (s', outs) := hs.2
  have hat : Undone (s.at now) s' ↔ Undone s s' :=
    ⟨fun h => ⟨h.session, h.lease, h.bridge⟩, fun h => ⟨h.session, h.lease, h.bridge⟩⟩
  rw [hexec, hat] at hends
  exact hends

end Grant

/-! ### On a small installation -/

/-- A request of alice for device 1, answered by the transport. -/
def aliceRequest (opening : OpenAnswer) : Label :=
  label desk deskStart (seconds 1) (.request "alice" 1 ⟨false, [], opening⟩)

theorem aliceRequest_step (opening : OpenAnswer) :
    Step desk deskStart (aliceRequest opening) (after desk deskStart (aliceRequest opening)) :=
  step_label (by decide)

/-- The transport refuses, and the request is undone. -/
theorem granted_or_undone_refused :
    Undone deskStart (after desk deskStart (aliceRequest .serialException)) := by
  have hiff := granted_or_undone_iff deskStart_started deskStart_leaseRows .start
    (aliceRequest_step .serialException) rfl
  refine (hiff.mpr fun hother => OpenAnswer.noConfusion hother.2).resolve_left ?_
  exact not_granted (by decide)

/-- **The transport raises a `ValueError`**: nobody is told, and session 1 stays active with the
    lease of its port and without a bridge. -/
theorem stranded_session :
    ¬(SessionGranted deskStart (after desk deskStart (aliceRequest .otherException)) "alice"
          (aliceRequest .otherException).outs ∨
        Undone deskStart (after desk deskStart (aliceRequest .otherException))) ∧
      (after desk deskStart (aliceRequest .otherException)).leases.rows.length = 1 ∧
      (after desk deskStart (aliceRequest .otherException)).bridge? (.active "alice") = none := by
  refine ⟨?_, by decide, rfl⟩
  rintro (hgranted | hundone)
  · exact not_granted (by decide) hgranted
  · have hactive : ((after desk deskStart (aliceRequest .otherException)).sessions.get? 1).any
        (fun r => r.status == .active) = true := by decide
    obtain ⟨r, hr, hstatus⟩ := (Option.any_eq_true _ _).mp hactive
    exact hundone.session 1 r hr rfl (beq_iff_eq.mp hstatus)

end RetroBridge.Terminal
