/-
  File:      RetroBridge/Terminal/Replay.lean
  Subject:   THE REPLAY BUFFER (retrobridge/terminal/utils.py: `_serial_reader`, `suspend_bridge`,
             `resume_bridge`): the last output of a session, kept for its next resume.

  * `Replays` -- every bridge has the last 8192 characters of all that was read for its session, and
    the number of its bytes;
  * `QuietResume` -- the steps in which no resume finds bytes on its open line: the flush of a
    resume sends and counts them, and puts nothing into the buffer;
  * `replays_step`, `shown_resumed` -- one step; what a resume shows;
  * `replay_run` -- **in every run of such steps the buffers are right, and every resume replays the
    most recent output**;
  * `flush_forgotten` -- a resume finds a prompt on the line; the next one does not replay it.
-/
import Mathlib.Data.List.DropRight
import RetroBridge.Terminal.Decoding

namespace RetroBridge.Terminal

open Relational Transition

/-! ## 1. The property and the condition -/

/-- **Every bridge replays what was read for its session.** -/
structure Replays (P : Process) (read : List (Nat × List UInt8)) (s : Server) : Prop where
  buffer : ∀ q b, s.bridge? q = some b →
    b.outputBuffer.map Prod.snd = (heardText P b.sessionId read).rtake 8192
  counter : ∀ q b, s.bridge? q = some b →
    b.bytesReceived = (chunks b.sessionId read).flatten.length

/-- The step is a request of the socket that resumes the bridge. -/
def Resumes (P : Process) (s : Server) (l : Label) (sid : Sid) (env : RequestEnv)
    (b : Bridge) : Prop :=
  ∃ deviceId, l.op = .request sid deviceId env ∧
    (s.at l.now).resumed? P l.now sid deviceId env = some b

/-- **No resume finds bytes on its open line**, and nothing is deleted. -/
def QuietResume (P : Process) (s : Server) (l : Label) : Prop :=
  NoDeletion s l ∧
    ∀ sid env b, Resumes P s l sid env b → s.isOpen b.serial = true → env.waiting = []

/-- Every session that was read for has a row. -/
def Known (read : List (Nat × List UInt8)) (s : Server) : Prop :=
  ∀ e ∈ read, ∃ r, s.sessions.get? e.1 = some r

section Replay

variable {P : Process} {now : Time} {s s' : Server} {op : Op} {l : Label} {sid : Sid}
  {read : List (Nat × List UInt8)}

/-! ## 2. The buffer -/

/-- The last `n` of the last `n` with more at the end. -/
theorem rtake_append {α : Type*} (n : Nat) (xs ys : List α) :
    (xs.rtake n ++ ys).rtake n = (xs ++ ys).rtake n := by
  simp only [List.rtake, List.length_append, List.length_drop, List.drop_append, List.drop_drop]
  have hfirst : xs.length - n + (xs.length - (xs.length - n) + ys.length - n) =
      xs.length + ys.length - n := by omega
  have hsecond : xs.length - (xs.length - n) + ys.length - n - (xs.length - (xs.length - n)) =
      xs.length + ys.length - n - xs.length := by omega
  rw [hfirst, hsecond]

theorem map_rtake {α β : Type*} (f : α → β) (n : Nat) (xs : List α) :
    (xs.rtake n).map f = (xs.map f).rtake n := by
  rw [List.rtake, List.rtake, List.map_drop, List.length_map]

/-- A bridge that receives what is decoded. -/
theorem buffer_receive (ser : Serial) (bytes : List UInt8) {b : Bridge}
    (h : b.outputBuffer.map Prod.snd = (heardText P b.sessionId read).rtake 8192) :
    (b.receive now ((P.decode bytes).map (ser, ·)) bytes.length).outputBuffer.map Prod.snd =
      (heardText P b.sessionId (read ++ [(b.sessionId, bytes)])).rtake 8192 := by
  have hdecoded : ((P.decode bytes).map (ser, ·)).map Prod.snd = P.decode bytes := by
    rw [List.map_map]
    exact List.map_id _
  have hlast : (b.receive now ((P.decode bytes).map (ser, ·)) bytes.length).outputBuffer =
      (b.outputBuffer ++ (P.decode bytes).map (ser, ·)).rtake 8192 := by
    rw [Bridge.receive, List.rtake]
  rw [hlast, map_rtake, List.map_append, hdecoded, h, rtake_append, heardText_append, heardText_own]

theorem chunks_known {i : Nat} (h : Known read s) (hnone : s.sessions.get? i = none) :
    chunks i read = [] := by
  refine List.map_eq_nil_iff.mpr (List.filter_eq_nil_iff.mpr fun e he hid => ?_)
  obtain ⟨r, hr⟩ := h e he
  rw [beq_iff_eq.mp hid, hnone] at hr
  cases hr

/-! ## 3. One step -/

/-- What is read is read by a thread, or in the flush of a resume. -/
theorem taken_some {e : Nat × List UInt8} (h : s.taken P now op = some e) :
    (∃ conn answer, op = .read conn answer) ∨
      ∃ sid deviceId env b, op = .request sid deviceId env ∧
        s.resumed? P now sid deviceId env = some b ∧ s.isOpen b.serial = true ∧
        env.waiting ≠ [] := by
  cases op with
  | read conn answer => exact Or.inl ⟨conn, answer, rfl⟩
  | request sid deviceId env =>
      cases hresumed : s.resumed? P now sid deviceId env with
      | none =>
          simp only [Server.taken, hresumed] at h
          cases h
      | some b =>
          rw [taken_request hresumed] at h
          split at h
          · rename_i hflush
            obtain ⟨hopen, hwaiting⟩ := Bool.and_eq_true_iff.mp hflush
            refine Or.inr ⟨sid, deviceId, env, b, rfl, hresumed, hopen, fun hnil => ?_⟩
            rw [hnil] at hwaiting
            cases hwaiting
          · cases h
  | _ => cases h

/-- In a quiet step only threads read. -/
theorem taken_quiet {e : Nat × List UInt8} (hq : QuietResume P s l)
    (h : (s.at l.now).taken P l.now l.op = some e) : ∃ conn answer, l.op = .read conn answer := by
  obtain hread | ⟨sid, deviceId, env, b, hop, hresumed, hopen, hwaiting⟩ := taken_some h
  · exact hread
  · exact absurd (hq.2 sid env b ⟨deviceId, hop, hresumed⟩ hopen) hwaiting

/-- **What a quiet step reads**, it reads for a bridge, which receives it; the others stay. -/
theorem quiet_iteration {e : Nat × List UInt8} (hin : InOrder s) (hq : QuietResume P s l)
    (hs : Step P s l s') (htaken : (s.at l.now).taken P l.now l.op = some e) :
    ∃ ser p b, s.bridge? p = some b ∧ e.1 = b.sessionId ∧ ∀ q, s'.bridge? q =
      if q = p then some (b.receive l.now ((P.decode e.2).map (ser, ·)) e.2.length)
      else s.bridge? q := by
  obtain ⟨conn, answer, hop⟩ := taken_quiet hq htaken
  have hread := @read_iteration P l.now _ (hin.at l.now).tidy conn answer
  rw [← hop, show (exec P l.now _ l.op).1 = s' from congrArg Prod.fst hs.2] at hread
  cases hread with
  | idle hnone hback houts =>
      rw [htaken] at hnone
      cases hnone
  | @took conn bytes ser p b hop' htook hb hafter houts =>
      rw [htaken] at htook
      cases htook
      exact ⟨ser, p, b, hb, rfl, hafter⟩

/-- Nothing is read: the buffers stay. -/
theorem replays_idle (h : Replays P read s) (hknown : Known read s)
    (htaken : (s.at now).taken P now op = none) (hcourse : Courses P now (s.at now) op s') :
    Replays P read s' := by
  have hboth : ∀ q b, s'.bridge? q = some b →
      b.outputBuffer.map Prod.snd = (heardText P b.sessionId read).rtake 8192 ∧
        b.bytesReceived = (chunks b.sessionId read).flatten.length := by
    intro q b' hb'
    obtain ⟨fate, p, b, hb, hc⟩ | hnew := hcourse q b' hb'
    · have hold : b.outputBuffer.map Prod.snd = (heardText P b.sessionId read).rtake 8192 ∧
          b.bytesReceived = (chunks b.sessionId read).flatten.length :=
        ⟨h.buffer p b hb, h.counter p b hb⟩
      cases hc with
      | same => exact hold
      | wrote => exact hold
      | beat => exact hold
      | read hop htook =>
          rw [htaken] at htook
          cases htook
      | suspend => exact hold
      | resume =>
          have hzero : (s.at now).takenLength P now op = 0 := by rw [Server.takenLength, htaken]
          refine ⟨hold.1, ?_⟩
          show b.bytesReceived + (s.at now).takenLength P now op = _
          rw [hzero]
          exact hold.2
    · obtain ⟨ser, sid, session, port, -, rfl⟩ := hnew.bridge
      have hnone : chunks session.id read = [] := chunks_known hknown hnew.fresh
      refine ⟨?_, ?_⟩
      · have hnothing : heardText P session.id read = [] := by
          rw [heardText, hnone, List.flatMap_nil]
        show [] = (heardText P session.id read).rtake 8192
        rw [hnothing, List.rtake_nil]
      · show 0 = (chunks session.id read).flatten.length
        rw [hnone]
        rfl
  exact ⟨fun q b hb => (hboth q b hb).1, fun q b hb => (hboth q b hb).2⟩

/-- **One quiet step** keeps every buffer and every counter right. -/
theorem replays_step (hin : InOrder s) (h : Replays P read s) (hknown : Known read s)
    (hq : QuietResume P s l) (hs : Step P s l s') :
    Replays P (read ++ ((s.at l.now).taken P l.now l.op).toList) s' := by
  cases htaken : (s.at l.now).taken P l.now l.op with
  | none =>
      rw [Option.toList_none, List.append_nil]
      exact replays_idle h hknown htaken (hs.course hin.tidy)
  | some e =>
      obtain ⟨ser, p, b, hb, hid, hafter⟩ := quiet_iteration hin hq hs htaken
      obtain ⟨i, bytes⟩ := e
      obtain rfl : i = b.sessionId := hid
      rw [Option.toList_some]
      have hother : ∀ q c, q ≠ p → s.bridge? q = some c → b.sessionId ≠ c.sessionId :=
        fun q c hne hc hid => hne (hin.distinct.unique q p c b hc hb hid.symm)
      refine ⟨fun q c hc => ?_, fun q c hc => ?_⟩
      · rw [hafter] at hc
        split at hc
        · cases hc
          exact buffer_receive ser bytes (h.buffer p b hb)
        · rename_i hne
          rw [heardText_append, heardText_other (hother q c hne hc), List.append_nil]
          exact h.buffer q c hc
      · rw [hafter] at hc
        split at hc
        · cases hc
          show b.bytesReceived + bytes.length = (chunks b.sessionId _).flatten.length
          rw [chunks_append, chunks_own, List.flatten_append, List.length_append,
            h.counter p b hb, List.flatten_singleton]
        · rename_i hne
          rw [chunks_append, chunks_other (hother q c hne hc), List.append_nil]
          exact h.counter q c hc

/-- Rows stay, and what is read is read for a session with a row. -/
theorem known_step (hin : InOrder s) (hknown : Known read s) (hq : QuietResume P s l)
    (hs : Step P s l s') : Known (read ++ ((s.at l.now).taken P l.now l.op).toList) s' := by
  have hstays : ∀ i r, s.sessions.get? i = some r → ∃ r', s'.sessions.get? i = some r' := by
    intro i r hr
    exact (hs.moves hin.tidy).invariant (I := fun v => ∃ r', v.sessions.get? i = some r') ⟨r, hr⟩
      fun h m => h.elim fun r' hr' => m.row_stays hq.1 hr'
  intro e he
  rcases List.mem_append.mp he with he | he
  · obtain ⟨r, hr⟩ := hknown e he
    exact hstays e.1 r hr
  · have htaken := Option.mem_toList.mp he
    obtain ⟨ser, p, b, hb, hid, -⟩ := quiet_iteration hin hq hs htaken
    obtain ⟨r, hr⟩ := hin.distinct.row p b hb
    exact hid ▸ hstays b.sessionId r hr

/-! ## 4. What a resume shows -/

theorem shown_one (data : List Heard) :
    [Out.terminalOutput sid data].flatMap (Out.shown sid) = data.map Prod.snd := by
  rw [List.flatMap_singleton, Out.shown, if_pos rfl]

theorem shown_flushWaiting (ser : Serial) (waiting : List UInt8) :
    (s.flushWaiting P sid ser waiting).2.flatMap (Out.shown sid) =
      if s.isOpen ser && !waiting.isEmpty then P.decode waiting else [] := by
  unfold Server.flushWaiting
  split
  · refine (shown_one _).trans ?_
    rw [List.map_map]
    exact List.map_id _
  · rfl

theorem shown_resumeBridge {i : Nat} {b : Bridge} (waiting : List UInt8)
    (hb : s.suspended.dict.get? i = some b) (hremote : s.isBridgeActiveRemotely P now i = false)
    (hgrace : b.graceOver now = false) :
    (s.resumeBridge P now sid i waiting).2.1 = some (b.resume now sid) ∧
      (s.resumeBridge P now sid i waiting).2.2.flatMap (Out.shown sid) =
        b.outputBuffer.map Prod.snd ++
          if s.isOpen b.serial && !waiting.isEmpty then P.decode waiting else [] := by
  have hbuffered : (if b.outputBuffer.isEmpty then []
      else [Out.terminalOutput sid b.outputBuffer]).flatMap (Out.shown sid) =
        b.outputBuffer.map Prod.snd := by
    cases hbuf : b.outputBuffer with
    | nil => rfl
    | cons x xs => exact shown_one (x :: xs)
  have hends := resumption P now s sid i waiting
  generalize s.resumeBridge P now sid i waiting = out at hends ⊢
  cases hends with
  | unknown hb' =>
      rw [hb] at hb'
      cases hb'
  | elsewhere hb' hremote' =>
      rw [hremote] at hremote'
      cases hremote'
  | expired hb' hremote' hgrace' =>
      rw [hb] at hb'
      cases hb'
      rw [hgrace] at hgrace'
      cases hgrace'
  | resumed hb' =>
      rw [hb] at hb'
      cases hb'
      refine ⟨rfl, ?_⟩
      rw [List.flatMap_append, hbuffered]
      exact congrArg _ (shown_flushWaiting b.serial waiting)

/-- **A quiet resume shows the buffer.** -/
theorem shown_resumed {deviceId : Nat} {env : RequestEnv} {c : Bridge}
    (hresumed : s.resumed? P now sid deviceId env = some c)
    (hquiet : s.isOpen c.serial = true → env.waiting = []) :
    (exec P now s (.request sid deviceId env)).2.flatMap (Out.shown sid) =
      c.outputBuffer.map Prod.snd := by
  obtain ⟨user, device, r, b, hgates, hr, hb, hremote, hgrace, rfl⟩ := resumed?_cases hresumed
  obtain ⟨hback, hshown⟩ := @shown_resumeBridge P now s sid r.id b env.waiting hb hremote hgrace
  have hflush : (s.isOpen b.serial && !env.waiting.isEmpty) = false := by
    cases hopen : s.isOpen b.serial with
    | false => rfl
    | true =>
        rw [hquiet hopen]
        rfl
  rw [hflush, if_neg Bool.false_ne_true, List.append_nil] at hshown
  rw [exec, Server.handleRequestSession, Server.admitOrResume, hgates]
  dsimp only
  rw [hr]
  dsimp only
  rw [hback]
  dsimp only
  rw [List.flatMap_append, hshown]
  exact List.append_nil _

/-! ## 5. Runs -/

/-- **THE REPLAY BUFFER**, in every run of quiet steps: every bridge has the last 8192 characters of
    what was read for its session and the number of its bytes, and a quiet resume shows them. -/
theorem replay_run {s₀ : Server} {ls : List Label} (h0 : s₀.Started) (hrows : s₀.LeaseRows)
    (h : Run (guarded (Step P) (QuietResume P)) s₀ ls s) :
    Replays P (tape P s₀ ls) s ∧
      ∀ l s', QuietResume P s l → Step P s l s' → ∀ sid env b, Resumes P s l sid env b →
        shown sid [l] = (heardText P b.sessionId (tape P s₀ ls)).rtake 8192 := by
  have hall : InOrder s ∧ Replays P (tape P s₀ ls) s ∧ Known (tape P s₀ ls) s := by
    refine h.observed (I := fun read s => InOrder s ∧ Replays P read s ∧ Known read s)
      (fun _ _ _ hs => hs.2.after_eq) ⟨h0.inOrder hrows, ?_, ?_⟩ ?_
    · exact ⟨fun q b hb => absurd hb h0.no_bridge, fun q b hb => absurd hb h0.no_bridge⟩
    · exact fun e he => absurd he List.not_mem_nil
    · rintro read s l s' ⟨hin, hrep, hknown⟩ ⟨hq, hs⟩
      exact ⟨hs.inOrder hq.1 hin, replays_step hin hrep hknown hq hs,
        known_step hin hknown hq hs⟩
  obtain ⟨hin, hrep, -⟩ := hall
  refine ⟨hrep, fun l s' hq hs sid env c hresumes => ?_⟩
  have hquiet := hq.2 sid env c hresumes
  obtain ⟨deviceId, hop, hresumed⟩ := hresumes
  obtain ⟨b, hb, rfl⟩ := resumed?_some hresumed
  have houts : (exec P l.now (s.at l.now) l.op).2 = l.outs := congrArg Prod.snd hs.2
  have hshown := @shown_resumed P l.now (s.at l.now) sid deviceId env _ hresumed hquiet
  rw [← hop, houts] at hshown
  rw [shown, List.flatMap_singleton, hshown]
  exact hrep.buffer (.suspended b.sessionId) b hb

end Replay

/-! ### On a small installation -/

/-- `QuietResume`, decided. -/
def quietResume (P : Process) (s : Server) (l : Label) : Bool :=
  noDeletion s l &&
    match l.op with
    | .request sid deviceId env =>
      ((s.at l.now).resumed? P l.now sid deviceId env).all fun b =>
        !s.isOpen b.serial || env.waiting.isEmpty
    | _ => true

theorem quietResume_of {P : Process} (s : Server) (l : Label) (h : quietResume P s l = true) :
    QuietResume P s l := by
  obtain ⟨hdel, hall⟩ := Bool.and_eq_true_iff.mp h
  refine ⟨noDeletion_of s l hdel, fun sid env b hresumes hopen => ?_⟩
  obtain ⟨deviceId, hop, hresumed⟩ := hresumes
  rw [hop] at hall
  dsimp only at hall
  rw [hresumed, Option.all_some, hopen, Bool.not_true, Bool.false_or] at hall
  exact List.isEmpty_iff.mp hall

/-- Output before a disconnect and while alice is away; the resume shows it all. -/
theorem replay_run_small : ∃ ls s, Run (guarded (Step desk) (QuietResume desk)) deskStart ls s ∧
    shown "alice" ls = ['>', '>', '$'] ∧ Replays desk (tape desk deskStart ls) s := by
  have h : (play (fire desk (quietResume desk)) deskStart
      [(0, requestOk "alice" 1), (seconds 1, .read 0 (.data [62])),
        (seconds 2, .disconnect "alice"), (seconds 3, .read 0 (.data [36])),
        (seconds 4, requestOk "alice" 1)]).any
      (fun r => shown "alice" r.1 == ['>', '>', '$']) = true := by decide
  obtain ⟨ls, s, hr, hp⟩ := exists_run_of_play (guarded_of_fire quietResume_of) h
  exact ⟨ls, s, hr, beq_iff_eq.mp hp, (replay_run deskStart_started deskStart_leaseRows hr).1⟩

/-- **A resume finds a prompt on the line**: it is sent and counted, and the buffer stays empty. -/
theorem flush_forgotten : ∃ ls s, Run (guarded (Step desk) NoDeletion) deskStart ls s ∧
    heardText desk 1 (tape desk deskStart ls) = ['$'] ∧
    ¬ Replays desk (tape desk deskStart ls) s := by
  have h : (play (fire desk noDeletion) deskStart
      [(0, requestOk "alice" 1), (seconds 1, .disconnect "alice"),
        (seconds 2, .request "alice" 1 ⟨false, [36], .opened⟩)]).any
      (fun r => heardText desk 1 (tape desk deskStart r.1) == ['$'] &&
        (r.2.bridge? (.active "alice")).any fun b =>
          b.sessionId == 1 && (b.outputBuffer.map Prod.snd).isEmpty) = true := by decide
  obtain ⟨ls, s, hr, hp⟩ := exists_run_of_play (guarded_of_fire noDeletion_of) h
  obtain ⟨hheard, hany⟩ := Bool.and_eq_true_iff.mp hp
  have hheard' := beq_iff_eq.mp hheard
  obtain ⟨b, hb, hbuf⟩ := (Option.any_eq_true _ _).mp hany
  obtain ⟨hid, hempty⟩ := Bool.and_eq_true_iff.mp hbuf
  refine ⟨ls, s, hr, hheard', fun hrep => ?_⟩
  have hbuffer := hrep.buffer _ b hb
  rw [List.isEmpty_iff.mp hempty, beq_iff_eq.mp hid, hheard'] at hbuffer
  exact absurd hbuffer (by decide)

end RetroBridge.Terminal
