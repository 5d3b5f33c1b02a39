/-
  File:      RetroBridge/Terminal/Timeouts.lean
  Subject:   WHAT `check_timeouts` DOES (retrobridge/terminal/utils.py: `check_timeouts`,
             `stop_bridge`): which bridges it stops, with which reason, and what it leaves.

  * `Stopped` -- a bridge is gone, and its socket is told why;
  * `EndedWith` -- a session's row is disconnected with the reason;
  * `stopAll_bridge`, `stopAll_ended` -- what is not on the list stays; where one session has one
    bridge, the row of every bridge on the list ends with the bridge's reason;
  * `checkTimeouts_stops` -- **a bridge is stopped with a reason exactly when `check_timeouts` finds
    the reason in it**, and stays where it finds none.
-/
import RetroBridge.Terminal.Course

namespace RetroBridge.Terminal

open Relational Transition

/-! ## 1. A stopped bridge -/

/-- **The bridge at the socket is stopped with the reason.** -/
structure Stopped (sid : Sid) (reason : String) (s' : Server) (outs : List Out) : Prop where
  gone : s'.bridge? (.active sid) = none
  told : Out.sessionClosed sid reason ∈ outs

/-- The row of the session is disconnected with the reason. -/
def EndedWith (i : Nat) (reason : String) (s' : Server) : Prop :=
  ∃ r, s'.sessions.get? i = some r ∧ r.status = .disconnected ∧ r.disconnectReason = some reason

section Stop

variable {P : Process} {now : Time} {s : Server}

/-! ## 2. One after the other -/

theorem stopBridge_other {sid : Sid} {reason : String} {q : Place} (hne : q ≠ .active sid) :
    (s.stopBridge now sid reason).1.bridge? q = s.bridge? q := by
  unfold Server.stopBridge
  split
  · rfl
  · exact (s.bridge?_removeAt (.active sid) q).trans (if_neg hne)

theorem stopBridge_row {sid : Sid} {reason : String} {i : Nat}
    (hother : ∀ b, s.bridge? (.active sid) = some b → b.sessionId ≠ i) :
    (s.stopBridge now sid reason).1.sessions.get? i = s.sessions.get? i := by
  unfold Server.stopBridge
  split
  · rfl
  · rename_i b hb
    dsimp only
    rw [Server.session?_endSession, if_neg fun e => hother b hb e.symm]
    rfl

theorem stopBridge_gone {sid : Sid} {reason : String} :
    (s.stopBridge now sid reason).1.bridge? (.active sid) = none := by
  unfold Server.stopBridge
  split
  · rename_i hnone
    exact hnone
  · exact (s.bridge?_removeAt (.active sid) (.active sid)).trans (if_pos rfl)

/-- The row of the session whose bridge is stopped. -/
theorem stopBridge_ended {sid : Sid} {b : Bridge} (reason : String)
    (hb : s.bridge? (.active sid) = some b) (hrow : ∃ r, s.sessions.get? b.sessionId = some r) :
    EndedWith b.sessionId reason (s.stopBridge now sid reason).1 := by
  have hget : s.active.get? sid = some b := hb
  obtain ⟨r, hr⟩ := hrow
  unfold Server.stopBridge
  rw [hget]
  refine ⟨ended now reason r, ?_, rfl, rfl⟩
  dsimp only
  rw [Server.session?_endSession, if_pos rfl]
  exact congrArg (Option.map (ended now reason)) hr

/-- What is not on the list stays. -/
theorem stopAll_bridge {q : Place} (ended : List (Sid × String)) :
    ∀ {s : Server}, (∀ e ∈ ended, q ≠ .active e.1) →
      (Server.stopAll now ended s).1.bridge? q = s.bridge? q := by
  induction ended with
  | nil => exact fun _ => rfl
  | cons e rest ih =>
      intro s hne
      have hrest := @ih (s.stopBridge now e.1 e.2).1 fun e' he' =>
        hne e' (List.mem_cons_of_mem e he')
      exact hrest.trans (stopBridge_other (hne e List.mem_cons_self))

theorem stopAll_row {i : Nat} (ended : List (Sid × String)) :
    ∀ {s : Server}, (∀ e ∈ ended, ∀ b, s.bridge? (.active e.1) = some b → b.sessionId ≠ i) →
      (Server.stopAll now ended s).1.sessions.get? i = s.sessions.get? i := by
  induction ended with
  | nil => exact fun _ => rfl
  | cons e rest ih =>
      intro s hne
      have hrest := @ih (s.stopBridge now e.1 e.2).1 fun e' he' b hb =>
        hne e' (List.mem_cons_of_mem e he') b (back_stopBridge e.1 e.2 _ b hb)
      exact hrest.trans (stopBridge_row (hne e List.mem_cons_self))

/-- Every bridge of the list is gone. -/
theorem stopAll_gone {sid : Sid} {reason : String} (ended : List (Sid × String)) :
    ∀ {s : Server}, (sid, reason) ∈ ended →
      (Server.stopAll now ended s).1.bridge? (.active sid) = none := by
  induction ended with
  | nil => exact fun hmem => absurd hmem List.not_mem_nil
  | cons e rest ih =>
      intro s hmem
      rcases List.mem_cons.mp hmem with rfl | hmem
      · cases hc : (Server.stopAll now ((sid, reason) :: rest) s).1.bridge? (.active sid) with
        | none => rfl
        | some c =>
            have hthere : (s.stopBridge now sid reason).1.bridge? (.active sid) = some c :=
              back_stopAll rest (.active sid) c hc
            cases stopBridge_gone.symm.trans hthere
      · exact ih hmem

/-- **What is told**: the sockets of the list that have a bridge, each with its reason. -/
theorem stopAll_told {sid : Sid} {reason : String} (ended : List (Sid × String)) :
    ∀ {s : Server}, (ended.map Prod.fst).Nodup →
      (Out.sessionClosed sid reason ∈ (Server.stopAll now ended s).2 ↔
        (sid, reason) ∈ ended ∧ ∃ b, s.bridge? (.active sid) = some b) := by
  induction ended with
  | nil => exact fun _ => iff_of_false List.not_mem_nil fun h => absurd h.1 List.not_mem_nil
  | cons e rest ih =>
      intro s hnodup
      obtain ⟨hfirst, hnodup'⟩ := List.nodup_cons.mp hnodup
      have hone : Out.sessionClosed sid reason ∈ (s.stopBridge now e.1 e.2).2 ↔
          (sid, reason) = e ∧ ∃ b, s.bridge? (.active sid) = some b := by
        unfold Server.stopBridge
        split
        · rename_i hnone
          refine iff_of_false List.not_mem_nil ?_
          rintro ⟨rfl, b, hb⟩
          cases hnone.symm.trans hb
        · rename_i b hb
          rw [List.mem_singleton]
          constructor
          · intro heq
            cases heq
            exact ⟨rfl, b, hb⟩
          · rintro ⟨rfl, -⟩
            rfl
      have hkept : (sid, reason) ∈ rest → (s.stopBridge now e.1 e.2).1.bridge? (.active sid) =
          s.bridge? (.active sid) := fun hmem =>
        stopBridge_other fun hplace =>
          hfirst (List.mem_map.mpr ⟨(sid, reason), hmem, Place.active.inj hplace⟩)
      have hsplit : (Server.stopAll now (e :: rest) s).2 = (s.stopBridge now e.1 e.2).2 ++
          (Server.stopAll now rest (s.stopBridge now e.1 e.2).1).2 := rfl
      rw [hsplit, List.mem_append, hone, ih hnodup', List.mem_cons]
      constructor
      · rintro (⟨hmem, hb⟩ | ⟨hmem, hb⟩)
        · exact ⟨Or.inl hmem, hb⟩
        · rw [hkept hmem] at hb
          exact ⟨Or.inr hmem, hb⟩
      · rintro ⟨hmem | hmem, hb⟩
        · exact Or.inl ⟨hmem, hb⟩
        · rw [← hkept hmem] at hb
          exact Or.inr ⟨hmem, hb⟩

/-- **The rows of the list**: one session has one bridge, so no later stop writes its row again. -/
theorem stopAll_ended {sid : Sid} {b : Bridge} {reason : String} (ended : List (Sid × String)) :
    ∀ {s : Server}, (ended.map Prod.fst).Nodup →
      (∀ p q c d, s.bridge? p = some c → s.bridge? q = some d → c.sessionId = d.sessionId → p = q) →
      s.bridge? (.active sid) = some b → (∃ r, s.sessions.get? b.sessionId = some r) →
      (sid, reason) ∈ ended →
      EndedWith b.sessionId reason (Server.stopAll now ended s).1 := by
  induction ended with
  | nil => exact fun _ _ _ _ hmem => absurd hmem List.not_mem_nil
  | cons e rest ih =>
      intro s hnodup hunique hb hrow hmem
      obtain ⟨hfirst, hnodup'⟩ := List.nodup_cons.mp hnodup
      have hback : Back s (s.stopBridge now e.1 e.2).1 := back_stopBridge e.1 e.2
      rcases List.mem_cons.mp hmem with rfl | hmem
      · obtain ⟨r, hr, hover⟩ := @stopBridge_ended now s sid b reason hb hrow
        refine ⟨r, ?_, hover⟩
        refine (stopAll_row rest fun e' he' c hc hid => hfirst ?_).trans hr
        have hplace := hunique _ _ c b (hback _ c hc) hb hid
        exact List.mem_map.mpr ⟨e', he', Place.active.inj hplace⟩
      · have hne : Place.active sid ≠ .active e.1 := fun hplace =>
          hfirst (List.mem_map.mpr ⟨(sid, reason), hmem, Place.active.inj hplace⟩)
        refine ih hnodup' (fun p q c d hc hd => hunique p q c d (hback p c hc) (hback q d hd))
          ((stopBridge_other hne).trans hb) ?_ hmem
        obtain ⟨r, hr⟩ := hrow
        refine ⟨r, (stopBridge_row fun c hc hid => hne ?_).trans hr⟩
        exact (hunique _ _ c b hc hb hid).symm

/-! ## 3. check_timeouts -/

theorem mem_timedOut {sid : Sid} {reason : String} : (sid, reason) ∈ s.timedOut now ↔
    ∃ b, s.bridge? (.active sid) = some b ∧ Server.timeoutReason now b = some reason := by
  rw [Server.timedOut, List.mem_filterMap]
  constructor
  · rintro ⟨⟨sid', b⟩, hmem, hreason⟩
    obtain ⟨reason', hreason', heq⟩ := Option.map_eq_some_iff.mp hreason
    cases heq
    exact ⟨b, Ordered.Dict.get?_eq_some.mpr hmem, hreason'⟩
  · rintro ⟨b, hb, hreason⟩
    exact ⟨(sid, b), Ordered.Dict.get?_eq_some.mp hb, by rw [hreason]; rfl⟩

theorem timedOut_nodup : ((s.timedOut now).map Prod.fst).Nodup := by
  refine s.active.nodup.sublist ?_
  rw [Server.timedOut]
  induction s.active.entries with
  | nil => exact .slnil
  | cons e entries ih =>
      rw [List.filterMap_cons, List.map_cons]
      cases Server.timeoutReason now e.2 with
      | none => exact ih.cons _
      | some reason => exact ih.cons_cons _

/-- **WHAT `check_timeouts` DOES** to an active bridge: it is stopped with the reason found in it,
    or stays. -/
theorem checkTimeouts_stops {sid : Sid} {b : Bridge} (hb : s.bridge? (.active sid) = some b) :
    (∀ reason, Stopped sid reason (s.checkTimeouts now).1 (s.checkTimeouts now).2 ↔
        Server.timeoutReason now b = some reason) ∧
      (Server.timeoutReason now b = none →
        (s.checkTimeouts now).1.bridge? (.active sid) = some b) := by
  have hfound : ∀ reason, (sid, reason) ∈ s.timedOut now ↔
      Server.timeoutReason now b = some reason := by
    intro reason
    rw [mem_timedOut]
    constructor
    · rintro ⟨c, hc, hreason⟩
      rw [hb] at hc
      cases hc
      exact hreason
    · exact fun hreason => ⟨b, hb, hreason⟩
  refine ⟨fun reason => ⟨fun hstopped => ?_, fun hreason => ⟨?_, ?_⟩⟩, fun hnone => ?_⟩
  · exact (hfound reason).mp ((stopAll_told _ timedOut_nodup).mp hstopped.told).1
  · exact stopAll_gone _ ((hfound reason).mpr hreason)
  · exact (stopAll_told _ timedOut_nodup).mpr ⟨(hfound reason).mpr hreason, b, hb⟩
  · refine (stopAll_bridge _ fun e he hplace => ?_).trans hb
    have hsid : sid = e.1 := Place.active.inj hplace
    have hreason := (hfound e.2).mp (by rw [hsid]; exact he)
    rw [hnone] at hreason
    cases hreason

/-- The row of a bridge that is stopped. -/
theorem checkTimeouts_ended (h : Distinct s) {sid : Sid} {b : Bridge} {reason : String}
    (hb : s.bridge? (.active sid) = some b)
    (hreason : Server.timeoutReason now b = some reason) :
    EndedWith b.sessionId reason (s.checkTimeouts now).1 :=
  stopAll_ended _ timedOut_nodup h.unique hb (h.row _ b hb) (mem_timedOut.mpr ⟨b, hb, hreason⟩)

/-- Suspended bridges are not looked at. -/
theorem checkTimeouts_suspended (k : Nat) :
    (s.checkTimeouts now).1.bridge? (.suspended k) = s.bridge? (.suspended k) :=
  stopAll_bridge _ fun _ _ hplace => Place.noConfusion hplace

/-- The reason of a running bridge. -/
theorem timeoutReason_running {b : Bridge} (h : b.running = true) :
    Server.timeoutReason now b =
      if now - b.startTime > b.maxRuntime then some "timeout"
      else if now - b.lastActivity > b.idleTimeout then some "idle_timeout"
      else none := by
  rw [Server.timeoutReason, h]
  rfl

end Stop

end RetroBridge.Terminal
