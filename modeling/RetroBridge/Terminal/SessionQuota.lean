/-
  File:      RetroBridge/Terminal/SessionQuota.lean
  Subject:   THE SESSION QUOTA under concurrent requests (retrobridge/terminal/events.py:
             `handle_request_session`).

  * `WithinQuota` -- the user's active sessions are at most the effective limit;
  * `Phase.quota?` -- the handlers between the quota's count and the end of the port loop, with the
    row each has added;
  * `Admitted` -- the assertion of such a handler: without its row the user is below the limit;
  * `OneAtATime` -- the steps at which no other handler of the user is there when a row is added;
  * `session_quota_run` -- **in a run of such steps the quota, once met, stays met**;
  * `quota_exceeded` -- two requests of a user that both count before either adds its row.
-/
import RetroBridge.Terminal.Cluster

namespace RetroBridge.Terminal

open Relational Ordered Transition Interleaved

/-! ## 1. The property -/

/-- The effective limit of a user. -/
def Deployment.limit (D : Deployment) (user : User) : Int :=
  raisedLimit D.site user Prod.snd user.maxTerminalSessions

/-- **Within the quota**: no more active sessions of the user than the limit. -/
def WithinQuota (D : Deployment) (u : Nat) (c : Cluster) : Prop :=
  ∀ user, D.site.users.get? u = some user →
    (c.shared.sessions.count (TerminalSession.countsFor u) : Int) ≤ D.limit user

/-- A handler that has counted and is not past its port loop: the user, and the row it has added. -/
def Phase.quota? : Phase → Option (User × Option Nat)
  | .looping q _ => some (q.user, none)
  | .created a | .recovered a | .lost a => some (a.req.user, some a.row.id)
  | _ => none

/-- **One at a time**: a row is added for a user only by a handler that is alone, among those of
    the user, between its count and the end of its port loop. -/
def OneAtATime (c : Cluster) (l : Thread × Event) : Prop :=
  ∀ u, l.2.write (c.phase l.1) = .creates u →
    ∀ t, t ≠ l.1 → ∀ user own, (c.phase t).quota? = some (user, own) → user.id ≠ u

/-! ## 2. The assertion of a handler -/

/-- The user's active sessions without the row `own`. -/
def otherSessions (rows : Table TerminalSession) (u : Nat) (own : Option Nat) : Nat :=
  rows.count fun r => r.countsFor u && own != some r.id

/-- The request of a handler past its gates. -/
def Phase.request? : Phase → Option Request
  | .gated q | .found q _ | .unresumed q _ | .counting q | .looping q _ => some q
  | .resuming h | .putting h | .reattaching h | .resumed h => some h.req
  | .created a | .recovered a | .lost a | .leased a | .unclaimed a | .opening a => some a.req
  | _ => none

/-- **What a handler knows**: its user's row, and that without the row it has added the user is
    below the limit. -/
structure Admitted (D : Deployment) (_t : Thread) (ph : Phase) (c : Shared) : Prop where
  user : ∀ q, ph.request? = some q → D.site.users.get? q.user.id = some q.user
  below : ∀ user own, ph.quota? = some (user, own) →
    (otherSessions c.sessions user.id own : Int) < D.limit user

section Steps

variable {P : Process} {now : Time} {s : Server} {env : RequestEnv} {ph : Phase}

/-- The gates let a user through whose row is there. -/
theorem gates_user {sid : Sid} {deviceId : Nat} {user : User} {device : Device}
    (h : s.gates P sid deviceId env = .inl (user, device)) :
    s.site.users.get? user.id = some user := by
  unfold Server.gates at h
  split at h
  · cases h
  · rename_i u hu
    obtain ⟨i, -, hget⟩ := Option.bind_eq_some_iff.mp hu
    have hid : u.id = i := (Table.get?_eq_some.mp hget).2
    split at h
    · cases h
    · split at h
      · cases h
      · split at h
        · cases h
        · split at h
          · cases h
          · cases h
            rw [hid]
            exact hget

/-- A handler keeps its request; it gets it at the gates, with the user's row. -/
theorem advance_request {q : Request} (h : (s.advance P now env ph).2.request? = some q) :
    ph.request? = some q ∨ s.site.users.get? q.user.id = some q.user := by
  cases ph with
  | requested sid deviceId =>
      simp only [Server.advance] at h
      split at h
      · cases h
      · rename_i user device hgates
        cases h
        exact .inr (gates_user hgates)
  | gated | found | resuming | reattaching | unresumed | counting | recovered | leased | unclaimed
  | opening =>
      simp only [Server.advance] at h
      split at h <;> first | exact .inl h | cases h
  | putting | created | lost => exact .inl h
  | looping q' ports =>
      cases ports with
      | nil => cases h
      | cons p ps => exact .inl h
  | disconnecting | hearing =>
      simp only [Server.advance] at h
      split at h
      · cases h
      · first | cases h | (split at h <;> cases h)
  | working todo =>
      cases todo with
      | nil => cases h
      | cons task todo =>
          cases task <;> simp only [Server.advance] at h <;> split at h <;> cases h
  | _ => cases h

/-- **How a handler comes to be between its count and the end of its port loop.** -/
theorem advance_quota {user : User} {own : Option Nat}
    (h : (s.advance P now env ph).2.quota? = some (user, own)) :
    (ph.quota? = some (user, own) ∧ ∀ u, ph.write now ≠ .creates u) ∨
    (∃ q, ph = .counting q ∧ user = q.user ∧ own = none ∧ s.sessionsExceeded q.user = false ∧
      (s.advance P now env ph).1 = s) ∨
    (∃ q p ps, ph = .looping q (p :: ps) ∧ user = q.user ∧ own = some s.sessions.nextKey) ∨
    (∃ a, ph = .lost a ∧ user = a.req.user ∧ own = none) := by
  cases ph with
  | counting q =>
      simp only [Server.advance] at h ⊢
      split at h
      · cases h
      · rename_i hquota
        cases h
        exact .inr (.inl ⟨q, rfl, rfl, rfl, by simpa using hquota, by rw [if_neg hquota]⟩)
  | looping q ports =>
      cases ports with
      | nil => cases h
      | cons p ps =>
          cases h
          exact .inr (.inr (.inl ⟨q, p, ps, rfl, rfl, rfl⟩))
  | created a =>
      refine .inl ⟨h, ?_⟩
      intro u hu
      cases hu
  | recovered a =>
      simp only [Server.advance] at h
      split at h
      · cases h
      · refine .inl ⟨h, ?_⟩
        intro u hu
        cases hu
  | lost a =>
      cases h
      exact .inr (.inr (.inr ⟨a, rfl, rfl, rfl⟩))
  | requested | gated | found | resuming | reattaching | unresumed | leased | unclaimed | opening
  | disconnecting =>
      simp only [Server.advance] at h
      split at h <;> cases h
  | hearing =>
      simp only [Server.advance] at h
      split at h
      · cases h
      · split at h <;> cases h
  | working todo =>
      cases todo with
      | nil => cases h
      | cons task todo =>
          cases task <;> simp only [Server.advance] at h <;> split at h <;> cases h
  | _ => cases h

end Steps

/-! ## 3. Rows -/

section Rows

variable {old rows : Table TerminalSession} {u : Nat} {own : Option Nat}

/-- Where no row becomes active, no count rises. -/
theorem Settled.count_le (h : Settled old rows) (ok : Nat → Bool) :
    rows.count (fun r => r.countsFor u && ok r.id) ≤
      old.count fun r => r.countsFor u && ok r.id := by
  refine Table.count_le_of_keys fun r' hr' hp => ?_
  simp only [Bool.and_eq_true, TerminalSession.countsFor, beq_iff_eq] at hp
  obtain ⟨⟨huser, hact⟩, hok⟩ := hp
  obtain ⟨r, hr, hract, hruser⟩ := h r'.id r' (Table.get?_key hr') hact
  obtain ⟨hmem, hid⟩ := Table.get?_eq_some.mp hr
  refine ⟨r, hmem, hid, ?_⟩
  have hid' : r.id = r'.id := hid
  simp [TerminalSession.countsFor, hract, hruser, huser, hid', hok]

theorem Settled.others_le (h : Settled old rows) :
    otherSessions rows u own ≤ otherSessions old u own := h.count_le fun i => own != some i

theorem Settled.total_le (h : Settled old rows) :
    rows.count (TerminalSession.countsFor u) ≤ old.count (TerminalSession.countsFor u) := by
  have hle := h.count_le (u := u) fun _ => true
  simpa using hle

/-- All sessions are other sessions for a handler that has added none. -/
theorem otherSessions_none (rows : Table TerminalSession) (u : Nat) :
    otherSessions rows u none = rows.count (TerminalSession.countsFor u) := by
  have hsame : ∀ r : TerminalSession, (r.countsFor u && (none : Option Nat) != some r.id) =
      r.countsFor u := fun r => by simp
  unfold otherSessions
  simp only [hsame]

/-- A new row is one of the handler that adds it, and counts for no other user. -/
theorem others_insert {r : TerminalSession} (h : r.userId ≠ u ∨ own = some r.id) :
    otherSessions (rows.insert r) u own ≤ otherSessions rows u own := by
  have hr : (r.countsFor u && own != some r.id) = false := by
    obtain h | h := h
    · simp [TerminalSession.countsFor, h]
    · simp [h]
  have hle := Table.count_insert_le (t := rows) (r := r)
    (p := fun r => r.countsFor u && own != some r.id)
  rw [if_neg (by simp [hr]), Nat.add_zero] at hle
  exact hle

theorem others_le_none : otherSessions rows u own ≤ otherSessions rows u none := by
  rw [otherSessions_none]
  exact Table.count_mono fun r _ hp => (Bool.and_eq_true_iff.mp hp).1

/-- Without its row, a handler's other sessions are all sessions. -/
theorem others_delete {i : Nat} : otherSessions (rows.filterRows fun r => r.id != i) u none ≤
    otherSessions rows u (some i) := by
  refine Table.count_le_of_keys fun r hr hp => ?_
  obtain ⟨hmem, hid⟩ := Table.mem_filterRows.mp hr
  refine ⟨r, hmem, rfl, ?_⟩
  have hne : r.id ≠ i := by simpa using hid
  simpa [hne.symm] using hp

end Rows

/-! ## 4. Runs -/

section Runs

variable {D : Deployment} {w w' : Cluster} {l : Thread × Event}

/-- What `create_session` adds, on the step of the handler that adds it. -/
theorem creates_some {c c' : Shared} {t : Thread} {e : Event} {ph ph' : Phase} {u : Nat}
    (h : program D t e c ph = some (c', ph')) (hwr : e.write ph = .creates u) :
    ∃ q p ps, ph = .looping q (p :: ps) ∧ q.user.id = u ∧
      c'.sessions = c.sessions.insert
        ((D.view c t.worker e.now).newSession e.now q.user.id q.device.id p.id) := by
  obtain ⟨-, s', hs, rfl⟩ := program_some h
  obtain ⟨now, act⟩ := e
  cases act with
  | call k => cases hwr
  | read conn answer => cases hwr
  | input sid data ok => cases hwr
  | step env =>
      cases ph with
      | looping q ports =>
          cases ports with
          | nil => cases hwr
          | cons p ps =>
              cases hs
              exact ⟨q, p, ps, rfl, Write.creates.inj hwr, rfl⟩
      | reattaching hd =>
          simp only [Event.write, Phase.write] at hwr
          split at hwr <;> cases hwr
      | _ => cases hwr

/-- **What another thread's step does to what a handler knows.** -/
theorem Admitted.other {t u : Thread} {ph : Phase} {c' : Shared} {ph' : Phase}
    (h : Admitted D u ph w.shared) (hone : OneAtATime w l) (hu : u ≠ l.1) (hph : w.phase u = ph)
    (hs : program D l.1 l.2 w.shared (w.phase l.1) = some (c', ph')) : Admitted D t ph c' := by
  refine ⟨h.user, fun user own hquota => lt_of_le_of_lt ?_ (h.below user own hquota)⟩
  by_cases hwr : ∃ v, l.2.write (w.phase l.1) = .creates v
  · obtain ⟨v, hv⟩ := hwr
    obtain ⟨q, p, ps, -, hq, hrows⟩ := creates_some hs hv
    have hother : user.id ≠ v := hone v hv u hu user own (by rw [hph]; exact hquota)
    rw [hrows]
    exact_mod_cast others_insert (.inl (by rw [← hq] at hother; exact hother.symm))
  · have hsettled := (program_rows hs).settled fun v hv => hwr ⟨v, hv⟩
    exact_mod_cast hsettled.others_le

/-- A handler that carries no request and has not counted knows nothing. -/
theorem Admitted.idle {t : Thread} {ph : Phase} {c : Shared} (hrequest : ph.request? = none)
    (hquota : ph.quota? = none) : Admitted D t ph c where
  user q hq := by
    rw [hrequest] at hq
    cases hq
  below user own hq := by
    rw [hquota] at hq
    cases hq

/-- **What a thread's own step does to what it knows.** -/
theorem Admitted.own {t : Thread} {e : Event} {ph : Phase} {c c' : Shared} {ph' : Phase}
    (h : Admitted D t ph c) (hs : program D t e c ph = some (c', ph')) : Admitted D t ph' c' := by
  have hrows := program_rows hs
  obtain ⟨-, s', hperform, hc'⟩ := program_some hs
  obtain ⟨now, act⟩ := e
  cases act with
  | call k =>
      cases ph with
      | idle =>
          cases hperform
          cases k <;> exact .idle rfl rfl
      | _ => cases hperform
  | read conn answer =>
      cases hperform
      exact ⟨h.user, fun user own hq => lt_of_le_of_lt
        (by exact_mod_cast (hrows.settled nofun).others_le) (h.below user own hq)⟩
  | input sid data ok =>
      cases hperform
      exact ⟨h.user, fun user own hq => lt_of_le_of_lt
        (by exact_mod_cast (hrows.settled nofun).others_le) (h.below user own hq)⟩
  | step env =>
      have hadvance : (D.view c t.worker now).advance (D.process t.worker) now env ph = (s', ph') :=
        Option.some.inj hperform
      have hph : ((D.view c t.worker now).advance (D.process t.worker) now env ph).2 = ph' := by
        rw [hadvance]
      refine ⟨fun q hq => ?_, fun user own hq => ?_⟩
      · rw [← hph] at hq
        obtain hq | hq := advance_request hq
        · exact h.user q hq
        · exact hq
      · rw [← hph] at hq
        obtain ⟨hstay, hwr⟩ | ⟨q, rfl, rfl, rfl, hbelow, hsame⟩ | ⟨q, p, ps, rfl, rfl, rfl⟩ |
          ⟨a, rfl, rfl, rfl⟩ := advance_quota hq
        · exact lt_of_le_of_lt (by exact_mod_cast (hrows.settled hwr).others_le)
            (h.below user own hstay)
        · -- the count itself
          have hrows' : c'.sessions = c.sessions := by
            rw [hc', show s' = D.view c t.worker now from by rw [← hsame, hadvance]]
            rfl
          rw [hrows', otherSessions_none]
          have hlt : ¬ (D.limit q.user ≤
              (c.sessions.count (TerminalSession.countsFor q.user.id) : Int)) :=
            of_decide_eq_false hbelow
          exact not_le.mp hlt
        · obtain ⟨q', p', ps', heq, -, hins⟩ := creates_some hs rfl
          cases heq
          have hbefore := h.below q.user none rfl
          have hafter : otherSessions c'.sessions q.user.id (some c.sessions.nextKey) ≤
              otherSessions c.sessions q.user.id none := by
            rw [hins]
            exact (others_insert (.inr rfl)).trans others_le_none
          exact lt_of_le_of_lt (by exact_mod_cast hafter) hbefore
        · have hdel : c'.sessions = c.sessions.filterRows fun r => r.id != a.row.id := by
            cases hrows with
            | deletes i hrows => exact hrows
          rw [hdel]
          exact lt_of_le_of_lt (by exact_mod_cast others_delete) (h.below a.req.user _ rfl)

/-- The annotated worlds: every handler knows what it relies on. -/
abbrev Counted (D : Deployment) : Cluster → Prop := Annotated (fun _ => True) (Admitted D)

theorem Counted.turn (h : Counted D w) (hone : OneAtATime w l) (hs : Turn (program D) w l w') :
    Counted D w' :=
  Annotated.turn h hs fun _ _ hprog => ⟨trivial, (h.thread l.1).own hprog,
    fun _ hu hA => hA.other hone hu rfl hprog⟩

/-- **One step keeps the quota.** -/
theorem WithinQuota.turn {u : Nat} (h : Counted D w) (hq : WithinQuota D u w)
    (hs : Turn (program D) w l w') : WithinQuota D u w' := by
  intro user huser
  obtain ⟨c', ph', hprog, rfl⟩ := turn_some.mp hs
  by_cases hwr : ∃ v, l.2.write (w.phase l.1) = .creates v
  · obtain ⟨v, hv⟩ := hwr
    obtain ⟨q, p, ps, hph, hqv, hrows⟩ := creates_some hprog hv
    have hrow := (h.thread l.1).user q (by rw [hph]; rfl)
    have hbelow := (h.thread l.1).below q.user none (by rw [hph]; rfl)
    rw [otherSessions_none] at hbelow
    rw [World.move_shared, hrows]
    have hins := Table.count_insert_le (t := w.shared.sessions)
      (r := (D.view w.shared l.1.worker l.2.now).newSession l.2.now q.user.id q.device.id p.id)
      (p := TerminalSession.countsFor u)
    by_cases hqu : q.user.id = u
    · -- the user's row: the count was below the limit, and one row is added
      rw [hqu, huser] at hrow
      cases hrow
      rw [hqu] at hbelow
      split at hins <;> omega
    · have hnot : ((D.view w.shared l.1.worker l.2.now).newSession l.2.now q.user.id q.device.id
          p.id).countsFor u = false := by
        simp [TerminalSession.countsFor, Server.newSession, hqu]
      rw [hnot, if_neg (by simp), Nat.add_zero] at hins
      have hle := hq user huser
      omega
  · have hsettled := (program_rows hprog).settled fun v hv => hwr ⟨v, hv⟩
    have hle := hsettled.total_le (u := u)
    have hbefore := hq user huser
    show ((c'.sessions.count _ : Nat) : Int) ≤ _
    have hle' : (c'.sessions.count (TerminalSession.countsFor u) : Int) ≤
        (w.shared.sessions.count (TerminalSession.countsFor u) : Int) := by exact_mod_cast hle
    omega

/-- **The session quota**: in every run in which rows are added one at a time, a user's active
    sessions, once within the quota, stay within it. -/
theorem session_quota_run {c₀ c₁ c₂ : Cluster} {ls₁ ls₂ : List (Thread × Event)} {u : Nat}
    (h0 : ∀ t, c₀.phase t = .idle)
    (h₁ : Run (guarded (Turn (program D)) OneAtATime) c₀ ls₁ c₁) (hquota : WithinQuota D u c₁)
    (h₂ : Run (guarded (Turn (program D)) OneAtATime) c₁ ls₂ c₂) : WithinQuota D u c₂ := by
  have hstart : Counted D c₀ := by
    refine ⟨trivial, fun t => ?_⟩
    rw [h0 t]
    exact .idle rfl rfl
  have hmid : Counted D c₁ := h₁.invariant hstart fun w l w' h hs => h.turn hs.1 hs.2
  have hend : Counted D c₂ ∧ WithinQuota D u c₂ :=
    h₂.invariant (I := fun w => Counted D w ∧ WithinQuota D u w) ⟨hmid, hquota⟩
      fun w l w' h hs => ⟨h.1.turn hs.1 hs.2, h.2.turn h.1 hs.2⟩
  exact hend.2

end Runs

/-! ## 5. Small runs -/

/-- `OneAtATime`, decided from the phases of the threads `ts`. -/
def oneAtATime (ts : List Thread) (c : Cluster) (l : Thread × Event) : Bool :=
  match l.2.write (c.phase l.1) with
  | .creates u => ts.all fun t => decide (t = l.1) || ((c.phase t).quota?).all fun e => e.1.id != u
  | _ => true

theorem oneAtATime_of {ts : List Thread} (c : Cluster) (l : Thread × Event)
    (hothers : ∀ t, t ∉ ts → c.phase t = .idle) (h : oneAtATime ts c l = true) :
    OneAtATime c l := by
  intro u hu t ht user own hquota
  by_cases hts : t ∈ ts
  · simp only [oneAtATime, hu, List.all_eq_true] at h
    have hok := h t hts
    rw [hquota] at hok
    simpa [ht] using hok
  · rw [hothers t hts] at hquota
    cases hquota

/-- More active sessions than the limit of the user's row. -/
def overQuota (D : Deployment) (u : Nat) (c : Cluster) : Bool :=
  (D.site.users.get? u).any fun user =>
    decide (D.limit user < c.shared.sessions.count (TerminalSession.countsFor u))

theorem withinQuota_iff {D : Deployment} {u : Nat} {c : Cluster} :
    WithinQuota D u c ↔ overQuota D u c = false := by
  unfold WithinQuota overQuota
  cases D.site.users.get? u with
  | none => simp
  | some user => simp

/-- User 1 gets a session on each of two devices, in overlapping requests that add their rows one at
    a time. -/
theorem session_quota_run_small : ∃ ls c, Run (Turn (program office)) officeStart ls c ∧
    c.shared.sessions.count (TerminalSession.countsFor 1) = 2 ∧ WithinQuota office 1 c := by
  have h : (execAll (execWhen (fun w l => decide (l.1 ∈ [⟨"a", 0⟩, ⟨"b", 0⟩]) &&
      oneAtATime [⟨"a", 0⟩, ⟨"b", 0⟩] w l) (turn (program office))) officeStart
      (officeCall "a" 0 0 (.request "alice" 1) 4 ++ officeCall "b" 0 0 (.request "alice2" 2) 2 ++
        List.replicate 7 (officeStep "a" 0 1) ++ List.replicate 9 (officeStep "b" 0 2))).any
      (fun c => c.shared.sessions.count (TerminalSession.countsFor 1) == 2) = true := by decide
  obtain ⟨c, hr, hp⟩ := exists_run_of_turns _ oneAtATime_of h
  have hstart : WithinQuota office 1 officeStart := withinQuota_iff.mpr (by decide)
  exact ⟨_, c, hr.of_guarded, beq_iff_eq.mp hp,
    session_quota_run (fun _ => rfl) .start hstart hr⟩

/-- The site of `office` with a limit of one session. -/
def smallOffice : Deployment :=
  { office with site := { deskSite with users := Table.empty.insert ⟨1, false, 2, 1, none⟩ } }

/-- **Two sessions under a limit of one**: both requests count before either adds its row. -/
theorem quota_exceeded : WithinQuota smallOffice 1 officeStart ∧
    ∃ ls c, Run (Turn (program smallOffice)) officeStart ls c ∧ ¬ WithinQuota smallOffice 1 c := by
  refine ⟨withinQuota_iff.mpr (by decide), ?_⟩
  have h : (execAll (turn (program smallOffice)) officeStart
      (officeCall "a" 0 0 (.request "alice" 1) 3 ++ officeCall "b" 0 0 (.request "alice2" 2) 3 ++
        List.replicate 8 (officeStep "a" 0 1) ++ List.replicate 8 (officeStep "b" 0 1))).any
      (overQuota smallOffice 1) = true := by decide
  obtain ⟨c, hr, hp⟩ := exists_run_of_execAll h
  refine ⟨_, c, hr, fun hwithin => ?_⟩
  rw [withinQuota_iff.mp hwithin] at hp
  cases hp

end RetroBridge.Terminal
