/-
  File:      RetroBridge/Jobs/Change.lean
  Subject:   WHAT A STEP CAN DO TO A ROW, said once, and what every phase remembers.

  * `WorkerMoved`, `RequestMoved` -- the moves of a worker and of a request, with what each has
    found;
  * `Recalls`, `step_recalls` -- the facts that hold in every state of every run: the lists a worker
    or a request walks, the objects it holds, and that the request inside `create_job` has the write
    lock; `Ok`, `step_ok` -- these, and the ports of a claim, which are of one site;
  * `RowChange`, `effect_change` -- THE INVERSION: a row after a step is the row there was, or one
    of seven rewrites of it, each with the place of the process that wrote it;
  * `effect_rows` -- the rows after a step: the changed ones and at most one new one.

  Every law of the queue in the modules above this one is derived from these.
-/
import RetroBridge.Jobs.System

namespace RetroBridge.Jobs

open Relational Transition

/-! ## 1. The moves -/

/-- **The moves of a worker**: the place it moves from, what it has found there, and the place it
    moves to. -/
inductive WorkerMoved (site : JobSite) (s : Sys) (w : Worker) : WorkerAct → WorkerPhase → Prop where
  | sweepRead {d : Device} (hw : s.worker w = .top) :
      WorkerMoved site s w .sweepRead (.sweep (orphans s.jobs d.id))
  | sweepCommit {oj : Job} {rest : List Job} (hw : s.worker w = .sweep (oj :: rest))
      (hl : s.writer = none) : WorkerMoved site s w .sweepCommit (.sweep rest)
  | recover {d : Device} (hw : s.worker w = .sweep []) (hl : s.writer = none) :
      WorkerMoved site s w .recover (.claim d.id (enabledPorts site.toSite d.id .jobQueue))
  | claimPort {deviceId : Nat} {port : DevicePort} {ports : List DevicePort} {row : Job}
      (hw : s.worker w = .claim deviceId (port :: ports)) (hrow : row ∈ s.jobs)
      (hl : s.writer = none) (hslot : hasSlot s.jobs port = true)
      (hnext : isNext s.jobs deviceId row = true) :
      WorkerMoved site s w (.claimPort row.id) (.claimed ⟨row.id, port.id, s.clock⟩)
  | claimSkip {deviceId : Nat} {port : DevicePort} {ports : List DevicePort}
      (hw : s.worker w = .claim deviceId (port :: ports)) :
      WorkerMoved site s w .claimSkip (.claim deviceId ports)
  | claimNone {deviceId : Nat} (hw : s.worker w = .claim deviceId []) :
      WorkerMoved site s w .claimNone .top
  | loadGone {c : Claim} (hw : s.worker w = .claimed c) : WorkerMoved site s w .load .top
  | load {c : Claim} {job : Job} {port : DevicePort} (hw : s.worker w = .claimed c)
      (hjob : job ∈ s.jobs) (hid : job.id = c.jobId) (hport : job.portId = some port.id) :
      WorkerMoved site s w .load (.execute c job port ⟨job, .entry⟩)
  | loadNoPort {c : Claim} {job : Job} (hw : s.worker w = .claimed c) (hjob : job ∈ s.jobs)
      (hid : job.id = c.jobId) :
      WorkerMoved site s w .load
        (.noPort c job ((Outcome.failed "No port assigned").record s.clock job))
  | run {ev : RunEvent} {c : Claim} {loaded : Job} {port : DevicePort} {rs rs' : RunState}
      (hw : s.worker w = .execute c loaded port rs)
      (hrun : runStep site port s.clock (s.jobs.get? loaded.id) rs ev = some rs') :
      WorkerMoved site s w (.run ev) (.execute c loaded port rs')
  | heartbeat {stored : Bool} {c : Claim} {loaded : Job} {port : DevicePort} {rs rs' : RunState}
      (hw : s.worker w = .execute c loaded port rs) (hl : stored = true → s.writer = none)
      (hbeat : afterBeat rs = some rs') :
      WorkerMoved site s w (.heartbeat stored) (.execute c loaded port rs')
  | finish (hl : s.writer = none) : WorkerMoved site s w .finish .top
  | abandon : WorkerMoved site s w .abandon .top

/-- **Every move of a worker is one of these.** -/
theorem workerMove_moved {site : JobSite} {s : Sys} {w : Worker} {a : WorkerAct} {ph : WorkerPhase}
    (h : workerMove site s w a = some ph) : WorkerMoved site s w a ph := by
  cases a <;> simp only [workerMove] at h
  case sweepRead =>
    split at h <;> cases h
    rename_i e _
    exact .sweepRead e
  case sweepCommit =>
    split at h
    · rename_i e
      split at h <;> cases h
      rename_i hl
      exact .sweepCommit e hl
    · cases h
  case recover =>
    split at h
    · rename_i e _
      split at h <;> cases h
      rename_i hl
      exact .recover e hl
    · cases h
  case claimPort k =>
    split at h
    · rename_i e hrow
      split at h <;> cases h
      rename_i hc
      obtain ⟨hm, rfl⟩ := Table.get?_eq_some.mp hrow
      exact .claimPort e hm hc.1 hc.2.1 hc.2.2
    · cases h
  case claimSkip =>
    split at h
    · rename_i e
      split at h <;> cases h
      exact .claimSkip e
    · cases h
  case claimNone =>
    split at h <;> cases h
    rename_i e
    exact .claimNone e
  case load =>
    split at h
    · rename_i e
      split at h
      · cases h
        exact .loadGone e
      · rename_i job hj
        obtain ⟨hm, hid⟩ := Table.get?_eq_some.mp hj
        split at h <;> cases h
        · rename_i port hport
          obtain ⟨p, hp, hpp⟩ := Option.bind_eq_some_iff.mp hport
          have hpid : port.id = p := (Table.get?_eq_some.mp hpp).2
          exact .load e hm hid (hpid ▸ hp)
        · exact .loadNoPort e hm hid
    · cases h
  case run ev =>
    split at h
    · rename_i e
      obtain ⟨rs', hrun, rfl⟩ := Option.map_eq_some_iff.mp h
      exact .run e hrun
    · cases h
  case heartbeat stored =>
    split at h
    · rename_i e
      split at h
      · cases h
      · rename_i hl
        obtain ⟨rs', hbeat, rfl⟩ := Option.map_eq_some_iff.mp h
        exact .heartbeat e (fun hs => not_not.mp fun hn => hl ⟨hs, hn⟩) hbeat
    · cases h
  case finish =>
    split at h
    · split at h <;> cases h
      rename_i hl
      exact .finish hl
    · cases h
  case abandon =>
    cases h
    exact .abandon

/-- **The moves of a request**, each with the holder of the write lock after it. -/
inductive RequestMoved (site : Site) (s : Sys) (r : Nat) :
    RequestAct → RequestPhase × Option Nat → Prop where
  | cancelRead {k userId : Nat} {isAdmin : Bool} (hr : s.request r = .idle) :
      RequestMoved site s r (.cancelRead k userId isAdmin)
        (.cancel (addDirty (s.jobs.get? k) (cancelJob (s.jobs.get? k) userId isAdmin).1 []),
          s.writer)
  | bulkRead {k : Nat} (hr : s.request r = .idle) :
      RequestMoved site s r (.bulkRead k)
        (.cancel (addDirty (s.jobs.get? k) (bulkCancelOne (s.jobs.get? k)) []), s.writer)
  | bulkReadMore {k : Nat} {dirty : Dirty} (hr : s.request r = .cancel dirty) :
      RequestMoved site s r (.bulkRead k)
        (.cancel (addDirty (s.jobs.get? k) (bulkCancelOne (s.jobs.get? k)) dirty), s.writer)
  | bulkReadAgain {k : Nat} {dirty : Dirty} (hr : s.request r = .cancel dirty) :
      RequestMoved site s r (.bulkRead k) (.cancel dirty, s.writer)
  | cancelCommit {dirty : Dirty} (hr : s.request r = .cancel dirty) (hl : s.writer = none) :
      RequestMoved site s r .cancelCommit (.idle, none)
  | createBegin {sub : Submission} (hr : s.request r = .idle) (hl : s.writer = none) :
      RequestMoved site s r (.createBegin sub) (.begun sub, some r)
  | createCheck {sub : Submission} {user : User} (hr : s.request r = .begun sub)
      (hu : site.users.get? sub.userId = some user)
      (hquota : (getUserQuota site s.jobs user).2.2 = false)
      (hrate : (checkRateLimit site s.clock s.jobs sub.userId).1 = false) :
      RequestMoved site s r .createCheck (.checked sub, s.writer)
  | createFlush {sub : Submission} {storedFilename : String} {size : Nat}
      (hr : s.request r = .checked sub) :
      RequestMoved site s r (.createFlush storedFilename size)
        (.flushed (newJob sub s.clock s.jobs.nextKey storedFilename size), s.writer)
  | createCommit {job : Job} (hr : s.request r = .flushed job) :
      RequestMoved site s r .createCommit (.idle, none)
  | createAbort (hr : (s.request r).creating = true) :
      RequestMoved site s r .createAbort (.idle, none)

/-- **Every move of a request is one of these.** -/
theorem requestMove_moved {site : Site} {s : Sys} {r : Nat} {a : RequestAct}
    {ph : RequestPhase × Option Nat} (h : requestMove site s r a = some ph) :
    RequestMoved site s r a ph := by
  cases a <;> simp only [requestMove] at h
  case cancelRead k u adm =>
    split at h <;> cases h
    rename_i e
    exact .cancelRead e
  case bulkRead k =>
    split at h
    · rename_i e
      cases h
      exact .bulkRead e
    · rename_i e
      split at h <;> cases h
      · exact .bulkReadAgain e
      · exact .bulkReadMore e
    · cases h
  case cancelCommit =>
    split at h
    · rename_i e
      split at h <;> cases h
      rename_i hl
      exact .cancelCommit e hl
    · cases h
  case createBegin sub =>
    split at h
    · rename_i e _
      split at h <;> cases h
      rename_i hc
      exact .createBegin e hc.2
    · cases h
  case createCheck =>
    split at h
    · rename_i e
      split at h
      · rename_i hu
        split at h <;> cases h
        rename_i hc
        exact .createCheck e hu hc.1 hc.2
      · cases h
    · cases h
  case createFlush f n =>
    split at h <;> cases h
    rename_i e
    exact .createFlush e
  case createCommit =>
    split at h <;> cases h
    rename_i e
    exact .createCommit e
  case createAbort =>
    split at h <;> cases h
    rename_i hr
    exact .createAbort hr

/-! ## 2. What every phase remembers -/

def WorkerOk (site : JobSite) : WorkerPhase → Prop
  | .top => True
  | .sweep os => ∀ o ∈ os, o.status = .queued ∧ o.cancelRequested = true
  | .claim deviceId ports => ∀ p ∈ ports, p ∈ enabledPorts site.toSite deviceId .jobQueue
  | .claimed _ => True
  | .noPort c loaded obj => loaded.id = c.jobId ∧ Recorded loaded obj
  | .execute c loaded _ rs => loaded.id = c.jobId ∧ RunOk loaded rs

/-- An object a cancel has changed: the row it read, unfinished and with no cancellation asked
    for, and that row with the cancel on it. -/
def DirtyOk (it : Job × Job) : Prop :=
  it.2 = withCancel it.1 ∧ it.1.cancelRequested = false ∧ it.1.status.finished = false

def RequestOk : RequestPhase → Prop
  | .cancel dirty => ∀ it ∈ dirty, DirtyOk it
  | .flushed job => ∃ sub now id f n, job = newJob sub now id f n
  | _ => True

/-- **What the system remembers**: of each phase its own facts, and that the request inside
    `create_job` holds the write lock. -/
structure Ok (site : JobSite) (s : Sys) : Prop where
  worker : ∀ w, WorkerOk site (s.worker w)
  request : ∀ r, RequestOk (s.request r)
  lock : ∀ r, (s.request r).creating = true → s.writer = some r

/-- What a worker remembers whatever the site. -/
def WorkerPhase.Remembers : WorkerPhase → Prop
  | .sweep os => ∀ o ∈ os, o.status = .queued ∧ o.cancelRequested = true
  | .noPort c loaded obj => loaded.id = c.jobId ∧ Recorded loaded obj
  | .execute c loaded _ rs => loaded.id = c.jobId ∧ RunOk loaded rs
  | .top | .claim _ _ | .claimed _ => True

/-- **What the system remembers whatever the site.** -/
structure Recalls (s : Sys) : Prop where
  worker : ∀ w, (s.worker w).Remembers
  request : ∀ r, RequestOk (s.request r)
  lock : ∀ r, (s.request r).creating = true → s.writer = some r

theorem WorkerOk.remembers {site : JobSite} {ph : WorkerPhase} (h : WorkerOk site ph) :
    ph.Remembers := by
  cases ph <;> first | exact h | trivial

theorem Ok.recalls {site : JobSite} {s : Sys} (h : Ok site s) : Recalls s :=
  ⟨fun w => (h.worker w).remembers, h.request, h.lock⟩

theorem recalls_started {s : Sys} (h : s.Started) : Recalls s where
  worker w := by rw [h.worker w]; trivial
  request r := by rw [h.request r]; trivial
  lock r hr := by rw [h.request r] at hr; cases hr

theorem ok_started {site : JobSite} {s : Sys} (h : s.Started) : Ok site s where
  worker w := by rw [h.worker w]; trivial
  request r := by rw [h.request r]; trivial
  lock r hr := by rw [h.request r] at hr; cases hr

section OkStep

variable {site : JobSite} {s s' : Sys}

theorem Ok.at (hO : Ok site s) (now : Time) : Ok site (s.at now) := ⟨hO.worker, hO.request, hO.lock⟩

theorem Recalls.at (hR : Recalls s) (now : Time) : Recalls (s.at now) :=
  ⟨hR.worker, hR.request, hR.lock⟩

theorem workerMove_remembers {w : Worker} {a : WorkerAct} {ph : WorkerPhase}
    (hw : (s.worker w).Remembers) (h : workerMove site s w a = some ph) : ph.Remembers := by
  cases workerMove_moved h with
  | sweepRead _ => exact fun o ho => (mem_orphans.mp ho).2.2
  | sweepCommit e _ =>
      rw [e] at hw
      exact fun o ho => hw o (List.mem_cons_of_mem _ ho)
  | load _ _ hid _ => exact ⟨hid, runOk_entry _⟩
  | @loadNoPort _ job _ _ hid => exact ⟨hid, job.outputPath, s.clock, _, rfl⟩
  | run e hrun =>
      rw [e] at hw
      exact ⟨hw.1, runStep_ok hw.2 hrun⟩
  | heartbeat e _ hbeat =>
      rw [e] at hw
      exact ⟨hw.1, afterBeat_ok hw.2 hbeat⟩
  | recover | claimSkip | claimPort | claimNone | loadGone | finish | abandon => trivial

theorem workerMove_ok (hO : Ok site s) {w : Worker} {a : WorkerAct} {ph : WorkerPhase}
    (h : workerMove site s w a = some ph) : WorkerOk site ph := by
  have hw := hO.worker w
  have hrem := workerMove_remembers hw.remembers h
  cases ph with
  | claim deviceId ports =>
      cases workerMove_moved h with
      | recover _ _ => exact fun p hp => hp
      | claimSkip e =>
          rw [e] at hw
          exact fun p hp => hw p (List.mem_cons_of_mem _ hp)
  | top | claimed => trivial
  | sweep | noPort | execute => exact hrem

/-- What a cancel adds to the changed objects. -/
theorem addDirty_ok {row obj : Option Job} {dirty : Dirty} (hd : ∀ it ∈ dirty, DirtyOk it)
    (h : ∀ o, obj = some o → ∃ j, row = some j ∧ o = withCancel j ∧ j.cancelRequested = false ∧
      j.status.finished = false) : ∀ it ∈ addDirty row obj dirty, DirtyOk it := by
  intro it hit
  unfold addDirty at hit
  split at hit
  · rename_i j o
    rcases List.mem_append.mp hit with hit | hit
    · exact hd it hit
    · obtain ⟨j', e, ho, hc, hf⟩ := h o rfl
      cases e
      rw [List.mem_singleton.mp hit]
      exact ⟨ho, hc, hf⟩
  · exact hd it hit

theorem requestMove_ok {r : Nat} {a : RequestAct} {ph : RequestPhase × Option Nat}
    (hr : RequestOk (s.request r)) (h : requestMove site.toSite s r a = some ph) :
    RequestOk ph.1 := by
  have none_ok : ∀ it ∈ ([] : Dirty), DirtyOk it := fun it hit => absurd hit List.not_mem_nil
  have bulk : ∀ k, ∀ o, bulkCancelOne (s.jobs.get? k) = some o → ∃ j, s.jobs.get? k = some j ∧
      o = withCancel j ∧ j.cancelRequested = false ∧ j.status.finished = false := by
    intro k o ho
    rw [bulkCancelOne_eq _ 0] at ho
    exact cancelJob_some ho
  cases requestMove_moved h with
  | cancelRead _ => exact addDirty_ok none_ok fun o ho => cancelJob_some ho
  | @bulkRead k _ => exact addDirty_ok none_ok (bulk k)
  | @bulkReadMore k dirty e =>
      rw [e] at hr
      exact addDirty_ok hr (bulk k)
  | bulkReadAgain e =>
      rw [e] at hr
      exact hr
  | createFlush _ => exact ⟨_, _, _, _, _, rfl⟩
  | cancelCommit | createBegin | createCheck | createCommit | createAbort => trivial

/-- **How a request moves the write lock**: an idle or canceling request leaves it, or takes it
    free; a creating one has it and keeps it or gives it back. -/
theorem requestMove_lock {r : Nat} {a : RequestAct} {ph : RequestPhase × Option Nat}
    (h : requestMove site.toSite s r a = some ph) :
    ((s.request r).creating = false ∧ ph.1.creating = false ∧ ph.2 = s.writer) ∨
    ((s.request r).creating = false ∧ ph.1.creating = true ∧ s.writer = none ∧ ph.2 = some r) ∨
    ((s.request r).creating = true ∧ ph.1.creating = true ∧ ph.2 = s.writer) ∨
    ((s.request r).creating = true ∧ ph.1.creating = false ∧ ph.2 = none) := by
  cases requestMove_moved h with
  | cancelRead e => exact Or.inl ⟨by rw [e]; rfl, rfl, rfl⟩
  | bulkRead e => exact Or.inl ⟨by rw [e]; rfl, rfl, rfl⟩
  | bulkReadMore e => exact Or.inl ⟨by rw [e]; rfl, rfl, rfl⟩
  | bulkReadAgain e => exact Or.inl ⟨by rw [e]; rfl, rfl, rfl⟩
  | cancelCommit e hl => exact Or.inl ⟨by rw [e]; rfl, rfl, hl.symm⟩
  | createBegin e hl => exact Or.inr (Or.inl ⟨by rw [e]; rfl, rfl, hl, rfl⟩)
  | createCheck e _ _ _ => exact Or.inr (Or.inr (Or.inl ⟨by rw [e]; rfl, rfl, rfl⟩))
  | createFlush e => exact Or.inr (Or.inr (Or.inl ⟨by rw [e]; rfl, rfl, rfl⟩))
  | createCommit e => exact Or.inr (Or.inr (Or.inr ⟨by rw [e]; rfl, rfl, rfl⟩))
  | createAbort hc => exact Or.inr (Or.inr (Or.inr ⟨hc, rfl, rfl⟩))

/-- **`Recalls` holds along every run**, of whatever sites. -/
theorem step_recalls {l : Label} (hR : Recalls s) (h : Step site s l s') : Recalls s' := by
  obtain ⟨_, he⟩ := h.effect
  have hR' := hR.at l.1
  obtain ⟨now, a⟩ := l
  cases a with
  | worker w a =>
      obtain ⟨ph, hph, rfl⟩ := effect_worker he
      refine ⟨fun v => ?_, hR.request, hR.lock⟩
      by_cases hv : v = w
      · subst hv
        show (((s.at now).setWorker v ph).worker v).Remembers
        rw [Sys.setWorker_self]
        exact workerMove_remembers (hR'.worker v) hph
      · show (((s.at now).setWorker w ph).worker v).Remembers
        rw [Sys.setWorker_other _ _ hv]
        exact hR.worker v
  | request r a =>
      obtain ⟨ph, hph, rfl⟩ := effect_request he
      refine ⟨hR.worker, fun q => ?_, fun q hq => ?_⟩
      · by_cases hqr : q = r
        · subst hqr
          show RequestOk (((s.at now).setRequest q ph.1).request q)
          rw [Sys.setRequest_self]
          exact requestMove_ok (hR'.request q) hph
        · show RequestOk (((s.at now).setRequest r ph.1).request q)
          rw [Sys.setRequest_other _ _ hqr]
          exact hR.request q
      · show ph.2 = some q
        have hl := requestMove_lock hph
        by_cases hqr : q = r
        · subst hqr
          have hq' : ph.1.creating = true := by
            have e : ((s.at now).setRequest q ph.1).request q = ph.1 := Sys.setRequest_self ..
            rwa [← e]
          rcases hl with ⟨_, hf, _⟩ | ⟨_, _, _, e⟩ | ⟨hc, _, e⟩ | ⟨_, hf, _⟩
          · rw [hq'] at hf; cases hf
          · exact e
          · rw [e]; exact hR.lock q hc
          · rw [hq'] at hf; cases hf
        · have hq' : (s.request q).creating = true := by
            have e : ((s.at now).setRequest r ph.1).request q = s.request q :=
              Sys.setRequest_other _ _ hqr
            rwa [← e]
          have hwq := hR.lock q hq'
          -- another request holds the lock: `r` neither takes it nor gives it back
          rcases hl with ⟨_, _, e⟩ | ⟨_, _, hn, _⟩ | ⟨_, _, e⟩ | ⟨hc, _, _⟩
          · rw [e]; exact hwq
          · have hn' : s.writer = none := hn
            rw [hwq] at hn'; cases hn'
          · rw [e]; exact hwq
          · have hwr := hR.lock r hc
            rw [hwq] at hwr
            cases hwr
            exact absurd rfl hqr

/-- **`Ok` holds along every run.** -/
theorem step_ok {l : Label} (hO : Ok site s) (h : Step site s l s') : Ok site s' := by
  have hR := step_recalls hO.recalls h
  refine ⟨fun v => ?_, hR.request, hR.lock⟩
  rcases h.worker_cases v with ⟨e, -⟩ | ⟨a, -, hmove⟩
  · rw [e]
    exact hO.worker v
  · exact workerMove_ok (hO.at l.1) hmove

end OkStep

/-! ## 3. Every rewrite of a row, classified -/

/-- **What an act can make of a row**, with the place of the process that writes it. -/
inductive RowChange (site : JobSite) (s : Sys) (row : Job) : Act → Job → Prop where
  | same {a : Act} : RowChange site s row a row
  | swept {w : Worker} {oj : Job} {rest : List Job} (hw : s.worker w = .sweep (oj :: rest))
      (hid : oj.id = row.id) (hq : oj.status = .queued) (hc : oj.cancelRequested = true) :
      RowChange site s row (.worker w .sweepCommit) { row with status := .canceled }
  | recoveredCanceled {w : Worker} {d : Device}
      (hd : enabledDevice? site.toSite w.deviceName = some d)
      (hs : stale s.clock d.id row = true) (hc : row.cancelRequested = true) :
      RowChange site s row (.worker w .recover) (canceledByRecovery row)
  | recoveredQueued {w : Worker} {d : Device}
      (hd : enabledDevice? site.toSite w.deviceName = some d)
      (hs : stale s.clock d.id row = true) (hn : cancelsStale s.clock d.id s.jobs = false) :
      RowChange site s row (.worker w .recover) (requeued row)
  | claim {w : Worker} {deviceId : Nat} {port : DevicePort} {ports : List DevicePort}
      (hw : s.worker w = .claim deviceId (port :: ports)) (hslot : hasSlot s.jobs port = true)
      (hq : candidate deviceId row = true) :
      RowChange site s row (.worker w (.claimPort row.id)) (claimed s.clock w port row)
  | beat {w : Worker} {c : Claim} {loaded : Job} {port : DevicePort} {rs : RunState}
      (hw : s.worker w = .execute c loaded port rs) (hid : c.jobId = row.id) :
      RowChange site s row (.worker w (.heartbeat true)) (beat s.clock row)
  | final {w : Worker} {c : Claim} {loaded obj : Job} (hw : (s.worker w).claim? = some c)
      (hf : (s.worker w).commits? = some (loaded, obj)) (hid : c.jobId = row.id)
      (hr : Returned loaded obj) :
      RowChange site s row (.worker w .finish) (ormFlush loaded obj row)
  | cancel {r : Nat} {dirty : Dirty} {loaded : Job} (hr : s.request r = .cancel dirty)
      (hm : (loaded, withCancel loaded) ∈ dirty) (hid : loaded.id = row.id)
      (hc : loaded.cancelRequested = false) (hf : loaded.status.finished = false) :
      RowChange site s row (.request r .cancelCommit) (ormFlush loaded (withCancel loaded) row)

/-- **What a claim has found**: a port with a slot and the next job, under a free write lock. -/
theorem claimPort_enabled {site : JobSite} {s : Sys} {w : Worker} {k : Nat} {ph : WorkerPhase}
    (h : workerMove site s w (.claimPort k) = some ph) :
    ∃ deviceId port ports row, s.worker w = .claim deviceId (port :: ports) ∧ row ∈ s.jobs ∧
      row.id = k ∧ s.writer = none ∧ hasSlot s.jobs port = true ∧
      isNext s.jobs deviceId row = true ∧ ph = .claimed ⟨k, port.id, s.clock⟩ := by
  cases workerMove_moved h with
  | @claimPort deviceId port ports row e hrow hl hslot hnext =>
      exact ⟨deviceId, port, ports, row, e, hrow, rfl, hl, hslot, hnext, rfl⟩

/-- **What becomes of a worker's claim in its own step**: it keeps it, or has just made it. -/
theorem workerMove_claim {site : JobSite} {s : Sys} {w : Worker} {a : WorkerAct} {ph : WorkerPhase}
    (h : workerMove site s w a = some ph) {c : Claim} (hc : ph.claim? = some c) :
    ((s.worker w).claim? = some c ∧ a ≠ .finish) ∨ a = .claimPort c.jobId := by
  cases workerMove_moved h with
  | claimPort => cases hc; exact Or.inr rfl
  | load e _ _ _ => cases hc; exact Or.inl ⟨by rw [e]; rfl, by simp⟩
  | loadNoPort e _ _ => cases hc; exact Or.inl ⟨by rw [e]; rfl, by simp⟩
  | run e _ => cases hc; exact Or.inl ⟨by rw [e]; rfl, by simp⟩
  | heartbeat e _ _ => cases hc; exact Or.inl ⟨by rw [e]; rfl, by simp⟩
  | sweepRead | sweepCommit | recover | claimSkip | claimNone | loadGone | finish | abandon =>
      cases hc

/-- What a worker has read to sweep: part of what it had, or the orphans there are. -/
theorem workerMove_sweep {site : JobSite} {s : Sys} {w : Worker} {a : WorkerAct} {os : List Job}
    (h : workerMove site s w a = some (.sweep os)) :
    (∃ os', s.worker w = .sweep os' ∧ ∀ o ∈ os, o ∈ os') ∨ ∃ d, os = orphans s.jobs d := by
  cases workerMove_moved h with
  | sweepRead _ => exact Or.inr ⟨_, rfl⟩
  | sweepCommit e _ => exact Or.inl ⟨_, e, fun o ho => List.mem_cons_of_mem _ ho⟩

/-- A worker about to commit holds a claim, the row it loaded for it, and what became of it. -/
theorem commits_ok {ph : WorkerPhase} (h : ph.Remembers) {loaded obj : Job}
    (hc : ph.commits? = some (loaded, obj)) :
    ∃ c, ph.claim? = some c ∧ loaded.id = c.jobId ∧ Returned loaded obj := by
  cases ph with
  | noPort c l o =>
      cases hc
      exact ⟨c, rfl, h.1, Or.inl h.2⟩
  | execute c l port rs =>
      obtain ⟨o, phase⟩ := rs
      cases phase <;> simp only [WorkerPhase.commits?, reduceCtorEq] at hc
      cases hc
      exact ⟨c, rfl, h.1, h.2⟩
  | top => cases hc
  | sweep os => cases hc
  | claim d ps => cases hc
  | claimed c => cases hc

section RowChange

variable {site : JobSite} {s s' : Sys}

theorem workerWrite_change (hR : Recalls s) {w : Worker} {a : WorkerAct} {ph : WorkerPhase}
    (h : workerMove site s w a = some ph) {row : Job} (hrow : row ∈ s.jobs) :
    RowChange site s row (.worker w a) (workerWrite site s w a row) := by
  have hw := hR.worker w
  cases a <;> simp only [workerWrite]
  case sweepCommit =>
    split
    · rename_i oj rest e
      rw [e] at hw
      obtain ⟨hq, hc⟩ := hw oj List.mem_cons_self
      by_cases hid : row.id = oj.id
      · rw [sweepRow, Table.atKey_self hid, ormFlush_sweep hq]
        exact .swept e hid.symm hq hc
      · rw [sweepRow, Table.atKey_other hid]
        exact .same
    · exact .same
  case recover =>
    split
    · rename_i d hd
      rcases recoverRow_cases s.clock d.id (cancelsStale s.clock d.id s.jobs) row with
        e | ⟨hs, hc, _, e⟩ | ⟨hs, hn, e⟩
      · rw [e]; exact .same
      · rw [e]; exact .recoveredCanceled hd hs hc
      · rw [e]; exact .recoveredQueued hd hs hn
    · exact .same
  case claimPort k =>
    obtain ⟨d, port, ports, j, e, hjm, hjk, _, hslot, hnext, _⟩ := claimPort_enabled h
    rw [e]
    show RowChange site s row (.worker w (.claimPort k)) (claimRow s.clock w port k row)
    by_cases hid : row.id = k
    · cases Table.eq_of_key hrow hjm (hid.trans hjk.symm)
      rw [claimRow, Table.atKey_self hid, ← hid]
      exact .claim e hslot (candidate_of_isNext hnext)
    · rw [claimRow, Table.atKey_other hid]
      exact .same
  case heartbeat stored =>
    cases stored with
    | false => exact .same
    | true =>
        dsimp only
        split
        · rename_i c loaded port rs e
          rw [e] at hw
          by_cases hid : row.id = loaded.id
          · rw [beatRow, Table.atKey_self hid]
            exact .beat e (hw.1.symm.trans hid.symm)
          · rw [beatRow, Table.atKey_other hid]
            exact .same
        · exact .same
  case finish =>
    split
    · rename_i loaded obj e
      obtain ⟨c, hc, hl, hr⟩ := commits_ok hw e
      by_cases hid : row.id = loaded.id
      · rw [Table.atKey_self hid]
        exact .final hc e (hl.symm.trans hid.symm) hr
      · rw [Table.atKey_other hid]
        exact .same
    · exact .same
  all_goals exact .same

theorem requestWrite_change (hR : Recalls s) {r : Nat} {a : RequestAct} {row : Job} :
    RowChange site s row (.request r a) (requestWrite s r a row) := by
  have hr := hR.request r
  cases a <;> simp only [requestWrite]
  case cancelCommit =>
    split
    · rename_i dirty e
      rw [e] at hr
      rcases cancelRow_cases dirty row with h | ⟨⟨loaded, obj⟩, hit, hid, h⟩
      · rw [h]; exact .same
      · obtain ⟨ho, hc, hf⟩ := hr _ hit
        obtain rfl : obj = withCancel loaded := ho
        rw [h]
        exact .cancel e hit hid hc hf
    · exact .same
  all_goals exact .same

/-- **What a step does to a row that is there.** -/
theorem effect_change (hR : Recalls s) {a : Act} (h : effect site s a = some s') {row : Job}
    (hr : row ∈ s.jobs) : RowChange site s row a (rowWrite site s a row) := by
  cases a with
  | worker w a =>
      obtain ⟨ph, hph, _⟩ := effect_worker h
      exact workerWrite_change hR hph hr
  | request r a => exact requestWrite_change hR

/-- **The rows after a step**: a change of a row there was, or the one row a commit of
    `create_job` adds. -/
theorem effect_rows (hR : Recalls s) {a : Act} (h : effect site s a = some s') {row' : Job}
    (hr : row' ∈ s'.jobs) :
    (∃ row ∈ s.jobs, row'.id = row.id ∧ RowChange site s row a row') ∨
      ∃ r sub t k f n, a = .request r .createCommit ∧ row' = newJob sub t k f n := by
  rcases effect_mem h hr with ⟨row, hrow, rfl⟩ | ⟨r, ha, hfl⟩
  · exact Or.inl ⟨row, hrow, rowWrite_id site s a row, effect_change hR h hrow⟩
  · have hq := hR.request r
    rw [hfl] at hq
    obtain ⟨sub, t, k, f, n, e⟩ := hq
    exact Or.inr ⟨r, sub, t, k, f, n, ha, e⟩

/-- What becomes of a row in a step. -/
theorem effect_next (hR : Recalls s) {a : Act} (h : effect site s a = some s') {row : Job}
    (hr : row ∈ s.jobs) : ∃ row' ∈ s'.jobs, row'.id = row.id ∧ RowChange site s row a row' :=
  ⟨_, effect_mem_of h hr, rowWrite_id site s a row, effect_change hR h hr⟩

end RowChange

/-! ## 3. What no change touches -/

section Kept

variable {site : JobSite} {s : Sys} {a : Act} {row row' : Job}

/-- The status that a returned run leaves in its object: finished, or the one it loaded. -/
theorem Returned.status {loaded obj : Job} (h : Returned loaded obj) :
    obj.status = loaded.status ∨ obj.status.finished = true := by
  rcases h with ⟨path, t, o, rfl⟩ | ⟨_, path, rfl⟩
  · exact Or.inr (by rw [Outcome.record_status]; exact o.status_finished)
  · exact Or.inl rfl

theorem Returned.cancelRequested {loaded obj : Job} (h : Returned loaded obj) :
    obj.cancelRequested = loaded.cancelRequested := by
  rcases h with ⟨path, t, o, rfl⟩ | ⟨_, path, rfl⟩
  · rw [Outcome.record_cancelRequested]
  · rfl

/-- **The status after a final commit**: a finished one, or the row's own. -/
theorem Returned.flush_status {loaded obj : Job} (h : Returned loaded obj) (row : Job) :
    (ormFlush loaded obj row).status = row.status ∨
      (ormFlush loaded obj row).status.finished = true := by
  rw [ormFlush_status]
  rcases h.status with e | hf
  · exact Or.inl (flushCol_same e)
  · unfold flushCol
    split
    · exact Or.inl rfl
    · exact Or.inr hf

/-- A row keeps its owner, its device and its time of creation. -/
theorem RowChange.fixed (h : RowChange site s row a row') :
    row'.userId = row.userId ∧ row'.deviceId = row.deviceId ∧ row'.createdAt = row.createdAt := by
  cases h <;> exact ⟨rfl, rfl, rfl⟩

/-- A row keeps its upload's names. -/
theorem RowChange.file (h : RowChange site s row a row') :
    row'.storedFilename = row.storedFilename ∧ row'.originalFilename = row.originalFilename := by
  cases h <;> exact ⟨rfl, rfl⟩

/-- **No change makes a row running but a claim**, and none of a running row but a claim or a
    recovery touches its port. -/
theorem RowChange.running (h : RowChange site s row a row') (hr : row'.status = .running) :
    (row.status = .running ∧ row'.portId = row.portId) ∨
      ∃ w deviceId port ports, a = .worker w (.claimPort row.id) ∧
        s.worker w = .claim deviceId (port :: ports) ∧ hasSlot s.jobs port = true ∧
        candidate deviceId row = true ∧ row' = claimed s.clock w port row := by
  cases h with
  | same => exact Or.inl ⟨hr, rfl⟩
  | swept => cases hr
  | recoveredCanceled => cases hr
  | recoveredQueued => cases hr
  | claim hw hslot hq => exact Or.inr ⟨_, _, _, _, rfl, hw, hslot, hq, rfl⟩
  | beat => exact Or.inl ⟨hr, rfl⟩
  | final hw hf hid hret =>
      rcases hret.flush_status row with e | hfin
      · exact Or.inl ⟨e.symm.trans hr, rfl⟩
      · rw [hr] at hfin; cases hfin
  | cancel hreq hm hid hc hf =>
      rw [(ormFlush_withCancel hc).2.1] at hr
      split at hr
      · cases hr
      · exact Or.inl ⟨hr, rfl⟩

/-- **No change makes a finished row pending but a recovery's of a running one** -- a pending row
    after a change was pending before. -/
theorem RowChange.unfinished (h : RowChange site s row a row') (hu : row'.status.finished = false) :
    row.status.finished = false := by
  cases h with
  | same => exact hu
  | swept => cases hu
  | recoveredCanceled => cases hu
  | recoveredQueued hd hs =>
      rw [Job.running_of_leaseExpired (stale_iff.mp hs).2]
      rfl
  | claim hw hslot hq =>
      rw [(candidate_iff.mp hq).2.1]
      rfl
  | beat => exact hu
  | final hw hf hid hret =>
      rcases hret.flush_status row with e | hfin
      · rwa [e] at hu
      · rw [hfin] at hu; cases hu
  | cancel hreq hm hid hc hf =>
      rw [(ormFlush_withCancel hc).2.1] at hu
      split at hu
      · cases hu
      · exact hu

/-- **A cancellation that was asked for stays asked for.** -/
theorem RowChange.cancelRequested (h : RowChange site s row a row')
    (hc : row.cancelRequested = true) : row'.cancelRequested = true := by
  cases h with
  | same => exact hc
  | swept => exact hc
  | recoveredCanceled => exact hc
  | recoveredQueued => exact hc
  | claim => exact hc
  | beat => exact hc
  | final hw hf hid hret =>
      rw [ormFlush_cancelRequested, flushCol_same hret.cancelRequested]
      exact hc
  | cancel hreq hm hid hcl hf => exact (ormFlush_withCancel hcl).1

end Kept

/-! ## 4. Counting over a step -/

section Count

variable {site : JobSite} {s s' : Sys} {a : Act} {p : Job → Bool}

theorem count_writeRows_le (hR : Recalls s) (h : effect site s a = some s')
    (hch : ∀ row ∈ s.jobs, ∀ row', RowChange site s row a row' → p row' = true → p row = true) :
    (writeRows site s a).count p ≤ s.jobs.count p :=
  Table.count_mapRows_le fun row hrow => hch row hrow _ (effect_change hR h hrow)

/-- **A step whose changes make no row meet `p`, and whose new row does not, does not raise the
    count of `p`.** -/
theorem effect_count_le (hR : Recalls s) (h : effect site s a = some s')
    (hch : ∀ row ∈ s.jobs, ∀ row', RowChange site s row a row' → p row' = true → p row = true)
    (hnew : ∀ r job, a = .request r .createCommit → s.request r = .flushed job → p job = false) :
    s'.jobs.count p ≤ s.jobs.count p := by
  have hle := count_writeRows_le hR h hch
  cases a with
  | worker w a =>
      obtain ⟨ph, _, rfl⟩ := effect_worker h
      exact hle
  | request r a =>
      obtain ⟨ph, _, rfl⟩ := effect_request h
      show (writeJobs site s (.request r a)).count p ≤ _
      simp only [writeJobs]
      split
      · rename_i job hjob
        cases a <;> simp only [created?, reduceCtorEq] at hjob
        split at hjob
        · rename_i hfl
          cases hjob
          have hi := Table.count_insert_le (t := writeRows site s (.request r .createCommit))
            (r := job) (p := p)
          rw [if_neg (by rw [hnew r job rfl hfl]; exact Bool.false_ne_true)] at hi
          exact le_trans hi hle
        · cases hjob
      · exact hle

/-- A commit of `create_job` raises a count by at most one. -/
theorem effect_count_create {r : Nat} (h : effect site s (.request r .createCommit) = some s') :
    s'.jobs.count p ≤ s.jobs.count p + 1 := by
  obtain ⟨ph, _, rfl⟩ := effect_request h
  have hrows : writeRows site s (.request r .createCommit) = s.jobs :=
    writeRows_same fun _ _ => rfl
  show (writeJobs site s (.request r .createCommit)).count p ≤ _
  simp only [writeJobs, hrows]
  split
  · refine le_trans Table.count_insert_le ?_
    split <;> omega
  · omega

/-- **A claim raises a count by at most one**: it rewrites one row. -/
theorem effect_count_claim {w : Worker} {k : Nat}
    (h : effect site s (.worker w (.claimPort k)) = some s') :
    s'.jobs.count p ≤ s.jobs.count p + 1 := by
  obtain ⟨ph, _, rfl⟩ := effect_worker h
  show (writeRows site s (.worker w (.claimPort k))).count p ≤ _
  refine Table.count_mapRows_le_succ (k := k) fun row _ hk hp => ?_
  have e : rowWrite site s (.worker w (.claimPort k)) row = row := by
    simp only [rowWrite, workerWrite]
    split
    · exact Table.atKey_other hk
    · rfl
  rwa [e] at hp

end Count

end RetroBridge.Jobs
