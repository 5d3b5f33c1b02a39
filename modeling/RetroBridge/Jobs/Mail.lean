/-
  File:      RetroBridge/Jobs/Mail.lean
  Subject:   THE MAIL AT THE END OF A JOB (worker.py: `worker_loop` behind its final commit;
             retrobridge/integrations/email.py: `notify_job_completed`, `send_email`), with any
             number of workers and requests.

  * `notifyJobCompleted`, `mailOf` -- the message, and whether there is one;
  * `Office`, `Office.exec` -- the queue, the place of every worker behind its final commit, and
    the messages handed to the threads that deliver;
  * `engaged`, `mails_per_claim_run` -- **in every run a job is mailed at most as often as it was
    claimed**;
  * `statusText_finished` -- what a mail says of a finished row: a canceled job has "failed";
  * `Honest`, `mail_run` -- **in an undisturbed run a job is mailed at most once, to its owner, and
    its subject line stays the one that its row gives.**
-/
import RetroBridge.Jobs.LifeCycle
import RetroBridge.Jobs.Exits
import RetroBridge.Admin.Settings

namespace RetroBridge.Jobs.Mail

open Relational Transition Admin

/-! ## 1. The message -/

/-- What is read of the owner's account. -/
structure Addressee where
  email : String
  emailNotifyJobs : Bool

structure Message where
  toAddress : String
  subject : String
  body : String

/-- Two words for three ways to finish: all that is not completed has "failed". -/
def statusText (job : Job) : String := if job.status = .completed then "completed" else "failed"

/-- **What the word says of a finished row**: "completed" that it is, and "failed" that the job has
    failed or was canceled. -/
theorem statusText_finished {job : Job} (h : job.status.finished = true) :
    (statusText job = "completed" ↔ job.status = .completed) ∧
      (statusText job = "failed" ↔ job.status = .failed ∨ job.status = .canceled) := by
  unfold statusText
  cases hs : job.status with
  | queued => rw [hs] at h; cases h
  | running => rw [hs] at h; cases h
  | completed => simp
  | failed => simp
  | canceled => simp

/-- `status_text.title()`. -/
def statusTitle (job : Job) : String := if job.status = .completed then "Completed" else "Failed"

def statusEmoji (job : Job) : String := if job.status = .completed then "\u2705" else "\u274c"

/-- `job.device.display_name or job.device.name if job.device else 'N/A'`. -/
def deviceText (site : Site) (job : Job) : String :=
  match site.devices.get? job.deviceId with
  | some d => orText (d.displayName.getD "") d.name
  | none => "N/A"

/-- `f"{job.runtime_seconds} seconds" if job.runtime_seconds else "N/A"`. -/
def runtimeText (job : Job) : String :=
  match job.runtimeSeconds with
  | some r => if r = 0 then "N/A" else toString r ++ " seconds"
  | none => "N/A"

def subjectText (job : Job) : String :=
  "RetroBridge \u2014 Job #" ++ toString job.id ++ " " ++ statusText job ++ " (" ++
    job.originalFilename ++ ")"

/-- `utc` is `strftime('%Y-%m-%d %H:%M:%S UTC')`. -/
def bodyText (utc : Time → String) (site : Site) (job : Job) : String :=
  let error := match job.errorMessage with
    | some m => if job.status = .failed ∧ m ≠ "" then "\n  Error: " ++ m ++ "\n" else ""
    | none => ""
  "Your job has " ++ statusText job ++ ".\n\n" ++
    "  Program:   " ++ job.originalFilename ++ "\n" ++
    "  Device:    " ++ deviceText site job ++ "\n" ++
    "  Submitted: " ++ utc job.createdAt ++ "\n" ++
    "  Finished:  " ++ (job.finishedAt.elim "N/A" utc) ++ "\n" ++
    "  Runtime:   " ++ runtimeText job ++ "\n" ++
    "  Status:    " ++ statusEmoji job ++ " " ++ statusTitle job ++ "\n" ++ error ++
    "\n\u2014\nRetroBridge \u2014 Bridging modern web workflows to vintage hardware\n"

def notifyJobCompleted (utc : Time → String) (site : Site) (user : Addressee) (job : Job) :
    Message where
  toAddress := user.email
  subject := subjectText job
  body := bodyText utc site job

/-- **The message for a job**, none where the owner has not asked for one, and where `send_email`
    finds no host or its settings cannot be read. -/
def mailOf (utc : Time → String) (site : Site) (accounts : Nat → Option Addressee)
    (db : AdminSettings) (job : Job) : Option Message :=
  match accounts job.userId with
  | none => none
  | some user =>
    if user.emailNotifyJobs && job.status.finished then
      match loadSettingsFromDb db with
      | none => none
      | some settings =>
        if settings.smtpHost = "" then none else some (notifyJobCompleted utc site user job)
    else none

/-- The message names the job, and goes to its owner, who has asked for it. -/
theorem mailOf_some {utc : Time → String} {site : Site} {accounts : Nat → Option Addressee}
    {db : AdminSettings} {job : Job} {m : Message} (h : mailOf utc site accounts db job = some m) :
    job.status.finished = true ∧ m.subject = subjectText job ∧
      ∃ user, accounts job.userId = some user ∧ user.emailNotifyJobs = true ∧
        m.toAddress = user.email := by
  unfold mailOf at h
  split at h
  · cases h
  · rename_i user huser
    split at h
    · rename_i hask
      obtain ⟨hjobs, hfin⟩ := Bool.and_eq_true_iff.mp hask
      split at h
      · cases h
      · split at h
        · cases h
        · cases h
          exact ⟨hfin, rfl, user, huser, hjobs, rfl⟩
    · cases h

/-! ## 2. The workers behind their final commit -/

/-- Where a worker is behind the final commit of an execution: the committed object is expired, and
    read again when its id is logged. -/
inductive Turn where
  | loop
  | committed (jobId : Nat)
  | reloaded (job : Job)

/-- The job that is to be reported. -/
def Turn.about? : Turn → Option Nat
  | .loop => none
  | .committed k => some k
  | .reloaded job => some job.id

/-- **The queue and its mail**: `sent` has the id of the job beside each message. -/
structure Office where
  sys : Sys
  turn : Worker → Turn
  sent : List (Nat × Message)

def Office.setTurn (o : Office) (w : Worker) (t : Turn) : Office :=
  { o with turn := Function.update o.turn w t }

/-- Nothing is reported yet. -/
structure Office.Started (o : Office) : Prop where
  sys : o.sys.Started
  turn : ∀ w, o.turn w = .loop
  sent : o.sent = []

/-- A step of the queue, the re-read of a committed job, its message -- the accounts and the
    settings as they are read then -- and a crash or an exception behind the commit. -/
inductive MailAct where
  | queue (l : Label)
  | reload (w : Worker)
  | tell (w : Worker) (accounts : Nat → Option Addressee) (db : AdminSettings)
  | giveUp (w : Worker)

/-- The act is one of a worker that has a job to report. -/
def Office.reporting (o : Office) : Act → Bool
  | .worker w _ => (o.turn w).about?.isSome
  | .request _ _ => false

/-- The turns after a step of the queue: a job without a port is committed and not reported. -/
def Office.turnsAfter (o : Office) (a : Act) (v : Worker) : Turn :=
  match a, o.sys.worker v with
  | .worker w .finish, .execute _ loaded _ _ => if w = v then .committed loaded.id else o.turn v
  | _, _ => o.turn v

/-- The office after a step of the queue. -/
def Office.stepped (o : Office) (l : Label) (s : Sys) : Office :=
  { o with sys := s, turn := o.turnsAfter l.2 }

def Office.exec (utc : Time → String) (site : JobSite) (o : Office) : MailAct → Option Office
  | .queue l =>
    if o.reporting l.2 then none
    else (Jobs.exec site o.sys l).map (o.stepped l)
  | .reload w =>
    match o.turn w with
    | .committed k =>
      match o.sys.jobs.get? k with
      | some job => some (o.setTurn w (.reloaded job))
      | none => some (o.setTurn w .loop)
    | _ => none
  | .tell w accounts db =>
    match o.turn w with
    | .reloaded job =>
      some { o.setTurn w .loop with
        sent := o.sent ++ (mailOf utc site.toSite accounts db job).toList.map (job.id, ·) }
    | _ => none
  | .giveUp w => some (o.setTurn w .loop)

def MailStep (utc : Time → String) (site : JobSite) (o : Office) (a : MailAct) (o' : Office) :
    Prop := o.exec utc site a = some o'

section Steps

variable {utc : Time → String} {site : JobSite} {o o' : Office} {k : Nat} {w : Worker}

theorem setTurn_self (t : Turn) : (o.setTurn w t).turn w = t := Function.update_self ..

theorem setTurn_other {v : Worker} (t : Turn) (h : v ≠ w) : (o.setTurn w t).turn v = o.turn v :=
  Function.update_of_ne h ..

/-- **The steps of the office.** -/
inductive Moved (utc : Time → String) (site : JobSite) (o : Office) : MailAct → Office → Prop where
  | queue {l : Label} {s : Sys} (hfree : o.reporting l.2 = false) (hs : Step site o.sys l s) :
      Moved utc site o (.queue l) (o.stepped l s)
  | reload {w : Worker} {job : Job} (hw : o.turn w = .committed job.id) (hjob : job ∈ o.sys.jobs) :
      Moved utc site o (.reload w) (o.setTurn w (.reloaded job))
  | gone {w : Worker} {k : Nat} (hw : o.turn w = .committed k) :
      Moved utc site o (.reload w) (o.setTurn w .loop)
  | tell {w : Worker} {accounts : Nat → Option Addressee} {db : AdminSettings} {job : Job}
      (hw : o.turn w = .reloaded job) :
      Moved utc site o (.tell w accounts db) { o.setTurn w .loop with
        sent := o.sent ++ (mailOf utc site.toSite accounts db job).toList.map (job.id, ·) }
  | giveUp {w : Worker} : Moved utc site o (.giveUp w) (o.setTurn w .loop)

theorem MailStep.moved {a : MailAct} (h : MailStep utc site o a o') : Moved utc site o a o' := by
  cases a with
  | queue l =>
      simp only [MailStep, Office.exec] at h
      split at h
      · cases h
      · rename_i hfree
        obtain ⟨s, hs, rfl⟩ := Option.map_eq_some_iff.mp h
        exact .queue (Bool.eq_false_of_not_eq_true hfree) hs
  | reload w =>
      simp only [MailStep, Office.exec] at h
      split at h
      · rename_i k hw
        split at h
        · rename_i job hjob
          cases h
          obtain ⟨hmem, hid⟩ := Table.get?_eq_some.mp hjob
          subst hid
          exact .reload hw hmem
        · cases h
          exact .gone hw
      · cases h
  | tell w accounts db =>
      simp only [MailStep, Office.exec] at h
      split at h
      · rename_i job hw
        cases h
        exact .tell hw
      · cases h
  | giveUp w =>
      cases h
      exact .giveUp

/-- Where the turns are after a step of the queue. -/
theorem turnsAfter_cases (hR : Recalls o.sys) (a : Act) (v : Worker) :
    o.turnsAfter a v = o.turn v ∨ a = .worker v .finish ∧
      ∃ c loaded port rs, o.sys.worker v = .execute c loaded port rs ∧ loaded.id = c.jobId ∧
        o.turnsAfter a v = .committed c.jobId := by
  unfold Office.turnsAfter
  split
  · rename_i w c loaded port rs hv
    split
    · rename_i e
      subst e
      have hrem := hR.worker w
      rw [hv] at hrem
      exact Or.inr ⟨rfl, c, loaded, port, rs, hv, hrem.1, by rw [hrem.1]⟩
    · exact Or.inl rfl
  · exact Or.inl rfl

end Steps

/-! ### A small office -/

def smallOffice : Office := ⟨smallStart, fun _ => .loop, []⟩

theorem smallOffice_started : smallOffice.Started := ⟨smallStart_started, fun _ => rfl, rfl⟩

/-- The owner has asked for mail, and there is a host. -/
def smallTell (w : Worker) : MailAct :=
  .tell w (fun _ => some ⟨"alice@retrobridge.local", true⟩)
    (Ordered.Dict.empty.set "EMAIL_SMTP_HOST" "mail.retrobridge.local")

/-! ## 3. One claim, one message at most -/

/-- The worker has claimed job `k`, or has it to report. -/
def Office.engaged (o : Office) (k : Nat) (w : Worker) : Bool :=
  decide ((o.turn w).about? = some k ∨ (o.sys.worker w).claim?.map Claim.jobId = some k)

/-- The act claims job `k`. -/
def claimsJob (k : Nat) : MailAct → Bool
  | .queue (_, .worker _ (.claimPort k')) => k' == k
  | _ => false

/-- The messages about job `k`. -/
def Office.mails (o : Office) (k : Nat) : Nat := o.sent.countP (·.1 == k)

/-- A worker that has a job to report is at the top of its loop for the queue. -/
def Resting (o : Office) : Prop := ∀ w, (o.turn w).about?.isSome = true → o.sys.worker w = .top

/-- **The invariant**: the messages about a job and the workers that may still send one are no more
    than its claims. -/
structure Counted (k : Nat) (as : List MailAct) (o : Office) : Prop where
  recalls : Recalls o.sys
  resting : Resting o
  bound : ∀ ws : Finset Worker, o.mails k + (ws.filter (o.engaged k ·)).card ≤
    as.countP (claimsJob k)

section Counted

variable {utc : Time → String} {site : JobSite} {o o' : Office} {k : Nat} {w : Worker}

theorem engaged_iff : o.engaged k w = true ↔
    (o.turn w).about? = some k ∨ (o.sys.worker w).claim?.map Claim.jobId = some k :=
  decide_eq_true_iff

/-- **A step of the queue engages a worker by a claim only.** -/
theorem engaged_queue {l : Label} {s : Sys} (hR : Recalls o.sys) (hs : Step site o.sys l s)
    (h : (o.stepped l s).engaged k w = true) :
    o.engaged k w = true ∨ l.2 = .worker w (.claimPort k) := by
  rcases engaged_iff.mp h with hturn | hclaim
  · rcases turnsAfter_cases hR l.2 w with e | ⟨-, c, _, _, _, hw, -, e⟩
    · exact Or.inl (engaged_iff.mpr (Or.inl (e ▸ hturn)))
    · -- it was on the job before it committed
      have hk : some c.jobId = some k := by
        rw [← hturn]
        exact (congrArg Turn.about? e).symm
      refine Or.inl (engaged_iff.mpr (Or.inr ?_))
      rw [hw]
      exact hk
  · obtain ⟨c, hc, hck⟩ := Option.map_eq_some_iff.mp hclaim
    rcases step_claim hs hc with ⟨hold, -⟩ | ⟨_, _, _, row, hl, -, -, -, -, -, hnew⟩
    · exact Or.inl (engaged_iff.mpr (Or.inr (Option.map_eq_some_iff.mpr ⟨c, hold, hck⟩)))
    · have hclaimed : (s.worker w).claim? = some c := hc
      rw [hnew] at hclaimed
      cases hclaimed
      exact Or.inr (hck ▸ hl)

/-- A worker that reports rests, whatever the queue does. -/
theorem resting_queue {l : Label} {s : Sys} (hR : Recalls o.sys) (hrest : Resting o)
    (hfree : o.reporting l.2 = false) (hs : Step site o.sys l s) : Resting (o.stepped l s) := by
  intro v hv
  show s.worker v = .top
  rcases turnsAfter_cases hR l.2 v with e | ⟨hl, -⟩
  · have hv' : (o.turn v).about?.isSome = true := e ▸ hv
    rcases hs.worker_cases v with ⟨hsame, -⟩ | ⟨a, hl, -⟩
    · rw [hsame]
      exact hrest v hv'
    · rw [hl, Office.reporting, hv'] at hfree
      cases hfree
  · rcases hs.worker_cases v with ⟨-, hne⟩ | ⟨a, hl', hmove⟩
    · exact absurd hl (hne _)
    · cases hl.symm.trans hl'
      generalize s.worker v = ph at hmove
      cases workerMove_moved hmove
      rfl

theorem resting_setTurn {t : Turn} (hrest : Resting o)
    (h : t.about?.isSome = true → o.sys.worker w = .top) : Resting (o.setTurn w t) := by
  intro v hv
  by_cases e : v = w
  · subst e
    rw [setTurn_self] at hv
    exact h hv
  · rw [setTurn_other t e] at hv
    exact hrest v hv

/-- A worker that turns away from its report is on no job. -/
theorem not_engaged_loop (hrest : o.sys.worker w = .top) :
    (o.setTurn w .loop).engaged k w = false := by
  refine Bool.eq_false_iff.mpr fun h => ?_
  rcases engaged_iff.mp h with hturn | hclaim
  · rw [setTurn_self] at hturn
    cases hturn
  · have htop : (o.setTurn w .loop).sys.worker w = .top := hrest
    rw [htop] at hclaim
    cases hclaim

/-- The others are on the jobs they were on. -/
theorem engaged_setTurn {v : Worker} (t : Turn) (hv : v ≠ w) :
    (o.setTurn w t).engaged k v = o.engaged k v := by
  unfold Office.engaged
  rw [setTurn_other t hv]
  rfl

/-- A report taken up or laid down: fewer workers are on the job. -/
theorem card_engaged_setTurn {t : Turn} (ws : Finset Worker)
    (h : (o.setTurn w t).engaged k w = true → o.engaged k w = true) :
    (ws.filter ((o.setTurn w t).engaged k ·)).card ≤ (ws.filter (o.engaged k ·)).card := by
  refine Finset.card_le_card (Finset.monotone_filter_right ws fun v _ hv => ?_)
  by_cases e : v = w
  · subst e
    exact h hv
  · rwa [← engaged_setTurn t e]

theorem counted_setTurn {t : Turn} {as : List MailAct} {a : MailAct} (hC : Counted k as o)
    (hrest : t.about?.isSome = true → o.sys.worker w = .top)
    (h : (o.setTurn w t).engaged k w = true → o.engaged k w = true) :
    Counted k (as ++ [a]) (o.setTurn w t) where
  recalls := hC.recalls
  resting := resting_setTurn hC.resting hrest
  bound ws := by
    have hold := hC.bound ws
    have hcard := card_engaged_setTurn ws h
    have hmails : (o.setTurn w t).mails k = o.mails k := rfl
    rw [List.countP_append, hmails]
    omega

theorem counted_queue {as : List MailAct} {l : Label} {s : Sys} (hC : Counted k as o)
    (hfree : o.reporting l.2 = false) (hs : Step site o.sys l s) :
    Counted k (as ++ [.queue l]) (o.stepped l s) := by
  refine ⟨step_recalls hC.recalls hs, resting_queue hC.recalls hC.resting hfree hs, fun ws => ?_⟩
  have hold := hC.bound ws
  rw [List.countP_append, List.countP_singleton]
  show o.mails k + _ ≤ _
  by_cases hclaim : ∃ v, l.2 = .worker v (.claimPort k)
  · obtain ⟨v, hv⟩ := hclaim
    have hone : claimsJob k (.queue l) = true := by
      obtain ⟨now, act⟩ := l
      subst hv
      exact beq_self_eq_true k
    have hcard : (ws.filter ((o.stepped l s).engaged k ·)).card ≤
        (ws.filter (o.engaged k ·)).card + 1 := by
      refine (Finset.card_le_card fun u hu => ?_).trans (Finset.card_insert_le v _)
      obtain ⟨hmem, hu⟩ := Finset.mem_filter.mp hu
      rcases engaged_queue hC.recalls hs hu with hu | hu
      · exact Finset.mem_insert_of_mem (Finset.mem_filter.mpr ⟨hmem, hu⟩)
      · cases hv.symm.trans hu
        exact Finset.mem_insert_self _ _
    rw [if_pos hone]
    omega
  · have hcard : (ws.filter ((o.stepped l s).engaged k ·)).card ≤
        (ws.filter (o.engaged k ·)).card := by
      refine Finset.card_le_card (Finset.monotone_filter_right ws fun u _ hu => ?_)
      exact (engaged_queue hC.recalls hs hu).resolve_right fun e => hclaim ⟨u, e⟩
    omega

/-- A message is one about its own job, and no more than one. -/
theorem countP_mailOf (accounts : Nat → Option Addressee) (db : AdminSettings) (job : Job) :
    ((mailOf utc site.toSite accounts db job).toList.map (job.id, ·)).countP (·.1 == k) ≤
      if job.id = k then 1 else 0 := by
  split
  · refine List.countP_le_length.trans ?_
    rw [List.length_map]
    cases mailOf utc site.toSite accounts db job <;> simp
  · rename_i hk
    refine (List.countP_eq_zero.mpr fun e he => ?_).le
    obtain ⟨m, -, rfl⟩ := List.mem_map.mp he
    simpa using hk

theorem counted_tell {as : List MailAct} {accounts : Nat → Option Addressee} {db : AdminSettings}
    {job : Job} (hC : Counted k as o) (hw : o.turn w = .reloaded job) :
    Counted k (as ++ [.tell w accounts db]) { o.setTurn w .loop with
      sent := o.sent ++ (mailOf utc site.toSite accounts db job).toList.map (job.id, ·) } := by
  have hno := @not_engaged_loop o k w (hC.resting w (by rw [hw]; rfl))
  have hset := @counted_setTurn o k w .loop as (.tell w accounts db) hC nofun fun he => by
    rw [hno] at he
    cases he
  refine ⟨hset.recalls, hset.resting, fun ws => ?_⟩
  have hsent := @countP_mailOf utc site k accounts db job
  have hnew := hset.bound ws
  have hmails : (o.setTurn w .loop).mails k = o.mails k := rfl
  rw [List.countP_append] at hnew ⊢
  show Office.mails _ k + (ws.filter ((o.setTurn w .loop).engaged k ·)).card ≤ _
  rw [Office.mails, List.countP_append]
  show o.mails k + _ + _ ≤ _
  split at hsent
  · -- the worker that tells was on the job, and is on none now
    rename_i hk
    have hon : o.engaged k w = true := engaged_iff.mpr (Or.inl (by rw [hw, ← hk]; rfl))
    have hold := hC.bound (insert w ws)
    have hcard : (ws.filter ((o.setTurn w .loop).engaged k ·)).card + 1 ≤
        ((insert w ws).filter (o.engaged k ·)).card := by
      rw [← Finset.card_insert_of_notMem (a := w) (by simp [hno])]
      refine Finset.card_le_card fun u hu => ?_
      rcases Finset.mem_insert.mp hu with rfl | hu
      · exact Finset.mem_filter.mpr ⟨Finset.mem_insert_self _ _, hon⟩
      · obtain ⟨hmem, hu⟩ := Finset.mem_filter.mp hu
        have hne : u ≠ w := fun e => by
          rw [e, hno] at hu
          cases hu
        rw [engaged_setTurn _ hne] at hu
        exact Finset.mem_filter.mpr ⟨Finset.mem_insert_of_mem hmem, hu⟩
    omega
  · omega

/-- **One step.** -/
theorem counted_step {as : List MailAct} {a : MailAct} (hC : Counted k as o)
    (h : MailStep utc site o a o') : Counted k (as ++ [a]) o' := by
  cases h.moved with
  | queue hfree hs => exact counted_queue hC hfree hs
  | reload hw hjob =>
      have habout : (o.turn _).about? = some _ := congrArg Turn.about? hw
      refine counted_setTurn hC (fun _ => hC.resting _ (by rw [habout]; rfl)) fun he => ?_
      rcases engaged_iff.mp he with hturn | hclaim
      · rw [setTurn_self] at hturn
        exact engaged_iff.mpr (Or.inl (habout.trans hturn))
      · exact engaged_iff.mpr (Or.inr hclaim)
  | gone hw =>
      have hrest := hC.resting _ (by rw [hw]; rfl)
      refine counted_setTurn hC nofun fun he => ?_
      rw [not_engaged_loop hrest] at he
      cases he
  | giveUp =>
      refine counted_setTurn hC nofun fun he => ?_
      rcases engaged_iff.mp he with hturn | hclaim
      · rw [setTurn_self] at hturn
        cases hturn
      · exact engaged_iff.mpr (Or.inr hclaim)
  | tell hw => exact counted_tell hC hw

end Counted

/-- **ONE CLAIM, ONE MESSAGE AT MOST**, in every run: a job is mailed no more often than it was
    claimed. -/
theorem mails_per_claim_run {utc : Time → String} {site : JobSite} {o₀ o : Office}
    {as : List MailAct} (h0 : o₀.Started) (h : Run (MailStep utc site) o₀ as o) (k : Nat) :
    o.mails k ≤ as.countP (claimsJob k) := by
  have hstart : Counted k [] o₀ := by
    refine ⟨recalls_started h0.sys, fun w hw => ?_, fun ws => ?_⟩
    · rw [h0.turn w] at hw
      cases hw
    · have hnone : ∀ w, o₀.engaged k w = false := fun w => by
        unfold Office.engaged
        rw [h0.turn w, h0.sys.worker w]
        rfl
      simp [Office.mails, h0.sent, hnone]
  have hC := h.invariant_history (I := fun as o => Counted k as o) hstart
    fun as o a o' hC hs => counted_step hC hs
  simpa using hC.bound ∅

/-- Worker A's execution outlasts its lease; worker B claims the job again, misses the upload and
    reports; then A's execution fails, and A reports. -/
def overtakenMail : List MailAct :=
  let act (now : Int) (w : Worker) (a : WorkerAct) : Label := (seconds now, .worker w a)
  (claimSteps 0 workerA ++ [act 0 workerA .load, act 0 workerA (.run (.prepared true))] ++
      claimSteps (seconds 301) workerB ++ [act 302 workerB .load,
        act 302 workerB (.run (.prepared false)), act 302 workerB .finish]).map MailAct.queue ++
    [.reload workerB, smallTell workerB] ++
    [act 303 workerA (.run (.fault (.exception "disk full"))), act 303 workerA .finish].map
      MailAct.queue ++ [.reload workerA, smallTell workerA]

/-- **A job that is mailed twice**: it was claimed twice. -/
theorem mails_per_claim_run_small : ∃ o, Run (MailStep (fun _ => "") smallSite) smallOffice
    overtakenMail o ∧ o.mails 1 = 2 ∧ 2 ≤ overtakenMail.countP (claimsJob 1) := by
  have hrun : (execAll (Office.exec (fun _ => "") smallSite) smallOffice overtakenMail).any
      (fun o => decide (o.mails 1 = 2)) = true := by decide +kernel
  obtain ⟨o, hr, hp⟩ := exists_run_of_execAll hrun
  have htwo := of_decide_eq_true hp
  exact ⟨o, hr, htwo, htwo ▸ mails_per_claim_run smallOffice_started hr 1⟩

/-! ## 4. In an undisturbed run -/

/-- The row of every loaded object was running when it was loaded. -/
def LoadedRunning (s : Sys) : Prop :=
  ∀ w loaded, (s.worker w).loaded? = some loaded → loaded.status = .running

/-- The steps of the queue are undisturbed. -/
def Calm (site : JobSite) (o : Office) (a : MailAct) : Prop :=
  ∀ l, a = .queue l → Undisturbed site o.sys l

/-- What a row says of a finished job is what was read of it. -/
structure Agrees (job row : Job) : Prop where
  id : row.id = job.id
  status : row.status = job.status
  userId : row.userId = job.userId
  originalFilename : row.originalFilename = job.originalFilename

theorem Agrees.refl (job : Job) : Agrees job job := ⟨rfl, rfl, rfl, rfl⟩

theorem Agrees.trans {a b c : Job} (h : Agrees a b) (h' : Agrees b c) : Agrees a c :=
  ⟨h'.id.trans h.id, h'.status.trans h.status, h'.userId.trans h.userId,
    h'.originalFilename.trans h.originalFilename⟩

theorem Agrees.subject {job row : Job} (h : Agrees job row) :
    subjectText row = subjectText job := by
  unfold subjectText statusText
  rw [h.id, h.status, h.originalFilename]

/-- A worker has sent the message to the owner of the job, who had asked for it. -/
def Addressed (as : List MailAct) (row : Job) (m : Message) : Prop :=
  ∃ w accounts db user, .tell w accounts db ∈ as ∧ accounts row.userId = some user ∧
    user.emailNotifyJobs = true ∧ m.toAddress = user.email

/-- **A message that is true**: the job is finished, and the subject line is the one that the row
    gives. Of a canceled row that is "failed". -/
structure Truthful (as : List MailAct) (s : Sys) (e : Nat × Message) (row : Job) : Prop where
  mem : row ∈ s.jobs
  id : row.id = e.1
  finished : row.status.finished = true
  subject : e.2.subject = subjectText row
  addressed : Addressed as row e.2

/-- **The invariant.** -/
structure Honest (site : JobSite) (as : List MailAct) (o : Office) : Prop where
  accounted : Accounted site o.sys
  loaded : LoadedRunning o.sys
  resting : Resting o
  pending : ∀ w k, (o.turn w).about? = some k → ∃ row ∈ o.sys.jobs, row.id = k ∧
    row.status.finished = true ∧ ∀ job, o.turn w = .reloaded job → Agrees job row
  told : ∀ e ∈ o.sent, ∃ row, Truthful as o.sys e row
  alone : ∀ w v k, (o.turn w).about? = some k → (o.turn v).about? = some k → w = v
  unsent : ∀ w k, (o.turn w).about? = some k → ∀ e ∈ o.sent, e.1 ≠ k
  once : (o.sent.map Prod.fst).Nodup

section Honest

variable {utc : Time → String} {site : JobSite} {o o' : Office} {s s' : Sys} {l : Label}
  {w : Worker} {as : List MailAct}

theorem loadedRunning_step (hA : Accounted site s) (hL : LoadedRunning s) (h : Step site s l s') :
    LoadedRunning s' := by
  intro w loaded hl
  rcases h.worker_cases w with ⟨hsame, -⟩ | ⟨a, -, hmove⟩
  · exact hL w loaded (hsame ▸ hl)
  · have hc : ∃ c, (s'.worker w).claim? = some c := by
      cases hph : s'.worker w <;> rw [hph] at hl <;> first | exact ⟨_, rfl⟩ | cases hl
    obtain ⟨c, hc⟩ := hc
    rcases workerMove_claim hmove hc with ⟨hold, -⟩ | rfl
    · rcases workerMove_loaded hmove hc hl with hw | ⟨hmem, hid⟩
      · exact hL w loaded hw
      · obtain ⟨-, row, hrow, hrid, hrun, -⟩ := hA.occupied w c hold
        cases Table.eq_of_key hmem hrow (hid.trans hrid.symm)
        exact hrun
    · obtain ⟨_, _, _, _, _, _, _, _, _, _, e⟩ := claimPort_enabled hmove
      rw [e] at hl
      cases hl

/-- **A finished row goes on saying the same.** -/
theorem finished_next (hA : Accounted site s) (hcond : Undisturbed site s l)
    (h : Step site s l s') {row : Job} (hrow : row ∈ s.jobs) (hfin : row.status.finished = true) :
    ∃ row' ∈ s'.jobs, Agrees row row' := by
  obtain ⟨_, he⟩ := h.effect
  obtain ⟨row', hrow', hid, hch⟩ := effect_next (hA.ok.at l.1).recalls he hrow
  refine ⟨row', hrow', hid, ?_, hch.fixed.1, hch.file.2⟩
  rcases followsLifeCycle_step hA hcond h row hrow row' hrow' hid with e | hlc
  · exact e
  · have hunf := hlc.unfinished
    rw [hfin] at hunf
    cases hunf

/-- **The final commit of a row that was loaded running leaves it finished.** -/
theorem finish_finished {c : Claim} (hA : Accounted site s) (hL : LoadedRunning s)
    (hc : (s.worker w).claim? = some c) (h : effect site s (.worker w .finish) = some s') :
    ∃ row ∈ s'.jobs, row.id = c.jobId ∧ row.status.finished = true := by
  obtain ⟨ph, hph, -⟩ := effect_worker h
  simp only [workerMove] at hph
  split at hph
  · rename_i p hcom
    obtain ⟨loaded, obj⟩ := p
    obtain ⟨c', hc', hlid, hret⟩ := commits_ok (hA.ok.recalls.worker w) hcom
    cases hc.symm.trans hc'
    obtain ⟨-, row, hrow, hid, -, -⟩ := hA.occupied w c hc
    have hloaded : (s.worker w).loaded? = some loaded := by
      generalize s.worker w = ph at hcom
      cases ph with
      | noPort => cases hcom; rfl
      | execute _ _ _ rs =>
          obtain ⟨obj, phase⟩ := rs
          cases phase <;> first | (cases hcom; rfl) | cases hcom
      | top | sweep | claim | claimed => cases hcom
    have hrun := hL w loaded hloaded
    have hrec : Recorded loaded obj := hret.resolve_right fun e => e.1 hrun
    have hwrite : rowWrite site s (.worker w .finish) row = ormFlush loaded obj row := by
      simp only [rowWrite, workerWrite, hcom]
      exact Table.atKey_self (hid.trans hlid.symm)
    refine ⟨_, effect_mem_of h hrow, (rowWrite_id site s _ row).trans hid, ?_⟩
    rw [hwrite, final_commit_unfenced hrun hrec]
    obtain ⟨path, t, out, rfl⟩ := hrec
    rw [Outcome.record_status]
    exact out.status_finished
  · cases hph

theorem Addressed.mono {row : Job} {m : Message} {a : MailAct} (h : Addressed as row m) :
    Addressed (as ++ [a]) row m := by
  obtain ⟨w, accounts, db, user, hmem, hrest⟩ := h
  exact ⟨w, accounts, db, user, List.mem_append_left _ hmem, hrest⟩

theorem Truthful.next {e : Nat × Message} {row row' : Job} {a : MailAct} (h : Truthful as s e row)
    (hrow' : row' ∈ s'.jobs) (hagrees : Agrees row row') : Truthful (as ++ [a]) s' e row' where
  mem := hrow'
  id := hagrees.id.trans h.id
  finished := hagrees.status ▸ h.finished
  subject := h.subject.trans hagrees.subject.symm
  addressed := by
    obtain ⟨w, accounts, db, user, hmem, huser, hrest⟩ := h.addressed.mono (a := a)
    exact ⟨w, accounts, db, user, hmem, hagrees.userId ▸ huser, hrest⟩

/-- The job of a worker that is about to commit has not been reported, and is not going to be. -/
theorem Honest.unreported (hH : Honest site as o) {c : Claim}
    (hc : (o.sys.worker w).claim? = some c) :
    (∀ v, (o.turn v).about? ≠ some c.jobId) ∧ ∀ e ∈ o.sent, e.1 ≠ c.jobId := by
  obtain ⟨-, row, hrow, hid, hrun, -⟩ := hH.accounted.occupied w c hc
  have clash : ∀ row' ∈ o.sys.jobs, row'.id = c.jobId → row'.status.finished = true → False := by
    intro row' hrow' hid' hfin
    cases Table.eq_of_key hrow' hrow (hid'.trans hid.symm)
    rw [hrun] at hfin
    cases hfin
  refine ⟨fun v hv => ?_, fun e he hk => ?_⟩
  · obtain ⟨row', hrow', hid', hfin, -⟩ := hH.pending v _ hv
    exact clash row' hrow' hid' hfin
  · obtain ⟨row', htrue⟩ := hH.told e he
    exact clash row' htrue.mem (htrue.id.trans hk) htrue.finished

theorem honest_queue (hH : Honest site as o) (hcond : Undisturbed site o.sys l)
    (hfree : o.reporting l.2 = false) (hs : Step site o.sys l s) :
    Honest site (as ++ [.queue l]) (o.stepped l s) := by
  have hA := hH.accounted
  have hR := hA.ok.recalls
  -- who reports after the step: a worker that did before, or the one that commits
  have about : ∀ v k, ((o.stepped l s).turn v).about? = some k →
      ((o.stepped l s).turn v = o.turn v ∧ (o.turn v).about? = some k) ∨
        l.2 = .worker v .finish ∧ (o.stepped l s).turn v = .committed k ∧
          ∃ c, (o.sys.worker v).claim? = some c ∧ c.jobId = k := by
    intro v k hv
    rcases turnsAfter_cases hR l.2 v with e | ⟨hl, c, _, _, _, hw, -, e⟩
    · exact Or.inl ⟨e, e ▸ hv⟩
    · have hk : c.jobId = k := by
        have hsome : some c.jobId = some k := by
          rw [← hv]
          exact (congrArg Turn.about? e).symm
        exact Option.some.inj hsome
      exact Or.inr ⟨hl, hk ▸ e, c, by rw [hw]; rfl, hk⟩
  refine ⟨accounted_step hA hcond hs, loadedRunning_step hA hH.loaded hs,
    resting_queue hR hH.resting hfree hs, fun v k hv => ?_, fun e he => ?_, fun v u k hv hu => ?_,
    fun v k hv e he => ?_, hH.once⟩
  · rcases about v k hv with ⟨hsame, hold⟩ | ⟨hl, hturn, c, hc, rfl⟩
    · obtain ⟨row, hrow, hid, hfin, hread⟩ := hH.pending v k hold
      obtain ⟨row', hrow', hagrees⟩ := finished_next hA hcond hs hrow hfin
      refine ⟨row', hrow', hagrees.id.trans hid, hagrees.status ▸ hfin, fun job hjob => ?_⟩
      exact (hread job (hsame ▸ hjob)).trans hagrees
    · obtain ⟨-, he⟩ := hs.effect
      rw [hl] at he
      obtain ⟨row, hrow, hid, hfin⟩ := finish_finished (s := o.sys.at l.1)
        ⟨hA.ok.at l.1, hA.kept.at l.1, hA.swept, hA.occupied⟩ hH.loaded hc he
      refine ⟨row, hrow, hid, hfin, fun job hjob => ?_⟩
      rw [hturn] at hjob
      cases hjob
  · obtain ⟨row, htrue⟩ := hH.told e he
    obtain ⟨row', hrow', hagrees⟩ := finished_next hA hcond hs htrue.mem htrue.finished
    exact ⟨row', htrue.next hrow' hagrees⟩
  · rcases about v k hv with ⟨-, hv⟩ | ⟨hl, -, c, hc, rfl⟩
    · rcases about u k hu with ⟨-, hu⟩ | ⟨-, -, d, hd, rfl⟩
      · exact hH.alone v u k hv hu
      · exact absurd hv ((hH.unreported hd).1 v)
    · rcases about u _ hu with ⟨-, hu⟩ | ⟨hl', -⟩
      · exact absurd hu ((hH.unreported hc).1 u)
      · cases hl.symm.trans hl'
        rfl
  · rcases about v k hv with ⟨-, hold⟩ | ⟨-, -, c, hc, rfl⟩
    · exact hH.unsent v k hold e he
    · exact (hH.unreported hc).2 e he

/-- A report taken up of the row as it is, or laid down. -/
theorem honest_setTurn {t : Turn} {a : MailAct} (hH : Honest site as o)
    (habout : ∀ k, t.about? = some k → (o.turn w).about? = some k)
    (hread : ∀ job, t = .reloaded job → job ∈ o.sys.jobs) :
    Honest site (as ++ [a]) (o.setTurn w t) := by
  have about : ∀ v k, ((o.setTurn w t).turn v).about? = some k → (o.turn v).about? = some k := by
    intro v k hv
    by_cases e : v = w
    · subst e
      rw [setTurn_self] at hv
      exact habout k hv
    · rwa [setTurn_other t e] at hv
  refine ⟨hH.accounted, hH.loaded, resting_setTurn hH.resting fun ht => ?_, fun v k hv => ?_,
    fun e he => ?_, fun v u k hv hu => hH.alone v u k (about v k hv) (about u k hu),
    fun v k hv => hH.unsent v k (about v k hv), hH.once⟩
  · obtain ⟨k, hk⟩ := Option.isSome_iff_exists.mp ht
    exact hH.resting w (by rw [habout k hk]; rfl)
  · obtain ⟨row, hrow, hid, hfin, hagrees⟩ := hH.pending v k (about v k hv)
    refine ⟨row, hrow, hid, hfin, fun job hjob => ?_⟩
    by_cases e : v = w
    · subst e
      rw [setTurn_self] at hv hjob
      rw [hjob] at hv
      cases Table.eq_of_key (hread job hjob) hrow ((Option.some.inj hv).trans hid.symm)
      exact .refl _
    · rw [setTurn_other t e] at hjob
      exact hagrees job hjob
  · obtain ⟨row, htrue⟩ := hH.told e he
    exact ⟨row, htrue.next htrue.mem (.refl row)⟩

theorem Honest.laidDown (hH : Honest site as o) (a : MailAct) :
    Honest site (as ++ [a]) (o.setTurn w .loop) :=
  honest_setTurn hH (fun _ he => by cases he) fun _ he => by cases he

theorem honest_tell {accounts : Nat → Option Addressee} {db : AdminSettings} {job : Job}
    (hH : Honest site as o) (hw : o.turn w = .reloaded job) :
    Honest site (as ++ [.tell w accounts db]) { o.setTurn w .loop with
      sent := o.sent ++ (mailOf utc site.toSite accounts db job).toList.map (job.id, ·) } := by
  have hset := hH.laidDown (w := w) (.tell w accounts db)
  cases hm : mailOf utc site.toSite accounts db job with
  | none =>
      rw [Option.toList_none, List.map_nil, List.append_nil]
      exact hset
  | some m =>
      have habout : (o.turn w).about? = some job.id := congrArg Turn.about? hw
      obtain ⟨-, hsubject, user, huser, hask, hto⟩ := mailOf_some hm
      obtain ⟨row, hrow, hid, hfin, hread⟩ := hH.pending w job.id habout
      have hagrees := hread job hw
      have htrue : Truthful (as ++ [.tell w accounts db]) o.sys (job.id, m) row := by
        refine ⟨hrow, hid, hfin, hsubject.trans hagrees.subject.symm, w, accounts, db, user,
          List.mem_append_right _ (List.mem_singleton.mpr rfl), ?_, hask, hto⟩
        rw [hagrees.userId]
        exact huser
      refine ⟨hset.accounted, hset.loaded, hset.resting, hset.pending, fun e he => ?_, hset.alone,
        fun v k hv e he => ?_, ?_⟩
      · rcases List.mem_append.mp he with he | he
        · exact hset.told e he
        · rw [List.mem_singleton.mp he]
          exact ⟨row, htrue⟩
      · rcases List.mem_append.mp he with he | he
        · exact hset.unsent v k hv e he
        · -- another worker reports another job
          rw [List.mem_singleton.mp he]
          rintro rfl
          by_cases e : v = w
          · subst e
            rw [setTurn_self] at hv
            cases hv
          · rw [setTurn_other .loop e] at hv
            exact e (hH.alone v w job.id hv habout)
      · rw [List.map_append, List.nodup_append]
        refine ⟨hH.once, List.nodup_singleton _, fun k hk k' hk' e => ?_⟩
        obtain ⟨e', he', rfl⟩ := List.mem_map.mp hk
        exact hH.unsent w job.id habout e' he' (e.trans (List.mem_singleton.mp hk'))

theorem honest_step {a : MailAct} (hH : Honest site as o) (hcalm : Calm site o a)
    (h : MailStep utc site o a o') : Honest site (as ++ [a]) o' := by
  cases h.moved with
  | queue hfree hs => exact honest_queue hH (hcalm _ rfl) hfree hs
  | reload hw hjob =>
      refine honest_setTurn hH (fun k hk => ?_) fun job he => ?_
      · rw [hw]
        exact hk
      · cases he
        exact hjob
  | gone => exact hH.laidDown _
  | giveUp => exact hH.laidDown _
  | tell hw => exact honest_tell hH hw

theorem honest_started (h : o.Started) : Honest site [] o := by
  have hnone : ∀ w k, (o.turn w).about? ≠ some k := fun w k hk => by
    rw [h.turn w] at hk
    cases hk
  refine ⟨accounted_started h.sys, fun w loaded hl => ?_, fun w hw => ?_,
    fun w k hk => absurd hk (hnone w k), ?_, fun w v k hk => absurd hk (hnone w k),
    fun w k hk => absurd hk (hnone w k), ?_⟩
  · rw [h.sys.worker w] at hl
    cases hl
  · rw [h.turn w] at hw
    cases hw
  · rw [h.sent]
    exact fun e he => absurd he List.not_mem_nil
  · rw [h.sent]
    exact List.nodup_nil

end Honest

/-- **ONE MESSAGE, AND A TRUE ONE**, in every undisturbed run: no job is mailed twice; each message
    is one to the owner of its job, with the subject line that its row gives then and ever after;
    and a worker that has read its job again mails it, if the owner asks for it and there is a
    host. -/
theorem mail_run {utc : Time → String} {site : JobSite} {o₀ o : Office} {as : List MailAct}
    (h0 : o₀.Started) (h : Run (guarded (MailStep utc site) (Calm site)) o₀ as o) :
    (o.sent.map Prod.fst).Nodup ∧
    (∀ e ∈ o.sent, ∀ as' o', Run (guarded (MailStep utc site) (Calm site)) o as' o' →
      ∃ row, Truthful (as ++ as') o'.sys e row) ∧
    ∀ w job accounts db user settings, o.turn w = .reloaded job →
      accounts job.userId = some user → user.emailNotifyJobs = true →
      loadSettingsFromDb db = some settings → settings.smtpHost ≠ "" →
      ∃ o', MailStep utc site o (.tell w accounts db) o' ∧
        (job.id, notifyJobCompleted utc site.toSite user job) ∈ o'.sent := by
  have hrun : ∀ {as o}, Run (guarded (MailStep utc site) (Calm site)) o₀ as o →
      Honest site as o := fun h =>
    h.invariant_history (I := Honest site) (honest_started h0)
      fun _ _ _ _ hH hs => honest_step hH hs.1 hs.2
  refine ⟨(hrun h).once, fun e he as' o' h' => ?_, ?_⟩
  · have hkept : e ∈ o'.sent := h'.invariant (I := fun o => e ∈ o.sent) he fun o a o' hmem hs => by
      cases hs.2.moved with
      | tell => exact List.mem_append_left _ hmem
      | queue | reload | gone | giveUp => exact hmem
    exact (hrun (h.trans h')).told e hkept
  · intro w job accounts db user settings hw huser hask hsettings hhost
    obtain ⟨row, -, -, hfin, hread⟩ := (hrun h).pending w job.id (by rw [hw]; rfl)
    have hjob : job.status.finished = true := (hread job hw).status ▸ hfin
    have hmail : mailOf utc site.toSite accounts db job =
        some (notifyJobCompleted utc site.toSite user job) := by
      simp only [mailOf, huser, hask, hjob, Bool.and_self, if_true, hsettings, if_neg hhost]
    have hstep : MailStep utc site o (.tell w accounts db) { o.setTurn w .loop with
        sent := o.sent ++ (mailOf utc site.toSite accounts db job).toList.map (job.id, ·) } := by
      simp only [MailStep, Office.exec, hw]
    refine ⟨_, hstep, ?_⟩
    rw [hmail]
    exact List.mem_append_right _ (List.mem_singleton.mpr rfl)

/-- A worker claims job 1, misses its upload, commits and reports. -/
def smallMail : List MailAct :=
  let ending : List Label :=
    [.load, .run (.prepared false), .finish].map fun a => (0, .worker workerA a)
  (claimSteps 0 workerA ++ ending).map MailAct.queue ++ [.reload workerA, smallTell workerA]

/-- Enough for `Calm`. -/
def quietMail (site : JobSite) (o : Office) : MailAct → Bool
  | .queue l => quiet site o.sys l
  | _ => true

theorem calm_of_quietMail (o : Office) (a : MailAct) (h : quietMail smallSite o a = true) :
    Calm smallSite o a := by
  rintro l rfl
  exact undisturbed_of_quiet h

theorem mail_run_small : ∃ as o e row, Run (guarded (MailStep (fun _ => "") smallSite)
    (Calm smallSite)) smallOffice as o ∧ o.sent.map Prod.fst = [1] ∧ e ∈ o.sent ∧
    Truthful as o.sys e row := by
  have hrun : (execAll (execWhen (quietMail smallSite) (Office.exec (fun _ => "") smallSite))
      smallOffice smallMail).any (fun o => decide (o.sent.map Prod.fst = [1])) = true := by
    decide +kernel
  obtain ⟨o, hr, hp⟩ := exists_guarded_run calm_of_quietMail hrun
  have hsent := of_decide_eq_true hp
  obtain ⟨e, he⟩ : ∃ e, e ∈ o.sent := by
    cases hs : o.sent with
    | nil =>
        rw [hs] at hsent
        cases hsent
    | cons e _ => exact ⟨e, List.mem_cons_self⟩
  obtain ⟨row, htrue⟩ := (mail_run smallOffice_started hr).2.1 e he [] o .start
  exact ⟨_, o, e, row, hr, hsent, he, by rwa [List.append_nil] at htrue⟩

end RetroBridge.Jobs.Mail
