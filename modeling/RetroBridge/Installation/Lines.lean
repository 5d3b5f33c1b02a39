/-
  File:      RetroBridge/Installation/Lines.lean
  Subject:   WHO HOLDS A LINE (worker.py: `claim_job`; retrobridge/terminal/events.py:
             `request_session`): the workers of the job queue and the terminal server side by side,
             on one set of `device_ports`.

  Nothing in the source keeps the two apart but the purpose of a port: a worker locks its port by a
  count of running rows, the terminal by a lease, and neither looks at the other's table.

  * `Holder`, `holds?` -- a worker between claim and final commit, or a running bridge, and the port
    it is on;
  * `slots` -- how many holders a port takes: an interactive port one, a job port
    `max_concurrent_jobs`;
  * `OnJobPorts`, `OnInteractivePorts` -- each side keeps to the ports of its purpose;
  * `card_bridges`, `card_workers` -- the holders of one port, by its purpose; `card_le_slots` -- of
    all the ports of a line;
  * `lines_run` -- **in every interleaving a line has no more holders than its ports have slots.**

  A line is a `dev_path`; two rows of `device_ports` may name one.
-/
import Mathlib.Algebra.Ring.Nat
import Mathlib.Data.Finset.Preimage
import RetroBridge.Jobs.Exclusive
import RetroBridge.Terminal.Exclusive
import RetroBridge.Terminal.History

/-! ## 1. Workers keep to job ports -/

namespace RetroBridge.Jobs

open Relational Transition

/-- Every port that a live worker drives is a job port of the site, and has a cap. -/
def OnJobPorts (site : Site) (s : Sys) : Prop :=
  ∀ w p, (s.worker w).drives? = some p →
    ∃ port ∈ site.ports, port.id = p ∧ port.purpose = .jobQueue ∧ port.maxConcurrentJobs ≠ none

theorem onJobPorts_step {site : JobSite} {s s' : Sys} {l : Label} (hA : Accounted site s)
    (hP : OnJobPorts site.toSite s) (hcond : Undisturbed site s l) (h : Step site s l s') :
    OnJobPorts site.toSite s' := by
  intro w p hw
  obtain ⟨c, hc⟩ := claim_of_drives hw
  have hp : c.portId = p :=
    Option.some.inj ((((accounted_step hA hcond h).occupied w c hc).1).symm.trans hw)
  rcases step_claim h hc with ⟨hold, -⟩ | ⟨_, port, _, _, -, -, hwp, hslot, -, -, hnew⟩
  · exact hP w p (hp ▸ (hA.occupied w c hold).1)
  · -- a new claim is on a port of the worker's own loop, with a slot
    have hloop := hA.ok.worker w
    rw [hwp] at hloop
    obtain ⟨hmem, -, hpurpose, -⟩ := mem_enabledPorts.mp (hloop port List.mem_cons_self)
    obtain ⟨m, hm, -⟩ := hasSlot_iff.mp hslot
    rw [hnew] at hc
    cases hc
    exact ⟨port, hmem, hp, hpurpose, fun hnull => by rw [hnull] at hm; cases hm⟩

theorem onJobPorts_run {site : JobSite} {s₀ s : Sys} {ls : List Label} (h0 : s₀.Started)
    (h : Run (guarded (Step site) (Undisturbed site)) s₀ ls s) : OnJobPorts site.toSite s := by
  have hstart : OnJobPorts site.toSite s₀ := fun w p hw => by
    rw [h0.worker w] at hw
    cases hw
  have hI := h.invariant (I := fun s => Accounted site s ∧ OnJobPorts site.toSite s)
    ⟨accounted_started h0, hstart⟩ fun s l s' ⟨hA, hP⟩ hs =>
      ⟨accounted_step hA hs.1 hs.2, onJobPorts_step hA hP hs.1 hs.2⟩
  exact hI.2

end RetroBridge.Jobs

/-! ## 2. Bridges keep to interactive ports -/

namespace RetroBridge.Terminal

open Relational Transition

section Ports

variable {P : Process} {s₀ s s' : Server} {l : Label} {ls : List Label}

/-- Every bridge is on an interactive port of the site. -/
def OnInteractivePorts (s : Server) : Prop :=
  ∀ q b, s.bridge? q = some b →
    ∃ port ∈ s.site.ports, port.id = b.portId ∧ port.purpose = .interactive

/-- A bridge keeps its port. -/
theorem Course.portId {now : Time} {op : Op} {fate : Fate} {p q : Place} {b b' : Bridge}
    (h : Course P now s op fate p b q b') : b'.portId = b.portId := by cases h <;> rfl

/-- A session is opened on one of the device's interactive ports. -/
theorem onInteractivePorts_openSession {now : Time} {sid : Sid} {user : User} {device : Device}
    {env : RequestEnv} (hrows : s.LeaseRows) (h : OnInteractivePorts s) :
    OnInteractivePorts (s.openSession P now sid user device env).1 := by
  have hends := opening P now sid user device env hrows
  generalize s.openSession P now sid user device env = out at hends ⊢
  cases hends with
  | exceeded => exact h
  | portless => exact h
  | taken => exact h
  | refused => exact h
  | stranded => exact h
  | @started port _ hport =>
      obtain ⟨hmem, -, hpurpose, -⟩ := mem_enabledPorts.mp hport
      intro q b hb
      change (s.opened P now sid user.id device.id port).bridge? q = some b at hb
      rw [bridge?_opened] at hb
      split at hb
      · cases hb
        exact ⟨port, hmem, rfl, hpurpose⟩
      · exact h q b hb

theorem onInteractivePorts_step (ht : s.Tidy) (hop : l.op.deletes = false)
    (h : OnInteractivePorts s) (hs : Step P s l s') : OnInteractivePorts s' := by
  have hcourse := hs.course ht
  have hsite : s'.site = s.site := hs.site_eq hop
  obtain ⟨now, op, outs⟩ := l
  -- a bridge with a course behind it is where it was
  have old : ∀ {v : Server} {p q : Place} {b b' : Bridge} {fate : Fate}, v.site = s.site →
      s.bridge? p = some b → Course P now (s.at now) op fate p b q b' →
      ∃ port ∈ v.site.ports, port.id = b'.portId ∧ port.purpose = .interactive := by
    intro v p q b b' fate hv hb hc
    rw [hv, hc.portId]
    exact h p b hb
  cases op with
  | request sid deviceId env =>
      have hadmit : OnInteractivePorts ((s.at now).admitOrResume P now sid deviceId env).1 := by
        intro q b' hb'
        obtain ⟨fate, p, b, hb, hc⟩ := admitOrResume_course sid deviceId env q b' hb'
        exact old (steady_admitOrResume sid deviceId env).2 hb hc
      have hrows : ((s.at now).admitOrResume P now sid deviceId env).1.LeaseRows :=
        ((admitOrResume_moves P now (s.at now) (.request sid deviceId env) sid deviceId env
          (tidy_at ht now)).1.invariant (tidy_at ht now) fun ht m => m.tidy ht).leaseRows
      have hafter : ((s.at now).handleRequestSession P now sid deviceId env).1 = s' :=
        congrArg Prod.fst hs.2
      rw [← hafter]
      unfold Server.handleRequestSession
      dsimp only
      split
      · exact hadmit
      · exact onInteractivePorts_openSession hrows hadmit
  | _ =>
      intro q b' hb'
      obtain ⟨fate, p, b, hb, hc⟩ | hnew := hcourse q b' hb'
      · exact old hsite hb hc
      · obtain ⟨sid, deviceId, env, hreq, -⟩ := hnew.request
        cases hreq

/-- **Both, in every run without deletions**: the site stays, and every bridge is on one of its
    interactive ports. -/
theorem onInteractivePorts_run (h0 : s₀.Started) (hrows : s₀.LeaseRows)
    (h : Run (guarded (Step P) (Sparing P)) s₀ ls s) :
    s.site = s₀.site ∧ OnInteractivePorts s := by
  have hstart : s₀.Tidy := ⟨fun _ _ hb => absurd hb h0.no_bridge, hrows⟩
  have hI := h.invariant
    (I := fun s => s.Tidy ∧ s.site = s₀.site ∧ OnInteractivePorts s)
    ⟨hstart, rfl, fun _ _ hb => absurd hb h0.no_bridge⟩ fun s l s' ⟨ht, hsite, hP⟩ hs =>
      ⟨(hs.2.moves ht).invariant (tidy_at ht l.now) fun ht m => m.tidy ht,
        (hs.2.site_eq hs.1.1).trans hsite, onInteractivePorts_step ht hs.1.1 hP hs.2⟩
  exact hI.2

end Ports

end RetroBridge.Terminal

/-! ## 3. Holders -/

namespace RetroBridge.Installation

open Relational Transition

/-- Who holds a line: a worker, or a bridge by its place. -/
inductive Holder where
  | worker (w : Jobs.Worker)
  | bridge (q : Terminal.Place)
  deriving DecidableEq

/-- What the holder's ports are for. -/
def Holder.purpose : Holder → Purpose
  | .worker _ => .jobQueue
  | .bridge _ => .interactive

/-- The job queue and the terminal server. -/
abbrev State := Jobs.Sys × Terminal.Server

/-- **The port a holder is on**: a worker's from its claim to its final commit, a bridge's for as
    long as it runs. -/
def holds? (s : State) : Holder → Option Nat
  | .worker w => (s.1.worker w).drives?
  | .bridge q => (s.2.bridge? q).bind fun b => if b.running then some b.portId else none

/-- How many holders a port takes. -/
def slots (port : DevicePort) : Nat :=
  match port.purpose with
  | .interactive => 1
  | .jobQueue => (port.maxConcurrentJobs.getD 0).toNat

/-- **The installation**: an undisturbed job queue beside a terminal server whose recoveries spare
    live leases. Each keeps its own clock: the runs on one clock are among them. -/
def Step (site : Jobs.JobSite) (P : Terminal.Process) :
    State → Jobs.Label ⊕ Terminal.Label → State → Prop :=
  beside (guarded (Jobs.Step site) (Jobs.Undisturbed site))
    (guarded (Terminal.Step P) (Terminal.Sparing P))

/-- What holds of the holders in every state of a run. -/
structure Apart (site : Site) (s : State) : Prop where
  port : ∀ x p, holds? s x = some p →
    ∃ port ∈ site.ports, port.id = p ∧ port.purpose = x.purpose
  slots : ∀ port ∈ site.ports, ∀ xs : Finset Holder, (∀ x ∈ xs, holds? s x = some port.id) →
    xs.card ≤ slots port

section Holders

variable {site : Site} {s : State} {q : Terminal.Place} {p : Nat}

theorem holds_bridge (h : holds? s (.bridge q) = some p) :
    ∃ b, s.2.bridge? q = some b ∧ b.running = true ∧ b.portId = p := by
  obtain ⟨b, hb, hport⟩ := Option.bind_eq_some_iff.mp h
  split at hport
  · rename_i hrun
    exact ⟨b, hb, hrun, Option.some.inj hport⟩
  · cases hport

/-- All holders of a port are of its purpose. -/
theorem purpose_of_holds {x : Holder} {port : DevicePort}
    (hport : ∀ x p, holds? s x = some p → ∃ q ∈ site.ports, q.id = p ∧ q.purpose = x.purpose)
    (hmem : port ∈ site.ports) (hx : holds? s x = some port.id) : port.purpose = x.purpose := by
  obtain ⟨q, hq, hid, hpurpose⟩ := hport x port.id hx
  rw [← Table.eq_of_key hq hmem hid]
  exact hpurpose

theorem Holder.worker_of {x : Holder} (h : x.purpose = .jobQueue) : ∃ w, x = .worker w := by
  cases x with
  | worker w => exact ⟨w, rfl⟩
  | bridge q => cases h

theorem Holder.bridge_of {x : Holder} (h : x.purpose = .interactive) : ∃ q, x = .bridge q := by
  cases x with
  | worker w => cases h
  | bridge q => exact ⟨q, rfl⟩

/-- Two bridges on one port are one. -/
theorem card_bridges {xs : Finset Holder} (hexcl : Terminal.PortExclusive s.2)
    (hx : ∀ x ∈ xs, ∃ q, x = .bridge q) (hxs : ∀ x ∈ xs, holds? s x = some p) : xs.card ≤ 1 := by
  refine Finset.card_le_one.mpr fun x hmem y hmem' => ?_
  obtain ⟨q, rfl⟩ := hx x hmem
  obtain ⟨r, rfl⟩ := hx y hmem'
  obtain ⟨b, hb, hrun, hid⟩ := holds_bridge (hxs _ hmem)
  obtain ⟨c, hc, hrun', hid'⟩ := holds_bridge (hxs _ hmem')
  rw [hexcl q r b c hb hc hrun hrun' (hid.trans hid'.symm)]

/-- A bound on workers bounds the holders that are workers. -/
theorem card_workers {port : DevicePort} {xs : Finset Holder}
    (hx : ∀ x ∈ xs, ∃ w, x = .worker w)
    (hcap : ∀ ws : Finset Jobs.Worker, (∀ w ∈ ws, Holder.worker w ∈ xs) → ws.card ≤ slots port) :
    xs.card ≤ slots port := by
  have hinj : Set.InjOn Holder.worker (Set.preimage Holder.worker (xs : Set Holder)) :=
    fun _ _ _ _ h => Holder.worker.inj h
  have hsub : xs ⊆ (xs.preimage Holder.worker hinj).image Holder.worker := by
    intro x hmem
    obtain ⟨w, rfl⟩ := hx x hmem
    exact Finset.mem_image_of_mem _ (Finset.mem_preimage.mpr hmem)
  calc xs.card ≤ ((xs.preimage Holder.worker hinj).image Holder.worker).card :=
        Finset.card_le_card hsub
    _ ≤ (xs.preimage Holder.worker hinj).card := Finset.card_image_le
    _ ≤ slots port := hcap _ fun w hw => Finset.mem_preimage.mp hw

/-- **A line has no more holders than the ports of its name have slots.** -/
theorem card_le_slots (h : Apart site s) (ports : List DevicePort)
    (hports : ∀ port ∈ ports, port ∈ site.ports) : ∀ xs : Finset Holder,
    (∀ x ∈ xs, ∃ port ∈ ports, holds? s x = some port.id) →
      xs.card ≤ (ports.map slots).sum := by
  induction ports with
  | nil =>
      intro xs hx
      have hnone : xs = ∅ := Finset.eq_empty_of_forall_notMem fun x hmem => by
        obtain ⟨port, hport, -⟩ := hx x hmem
        cases hport
      rw [hnone]
      exact le_rfl
  | cons port ports ih =>
      intro xs hx
      let on : Holder → Prop := fun x => holds? s x = some port.id
      have hfirst : (xs.filter on).card ≤ slots port :=
        h.slots port (hports port List.mem_cons_self) _ fun x hmem => (Finset.mem_filter.mp hmem).2
      have hrest : (xs.filter fun x => ¬on x).card ≤ (ports.map slots).sum := by
        refine ih (fun q hq => hports q (List.mem_cons_of_mem _ hq)) _ fun x hmem => ?_
        obtain ⟨hxs, hoff⟩ := Finset.mem_filter.mp hmem
        obtain ⟨q, hq, hhold⟩ := hx x hxs
        rcases List.mem_cons.mp hq with rfl | hq
        · exact absurd hhold hoff
        · exact ⟨q, hq, hhold⟩
      have hsplit := Finset.card_filter_add_card_filter_not (s := xs) on
      rw [List.map_cons, List.sum_cons]
      omega

end Holders

/-! ## 4. Runs -/

section Runs

variable {site : Jobs.JobSite} {P : Terminal.Process} {s₀ s : State}
  {ls : List (Jobs.Label ⊕ Terminal.Label)}

/-- **The holders in every state of a run.** -/
theorem apart_run (hjobs : s₀.1.Started) (hterm : s₀.2.Started) (hrows : s₀.2.LeaseRows)
    (hsite : s₀.2.site = site.toSite) (h : Run (Step site P) s₀ ls s) : Apart site.toSite s := by
  have hexec : Jobs.ExecutesExclusively site.toSite s.1 := Jobs.exclusive_run hjobs h.left
  have hjobPorts : Jobs.OnJobPorts site.toSite s.1 := Jobs.onJobPorts_run hjobs h.left
  obtain ⟨hexcl, -⟩ := Terminal.port_exclusive_run hterm hrows h.right
  obtain ⟨hstays, hports⟩ := Terminal.onInteractivePorts_run hterm hrows h.right
  have hport : ∀ x p, holds? s x = some p →
      ∃ port ∈ site.ports, port.id = p ∧ port.purpose = x.purpose := by
    intro x p hx
    cases x with
    | worker w =>
        obtain ⟨port, hmem, hid, hpurpose, -⟩ := hjobPorts w p hx
        exact ⟨port, hmem, hid, hpurpose⟩
    | bridge q =>
        obtain ⟨b, hb, -, hid⟩ := holds_bridge hx
        obtain ⟨port, hmem, hid', hpurpose⟩ := hports q b hb
        rw [hstays, hsite] at hmem
        exact ⟨port, hmem, hid'.trans hid, hpurpose⟩
  refine ⟨hport, fun port hmem xs hxs => ?_⟩
  have hall : ∀ x ∈ xs, x.purpose = port.purpose := fun x hx =>
    (purpose_of_holds hport hmem (hxs x hx)).symm
  cases hpurpose : port.purpose with
  | interactive =>
      rw [slots, hpurpose]
      exact card_bridges hexcl (fun x hx => Holder.bridge_of ((hall x hx).trans hpurpose)) hxs
  | jobQueue =>
      refine card_workers (fun x hx => Holder.worker_of ((hall x hx).trans hpurpose))
        fun ws hws => ?_
      rcases ws.eq_empty_or_nonempty with rfl | ⟨w, hw⟩
      · exact Nat.zero_le _
      · obtain ⟨p, hp, hid, -, hcap⟩ := hjobPorts w port.id (hxs _ (hws w hw))
        rw [Table.eq_of_key hp hmem hid] at hcap
        obtain ⟨m, hm⟩ := Option.ne_none_iff_exists'.mp hcap
        have hle := hexec.1 port hmem m hm ws fun v hv => hxs _ (hws v hv)
        rw [slots, hpurpose, hm]
        show ws.card ≤ m.toNat
        omega

/-- **WHO HOLDS A LINE**, in every interleaving of the job queue's steps and the terminal's: every
    holder is on a port of its purpose, and a line has no more holders, workers and bridges
    together, than the ports of its name have slots. -/
theorem lines_run (hjobs : s₀.1.Started) (hterm : s₀.2.Started) (hrows : s₀.2.LeaseRows)
    (hsite : s₀.2.site = site.toSite) (h : Run (Step site P) s₀ ls s) :
    (∀ x p, holds? s x = some p →
      ∃ port ∈ site.ports, port.id = p ∧ port.purpose = x.purpose) ∧
    ∀ path, ∀ xs : Finset Holder,
      (∀ x ∈ xs, ∃ port ∈ site.ports, port.devPath = path ∧ holds? s x = some port.id) →
        xs.card ≤ ((site.ports.rows.filter fun port => port.devPath == path).map slots).sum := by
  have hapart := apart_run hjobs hterm hrows hsite h
  refine ⟨hapart.port, fun path xs hxs => ?_⟩
  refine card_le_slots hapart _ (fun port hport => (List.mem_filter.mp hport).1) xs fun x hx => ?_
  obtain ⟨port, hmem, hpath, hhold⟩ := hxs x hx
  exact ⟨port, List.mem_filter.mpr ⟨hmem, beq_iff_eq.mpr hpath⟩, hhold⟩

end Runs

/-- The device of `smallSite` with a job port and an interactive port, each on its own line. -/
def benchSite : Jobs.JobSite :=
  { Jobs.smallSite with
    ports := Jobs.smallSite.ports.insert
      { Terminal.deskSite.deskPort 2 1 with devPath := "/dev/ttyUSB1" } }

def benchStart : State := (Jobs.smallStart, { Terminal.deskStart with site := benchSite.toSite })

/-- A worker transfers a job while its user is at the terminal. -/
theorem lines_run_small : ∃ s : State, holds? s (.worker Jobs.workerA) = some 1 ∧
    holds? s (.bridge (.active "alice")) = some 2 ∧
    ∀ path, ∀ xs : Finset Holder,
      (∀ x ∈ xs, ∃ port ∈ benchSite.ports, port.devPath = path ∧ holds? s x = some port.id) →
        xs.card ≤
          ((benchSite.ports.rows.filter fun port => port.devPath == path).map slots).sum := by
  have hjobs : (execAll (execWhen (Jobs.quiet benchSite) (Jobs.exec benchSite)) benchStart.1
      (Jobs.claimSteps 0 Jobs.workerA ++ Jobs.transferSteps 0 Jobs.workerA)).any
        (fun s => decide ((s.worker Jobs.workerA).drives? = some 1)) = true := by decide
  have hterm : (play (Terminal.fire Terminal.desk (Terminal.sparing Terminal.desk)) benchStart.2
      [(0, Terminal.requestOk "alice" 1)]).any
        (fun r => Terminal.runsOn r.2 (.active "alice") 2) = true := by decide
  obtain ⟨sys, hr, hp⟩ := exists_guarded_run (fun _ _ => Jobs.undisturbed_of_quiet) hjobs
  obtain ⟨_, server, hr', hp'⟩ :=
    exists_run_of_play (Terminal.guarded_of_fire Terminal.sparing_of) hterm
  obtain ⟨b, hb, hruns⟩ := (Option.any_eq_true _ _).mp hp'
  obtain ⟨hrun, hid⟩ := Bool.and_eq_true_iff.mp hruns
  have hholds : holds? (sys, server) (.bridge (.active "alice")) = some 2 := by
    show ((server.bridge? (.active "alice")).bind _) = _
    rw [hb, Option.bind_some, if_pos hrun, beq_iff_eq.mp hid]
  exact ⟨(sys, server), of_decide_eq_true hp, hholds,
    (lines_run Jobs.smallStart_started ⟨rfl, rfl, rfl, rfl⟩
      (fun _ hl => absurd hl List.not_mem_nil) rfl (hr.beside hr')).2⟩

end RetroBridge.Installation
