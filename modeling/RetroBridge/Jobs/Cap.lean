/-
  File:      RetroBridge/Jobs/Cap.lean
  Subject:   THE CONCURRENCY CAP OF A PORT, on the rows (worker.py: `claim_job`).

  * `PortCapped`, `CapHolds` -- at most `max_concurrent_jobs` running rows on the port; on every
    job port of the site;
  * `portCapped_step` -- the guard of the claim counts in the statement that claims, and no other
    step puts a running row on a port;
  * `ownDevice_step` -- a row that a worker of the run has claimed runs on a port of its device;
  * `port_cap_run` -- both, on every run.
-/
import RetroBridge.Jobs.Change

namespace RetroBridge.Jobs

open Relational Transition

/-! ## 1. The cap -/

/-- At most `max_concurrent_jobs` rows run on the port (NULL bounds nothing: no row is claimed on
    such a port, `hasSlot_iff`). -/
def PortCapped (port : DevicePort) (jobs : Table Job) : Prop :=
  ∀ m, port.maxConcurrentJobs = some m → (jobs.count (Job.occupies port.id) : Int) ≤ m

/-- The cap of every job port. -/
def CapHolds (site : Site) (jobs : Table Job) : Prop :=
  ∀ port ∈ site.ports, port.purpose = .jobQueue → PortCapped port jobs

section Cap

variable {site : JobSite} {s s' : Sys} {l : Label}

/-- The port a worker in the port loop has before it is a port of the site. -/
theorem claim_port_mem (hO : Ok site s) {w : Worker} {deviceId : Nat} {port : DevicePort}
    {ports : List DevicePort} (hw : s.worker w = .claim deviceId (port :: ports)) :
    port ∈ site.ports ∧ port.deviceId = deviceId := by
  have h := hO.worker w
  rw [hw] at h
  obtain ⟨hm, hd, _⟩ := mem_enabledPorts.mp (h port List.mem_cons_self)
  exact ⟨hm, hd⟩

/-- **The rows on a port over one act**: as many or fewer, or one more by a claim that found a
    slot. -/
theorem occupies_effect (hO : Ok site s) {a : Act} (h : effect site s a = some s')
    {port : DevicePort} (hp : port ∈ site.ports) :
    s'.jobs.count (Job.occupies port.id) ≤ s.jobs.count (Job.occupies port.id) ∨
      (hasSlot s.jobs port = true ∧
        s'.jobs.count (Job.occupies port.id) ≤ s.jobs.count (Job.occupies port.id) + 1) := by
  by_cases hcl : ∃ w k deviceId ports, a = .worker w (.claimPort k) ∧
      s.worker w = .claim deviceId (port :: ports) ∧ hasSlot s.jobs port = true
  · obtain ⟨w, k, deviceId, ports, rfl, _, hs⟩ := hcl
    exact Or.inr ⟨hs, effect_count_claim h⟩
  · refine Or.inl
      (effect_count_le hO.recalls h (fun row hrow row' hch ho => ?_) fun r job _ hfl => ?_)
    · obtain ⟨hpid, hrun⟩ := Job.occupies_iff.mp ho
      rcases hch.running hrun with ⟨hr, hpe⟩ | ⟨w, d, q, ps, rfl, hw, hs, _, rfl⟩
      · exact Job.occupies_iff.mpr ⟨hpe.symm.trans hpid, hr⟩
      · -- a claim on a port of this id is a claim on this port
        have hq : q = port :=
          Table.eq_of_key (claim_port_mem hO hw).1 hp (Option.some.inj hpid)
        rw [hq] at hw hs
        exact absurd ⟨w, row.id, d, ps, rfl, hw, hs⟩ hcl
    · have hf := hO.request r
      rw [hfl] at hf
      obtain ⟨sub, t, k, f, n, rfl⟩ := hf
      rfl

theorem portCapped_step (hO : Ok site s) (h : Step site s l s') {port : DevicePort}
    (hp : port ∈ site.ports) (hc : PortCapped port s.jobs) : PortCapped port s'.jobs := by
  intro m hm
  obtain ⟨_, he⟩ := h.effect
  have hO' := hO.at l.1
  have hcm : ((s.at l.1).jobs.count (Job.occupies port.id) : Int) ≤ m := hc m hm
  rcases occupies_effect hO' he hp with hle | ⟨hs, hle⟩
  · omega
  · obtain ⟨m', hm', hlt⟩ := hasSlot_iff.mp hs
    cases hm.symm.trans hm'
    omega

/-! ## 2. The port of a claimed row -/

/-- A worker has claimed job `k` in the steps `ls`. -/
def ClaimedIn (ls : List Label) (k : Nat) : Prop := ∃ t w, (t, Act.worker w (.claimPort k)) ∈ ls

/-- The row's port is a port of its own device. -/
def OwnDevice (site : Site) (j : Job) : Prop :=
  ∃ port ∈ site.ports, j.portId = some port.id ∧ port.deviceId = j.deviceId

theorem ownDevice_step {ls : List Label} (hO : Ok site s) (h : Step site s l s')
    (hI : ∀ j ∈ s.jobs, j.status = .running → ClaimedIn ls j.id → OwnDevice site.toSite j) :
    ∀ j ∈ s'.jobs, j.status = .running → ClaimedIn (ls ++ [l]) j.id → OwnDevice site.toSite j := by
  intro j' hj' hrun hcl
  obtain ⟨_, he⟩ := h.effect
  have hO' := hO.at l.1
  rcases effect_rows hO'.recalls he hj' with ⟨j, hj, hid, hch⟩ | ⟨_, _, _, _, _, _, _, rfl⟩
  · rcases hch.running hrun with ⟨hr, hpe⟩ | ⟨w, d, port, ps, _, hw, _, hq, rfl⟩
    · obtain ⟨t, w, hmem⟩ := hcl
      rcases List.mem_append.mp hmem with hmem | hmem
      · obtain ⟨port, hp, hpid, hd⟩ := hI j hj hr ⟨t, w, hid ▸ hmem⟩
        exact ⟨port, hp, hpe.trans hpid, hd.trans hch.fixed.2.1.symm⟩
      · -- the act claims this row, so the row was queued
        rw [← List.mem_singleton.mp hmem] at he
        obtain ⟨ph, hph, _⟩ := effect_worker he
        obtain ⟨d, _, _, row, _, hrow, hk, _, _, hn, _⟩ := claimPort_enabled hph
        cases Table.eq_of_key hrow hj (hk.trans hid)
        rw [(candidate_iff.mp (candidate_of_isNext hn)).2.1] at hr
        cases hr
    · obtain ⟨hp, hd⟩ := claim_port_mem hO' hw
      exact ⟨port, hp, rfl, hd.trans (candidate_iff.mp hq).1.symm⟩
  · cases hrun

end Cap

/-- **THE CAP HOLDS ON EVERY RUN**, and every running row claimed in the run is on a port of its
    own device. -/
theorem port_cap_run {site : JobSite} {s₀ s : Sys} {ls : List Label} (h0 : s₀.Started)
    (hcap : CapHolds site.toSite s₀.jobs) (h : Run (Step site) s₀ ls s) :
    CapHolds site.toSite s.jobs ∧
      ∀ j ∈ s.jobs, j.status = .running → ClaimedIn ls j.id → OwnDevice site.toSite j := by
  have hI := h.invariant_history
    (I := fun ls s => Ok site s ∧ CapHolds site.toSite s.jobs ∧
      ∀ j ∈ s.jobs, j.status = .running → ClaimedIn ls j.id → OwnDevice site.toSite j)
    ⟨ok_started h0, hcap, fun j _ _ ⟨_, _, hm⟩ => absurd hm List.not_mem_nil⟩
    fun ls s l s' ⟨hO, hc, hd⟩ hs =>
      ⟨step_ok hO hs, fun port hp hq => portCapped_step hO hs hp (hc port hp hq),
        ownDevice_step hO hs hd⟩
  exact hI.2

/-- The claim of the one job of a small installation. -/
theorem port_cap_run_small : ∃ s, Run (Step smallSite) smallStart (claimSteps 0 workerA) s ∧
    s.jobs.count (Job.occupies 1) = 1 ∧ CapHolds smallSite.toSite s.jobs := by
  have h : ((execAll (exec smallSite) smallStart (claimSteps 0 workerA)).any fun s =>
      decide (s.jobs.count (Job.occupies 1) = 1)) = true := by decide
  have hcap : CapHolds smallSite.toSite smallStart.jobs := by
    intro port hp _ m hm
    obtain rfl := List.mem_singleton.mp hp
    cases hm
    decide
  obtain ⟨s, hr, hp⟩ := exists_run_of_execAll h
  exact ⟨s, hr, of_decide_eq_true hp, (port_cap_run smallStart_started hcap hr).1⟩

end RetroBridge.Jobs
