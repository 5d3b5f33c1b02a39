/-
  File:      RetroBridge/Jobs/Drain.lean
  Subject:   THE READ LOOPS OF A JOB (worker.py: `run_job_on_device`, `_fd_read`).

  Two loops read from the device: the initial drain, before the pre-transfer commands, and the
  capture. The capture looks at the clock in every turn; the drain ends when the line falls silent
  and looks at nothing else.

  * `FdRead.silent`, `drainsOn` -- a read after which the drain goes on; `runStep_drain`,
    `execAll_drainCalls`: the turns of the drain are steps of the machine;
  * `Line`, `Advances` -- what the two loops meet, on a clock that advances by `d` a read;
  * `captureBound`, `capture_stops` -- **the capture stops within `max_runtime / d` turns and two,
    whatever the device does**;
  * `stops_within_iff` -- **both loops stop within a number of turns from that bound on exactly
    where the line falls silent within that number of reads.**
-/
import Mathlib.Tactic.Linarith
import RetroBridge.Jobs.Capture

namespace RetroBridge.Jobs

open Transition

/-! ## 1. The drain -/

/-- The read that ends a drain: no bytes, or an exception that the drain swallows. -/
def FdRead.silent : FdRead → Bool
  | .bytes (_ :: _) => false
  | .bytes [] | .raises => true

/-- One turn of the drain; it keeps no variables. -/
def drainsOn (_ : Unit) (read : FdRead) : Option Unit := if read.silent then none else some ()

/-- **A turn of the drain is a step of the machine.** -/
theorem runStep_drain {site : JobSite} {port : DevicePort} {now : Time} {row : Option Job}
    {obj : Job} (read : FdRead) :
    runStep site port now row ⟨obj, .draining⟩ read.event =
      some ⟨obj, if (drainsOn () read).isSome then .draining
        else .pre (site.resolveCmds .pre obj port)⟩ := by
  cases read with
  | raises => rfl
  | bytes data => cases data <;> rfl

/-- A drain that goes on is the run of its calls, and stays where it is. -/
theorem execAll_drainCalls {site : JobSite} {port : DevicePort} {row : Option Job} {obj : Job}
    {calls : List (Time × FdRead)} (h : execAll drainsOn () (calls.map Prod.snd) = some ()) :
    execAll (execCall site port) ⟨obj, .draining⟩
      (calls.map fun call => ⟨call.1, row, some call.2.event⟩) = some ⟨obj, .draining⟩ := by
  induction calls with
  | nil => rfl
  | cons call rest ih =>
      obtain ⟨_, hone, hrest⟩ := Option.bind_eq_some_iff.mp h
      have hstep : execCall site port ⟨obj, .draining⟩ ⟨call.1, row, some call.2.event⟩ =
          some ⟨obj, .draining⟩ := by
        show runStep site port call.1 row ⟨obj, .draining⟩ call.2.event = _
        rw [runStep_drain, hone]
        rfl
      rw [List.map_cons, execAll, hstep]
      exact ih hrest

/-- A drain stops at its first silent read. -/
theorem execAll_drainsOn {reads : List FdRead} :
    execAll drainsOn () reads = none ↔ ∃ read ∈ reads, read.silent = true := by
  induction reads with
  | nil => simp [execAll]
  | cons read rest ih =>
      cases hs : read.silent with
      | true => simp [execAll, drainsOn, hs]
      | false => simp [execAll, drainsOn, hs, ih]

/-! ## 2. A line on an advancing clock -/

/-- What the two loops meet, read by read; the drain never looks at its clock. -/
structure Line where
  drainClock : Nat → Time
  drain : Nat → FdRead
  turns : Nat → Iteration

/-- **The clock advances by at least `d` a read**; the capture starts at `t₀`. -/
structure Advances (d t₀ : Time) (line : Line) : Prop where
  drain : ∀ n, line.drainClock n + d ≤ line.drainClock (n + 1)
  start : t₀ ≤ (line.turns 0).top
  turns : ∀ n, (line.turns n).top + d ≤ (line.turns (n + 1)).top

/-- Both loops are left within `n` turns. -/
def StopsWithin (port : DevicePort) (t₀ : Time) (n : Nat) (line : Line) : Prop :=
  execAll drainsOn () (firstOf line.drain n) = none ∧
    execAll (goesOn port) (.start t₀) (firstOf line.turns n) = none

/-! ## 3. The capture stops -/

/-- The turns a capture can take, where the clock advances by `d` a turn. -/
def captureBound (d maxRuntime : Time) : Nat := (maxRuntime / d).toNat + 2

section Bound

variable {port : DevicePort} {d t₀ : Time} {line : Line}

/-- The clock after `n` turns. -/
theorem Advances.top_ge (h : Advances d t₀ line) (n : Nat) : t₀ + n * d ≤ (line.turns n).top := by
  induction n with
  | zero =>
      have hs := h.start
      push_cast
      linarith
  | succ n ih =>
      have hn := h.turns n
      push_cast
      linarith

/-- The last turn of the bound comes after `max_runtime`. -/
theorem lt_captureBound (hd : 0 < d) (maxRuntime : Time) :
    maxRuntime < ((maxRuntime / d).toNat + 1 : Nat) * d := by
  have hlt : maxRuntime < (maxRuntime / d + 1) * d := Int.lt_ediv_add_one_mul_self maxRuntime hd
  have hle : (maxRuntime / d + 1) * d ≤ (((maxRuntime / d).toNat : Int) + 1) * d :=
    Int.mul_le_mul_of_nonneg_right (Int.add_le_add_right (Int.self_le_toNat _) 1) (Int.le_of_lt hd)
  push_cast
  exact lt_of_lt_of_le hlt hle

/-- **THE CAPTURE STOPS**, whatever the device does. -/
theorem capture_stops (hd : 0 < d) (h : Advances d t₀ line) :
    execAll (goesOn port) (.start t₀) (firstOf line.turns (captureBound d (maxRuntime port))) =
      none := by
  rw [captureBound, execAll_firstOf_succ, Option.bind_eq_none_iff]
  intro c hc
  have hstart : c.startTime = t₀ := execAll_goesOn_startTime hc
  have htop := h.top_ge ((maxRuntime port / d).toNat + 1)
  have hlt := lt_captureBound hd (maxRuntime port)
  have hover : (line.turns ((maxRuntime port / d).toNat + 1)).top - c.startTime >
      maxRuntime port := by
    rw [hstart]
    linarith
  rw [goesOn, captureTurn, if_pos hover]

/-- **THE READ LOOPS OF A JOB**: on a clock that advances by `d` a read, both loops stop within `n`
    turns, for every `n` from the bound of the capture on, exactly where one of the first `n` reads
    of the drain is empty or raises. -/
theorem stops_within_iff {n : Nat} (hd : 0 < d) (h : Advances d t₀ line)
    (hn : captureBound d (maxRuntime port) ≤ n) :
    StopsWithin port t₀ n line ↔ ∃ k < n, (line.drain k).silent = true := by
  have hcap : execAll (goesOn port) (.start t₀) (firstOf line.turns n) = none :=
    execAll_firstOf_mono (capture_stops hd h) hn
  rw [StopsWithin, and_iff_left hcap, execAll_drainsOn]
  simp only [firstOf, List.mem_map, List.mem_range]
  constructor
  · rintro ⟨_, ⟨k, hk, rfl⟩, hs⟩
    exact ⟨k, hk, hs⟩
  · rintro ⟨k, hk, hs⟩
    exact ⟨_, ⟨k, hk, rfl⟩, hs⟩

end Bound

/-! ## 4. A line that is never silent -/

/-- A line that answers every read of the drain with `read`, a read a second. -/
def constantLine (read : FdRead) : Line where
  drainClock n := captureStart + seconds n
  drain _ := read
  turns n := turnAt n none [0x2e]

theorem constantLine_advances (read : FdRead) :
    Advances (seconds 1) captureStart (constantLine read) where
  drain n := by
    show captureStart + seconds n + seconds 1 ≤ captureStart + seconds (n + 1 : Nat)
    unfold seconds
    push_cast
    linarith
  start := by
    show captureStart ≤ captureStart + seconds 0
    decide
  turns n := by
    show captureStart + seconds n + seconds 1 ≤ captureStart + seconds (n + 1 : Nat)
    unfold seconds
    push_cast
    linarith

/-- A silent line: both loops stop within the five minutes of the port. -/
theorem stops_within_small :
    StopsWithin defaultPort captureStart (captureBound (seconds 1) (maxRuntime defaultPort))
      (constantLine (.bytes [])) :=
  (stops_within_iff (by decide) (constantLine_advances (.bytes [])) le_rfl).mpr
    ⟨0, Nat.succ_pos _, rfl⟩

/-- **A line that is never silent**: there is no bound for the drain, whatever it depends on. -/
theorem drain_unbounded : ¬ ∃ bound : Time → Time → Nat, ∀ (port : DevicePort) (d t₀ : Time)
    (line : Line), 0 < d → Advances d t₀ line →
      StopsWithin port t₀ (bound d (maxRuntime port)) line := by
  rintro ⟨bound, hb⟩
  have hstop := (hb defaultPort (seconds 1) captureStart _ (by decide)
    (constantLine_advances (.bytes [0x2e]))).1
  obtain ⟨read, hread, hs⟩ := execAll_drainsOn.mp hstop
  obtain ⟨_, _, rfl⟩ := List.mem_map.mp hread
  cases hs

end RetroBridge.Jobs
