/-
  File:      RetroBridge/Jobs/EventStream.lean
  Subject:   THE LIVE OUTPUT OF A JOB (retrobridge/api/routes.py: `job_events.generate`), while a
             worker appends to the file.

  The worker assigns `output_path` when a run begins and commits it with the status the run ends
  in (OutputPath.lean), so that a stream reads the file in its last poll or never.

  * `JobView` -- the row as the generator reads it: a path is there with a final status only;
  * `Stream`, `Stream.exec` -- the row, the file and the generator, step by step with the appends;
  * `Streams` -- at every poll the texts sent so far are the text of one prefix of the file; the
    prefixes never shrink, and the last is the whole file when a finished job's stream ends;
  * `Undisturbed` -- no append while a finished job is read, and no log without its path;
  * `stream_run` -- **in every run of such steps the stream is one**;
  * `log_never_sent` -- the log of a job that is canceled without its path.
-/
import RetroBridge.Jobs.Model
import RetroBridge.Library.Run
import RetroBridge.Library.TextFile

namespace RetroBridge.Jobs.Events

open Transition TextFiles

/-! ## 1. The generator -/

/-- **What the generator reads of the job's row.** The path is committed with a final status. -/
structure JobView where
  status : JobStatus
  outputPath : Bool
  final : outputPath = true → status.finished = true
  deriving DecidableEq, Repr

/-- What it sends. -/
inductive Event where
  | status (s : JobStatus)
  | output (text : List Char)
  | done (s : JobStatus) (timeout : Bool)
  | heartbeat
  deriving DecidableEq, Repr

/-- Where it stands: before the refresh, before the query of the size, past it with a size that has
    grown, with the file open, at its place, before the check of the status, or at its end -- with
    the size of the file there. -/
inductive Phase where
  | waiting
  | refreshed
  | sized (currentSize : Nat)
  | opened (currentSize : Nat)
  | sought (currentSize : Nat)
  | checking
  | ended (size : Nat)
  deriving DecidableEq, Repr

/-- **The row, the file, and the generator** with its object, its variables and its events. -/
structure Stream where
  row : JobView
  file : Option (List UInt8)
  job : JobView
  lastStatus : JobStatus
  lastOutputSize : Nat
  phase : Phase
  events : List Event
  deriving DecidableEq, Repr

/-- A worker appends to the file, or anyone commits the row; the generator goes on. -/
inductive Act where
  | append (bytes : List UInt8)
  | commit (row : JobView)
  | refresh
  | query
  | openFile
  | seek
  | read
  | check (late : Bool)

namespace Stream

variable (s : Stream)

/-- What the file holds; nothing where it has not been created. -/
def content : List UInt8 := s.file.getD []

/-- `os.path.getsize`; without the file the size counts as unchanged. -/
def currentSize : Nat := (s.file.map List.length).getD s.lastOutputSize

/-- The new bytes, up to this size. -/
def new (size : Nat) : List UInt8 := (s.content.take size).drop s.lastOutputSize

/-- `f.seek(last_output_size)`, then `f.read(current_size - last_output_size)`: so many characters
    of the text that begins there. -/
def newText (size : Nat) : List Char :=
  (text (s.content.drop s.lastOutputSize)).take (size - s.lastOutputSize)

/-- **One step.** -/
def exec : Act → Option Stream
  | .append bytes => some { s with file := some (s.content ++ bytes) }
  | .commit row =>
    -- no commit takes a path back
    if s.row.outputPath = true ∧ row.outputPath = false then none else some { s with row := row }
  | .refresh =>
    match s.phase with
    | .waiting =>
      some { s with
        job := s.row
        lastStatus := s.row.status
        phase := .refreshed
        events := s.events ++ if s.row.status ≠ s.lastStatus then [.status s.row.status] else [] }
    | _ => none
  | .query =>
    match s.phase with
    | .refreshed =>
      if s.job.outputPath = true ∧ s.lastOutputSize < s.currentSize then
        some { s with phase := .sized s.currentSize }
      else some { s with phase := .checking }
    | _ => none
  | .openFile =>
    match s.phase with
    | .sized currentSize =>
      some { s with phase := if s.file.isSome then .opened currentSize else .checking }
    | _ => none
  | .seek =>
    match s.phase with
    | .opened currentSize => some { s with phase := .sought currentSize }
    | _ => none
  | .read =>
    match s.phase with
    | .sought currentSize =>
      some { s with
        lastOutputSize := currentSize
        phase := .checking
        events := s.events ++ [.output (s.newText currentSize)] }
    | _ => none
  | .check late =>
    match s.phase with
    | .checking =>
      if s.job.status.finished = true ∨ late = true then
        some { s with
          phase := .ended s.content.length
          events := s.events ++ [.done s.job.status (!s.job.status.finished)] }
      else some { s with phase := .waiting, events := s.events ++ [.heartbeat] }
    | _ => none

end Stream

/-- The steps of the generator and the worker. -/
def StreamStep (s : Stream) (a : Act) (s' : Stream) : Prop := s.exec a = some s'

/-- Only a commit changes the row. -/
theorem Stream.row_of_exec {s s' : Stream} {a : Act} (hne : ∀ row, a ≠ .commit row)
    (h : StreamStep s a s') : s'.row = s.row := by
  unfold StreamStep at h
  cases a with
  | commit row => exact absurd rfl (hne row)
  | append bytes =>
      cases h
      rfl
  | check late =>
      cases hphase : s.phase <;> simp only [Stream.exec, hphase, reduceCtorEq] at h
      split_ifs at h <;> (cases h; rfl)
  | query =>
      cases hphase : s.phase <;> simp only [Stream.exec, hphase, reduceCtorEq] at h
      split_ifs at h <;> (cases h; rfl)
  | refresh | openFile | seek | read =>
      cases hphase : s.phase <;> simp only [Stream.exec, hphase, reduceCtorEq] at h
      cases h
      rfl

/-- The generator has just been started, on the row as it is. -/
structure Stream.Started (s : Stream) : Prop where
  job : s.job = s.row
  lastOutputSize : s.lastOutputSize = 0
  phase : s.phase = .waiting
  events : s.events = []

/-! ## 2. What a client sees -/

/-- The text of an event. -/
def Event.text : Event → List Char
  | .output text => text
  | _ => []

/-- The event is the last of its poll. -/
def Event.endsPoll : Event → Bool
  | .done _ _ | .heartbeat => true
  | _ => false

/-- **The texts sent so far, at the end of each poll.** -/
def atPolls : List Char → List Event → List (List Char)
  | _, [] => []
  | sent, e :: es =>
    (if e.endsPoll then [sent ++ e.text] else []) ++ atPolls (sent ++ e.text) es

/-- **The stream neither repeats nor drops text.** -/
def Streams (s : Stream) : Prop :=
  ∃ cuts : List Nat, cuts.Pairwise (· ≤ ·) ∧ (∀ n ∈ cuts, n ≤ s.content.length) ∧
    atPolls [] s.events = cuts.map (fun n => text (s.content.take n)) ∧
    ∀ size, s.phase = .ended size → s.job.status.finished = true → cuts.getLast? = some size

/-- The size of the file has been asked for in this poll. -/
def Phase.queried : Phase → Bool
  | .sized _ | .opened _ | .sought _ | .checking => true
  | _ => false

/-- **Steps that disturb nothing**: no append behind the size that is asked for once the job has
    finished, and no finished job without a path but with a log. -/
def Undisturbed (s : Stream) : Act → Prop
  | .append _ => s.job.status.finished = true → s.phase.queried = false
  | .check _ => s.job.status.finished = true → s.job.outputPath = false → s.content = []
  | _ => True

/-! ## 3. One step -/

theorem atPolls_concat (e : Event) (es : List Event) : ∀ sent : List Char,
    atPolls sent (es ++ [e]) =
      atPolls sent es ++ if e.endsPoll then [sent ++ es.flatMap Event.text ++ e.text] else [] := by
  induction es with
  | nil =>
      intro sent
      rw [List.nil_append, atPolls, atPolls, List.flatMap_nil, List.append_nil]
      exact List.append_nil _
  | cons e' es ih =>
      intro sent
      rw [List.cons_append, atPolls, ih, atPolls, List.flatMap_cons]
      simp only [List.append_assoc]

/-- The size a poll has asked for. -/
def Phase.size? : Phase → Option Nat
  | .sized n | .opened n | .sought n => some n
  | _ => none

/-- Nothing has been asked of the file in this poll. -/
def Phase.early : Phase → Bool
  | .waiting | .refreshed => true
  | _ => false

/-- **The generator follows the file**: it has sent nothing, or in its last poll the whole file. -/
structure Follows (s : Stream) : Prop where
  bound : s.lastOutputSize ≤ s.content.length
  early : s.phase.early = true → s.lastOutputSize = 0
  unseen : s.job.outputPath = false → s.lastOutputSize = 0
  sent : s.events.flatMap Event.text = text (s.content.take s.lastOutputSize)
  ahead : ∀ n, s.phase.size? = some n → s.lastOutputSize = 0 ∧ s.job.outputPath = true ∧
    n = s.content.length
  caught : s.phase = .checking → s.job.outputPath = true → s.lastOutputSize = s.content.length
  streams : ∃ cuts : List Nat, cuts.Pairwise (· ≤ ·) ∧ (∀ n ∈ cuts, n ≤ s.lastOutputSize) ∧
    atPolls [] s.events = cuts.map (fun n => text (s.content.take n)) ∧
    ∀ size, s.phase = .ended size → s.job.status.finished = true → cuts.getLast? = some size

variable {s s' s₀ : Stream} {a : Act} {as : List Act}

theorem Stream.Started.follows (h : s.Started) : Follows s where
  bound := h.lastOutputSize ▸ Nat.zero_le _
  early := fun _ => h.lastOutputSize
  unseen := fun _ => h.lastOutputSize
  sent := by
    rw [h.events, h.lastOutputSize]
    rfl
  ahead := fun n hn => by
    rw [h.phase] at hn
    cases hn
  caught := fun hphase => by
    rw [h.phase] at hphase
    cases hphase
  streams := by
    refine ⟨[], List.Pairwise.nil, fun n hn => absurd hn List.not_mem_nil, ?_, fun size hsize => ?_⟩
    · rw [h.events]
      rfl
    · rw [h.phase] at hsize
      cases hsize

/-- A prefix of the file stays one. -/
theorem take_append_of_bound {content bytes : List UInt8} {n : Nat} (h : n ≤ content.length) :
    (content ++ bytes).take n = content.take n := List.take_append_of_le_length h

/-- A poll that has asked for the size of the file has seen a path. -/
theorem Follows.queried (h : Follows s) {n : Nat} (hn : s.phase.size? = some n) :
    s.phase.queried = true ∧ s.job.status.finished = true := by
  refine ⟨?_, s.job.final (h.ahead n hn).2.1⟩
  cases hp : s.phase <;> rw [hp] at hn <;> first | rfl | cases hn

theorem Follows.append (h : Follows s) (bytes : List UInt8)
    (hok : s.job.status.finished = true → s.phase.queried = false) :
    Follows { s with file := some (s.content ++ bytes) } where
  bound := by
    show s.lastOutputSize ≤ (s.content ++ bytes).length
    rw [List.length_append]
    exact Nat.le_add_right_of_le h.bound
  early := h.early
  unseen := h.unseen
  sent := by
    show _ = text ((s.content ++ bytes).take s.lastOutputSize)
    rw [take_append_of_bound h.bound]
    exact h.sent
  ahead := by
    intro n hn
    obtain ⟨hqueried, hfinished⟩ := h.queried hn
    rw [hok hfinished] at hqueried
    cases hqueried
  caught := by
    intro hp hpath
    have hphase : s.phase = .checking := hp
    have hearly := hok (s.job.final hpath)
    rw [hphase] at hearly
    cases hearly
  streams := by
    obtain ⟨cuts, hsorted, hle, hpolls, hend⟩ := h.streams
    refine ⟨cuts, hsorted, hle, ?_, hend⟩
    show atPolls [] s.events = cuts.map fun n => text ((s.content ++ bytes).take n)
    rw [hpolls]
    refine List.map_congr_left fun n hn => ?_
    rw [take_append_of_bound (Nat.le_trans (hle n hn) h.bound)]

/-- **The read of the whole file**: there are not more characters in it than bytes. -/
theorem newText_whole (hlast : s.lastOutputSize = 0) :
    s.newText s.content.length = text s.content := by
  rw [Stream.newText, hlast, List.drop_zero]
  exact List.take_of_length_le (length_text_le _)

theorem Follows.read (h : Follows s) {size : Nat} (hphase : s.phase = .sought size) :
    Follows { s with
      lastOutputSize := size
      phase := .checking
      events := s.events ++ [.output (s.newText size)] } := by
  obtain ⟨hlast, hpath, rfl⟩ := h.ahead size (by rw [hphase]; rfl)
  exact {
    bound := Nat.le_refl _
    early := fun he => by cases he
    unseen := fun hno => by
      rw [show s.job.outputPath = false from hno] at hpath
      cases hpath
    sent := by
      have hnothing : s.events.flatMap Event.text = [] := by
        rw [h.sent, hlast]
        rfl
      rw [List.flatMap_append, hnothing, newText_whole hlast]
      show [] ++ (text s.content ++ []) = text (s.content.take s.content.length)
      rw [List.nil_append, List.append_nil, List.take_length]
    ahead := fun n hn => by cases hn
    caught := fun _ _ => rfl
    streams := by
      obtain ⟨cuts, hsorted, hcuts, hpolls, -⟩ := h.streams
      refine ⟨cuts, hsorted, fun n hn => Nat.le_trans (hcuts n hn) h.bound, ?_,
        fun _ hended => by cases hended⟩
      rw [atPolls_concat]
      exact (List.append_nil _).trans hpolls }

/-- **A poll ends**: what has been sent by then is the text of the bytes passed. -/
theorem Follows.endPoll (h : Follows s) {e : Event} {phase : Phase} (he : e.endsPoll = true)
    (htext : e.text = []) (hsize : phase.size? = none) (hchecking : phase ≠ .checking)
    (hearly : phase.early = true → s.lastOutputSize = 0)
    (hended : ∀ size, phase = .ended size → s.job.status.finished = true →
      s.lastOutputSize = size) :
    Follows { s with phase := phase, events := s.events ++ [e] } where
  bound := h.bound
  early := hearly
  unseen := h.unseen
  sent := by
    rw [List.flatMap_append, h.sent]
    show _ ++ (e.text ++ []) = _
    rw [htext]
    exact List.append_nil _
  ahead := fun n hn => by
    rw [show phase.size? = some n from hn] at hsize
    cases hsize
  caught := fun hp => absurd hp hchecking
  streams := by
    obtain ⟨cuts, hsorted, hcuts, hpolls, -⟩ := h.streams
    refine ⟨cuts ++ [s.lastOutputSize], ?_, ?_, ?_, ?_⟩
    · rw [List.pairwise_append]
      refine ⟨hsorted, List.pairwise_singleton _ _, fun n hn m hm => ?_⟩
      rw [List.mem_singleton.mp hm]
      exact hcuts n hn
    · intro n hn
      rcases List.mem_append.mp hn with hn | hn
      · exact hcuts n hn
      · exact Nat.le_of_eq (List.mem_singleton.mp hn)
    · rw [atPolls_concat, he, if_pos rfl, hpolls, htext, List.append_nil, List.nil_append, h.sent,
        List.map_append]
      rfl
    · intro size hphase hf
      rw [List.getLast?_append]
      exact congrArg some (hended size hphase hf)

theorem Stream.currentSize_of_lt (s : Stream) (h : s.lastOutputSize < s.currentSize) :
    s.currentSize = s.content.length := by
  unfold currentSize content at *
  cases hfile : s.file with
  | none =>
      rw [hfile] at h
      exact absurd h (Nat.lt_irrefl _)
  | some content => rfl

theorem Stream.length_le_currentSize (s : Stream) : s.content.length ≤ s.currentSize := by
  unfold currentSize content
  cases s.file with
  | none => exact Nat.zero_le _
  | some content => exact Nat.le_refl _

/-- A step that sends nothing, past the beginning of the poll. -/
theorem Follows.move (h : Follows s) (phase : Phase) (hlate : phase.early = false)
    (hahead : ∀ n, phase.size? = some n → s.lastOutputSize = 0 ∧ s.job.outputPath = true ∧
      n = s.content.length)
    (hcaught : phase = .checking → s.job.outputPath = true → s.lastOutputSize = s.content.length)
    (hended : ∀ size, phase ≠ .ended size) : Follows { s with phase := phase } where
  bound := h.bound
  early := fun he => by
    rw [show phase.early = true from he] at hlate
    cases hlate
  unseen := h.unseen
  sent := h.sent
  ahead := hahead
  caught := hcaught
  streams := by
    obtain ⟨cuts, hsorted, hcuts, hpolls, -⟩ := h.streams
    exact ⟨cuts, hsorted, hcuts, hpolls, fun size hp => absurd hp (hended size)⟩

/-- **The refresh**, with the status event where the status has changed. -/
theorem Follows.refresh (h : Follows s) (hphase : s.phase = .waiting) {es : List Event}
    (hes : es = [] ∨ ∃ status, es = [.status status]) :
    Follows { s with
      job := s.row
      lastStatus := s.row.status
      phase := .refreshed
      events := s.events ++ es } where
  bound := h.bound
  early := fun _ => h.early (by rw [hphase]; rfl)
  unseen := fun _ => h.early (by rw [hphase]; rfl)
  sent := by
    rcases hes with rfl | ⟨status, rfl⟩
    · rw [List.append_nil]
      exact h.sent
    · rw [List.flatMap_append]
      exact (List.append_nil _).trans h.sent
  ahead := fun n hn => by cases hn
  caught := fun hp => by cases hp
  streams := by
    obtain ⟨cuts, hsorted, hcuts, hpolls, -⟩ := h.streams
    refine ⟨cuts, hsorted, hcuts, ?_, fun size hp => by cases hp⟩
    rcases hes with rfl | ⟨status, rfl⟩
    · rw [List.append_nil]
      exact hpolls
    · rw [atPolls_concat]
      exact (List.append_nil _).trans hpolls

/-- **What one step keeps.** -/
theorem Follows.step (h : Follows s) (hs : StreamStep s a s') (hok : Undisturbed s a) :
    Follows s' := by
  unfold StreamStep at hs
  cases a with
  | append bytes =>
      cases hs
      exact h.append bytes hok
  | commit row =>
      simp only [Stream.exec] at hs
      split_ifs at hs
      cases hs
      exact ⟨h.bound, h.early, h.unseen, h.sent, h.ahead, h.caught, h.streams⟩
  | refresh =>
      cases hphase : s.phase <;> simp only [Stream.exec, hphase, reduceCtorEq] at hs
      cases hs
      refine h.refresh hphase ?_
      split
      · exact Or.inr ⟨_, rfl⟩
      · exact Or.inl rfl
  | query =>
      cases hphase : s.phase <;> simp only [Stream.exec, hphase, reduceCtorEq] at hs
      have hlast : s.lastOutputSize = 0 := h.early (by rw [hphase]; rfl)
      split_ifs at hs with hgrown
      · cases hs
        refine h.move (.sized s.currentSize) rfl (fun n hn => ?_) (fun hp => by cases hp)
          fun size hp => by cases hp
        cases hn
        exact ⟨hlast, hgrown.1, s.currentSize_of_lt hgrown.2⟩
      · cases hs
        refine h.move .checking rfl (fun n hn => by cases hn) (fun _ hpath => ?_)
          fun size hp => by cases hp
        have hnot : s.currentSize ≤ s.lastOutputSize :=
          Nat.le_of_not_lt fun hlt => hgrown ⟨hpath, hlt⟩
        have hle := s.length_le_currentSize
        omega
  | openFile =>
      cases hphase : s.phase <;> simp only [Stream.exec, hphase, reduceCtorEq] at hs
      cases hs
      rename_i size
      have hahead := h.ahead size (by rw [hphase]; rfl)
      split_ifs with hfile
      · refine h.move (.opened size) rfl (fun n hn => ?_) (fun hp => by cases hp)
          fun size hp => by cases hp
        cases hn
        exact hahead
      · -- without a file there is nothing to read
        have hnone : s.file = none := by simpa using hfile
        have hempty : s.content = [] := by rw [Stream.content, hnone]; rfl
        refine h.move .checking rfl (fun n hn => by cases hn) (fun _ _ => ?_)
          fun size hp => by cases hp
        rw [hahead.1, hempty]
        rfl
  | seek =>
      cases hphase : s.phase <;> simp only [Stream.exec, hphase, reduceCtorEq] at hs
      cases hs
      rename_i size
      have hahead := h.ahead size (by rw [hphase]; rfl)
      refine h.move (.sought size) rfl (fun n hn => ?_) (fun hp => by cases hp)
        fun size hp => by cases hp
      cases hn
      exact hahead
  | read =>
      cases hphase : s.phase <;> simp only [Stream.exec, hphase, reduceCtorEq] at hs
      cases hs
      exact h.read hphase
  | check late =>
      cases hphase : s.phase <;> simp only [Stream.exec, hphase, reduceCtorEq] at hs
      split_ifs at hs with hdone
      · cases hs
        refine h.endPoll rfl rfl rfl (fun hp => by cases hp) (fun he => by cases he)
          fun size hp hf => ?_
        cases hp
        cases hpath : s.job.outputPath with
        | true => exact h.caught hphase hpath
        | false => rw [h.unseen hpath, hok hf hpath]; rfl
      · cases hs
        refine h.endPoll rfl rfl rfl (fun hp => by cases hp) (fun _ => h.unseen ?_)
          fun size hp => by cases hp
        exact Bool.eq_false_iff.mpr fun hpath => hdone (.inl (s.job.final hpath))

theorem Follows.toStreams (h : Follows s) : Streams s := by
  obtain ⟨cuts, hsorted, hcuts, hpolls, hended⟩ := h.streams
  exact ⟨cuts, hsorted, fun n hn => Nat.le_trans (hcuts n hn) h.bound, hpolls, hended⟩

/-! ## 4. Every run -/

/-- **THE STREAM NEITHER REPEATS NOR DROPS TEXT** in any run in which nothing is appended while a
    finished job is read and no log is left without its path. -/
theorem stream_run (h0 : s₀.Started) (h : Run (guarded StreamStep Undisturbed) s₀ as s) :
    Streams s :=
  (h.invariant h0.follows fun _ _ _ hi hs => hi.step hs.2 hs.1).toStreams

/-- The decision of `Undisturbed`. -/
def undisturbed (s : Stream) : Act → Bool
  | .append _ => !(s.job.status.finished && s.phase.queried)
  | .check _ => !s.job.status.finished || s.job.outputPath || s.content.isEmpty
  | _ => true

theorem undisturbed_sound (s : Stream) (a : Act) (h : undisturbed s a = true) :
    Undisturbed s a := by
  cases a with
  | append bytes =>
      intro hf
      simp only [undisturbed, hf, Bool.true_and, Bool.not_eq_true'] at h
      exact h
  | check late =>
      intro hf hpath
      simp only [undisturbed, hf, hpath, Bool.not_true, Bool.or_false, Bool.false_or,
        List.isEmpty_iff] at h
      exact h
  | _ => trivial

/-- A running job with no output yet. -/
def runningView : JobView := ⟨.running, false, fun h => by cases h⟩

/-- Its stream. -/
def runningStream : Stream := ⟨runningView, none, runningView, .running, 0, .waiting, []⟩

theorem runningStream_started : runningStream.Started := ⟨rfl, rfl, rfl, rfl⟩

/-- The final commit of a run that has completed. -/
def completedView : JobView := ⟨.completed, true, fun _ => rfl⟩

/-- A recovery has canceled the job. -/
def canceledView : JobView := ⟨.canceled, false, fun h => by cases h⟩

/-- A poll without a path. -/
def quietPoll : List Act := [.refresh, .query, .check false]

/-- A poll that reads the file. -/
def readingPoll : List Act := [.refresh, .query, .openFile, .seek, .read, .check false]

/-- Two appends with a poll between them, then the end of the job. -/
theorem stream_run_small : ∃ as s, Run (guarded StreamStep Undisturbed) runningStream as s ∧
    atPolls [] s.events = [[], ['a', '\n', 'é', '\n']] ∧ s.phase = .ended 5 ∧ Streams s := by
  have h : (execAll (execWhen undisturbed Stream.exec) runningStream
      ([.append [0x61, 0x0A]] ++ quietPoll ++
        [.append [0xC3, 0xA9, 0x0A], .commit completedView] ++ readingPoll)).any
      (fun s => decide (atPolls [] s.events = [[], ['a', '\n', 'é', '\n']] ∧
        s.phase = .ended 5)) = true := by decide
  obtain ⟨s, hr, hp⟩ := exists_guarded_run undisturbed_sound h
  obtain ⟨hpolls, hphase⟩ := of_decide_eq_true hp
  exact ⟨_, s, hr, hpolls, hphase, stream_run runningStream_started hr⟩

/-- **A LOG THAT IS NEVER SENT**: the worker dies, and a recovery cancels the job without its
    path. -/
theorem log_never_sent : ¬∀ (s₀ : Stream) (as : List Act) (s : Stream), s₀.Started →
    Run StreamStep s₀ as s → Streams s := by
  intro h
  obtain ⟨s, hr, hp⟩ := @exists_run_of_execAll _ _ Stream.exec runningStream
    ([.append [0x61, 0x0A]] ++ quietPoll ++ [.commit canceledView] ++ quietPoll)
    (fun s => decide (atPolls [] s.events = [[], []] ∧ s.content = [0x61, 0x0A] ∧
      s.phase = .ended 2 ∧ s.job.status.finished = true)) (by decide)
  obtain ⟨hpolls, hcontent, hphase, hfinished⟩ := of_decide_eq_true hp
  obtain ⟨cuts, -, -, hmap, hend⟩ := h runningStream _ s runningStream_started hr
  -- the last poll is to have sent the two bytes
  have hlast := congrArg (Option.map fun n => text (s.content.take n)) (hend 2 hphase hfinished)
  rw [← List.getLast?_map, ← hmap, hpolls, hcontent] at hlast
  exact absurd hlast (by decide)

end RetroBridge.Jobs.Events
