/-
  File:      RetroBridge/Jobs/LivePage.lean
  Subject:   WHAT THE PAGE OF A JOB IS TOLD (retrobridge/api/routes.py: `job_events.generate`;
             static/js/main.js: `initJobSSE`, `updateJobStatusBadge`), from the commits of the
             workers to the badge in the browser.

  * `Yield`, `Yield.block` -- what the generator yields, as the text of an event stream;
  * `Badge`, `updateJobStatusBadge` -- the label and the classes of a status; `badgeOf_inj`: no two
    statuses look alike;
  * `LivePage`, `receive`, `onError` -- the page, and what the handlers of `initJobSSE` make of a
    message and of an error;
  * `Poll`, `Grammar` -- the events of a stream: whole polls, one part way, and at the end `done`;
  * `Told` -- the statuses it tells: some of those committed, in order, none twice in a row;
  * `page_run` -- **the page is told what was committed, however the stream is cut**, and at its end
    shows the status the job was in.

  The detail page always has the element `job-output-log`, with which the handler of `output`
  changes nothing.
-/
import RetroBridge.Jobs.EventStream
import RetroBridge.Jobs.Pages
import RetroBridge.Library.JsonText
import RetroBridge.Library.ServerSent
import Mathlib.Data.List.Chain

namespace RetroBridge.Jobs.Events

open Transition Json ServerSent Pages

/-! ## 1. The stream as text -/

/-- What the generator yields. -/
inductive Yield where
  | status (d : StatusDict)
  | output (text : List Char)
  | done (s : JobStatus) (timeout : Bool)
  | heartbeat

/-- The event of the model that it is. -/
def Yield.event : Yield → Event
  | .status d => .status d.status
  | .output text => .output text
  | .done s timeout => .done s timeout
  | .heartbeat => .heartbeat

/-- The text of the column. -/
def statusText : JobStatus → List Char
  | .queued => ['q', 'u', 'e', 'u', 'e', 'd']
  | .running => ['r', 'u', 'n', 'n', 'i', 'n', 'g']
  | .completed => ['c', 'o', 'm', 'p', 'l', 'e', 't', 'e', 'd']
  | .failed => ['f', 'a', 'i', 'l', 'e', 'd']
  | .canceled => ['c', 'a', 'n', 'c', 'e', 'l', 'e', 'd']

section Wire

variable (iso : Time → List Char)

/-- `None`, or the text. -/
def optional (text : Option (List Char)) : Scalar := (text.map Scalar.str).getD .null

/-- `None`, or the number. -/
def optionalInt (n : Option Int) : Scalar := (n.map Scalar.int).getD .null

/-- `job_status_dict`; `iso` is `isoformat`. -/
def statusMembers (d : StatusDict) : List (List Char × Scalar) :=
  [("id".toList, .int d.id), ("status".toList, .str (statusText d.status)),
    ("device".toList, optional (d.device.map String.toList)),
    ("created_at".toList, .str (iso d.createdAt)),
    ("started_at".toList, optional (d.startedAt.map iso)),
    ("finished_at".toList, optional (d.finishedAt.map iso)),
    ("runtime_seconds".toList, optionalInt d.runtimeSeconds),
    ("error_message".toList, optional (d.errorMessage.map String.toList)),
    ("exit_code".toList, optionalInt d.exitCode), ("output_path".toList, .bool d.outputPath)]

/-- The dict of a `done`. -/
def doneMembers (s : JobStatus) (timeout : Bool) : List (List Char × Scalar) :=
  ("status".toList, .str (statusText s)) ::
    if timeout then [("reason".toList, .str "timeout".toList)] else []

/-- **The text that is yielded.** -/
def Yield.block : Yield → Block
  | .status d => .event "status".toList (dumps (statusMembers iso d))
  | .output text => .event "output".toList (dumps [("text".toList, .str text)])
  | .done s timeout => .event "done".toList (dumps (doneMembers s timeout))
  | .heartbeat => .comment " heartbeat".toList

end Wire

/-- The numbers of a yield are within the limit on their digits. -/
def Yield.Fits (lim : Limits) : Yield → Prop
  | .status d => (Scalar.int d.id).Fits lim ∧ (optionalInt d.runtimeSeconds).Fits lim ∧
      (optionalInt d.exitCode).Fits lim
  | _ => True

/-! ## 2. The page -/

/-- The badge: its text, and the classes among those that `updateJobStatusBadge` takes away. -/
structure Badge where
  css : List Text
  text : Text
  deriving DecidableEq, Repr

/-- `labels`. -/
def labels : List (List Char × List String × String) :=
  [("queued".toList, ["bg-warning", "text-dark"], "Queued"),
    ("running".toList, ["bg-info"], "Running"),
    ("completed".toList, ["bg-success"], "Completed"),
    ("failed".toList, ["bg-danger"], "Failed"),
    ("canceled".toList, ["bg-secondary"], "Canceled")]

/-- **`updateJobStatusBadge`**: a status that has no label is shown as it is. -/
def updateJobStatusBadge (status : Text) : Badge :=
  match labels.find? fun l => codePoints l.1 == status with
  | some (_, css, text) => ⟨css.map fun c => codePoints c.toList, codePoints text.toList⟩
  | none => ⟨[codePoints "bg-secondary".toList], status⟩

/-- The badge of a status. -/
def badgeOf (s : JobStatus) : Badge := updateJobStatusBadge (codePoints (statusText s))

/-- **No two statuses look alike.** -/
theorem badgeOf_inj {s t : JobStatus} (h : badgeOf s = badgeOf t) : s = t := by
  have hall : ∀ s t : JobStatus, s ≠ t → (badgeOf s).text ≠ (badgeOf t).text := by
    intro s t
    cases s <;> cases t <;> decide +kernel
  by_contra hne
  exact hall s t hne (congrArg Badge.text h)

/-- **The page**: the badge, the three times, whether the download is shown and the cancel button
    is there, and whether the stream is closed. -/
structure LivePage where
  badge : Badge
  startedAt : Text
  finishedAt : Text
  runtime : Text
  download : Bool
  cancel : Bool
  closed : Bool
  deriving DecidableEq, Repr

/-- A property of an object that JSON describes: the last member of the name. -/
def property (v : Value) (key : String) : Option Value :=
  match v with
  | .obj ms => (ms.reverse.find? fun m => m.1 == codePoints key.toList).map Prod.snd
  | _ => none

/-- `if (el && value) { el.textContent = value; }`. -/
def setText (old : Text) : Option Value → Text
  | some (.str s) => if s = [] then old else s
  | _ => old

/-- `data.status`; a text node shows nothing for what is not there. -/
def statusOf : Option Value → Text
  | some (.str s) => s
  | _ => []

namespace LivePage

variable (lim : Limits) (p : LivePage)

/-- The handler of `status`. -/
def onStatus (v : Value) : LivePage where
  badge := updateJobStatusBadge (statusOf (property v "status"))
  startedAt := setText p.startedAt (property v "started_at")
  finishedAt := setText p.finishedAt (property v "finished_at")
  runtime :=
    match property v "runtime_seconds" with
    | some (.int n) => codePoints (intText n ++ ['s'])
    | _ => p.runtime
  download := p.download ||
    match property v "output_path" with
    | some (.bool b) => b
    | _ => false
  cancel := p.cancel && statusOf (property v "status") == codePoints (statusText .queued)
  closed := p.closed

/-- The handler of `done`. -/
def onDone (v : Value) : LivePage :=
  { p with badge := updateJobStatusBadge (statusOf (property v "status")), closed := true }

/-- `evtSource.onerror`, where the connection is lost or has ended. -/
def onError : LivePage := { p with closed := true }

/-- **A message**: none is dispatched behind `close()`, and one that is no JSON changes nothing. -/
def receive (m : Message) : LivePage :=
  if p.closed then p
  else
    match loads lim m.data with
    | .error _ => p
    | .ok v =>
      if m.type = "status".toList then p.onStatus v
      else if m.type = "done".toList then p.onDone v
      else p

/-- What the page is to show of a yield. -/
def shows (iso : Time → List Char) (y : Yield) : LivePage :=
  if p.closed then p
  else
    match y with
    | .status d =>
      { badge := badgeOf d.status
        startedAt := setText p.startedAt (d.startedAt.map fun t => .str (codePoints (iso t)))
        finishedAt := setText p.finishedAt (d.finishedAt.map fun t => .str (codePoints (iso t)))
        runtime := (d.runtimeSeconds.map fun n => codePoints (intText n ++ ['s'])).getD p.runtime
        download := p.download || d.outputPath
        cancel := p.cancel && d.status == .queued
        closed := p.closed }
    | .done s _ => { p with badge := badgeOf s, closed := true }
    | .output _ | .heartbeat => p

end LivePage

/-- Behind an error the page stays as it is. -/
theorem LivePage.receive_onError (lim : Limits) (p : LivePage) (ms : List Message) :
    ms.foldl (LivePage.receive lim) p.onError = p.onError := by
  induction ms with
  | nil => rfl
  | cons m ms ih =>
      have hshut : p.onError.receive lim m = p.onError := if_pos rfl
      rw [List.foldl_cons, hshut, ih]

/-! ## 3. The handlers read what was yielded -/

section Reading

variable {lim : Limits} {iso : Time → List Char} {p : LivePage}

/-- A member of a `dict` is the property of its name. -/
theorem property_of_mem {ms : List (List Char × Scalar)} (hnodup : (ms.map Prod.fst).Nodup)
    (key : String) (v : Scalar) (h : (key.toList, v) ∈ ms) :
    property (.obj (members ms)) key = some v.value := by
  have hinj : ∀ {s t : List Char}, codePoints s = codePoints t → s = t := fun h =>
    List.map_injective_iff.mpr (fun _ _ => Char.toNat_inj.mp) h
  have hmem : (codePoints key.toList, v.value) ∈ (members ms).reverse :=
    List.mem_reverse.mpr (List.mem_map_of_mem h)
  have hsome : ((members ms).reverse.find? fun m => m.1 == codePoints key.toList).isSome := by
    rw [List.find?_isSome]
    exact ⟨_, hmem, beq_self_eq_true _⟩
  obtain ⟨m, hm⟩ := Option.isSome_iff_exists.mp hsome
  have hfound := List.find?_some hm
  have hkey : m.1 = codePoints key.toList := beq_iff_eq.mp hfound
  obtain ⟨n, hn, rfl⟩ := List.mem_map.mp (List.mem_reverse.mp (List.mem_of_find?_eq_some hm))
  have hsame : n = (key.toList, v) :=
    List.inj_on_of_nodup_map hnodup hn h (hinj hkey)
  rw [property, hm, Option.map_some, hsame]

theorem statusMembers_nodup (d : StatusDict) : ((statusMembers iso d).map Prod.fst).Nodup := by
  have hkeys : ["id".toList, "status".toList, "device".toList, "created_at".toList,
      "started_at".toList, "finished_at".toList, "runtime_seconds".toList, "error_message".toList,
      "exit_code".toList, "output_path".toList].Nodup := by decide +kernel
  exact hkeys

theorem doneMembers_nodup (s : JobStatus) (timeout : Bool) :
    ((doneMembers s timeout).map Prod.fst).Nodup := by
  have hkeys : ["status".toList, "reason".toList].Nodup := by decide +kernel
  cases timeout with
  | true => exact hkeys
  | false => exact List.nodup_singleton _

theorem optional_fits (text : Option (List Char)) : (optional text).Fits lim := by
  cases text <;> exact trivial

theorem statusMembers_fits {d : StatusDict} (h : (Yield.status d).Fits lim) :
    ∀ m ∈ statusMembers iso d, m.2.Fits lim := by
  obtain ⟨hid, hruntime, hexit⟩ := h
  intro m hm
  simp only [statusMembers, List.mem_cons, List.not_mem_nil, or_false] at hm
  rcases hm with rfl | rfl | rfl | rfl | rfl | rfl | rfl | rfl | rfl | rfl
  · exact hid
  · exact trivial
  · exact optional_fits _
  · exact trivial
  · exact optional_fits _
  · exact optional_fits _
  · exact hruntime
  · exact optional_fits _
  · exact hexit
  · exact trivial

theorem doneMembers_fits (s : JobStatus) (timeout : Bool) :
    ∀ m ∈ doneMembers s timeout, m.2.Fits lim := by
  intro m hm
  cases timeout <;> simp only [doneMembers, List.mem_cons, List.not_mem_nil, or_false, if_true,
    Bool.false_eq_true, if_false] at hm
  · rw [hm]
    exact trivial
  · rcases hm with rfl | rfl <;> exact trivial

/-- **The handler of `status` shows the dict.** -/
theorem onStatus_members (hopen : p.closed = false) (d : StatusDict) :
    p.onStatus (.obj (members (statusMembers iso d))) = p.shows iso (.status d) := by
  have hread : ∀ {key : String} {v : Scalar}, (key.toList, v) ∈ statusMembers iso d →
      property (.obj (members (statusMembers iso d))) key = some v.value := fun h =>
    property_of_mem (statusMembers_nodup d) _ _ h
  have hstatus := @hread "status" (.str (statusText d.status)) (by simp [statusMembers])
  have hstarted := @hread "started_at" (optional (d.startedAt.map iso)) (by simp [statusMembers])
  have hfinished := @hread "finished_at" (optional (d.finishedAt.map iso)) (by simp [statusMembers])
  have hruntime := @hread "runtime_seconds" (optionalInt d.runtimeSeconds) (by simp [statusMembers])
  have hpath := @hread "output_path" (.bool d.outputPath) (by simp [statusMembers])
  have hqueued : (codePoints (statusText d.status) == codePoints (statusText .queued)) =
      (d.status == .queued) := by
    cases d.status <;> rfl
  rw [LivePage.onStatus, hstatus, hstarted, hfinished, hruntime, hpath, LivePage.shows, hopen]
  have hset : ∀ (old : Text) (t : Option Time), setText old (some (optional (t.map iso)).value) =
      setText old (t.map fun t => .str (codePoints (iso t))) := by
    intro old t
    cases t <;> rfl
  have hrun : (match some (optionalInt d.runtimeSeconds).value with
      | some (.int n) => codePoints (intText n ++ ['s'])
      | _ => p.runtime) =
      (d.runtimeSeconds.map fun n => codePoints (intText n ++ ['s'])).getD p.runtime := by
    cases d.runtimeSeconds <;> rfl
  rw [hset, hset, hrun]
  show LivePage.mk _ _ _ _ _ (p.cancel && (codePoints _ == codePoints _)) _ = _
  rw [hqueued]
  rfl

/-- **A block, received**: the page shows the yield. -/
theorem receive_block (hdepth : 0 < lim.depth) {y : Yield} (hfit : y.Fits lim) :
    ((y.block iso).message?.toList.foldl (LivePage.receive lim) p) = p.shows iso y := by
  cases hclosed : p.closed with
  | true =>
      have hshut : ∀ m, p.receive lim m = p := fun m => by
        rw [LivePage.receive, hclosed, if_pos rfl]
      have hnone : p.shows iso y = p := by
        unfold LivePage.shows
        rw [hclosed, if_pos rfl]
      rw [hnone]
      cases y with
      | heartbeat => rfl
      | _ => exact hshut _
  | false =>
      have hread : ∀ {ms : List (List Char × Scalar)} (type : List Char),
          (∀ m ∈ ms, m.2.Fits lim) → p.receive lim ⟨type, dumps ms⟩ =
            if type = "status".toList then p.onStatus (.obj (members ms))
            else if type = "done".toList then p.onDone (.obj (members ms))
            else p := by
        intro ms type hms
        rw [LivePage.receive, hclosed, if_neg Bool.false_ne_true, loads_dumps hdepth hms]
      have hdone : "done".toList ≠ "status".toList := by decide +kernel
      have hout : "output".toList ≠ "status".toList ∧ "output".toList ≠ "done".toList := by
        decide +kernel
      cases y with
      | heartbeat => rw [LivePage.shows, hclosed]; rfl
      | output text =>
          refine (hread _ fun m hm => ?_).trans ?_
          · rw [List.mem_singleton.mp hm]
            exact trivial
          · rw [if_neg hout.1, if_neg hout.2, LivePage.shows, hclosed]
            rfl
      | status d =>
          refine (hread _ (statusMembers_fits hfit)).trans ?_
          rw [if_pos rfl]
          exact onStatus_members hclosed d
      | done s timeout =>
          refine (hread _ (doneMembers_fits s timeout)).trans ?_
          have hstatus := property_of_mem (doneMembers_nodup s timeout) "status"
            (.str (statusText s)) List.mem_cons_self
          rw [if_neg hdone, if_pos rfl, LivePage.onDone, hstatus, LivePage.shows, hclosed]
          rfl

theorem block_plain (y : Yield) : (y.block iso).Plain := by
  have htext : ∀ ms : List (List Char × Scalar), OneLine (dumps ms) := by
    intro ms c hc
    obtain ⟨hlow, -⟩ := dumps_printable hc
    constructor <;> rintro rfl <;> exact absurd hlow (by decide)
  cases y with
  | status d => exact ⟨by decide +kernel, oneLine_of_all (by decide +kernel), htext _⟩
  | output text => exact ⟨by decide +kernel, oneLine_of_all (by decide +kernel), htext _⟩
  | done s timeout => exact ⟨by decide +kernel, oneLine_of_all (by decide +kernel), htext _⟩
  | heartbeat =>
      have hbeat : OneLine " heartbeat".toList := oneLine_of_all (by decide +kernel)
      exact hbeat

/-- **The page behind a stream**, however it is cut. -/
theorem page_shows (hdepth : 0 < lim.depth) {ys : List Yield} (hfit : ∀ y ∈ ys, y.Fits lim)
    {pieces : List (List Char)} (hp : pieces.flatten = ys.flatMap fun y => (y.block iso).text) :
    (reader.pieces start pieces).foldl (LivePage.receive lim) p =
      ys.foldl (LivePage.shows · iso) p := by
  have hblocks : ∀ b ∈ ys.map (Yield.block iso), b.Plain := by
    intro b hb
    obtain ⟨y, -, rfl⟩ := List.mem_map.mp hb
    exact block_plain y
  rw [pieces_blocks hblocks (by rw [hp, List.flatMap_map])]
  clear hp hblocks
  induction ys generalizing p with
  | nil => rfl
  | cons y ys ih =>
      have hsplit : ((y :: ys).map (Yield.block iso)).filterMap Block.message? =
          (y.block iso).message?.toList ++ (ys.map (Yield.block iso)).filterMap Block.message? := by
        rw [List.map_cons, List.filterMap_cons]
        cases (y.block iso).message? <;> rfl
      rw [hsplit, List.foldl_append, receive_block hdepth (hfit y List.mem_cons_self),
        ih fun z hz => hfit z (List.mem_cons_of_mem y hz)]
      rfl

end Reading

/-! ## 4. The events of a stream -/

/-- The events of a poll before its last one. -/
structure Poll where
  status : Option JobStatus
  output : Option (List Char)

def Poll.events (q : Poll) : List Event :=
  q.status.toList.map .status ++ q.output.toList.map .output

/-- A poll behind which the generator sleeps. -/
def Poll.whole (q : Poll) : List Event := q.events ++ [.heartbeat]

def Phase.isEnded : Phase → Bool
  | .ended _ => true
  | _ => false

/-- What closes the stream. -/
def Stream.closing (s : Stream) : List Event :=
  if s.phase.isEnded then [.done s.job.status (!s.job.status.finished)] else []

/-- What the poll part way can have sent in a phase. -/
def Poll.In (q : Poll) : Phase → Prop
  | .waiting => q.status = none ∧ q.output = none
  | .refreshed | .sized _ | .opened _ | .sought _ => q.output = none
  | .checking | .ended _ => True

/-- **The events**: whole polls that saw an unfinished job, one part way, and at the end `done`. -/
def Grammar (s : Stream) : Prop :=
  ∃ (polls : List Poll) (q : Poll), s.events = polls.flatMap Poll.whole ++ q.events ++ s.closing ∧
    q.In s.phase ∧ (∀ st, q.status = some st → st = s.job.status) ∧
    ∀ r ∈ polls, ∀ st, r.status = some st → st.finished = false

/-- The status an event tells. -/
def Event.status? : Event → Option JobStatus
  | .status s => some s
  | _ => none

/-- The status an act commits. -/
def Act.committed? : Act → Option JobStatus
  | .commit row => some row.status
  | _ => none

/-- The statuses committed in a run. -/
def committed (as : List Act) : List JobStatus := as.filterMap Act.committed?

/-- **What is told**, from the status the stream has started with: some of the statuses that were
    committed, in order, none twice in a row, up to the one the job is in for the generator. -/
structure Told (s₀ : Stream) (as : List Act) (s : Stream) : Prop where
  ordered : (s₀.row.status :: s.events.filterMap Event.status?).Sublist
    (s₀.row.status :: committed as)
  apart : (s₀.row.status :: s.events.filterMap Event.status?).IsChain (· ≠ ·)
  current : (s₀.row.status :: s.events.filterMap Event.status?).getLast? = some s.job.status

/-- The generator with its variables set. -/
structure Stream.Connected (s : Stream) : Prop extends s.Started where
  lastStatus : s.lastStatus = s.row.status

/-- What every step keeps. -/
structure Tells (s₀ : Stream) (as : List Act) (s : Stream) : Prop where
  told : Told s₀ as s
  grammar : Grammar s
  last : s.lastStatus = s.job.status
  row : (s₀.row.status :: committed as).getLast? = some s.row.status

section Telling

variable {s₀ s s' : Stream} {as : List Act} {a : Act}

/-- A list within another is within it without its last element, where it ends otherwise. -/
theorem sublist_of_getLast_ne {l h : List JobStatus} {x y : JobStatus} (hsub : l.Sublist h)
    (hl : l.getLast? = some x) (hh : h.getLast? = some y) (hne : x ≠ y) :
    (l ++ [y]).Sublist h := by
  obtain ⟨front, rfl⟩ := List.getLast?_eq_some_iff.mp hh
  obtain ⟨l₁, l₂, rfl, h₁, h₂⟩ := List.sublist_append_iff.mp hsub
  have hnil : l₂ = [] := by
    rcases List.sublist_singleton.mp h₂ with h | h
    · exact h
    · rw [h, List.getLast?_append] at hl
      cases hl
      exact absurd rfl hne
  rw [hnil, List.append_nil]
  exact h₁.append (List.Sublist.refl [y])

theorem Stream.Connected.tells (h : s₀.Connected) : Tells s₀ [] s₀ := by
  have hnone : s₀.events.filterMap Event.status? = [] := by rw [h.events]; rfl
  have hjob : s₀.job.status = s₀.row.status := by rw [h.job]
  refine ⟨⟨?_, ?_, ?_⟩, ⟨[], ⟨none, none⟩, ?_, ?_, nofun, nofun⟩, ?_, rfl⟩
  · rw [hnone]
    exact List.Sublist.refl _
  · rw [hnone]
    exact List.isChain_singleton _
  · rw [hnone, hjob]
    rfl
  · rw [h.events, Stream.closing, h.phase]
    rfl
  · rw [h.phase]
    exact ⟨rfl, rfl⟩
  · rw [h.lastStatus, hjob]

theorem committed_concat (a : Act) :
    committed (as ++ [a]) = committed as ++ a.committed?.toList := by
  rw [committed, List.filterMap_append]
  cases h : a.committed? <;> simp [committed, h]

theorem committed_quiet (h : a.committed? = none) : committed (as ++ [a]) = committed as := by
  rw [committed_concat, h]
  exact List.append_nil _

/-- A step that sends nothing, and keeps the grammar. -/
theorem Tells.quiet (h : Tells s₀ as s) (hevents : s'.events = s.events) (hjob : s'.job = s.job)
    (hlast : s'.lastStatus = s.lastStatus) (hrow : s'.row.status = s.row.status)
    (ha : committed (as ++ [a]) = committed as) (hgrammar : Grammar s') :
    Tells s₀ (as ++ [a]) s' := by
  refine ⟨⟨?_, ?_, ?_⟩, hgrammar, ?_, ?_⟩
  · rw [hevents, ha]
    exact h.told.ordered
  · rw [hevents]
    exact h.told.apart
  · rw [hevents, hjob]
    exact h.told.current
  · rw [hlast, hjob]
    exact h.last
  · rw [ha, hrow]
    exact h.row

/-- The poll part way goes on. -/
theorem Grammar.move (h : Grammar s) {phase : Phase} (hnot : s.phase.isEnded = false)
    (hnot' : phase.isEnded = false)
    (hin : ∀ q : Poll, q.In s.phase → q.In phase) : Grammar { s with phase := phase } := by
  obtain ⟨polls, q, hevents, hq, hstatus, hpolls⟩ := h
  refine ⟨polls, q, ?_, hin q hq, hstatus, hpolls⟩
  have hopen : s.closing = [] := by rw [Stream.closing, hnot]; rfl
  have hopen' : Stream.closing { s with phase := phase } = [] := by
    show (if phase.isEnded then _ else []) = []
    rw [hnot']
    rfl
  rw [hopen', ← hopen]
  exact hevents

/-- **The refresh** tells the status that was committed last, where it is another one. -/
theorem Tells.refresh (h : Tells s₀ as s) (hphase : s.phase = .waiting) :
    Tells s₀ (as ++ [.refresh]) { s with
      job := s.row
      lastStatus := s.row.status
      phase := .refreshed
      events :=
        s.events ++ if s.row.status ≠ s.lastStatus then [.status s.row.status] else [] } := by
  obtain ⟨⟨hsub, hapart, hcurrent⟩, ⟨polls, q, hevents, hq, hstatus, hpolls⟩, hlast, hrow⟩ := h
  have hsame : committed (as ++ [.refresh]) = committed as := committed_quiet rfl
  have hclosing : s.closing = [] := by rw [Stream.closing, hphase]; rfl
  rw [hphase] at hq
  have hempty : q.events = [] := by rw [Poll.events, hq.1, hq.2]; rfl
  rw [hclosing, hempty, List.append_nil, List.append_nil] at hevents
  by_cases hne : s.row.status ≠ s.lastStatus
  · rw [if_pos hne]
    have hsplit : (s.events ++ [Event.status s.row.status]).filterMap Event.status? =
        s.events.filterMap Event.status? ++ [s.row.status] := List.filterMap_append
    have hdiffer : s.job.status ≠ s.row.status := fun he => hne (by rw [hlast, he])
    refine ⟨⟨?_, ?_, ?_⟩, ⟨polls, ⟨some s.row.status, none⟩, ?_, rfl, fun st hst => ?_, hpolls⟩,
      rfl, ?_⟩
    · rw [hsplit, hsame, ← List.cons_append]
      exact sublist_of_getLast_ne hsub hcurrent hrow hdiffer
    · rw [hsplit, ← List.cons_append, List.isChain_append]
      refine ⟨hapart, List.isChain_singleton _, fun x hx y hy => ?_⟩
      rw [hcurrent] at hx
      cases hx
      cases hy
      exact hdiffer
    · rw [hsplit, ← List.cons_append, List.getLast?_append]
      rfl
    · rw [hevents]
      exact (List.append_nil _).symm
    · exact (Option.some.inj hst).symm
    · rw [hsame]
      exact hrow
  · rw [if_neg hne, List.append_nil]
    have hstays : s.row.status = s.job.status := by
      rw [← hlast]
      exact not_not.mp hne
    refine ⟨⟨?_, hapart, ?_⟩, ⟨polls, ⟨none, none⟩, ?_, rfl, nofun, hpolls⟩, rfl, ?_⟩
    · rw [hsame]
      exact hsub
    · show _ = some s.row.status
      rw [hstays]
      exact hcurrent
    · rw [hevents]
      exact ((List.append_nil _).trans (List.append_nil _)).symm
    · rw [hsame]
      exact hrow

/-- An event that tells no status. -/
theorem Tells.send (h : Tells s₀ as s) {e : Event} (he : e.status? = none) {phase : Phase}
    {n : Nat} (ha : committed (as ++ [a]) = committed as)
    (hgrammar : Grammar { s with
      lastOutputSize := n, phase := phase, events := s.events ++ [e] }) :
    Tells s₀ (as ++ [a]) { s with
      lastOutputSize := n, phase := phase, events := s.events ++ [e] } := by
  have hsame : (s.events ++ [e]).filterMap Event.status? = s.events.filterMap Event.status? := by
    rw [List.filterMap_append]
    simp [he]
  refine ⟨⟨?_, ?_, ?_⟩, hgrammar, h.last, ?_⟩
  · rw [hsame, ha]
    exact h.told.ordered
  · rw [hsame]
    exact h.told.apart
  · rw [hsame]
    exact h.told.current
  · rw [ha]
    exact h.row

/-- **What one step keeps.** -/
theorem Tells.step (h : Tells s₀ as s) (hs : StreamStep s a s') : Tells s₀ (as ++ [a]) s' := by
  unfold StreamStep at hs
  cases a with
  | append bytes =>
      cases hs
      exact h.quiet rfl rfl rfl rfl (committed_quiet rfl) h.grammar
  | commit row =>
      simp only [Stream.exec] at hs
      split_ifs at hs
      cases hs
      have hmore : s₀.row.status :: committed (as ++ [.commit row]) =
          (s₀.row.status :: committed as) ++ [row.status] := by
        rw [committed_concat]
        rfl
      refine ⟨⟨?_, h.told.apart, h.told.current⟩, h.grammar, h.last, ?_⟩
      · rw [hmore]
        exact h.told.ordered.trans (List.sublist_append_left _ _)
      · rw [hmore, List.getLast?_append]
        rfl
  | refresh =>
      cases hphase : s.phase <;> simp only [Stream.exec, hphase, reduceCtorEq] at hs
      cases hs
      exact h.refresh hphase
  | query =>
      cases hphase : s.phase <;> simp only [Stream.exec, hphase, reduceCtorEq] at hs
      have hmove : ∀ phase : Phase, phase.isEnded = false →
          (∀ q : Poll, q.output = none → q.In phase) →
          Tells s₀ (as ++ [.query]) { s with phase := phase } := fun phase hnot hin =>
        h.quiet rfl rfl rfl rfl (committed_quiet rfl)
          (h.grammar.move (by rw [hphase]; rfl) hnot fun q hq => by
            rw [hphase] at hq
            exact hin q hq)
      split_ifs at hs
      · cases hs
        exact hmove _ rfl fun _ hq => hq
      · cases hs
        exact hmove _ rfl fun _ _ => trivial
  | openFile =>
      cases hphase : s.phase <;> simp only [Stream.exec, hphase, reduceCtorEq] at hs
      cases hs
      refine h.quiet rfl rfl rfl rfl (committed_quiet rfl)
        (h.grammar.move (by rw [hphase]; rfl) ?_ fun q hq => ?_)
      · split_ifs <;> rfl
      · rw [hphase] at hq
        split_ifs
        · exact hq
        · exact trivial
  | seek =>
      cases hphase : s.phase <;> simp only [Stream.exec, hphase, reduceCtorEq] at hs
      cases hs
      refine h.quiet rfl rfl rfl rfl (committed_quiet rfl)
        (h.grammar.move (by rw [hphase]; rfl) rfl fun q hq => ?_)
      rw [hphase] at hq
      exact hq
  | read =>
      cases hphase : s.phase <;> simp only [Stream.exec, hphase, reduceCtorEq] at hs
      cases hs
      rename_i size
      refine h.send rfl (committed_quiet rfl) ?_
      obtain ⟨polls, q, hevents, hq, hstatus, hpolls⟩ := h.grammar
      rw [hphase] at hq
      have hclosing : s.closing = [] := by rw [Stream.closing, hphase]; rfl
      rw [hclosing, List.append_nil] at hevents
      refine ⟨polls, ⟨q.status, some (s.newText size)⟩, ?_, trivial, hstatus, hpolls⟩
      show s.events ++ _ = _ ++ (q.status.toList.map Event.status ++ [_]) ++ []
      rw [hevents, Poll.events, show q.output = none from hq, List.append_nil, List.append_assoc,
        List.append_assoc]
      rfl
  | check late =>
      cases hphase : s.phase <;> simp only [Stream.exec, hphase, reduceCtorEq] at hs
      obtain ⟨polls, q, hevents, hq, hstatus, hpolls⟩ := h.grammar
      have hclosing : s.closing = [] := by rw [Stream.closing, hphase]; rfl
      rw [hclosing, List.append_nil] at hevents
      by_cases hdone : s.job.status.finished = true ∨ late = true
      · rw [if_pos hdone] at hs
        cases hs
        refine h.send rfl (committed_quiet rfl) ⟨polls, q, ?_, trivial, hstatus, hpolls⟩
        rw [hevents]
        rfl
      · rw [if_neg hdone] at hs
        cases hs
        refine h.send rfl (committed_quiet rfl)
          ⟨polls ++ [q], ⟨none, none⟩, ?_, ⟨rfl, rfl⟩, fun st hst => ?_, fun r hr st hst => ?_⟩
        · show s.events ++ [Event.heartbeat] = (polls ++ [q]).flatMap Poll.whole ++ [] ++ []
          rw [hevents, List.flatMap_append, List.append_nil, List.append_nil,
            List.flatMap_singleton, Poll.whole, List.append_assoc]
        · cases hst
        · rcases List.mem_append.mp hr with hr | hr
          · exact hpolls r hr st hst
          · rw [List.mem_singleton.mp hr] at hst
            rw [hstatus st hst]
            exact Bool.eq_false_iff.mpr fun hf => hdone (.inl hf)

theorem tells_run (h0 : s₀.Connected) (h : Run StreamStep s₀ as s) : Tells s₀ as s :=
  h.invariant_history (I := Tells s₀) h0.tells fun _ _ _ _ hi hs => hi.step hs

end Telling

/-! ## 5. The page behind a stream -/

/-- The status an event shows. -/
def Event.shown? : Event → Option JobStatus
  | .status s | .done s _ => some s
  | _ => none

section Page

variable {iso : Time → List Char} {p : LivePage}

/-- **The badge shows the status told last**, and only a `done` closes the stream. -/
theorem foldl_shows {ys : List Yield} (hopen : p.closed = false)
    (hnone : ∀ y ∈ ys, ∀ s timeout, y.event ≠ .done s timeout) :
    (ys.foldl (LivePage.shows · iso) p).closed = false ∧
      (ys.foldl (LivePage.shows · iso) p).badge =
        match ((ys.map Yield.event).filterMap Event.status?).getLast? with
        | some s => badgeOf s
        | none => p.badge := by
  induction ys using List.reverseRecOn with
  | nil => exact ⟨hopen, rfl⟩
  | append_singleton ys y ih =>
      obtain ⟨hclosed, hbadge⟩ := ih fun z hz => hnone z (List.mem_append_left _ hz)
      have hlast := hnone y (List.mem_append_right _ (List.mem_singleton_self y))
      rw [List.foldl_append, List.foldl_cons, List.foldl_nil]
      generalize ys.foldl (LivePage.shows · iso) p = page at hclosed hbadge ⊢
      rw [List.map_append, List.filterMap_append]
      cases y with
      | status d =>
          rw [LivePage.shows, hclosed]
          refine ⟨rfl, ?_⟩
          rw [List.getLast?_append]
          rfl
      | output text =>
          have hsame : page.shows iso (.output text) = page := by
            rw [LivePage.shows, hclosed]
            rfl
          have htell : ([Yield.output text].map Yield.event).filterMap Event.status? = [] := rfl
          rw [hsame, htell, List.append_nil]
          exact ⟨hclosed, hbadge⟩
      | heartbeat =>
          have hsame : page.shows iso .heartbeat = page := by
            rw [LivePage.shows, hclosed]
            rfl
          have htell : ([Yield.heartbeat].map Yield.event).filterMap Event.status? = [] := rfl
          rw [hsame, htell, List.append_nil]
          exact ⟨hclosed, hbadge⟩
      | done s timeout => exact absurd rfl (hlast s timeout)

/-- Nothing before the end of a stream is `done`. -/
theorem Grammar.split {s : Stream} (h : Grammar s) : ∃ front, s.events = front ++ s.closing ∧
    ∀ e ∈ front, ∀ st timeout, e ≠ .done st timeout := by
  obtain ⟨polls, q, hevents, -, -, -⟩ := h
  have hpoll : ∀ r : Poll, ∀ e ∈ r.events, ∀ st timeout, e ≠ .done st timeout := by
    intro r e he st timeout
    rcases List.mem_append.mp he with he | he
    · obtain ⟨x, -, rfl⟩ := List.mem_map.mp he
      exact nofun
    · obtain ⟨x, -, rfl⟩ := List.mem_map.mp he
      exact nofun
  refine ⟨_, hevents, fun e he st timeout => ?_⟩
  rcases List.mem_append.mp he with he | he
  · obtain ⟨r, -, he⟩ := List.mem_flatMap.mp he
    rcases List.mem_append.mp he with he | he
    · exact hpoll r e he st timeout
    · rw [List.mem_singleton.mp he]
      exact nofun
  · exact hpoll q e he st timeout

/-- **THE PAGE IS TOLD WHAT WAS COMMITTED**, for any commits and appends of the workers between the
    steps of the generator, and however the text is cut: the events are whole polls and a last one,
    the statuses are some of those committed, in order; the badge shows the status of the last poll,
    unless nothing has been told, and the stream is closed exactly at its end. -/
theorem page_run {lim : Limits} {s₀ s : Stream} {as : List Act} (hdepth : 0 < lim.depth)
    (h0 : s₀.Connected) (h : Run StreamStep s₀ as s) {ys : List Yield}
    (hys : ys.map Yield.event = s.events) (hfit : ∀ y ∈ ys, y.Fits lim)
    {pieces : List (List Char)} (hp : pieces.flatten = ys.flatMap fun y => (y.block iso).text)
    (hopen : p.closed = false) :
    Grammar s ∧ Told s₀ as s ∧
      ((reader.pieces start pieces).foldl (LivePage.receive lim) p).closed = s.phase.isEnded ∧
      ((reader.pieces start pieces).foldl (LivePage.receive lim) p).badge =
        if (s.events.filterMap Event.shown?).isEmpty then p.badge else badgeOf s.job.status := by
  obtain ⟨htold, hgrammar, -, -⟩ := tells_run h0 h
  refine ⟨hgrammar, htold, ?_⟩
  rw [page_shows hdepth hfit hp]
  obtain ⟨front, hfront, hnone⟩ := hgrammar.split
  rw [hfront] at hys
  obtain ⟨zs, ws, rfl, hzs, hws⟩ := List.map_eq_append_iff.mp hys
  have hzs' : ∀ y ∈ zs, ∀ st timeout, y.event ≠ .done st timeout := fun y hy st timeout =>
    hnone _ (hzs ▸ List.mem_map_of_mem hy) st timeout
  obtain ⟨hclosed, hbadge⟩ := @foldl_shows iso p zs hopen hzs'
  rw [hzs] at hbadge
  rw [List.foldl_append]
  generalize zs.foldl (LivePage.shows · iso) p = page at hclosed hbadge ⊢
  cases hended : s.phase.isEnded with
  | true =>
      have hclosing : s.closing = [.done s.job.status (!s.job.status.finished)] := by
        rw [Stream.closing, hended, if_pos rfl]
      rw [hclosing] at hws hfront
      obtain ⟨y, rfl, hy⟩ := List.map_eq_singleton_iff.mp hws
      have hshown : (s.events.filterMap Event.shown?).isEmpty = false := by
        rw [hfront, List.filterMap_append]
        cases front.filterMap Event.shown? <;> rfl
      rw [hshown]
      cases y with
      | done st timeout =>
          cases hy
          rw [List.foldl_cons, List.foldl_nil, LivePage.shows, hclosed]
          exact ⟨rfl, rfl⟩
      | _ => cases hy
  | false =>
      have hclosing : s.closing = [] := by
        rw [Stream.closing, hended]
        rfl
      rw [hclosing] at hws hfront
      rw [List.append_nil] at hfront
      rw [List.map_eq_nil_iff.mp hws, List.foldl_nil]
      refine ⟨hclosed, hbadge.trans ?_⟩
      have hsame : ∀ es : List Event, (∀ e ∈ es, ∀ st timeout, e ≠ .done st timeout) →
          es.filterMap Event.shown? = es.filterMap Event.status? := by
        intro es hes
        refine List.filterMap_congr fun e he => ?_
        cases e with
        | done st timeout => exact absurd rfl (hes _ he st timeout)
        | _ => rfl
      rw [hfront, hsame front hnone]
      have hcurrent := htold.current
      rw [hfront] at hcurrent
      cases hlist : front.filterMap Event.status? with
      | nil => rfl
      | cons st sts =>
          rw [hlist, List.getLast?_cons_cons] at hcurrent
          rw [hcurrent]
          rfl

end Page

/-- A job that has completed. -/
def completedDict : StatusDict :=
  ⟨7, .completed, some "centurion", 0, some 0, some 0, some 3, none, some 0, true⟩

/-- What is yielded of a poll that finds nothing new, and of one that finds the job completed. -/
def completedYields : List Yield :=
  [.heartbeat, .status completedDict, .output ['a', '\n'], .done .completed false]

/-- The text of a stream in two pieces, cut in the midst of a line. -/
def cutText (n : Nat) (ys : List Yield) : List (List Char) :=
  let text := ys.flatMap fun y => (y.block fun _ => ['t']).text
  [text.take n, text.drop n]

/-- The page of a running job. -/
def runningPage : LivePage :=
  ⟨badgeOf .running, [], [], [], false, false, false⟩

/-- What that page shows at the end of the stream. -/
theorem page_run_small : ∃ page, page = (reader.pieces start (cutText 50 completedYields)).foldl
      (LivePage.receive ⟨4300, 900⟩) runningPage ∧
    page.closed = true ∧ page.badge = badgeOf .completed := by
  obtain ⟨s, hr, hp⟩ := @exists_run_of_execAll _ _ Stream.exec runningStream
    (quietPoll ++ [.append [0x61, 0x0A], .commit completedView] ++ readingPoll)
    (fun s => decide (s.events = completedYields.map Yield.event ∧ s.phase.isEnded = true ∧
      s.job.status = .completed)) (by decide)
  obtain ⟨hevents, hended, hstatus⟩ := of_decide_eq_true hp
  have hfit : ∀ y ∈ completedYields, y.Fits ⟨4300, 900⟩ := by
    intro y hy
    simp only [completedYields, List.mem_cons, List.not_mem_nil, or_false] at hy
    rcases hy with rfl | rfl | rfl | rfl
    · exact trivial
    · exact ⟨by decide, by decide, by decide⟩
    · exact trivial
    · exact trivial
  have hcut : (cutText 50 completedYields).flatten =
      completedYields.flatMap fun y => (y.block fun _ => ['t']).text := by
    rw [cutText, List.flatten_cons, List.flatten_singleton, List.take_append_drop]
  have hrun := (@page_run (fun _ => ['t']) runningPage ⟨4300, 900⟩ _ _ _ (by decide)
    ⟨runningStream_started, rfl⟩ hr _ hevents.symm hfit _ hcut rfl).2.2
  rw [hended, hstatus, hevents] at hrun
  exact ⟨_, rfl, hrun.1, hrun.2⟩

end RetroBridge.Jobs.Events
