/-
When the batches of timed runs are due, told by what was asked of the
schedule.

* `Schedule.Request` and `Schedule.serveAll?`: a sequence of requests, with
  the log of what came of them;
* `Schedule.Awaits`: the log ends in a run that was begun and not cancelled,
  and its last batch, or else its beginning, has the given time;
* `Schedule.Move` and `Schedule.Moves`: everything that one request and a
  sequence of them can do;
* `Schedule.Tracks`: the schedule shows the run that the log ends in, and its
  deadline lies one interval behind that time;
* `Schedule.Moves.tracks`: a sequence of requests keeps this;
* `Schedule.Spaced`: how the batches of a log lie apart;
* `Schedule.deadlines_follow_log`: when a batch is due, how far apart batches
  are, and that the time to wait for the next one is told exactly.

The times of the requests need not grow. A deadline that no run waits for any
longer is left where it is, so it matters that nothing looks at it.
-/
import Mathlib.Tactic
import TapeDebugger.Proofs.Session.Effects

namespace TapeDebugger

namespace Schedule

/-! ### Requests and their log -/

/-- What can be asked of a schedule, with the time of asking. -/
inductive Request where
  /-- To begin a run. -/
  | arm (mode : RunMode) (now : Time)
  /-- To end the run. -/
  | cancel
  /-- To take the batch that is due. -/
  | takeDue (now : Time)
  deriving DecidableEq, Repr

/-- What came of a request. -/
inductive Entry where
  /-- A run was begun. -/
  | armed (mode : RunMode) (now : Time)
  /-- The run was ended. -/
  | cancelled
  /-- A batch was asked for, and the mode of the one taken, if one was. -/
  | polled (now : Time) (mode? : Option RunMode)
  deriving DecidableEq, Repr

/-- The deadline that a request may set can be told. -/
def Request.fits (interval : Time) : Request → Bool
  | .arm _ now | .takeDue now => Time.tellable (now + interval)
  | .cancel => true

/-- The request that an entry answers. -/
def Entry.request : Entry → Request
  | .armed mode now => .arm mode now
  | .cancelled => .cancel
  | .polled now _ => .takeDue now

/-- Whether the entry is about taking a batch. -/
def Entry.isPoll : Entry → Bool
  | .polled _ _ => true
  | _ => false

/-- The time at which a batch was taken, if one was. -/
def Entry.taken? : Entry → Option Time
  | .polled now (some _) => some now
  | _ => none

/-- Carries out a request, unless the deadline that it sets cannot be
told. -/
def serve? (s : Schedule) : Request → Option (Entry × Schedule)
  | .arm mode now => (s.arm? mode now).map fun s => (.armed mode now, s)
  | .cancel => some (.cancelled, s.cancel)
  | .takeDue now =>
      (s.takeDue? now).map fun (mode?, s) => (.polled now mode?, s)

/-- Carries out requests one after the other. -/
def serveAll? (s : Schedule) :
    List Request → Option (List Entry × Schedule)
  | [] => some ([], s)
  | r :: rest =>
      (s.serve? r).bind fun (e, s) =>
        (s.serveAll? rest).map fun (log, last) => (e :: log, last)

/-- The last run of the log has the given mode and was not cancelled, and
`since` is when its last batch was taken, or when it was begun if none was. -/
def Awaits (log : List Entry) (mode : RunMode) (since : Time) : Prop :=
  ∃ before begun polls, log = before ++ .armed mode begun :: polls ∧
    (∀ e ∈ polls, e.isPoll = true) ∧
    (polls.filterMap Entry.taken?).getLast?.getD begun = since

variable {s s' last : Schedule} {e : Entry} {log : List Entry}
  {interval now since : Time} {mode : RunMode}

/-! ### What a request can do -/

lemma takeDue_eq_some_iff :
    (s.takeDue now).1 = some mode ↔
      s.active = some mode ∧ s.deadline ≤ now := by
  rw [takeDue, isDue, isActive]
  by_cases hdue : s.deadline ≤ now
  · cases s.active <;> simp [hdue]
  · simp [hdue]

lemma isDue_of_takeDue_eq_none (h : (s.takeDue now).1 = none) :
    s.isDue now = false := by
  rw [← Bool.not_eq_true]
  intro hdue
  rw [takeDue, if_pos hdue] at h
  have hidle : s.active = none := h
  rw [isDue, isActive, hidle] at hdue
  exact absurd hdue (by simp)

/-- A schedule changes only if a batch is taken. -/
lemma takeDue_of_none (h : (s.takeDue now).1 = none) :
    s.takeDue now = (none, s) := by
  rw [takeDue, isDue_of_takeDue_eq_none h]
  rfl

lemma takeDue_of_some (h : (s.takeDue now).1 = some mode) :
    s.takeDue now =
      (some mode, { s with deadline := now + s.interval }) := by
  rw [takeDue] at h ⊢
  split_ifs at h ⊢ with hdue
  exact Prod.ext h rfl

lemma takeDue?_of_fits (h : Time.tellable (now + s.interval) = true) :
    s.takeDue? now = some (s.takeDue now) := by
  rw [takeDue?, fits, h]
  simp

lemma takeDue?_of_none (h : (s.takeDue now).1 = none) :
    s.takeDue? now = some (none, s) := by
  rw [takeDue?, isDue_of_takeDue_eq_none h, takeDue_of_none h]
  rfl

/-- Everything that a request can do to a schedule, with its entry in the
log. -/
inductive Move (s : Schedule) : Entry → Schedule → Prop
  | armed (mode : RunMode) (now : Time) :
      Move s (.armed mode now) (s.arm mode now)
  | cancelled : Move s .cancelled s.cancel
  /-- A batch of the active run is taken. -/
  | taken {mode : RunMode} {now : Time} (hactive : s.active = some mode)
      (hdue : s.deadline ≤ now) :
      Move s (.polled now (some mode))
        { s with deadline := now + s.interval }
  /-- No batch is due. -/
  | waited (now : Time) : Move s (.polled now none) s

/-- **A request does nothing else.** -/
lemma move_of_serve? {r : Request} (h : s.serve? r = some (e, s')) :
    Move s e s' := by
  cases r with
  | arm mode now =>
      obtain ⟨_, harm, heq⟩ := Option.map_eq_some_iff.mp h
      rw [arm?] at harm
      split_ifs at harm
      obtain rfl := Option.some.inj harm
      obtain ⟨rfl, rfl⟩ := Prod.mk.inj heq
      exact .armed mode now
  | cancel =>
      obtain ⟨rfl, rfl⟩ := Prod.mk.inj (Option.some.inj h)
      exact .cancelled
  | takeDue now =>
      obtain ⟨⟨mode?, t⟩, htake, heq⟩ := Option.map_eq_some_iff.mp h
      obtain ⟨rfl, rfl⟩ := Prod.mk.inj heq
      rw [takeDue?] at htake
      split_ifs at htake
      have htake : s.takeDue now = (mode?, t) := Option.some.inj htake
      cases mode? with
      | none =>
          rw [takeDue_of_none (by rw [htake])] at htake
          obtain ⟨-, rfl⟩ := Prod.mk.inj htake
          exact .waited now
      | some mode =>
          have hsome : (s.takeDue now).1 = some mode := by rw [htake]
          obtain ⟨hactive, hdue⟩ := takeDue_eq_some_iff.mp hsome
          rw [takeDue_of_some hsome] at htake
          obtain ⟨-, rfl⟩ := Prod.mk.inj htake
          exact .taken hactive hdue

/-- A request is carried out if a deadline set at its time can be told. -/
lemma exists_serve?_of_fits {r : Request}
    (h : r.fits s.interval = true) :
    ∃ e s', s.serve? r = some (e, s') ∧ e.request = r := by
  cases r with
  | arm mode now =>
      refine ⟨.armed mode now, s.arm mode now, ?_, rfl⟩
      have hfits : s.fits now = true := h
      rw [serve?, arm?, if_pos hfits]
      rfl
  | cancel => exact ⟨.cancelled, s.cancel, rfl, rfl⟩
  | takeDue now =>
      refine ⟨.polled now (s.takeDue now).1, (s.takeDue now).2, ?_, rfl⟩
      rw [serve?, takeDue?_of_fits h]
      rfl

/-- No request changes the interval. -/
lemma Move.interval_eq (h : Move s e s') : s'.interval = s.interval := by
  cases h <;> rfl

/-- Taking batches puts the deadline off, if anything, and leaves the run
active. -/
lemma Move.of_poll (h : Move s e s') (hpoll : e.isPoll = true) :
    s'.active = s.active ∧ s.deadline ≤ s'.deadline := by
  cases h with
  | armed => exact absurd hpoll (by simp [Entry.isPoll])
  | cancelled => exact absurd hpoll (by simp [Entry.isPoll])
  | taken _ hdue => exact ⟨rfl, hdue.trans (Nat.le_add_right _ _)⟩
  | waited => exact ⟨rfl, le_rfl⟩

/-! ### What a sequence of requests can do -/

/-- One move for each entry of the log. -/
inductive Moves : Schedule → List Entry → Schedule → Prop
  | nil (s : Schedule) : Moves s [] s
  | cons {s s' last : Schedule} {e : Entry} {log : List Entry}
      (hfirst : Move s e s') (hrest : Moves s' log last) :
      Moves s (e :: log) last

lemma moves_of_serveAll? {requests : List Request}
    (h : s.serveAll? requests = some (log, last)) : Moves s log last := by
  induction requests generalizing s log with
  | nil =>
      obtain ⟨rfl, rfl⟩ := Prod.mk.inj (Option.some.inj h)
      exact .nil s
  | cons r rest ih =>
      obtain ⟨⟨e, s'⟩, hserve, hrest⟩ := Option.bind_eq_some_iff.mp h
      obtain ⟨⟨log', last'⟩, hlog, heq⟩ := Option.map_eq_some_iff.mp hrest
      obtain ⟨rfl, rfl⟩ := Prod.mk.inj heq
      exact .cons (move_of_serve? hserve) (ih hlog)

lemma exists_serveAll?_of_fits {requests : List Request}
    (h : ∀ r ∈ requests, r.fits s.interval = true) :
    ∃ log last, s.serveAll? requests = some (log, last) ∧
      log.map Entry.request = requests := by
  induction requests generalizing s with
  | nil => exact ⟨[], s, rfl, rfl⟩
  | cons r rest ih =>
      obtain ⟨e, s', hserve, hrequest⟩ :=
        exists_serve?_of_fits (h r List.mem_cons_self)
      have hinterval := (move_of_serve? hserve).interval_eq
      obtain ⟨log, last, hlog, hmap⟩ := ih (s := s') fun r hr =>
        hinterval ▸ h r (List.mem_cons_of_mem _ hr)
      refine ⟨e :: log, last, ?_, by rw [List.map_cons, hrequest, hmap]⟩
      rw [serveAll?, hserve]
      simp only [Option.bind_some, hlog, Option.map_some]

lemma moves_append {earlier later : List Entry}
    (h : Moves s (earlier ++ later) last) :
    ∃ middle, Moves s earlier middle ∧ Moves middle later last := by
  induction earlier generalizing s with
  | nil => exact ⟨s, .nil s, h⟩
  | cons e earlier ih =>
      cases h with
      | cons hfirst hrest =>
          obtain ⟨middle, hbefore, hafter⟩ := ih hrest
          exact ⟨middle, .cons hfirst hbefore, hafter⟩

lemma Moves.interval_eq (h : Moves s log last) :
    last.interval = s.interval := by
  induction h with
  | nil => rfl
  | cons hfirst _ ih => rw [ih, hfirst.interval_eq]

lemma Moves.of_polls (h : Moves s log last)
    (hpolls : ∀ e ∈ log, e.isPoll = true) :
    last.active = s.active ∧ s.deadline ≤ last.deadline := by
  induction h with
  | nil => exact ⟨rfl, le_rfl⟩
  | cons hfirst _ ih =>
      obtain ⟨hpoll, hlater⟩ := List.forall_mem_cons.mp hpolls
      obtain ⟨hactive, hle⟩ := hfirst.of_poll hpoll
      obtain ⟨hactive', hle'⟩ := ih hlater
      exact ⟨hactive'.trans hactive, hle.trans hle'⟩

/-! ### The run that the log ends in -/

/-- An entry that takes no batch ends every run, and begins one if it says
so. -/
lemma awaits_append_of_not_poll (he : e.isPoll = false) :
    Awaits (log ++ [e]) mode since ↔ e = .armed mode since := by
  constructor
  · rintro ⟨before, begun, polls, hlog, hpolls, hsince⟩
    obtain rfl | ⟨earlier, final, rfl⟩ := polls.eq_nil_or_concat'
    · obtain ⟨-, hlast⟩ := List.append_inj' hlog rfl
      rw [← hsince]
      exact (List.cons.inj hlast).1
    · rw [← List.cons_append, ← List.append_assoc] at hlog
      obtain ⟨-, hlast⟩ := List.append_inj' hlog rfl
      rw [(List.cons.inj hlast).1, hpolls final (by simp)] at he
      exact absurd he (by simp)
  · rintro rfl
    exact ⟨log, since, [], rfl, by simp, rfl⟩

/-- An attempt to take a batch keeps the run, and a batch taken is its last
one. -/
lemma awaits_append_of_poll (he : e.isPoll = true) :
    Awaits (log ++ [e]) mode since ↔
      ∃ earlier, Awaits log mode earlier ∧ e.taken?.getD earlier = since := by
  have hlast : ∀ (polls : List Entry) (begun : Time),
      ((polls ++ [e]).filterMap Entry.taken?).getLast?.getD begun
        = e.taken?.getD
          ((polls.filterMap Entry.taken?).getLast?.getD begun) := by
    intro polls begun
    rw [List.filterMap_append]
    cases htaken : e.taken? <;> simp [htaken]
  constructor
  · rintro ⟨before, begun, polls, hlog, hpolls, hsince⟩
    obtain rfl | ⟨earlier, final, rfl⟩ := polls.eq_nil_or_concat'
    · obtain ⟨-, hend⟩ := List.append_inj' hlog rfl
      rw [(List.cons.inj hend).1] at he
      exact absurd he (by simp [Entry.isPoll])
    · rw [← List.cons_append, ← List.append_assoc] at hlog
      obtain ⟨hbefore, hend⟩ := List.append_inj' hlog rfl
      obtain rfl := (List.cons.inj hend).1
      refine ⟨_, ⟨before, begun, earlier, hbefore, ?_, rfl⟩, ?_⟩
      · exact fun d hd => hpolls d (List.mem_append_left _ hd)
      · rw [← hlast, hsince]
  · rintro ⟨-, ⟨before, begun, polls, rfl, hpolls, rfl⟩, hsince⟩
    refine ⟨before, begun, polls ++ [e], by simp, ?_, ?_⟩
    · exact List.forall_mem_append.mpr ⟨hpolls, by simpa using he⟩
    · rw [hlast, hsince]

/-- The schedule shows the run that the log ends in. While there is one, the
deadline lies one interval behind its last batch or its beginning. -/
structure Tracks (log : List Entry) (s : Schedule) : Prop where
  sound : ∀ mode since, Awaits log mode since →
    s.active = some mode ∧ s.deadline = since + s.interval
  complete : ∀ mode, s.active = some mode → ∃ since, Awaits log mode since

lemma tracks_idle (interval : Time) : Tracks [] (idle interval) where
  sound := by
    rintro mode since ⟨before, begun, polls, hlog, -⟩
    exact absurd hlog (by simp)
  complete := fun mode h => absurd h (by simp [idle])

/-- **One request keeps the schedule in step with the log.** -/
lemma Move.tracks (h : Move s e s') (hs : Tracks log s) :
    Tracks (log ++ [e]) s' := by
  cases h with
  | armed mode now =>
      refine ⟨fun m since hm => ?_, fun m hm => ⟨now, ?_⟩⟩
      · obtain ⟨rfl, rfl⟩ : mode = m ∧ now = since := by
          simpa using (awaits_append_of_not_poll rfl).mp hm
        exact ⟨rfl, rfl⟩
      · obtain rfl : mode = m := Option.some.inj hm
        exact (awaits_append_of_not_poll rfl).mpr rfl
  | cancelled =>
      refine ⟨fun m since hm => ?_, fun m hm => absurd hm (by simp [cancel])⟩
      exact absurd ((awaits_append_of_not_poll rfl).mp hm) (by simp)
  | @taken mode now hactive hdue =>
      refine ⟨fun m since hm => ?_, fun m hm => ?_⟩
      · obtain ⟨earlier, hbefore, rfl⟩ := (awaits_append_of_poll rfl).mp hm
        exact ⟨(hs.sound m earlier hbefore).1, rfl⟩
      · obtain ⟨earlier, hbefore⟩ := hs.complete m hm
        exact ⟨now, (awaits_append_of_poll rfl).mpr ⟨earlier, hbefore, rfl⟩⟩
  | waited now =>
      refine ⟨fun m since hm => ?_, fun m hm => ?_⟩
      · obtain ⟨earlier, hbefore, rfl⟩ := (awaits_append_of_poll rfl).mp hm
        exact hs.sound m earlier hbefore
      · obtain ⟨earlier, hbefore⟩ := hs.complete m hm
        exact ⟨earlier,
          (awaits_append_of_poll rfl).mpr ⟨earlier, hbefore, rfl⟩⟩

/-- **So does every sequence of requests.** -/
lemma Moves.tracks {later : List Entry} (h : Moves s later last)
    (hs : Tracks log s) : Tracks (log ++ later) last := by
  induction h generalizing log with
  | nil => rwa [List.append_nil]
  | cons hfirst _ ih =>
      rw [List.append_cons]
      exact ih (hfirst.tracks hs)

/-! ### Batches apart -/

/-- How the batches of a log lie apart. In each case there is nothing but
attempts to take a batch between the two entries. -/
structure Spaced (interval : Time) (log : List Entry) : Prop where
  /-- Two batches of one run are at least an interval apart, however late the
  first one was. -/
  apart : ∀ (before between after : List Entry) (t₁ t₂ : Time)
      (m₁ m₂ : RunMode),
    log = before ++
        .polled t₁ (some m₁) :: (between ++ .polled t₂ (some m₂) :: after) →
      (∀ e ∈ between, e.isPoll = true) → t₁ + interval ≤ t₂
  /-- A run has batches of its own mode only, and none before its first
  interval is over. -/
  rearmed : ∀ (before between after : List Entry) (begun t : Time)
      (mode m : RunMode),
    log = before ++
        .armed mode begun :: (between ++ .polled t (some m) :: after) →
      (∀ e ∈ between, e.isPoll = true) → m = mode ∧ begun + interval ≤ t
  /-- A run that was cancelled has no batch. -/
  cancelled : ∀ (before between after : List Entry) (t : Time)
      (mode? : Option RunMode),
    log = before ++ .cancelled :: (between ++ .polled t mode? :: after) →
      (∀ e ∈ between, e.isPoll = true) → mode? = none

/-- Behind any entry with attempts to take a batch, the next one finds the
run that was active there and the deadline that was set there, or a later
one. -/
lemma Moves.poll_after {before between after : List Entry} {t : Time}
    {mode? : Option RunMode}
    (h : Moves s (before ++ e :: (between ++ .polled t mode? :: after)) last)
    (hpolls : ∀ e ∈ between, e.isPoll = true) :
    ∃ s₁ s₂, Move s₁ e s₂ ∧ s₁.interval = s.interval ∧
      ∀ m, mode? = some m → s₂.active = some m ∧ s₂.deadline ≤ t := by
  obtain ⟨s₁, hbefore, hrest⟩ := moves_append h
  obtain _ | ⟨hentry, hrest⟩ := hrest
  obtain ⟨s₃, hbetween, hrest⟩ := moves_append hrest
  obtain _ | ⟨hpoll, -⟩ := hrest
  obtain ⟨hactive, hle⟩ := hbetween.of_polls hpolls
  refine ⟨s₁, _, hentry, hbefore.interval_eq, ?_⟩
  rintro m rfl
  cases hpoll with
  | taken hm hdue => exact ⟨hactive.symm.trans hm, hle.trans hdue⟩

lemma Moves.spaced (h : Moves s log last) : Spaced s.interval log where
  apart := by
    rintro before between after t₁ t₂ m₁ m₂ rfl hpolls
    obtain ⟨s₁, s₂, hentry, hinterval, hnext⟩ := h.poll_after hpolls
    cases hentry with
    | taken =>
        rw [← hinterval]
        exact (hnext m₂ rfl).2
  rearmed := by
    rintro before between after begun t mode m rfl hpolls
    obtain ⟨s₁, s₂, hentry, hinterval, hnext⟩ := h.poll_after hpolls
    cases hentry with
    | armed =>
        obtain ⟨hmode, hdue⟩ := hnext m rfl
        rw [← hinterval]
        exact ⟨(Option.some.inj hmode).symm, hdue⟩
  cancelled := by
    rintro before between after t mode? rfl hpolls
    obtain ⟨s₁, s₂, hentry, -, hnext⟩ := h.poll_after hpolls
    cases hentry with
    | cancelled =>
        rw [Option.eq_none_iff_forall_ne_some]
        exact fun m hm => absurd (hnext m hm).1 (by simp [cancel])

/-! ### When a batch is due -/

lemma Tracks.takeDue_eq_some_iff (h : Tracks log s) :
    (s.takeDue now).1 = some mode ↔
      ∃ since, Awaits log mode since ∧ since + s.interval ≤ now := by
  rw [Schedule.takeDue_eq_some_iff]
  constructor
  · rintro ⟨hactive, hdue⟩
    obtain ⟨since, hsince⟩ := h.complete mode hactive
    exact ⟨since, hsince, (h.sound mode since hsince).2 ▸ hdue⟩
  · rintro ⟨since, hsince, hdue⟩
    obtain ⟨hactive, hdeadline⟩ := h.sound mode since hsince
    exact ⟨hactive, hdeadline ▸ hdue⟩

lemma Tracks.untilNext_eq_none_iff (h : Tracks log s) :
    s.untilNext now = none ↔ ¬ ∃ mode since, Awaits log mode since := by
  rw [untilNext, Option.map_eq_none_iff, Option.eq_none_iff_forall_ne_some]
  constructor
  · rintro hidle ⟨mode, since, hsince⟩
    exact hidle mode (h.sound mode since hsince).1
  · intro hnone mode hactive
    exact hnone ⟨mode, h.complete mode hactive⟩

/-- **The time to wait is told exactly**: a batch is due once it is over, and
not before. -/
lemma takeDue_of_untilNext {d : Time} (h : s.untilNext now = some d) :
    (∃ mode, (s.takeDue (now + d)).1 = some mode) ∧
      ∀ t, now ≤ t → t < now + d → (s.takeDue t).1 = none := by
  obtain ⟨mode, hactive, rfl⟩ := Option.map_eq_some_iff.mp h
  rw [add_tsub_eq_max]
  refine ⟨⟨mode, Schedule.takeDue_eq_some_iff.mpr
    ⟨hactive, le_max_right _ _⟩⟩, fun t hle hlt => ?_⟩
  rw [Option.eq_none_iff_forall_ne_some]
  intro m hm
  have hdue := (Schedule.takeDue_eq_some_iff.mp hm).2
  exact absurd hlt (max_le hle hdue).not_gt

/-- A session polls what its schedule takes. -/
lemma exists_outcome_of_takeDue {session : Session}
    (h : (session.schedule.takeDue now).1 = some mode) :
    ∃ outcome, (session.poll now).1 = some outcome := by
  rw [Session.poll, takeDue_of_some h]
  exact ⟨_, rfl⟩

/-- **Deadlines follow what was asked.** Take any requests at any times, such
that the deadlines that they may set can be told. They are all carried out,
and behind them a batch is due exactly if a run was begun and not cancelled,
and an interval is over since its last batch, or since its beginning if it
had none; it has the mode of that run, and where none is due nothing changes.
The batches of a run are therefore an interval apart, and no run fires on a
deadline from before it was begun or after it was cancelled. The time until
the next batch is told exactly if there is a run to wait for: a batch is due
when that time is over and at no time before, and so it is for the polls of
every session with this schedule. -/
theorem deadlines_follow_log (interval : Time) (requests : List Request)
    (hfits : ∀ r ∈ requests, r.fits interval = true) :
    ∃ log s, (idle interval).serveAll? requests = some (log, s) ∧
      log.map Entry.request = requests ∧ Spaced interval log ∧
      (∀ now, Time.tellable (now + interval) = true →
        ∃ mode? s', s.takeDue? now = some (mode?, s') ∧
          (∀ mode, mode? = some mode ↔
            ∃ since, Awaits log mode since ∧ since + interval ≤ now) ∧
          (mode? = none → s' = s)) ∧
      ∀ now,
        (s.untilNext now = none ↔ ¬ ∃ mode since, Awaits log mode since) ∧
        ∀ d, s.untilNext now = some d →
          (Time.tellable (now + d + interval) = true →
            ∃ mode s', s.takeDue? (now + d) = some (some mode, s')) ∧
          (∀ t, now ≤ t → t < now + d → s.takeDue? t = some (none, s)) ∧
          ∀ session : Session, session.schedule = s →
            (∃ outcome, (session.poll (now + d)).1 = some outcome) ∧
              ∀ t, now ≤ t → t < now + d →
                session.poll t = (none, session) := by
  obtain ⟨log, s, hserve, hlog⟩ :=
    exists_serveAll?_of_fits (s := idle interval) hfits
  have hmoves := moves_of_serveAll? hserve
  have htracks : Tracks log s := hmoves.tracks (tracks_idle interval)
  have hinterval : s.interval = interval := hmoves.interval_eq
  refine ⟨log, s, hserve, hlog, hmoves.spaced, fun now hnow => ?_,
    fun now => ⟨htracks.untilNext_eq_none_iff, fun d hd => ?_⟩⟩
  · rw [← hinterval] at hnow ⊢
    refine ⟨(s.takeDue now).1, (s.takeDue now).2, takeDue?_of_fits hnow,
      fun mode => htracks.takeDue_eq_some_iff, fun hnone => ?_⟩
    rw [takeDue_of_none hnone]
  · obtain ⟨⟨mode, hmode⟩, hearly⟩ := takeDue_of_untilNext hd
    refine ⟨fun hnow => ⟨mode, (s.takeDue (now + d)).2, ?_⟩,
      fun t hle hlt => ?_, ?_⟩
    · rw [takeDue?_of_fits (hinterval ▸ hnow), ← hmode]
    · exact takeDue?_of_none (hearly t hle hlt)
    · rintro session rfl
      refine ⟨exists_outcome_of_takeDue hmode, fun t hle hlt => ?_⟩
      exact Session.poll_of_not_due
        (isDue_of_takeDue_eq_none (hearly t hle hlt))

/-- With an interval of three, a late batch at 20 puts the next one off to 23,
a cancelled run has none, and the run begun at 30, when the clock has been
set back, is not due before 33. -/
theorem deadlines_follow_log_jumps :
    let requests : List Request :=
      [.arm .continuous 10, .takeDue 12, .takeDue 20, .takeDue 22,
        .takeDue 23, .cancel, .takeDue 40, .arm .breakpoint 30, .takeDue 32]
    (∀ r ∈ requests, r.fits 3 = true) ∧
      ∃ log s, (idle 3).serveAll? requests = some (log, s) ∧
        log.filterMap Entry.taken? = [20, 23] ∧
        (∃ s', s.takeDue? 33 = some (some .breakpoint, s')) ∧
        s.takeDue? 32 = some (none, s) := by
  intro requests
  have hfits : ∀ r ∈ requests, r.fits 3 = true := by decide
  refine ⟨hfits, ?_⟩
  obtain ⟨log, s, hserve, -, -, hdue, hwait⟩ :=
    deadlines_follow_log 3 requests hfits
  let earlier : List Entry :=
    [.armed .continuous 10, .polled 12 none, .polled 20 (some .continuous),
      .polled 22 none, .polled 23 (some .continuous), .cancelled,
      .polled 40 none]
  have hrun : (idle 3).serveAll? requests =
      some (earlier ++ [.armed .breakpoint 30, .polled 32 none],
        ⟨some .breakpoint, 33, 3⟩) := by decide
  obtain ⟨rfl, rfl⟩ :=
    Prod.mk.inj (Option.some.inj (hrun.symm.trans hserve))
  obtain ⟨mode?, s', htake, hmode, -⟩ := hdue 33 (by decide)
  refine ⟨_, _, hserve, by decide, ⟨s', ?_⟩, ?_⟩
  · rw [htake, (hmode .breakpoint).mpr]
    exact ⟨30, ⟨earlier, 30, [.polled 32 none], rfl, by decide, rfl⟩,
      by decide⟩
  · exact ((hwait 31).2 2 rfl).2.1 32 (by decide) (by decide)

end Schedule

end TapeDebugger
