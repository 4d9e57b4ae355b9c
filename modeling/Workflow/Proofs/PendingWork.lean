import Workflow.Proofs.Errands
import Workflow.Proofs.Pending
import Workflow.Proofs.Sweeping

/-!
What reminders are about. Each event that a tick sends names all open tasks of its instance, or of its
node there, and each one once. It is sent because the node is listed, not because of its tasks, and so it
names none if nothing else than a stuck token, or the tokens of a join of an earlier definition, waits at
the node.

## Main statements

* `Session.sentFrom_of_mem_fired`: the events of a tick are those of the sources of active instances, with
  the tasks that are open at its start.
* `Session.remindsOfWork_iff`: the open tasks are always named, and there are some unless the node of
  an event is deserted.
-/
namespace Workflow

open Time (Instant Span)
open Engine Engine.Action Engine.Attempt Scheduler

/-! ### The reminders between two states -/

def Delivery.reminder? (d : Delivery) : Option ReminderEvent :=
  match d.event with
  | .reminder ev => some ev
  | _ => none

/-- All reminders that were delivered from one state to the next have a property. -/
def Engine.Ambient.RemindsOf (P : ReminderEvent → Prop) (a a' : Ambient) : Prop :=
  ∃ new, a'.deliveries = new ++ a.deliveries ∧ ∀ ev ∈ new.filterMap Delivery.reminder?, P ev

namespace Engine.Ambient.RemindsOf

variable {P : ReminderEvent → Prop} {a a' a'' : Ambient}

theorem of_eq (h : a'.deliveries = a.deliveries) : RemindsOf P a a' :=
  ⟨[], h, fun _ hev => nomatch hev⟩

theorem trans (h : RemindsOf P a a') (h' : RemindsOf P a' a'') : RemindsOf P a a'' := by
  obtain ⟨new, hnew, hP⟩ := h
  obtain ⟨new', hnew', hP'⟩ := h'
  refine ⟨new' ++ new, ?_, fun ev hev => ?_⟩
  · rw [hnew', hnew, List.append_assoc]
  · rw [List.filterMap_append] at hev
    rcases List.mem_append.1 hev with hev | hev
    · exact hP' ev hev
    · exact hP ev hev

/-- Nothing but this event is delivered, however many listeners hear of it. -/
theorem deliver {ev : ReminderEvent} (hev : P ev) (k : Nat) (ls : List Listener) :
    RemindsOf P a { a with deliveries := (Bus.deliver (.reminder ev) a.deliveries k ls).2 } := by
  induction ls generalizing a k with
  | nil => exact of_eq rfl
  | cons l ls ih =>
    have hone : RemindsOf P a { a with deliveries := ⟨k, .reminder ev⟩ :: a.deliveries } := by
      refine ⟨[⟨k, .reminder ev⟩], rfl, fun ev' hev' => ?_⟩
      obtain rfl : ev' = ev := List.mem_singleton.1 hev'
      exact hev
    unfold Bus.deliver
    by_cases hears : l.hears (Event.reminder ev).kind = true
    · rw [if_pos hears]
      cases l.respond (heardBy k a.deliveries) (.reminder ev) with
      | ok u => exact hone.trans (ih (a := { a with deliveries := _ }) (k + 1))
      | error m => exact hone
    · rw [if_neg hears]
      exact ih (k + 1)

theorem notify {ev : ReminderEvent} (hev : P ev) (b : Bus) :
    RemindsOf P a (Attempt.notify b (.reminder ev) a).2 := by
  rw [notify_eq]
  exact deliver hev 0 b.listeners

/-- An action in two parts sends what its first part sends, and then what the second one does. -/
theorem bind {α β : Type} {w : World} {x : Action α} {f : α → Action β}
    (hx : a.RemindsOf P (Action.run w a x).1.2)
    (hf : ∀ v a₁ w₁, Action.run w a x = ((.ok v, a₁), w₁) →
      a₁.RemindsOf P (Action.run w₁ a₁ (f v)).1.2) :
    a.RemindsOf P (Action.run w a (x >>= f)).1.2 := by
  rcases hrun : Action.run w a (x >>= f) with ⟨⟨r, a'⟩, w'⟩
  rcases run_bind_cases hrun with ⟨err, hfail, -⟩ | ⟨v, a₁, w₁, hv, hrest⟩
  · rwa [hfail] at hx
  · have hsecond := hf v a₁ w₁ hv
    rw [hv] at hx
    rw [hrest] at hsecond
    exact hx.trans hsecond

end Engine.Ambient.RemindsOf

/-- What is not part of a tick sends no reminders. -/
theorem routine_remindsOf (P : ReminderEvent → Prop) :
    Routine fun x y => x.2.RemindsOf P y.2 where
  refl _ := .of_eq rfl
  trans := .trans
  supply _ _ _ := .of_eq rfl
  handled _ _ _ := .of_eq rfl
  asked _ _ _ := .of_eq rfl
  trace _ _ _ := .of_eq rfl
  delivers w a listener ev hev := by
    refine ⟨[⟨listener, ev⟩], rfl, fun ev' hev' => ?_⟩
    cases ev with
    | reminder ev => exact absurd rfl hev
    | task ev => cases hev'
    | instanceRecord ev => cases hev'
  answers _ _ _ _ := .of_eq rfl

/-! ### What a tick sends -/

/-- The event of a source, with the tasks that are open in a store. -/
def Scheduler.reminder (store : Store) (now : Instant) (i : Instance) (source : Source)
    (occurrence : Instant) : ReminderEvent :=
  ⟨i.id, i.definitionId, source.node, remindedTasks source ((store.tasksOf i.id).filter Task.isOpen),
    occurrence, now⟩

/-- An event of a source of an active instance, with the tasks that are open in a store. -/
def Scheduler.SentFrom (store : Store) (now : Instant) (ev : ReminderEvent) : Prop :=
  ∃ i d source occurrence, store.instance? i.id = some i ∧ i.isActive = true ∧ source ∈ sources d i ∧
    ev = reminder store now i source occurrence

/-- The tasks of the instances that are left alone are the same as before. -/
theorem Store.Expired.tasksOf_eq {x y : Store} {now : Instant} {is : List Instance} {owner : Uuid}
    (h : x.Expired now is y) (hs : x.Sound) (howner : ∀ i ∈ is, i.id ≠ owner) :
    y.tasksOf owner = x.tasksOf owner := by
  show (y.order owner).filterMap y.task? = (x.order owner).filterMap x.task?
  rw [h.orders]
  apply List.filterMap_congr
  intro id hid
  apply h.left
  intro i hi t ht _ htask
  obtain ⟨u, hu, hu'⟩ := hs.owned hid
  obtain rfl : t = u := Option.some.inj (ht.symm.trans hu)
  exact howner i hi (htask.symm.trans hu')

namespace Scheduler

variable {s : Scheduler} {now : Instant} {w : World} {a : Ambient} {i : Instance} {store : Store}
  {P : ReminderEvent → Prop}

theorem remindsOf_send {source : Source} {occurrence : Instant}
    (hP : P (reminder w.store now i source occurrence)) :
    a.RemindsOf P (Action.run w a (s.send i now source occurrence)).1.2 := by
  unfold send
  refine .bind (.of_eq rfl) fun mark a₁ w₁ hmark => ?_
  cases hmark
  split
  · exact .of_eq rfl
  · refine .bind (.of_eq rfl) fun tasks a₁ w₁ htasks => ?_
    cases htasks
    exact .bind (.notify hP _) fun _ _ _ _ => .of_eq rfl

theorem remindsOf_remind {sources : List Source} {sent : Nat} (hw : w.store = store)
    (hP : ∀ source ∈ sources, ∀ occurrence, P (reminder store now i source occurrence)) :
    a.RemindsOf P (Action.run w a (s.remind i now sent sources)).1.2 := by
  induction sources generalizing w a sent with
  | nil => exact .of_eq rfl
  | cons source rest ih =>
    have hrest := fun source' hmem => hP source' (List.mem_cons_of_mem _ hmem)
    unfold remind
    refine .bind (Routine.lift ((routine_remindsOf P).configured _) w a) fun rule a₁ w₁ hrule => ?_
    have hw₁ : w₁.store = store :=
      ((obeys_lift (regular_configured _)).run_keepsStore hrule).1.trans hw
    split
    · exact .of_eq rfl
    · exact ih hw₁ hrest
    · refine .bind (remindsOf_send (hw₁ ▸ hP source List.mem_cons_self _)) fun told a₂ w₂ hsend => ?_
      have hw₂ : w₂.store = store :=
        ((obeys_send allows_keepsStore (fun _ _ _ _ _ => rfl) i source _).run_keepsStore hsend).1.trans
          hw₁
      split
      · exact ih hw₂ hrest
      · exact ih hw₂ hrest

/-- A visit sends reminders of the sources of its instance only, with the tasks that are open there. -/
theorem remindsOf_visit (hP : ∀ d, ∀ source ∈ sources d i, ∀ occurrence,
      P (reminder w.store now i source occurrence)) :
    a.RemindsOf P (Action.run w a (s.visit i now)).1.2 := by
  unfold visit
  split
  · exact .bind ((routine_remindsOf P).close w a) fun _ _ _ _ => .of_eq rfl
  · refine .bind ((routine_remindsOf P).definition w a) fun d a₁ w₁ hd => ?_
    exact remindsOf_remind ((obeys_definition allows_keepsStore).run_keepsStore hd).1 (hP d)

/-- One visit leaves the tasks alone that the next ones remind of. -/
theorem remindsOf_visitAll {is : List Instance} {r : TickReport} (hs : w.store.Sound)
    (his : ∀ i ∈ is, w.store.instance? i.id = some i ∧ i.isActive = true)
    (hd : (is.map Instance.id).Nodup)
    (htasks : ∀ i ∈ is, w.store.tasksOf i.id = store.tasksOf i.id)
    (hP : ∀ i ∈ is, ∀ d, ∀ source ∈ sources d i, ∀ occurrence,
      P (reminder store now i source occurrence)) :
    a.RemindsOf P (Action.run w a (s.visitAll now r is)).1.2 := by
  induction is generalizing w a r with
  | nil => exact .of_eq rfl
  | cons i is ih =>
    obtain ⟨hi, hactive⟩ := his i List.mem_cons_self
    obtain ⟨hnew, hd⟩ := List.nodup_cons.1 hd
    have hfirst : a.RemindsOf P (Action.run w a (s.visit i now)).1.2 := by
      apply remindsOf_visit
      intro d source hsource occurrence
      unfold reminder
      rw [htasks i List.mem_cons_self]
      exact hP i List.mem_cons_self d source hsource occurrence
    obtain ⟨v, a₁, w₁, hrun, hs₁, -, hexpired⟩ := run_visit s now a hs hi hactive
    rw [hrun] at hfirst
    by_cases hv : v = .ok .abandoned
    · rw [visitAll, run_bind_ok (run_outcome _), hrun, hv]
      exact hfirst
    · rw [run_visitAll_cons hrun hv]
      have hapart : ∀ j ∈ is, ∀ k ∈ s.expiring now [⟨i, w, a⟩], k.id ≠ j.id := by
        intro j hj k hk hid
        obtain ⟨x, hx, rfl, -⟩ := mem_expiring_iff.1 hk
        obtain rfl := List.mem_singleton.1 hx
        exact hnew (hid ▸ List.mem_map_of_mem hj)
      refine hfirst.trans (ih hs₁ (fun j hj => ?_) hd (fun j hj => ?_) fun j hj =>
        hP j (List.mem_cons_of_mem _ hj))
      · obtain ⟨hstored, hactive⟩ := his j (List.mem_cons_of_mem _ hj)
        exact ⟨(hexpired.others j.id (hapart j hj)).trans hstored, hactive⟩
      · rw [hexpired.tasksOf_eq hs (hapart j hj)]
        exact htasks j (List.mem_cons_of_mem _ hj)

/-- A tick sends reminders of the sources of the active instances, with the tasks that are open when it
begins. -/
theorem remindsOf_tick (hs : w.store.Sound) :
    a.RemindsOf (SentFrom w.store now) (Action.run w a (s.tick now)).1.2 := by
  cases hlock : w.lock.held with
  | true =>
    rw [run_tick_of_held hlock]
    exact .of_eq rfl
  | false =>
    rw [run_tick_of_free hlock]
    have hlisted := fun i (hi : i ∈ w.store.activeInstances) =>
      (Session.mem_activeInstances_iff hs.toKeyed).1 hi
    have hsame : ∀ i ∈ w.store.activeInstances,
        ({ w with lock := ⟨true⟩ } : World).store.tasksOf i.id = w.store.tasksOf i.id :=
      fun _ _ => rfl
    apply remindsOf_visitAll (w := { w with lock := ⟨true⟩ }) hs hlisted
      hs.toKeyed.nodup_activeInstances hsame
    intro i hi d source hsource occurrence
    exact ⟨i, d, source, occurrence, (hlisted i hi).1, (hlisted i hi).2, hsource, rfl⟩

end Scheduler

/-- An event names the open tasks of its instance, or of its node there, each one once. -/
structure ReminderEvent.NamesOpen (store : Store) (ev : ReminderEvent) : Prop where
  once : ev.tasks.Nodup
  mem_iff : ∀ id, id ∈ ev.tasks ↔ ∃ t, store.task? id = some t ∧ t.instanceId = ev.instanceId ∧
    t.isOpen = true ∧ ∀ n, ev.node = some n → t.node = n

/-- An event of a node that is listed though no task is open there: a token got stuck at it, or
tokens have come to it as to a join, which it was in an earlier definition. -/
def ReminderEvent.Deserted (store : Store) (ev : ReminderEvent) : Prop :=
  ∃ i n, store.instance? ev.instanceId = some i ∧ ev.node = some n ∧ n ∈ i.currentNodes ∧
    ¬ store.Busy i.id n ∧ (i.StuckAt n ∨ i.joinArrivals.contains n = true)

theorem ReminderEvent.NamesOpen.tasks_ne_nil_iff {store : Store} {ev : ReminderEvent} {n : String}
    (h : ev.NamesOpen store) (hs : store.Sound) (hn : ev.node = some n) :
    ev.tasks ≠ [] ↔ store.Busy ev.instanceId n := by
  constructor
  · intro hne
    obtain ⟨id, hmem⟩ := List.exists_mem_of_ne_nil _ hne
    obtain ⟨t, ht, howner, hopen, hnode⟩ := (h.mem_iff id).1 hmem
    have hid : t.id = id := hs.tasks ht
    exact ⟨t, hs.mem_tasksOf.2 ⟨hid ▸ ht, howner⟩, hopen, hnode n hn⟩
  · rintro ⟨t, ht, hopen, rfl⟩
    obtain ⟨hstored, howner⟩ := hs.mem_tasksOf.1 ht
    apply List.ne_nil_of_mem ((h.mem_iff t.id).2 ⟨t, hstored, howner, hopen, fun m hm => ?_⟩)
    exact Option.some.inj (hn.symm.trans hm)

theorem Scheduler.node_of_mem_sources {d : Definition} {i : Instance} {source : Source} {n : String}
    (h : source ∈ sources d i) (hn : source.node = some n) : n ∈ i.currentNodes := by
  rcases List.mem_append.1 h with hown | hnode
  · obtain ⟨p, -, rfl⟩ := List.mem_map.1 (Option.toList_map .. ▸ hown)
    cases hn
  · obtain ⟨id, hid, hsource⟩ := List.mem_filterMap.1 hnode
    obtain ⟨m, hm, hsource⟩ := Option.bind_eq_some_iff.1 hsource
    obtain ⟨p, -, hsource⟩ := Option.bind_eq_some_iff.1 hsource
    cases hsource
    cases hn
    rw [(node?_spec hm).2]
    exact NameSet.mem_toList.1 hid

namespace Session

variable {e : Engine} {s : Supply} {x : Session} {rs : List Request} {tolerance : Span}
  {now : Instant} {ev : ReminderEvent}

/-- The reminders that listeners hear of during a tick. -/
def fired (e : Engine) (x : Session) (tolerance : Span) (now : Instant) : List ReminderEvent :=
  let later := (x.serve e (.tick tolerance now)).ambient.deliveries
  (later.take (later.length - x.ambient.deliveries.length)).filterMap Delivery.reminder?

/-- Each event of a tick names the open tasks, and one of a node names some task. -/
def RemindsOfWork (e : Engine) (x : Session) (tolerance : Span) (now : Instant) : Prop :=
  ∀ ev ∈ x.fired e tolerance now, ev.NamesOpen x.store ∧ (ev.node.isSome = true → ev.tasks ≠ [])

theorem fired_eq {new : List Delivery} (h : (x.serve e (.tick tolerance now)).ambient.deliveries =
    new ++ x.ambient.deliveries) :
    x.fired e tolerance now = new.filterMap Delivery.reminder? := by
  unfold fired
  simp only
  rw [h, List.length_append, Nat.add_sub_cancel, List.take_left]

theorem remindsOf_serve (e : Engine) (tolerance : Span) (now : Instant) (hs : x.store.Sound) :
    x.ambient.RemindsOf (SentFrom x.store now) (x.serve e (.tick tolerance now)).ambient := by
  have htick : x.ambient.RemindsOf (SentFrom x.store now)
      (Action.run x.world x.ambient (Scheduler.tick ⟨e, tolerance⟩ now)).1.2 := remindsOf_tick hs
  rcases hrun : Action.run x.world x.ambient (Scheduler.tick ⟨e, tolerance⟩ now) with ⟨⟨v, a'⟩, w'⟩
  rw [hrun] at htick
  rw [serve_eq (r := .tick tolerance now) (run_discard hrun)]
  exact htick

theorem sentFrom_of_mem_fired (hs : x.store.Sound) (h : ev ∈ x.fired e tolerance now) :
    SentFrom x.store now ev := by
  obtain ⟨new, hnew, hsent⟩ := remindsOf_serve e tolerance now hs
  rw [fired_eq hnew] at h
  exact hsent ev h

theorem namesOpen_of_mem_fired (hx : Tidy x) (h : ev ∈ x.fired e tolerance now) :
    ev.NamesOpen x.store := by
  obtain ⟨i, d, source, occurrence, hi, hactive, hsource, rfl⟩ := sentFrom_of_mem_fired hx.sound h
  constructor
  · have hids := map_id_sublist hx.sound.toKeyed (x.store.order i.id)
    refine (hx.once i.id).sublist (List.Sublist.trans ?_ hids)
    exact (List.filter_sublist.trans List.filter_sublist).map Task.id
  · intro id
    show id ∈ remindedTasks source _ ↔ _
    unfold remindedTasks
    rw [List.mem_map]
    constructor
    · rintro ⟨t, ht, rfl⟩
      obtain ⟨ht, hnode⟩ := List.mem_filter.1 ht
      obtain ⟨ht, hopen⟩ := List.mem_filter.1 ht
      obtain ⟨hstored, howner⟩ := hx.sound.mem_tasksOf.1 ht
      refine ⟨t, hstored, howner, hopen, fun n hn => ?_⟩
      change source.node = some n at hn
      rw [hn] at hnode
      exact beq_iff_eq.1 hnode
    · rintro ⟨t, hstored, howner, hopen, hnode⟩
      have hid : t.id = id := hx.sound.tasks hstored
      refine ⟨t, ?_, hid⟩
      rw [List.mem_filter, List.mem_filter]
      refine ⟨⟨hx.sound.mem_tasksOf.2 ⟨hid ▸ hstored, howner⟩, hopen⟩, ?_⟩
      change ∀ n, source.node = some n → t.node = n at hnode
      cases hn : source.node with
      | none => rfl
      | some n => exact beq_iff_eq.2 (hnode n hn)

/-- What waits at the node of an event that names no task is no task. -/
theorem deserted_iff_of_mem_fired (hx : Tidy x) (hrests : Rests x.store)
    (h : ev ∈ x.fired e tolerance now) :
    ev.Deserted x.store ↔ ev.node.isSome = true ∧ ev.tasks = [] := by
  have hnames := namesOpen_of_mem_fired hx h
  constructor
  · rintro ⟨i, n, hi, hn, -, hidle, -⟩
    refine ⟨by rw [hn]; rfl, ?_⟩
    by_contra hne
    rw [hx.sound.instances hi] at hidle
    exact hidle ((hnames.tasks_ne_nil_iff hx.sound hn).1 hne)
  · rintro ⟨hsome, hnil⟩
    obtain ⟨n, hn⟩ := Option.isSome_iff_exists.1 hsome
    have hidle := fun hbusy => (hnames.tasks_ne_nil_iff hx.sound hn).2 hbusy hnil
    obtain ⟨i, d, source, occurrence, hi, hactive, hsource, rfl⟩ := sentFrom_of_mem_fired hx.sound h
    have hlisted : n ∈ i.currentNodes := node_of_mem_sources hsource hn
    refine ⟨i, n, hi, hn, hlisted, hidle, ?_⟩
    rcases (hrests i.id i hi hactive).justified n hlisted with hbusy | harrived | hstuck
    · exact absurd hbusy hidle
    · exact Or.inr harrived
    · exact Or.inl hstuck

theorem not_at_wasDue {id : Uuid} {place : String} {minute : Int}
    (hticks : ∀ tolerance now, Request.tick tolerance now ∉ rs) :
    ¬ (wasDue e s rs).At id place minute := by
  rintro ⟨node, -, earlier, tolerance, now, later, rfl, -⟩
  exact hticks tolerance now (List.mem_append_right _ List.mem_cons_self)

/-- A node that is due, and was not due before in the same minute, is told of. -/
theorem exists_fired {listener : Nat} (hb : e.bus.Reminds listener) {id : Uuid} {n : String}
    {minute : Int} (hn : n ≠ "-") (hdue : (history e s rs).DueAt e tolerance now id (some n) minute)
    (hnew : ¬ (wasDue e s rs).At id n minute) :
    ∃ ev ∈ (history e s rs).fired e tolerance now, ev.instanceId = id ∧ ev.node = some n := by
  have hlater := (ledger_history (s := s) hb (rs ++ [.tick tolerance now])).1.once id n minute
    ⟨some n, rfl, wasDue_concat.2 (Or.inr ⟨tolerance, now, rfl, hdue⟩)⟩
  have hearlier := (ledger_history (s := s) hb rs).1.reminders_eq_zero hnew
  obtain ⟨new, heq, -⟩ := remindsOf_serve e tolerance now (sound_history (e := e) (s := s) rs)
  -- of the one event of the place and the minute, none was there before the tick
  unfold Ambient.reminders at hlater hearlier
  rw [history_concat, heq, List.countP_append, hearlier, Nat.add_zero] at hlater
  have hpos := Nat.lt_of_lt_of_eq Nat.zero_lt_one hlater.symm
  obtain ⟨⟨l, ev⟩, hmem, hreminds⟩ := List.countP_pos_iff.1 hpos
  rw [fired_eq heq]
  cases ev with
  | reminder ev =>
    simp only [Delivery.reminds, Bool.and_eq_true, beq_iff_eq] at hreminds
    refine ⟨ev, List.mem_filterMap.2 ⟨_, hmem, rfl⟩, hreminds.1.1.2, ?_⟩
    cases hnode : ev.node with
    | none =>
      rw [hnode] at hreminds
      exact absurd hreminds.2.symm hn
    | some m =>
      rw [hnode] at hreminds
      exact congrArg some hreminds.2
  | task ev => cases hreminds
  | instanceRecord ev => cases hreminds

/-- The events of a tick name just the open tasks they are about, and those of nodes name some unless
a node is deserted. -/
theorem remindsOfWork_iff (hm : e.registry.Mints) (hd : (history e s rs).supply.Distinct) :
    (∀ ev ∈ (history e s rs).fired e tolerance now, ev.NamesOpen (history e s rs).store) ∧
      ((history e s rs).RemindsOfWork e tolerance now ↔
        ∀ ev ∈ (history e s rs).fired e tolerance now, ¬ ev.Deserted (history e s rs).store) := by
  have htidy := tidy_history hm hd
  have hnames := fun ev (h : ev ∈ (history e s rs).fired e tolerance now) =>
    namesOpen_of_mem_fired htidy h
  refine ⟨hnames, forall₂_congr fun ev h => ?_⟩
  rw [deserted_iff_of_mem_fired htidy (rests_history hm hd) h, not_and]
  exact and_iff_right (hnames ev h)

theorem heardEngine_mints : heardEngine.registry.Mints := Registry.mints_of_standard rfl

/-- What the instances of a session wait for is tasks alone. -/
theorem awaiting_work :
    ((history heardEngine countedIds (awaiting "work")).store.activeInstances.map fun i =>
      (i.failure, i.joinArrivals)) = [(none, ∅)] ∧
    (history heardEngine countedIds (awaiting "work")).supply.drawn = 2 := by
  rw [history_awaiting (by cbv) (by cbv)]
  constructor <;> cbv

/-- While its task is open, the node is reminded of with the task. -/
theorem remindsOfWork_work : heardEngine.registry.Mints ∧
    (history heardEngine countedIds (awaiting "work")).supply.Distinct ∧
      (history heardEngine countedIds (awaiting "work")).RemindsOfWork heardEngine (Span.ofSeconds 60)
        ⟨60, 0⟩ ∧
      ∃ ev ∈ (history heardEngine countedIds (awaiting "work")).fired heardEngine (Span.ofSeconds 60)
        ⟨60, 0⟩, ev.instanceId = ⟨0⟩ ∧ ev.node = some "work" ∧ ev.tasks ≠ [] := by
  obtain ⟨hwaiting, hdrawn⟩ := awaiting_work
  have hd : (history heardEngine countedIds (awaiting "work")).supply.Distinct :=
    distinct_of_draws heardEngine_mints.draws (by omega) hdrawn
  have hs : (history heardEngine countedIds (awaiting "work")).store.Sound := sound_history _
  have hwork : (history heardEngine countedIds (awaiting "work")).RemindsOfWork heardEngine
      (Span.ofSeconds 60) ⟨60, 0⟩ := by
    refine (remindsOfWork_iff heardEngine_mints hd).2.2 fun ev hev => ?_
    obtain ⟨i, d, source, occurrence, hi, hactive, -, rfl⟩ := sentFrom_of_mem_fired hs hev
    rintro ⟨j, n, hj, -, -, -, hrest⟩
    obtain rfl : i = j := Option.some.inj (hi.symm.trans hj)
    have hmem := List.mem_map_of_mem (f := fun i : Instance => (i.failure, i.joinArrivals))
      ((mem_activeInstances_iff hs.toKeyed).2 ⟨hi, hactive⟩)
    rw [hwaiting, List.mem_singleton, Prod.mk.injEq] at hmem
    obtain ⟨hfailure, harrivals⟩ := hmem
    rcases hrest with ⟨f, hf, -⟩ | harrived
    · rw [hfailure] at hf
      cases hf
    · rw [harrivals] at harrived
      cases harrived
  obtain ⟨ev, hev, hid, hnode⟩ := exists_fired reminds_heardEngine (by decide)
    (awaited_work.dueAt_iff.2 ⟨Or.inr rfl, due_everyMinute (some "work")⟩)
    (not_at_wasDue (by simp [awaiting]))
  exact ⟨heardEngine_mints, hd, hwork, ev, hev, hid, hnode, (hwork ev hev).2 (by rw [hnode]; rfl)⟩

section Approval

/-- A task whose token leaves its node only once it is approved, and a reminder of the task's node. -/
def approval : Definition :=
  { id := "approval", version := 1, name := none, description := none, reminder := none
    timeoutSeconds := none
    nodes := [
      ⟨"start", none, .start, none, [.plain "work"]⟩,
      ⟨"work", none, .task ["ann"] none (some everyMinute), none, [⟨"end", some (.single "ok")⟩]⟩,
      ⟨"end", none, .stop, none, []⟩] }

theorem heardEngine_eq :
    heardEngine = ⟨gateEvaluator, .standard, ⟨[⟨fun _ => true, fun _ _ => .ok ()⟩]⟩, .default⟩ := by
  rw [gateEvaluator_eq]
  rfl

theorem checkUse_approval : checkUse heardEngine approval = .ok () := by
  have hreminders : approval.validateReminders = .ok () := by
    have hnone (place : Option String) : Definition.checkReminder place none = .ok () := rfl
    simp only [Definition.validateReminders, approval, Definition.checkNodeReminders,
      Node.reminder, checkReminder_everyMinute, hnone]
    rfl
  rw [heardEngine_eq]
  unfold checkUse
  rw [hreminders]
  rfl

/-- The task is completed, but not approved. -/
def disapproved : List Request :=
  [.deploy approval, .start "approval" (verdict false), .complete ⟨1⟩ ∅]

theorem history_disapproved : history heardEngine countedIds disapproved =
    ((deployedTo (opened countedIds) heardEngine approval).serve heardEngine
      (.start "approval" (verdict false))).serve heardEngine (.complete ⟨1⟩ ∅) :=
  congrArg (fun x => serve heardEngine (serve heardEngine x (.start "approval" (verdict false)))
    (.complete ⟨1⟩ ∅)) (serve_deploy (by cbv) (by cbv) checkUse_approval)

/-- What the tick finds a minute later: the token is stuck at the node of the reminder, and the task is
done. -/
structure Disapproved (x : Session) : Prop where
  stored : (x.store.instance? ⟨0⟩).map (fun i => (i.isActive, isOverdue i ⟨60, 0⟩, i.definitionId,
    sources approval i)) = some (true, false, "approval", [⟨some "work", everyMinute⟩])
  found : (Action.run x.world x.ambient (definition heardEngine "approval")).1.1 = .ok approval
  idle : (x.store.tasksOf ⟨0⟩).filter Task.isOpen = []
  drawn : x.supply.drawn = 2

theorem disapproved_history : Disapproved (history heardEngine countedIds disapproved) := by
  rw [history_disapproved]
  constructor <;> rw [heardEngine_eq] <;> cbv

/-- The node of a task that is done is reminded of, without a task to be done. -/
theorem not_remindsOfWork_disapproved :
    (history heardEngine countedIds disapproved).supply.Distinct ∧
      ¬ (history heardEngine countedIds disapproved).RemindsOfWork heardEngine (Span.ofSeconds 60)
        ⟨60, 0⟩ := by
  have h := disapproved_history
  refine ⟨distinct_of_draws heardEngine_mints.draws (by omega) h.drawn, fun hwork => ?_⟩
  obtain ⟨i, hi, hfacts⟩ := Option.map_eq_some_iff.1 h.stored
  simp only [Prod.mk.injEq] at hfacts
  obtain ⟨hactive, hoverdue, hname, hsources⟩ := hfacts
  have hdue : (history heardEngine countedIds disapproved).DueAt heardEngine (Span.ofSeconds 60)
      ⟨60, 0⟩ ⟨0⟩ (some "work") 1 :=
    ⟨i, approval, ⟨some "work", everyMinute⟩, hi, hactive, hoverdue, by rw [hname, h.found],
      by rw [hsources]; exact List.mem_cons_self, rfl, due_everyMinute (some "work")⟩
  have hnew : ¬ (wasDue heardEngine countedIds disapproved).At ⟨0⟩ "work" 1 :=
    not_at_wasDue (by simp [disapproved])
  obtain ⟨ev, hev, hid, hnode⟩ := exists_fired reminds_heardEngine (by decide) hdue hnew
  obtain ⟨hopen, hsome⟩ := hwork ev hev
  have hne := hsome (by rw [hnode]; rfl)
  obtain ⟨t, ht, htopen, -⟩ := (hopen.tasks_ne_nil_iff (sound_history _) hnode).1 hne
  rw [hid] at ht
  have hlisted := List.mem_filter.2 ⟨ht, htopen⟩
  rw [h.idle] at hlisted
  cases hlisted

end Approval

end Session

end Workflow
