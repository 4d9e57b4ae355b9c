import Workflow.Proofs.Exclusion
import Workflow.Proofs.ReminderKeys
import Workflow.Proofs.Routine
import Workflow.Proofs.Ticks

/-!
What a tick does about reminders. Which sources are due depends on the definitions in the store, since
the cache has copies of just these; for each that is due there is a mark in the cache afterwards and
one event of its place and minute.

## Main statements

* `Settled.run_definition`: the definition that is found depends on the store only.
* `Ledger.tick`: marks and events go together, and a tick adds what is due to both.
-/
namespace Workflow

open Time (Instant Span)
open Engine Engine.Action Engine.Attempt Scheduler

/-- Whether a delivery reminds a listener of an instance in a minute, at one of these places in it. -/
def Delivery.reminds (listener : Nat) (id : Uuid) (minute : Int) (places : Option String → Bool)
    (d : Delivery) : Bool :=
  match d.event with
  | .reminder ev => d.listener == listener && ev.instanceId == id &&
      ev.occurrence.minute == minute && places ev.node
  | _ => false

/-- How often a listener was reminded. -/
def Engine.Ambient.reminders (a : Ambient) (listener : Nat) (id : Uuid) (minute : Int)
    (places : Option String → Bool) : Nat :=
  a.deliveries.countP (Delivery.reminds listener id minute places)

/-! ### Events -/

section Bus

variable {ev : Event} {q : Delivery → Bool}

theorem countP_deliver_of_past {ls : List Listener} {k : Nat} (past : List Delivery)
    (hok : ∀ l ∈ ls, l.hears ev.kind = true → ∀ heard, l.respond heard ev = .ok ())
    (hq : ∀ m, k ≤ m → q ⟨m, ev⟩ = false) :
    (Bus.deliver ev past k ls).1 = .ok () ∧ (Bus.deliver ev past k ls).2.countP q = past.countP q := by
  induction ls generalizing k past with
  | nil => exact ⟨rfl, rfl⟩
  | cons l ls ih =>
    have hrest := fun l' h => hok l' (List.mem_cons_of_mem _ h)
    have hnext : ∀ m, k + 1 ≤ m → q ⟨m, ev⟩ = false := fun m hm => hq m (by omega)
    unfold Bus.deliver
    by_cases hears : l.hears ev.kind = true
    · rw [if_pos hears, hok l List.mem_cons_self hears]
      obtain ⟨hanswer, hcount⟩ := ih (⟨k, ev⟩ :: past) hrest hnext
      refine ⟨hanswer, ?_⟩
      rw [hcount, List.countP_cons_of_neg (by simp [hq k (Nat.le_refl k)])]
    · rw [if_neg hears]
      exact ih past hrest hnext

/-- A listener that hears of an event hears of it once. -/
theorem countP_deliver {ls : List Listener} {k n : Nat} {l : Listener} (past : List Delivery)
    (hok : ∀ l ∈ ls, l.hears ev.kind = true → ∀ heard, l.respond heard ev = .ok ())
    (hl : ls[n]? = some l) (hears : l.hears ev.kind = true)
    (hq : ∀ m, m ≠ k + n → q ⟨m, ev⟩ = false) :
    (Bus.deliver ev past k ls).1 = .ok () ∧
      (Bus.deliver ev past k ls).2.countP q = past.countP q + if q ⟨k + n, ev⟩ then 1 else 0 := by
  induction ls generalizing k n past with
  | nil => cases hl
  | cons l' ls ih =>
    have hrest := fun l' h => hok l' (List.mem_cons_of_mem _ h)
    unfold Bus.deliver
    cases n with
    | zero =>
      obtain rfl : l' = l := Option.some.inj hl
      rw [if_pos hears, hok l' List.mem_cons_self hears]
      obtain ⟨hanswer, hcount⟩ := countP_deliver_of_past (k := k + 1) (⟨k, ev⟩ :: past) hrest
        fun m hm => hq m (by omega)
      refine ⟨hanswer, ?_⟩
      rw [hcount, List.countP_cons]
      rfl
    | succ n =>
      have hoffset : k + 1 + n = k + (n + 1) := by omega
      by_cases hears' : l'.hears ev.kind = true
      · rw [if_pos hears', hok l' List.mem_cons_self hears']
        obtain ⟨hanswer, hcount⟩ := ih (k := k + 1) (n := n) (⟨k, ev⟩ :: past) hrest hl
          (hoffset ▸ hq)
        refine ⟨hanswer, ?_⟩
        rw [hcount, hoffset, List.countP_cons_of_neg (by simp [hq k (by omega)])]
      · rw [if_neg hears']
        rw [← hoffset] at hq ⊢
        exact ih past hrest hl hq

end Bus

/-! ### What is found -/

/-- The definition that an engine finds under a name, given those in the store. -/
def Engine.found (e : Engine) (definitions : Dict String Definition) (name : String) :
    Option Definition :=
  (definitions.get? name).map fun d =>
    if e.config.cacheDefinitions then (Definition.ofValue? d.toValue).getD d else d

/-- A world whose cache has copies of all the definitions in the store, and of no others. -/
structure Settled (e : Engine) (definitions : Dict String Definition) (w : World) : Prop where
  definitions : w.store.definitions = definitions
  faithful : Faithful e w
  mirrored : Mirrored e w

namespace Settled

variable {e : Engine} {definitions : Dict String Definition} {w : World} {a : Ambient}

theorem of_obeys {α : Type} {x : Action α} (h : Settled e definitions w)
    (hx : Obeys (fun v => v.store.definitions = definitions) (Call.Mirrors definitions) x) :
    Settled e definitions (Action.run w a x).2 := by
  refine (hx.run (I := Settled e definitions) (fun _ hv => hv.definitions) (fun v c hc hv => ?_) h).2
  rw [← hv.definitions] at hc
  exact ⟨(World.definitions_answer hc).trans hv.definitions, hv.faithful.answer hc, hv.mirrored.answer hc⟩

/-- What is in the cache is what is in the store. -/
theorem get?_definitionKey (h : Settled e definitions w) (hcaches : e.config.cacheDefinitions = true)
    (name : String) :
    w.cache.get? (definitionKey name) = (definitions.get? name).map Definition.toValue := by
  rw [← h.definitions]
  cases hd : w.store.definitions.get? name with
  | some d => exact h.mirrored hcaches name d hd
  | none =>
    rw [Option.map_none, Option.eq_none_iff_forall_ne_some]
    intro v hv
    obtain ⟨d, hd', -⟩ := h.faithful.copied hcaches hv
    rw [Store.definition?, hd] at hd'
    cases hd'

/-- What is found depends on the definitions in the store only. -/
theorem run_definition (h : Settled e definitions w) (name : String) :
    (Action.run w a (definition e name)).1.1 =
      match e.found definitions name with
      | some d => .ok d
      | none => .error (.notFound (.definition name)) := by
  have hcheck : ∀ {d}, definitions.get? name = some d → check e d = .ok () := fun hd =>
    h.faithful.checked (n := name) (by rw [Store.definition?, h.definitions, hd])
  rw [result_definition, lookedUp, cachedCopy?, Store.definition?, h.definitions, found]
  cases hcaches : e.config.cacheDefinitions with
  | false =>
    cases hd : definitions.get? name with
    | none => rfl
    | some d => simp [hcheck hd, Except.mapError, Except.map]
  | true =>
    rw [if_pos rfl, h.get?_definitionKey hcaches name]
    cases hd : definitions.get? name with
    | none => rfl
    | some d =>
      rw [Option.map_some, Option.bind_some, Option.map_some]
      -- a copy that cannot be read is passed over
      cases hread : Definition.ofValue? d.toValue with
      | none => simp [hcheck hd, Except.mapError, Except.map]
      | some d' => rfl

end Settled

/-! ### What is due, and what was told -/

/-- Which places of which instances were due in which minutes. -/
abbrev Dues := Uuid → Option String → Int → Prop

/-- Whether one of the sources that marks call by this name was due. -/
def Dues.At (D : Dues) (id : Uuid) (place : String) (minute : Int) : Prop :=
  ∃ node : Option String, node.getD "-" = place ∧ D id node minute

/-- Those that were due before, and one more. -/
def Dues.with (D : Dues) (id : Uuid) (node : Option String) (minute : Int) : Dues :=
  fun id' node' minute' => D id' node' minute' ∨ id' = id ∧ node' = node ∧ minute' = minute

/-- A listener that hears of reminders, and no listener refuses any. -/
structure Bus.Reminds (b : Bus) (listener : Nat) : Prop where
  hears : ∃ l, b.listeners[listener]? = some l ∧ l.hears .reminder = true
  accepts : ∀ l ∈ b.listeners, l.hears .reminder = true → ∀ heard ev,
    l.respond heard (.reminder ev) = .ok ()

/-- The marks and what a listener has heard, by what was due: a place is marked in a minute if it was due
then, and was told of once. -/
structure Ledger (listener : Nat) (D : Dues) (w : World) (a : Ambient) : Prop where
  marked : ∀ i source t, (w.cache.get? (reminderKey i source t)).isSome = true ↔
    D.At i.id source.place t.minute
  once : ∀ id place minute, D.At id place minute →
    a.reminders listener id minute (fun node => node.getD "-" == place) = 1
  due : ∀ id node minute, 0 < a.reminders listener id minute (fun node' => node' == node) →
    D id node minute

/-- What operations keep in the cache are definitions. -/
theorem World.cache_answer_of_isRoutine (w : World) {c : Call} (hc : c.IsRoutine) :
    (w.answer c).2.cache = w.cache ∨
      ∃ n v, (w.answer c).2.cache = w.cache.put (definitionKey n) v := by
  cases hwritten : c.written? with
  | some i =>
    rcases w.answer_write hwritten with hsame | hwrote
    · exact Or.inl (by rw [hsame])
    · exact Or.inl hwrote.cache
  | none =>
    cases c with
    | remember k v =>
      obtain ⟨n, rfl⟩ := hc
      exact Or.inr ⟨n, v, rfl⟩
    | saveInstance i => cases hwritten
    | commit c => cases hwritten
    | _ => exact Or.inl rfl

/-- The same marks, the same reminders and the same lock. -/
structure Unreminded (x y : World × Ambient) : Prop where
  reminders : ∀ listener id minute places,
    y.2.reminders listener id minute places = x.2.reminders listener id minute places
  marks : ∀ i source t, y.1.cache.get? (reminderKey i source t) = x.1.cache.get? (reminderKey i source t)
  lock : y.1.lock = x.1.lock

theorem routine_unreminded : Routine Unreminded where
  refl x := ⟨fun _ _ _ _ => rfl, fun _ _ _ => rfl, rfl⟩
  trans h h' := ⟨fun l id m p => (h'.reminders l id m p).trans (h.reminders l id m p),
    fun i s t => (h'.marks i s t).trans (h.marks i s t), h'.lock.trans h.lock⟩
  supply _ _ _ := ⟨fun _ _ _ _ => rfl, fun _ _ _ => rfl, rfl⟩
  handled _ _ _ := ⟨fun _ _ _ _ => rfl, fun _ _ _ => rfl, rfl⟩
  asked _ _ _ := ⟨fun _ _ _ _ => rfl, fun _ _ _ => rfl, rfl⟩
  trace _ _ _ := ⟨fun _ _ _ _ => rfl, fun _ _ _ => rfl, rfl⟩
  delivers w a listener ev hev := by
    refine ⟨fun l id minute places => ?_, fun _ _ _ => rfl, rfl⟩
    have hother : Delivery.reminds l id minute places ⟨listener, ev⟩ = false := by
      cases ev with
      | reminder ev => exact absurd rfl hev
      | _ => rfl
    exact List.countP_cons_of_neg (by simp [hother])
  answers w a c hc := by
    refine ⟨fun _ _ _ _ => rfl, fun i source t => ?_, ?_⟩
    · change (w.answer c).2.cache.get? _ = _
      rcases w.cache_answer_of_isRoutine hc with hsame | ⟨n, v, hput⟩
      · rw [hsame]
      · rw [hput, Cache.get?_put, if_neg (reminderKey_ne_definitionKey i source t n)]
    · cases c with
      | acquire => exact hc.elim
      | release => exact hc.elim
      | saveInstance i =>
        change (w.write _).2.lock = _
        unfold World.write
        split <;> rfl
      | commit c =>
        change (w.write _).2.lock = _
        unfold World.write
        split <;> rfl
      | _ => rfl

namespace Ledger

variable {listener : Nat} {D D' : Dues} {w w' : World} {a a' : Ambient}

theorem congr (h : Ledger listener D w a)
    (hD : ∀ id node minute, D id node minute ↔ D' id node minute) : Ledger listener D' w a := by
  obtain rfl : D = D' := funext fun id => funext fun node => funext fun minute =>
    propext (hD id node minute)
  exact h

theorem of_unreminded (h : Ledger listener D w a) (hu : Unreminded (w, a) (w', a')) :
    Ledger listener D w' a' where
  marked i source t := by
    rw [hu.marks i source t]
    exact h.marked i source t
  once id place minute hat := by
    rw [hu.reminders]
    exact h.once id place minute hat
  due id node minute hpos := by
    rw [hu.reminders] at hpos
    exact h.due id node minute hpos

/-- A place that was not due is not told of. -/
theorem reminders_eq_zero (h : Ledger listener D w a) {id : Uuid} {place : String} {minute : Int}
    (hat : ¬ D.At id place minute) :
    a.reminders listener id minute (fun node => node.getD "-" == place) = 0 := by
  refine Nat.eq_zero_of_not_pos fun hpos => hat ?_
  obtain ⟨d, hd, hreminds⟩ := List.countP_pos_iff.1 hpos
  obtain ⟨l, ev⟩ := d
  cases ev with
  | reminder ev =>
    simp only [Delivery.reminds, Bool.and_eq_true, beq_iff_eq] at hreminds
    refine ⟨ev.node, hreminds.2, h.due id ev.node minute (List.countP_pos_iff.2 ⟨_, hd, ?_⟩)⟩
    simp only [Delivery.reminds, hreminds, Bool.and_eq_true, beq_iff_eq]
    trivial
  | _ => cases hreminds

theorem at_with {id id' : Uuid} {node : Option String} {place : String} {minute minute' : Int} :
    (D.with id node minute).At id' place minute' ↔
      D.At id' place minute' ∨ id' = id ∧ node.getD "-" = place ∧ minute' = minute := by
  constructor
  · rintro ⟨node', hplace, hold | ⟨hid, rfl, hminute⟩⟩
    · exact Or.inl ⟨node', hplace, hold⟩
    · exact Or.inr ⟨hid, hplace, hminute⟩
  · rintro (⟨node', hplace, hold⟩ | ⟨hid, hplace, hminute⟩)
    · exact ⟨node', hplace, Or.inl hold⟩
    · exact ⟨node, hplace, Or.inr ⟨hid, rfl, hminute⟩⟩

/-- A source is due whose mark is there already. -/
theorem again {id : Uuid} {node : Option String} {minute : Int} (h : Ledger listener D w a)
    (hat : D.At id (node.getD "-") minute) : Ledger listener (D.with id node minute) w a := by
  have hsame : ∀ {id' place minute'}, (D.with id node minute).At id' place minute' ↔
      D.At id' place minute' := by
    intro id' place minute'
    rw [at_with]
    constructor
    · rintro (hold | ⟨rfl, rfl, rfl⟩)
      · exact hold
      · exact hat
    · exact Or.inl
  exact ⟨fun i source t => (h.marked i source t).trans hsame.symm,
    fun id' place minute' hat' => h.once id' place minute' (hsame.1 hat'),
    fun id' node' minute' hpos => Or.inl (h.due id' node' minute' hpos)⟩

/-- An event of a reminder reaches the listener once. -/
theorem run_notify {b : Bus} (hb : b.Reminds listener) (w : World) (a : Ambient) (ev : ReminderEvent) :
    ∃ a', Action.run w a (liftM (Attempt.notify b (.reminder ev)) : Action Unit) =
        ((.ok (), a'), w) ∧
      ∀ id minute places, a'.reminders listener id minute places =
        a.reminders listener id minute places +
          if Delivery.reminds listener id minute places ⟨listener, .reminder ev⟩ then 1 else 0 := by
  obtain ⟨l, hl, hears⟩ := hb.hears
  have hok : ∀ l ∈ b.listeners, l.hears (Event.reminder ev).kind = true → ∀ heard,
      l.respond heard (.reminder ev) = .ok () := fun l hl hk heard => hb.accepts l hl hk heard ev
  have hcount := fun (q : Delivery → Bool) (hq : ∀ m, m ≠ 0 + listener → q ⟨m, .reminder ev⟩ = false) =>
    countP_deliver a.deliveries hok hl hears hq
  refine ⟨{ a with deliveries := (b.notify a.deliveries (.reminder ev)).2 }, ?_,
    fun id minute places => ?_⟩
  · obtain ⟨hanswer, -⟩ := hcount (fun _ => false) fun _ _ => rfl
    rw [run_lift]
    rcases h : Attempt.notify b (.reminder ev) a with ⟨r, a'⟩
    rw [Attempt.notify, bind_ok get_eq] at h
    rcases hnotify : b.notify a.deliveries (.reminder ev) with ⟨answer, deliveries⟩
    rw [Bus.notify] at hnotify
    rw [hnotify] at hanswer
    obtain rfl : answer = .ok () := hanswer
    simp only [Bus.notify, hnotify] at h
    rw [bind_ok (set_eq _)] at h
    cases h
    rfl
  · refine ((hcount (Delivery.reminds listener id minute places) fun m hm => ?_).2).trans ?_
    · have hne : (m == listener) = false := by simpa using hm
      simp [Delivery.reminds, hne]
    · rw [Nat.zero_add]
      rfl

/-- A source is due whose mark is not there yet: it is told of and marked. -/
theorem first {i : Instance} {source : Source} {t : Instant} {v : Value} (h : Ledger listener D w a)
    (hat : ¬ D.At i.id source.place t.minute)
    (hw : w'.cache = w.cache.put (reminderKey i source t) v)
    (ha : ∀ id minute places, a'.reminders listener id minute places =
      a.reminders listener id minute places +
        if i.id = id ∧ t.minute = minute ∧ places source.node = true then 1 else 0) :
    Ledger listener (D.with i.id source.node t.minute) w' a' where
  marked j source' u := by
    rw [hw, Cache.get?_put, at_with, ← h.marked j source' u]
    split
    · rename_i hkey
      obtain ⟨hid, hplace, hminute⟩ := reminderKey_inj.1 hkey
      simpa using Or.inr ⟨hid, hplace.symm, hminute⟩
    · rename_i hkey
      refine ⟨Or.inl, fun hor => hor.resolve_right ?_⟩
      rintro ⟨hid, hplace, hminute⟩
      exact hkey (reminderKey_inj.2 ⟨hid, hplace.symm, hminute⟩)
  once id place minute hat' := by
    rw [ha]
    rcases at_with.1 hat' with hold | ⟨rfl, rfl, rfl⟩
    · rw [h.once id place minute hold, if_neg]
      rintro ⟨rfl, rfl, hplace⟩
      obtain rfl : source.place = place := beq_iff_eq.1 hplace
      exact hat hold
    · change a.reminders listener i.id t.minute (fun node => node.getD "-" == source.place) + _ = 1
      rw [h.reminders_eq_zero hat, if_pos ⟨rfl, rfl, beq_self_eq_true _⟩]
  due id node minute hpos := by
    rw [ha] at hpos
    by_cases hnew : i.id = id ∧ t.minute = minute ∧ (source.node == node) = true
    · obtain ⟨rfl, rfl, hnode⟩ := hnew
      exact Or.inr ⟨rfl, (beq_iff_eq.1 hnode).symm, rfl⟩
    · rw [if_neg hnew] at hpos
      exact Or.inl (h.due id node minute hpos)

theorem send {s : Scheduler} (hb : s.engine.bus.Reminds listener) (h : Ledger listener D w a)
    (i : Instance) (now : Instant) (source : Source) (occurrence : Instant) :
    ∃ told a' w', Action.run w a (s.send i now source occurrence) = ((.ok told, a'), w') ∧
      Ledger listener (D.with i.id source.node occurrence.minute) w' a' ∧ w'.lock = w.lock := by
  have hlookUp : Action.run w a (ask (.lookUp (reminderKey i source occurrence))) =
      ((.ok (w.cache.get? (reminderKey i source occurrence)), a), w) := rfl
  have hmarked := h.marked i source occurrence
  unfold Scheduler.send
  rw [run_bind_ok hlookUp]
  cases hmark : w.cache.get? (reminderKey i source occurrence) with
  | some v =>
    rw [hmark] at hmarked
    exact ⟨false, a, w, rfl, h.again (hmarked.1 rfl), rfl⟩
  | none =>
    rw [hmark] at hmarked
    have hat : ¬ D.At i.id source.place occurrence.minute := fun hat => by simpa using hmarked.2 hat
    have htasks : Action.run w a (openTasks i.id) =
        ((.ok ((w.store.tasksOf i.id).filter Task.isOpen), a), w) := rfl
    obtain ⟨a₁, hnotify, hcount⟩ := run_notify hb w a ⟨i.id, i.definitionId, source.node,
      remindedTasks source ((w.store.tasksOf i.id).filter Task.isOpen), occurrence, now⟩
    simp only
    rw [run_bind_ok htasks, run_bind_ok hnotify]
    refine ⟨true, a₁, _, rfl, h.first hat rfl fun id minute places => ?_, rfl⟩
    rw [hcount]
    simp [Delivery.reminds, and_assoc]

end Ledger

/-! ### Ticks -/

namespace Scheduler

variable {s : Scheduler} {now : Instant} {i : Instance} {definitions : Dict String Definition}

/-- Whether a source is due at a tick, with an occurrence in this minute. -/
def Source.Due (tolerance : Span) (now : Instant) (source : Source) (minute : Int) : Prop :=
  ∃ rule occurrence, Reminder.Rule.compile source.param = .ok rule ∧
    rule.dueOccurrence now tolerance = .ok (some occurrence) ∧ occurrence.minute = minute

/-- What a source is due for is what its rule says. -/
theorem Source.due_iff {tolerance : Span} {now : Instant} {source : Source} {minute : Int}
    {rule : Reminder.Rule} {found : Option Instant}
    (hrule : Reminder.Rule.compile source.param = .ok rule)
    (hdue : rule.dueOccurrence now tolerance = .ok found) :
    source.Due tolerance now minute ↔
      ∃ occurrence, found = some occurrence ∧ occurrence.minute = minute := by
  constructor
  · rintro ⟨rule', occurrence, hrule', hdue', hminute⟩
    rw [Except.ok.inj (hrule'.symm.trans hrule), hdue] at hdue'
    exact ⟨occurrence, Except.ok.inj hdue', hminute⟩
  · rintro ⟨occurrence, rfl, hminute⟩
    exact ⟨rule, occurrence, hrule, hdue, hminute⟩

/-- Whether one of the sources of an instance is due whose deadline is not over. -/
def DueIn (s : Scheduler) (definitions : Dict String Definition) (now : Instant) (i : Instance)
    (node : Option String) (minute : Int) : Prop :=
  isOverdue i now = false ∧ ∃ d, s.engine.found definitions i.definitionId = some d ∧
    ∃ source ∈ sources d i, source.node = node ∧ source.Due s.tolerance now minute

/-- Nothing is due at a tick that is given up. -/
theorem not_due_of_error {rule : Reminder.Rule} {err : Reminder.Rule.DueError}
    (h : rule.dueOccurrence now s.tolerance = .error err) (source : Source) (minute : Int) :
    ¬ source.Due s.tolerance now minute := by
  rintro ⟨rule', occurrence, -, hdue, -⟩
  unfold Reminder.Rule.dueOccurrence at h hdue
  split at hdue
  · split at h
    · cases hstart : now.shift? (-s.tolerance) with
      | none =>
        rw [hstart] at hdue
        cases hdue
      | some start =>
        rw [hstart] at h
        cases h
    · cases h
  · cases hdue

end Scheduler

/-- Those that were due before, and those that are due among the sources of an instance. -/
def Dues.among (D : Dues) (s : Scheduler) (now : Instant) (i : Instance) (sources : List Source) :
    Dues := fun id node minute =>
  D id node minute ∨ id = i.id ∧ ∃ source ∈ sources, source.node = node ∧ source.Due s.tolerance now minute

/-- Those that were due before, and those that are due in one of the instances. -/
def Dues.within (D : Dues) (s : Scheduler) (definitions : Dict String Definition) (now : Instant)
    (is : List Instance) : Dues := fun id node minute =>
  D id node minute ∨ ∃ i ∈ is, id = i.id ∧ s.DueIn definitions now i node minute

namespace Ledger

variable {listener : Nat} {D : Dues} {w : World} {a : Ambient} {s : Scheduler} {i : Instance}
  {definitions : Dict String Definition} (hb : s.engine.bus.Reminds listener) (now : Instant)
include hb

theorem remind {sources : List Source} (sent : Nat)
    (hcompiles : ∀ source ∈ sources, source.param.Compiles) (h : Ledger listener D w a) :
    ∃ v a' w', Action.run w a (s.remind i now sent sources) = ((.ok v, a'), w') ∧
      w'.lock = w.lock ∧ Ledger listener (D.among s now i sources) w' a' ∧
      (v = .abandoned → ∀ (source : Source) minute, ¬ source.Due s.tolerance now minute) := by
  induction sources generalizing sent D w a with
  | nil =>
    refine ⟨.reminded sent, a, w, rfl, rfl, h.congr fun id node minute => ?_, fun hv => nomatch hv⟩
    simp [Dues.among]
  | cons source rest ih =>
    have hrest := fun source' hmem => hcompiles source' (List.mem_cons_of_mem _ hmem)
    obtain ⟨rule, hrule⟩ := hcompiles source List.mem_cons_self
    have hconfigured : Action.run w a (liftM (configured ((Reminder.Rule.compile source.param).mapError
        .reminder)) : Action Reminder.Rule) = ((.ok rule, a), w) := by
      rw [hrule]
      rfl
    unfold Scheduler.remind
    rw [run_bind_ok hconfigured]
    cases hdue : rule.dueOccurrence now s.tolerance with
    | error err =>
      have hnone := not_due_of_error hdue
      refine ⟨.abandoned, a, w, rfl, rfl, h.congr fun id node minute => ⟨Or.inl, ?_⟩, fun _ => hnone⟩
      rintro (hold | ⟨-, source', -, -, hdue'⟩)
      · exact hold
      · exact absurd hdue' (hnone source' minute)
    | ok found =>
      have hsource : ∀ minute, source.Due s.tolerance now minute ↔ _ := fun _ => Source.due_iff hrule hdue
      cases found with
      | none =>
        obtain ⟨v, a', w', hrun, hlock, hledger, hv⟩ := ih sent hrest h
        refine ⟨v, a', w', hrun, hlock, hledger.congr fun id node minute => ?_, hv⟩
        simp [Dues.among, hsource]
      | some occurrence =>
        obtain ⟨told, a₁, w₁, hsend, hledger₁, hlock₁⟩ := h.send hb i now source occurrence
        have hnext : ∀ sent, ∃ v a' w', Action.run w₁ a₁ (s.remind i now sent rest) =
            ((.ok v, a'), w') ∧ w'.lock = w.lock ∧
            Ledger listener (D.among s now i (source :: rest)) w' a' ∧
            (v = .abandoned → ∀ (source : Source) minute, ¬ source.Due s.tolerance now minute) := by
          intro sent
          obtain ⟨v, a', w', hrun, hlock, hledger, hv⟩ := ih sent hrest hledger₁
          refine ⟨v, a', w', hrun, hlock.trans hlock₁, hledger.congr fun id node minute => ?_, hv⟩
          simp only [Dues.among, Dues.with, List.mem_cons, exists_eq_or_imp, hsource,
            Option.some.injEq, exists_eq_left']
          grind
        simp only
        rw [run_bind_ok hsend]
        cases told with
        | true => exact hnext (sent + 1)
        | false => exact hnext sent

/-- The visit to an instance of a settled world. -/
theorem visit (hw : Settled s.engine definitions w)
    (hi : ∀ p, i.reminder = some p → p.Compiles) (h : Ledger listener D w a) :
    ∃ v a' w', Action.run w a (s.visit i now) = ((v, a'), w') ∧ w'.lock = w.lock ∧
      Ledger listener (D.within s definitions now [i]) w' a' ∧
      (v = .ok .abandoned → ∀ (source : Source) minute, ¬ source.Due s.tolerance now minute) := by
  unfold Scheduler.visit
  by_cases hoverdue : isOverdue i now = true
  · rw [if_pos hoverdue]
    have hclosed := (routine_unreminded.close :
      Keeps Unreminded (close s.engine i.id .timeout now)) w a
    rcases hrun : Action.run w a (close s.engine i.id .timeout now) with ⟨⟨r, a₁⟩, w₁⟩
    rw [hrun] at hclosed
    have hledger : Ledger listener (D.within s definitions now [i]) w₁ a₁ :=
      (h.of_unreminded hclosed).congr fun id node minute => by
        simp [Dues.within, DueIn, hoverdue]
    cases r with
    | error err => exact ⟨.error err, a₁, w₁, run_bind_error hrun, hclosed.lock, hledger,
        fun hv => nomatch hv⟩
    | ok u => exact ⟨.ok .timedOut, a₁, w₁, run_bind_ok hrun, hclosed.lock, hledger,
        fun hv => nomatch hv⟩
  · rw [if_neg hoverdue]
    have hfound := hw.run_definition (a := a) i.definitionId
    have hlooked := (routine_unreminded.definition :
      Keeps Unreminded (definition s.engine i.definitionId)) w a
    rcases hrun : Action.run w a (definition s.engine i.definitionId) with ⟨⟨r, a₁⟩, w₁⟩
    rw [hrun] at hfound hlooked
    have hledger := h.of_unreminded hlooked
    cases hd : s.engine.found definitions i.definitionId with
    | none =>
      simp only [hd] at hfound
      subst hfound
      refine ⟨_, a₁, w₁, run_bind_error hrun, hlooked.lock, hledger.congr fun id node minute => ?_,
        fun hv => nomatch hv⟩
      simp [Dues.within, DueIn, hd]
    | some d =>
      simp only [hd] at hfound
      subst hfound
      have husable := hw.faithful.usable_of_resolves (definition_ok hrun).1
      obtain ⟨v, a', w', hremind, hlock, hledger', hv⟩ := hledger.remind (i := i) hb now 0
        fun source hmem => compiles_of_mem_sources husable hi hmem
      rw [run_bind_ok hrun]
      refine ⟨.ok v, a', w', hremind, hlock.trans hlooked.lock,
        hledger'.congr fun id node minute => ?_, fun hok => hv (Except.ok.inj hok)⟩
      simp [Dues.within, Dues.among, DueIn, hd, hoverdue]

theorem visitAll {is : List Instance} {r : TickReport} (hw : Settled s.engine definitions w)
    (his : ∀ i ∈ is, ∀ p, i.reminder = some p → p.Compiles) (h : Ledger listener D w a) :
    ∃ v a' w', Action.run w a (s.visitAll now r is) = ((v, a'), w') ∧ w'.lock = w.lock ∧
      Ledger listener (D.within s definitions now is) w' a' := by
  induction is generalizing r D w a with
  | nil =>
    refine ⟨.ok (.ran r), a, w, rfl, rfl, h.congr fun id node minute => ?_⟩
    simp [Dues.within]
  | cons i is ih =>
    have hpermits : Permits s.engine (fun v => v.store.definitions = definitions)
      (Call.Mirrors definitions) := permits_mirrors
    have hlater : Settled s.engine definitions (Action.run w a (s.visit i now)).2 :=
      hw.of_obeys (obeys_visit hpermits.toAllows hpermits.marks hpermits.commits i)
    obtain ⟨v, a₁, w₁, hvisit, hlock₁, hledger₁, habandoned⟩ :=
      h.visit hb now hw (his i List.mem_cons_self)
    rw [hvisit] at hlater
    by_cases hv : v = .ok .abandoned
    · refine ⟨.ok .abandoned, a₁, w₁, ?_, hlock₁, hledger₁.congr fun id node minute => ?_⟩
      · rw [Scheduler.visitAll, run_bind_ok (run_outcome _), hvisit, hv]
        rfl
      · simp [Dues.within, DueIn, habandoned hv]
    · obtain ⟨v', a', w', hrun, hlock, hledger⟩ := ih (r := counted r i v) hlater
        (fun j hj => his j (List.mem_cons_of_mem _ hj)) hledger₁
      refine ⟨v', a', w', (run_visitAll_cons hvisit hv r).trans hrun, hlock.trans hlock₁,
        hledger.congr fun id node minute => ?_⟩
      simp [Dues.within, or_assoc]

/-- A tick that finds the lock free adds what is due in the active instances. -/
theorem tick (hw : Settled s.engine w.store.definitions w)
    (hcompiling : Session.Compiling w.store) (hfree : w.lock = .free) (h : Ledger listener D w a) :
    Ledger listener (D.within s w.store.definitions now w.store.activeInstances)
      (Action.run w a (s.tick now)).2 (Action.run w a (s.tick now)).1.2 := by
  have hmarks : ∀ v : World, v.cache = w.cache → Ledger listener D v a := fun v hv =>
    ⟨fun i source t => by rw [hv]; exact h.marked i source t, h.once, h.due⟩
  have hlocked : Settled s.engine w.store.definitions { w with lock := ⟨true⟩ } :=
    ⟨rfl, ⟨hw.faithful.named, hw.faithful.checked, hw.faithful.copied⟩, hw.mirrored⟩
  have his : ∀ i ∈ w.store.activeInstances, ∀ p, i.reminder = some p → p.Compiles := by
    intro i hi
    obtain ⟨id, hi⟩ := Store.exists_of_mem_activeInstances hi
    exact hcompiling id i hi
  obtain ⟨v, a', w', hrun, -, hledger⟩ := (hmarks { w with lock := ⟨true⟩ } rfl).visitAll
    (r := ⟨0, [], 0, 0⟩) hb now hlocked his
  have hpass : Action.run { w with lock := ⟨true⟩ } a (s.pass now) = ((v, a'), w') := hrun
  rw [run_tick_of_free (by rw [hfree]; rfl), hpass]
  exact ⟨hledger.marked, hledger.once, hledger.due⟩

end Ledger

end Workflow
