import Workflow.Proofs.Announcements

/-!
Whether listeners hear of what was done and of nothing else. What is told of a step that is written is
what it changes in the store just if it creates and closes no task twice (`Closes.agrees_iff`). The
events of such steps add up to the difference between the first store and the last one
(`Agrees.tallies`, `Tallies.trans`).
-/
namespace Workflow

open Time (Instant)
open Engine Engine.Action

/-! ### What is heard -/

/-- Whether a listener hears of all that happens to tasks and instances. -/
def Bus.Hears (b : Bus) (listener : Nat) : Prop :=
  ∃ l, b.listeners[listener]? = some l ∧ l.hears .task = true ∧ l.hears .instanceRecord = true

section Hearing

variable {ev : Event} {evs : List Event} {past past' : List Delivery} {k p : Nat}

theorem heardBy_cons (p : Nat) (d : Delivery) (past : List Delivery) :
    heardBy p (d :: past) = if d.listener = p then d.event :: heardBy p past else heardBy p past := by
  by_cases hd : d.listener = p <;> simp [heardBy, hd]

/-- An event that nobody refuses reaches the listeners of its kind, each of them once. -/
theorem heardBy_deliver {ls : List Listener} (h : Bus.deliver ev past k ls = (.ok (), past')) :
    heardBy p past' =
      if k ≤ p ∧ (ls[p - k]?.any (·.hears ev.kind)) = true then ev :: heardBy p past
      else heardBy p past := by
  induction ls generalizing past k with
  | nil =>
    cases h
    simp
  | cons l ls ih =>
    unfold Bus.deliver at h
    by_cases hp : p = k
    · subst hp
      -- no listener after this one is at its position
      have hlater : ¬ p + 1 ≤ p := Nat.not_succ_le_self p
      split at h
      · rename_i hears
        split at h
        · rw [ih h, if_neg fun hle => hlater hle.1, heardBy_cons, if_pos rfl, if_pos]
          simpa using hears
        · cases h
      · rename_i hears
        rw [ih h, if_neg fun hle => hlater hle.1, if_neg]
        simpa using hears
    · have hrest : ∀ {past₁}, Bus.deliver ev past₁ (k + 1) ls = (.ok (), past') →
          heardBy p past₁ = heardBy p past → heardBy p past' =
            if k ≤ p ∧ ((l :: ls)[p - k]?.any (·.hears ev.kind)) = true then ev :: heardBy p past
            else heardBy p past := by
        intro past₁ hdeliver hsame
        rw [ih hdeliver, hsame]
        by_cases hle : k + 1 ≤ p
        · rw [show p - k = p - (k + 1) + 1 by omega, List.getElem?_cons_succ]
          simp only [hle, Nat.le_of_succ_le hle]
        · rw [if_neg fun h => hle h.1, if_neg fun h => hle (by omega)]
      split at h
      · split at h
        · exact hrest h (by rw [heardBy_cons, if_neg fun h => hp h.symm])
        · cases h
      · exact hrest h rfl

/-- What a listener hears of events that nobody refuses. -/
theorem Bus.Tells.heardBy {b : Bus} (h : b.Tells past evs past') : heardBy p past' =
    (evs.filter fun ev => b.listeners[p]?.any (·.hears ev.kind)).reverse ++ heardBy p past := by
  induction evs generalizing past with
  | nil =>
    cases h
    rfl
  | cons ev evs ih =>
    unfold Tells at h
    rw [tell] at h
    rcases hb : b.notify past ev with ⟨m | u, past₁⟩ <;> rw [hb] at h
    · cases h
    · rw [ih h, heardBy_deliver (p := p) hb, List.filter_cons]
      simp only [Nat.zero_le, true_and, Nat.sub_zero]
      split <;> simp

end Hearing

/-- What a listener has heard since an earlier session, in order. -/
def Session.heard (listener : Nat) (x y : Session) : List Event :=
  (heardBy listener y.ambient.deliveries).reverse.drop (heardBy listener x.ambient.deliveries).length

theorem Session.heard_of_tells {b : Bus} {x y : Session} {evs : List Event} (p : Nat)
    (h : b.Tells x.ambient.deliveries evs y.ambient.deliveries) :
    x.heard p y = evs.filter fun ev => b.listeners[p]?.any (·.hears ev.kind) := by
  rw [heard, h.heardBy (p := p), List.reverse_append, List.reverse_reverse]
  exact List.drop_left' (List.length_reverse ..)

/-! ### Events and what is stored -/

namespace Event

/-- The task that is told to be new. -/
def created? : Event → Option Task
  | task (.created t) => some t
  | _ => none

/-- The task that is told to be closed. -/
def closed? : Event → Option Task
  | task (.completed t) => some t
  | task (.terminated t) => some t
  | _ => none

def instanceRecord? : Event → Option InstanceEvent
  | instanceRecord ev => some ev
  | _ => none

/-- Whether an event is about a task or an instance, and tells of the closing that the task shows. -/
def Fits : Event → Prop
  | task (.completed t) => t.state = .completed
  | task (.terminated t) => t.state = .terminated
  | reminder _ => False
  | _ => True

end Event

namespace InstanceEvent

/-- The instance that is told to be new. -/
def started? : InstanceEvent → Option Uuid
  | started id _ => some id
  | _ => none

/-- The instance that is told to have come to its end. -/
def ended? : InstanceEvent → Option Uuid
  | completed id _ _ => some id
  | timedOut id _ _ => some id
  | terminated id _ _ => some id
  | _ => none

end InstanceEvent

def createdTasks (evs : List Event) : List Task := evs.filterMap Event.created?

def closedTasks (evs : List Event) : List Task := evs.filterMap Event.closed?

def instanceEvents (evs : List Event) : List InstanceEvent := evs.filterMap Event.instanceRecord?

/-- What is told of an instance in a step in which tokens got stuck at some nodes. -/
def Instance.events (i : Instance) (starts : Bool) (stuck : List String) : List InstanceEvent :=
  (if starts then [.started i.id i.definitionId] else []) ++
    stuck.map (.routingFailed i.id i.definitionId) ++ i.endEvent?.toList

/-- Events of one step tell what the step changed: each task that is new and each one that was closed,
as it is stored and once, the start and the end of the one instance, and the tokens that got stuck. -/
structure Agrees (x : Store) (stuck : List String) (evs : List Event) (y : Store) : Prop where
  fits : ∀ ev ∈ evs, ev.Fits
  created : ∀ t, t ∈ createdTasks evs ↔ x.task? t.id = none ∧ y.task? t.id = some t
  createdOnce : ((createdTasks evs).map Task.id).Nodup
  order : ∀ owner, y.order owner =
    x.order owner ++ ((createdTasks evs).filter fun t => t.instanceId = owner).map Task.id
  closed : ∀ t, t ∈ closedTasks evs ↔ (y.task? t.id = some t ∧ t.isOpen = false) ∧
    ∃ u, x.task? t.id = some u ∧ u.isOpen = true
  closedOnce : ((closedTasks evs).map Task.id).Nodup
  others : ∀ id, (∀ t ∈ createdTasks evs ++ closedTasks evs, t.id ≠ id) → y.task? id = x.task? id
  record : ∃ i, y.instance? i.id = some i ∧ (∀ id, id ≠ i.id → y.instance? id = x.instance? id) ∧
    (∀ j, x.instance? i.id = some j → j.isActive = true) ∧
    instanceEvents evs = i.events (x.instance? i.id).isNone stuck

section InstanceEvents

variable {i : Instance} {starts : Bool} {stuck : List String}

/-- A reading of the events that is blind to tokens getting stuck sees the start and the end only. -/
theorem Instance.filterMap_events {f : InstanceEvent → Option Uuid}
    (hblind : ∀ n, f (.routingFailed i.id i.definitionId n) = none) :
    (i.events starts stuck).filterMap f =
      (if starts then [InstanceEvent.started i.id i.definitionId] else []).filterMap f ++
        i.endEvent?.toList.filterMap f := by
  have hfailures : (stuck.map (InstanceEvent.routingFailed i.id i.definitionId)).filterMap f = [] := by
    rw [List.filterMap_map]
    exact List.filterMap_eq_nil_iff.2 fun n _ => hblind n
  rw [events, List.filterMap_append, List.filterMap_append, hfailures, List.append_nil]

/-- Among the events of an instance, those that tell of a start. -/
theorem started_events : (i.events starts stuck).filterMap InstanceEvent.started? =
    if starts then [i.id] else [] := by
  have hend : i.endEvent?.toList.filterMap InstanceEvent.started? = [] := by
    unfold Instance.endEvent?
    cases i.state <;> rfl
  rw [Instance.filterMap_events fun _ => rfl, hend]
  split <;> rfl

/-- And those that tell of an end. -/
theorem ended_events : (i.events starts stuck).filterMap InstanceEvent.ended? =
    if i.isActive then [] else [i.id] := by
  have hend : i.endEvent?.toList.filterMap InstanceEvent.ended? =
      if i.isActive then [] else [i.id] := by
    unfold Instance.endEvent? Instance.isActive
    cases i.state <;> rfl
  rw [Instance.filterMap_events fun _ => rfl, hend]
  split <;> rfl

end InstanceEvents

/-! ### What is told of a step -/

section Reports

variable {x y : Store} {c : Commit} {stuck : List String} {starts : Bool}

theorem created?_closedEvent (t : Task) : (closedEvent t).created? = none := by
  unfold closedEvent
  split <;> rfl

theorem closed?_closedEvent (t : Task) : (closedEvent t).closed? = some t := by
  unfold closedEvent
  split <;> rfl

theorem instanceRecord?_closedEvent (t : Task) : (closedEvent t).instanceRecord? = none := rfl

theorem filterMap_events {α : Type} (f : Event → Option α) :
    (c.events starts stuck).filterMap f =
      (startEvents starts c.record).filterMap f ++ c.updated.filterMap (fun t => f (closedEvent t)) ++
        (c.created.filterMap (fun t => f (.task (.created t))) ++
          (stuck.filterMap (fun n => f (.instanceRecord
            (.routingFailed c.record.id c.record.definitionId n))) ++
            (c.record.endEvent?.bind fun ev => f (.instanceRecord ev)).toList)) := by
  have hend : ((c.record.endEvent?.map Event.instanceRecord).toList).filterMap f =
      (c.record.endEvent?.bind fun ev => f (.instanceRecord ev)).toList := by
    cases c.record.endEvent? with
    | none => rfl
    | some ev =>
      rw [Option.map_some, Option.toList_some, Option.bind_some]
      cases hf : f (.instanceRecord ev) <;> simp [hf]
  rw [Commit.events, createdEvents, failureEvents]
  simp only [List.filterMap_append, List.filterMap_map, hend]
  rfl

theorem createdTasks_events : createdTasks (c.events starts stuck) = c.created := by
  have hstart : (startEvents starts c.record).filterMap Event.created? = [] := by
    cases starts <;> rfl
  rw [createdTasks, filterMap_events, hstart]
  simp only [created?_closedEvent]
  simp [Event.created?]

theorem closedTasks_events : closedTasks (c.events starts stuck) = c.updated := by
  have hstart : (startEvents starts c.record).filterMap Event.closed? = [] := by
    cases starts <;> rfl
  rw [closedTasks, filterMap_events, hstart]
  simp only [closed?_closedEvent]
  simp [Event.closed?]

theorem instanceEvents_events :
    instanceEvents (c.events starts stuck) = c.record.events starts stuck := by
  have hstart : (startEvents starts c.record).filterMap Event.instanceRecord? =
      if starts then [.started c.record.id c.record.definitionId] else [] := by
    cases starts <;> rfl
  rw [instanceEvents, filterMap_events, hstart]
  simp only [instanceRecord?_closedEvent]
  simp [Event.instanceRecord?, Instance.events]

theorem fits_of_mem_events (hclosed : ∀ t ∈ c.updated, t.isOpen = false) {ev : Event}
    (hev : ev ∈ c.events starts stuck) : ev.Fits := by
  simp only [Commit.events, createdEvents, failureEvents, List.mem_append] at hev
  rcases hev with (hev | hev) | hev | hev | hev
  · cases starts with
    | false => cases hev
    | true =>
      rw [List.mem_singleton.1 hev]
      trivial
  · obtain ⟨t, ht, rfl⟩ := List.mem_map.1 hev
    have hstate := hclosed t ht
    unfold closedEvent
    split
    · assumption
    · cases hs : t.state <;> simp_all [Task.isOpen, Event.Fits]
  · obtain ⟨t, -, rfl⟩ := List.mem_map.1 hev
    trivial
  · obtain ⟨n, -, rfl⟩ := List.mem_map.1 hev
    trivial
  · obtain ⟨ev, -, rfl⟩ := Option.map_eq_some_iff.1 (Option.mem_toList.1 hev)
    trivial

/-- A write that closes open tasks, by what its instance was before. -/
structure Closes (x : Store) (c : Commit) (starts : Bool) (y : Store) : Prop where
  committed : x.Committed c y
  closed : ∀ t ∈ c.updated, t.isOpen = false ∧ ∃ u, x.task? t.id = some u ∧ u.isOpen = true
  single : ∀ t ∈ c.updated, ∀ u ∈ c.updated, t.id = u.id → t = u
  active : starts = false → ∃ i, x.instance? c.record.id = some i ∧ i.isActive = true

namespace Closes

variable (h : Closes x c starts y)
include h

theorem created_iff (hcreated : (c.created.map Task.id).Nodup) (t : Task) :
    t ∈ c.created ↔ x.task? t.id = none ∧ y.task? t.id = some t := by
  constructor
  · intro ht
    exact ⟨(h.committed.fresh t ht).2, h.committed.task?_of_created hcreated ht⟩
  · rintro ⟨hnone, ht⟩
    rcases h.committed.task?_cases ht with ⟨hmem, -⟩ | ⟨hmem, -⟩ | ⟨hold, -⟩
    · obtain ⟨-, u, hu, -⟩ := h.closed t hmem
      rw [hnone] at hu
      cases hu
    · exact hmem
    · rw [hnone] at hold
      cases hold

theorem closed_iff (t : Task) : t ∈ c.updated ↔ (y.task? t.id = some t ∧ t.isOpen = false) ∧
    ∃ u, x.task? t.id = some u ∧ u.isOpen = true := by
  constructor
  · intro ht
    refine ⟨⟨?_, (h.closed t ht).1⟩, (h.closed t ht).2⟩
    rcases h.committed.tasks t.id with ⟨u, hu, hid, hsome⟩ | ⟨hne, -⟩
    · rw [hsome, h.single u hu t ht hid]
    · exact absurd rfl (hne t ht)
  · rintro ⟨⟨ht, hclosed⟩, u, hu, hopen⟩
    rcases h.committed.task?_cases ht with ⟨hmem, -⟩ | ⟨hmem, -⟩ | ⟨hold, -⟩
    · exact hmem
    · rw [(h.committed.fresh t hmem).2] at hu
      cases hu
    · -- a task that is left as it is stays open
      rw [Option.some.inj (hold.symm.trans hu), hopen] at hclosed
      cases hclosed

theorem order_eq (owner : Uuid) : y.order owner =
    x.order owner ++ (c.created.filter fun t => t.instanceId = owner).map Task.id := by
  have howner : ∀ t ∈ c.created, t.instanceId = c.record.id := fun t ht => (h.committed.fresh t ht).1
  rw [h.committed.listing]
  split
  · rename_i hsame
    rw [List.filter_eq_self.2 fun t ht => by simp [howner t ht, hsame]]
  · rename_i hne
    rw [List.filter_eq_nil_iff.2 fun t ht => by simpa [howner t ht] using Ne.symm hne]
    exact (List.append_nil _).symm

theorem others (id : Uuid) (hid : ∀ t ∈ c.created ++ c.updated, t.id ≠ id) :
    y.task? id = x.task? id := by
  rcases h.committed.tasks id with ⟨t, ht, rfl, -⟩ | ⟨-, ⟨t, ht, rfl, -⟩ | ⟨-, hsame⟩⟩
  · exact absurd rfl (hid t (List.mem_append_right _ ht))
  · exact absurd rfl (hid t (List.mem_append_left _ ht))
  · exact hsame

theorem agrees (hcreated : (c.created.map Task.id).Nodup)
    (hupdated : (c.updated.map Task.id).Nodup)
    (habsent : starts = true → x.instance? c.record.id = none) :
    Agrees x stuck (c.events starts stuck) y where
  fits ev := fits_of_mem_events fun t ht => (h.closed t ht).1
  created := by
    rw [createdTasks_events]
    exact h.created_iff hcreated
  createdOnce := by rwa [createdTasks_events]
  order := by
    rw [createdTasks_events]
    exact h.order_eq
  closed := by
    rw [closedTasks_events]
    exact h.closed_iff
  closedOnce := by rwa [closedTasks_events]
  others := by
    rw [createdTasks_events, closedTasks_events]
    exact h.others
  record := by
    refine ⟨{ c.record with revision := c.record.revision + 1 }, ?_, fun id hne => ?_,
      fun j hj => ?_, ?_⟩
    · rw [h.committed.record]
      exact if_pos rfl
    · rw [h.committed.record]
      exact if_neg hne
    · cases starts with
      | false =>
        obtain ⟨i, hi, hactive⟩ := h.active rfl
        rwa [Option.some.inj (hj.symm.trans hi)]
      | true =>
        rw [habsent rfl] at hj
        cases hj
    · have hstarts : (x.instance? c.record.id).isNone = starts := by
        cases starts with
        | false =>
          obtain ⟨i, hi, -⟩ := h.active rfl
          rw [hi, Option.isNone_some]
        | true => exact Option.isNone_iff_eq_none.2 (habsent rfl)
      change _ = Instance.events _ (x.instance? c.record.id).isNone stuck
      rw [instanceEvents_events, hstarts]
      rfl

/-- What is told of a step agrees with what it changed just if it creates and closes no task twice, and
starts no instance under the id of another one. -/
theorem agrees_iff : Agrees x stuck (c.events starts stuck) y ↔
    (c.created.map Task.id).Nodup ∧ (c.updated.map Task.id).Nodup ∧
      (starts = true → x.instance? c.record.id = none) := by
  constructor
  · -- the events list what the step writes, so that nothing is listed twice just if nothing is told twice
    intro hagrees
    have hcreated := hagrees.createdOnce
    have hupdated := hagrees.closedOnce
    rw [createdTasks_events] at hcreated
    rw [closedTasks_events] at hupdated
    refine ⟨hcreated, hupdated, fun hstarts => ?_⟩
    obtain ⟨i, -, -, -, hevents⟩ := hagrees.record
    have hstarted := congrArg (List.filterMap InstanceEvent.started?) hevents
    rw [instanceEvents_events, started_events, started_events, if_pos hstarts] at hstarted
    -- a start is told of an instance that is new
    split at hstarted
    · rename_i hnone
      rw [List.singleton_inj.1 hstarted]
      exact Option.isNone_iff_eq_none.1 hnone
    · cases hstarted
  · rintro ⟨hcreated, hupdated, habsent⟩
    exact h.agrees hcreated hupdated habsent

end Closes

end Reports

/-! ### Adding up -/

namespace Store

/-- Whether a task is stored and closed. -/
def hasClosed (x : Store) (id : Uuid) : Bool := (x.task? id).any fun t => !t.isOpen

/-- Whether an instance is stored that has come to its end. -/
def hasEnded (x : Store) (id : Uuid) : Bool := (x.instance? id).any fun i => !i.isActive

end Store

/-- Events add up to the difference between two stores: one for each task and each instance that is new,
at most one for each task that was closed, and one for each instance that came to its end. -/
structure Tallies (x : Store) (evs : List Event) (y : Store) : Prop where
  created : ∀ id, ((createdTasks evs).map Task.id).count id + (x.task? id).isSome.toNat =
    (y.task? id).isSome.toNat
  closed : ∀ id, ((closedTasks evs).map Task.id).count id + (x.hasClosed id).toNat ≤
    (y.hasClosed id).toNat
  started : ∀ id, ((instanceEvents evs).filterMap InstanceEvent.started?).count id +
    (x.instance? id).isSome.toNat = (y.instance? id).isSome.toNat
  ended : ∀ id, ((instanceEvents evs).filterMap InstanceEvent.ended?).count id +
    (x.hasEnded id).toNat = (y.hasEnded id).toNat

section Tallies

variable {x y z : Store} {stuck : List String} {evs evs' : List Event}

theorem Tallies.refl (x : Store) : Tallies x [] x where
  created _ := Nat.zero_add _
  closed _ := Nat.le_of_eq (Nat.zero_add _)
  started _ := Nat.zero_add _
  ended _ := Nat.zero_add _

theorem Tallies.trans (h : Tallies x evs y) (h' : Tallies y evs' z) : Tallies x (evs ++ evs') z where
  created id := by
    have hfirst := h.created id
    have hrest := h'.created id
    rw [createdTasks, List.filterMap_append, List.map_append, List.count_append]
    rw [createdTasks] at hfirst hrest
    omega
  closed id := by
    have hfirst := h.closed id
    have hrest := h'.closed id
    rw [closedTasks, List.filterMap_append, List.map_append, List.count_append]
    rw [closedTasks] at hfirst hrest
    omega
  started id := by
    have hfirst := h.started id
    have hrest := h'.started id
    rw [instanceEvents, List.filterMap_append, List.filterMap_append, List.count_append]
    rw [instanceEvents] at hfirst hrest
    omega
  ended id := by
    have hfirst := h.ended id
    have hrest := h'.ended id
    rw [instanceEvents, List.filterMap_append, List.filterMap_append, List.count_append]
    rw [instanceEvents] at hfirst hrest
    omega

/-- A task that no event tells of is as it was. -/
theorem Agrees.task?_eq {id : Uuid} (h : Agrees x stuck evs y)
    (hcreated : id ∉ (createdTasks evs).map Task.id) (hclosed : id ∉ (closedTasks evs).map Task.id) :
    y.task? id = x.task? id := by
  refine h.others id fun t ht hid => ?_
  rcases List.mem_append.1 ht with ht | ht
  · exact hcreated (List.mem_map.2 ⟨t, ht, hid⟩)
  · exact hclosed (List.mem_map.2 ⟨t, ht, hid⟩)

/-- The events of one step add up. -/
theorem Agrees.tallies (h : Agrees x stuck evs y) : Tallies x evs y where
  created id := by
    by_cases hcreated : id ∈ (createdTasks evs).map Task.id
    · rw [List.count_eq_one_of_mem h.createdOnce hcreated]
      obtain ⟨t, ht, rfl⟩ := List.mem_map.1 hcreated
      obtain ⟨hnone, hsome⟩ := (h.created t).1 ht
      rw [hnone, hsome]
      rfl
    · rw [List.count_eq_zero_of_not_mem hcreated, Nat.zero_add]
      by_cases hclosed : id ∈ (closedTasks evs).map Task.id
      · -- a task that is closed is as much there as before
        obtain ⟨t, ht, rfl⟩ := List.mem_map.1 hclosed
        obtain ⟨⟨hsome, -⟩, u, hu, -⟩ := (h.closed t).1 ht
        rw [hsome, hu]
        rfl
      · rw [h.task?_eq hcreated hclosed]
  closed id := by
    unfold Store.hasClosed
    by_cases hclosed : id ∈ (closedTasks evs).map Task.id
    · rw [List.count_eq_one_of_mem h.closedOnce hclosed]
      obtain ⟨t, ht, rfl⟩ := List.mem_map.1 hclosed
      obtain ⟨⟨hsome, hstate⟩, u, hu, hopen⟩ := (h.closed t).1 ht
      simp [hsome, hstate, hu, hopen]
    · rw [List.count_eq_zero_of_not_mem hclosed, Nat.zero_add]
      by_cases hcreated : id ∈ (createdTasks evs).map Task.id
      · obtain ⟨t, ht, rfl⟩ := List.mem_map.1 hcreated
        rw [((h.created t).1 ht).1]
        exact Nat.zero_le _
      · rw [h.task?_eq hcreated hclosed]
  started id := by
    obtain ⟨i, hi, hothers, -, hevents⟩ := h.record
    rw [hevents, started_events]
    by_cases hid : id = i.id
    · subst hid
      rw [hi]
      cases x.instance? i.id <;> simp
    · rw [hothers id hid]
      split <;> simp [Ne.symm hid]
  ended id := by
    obtain ⟨i, hi, hothers, hactive, hevents⟩ := h.record
    rw [hevents, ended_events]
    unfold Store.hasEnded
    by_cases hid : id = i.id
    · subst hid
      have hbefore : (x.instance? i.id).any (fun j => !j.isActive) = false := by
        cases hj : x.instance? i.id with
        | none => rfl
        | some j => simp [hactive j hj]
      rw [hi, hbefore]
      cases hstate : i.isActive <;> simp [hstate]
    · rw [hothers id hid]
      split <;> simp [Ne.symm hid]

end Tallies

end Workflow
