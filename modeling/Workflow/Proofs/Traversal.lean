import Workflow.Engine.Operations

/-!
What a token does to a step when it enters a node, when it leaves one, and when a starved join lets it
go. A walk that comes to its end has made such moves until no token was queued and no join starved, so
that what each move keeps still holds there (`advance_keeps`, `follow_keeps`).
-/
namespace Workflow

namespace Engine

open Attempt

variable {e : Engine} {d : Definition} {n : Node} {s s' : Step} {a a' : Ambient}

/-! ### Single attempts -/

def Ambient.note (a : Ambient) (t : TraceEntry) : Ambient := { a with trace := t :: a.trace }

@[simp] theorem Ambient.supply_note (a : Ambient) (t : TraceEntry) :
    (a.note t).supply = a.supply := rfl

theorem remark_eq (r : Remark) : remark r a = (.ok (), a.note (.remark r)) := rfl

theorem get_eq : (get : Attempt Ambient) a = (.ok a, a) := rfl

theorem set_eq (b : Ambient) : (set b : Attempt Unit) a = (.ok (), b) := rfl

/-- An event that is handed out leaves its deliveries behind, also when a listener fails. -/
theorem notify_cases {b : Bus} {ev : Event} {r : Except EngineError Unit}
    (h : notify b ev a = (r, a')) :
    a' = { a with deliveries := (b.notify a.deliveries ev).2 } ∧
      (r = .ok () ∨ ∃ m, r = .error (.listener m)) := by
  rw [notify, bind_ok get_eq] at h
  rcases hb : b.notify a.deliveries ev with ⟨answer, deliveries⟩
  simp only [hb] at h
  rw [bind_ok (set_eq _)] at h
  cases answer with
  | ok u => cases h; exact ⟨rfl, Or.inl rfl⟩
  | error m => cases h; exact ⟨rfl, Or.inr ⟨m, rfl⟩⟩

/-- What a guard was asked is noted; an answer that is an error fails the attempt. -/
theorem decided_cases {α : Type} {answer : Except Guard.Fault α × List String}
    {r : Except EngineError α} (h : decided answer a = (r, a')) :
    a' = { a with asked := answer.2.reverse ++ a.asked } ∧
      r = answer.1.mapError fun f => .configuration (.guard f) := by
  have hm : (modify fun a : Ambient => { a with asked := answer.2.reverse ++ a.asked } :
      Attempt Unit) a = (.ok (), { a with asked := answer.2.reverse ++ a.asked }) := rfl
  rw [decided, bind_ok hm] at h
  rcases answer with ⟨_ | v, asked⟩ <;> cases h <;> exact ⟨rfl, rfl⟩

theorem handle_cases {α : Type} {node : String} {f : Nat → Supply → Except String α × Supply}
    {r : Except EngineError α} (h : handle node f a = (r, a')) :
    a' = { a with supply := (f a.handled a.supply).2, handled := a.handled + 1 } ∧
      r = (f a.handled a.supply).1.mapError (.handler node) := by
  rw [handle, bind_ok get_eq] at h
  rcases hf : f a.handled a.supply with ⟨answer, supply⟩
  simp only [hf] at h
  rw [bind_ok (set_eq _)] at h
  cases answer <;> cases h <;> exact ⟨rfl, rfl⟩

theorem of_mapError_eq_ok {α ε ε' : Type} {x : Except ε α} {f : ε → ε'} {v : α}
    (h : x.mapError f = .ok v) : x = .ok v := by
  cases x <;> cases h
  rfl

theorem of_bind_eq_ok {α β ε : Type} {x : Except ε α} {f : α → Except ε β} {v : β}
    (h : (x >>= f) = .ok v) : ∃ u, x = .ok u ∧ f u = .ok v := by
  cases x with
  | ok u => exact ⟨u, rfl, h⟩
  | error c => cases h

theorem configured_eq {α : Type} (x : Except ConfigurationError α) :
    configured x a = (x.mapError .configuration, a) := by
  cases x <;> rfl

theorem node_eq (id : String) :
    node d id a = (match d.node? id with
      | some n => .ok n
      | none => .error (.configuration (.unknownNode d.id id)), a) := by
  unfold node
  cases d.node? id <;> rfl

/-! ### Entering a node -/

def Step.setVars (s : Step) (vars : Variables) : Step := { s with record.vars := vars }

theorem runFlowHandler_cases (h : runFlowHandler e d n s a = (.ok s', a')) :
    (∃ vars, s' = s.setVars vars) ∧ a'.supply = a.supply := by
  unfold runFlowHandler at h
  cases hn : n.handler with
  | none =>
    rw [hn] at h
    cases h
    exact ⟨⟨s.record.vars, rfl⟩, rfl⟩
  | some name =>
    rw [hn] at h
    obtain ⟨f, a₁, hf, h⟩ := of_bind_ok h
    obtain ⟨vars, a₂, hv, h⟩ := of_bind_ok h
    rw [configured_eq, Prod.mk.injEq] at hf
    obtain ⟨-, rfl⟩ := hf
    obtain ⟨rfl, -⟩ := handle_cases hv
    cases h
    exact ⟨⟨vars, rfl⟩, rfl⟩

theorem createTasks_cases {ts : List Task} (h : createTasks e n s ts a = (.ok s', a')) :
    (∀ t ∈ ts, t.instanceId = s.record.id ∧ t.node = n.id) ∧
      s' = { s with created := s.created ++ ts } ∧ a'.supply = a.supply := by
  induction ts generalizing s a with
  | nil =>
    cases h
    exact ⟨by simp, by simp, rfl⟩
  | cons t ts ih =>
    unfold createTasks at h
    by_cases hown : t.instanceId ≠ s.record.id ∨ t.node ≠ n.id
    · simp only [if_pos hown] at h
      cases h
    · simp only [if_neg hown] at h
      rw [bind_ok (remark_eq _)] at h
      obtain ⟨u, a₁, hnotify, h⟩ := of_bind_ok h
      obtain ⟨rfl, -⟩ := notify_cases hnotify
      obtain ⟨hts, rfl, hsupply⟩ := ih h
      refine ⟨fun u hu => ?_, by simp [Step.create], hsupply⟩
      rcases List.mem_cons.1 hu with rfl | hu
      · simpa [not_or] using hown
      · exact hts u hu

/-- What a token that enters a node does to a step whose variables the flow handler has set: the step
after it, the tokens that it queues and the supply it leaves. -/
inductive Entry (e : Engine) (d : Definition) (n : Node) (supply : Supply) (s : Step) :
    Step → List Token → Supply → Prop where
  | passes (hk : n.kind = .start ∨ n.kind = .condition) :
    Entry e d n supply s s [.leave n.id] supply
  | ends (hk : n.kind = .stop) : Entry e d n supply s s [] supply
  | idles {assignees handler reminder h earlier supply'}
    (hk : n.kind = .task assignees handler reminder) (hh : e.registry.taskHandler handler = .ok h)
    (hts : h earlier (execution d n s) supply = (.ok [], supply')) :
    Entry e d n supply s s [.leave n.id] supply'
  | parks {assignees handler reminder h earlier ts supply'}
    (hk : n.kind = .task assignees handler reminder) (hh : e.registry.taskHandler handler = .ok h)
    (hts : h earlier (execution d n s) supply = (.ok ts, supply')) (hne : ts ≠ [])
    (hown : ∀ t ∈ ts, t.instanceId = s.record.id ∧ t.node = n.id) :
    Entry e d n supply s { s.wait n.id with created := s.created ++ ts } [] supply'
  | fires {declared} (hk : n.kind = .join declared)
    (hfull : expectedArrivals d n declared ≤ (s.arrive n.id).1) :
    Entry e d n supply s ((s.arrive n.id).2.release n.id) [.leave n.id] supply
  | gathers {declared} (hk : n.kind = .join declared)
    (hshort : ¬ expectedArrivals d n declared ≤ (s.arrive n.id).1) :
    Entry e d n supply s ((s.arrive n.id).2.wait n.id) [] supply

theorem enterTask_cases {handler : Option String} {more : List Token}
    {assignees : List String} {reminder : Option ReminderParam}
    (hk : n.kind = .task assignees handler reminder)
    (h : enterTask e d n handler s a = (.ok (s', more), a')) :
    Entry e d n a.supply s s' more a'.supply := by
  obtain ⟨f, a₁, hf, h⟩ := of_bind_ok h
  obtain ⟨ts, a₂, hts, h⟩ := of_bind_ok h
  rw [configured_eq, Prod.mk.injEq] at hf
  obtain ⟨hh, rfl⟩ := hf
  replace hh := of_mapError_eq_ok hh
  obtain ⟨rfl, hr⟩ := handle_cases hts
  have hrun : f a.handled (execution d n s) a.supply =
      (.ok ts, (f a.handled (execution d n s) a.supply).2) :=
    Prod.ext (of_mapError_eq_ok hr.symm) rfl
  cases ts with
  | nil =>
    simp only [List.isEmpty_nil, if_true] at h
    rw [bind_ok (remark_eq _)] at h
    cases h
    exact .idles hk hh hrun
  | cons t ts =>
    simp only [List.isEmpty_cons, Bool.false_eq_true, if_false] at h
    obtain ⟨s₁, a₁, hcreate, h⟩ := of_bind_ok h
    obtain ⟨hown, rfl, hsupply⟩ := createTasks_cases hcreate
    cases h
    -- only the handler draws ids
    rw [hsupply]
    exact .parks hk hh hrun (by simp) hown

theorem enterJoin_cases {declared : Option UInt32} {more : List Token}
    (hk : n.kind = .join declared) (h : enterJoin d n declared s a = (.ok (s', more), a')) :
    Entry e d n a.supply s s' more a'.supply := by
  unfold enterJoin at h
  simp only at h
  rw [bind_ok (remark_eq _)] at h
  split at h
  · cases h
    exact .fires hk ‹_›
  · cases h
    exact .gathers hk ‹_›

theorem enter_cases {more : List Token} (h : enter e d n s a = (.ok (s', more), a')) :
    ∃ vars, Entry e d n a.supply (s.setVars vars) s' more a'.supply := by
  unfold enter at h
  rw [bind_ok (remark_eq _)] at h
  obtain ⟨s₁, a₁, hflow, h⟩ := of_bind_ok h
  obtain ⟨⟨vars, rfl⟩, hsupply⟩ := runFlowHandler_cases hflow
  rw [Ambient.supply_note] at hsupply
  refine ⟨vars, ?_⟩
  rw [← hsupply]
  cases hk : n.kind with
  | start =>
    rw [hk] at h
    cases h
    exact .passes (Or.inl hk)
  | condition =>
    rw [hk] at h
    cases h
    exact .passes (Or.inr hk)
  | task assignees handler reminder =>
    rw [hk] at h
    exact enterTask_cases hk h
  | join declared =>
    rw [hk] at h
    exact enterJoin_cases hk h
  | stop =>
    rw [hk] at h
    simp only at h
    rw [bind_ok (remark_eq _)] at h
    cases h
    exact .ends hk

/-! ### Moves -/

theorem node_ok {id : String} (h : node d id a = (.ok n, a')) : d.node? id = some n ∧ a' = a := by
  rw [node_eq] at h
  cases hn : d.node? id <;> rw [hn] at h <;> cases h
  exact ⟨rfl, rfl⟩

/-- One move of the tokens, with the supply before and after it. -/
inductive Move (e : Engine) (d : Definition) : Supply → Walk → Supply → Walk → Prop where
  | enters {id entered queue s n vars s' more supply supply'} (hn : d.node? id = some n)
    (h : Entry e d n supply (s.setVars vars) s' more supply') :
    Move e d supply ⟨entered, .enter id :: queue, s⟩ supply' ⟨entered + 1, queue ++ more, s'⟩
  | leaves {id entered queue s n targets supply} (hn : d.node? id = some n)
    (htargets : (route e.evaluator n s.record.vars).1 = .ok targets) :
    Move e d supply ⟨entered, .leave id :: queue, s⟩ supply
      ⟨entered, queue ++ targets.map .enter, leave n targets s⟩
  | releases {join entered s supply} (h : starvedJoin? d s.record = some join) :
    Move e d supply ⟨entered, [], s⟩ supply ⟨entered, [.leave join], s.release join⟩

theorem move_cases {x y : Walk} (h : move e d x a = (.ok (some y), a')) :
    Move e d a.supply x a'.supply y := by
  obtain ⟨entered, queue, s⟩ := x
  rcases queue with _ | ⟨id | id, queue⟩
  · simp only [move] at h
    cases hs : starvedJoin? d s.record with
    | none =>
      rw [hs] at h
      cases h
    | some join =>
      rw [hs] at h
      cases h
      exact .releases hs
  · simp only [move] at h
    split at h
    · obtain ⟨n, a₁, hnode, hrest⟩ := of_bind_ok h
      obtain ⟨⟨s', more⟩, a₂, henter, hrest⟩ := of_bind_ok hrest
      obtain ⟨hn, rfl⟩ := node_ok hnode
      obtain ⟨vars, hentry⟩ := enter_cases henter
      cases hrest
      exact .enters hn hentry
    · cases h
  · simp only [move] at h
    obtain ⟨n, a₁, hnode, hrest⟩ := of_bind_ok h
    obtain ⟨targets, a₂, htargets, hrest⟩ := of_bind_ok hrest
    obtain ⟨hn, rfl⟩ := node_ok hnode
    obtain ⟨rfl, hroute⟩ := decided_cases htargets
    replace hroute := of_mapError_eq_ok hroute.symm
    split at hrest <;> cases hrest <;> exact .leaves hn hroute

theorem move_none {x : Walk} (h : move e d x a = (.ok none, a')) :
    x.queue = [] ∧ starvedJoin? d x.step.record = none ∧ a' = a := by
  obtain ⟨entered, queue, s⟩ := x
  rcases queue with _ | ⟨id | id, queue⟩
  · simp only [move] at h
    cases hs : starvedJoin? d s.record with
    | none =>
      rw [hs] at h
      cases h
      exact ⟨rfl, rfl, rfl⟩
    | some join =>
      rw [hs] at h
      cases h
  · simp only [move] at h
    split at h
    · obtain ⟨n, a₁, -, h⟩ := of_bind_ok h
      obtain ⟨⟨s', more⟩, a₂, -, h⟩ := of_bind_ok h
      cases h
    · cases h
  · simp only [move] at h
    obtain ⟨n, a₁, -, h⟩ := of_bind_ok h
    obtain ⟨targets, a₂, -, h⟩ := of_bind_ok h
    split at h <;> cases h

/-- What every move keeps holds at the end of a walk, where no token is queued and no join starved. -/
theorem advance_keeps {P : Supply → Walk → Prop}
    (hmove : ∀ {supply x supply' y}, Move e d supply x supply' y → P supply x → P supply' y)
    {x : Walk} (hx : P a.supply x) (h : advance e d x a = (.ok s', a')) :
    ∃ y : Walk, P a'.supply y ∧ y.queue = [] ∧ starvedJoin? d y.step.record = none ∧
      s' = y.step := by
  induction x, a using advance.induct e d with
  | case1 x a y a₁ hm ih =>
    rw [advance, hm] at h
    exact ih (hmove (move_cases hm) hx) h
  | case2 x a a₁ hm =>
    rw [advance, hm] at h
    cases h
    obtain ⟨hqueue, hstarved, rfl⟩ := move_none hm
    exact ⟨x, hx, hqueue, hstarved, rfl⟩
  | case3 x a err a₁ hm =>
    rw [advance, hm] at h
    cases h

/-- The step that an opening starts with. -/
def Opening.step : Opening → Step
  | stays s => s
  | walks _ _ s => s

/-- What every move keeps of a step is kept from the opening to its end. -/
theorem follow_keeps {P : Supply → Step → Prop}
    (hmove : ∀ {d supply x supply' y}, Move e d supply x supply' y → P supply x.step →
      P supply' y.step)
    {o : Opening} (ho : P a.supply o.step) (h : follow e o a = (.ok s', a')) :
    P a'.supply s' := by
  cases o with
  | stays s =>
    cases h
    exact ho
  | walks d queue s =>
    obtain ⟨y, hy, -, -, rfl⟩ := advance_keeps (P := fun supply x => P supply x.step) hmove ho h
    exact hy

/-! ### Move by move -/

/-- Lets tokens move so many times, before they go on as in any walk. -/
def advanceFor (e : Engine) (d : Definition) : Nat → Walk → Attempt Step
  | 0, x => advance e d x
  | k + 1, x => fun a =>
    match move e d x a with
    | (.ok (some y), a) => advanceFor e d k y a
    | (.ok none, a) => (.ok x.step, a)
    | (.error err, a) => (.error err, a)

theorem advance_eq_advanceFor (e : Engine) (d : Definition) (k : Nat) (x : Walk) :
    advance e d x = advanceFor e d k x := by
  induction k generalizing x with
  | zero => rfl
  | succ k ih =>
    funext a
    simp only [advanceFor]
    rw [advance]
    split <;> rename_i h <;> simp only [h, ih]

def followFor (e : Engine) (k : Nat) : Opening → Attempt Step
  | .stays s => return s
  | .walks d queue s => advanceFor e d k ⟨0, queue, s⟩

/-- A walk of known length can be followed without the proof that it ends, which evaluation is slow
to carry along. -/
theorem follow_eq_followFor (e : Engine) (k : Nat) : follow e = followFor e k := by
  funext o
  cases o with
  | stays s => rfl
  | walks d queue s => exact advance_eq_advanceFor e d k _

/-! ### What a walk leaves alone -/

/-- A step whose instance was written over in its tokens, variables and failure at most, and that has
only created more tasks of it. -/
structure Step.Moved (s s' : Step) : Prop where
  record : s'.record = { s.record with
    currentNodes := s'.record.currentNodes
    vars := s'.record.vars
    joinArrivals := s'.record.joinArrivals
    failure := s'.record.failure }
  now : s'.now = s.now
  updated : s'.updated = s.updated
  created : ∃ ts, s'.created = s.created ++ ts ∧ ∀ t ∈ ts, t.instanceId = s.record.id

namespace Step.Moved

variable {s s' s'' : Step}

theorem of_record (hrecord : s'.record = { s.record with
    currentNodes := s'.record.currentNodes
    vars := s'.record.vars
    joinArrivals := s'.record.joinArrivals
    failure := s'.record.failure })
    (hnow : s'.now = s.now) (hupdated : s'.updated = s.updated) (hcreated : s'.created = s.created) :
    s.Moved s' :=
  ⟨hrecord, hnow, hupdated, [], by simp [hcreated], by simp⟩

theorem refl (s : Step) : s.Moved s := of_record rfl rfl rfl rfl

theorem id_eq (h : s.Moved s') : s'.record.id = s.record.id := by rw [h.record]

theorem revision_eq (h : s.Moved s') : s'.record.revision = s.record.revision := by rw [h.record]

theorem definitionId_eq (h : s.Moved s') : s'.record.definitionId = s.record.definitionId := by
  rw [h.record]

theorem isActive_eq (h : s.Moved s') : s'.record.isActive = s.record.isActive := by
  have hstate : s'.record.state = s.record.state := by rw [h.record]
  rw [Instance.isActive, Instance.isActive, hstate]

theorem trans (h : s.Moved s') (h' : s'.Moved s'') : s.Moved s'' where
  record := by rw [h'.record, h.record]
  now := h'.now.trans h.now
  updated := h'.updated.trans h.updated
  created := by
    obtain ⟨ts, hts, howner⟩ := h.created
    obtain ⟨us, hus, howner'⟩ := h'.created
    refine ⟨ts ++ us, by rw [hus, hts, List.append_assoc], fun t ht => ?_⟩
    rcases List.mem_append.1 ht with ht | ht
    · exact howner t ht
    · rw [howner' t ht, h.id_eq]

end Step.Moved

theorem Entry.moved {supply supply' : Supply} {more : List Token}
    (h : Entry e d n supply s s' more supply') : s.Moved s' := by
  cases h with
  | passes hk => exact .refl s
  | ends hk => exact .refl s
  | idles hk hh hts => exact .refl s
  | parks hk hh hts hne hown => exact ⟨rfl, rfl, rfl, _, rfl, fun t ht => (hown t ht).1⟩
  | fires hk hfull => exact .of_record rfl rfl rfl rfl
  | gathers hk hshort => exact .of_record rfl rfl rfl rfl

theorem Move.moved {supply supply' : Supply} {x y : Walk} (h : Move e d supply x supply' y) :
    x.step.Moved y.step := by
  cases h with
  | @enters id entered queue s n vars s' more supply supply' hn hentry =>
    have hvars : s.Moved (s.setVars vars) := .of_record rfl rfl rfl rfl
    exact hvars.trans hentry.moved
  | @leaves id entered queue s n targets supply hn htargets =>
    change s.Moved (leave n targets s)
    unfold leave
    split
    · exact .of_record rfl rfl rfl rfl
    · exact .refl s
  | releases hstarved => exact .of_record rfl rfl rfl rfl

/-- A step stays with its instance, and closes no further tasks. -/
theorem follow_moved {o : Opening} (h : follow e o a = (.ok s, a')) : o.step.Moved s := by
  apply follow_keeps (P := fun _ s => o.step.Moved s) _ (.refl o.step) h
  exact fun hm hs => hs.trans hm.moved

end Engine

end Workflow
