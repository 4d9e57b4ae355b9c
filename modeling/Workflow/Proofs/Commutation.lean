import Workflow.Proofs.Completions
import Workflow.Proofs.Sufficiency

/-!
Completions in either order. Whichever of two tasks of an instance is completed first, the nodes of both
let their tokens go, and the net of the instance comes to the same rest.

## Main statements

* `completions_commute`: so it is where a definition has neither guards nor flow handlers, its joins do
  not lead to each other and its handlers always create as many tasks, unless a completion opens a task
  at the node of the other one, where it was the only open one.
* `order_shows`: each of these provisos is needed.
-/
namespace Workflow

open Relation Function
open Engine

/-- An active instance is settled by what waits in it. -/
theorem Engine.Step.settled_congr {s s' : Step} (hs : s.record.isActive = true)
    (hs' : s'.record.isActive = true) (h : s.record.spots = s'.record.spots) :
    s.settled.record.state = s'.settled.record.state ∧
      s.settled.record.currentNodes = s'.settled.record.currentNodes ∧
      s.settled.record.joinArrivals = s'.settled.record.joinArrivals := by
  obtain ⟨hnodes, harrivals⟩ := Instance.spots_inj.1 h
  have hstate : s.record.state = s'.record.state :=
    (beq_iff_eq.1 hs).trans (beq_iff_eq.1 hs').symm
  unfold settled
  rw [hs, hs', hnodes]
  split
  · exact ⟨rfl, hnodes, rfl⟩
  · exact ⟨hstate, hnodes, harrivals⟩

/-- Variables of different names may be put into others in either order. -/
theorem Variables.union_comm_of_apart {vars left right : Variables}
    (h : ∀ n, left.contains n = true → right.contains n = false) :
    (vars.union left).union right = (vars.union right).union left := by
  refine Dict.ext_get? fun n => ?_
  simp only [Dict.get?_union]
  cases hleft : left.get? n with
  | none => simp
  | some v =>
    have hright := h n (by rw [Dict.contains, hleft]; rfl)
    rw [Dict.contains, Option.isSome_eq_false_iff, Option.isNone_iff_eq_none] at hright
    simp [hright]

namespace Store

/-- What a store tells of an instance, apart from ids and times. -/
structure Outlook where
  state : InstanceState
  vars : Variables
  currentNodes : NameSet
  joinArrivals : Dict String UInt32
  /-- The nodes of the open tasks. -/
  openNodes : Multiset String

def outlook (s : Store) (id : Uuid) : Option Outlook :=
  (s.instance? id).map fun i => ⟨i.state, i.vars, i.currentNodes, i.joinArrivals, s.openNodes id⟩

theorem outlook_of_instance? {s : Store} {id : Uuid} {i : Instance} (h : s.instance? id = some i) :
    s.outlook id = some ⟨i.state, i.vars, i.currentNodes, i.joinArrivals, s.openNodes id⟩ := by
  rw [outlook, h]
  rfl

/-- Two open tasks of an instance, to be completed with variables of different names. -/
structure Parallel (s : Store) (id : Uuid) (t u : Task) (left right : Variables) : Prop where
  first : t ∈ s.openTasks id
  second : u ∈ s.openTasks id
  ne : t ≠ u
  apart : ∀ n, left.contains n = true → right.contains n = false

theorem Parallel.symm {s : Store} {id : Uuid} {t u : Task} {left right : Variables}
    (h : s.Parallel id t u left right) : s.Parallel id u t right left where
  first := h.second
  second := h.first
  ne := h.ne.symm
  apart n hright := by
    cases hleft : left.contains n with
    | false => rfl
    | true => exact absurd hright (by simp [h.apart n hleft])

end Store

namespace Session

variable {e : Engine} {d : Definition} {count : String → ℕ} {x : Session} {id : Uuid} {t u : Task}
  {left right : Variables}

/-- The session after two tasks were completed, one after the other. -/
def afterBoth (e : Engine) (x : Session) (t : Task) (left : Variables) (u : Task)
    (right : Variables) : Session :=
  (x.serve e (.complete t.id left)).serve e (.complete u.id right)

/-- Whether two completions succeed one after the other, and no id was drawn twice. -/
structure InTurn (e : Engine) (x : Session) (t : Task) (left : Variables) (u : Task)
    (right : Variables) : Prop where
  first : x.result e (.complete t.id left) = .ok ()
  second : (x.serve e (.complete t.id left)).result e (.complete u.id right) = .ok ()
  distinct : (x.afterBoth e t left u right).supply.Distinct

/-- Whether the completion of a task leaves another one alone at its node if it was so before. -/
def Spares (e : Engine) (x : Session) (t : Task) (left : Variables) (u : Task) : Prop :=
  x.store.Alone u → (x.serve e (.complete t.id left)).store.Alone u

def SpareEachOther (e : Engine) (x : Session) (t : Task) (left : Variables) (u : Task)
    (right : Variables) : Prop :=
  Spares e x t left u ∧ Spares e x u right t

/-- Where the net of an instance is once the nodes of two tasks let their tokens go. -/
def bothGo (e : Engine) (x : Session) (t : Task) (left : Variables) (u : Task) (i : Instance) : Net :=
  ((i.net 0).letGoIf (x.store.Alone t) t.node).letGoIf
    ((x.serve e (.complete t.id left)).store.Alone u) u.node

/-- What two completions leave of an instance. -/
structure BothCompleted (e : Engine) (d : Definition) (count : String → ℕ) (id : Uuid) (x : Session)
    (t : Task) (left : Variables) (u : Task) (right : Variables) (i : Instance) (s : Step)
    (born : Multiset String) : Prop where
  stored : x.store.instance? id = some i
  going : s.record.isActive = true
  vars : s.record.vars = (i.vars.union left).union right
  written : (x.afterBoth e t left u right).store.instance? id = some { s.settled.commit.record with
    revision := s.settled.commit.record.revision + 1 }
  nodes : t.node ::ₘ u.node ::ₘ (x.afterBoth e t left u right).store.openNodes id =
    x.store.openNodes id + born
  steps : ReflTransGen (Net.Step d count) (x.bothGo e t left u i) ⟨s.record.spots, born, 0⟩
  still : Net.Still d ⟨s.record.spots, born, 0⟩
  /-- Who else is at the node of the second task decides whether it goes on. -/
  last : (x.serve e (.complete t.id left)).store.Alone u →
    ∀ v ∈ x.store.openTasks id, v ≠ t → v ≠ u → v.node ≠ u.node
  lone : ¬ x.store.Alone t → (∀ v ∈ x.store.openTasks id, v ≠ t → v ≠ u → v.node ≠ u.node) →
    (x.serve e (.complete t.id left)).store.Alone u

/-- A token that one node lets go takes nothing from a node where a task is open. -/
theorem spots_letGoIf {i : Instance} (hx : Ready e d id x) (hi : x.store.instance? id = some i)
    (hactive : i.isActive = true) (hp : x.store.Parallel id t u left right) :
    d.IsTask u.node ∧ ((i.net 0).letGoIf (x.store.Alone t) t.node).spots u.node = ⟨true, none⟩ := by
  obtain ⟨htask, hspot⟩ := (hx.fitting i hi (hx.belongs i hi) hactive).spot
    (Store.busy_of_mem_openTasks hp.second)
  refine ⟨htask, ?_⟩
  unfold Net.letGoIf
  split
  · rename_i halone
    have hne : u.node ≠ t.node := (hx.sound.alone_iff hp.first).1 halone u hp.second hp.ne.symm
    exact (update_of_ne hne _ _).trans hspot
  · exact hspot

theorem bothCompleted_of_inTurn (hd : Plain e d count) (hx : Ready e d id x)
    (hp : x.store.Parallel id t u left right) (h : InTurn e x t left u right) :
    ∃ i s born, BothCompleted e d count id x t left u right i s born := by
  have hdistinct : (x.serve e (.complete t.id left)).supply.Distinct :=
    h.distinct.of_grows (grows_serve hd.mints.draws _ _)
  have hx₁ := hx.complete hd hdistinct
  obtain ⟨i, s₁, h₁⟩ := completed_of_ok hd hx hp.first h.first hdistinct
  obtain ⟨i₁, s₂, h₂⟩ := completed_of_ok hd hx₁ ((h₁.tasks u).2 (Or.inl ⟨hp.second, hp.ne.symm⟩))
    h.second h.distinct
  have halone := h₁.alone_iff hx₁.sound hp.second hp.ne
  -- the instance is still active in between
  obtain ⟨hvars, hspots⟩ := h₁.of_isActive h₂.stored h₂.active
  have hfirst := h₁.steps 0
  have hsecond := h₂.steps (s₁.net 0).born
  have hnet : i₁.net (s₁.net 0).born = s₁.net 0 := Net.ext hspots rfl rfl
  rw [hnet] at hsecond
  refine ⟨i, s₂, _, h₁.stored, h₂.going, ?_, h₂.written, ?_, ?_, h₂.still (s₁.net 0).born,
    fun hlast => (halone.1 hlast).1, fun hstays hlast => halone.2 ⟨hlast, ?_⟩⟩
  · rw [h₂.vars, hvars, h₁.vars]
  · rw [afterBoth, h₂.nodes, ← Multiset.cons_add, h₁.nodes, Step.net, zero_add, add_assoc]
  · unfold bothGo
    by_cases hgo : (x.serve e (.complete t.id left)).store.Alone u
    · -- the second token may be let go at once, as the first one opens no task at its node
      obtain ⟨htask, hspot⟩ := spots_letGoIf hx h₁.stored h₁.active hp
      have hborn : u.node ∉ (s₁.net 0).born := by
        rw [Step.net, zero_add, Multiset.mem_coe]
        intro hmem
        obtain ⟨v, hv, hnode⟩ := List.mem_map.1 hmem
        exact (halone.1 hgo).2 v hv hnode
      rw [Net.letGoIf, if_pos hgo] at hsecond ⊢
      exact (Net.steps_letGo hfirst htask hspot hborn).1.trans hsecond
    · rw [Net.letGoIf, if_neg hgo] at hsecond ⊢
      exact hfirst.trans hsecond
  · rw [h₁.stays hstays]
    exact fun v hv => absurd hv List.not_mem_nil

/-- Where no completion opens a task at the node of the other one, the same nodes let their tokens go
whichever comes first. -/
theorem bothGo_comm {i : Instance} {s s' : Step} {born born' : Multiset String} (hx : x.store.Sound)
    (hp : x.store.Parallel id t u left right)
    (htu : BothCompleted e d count id x t left u right i s born)
    (hut : BothCompleted e d count id x u right t left i s' born')
    (hspare : SpareEachOther e x t left u right) :
    x.bothGo e t left u i = x.bothGo e u right t i := by
  unfold bothGo
  have ht := hx.alone_iff hp.first
  have hu := hx.alone_iff hp.second
  by_cases hnode : t.node = u.node
  · -- at one node, whoever comes second lets the token go
    have hstays : ¬ x.store.Alone t := fun halone =>
      ht.1 halone u hp.second hp.ne.symm hnode.symm
    have hstays' : ¬ x.store.Alone u := fun halone => hu.1 halone t hp.first hp.ne hnode
    have hsame : (x.serve e (.complete t.id left)).store.Alone u ↔
        (x.serve e (.complete u.id right)).store.Alone t :=
      ⟨fun hlast => hut.lone hstays' fun v hv hvu hvt => hnode ▸ htu.last hlast v hv hvt hvu,
        fun hlast => htu.lone hstays fun v hv hvt hvu => hnode ▸ hut.last hlast v hv hvu hvt⟩
    simp only [Net.letGoIf, if_neg hstays, if_neg hstays', hsame, hnode]
  · -- at different nodes, each of them goes on as if it came first
    have hsame : (x.serve e (.complete t.id left)).store.Alone u ↔ x.store.Alone u := by
      refine ⟨fun hlast => hu.2 fun v hv hvu => ?_, hspare.1⟩
      by_cases hvt : v = t
      · exact hvt ▸ hnode
      · exact htu.last hlast v hv hvt hvu
    have hsame' : (x.serve e (.complete u.id right)).store.Alone t ↔ x.store.Alone t := by
      refine ⟨fun hlast => ht.2 fun v hv hvt => ?_, hspare.2⟩
      by_cases hvu : v = u
      · exact hvu ▸ Ne.symm hnode
      · exact hut.last hlast v hv hvu hvt
    rw [Net.letGoIf_comm]
    simp only [Net.letGoIf, hsame, hsame']

/-- Whether two open tasks are completed in either order, with variables of different names. -/
structure EitherOrder (e : Engine) (id : Uuid) (x : Session) (t : Task) (left : Variables) (u : Task)
    (right : Variables) : Prop where
  parallel : x.store.Parallel id t u left right
  inTurn : InTurn e x t left u right
  inTurn' : InTurn e x u right t left

/-- Two tasks of an instance whose definition has neither guards nor flow handlers may be completed in
either order, if neither completion opens a task at a node where the other task is the only open one. -/
theorem completions_commute {s : Supply} {earlier later : List Request} (hd : Plain e d count)
    (hruns : RunsOn e s d id earlier later)
    (h : EitherOrder e id (history e s (earlier ++ later)) t left u right)
    (hspare : (history e s (earlier ++ later)).SpareEachOther e t left u right) :
    ∃ o, ((history e s (earlier ++ later)).afterBoth e t left u right).store.outlook id = some o ∧
      ((history e s (earlier ++ later)).afterBoth e u right t left).store.outlook id = some o := by
  obtain ⟨hp, htu, hut⟩ := h
  have hready := hruns.ready hd (htu.distinct.of_grows
    ((grows_serve hd.mints.draws _ _).trans (grows_serve hd.mints.draws _ _)))
  generalize history e s (earlier ++ later) = x at *
  obtain ⟨i, s₁, born, h₁⟩ := bothCompleted_of_inTurn hd hready hp htu
  obtain ⟨i', s₂, born', h₂⟩ := bothCompleted_of_inTurn hd hready hp.symm hut
  obtain rfl : i' = i := Option.some.inj (h₂.stored.symm.trans h₁.stored)
  have hsteps := h₂.steps
  rw [← bothGo_comm hready.sound hp h₁ h₂ hspare] at hsteps
  have hrest := Net.Still.eq h₁.still h₂.still h₁.steps hsteps
  obtain ⟨hspots, hborn, -⟩ := Net.ext_iff.1 hrest
  obtain ⟨hstate, hlisted, harrivals⟩ := Step.settled_congr h₁.going h₂.going hspots
  have hvars : s₁.settled.record.vars = s₂.settled.record.vars := by
    rw [s₁.record_settled, s₂.record_settled]
    exact h₁.vars.trans ((Variables.union_comm_of_apart hp.apart).trans h₂.vars.symm)
  have hopen : (x.afterBoth e t left u right).store.openNodes id =
      (x.afterBoth e u right t left).store.openNodes id := by
    have hnodes := h₁.nodes
    rw [show born = born' from hborn, ← h₂.nodes, Multiset.cons_swap] at hnodes
    exact (Multiset.cons_inj_right _).1 ((Multiset.cons_inj_right _).1 hnodes)
  refine ⟨_, Store.outlook_of_instance? h₁.written, ?_⟩
  rw [Store.outlook_of_instance? h₂.written, Option.some.injEq, Store.Outlook.mk.injEq]
  exact ⟨hstate.symm, hvars.symm, hlisted.symm, harrivals.symm, hopen.symm⟩

/-! ### Trials -/

/-- An instance that is started after its definition was deployed runs on it. -/
theorem runsOn_start {s : Supply} {earlier : List Request} {vars : Variables}
    (hstored : (history e s earlier).store.definition? d.id = some d)
    (habsent : (history e s earlier).store.instance? id = none) :
    RunsOn e s d id earlier [.start d.id vars] where
  stored := hstored
  absent := habsent
  stands := fun d' hmem _ => by simp at hmem
  belongs i hi := by
    rw [history_concat] at hi
    rcases serve_stepping (e := e) (x := history e s earlier) (r := .start d.id vars) rfl
      with hsame | ⟨⟨st⟩⟩
    · rw [hsame, habsent] at hi
      cases hi
    · by_cases hid : id = st.step.record.id
      · subst hid
        obtain ⟨d', start, now, hresolves, -, -, hopens⟩ := startOpening_ok st.run
        have hname : st.step.record.definitionId = d'.id := by
          rw [(follow_moved st.follow).definitionId_eq, hopens]
          rfl
        rw [record_of_committed st.committed hi]
        change st.step.settled.record.definitionId = d.id
        rw [st.step.record_settled]
        exact hname.trans ((faithful_history earlier).id_of_resolves hresolves)
      · rw [instance?_of_committed st.committed hid, habsent] at hi
        cases hi

theorem runsOn_deployed {s : Supply} {vars : Variables}
    (h : (history e s []).result e (.deploy d) = .ok ()) :
    RunsOn e s d id [.deploy d] [.start d.id vars] := by
  have hstore : (history e s [.deploy d]).store = (history e s []).store.putDefinition d :=
    store_of_deployed h
  refine runsOn_start ?_ ?_
  · rw [hstore]
    exact Dict.get?_insert_self _ _ _
  · rw [hstore]
    rfl

/-- What two completions show, one after the other. -/
structure Turns where
  first : Except EngineError Unit
  second : Except EngineError Unit
  /-- Whether another task is open at the node of the second one when its turn comes. -/
  crowded : Bool
  drawn : ℕ
  /-- Whether the instance lists a node in the end. -/
  listed : Option Bool

def turns (e : Engine) (x : Session) (id : Uuid) (t : Task) (left : Variables) (u : Task)
    (right : Variables) (n : String) : Turns where
  first := x.result e (.complete t.id left)
  second := (x.serve e (.complete t.id left)).result e (.complete u.id right)
  crowded := othersOpen u ((x.serve e (.complete t.id left)).store.tasksOf u.instanceId)
  drawn := (x.afterBoth e t left u right).supply.drawn
  listed := ((x.afterBoth e t left u right).store.instance? id).map (·.currentNodes.contains n)

/-- Whether both completions succeed, with ids that were counted up to here. -/
structure Turns.Succeed (v : Turns) : Prop where
  first : v.first = .ok ()
  second : v.second = .ok ()
  drawn : v.drawn ≤ 2 ^ 128

/-- The two tasks that the first instance starts with, if its process has two branches. -/
def firstTask (node : String) : Task := .create ⟨1⟩ ⟨0⟩ node ["ann"] ⟨0, 0⟩

def secondTask (node : String) : Task := .create ⟨2⟩ ⟨0⟩ node ["bob"] ⟨0, 0⟩

/-- What the completions of these tasks show in both orders. -/
def trial (e : Engine) (x : Session) (a : String) (left : Variables) (b : String)
    (right : Variables) (n : String) : Option Task × Option Task × Turns × Turns :=
  (x.store.task? ⟨1⟩, x.store.task? ⟨2⟩,
    x.turns e ⟨0⟩ (firstTask a) left (secondTask b) right n,
    x.turns e ⟨0⟩ (secondTask b) right (firstTask a) left n)

section Trials

variable {rs : List Request} {a b n : String} {v w : Turns}

theorem inTurn_of_turns (hdraws : e.registry.Draws)
    (h : (history e countedIds rs).turns e id t left u right n = v) (hv : v.Succeed) :
    InTurn e (history e countedIds rs) t left u right := by
  subst h
  obtain ⟨hfirst, hsecond, hdrawn⟩ := hv
  simp only [turns] at hfirst hsecond hdrawn
  refine ⟨hfirst, hsecond, ?_⟩
  have hboth : (history e countedIds rs).afterBoth e t left u right =
      history e countedIds (rs ++ [.complete t.id left] ++ [.complete u.id right]) := by
    rw [history_concat, history_concat, afterBoth]
  rw [hboth] at hdrawn ⊢
  exact distinct_of_draws hdraws hdrawn rfl

theorem eitherOrder_of_trial (hdraws : e.registry.Draws)
    (h : (history e countedIds rs).trial e a left b right n =
      (some (firstTask a), some (secondTask b), v, w)) (hv : v.Succeed) (hw : w.Succeed)
    (hapart : ∀ n, left.contains n = true → right.contains n = false) :
    EitherOrder e ⟨0⟩ (history e countedIds rs) (firstTask a) left (secondTask b) right := by
  simp only [trial, Prod.mk.injEq] at h
  obtain ⟨ht, hu, htu, hut⟩ := h
  exact ⟨⟨(sound_history rs).mem_openTasks.2 ⟨ht, rfl, rfl⟩,
      (sound_history rs).mem_openTasks.2 ⟨hu, rfl, rfl⟩,
      fun h => absurd (congrArg Task.id h) (by simp [firstTask, secondTask, Task.create]), hapart⟩,
    inTurn_of_turns hdraws htu hv, inTurn_of_turns hdraws hut hw⟩

/-- Where no one else is at the node when the second task's turn comes, the first one spares it. -/
theorem spares_of_trial {t? u? : Option Task}
    (h : x.trial e a left b right n = (t?, u?, v, w)) (hv : v.crowded = false)
    (hw : w.crowded = false) :
    SpareEachOther e x (firstTask a) left (secondTask b) right := by
  simp only [trial, Prod.mk.injEq] at h
  obtain ⟨-, -, rfl, rfl⟩ := h
  simp only [turns] at hv hw
  exact ⟨fun _ => hv, fun _ => hw⟩

/-- An instance that lists a node after one order only is not the same. -/
theorem outlook_ne_of_trial {t? u? : Option Task}
    (h : x.trial e a left b right n = (t?, u?, v, w)) (hne : v.listed ≠ w.listed) :
    (x.afterBoth e (firstTask a) left (secondTask b) right).store.outlook ⟨0⟩ ≠
      (x.afterBoth e (secondTask b) right (firstTask a) left).store.outlook ⟨0⟩ := by
  simp only [trial, Prod.mk.injEq] at h
  obtain ⟨-, -, rfl, rfl⟩ := h
  intro hsame
  have hlisted := congrArg (Option.map fun o : Store.Outlook => o.currentNodes.contains n) hsame
  simp only [Store.outlook, Option.map_map, Function.comp_def] at hlisted
  simp only [turns] at hne
  exact hne hlisted

end Trials

def taskNode (id assignee : String) (targets : List String) : Node :=
  ⟨id, none, .task [assignee] none none, none, targets.map .plain⟩

def joinNode (id : String) (expected : Option UInt32) (targets : List String) : Node :=
  ⟨id, none, .join expected, none, targets.map .plain⟩

/-- A process with these nodes between its start and its end. -/
def process (id : String) (branches : List String) (nodes : List Node) : Definition :=
  { id, version := 1, name := none, description := none, reminder := none, timeoutSeconds := none
    nodes := [⟨"start", none, .start, none, [.plain "split"]⟩, joinNode "split" (some 1) branches] ++
      nodes ++ [⟨"end", none, .stop, none, []⟩] }

/-- The session after an instance of a process was started. -/
abbrev started (e : Engine) (d : Definition) : Session :=
  history e countedIds [.deploy d, .start d.id ∅]

/-- The place of a node, from the end. -/
def rank (d : Definition) (n : String) : ℕ := d.nodes.length - (d.nodes.map Node.id).idxOf n

/-- A definition whose nodes all lead on to later ones in the list. -/
def Forward (d : Definition) : Prop := ∀ n ∈ d.nodes, ∀ m ∈ n.targets, rank d m < rank d n.id

instance : Decidable (Forward d) :=
  inferInstanceAs (Decidable (∀ n ∈ d.nodes, ∀ m ∈ n.targets, rank d m < rank d n.id))

theorem Forward.joinsOrdered (h : Forward d) : d.JoinsOrdered :=
  (Definition.acyclic_of_rank (rank d) h).joinsOrdered

theorem plain_of_forward (hguards : d.Unguarded) (hhandlers : d.Unhandled) (hd : Forward d) :
    Plain plainEngine d d.standardCount :=
  ⟨plainEngine_mints, Registry.steady_of_standard rfl d, hguards, hhandlers, hd.joinsOrdered⟩

/-! ### Two branches that meet -/

section Signoff

/-- Two tasks, and a join that waits for both. -/
def signoff : Definition := process "signoff" ["legal", "finance"] [
  taskNode "legal" "ann" ["signoff"],
  taskNode "finance" "bob" ["signoff"],
  joinNode "signoff" none ["end"]]

theorem trial_signoff :
    (started plainEngine signoff).trial plainEngine "legal" ∅ "finance" ∅ "signoff" =
      (some (firstTask "legal"), some (secondTask "finance"),
        ⟨.ok (), .ok (), false, 3, some false⟩, ⟨.ok (), .ok (), false, 3, some false⟩) := by
  simp only [history, List.foldl, trial, turns, afterBoth, serve, result, Request.perform,
    Engine.start, Engine.complete, carryOut]
  rw [follow_eq_followFor plainEngine 12]
  cbv

/-- Whoever signs last completes the instance. -/
theorem completions_commute_signoff :
    EitherOrder plainEngine ⟨0⟩ (started plainEngine signoff)
        (firstTask "legal") ∅ (secondTask "finance") ∅ ∧
      ∃ o, ((started plainEngine signoff).afterBoth plainEngine
          (firstTask "legal") ∅ (secondTask "finance") ∅).store.outlook ⟨0⟩ = some o ∧
        ((started plainEngine signoff).afterBoth plainEngine
          (secondTask "finance") ∅ (firstTask "legal") ∅).store.outlook ⟨0⟩ = some o := by
  have heither := eitherOrder_of_trial plainEngine_mints.draws trial_signoff ⟨rfl, rfl, by decide⟩
    ⟨rfl, rfl, by decide⟩ fun n hn => nomatch hn
  exact ⟨heither, @completions_commute plainEngine signoff signoff.standardCount ⟨0⟩
    (firstTask "legal") (secondTask "finance") ∅ ∅ countedIds [.deploy signoff]
    [.start "signoff" ∅]
    (plain_of_forward (by decide) (by decide) (by decide)) (runsOn_deployed (by cbv)) heither
    (spares_of_trial trial_signoff rfl rfl)⟩

end Signoff

/-! ### Where the order shows -/

/-- Two tasks that may be completed in either order, but not with the same instance in the end. -/
structure OrderShows (e : Engine) (x : Session) (t : Task) (left : Variables) (u : Task)
    (right : Variables) : Prop where
  either : EitherOrder e ⟨0⟩ x t left u right
  differs : (x.afterBoth e t left u right).store.outlook ⟨0⟩ ≠
    (x.afterBoth e u right t left).store.outlook ⟨0⟩

theorem orderShows_of_trial {rs : List Request} {a b n : String} {v w : Turns}
    (hdraws : e.registry.Draws) (h : (history e countedIds rs).trial e a left b right n =
      (some (firstTask a), some (secondTask b), v, w)) (hv : v.Succeed) (hw : w.Succeed)
    (hapart : ∀ n, left.contains n = true → right.contains n = false) (hne : v.listed ≠ w.listed) :
    OrderShows e (history e countedIds rs) (firstTask a) left (secondTask b) right :=
  ⟨eitherOrder_of_trial hdraws h hv hw hapart, outlook_ne_of_trial h hne⟩

/-- The first task leads to the node of the second one. -/
def relay : Definition := process "relay" ["draft", "check"] [
  taskNode "draft" "ann" ["check"],
  taskNode "check" "bob" ["publish"],
  taskNode "publish" "cleo" ["end"]]

theorem trial_relay : (started plainEngine relay).trial plainEngine "draft" ∅ "check" ∅ "publish" =
    (some (firstTask "draft"), some (secondTask "check"),
      ⟨.ok (), .ok (), true, 4, some false⟩, ⟨.ok (), .ok (), false, 5, some true⟩) := by
  simp only [history, List.foldl, trial, turns, afterBoth, serve, result, Request.perform,
    Engine.start, Engine.complete, carryOut]
  rw [follow_eq_followFor plainEngine 12]
  cbv

/-- Two joins that lead to each other, and to a third one. -/
def circling : Definition := process "circling" ["draft", "review"] [
  taskNode "draft" "ann" ["gather"],
  taskNode "review" "bob" ["left", "right"],
  joinNode "left" none ["polish", "gather"],
  taskNode "polish" "ann" ["right"],
  joinNode "right" none ["tidy"],
  taskNode "tidy" "bob" ["left"],
  joinNode "gather" none ["publish"],
  taskNode "publish" "cleo" ["end"]]

theorem trial_circling :
    (started plainEngine circling).trial plainEngine "draft" ∅ "review" ∅ "gather" =
      (some (firstTask "draft"), some (secondTask "review"),
        ⟨.ok (), .ok (), false, 5, some true⟩, ⟨.ok (), .ok (), false, 5, some false⟩) := by
  simp only [history, List.foldl, trial, turns, afterBoth, serve, result, Request.perform,
    Engine.start, Engine.complete, carryOut]
  rw [follow_eq_followFor plainEngine 16]
  cbv

/-- A task handler that creates no tasks for those who skip them. -/
def unlessSkipped : TaskHandler := fun earlier x supply =>
  if x.vars.contains "skip" then (.ok [], supply) else TaskHandler.single earlier x supply

def skippingEngine : Engine :=
  { plainEngine with registry := Registry.standard.withTask "unless skipped" unlessSkipped }

/-- How many tasks there are at the last node depends on the variables. -/
def skipping : Definition := process "skipping" ["draft", "review"] [
  taskNode "draft" "ann" ["end"],
  taskNode "review" "bob" ["publish"],
  ⟨"publish", none, .task ["cleo"] (some "unless skipped") none, none, [.plain "end"]⟩]

def skip : Variables := (∅ : Variables).insert "skip" (.bool true)

theorem mints_skippingEngine : skippingEngine.registry.Mints := by
  refine Registry.Mints.withTask (Registry.mints_of_standard rfl) ⟨fun earlier x s => ?_, ?_⟩
  · unfold unlessSkipped
    split
    · exact .refl s
    · exact TaskHandler.mints_single.draws earlier x s
  · intro earlier x s ts s' h
    unfold unlessSkipped at h
    split at h
    · cases h
      exact .nil s s
    · exact TaskHandler.mints_single.mints h

theorem trial_skipping :
    (started skippingEngine skipping).trial skippingEngine "draft" skip "review" ∅ "publish" =
      (some (firstTask "draft"), some (secondTask "review"),
        ⟨.ok (), .ok (), false, 3, some false⟩, ⟨.ok (), .ok (), false, 4, some true⟩) := by
  simp only [history, List.foldl, trial, turns, afterBoth, serve, result, Request.perform,
    Engine.start, Engine.complete, carryOut]
  rw [follow_eq_followFor skippingEngine 12]
  cbv

/-- The definition with which an instance is started. -/
def branching : Definition := process "changing" ["draft", "review", "publish"] [
  taskNode "draft" "ann" ["end"],
  taskNode "review" "bob" ["end"],
  taskNode "publish" "cleo" ["end"]]

/-- The definition that takes its place, where a task has become a join. -/
def joining : Definition := process "changing" ["review", "publish"] [
  taskNode "review" "bob" ["draft"],
  taskNode "publish" "cleo" ["draft"],
  joinNode "draft" (some 2) ["end"]]

abbrev changed : Session :=
  history plainEngine countedIds [.deploy branching, .start "changing" ∅, .deploy joining]

theorem trial_changed : changed.trial plainEngine "draft" ∅ "review" ∅ "draft" =
    (some (firstTask "draft"), some (secondTask "review"),
      ⟨.ok (), .ok (), false, 4, some true⟩, ⟨.ok (), .ok (), false, 4, some false⟩) := by
  simp only [history, List.foldl, trial, turns, afterBoth, serve, result, Request.perform,
    Engine.start, Engine.complete, carryOut]
  rw [follow_eq_followFor plainEngine 12]
  cbv

/-- The order shows where one of the tasks leads to the other one, where joins lead to each other, where
the number of tasks depends on the variables, and where a definition is deployed in the place of the
one that the tasks are from. -/
theorem order_shows :
    (Plain plainEngine relay relay.standardCount ∧
      RunsOn plainEngine countedIds relay ⟨0⟩ [.deploy relay] [.start "relay" ∅] ∧
      OrderShows plainEngine (started plainEngine relay)
        (firstTask "draft") ∅ (secondTask "check") ∅) ∧
    (plainEngine.registry.Mints ∧ plainEngine.registry.Steady circling circling.standardCount ∧
      circling.Unguarded ∧ circling.Unhandled ∧
      RunsOn plainEngine countedIds circling ⟨0⟩ [.deploy circling] [.start "circling" ∅] ∧
      OrderShows plainEngine (started plainEngine circling)
        (firstTask "draft") ∅ (secondTask "review") ∅ ∧
      SpareEachOther plainEngine (started plainEngine circling)
        (firstTask "draft") ∅ (secondTask "review") ∅) ∧
    (skippingEngine.registry.Mints ∧ skipping.Unguarded ∧ skipping.Unhandled ∧
      skipping.JoinsOrdered ∧
      RunsOn skippingEngine countedIds skipping ⟨0⟩ [.deploy skipping] [.start "skipping" ∅] ∧
      OrderShows skippingEngine (started skippingEngine skipping)
        (firstTask "draft") skip (secondTask "review") ∅ ∧
      SpareEachOther skippingEngine (started skippingEngine skipping)
        (firstTask "draft") skip (secondTask "review") ∅) ∧
    (Plain plainEngine branching branching.standardCount ∧
      Plain plainEngine joining joining.standardCount ∧
      (history plainEngine countedIds
        [.deploy branching, .start "changing" ∅]).result plainEngine (.deploy joining) = .ok () ∧
      OrderShows plainEngine changed (firstTask "draft") ∅ (secondTask "review") ∅ ∧
      SpareEachOther plainEngine changed (firstTask "draft") ∅ (secondTask "review") ∅) := by
  have hdraws := plainEngine_mints.draws
  refine ⟨⟨plain_of_forward (by decide) (by decide) (by decide), runsOn_deployed (by cbv), ?_⟩,
    ⟨plainEngine_mints, Registry.steady_of_standard rfl circling, by decide, by decide,
      runsOn_deployed (by cbv), ?_, spares_of_trial trial_circling rfl rfl⟩,
    ⟨mints_skippingEngine, by decide, by decide, Forward.joinsOrdered (by decide),
      runsOn_deployed (by cbv), ?_, spares_of_trial trial_skipping rfl rfl⟩,
    plain_of_forward (by decide) (by decide) (by decide),
    plain_of_forward (by decide) (by decide) (by decide), by cbv, ?_,
    spares_of_trial trial_changed rfl rfl⟩
  · exact orderShows_of_trial hdraws trial_relay ⟨rfl, rfl, by decide⟩ ⟨rfl, rfl, by decide⟩
      (by rintro n ⟨⟩) (by decide)
  · exact orderShows_of_trial hdraws trial_circling ⟨rfl, rfl, by decide⟩ ⟨rfl, rfl, by decide⟩
      (by rintro n ⟨⟩) (by decide)
  · exact orderShows_of_trial mints_skippingEngine.draws trial_skipping ⟨rfl, rfl, by decide⟩
      ⟨rfl, rfl, by decide⟩ (fun n hn => rfl) (by decide)
  · exact orderShows_of_trial hdraws trial_changed ⟨rfl, rfl, by decide⟩ ⟨rfl, rfl, by decide⟩
      (by rintro n ⟨⟩) (by decide)

end Session

end Workflow
