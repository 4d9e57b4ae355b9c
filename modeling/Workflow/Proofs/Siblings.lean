import Workflow.Proofs.Arrivals
import Workflow.Proofs.Completions

/-!
The tasks of one node, completed one after another. Each completion but the last one closes its task and
hands in an output, and no token moves. The last one lets one token leave the node, on a route that all
that was handed in decides (`siblings_leave_once`).
-/
namespace Workflow

open Relation
open Time (Instant)
open Engine Engine.Action

/-- Variables after these were handed in, one after another. -/
def Variables.overridden (vars : Variables) (outputs : List Variables) : Variables :=
  outputs.foldl Dict.union vars

namespace Session

variable {e : Engine} {x y : Session} {r : Request} {id : Uuid} {n : String} {i : Instance}
  {t u : Task} {output : Variables} {now : Instant}

/-! ### Nodes of active instances -/

/-- Whether every active instance lists some node. -/
def Occupied (store : Store) : Prop :=
  ∀ id i, store.instance? id = some i → i.isActive = true → i.currentNodes.isEmpty = false

theorem occupied_of_change {store store' : Store} (h : Change store store') (hs : store.Sound)
    (ho : Occupied store) : Occupied store' := by
  intro id j hj hactive
  obtain ⟨i, hi, hstill⟩ := h.still hs hj
  rw [hstill.currentNodes]
  rcases hstill.joinArrivals with ⟨-, hsame⟩ | ⟨-, hended⟩
  · exact ho id i hi (hsame ▸ hactive)
  · rw [hended] at hactive
    cases hactive

theorem occupied_serve (hs : x.store.Sound) (ho : Occupied x.store) :
    Occupied (x.serve e r).store := by
  cases hr : r.opening? e with
  | none => exact (changes_keep (serve_changes (x := x) hr) occupied_of_change hs ho).2
  | some opening =>
    rcases serve_stepping (x := x) hr with hsame | ⟨⟨st⟩⟩
    · exact hsame ▸ ho
    · intro id i hi hactive
      by_cases hid : id = st.step.record.id
      · -- a step is settled when it is written
        subst hid
        obtain ⟨rfl, -, hlisted⟩ := active_of_committed st.committed hi hactive
        exact hlisted
      · rw [instance?_of_committed st.committed hid] at hi
        exact ho id i hi hactive

theorem occupied_of_reached {w : World} (h : w.Reached) : Occupied w.store := by
  induction h with
  | empty =>
    intro id i hi
    cases hi
  | serve h e a r ih => exact occupied_serve (x := ⟨_, a⟩) (sound_of_reached h) ih

/-! ### What the tokens of a request do -/

/-- What a request has the tokens of an instance do. -/
def acts (e : Engine) (x : Session) (r : Request) : List Act :=
  match r.opening? e with
  | none => []
  | some opening =>
    match Action.run x.world (r.noted x.ambient) opening with
    | ((.ok (.walks d queue s), a), _) => Engine.acts e d ⟨0, queue, s⟩ a
    | _ => []

theorem acts_of_stays {opening : Action Opening} (hr : r.opening? e = some opening)
    (st : Stepped e x r opening y) {s : Step} (hopens : st.opens = .stays s) : x.acts e r = [] := by
  rw [acts, hr]
  simp only [st.run, hopens]

theorem acts_of_walks {opening : Action Opening} (hr : r.opening? e = some opening)
    (st : Stepped e x r opening y) {d : Definition} {queue : List Token} {s : Step}
    (hopens : st.opens = .walks d queue s) :
    x.acts e r = Engine.acts e d ⟨0, queue, s⟩ st.before := by
  rw [acts, hr]
  simp only [st.run, hopens]

/-! ### Completions that move no token -/

/-- What a completion leaves of a store where no token moves: its task is closed, its output is handed
in, and nothing else is changed. -/
structure HandsIn (x y : Store) (i : Instance) (t : Task) (output : Variables) (now : Instant) :
    Prop where
  task : y.task? t.id = some (handedIn t output now)
  record : y.instance? i.id = some { i with
    vars := i.vars.union output, updatedAt := now, revision := i.revision + 1 }
  tasks : ∀ id, id ≠ t.id → y.task? id = x.task? id
  instances : ∀ id, id ≠ i.id → y.instance? id = x.instance? id
  order : ∀ owner, y.order owner = x.order owner
  definitions : y.definitions = x.definitions

theorem settled_completion (hlisted : i.currentNodes.isEmpty = false) :
    (completion i t output now).settled = completion i t output now := by
  have hgoing : ¬ ((completion i t output now).record.isActive &&
      (completion i t output now).record.currentNodes.isEmpty) = true := by
    have hnodes : (completion i t output now).record.currentNodes.isEmpty = false := hlisted
    simp [hnodes]
  exact if_neg hgoing

theorem handsIn_of_committed {x y : Store} (hlisted : i.currentNodes.isEmpty = false)
    (hc : x.Committed (completion i t output now).settled.commit y) :
    HandsIn x y i t output now := by
  rw [settled_completion hlisted] at hc
  have hupdated : (completion i t output now).commit.updated = [handedIn t output now] := rfl
  have htask : ∀ id, id = t.id ∧ y.task? id = some (handedIn t output now) ∨
      id ≠ t.id ∧ y.task? id = x.task? id := by
    intro id
    rcases hc.tasks id with ⟨u, hu, hid, hsome⟩ | ⟨hne, ⟨u, hu, -, -⟩ | ⟨-, hsame⟩⟩
    · rw [hupdated] at hu
      cases List.mem_singleton.1 hu
      exact Or.inl ⟨hid.symm, hsome⟩
    · cases hu
    · have hmem : handedIn t output now ∈ (completion i t output now).commit.updated :=
        hupdated ▸ List.mem_singleton_self _
      exact Or.inr ⟨fun hid => hne _ hmem hid.symm, hsame⟩
  constructor
  · exact ((htask t.id).resolve_right fun h => h.1 rfl).2
  · rw [hc.record]
    exact if_pos rfl
  · exact fun id hne => ((htask id).resolve_left fun h => hne h.1).2
  · intro id hne
    rw [hc.record]
    exact if_neg hne
  · intro owner
    rw [hc.listing]
    split
    · exact List.append_nil _
    · rfl
  · exact hc.definitions

theorem HandsIn.mem_openTasks {x y : Store} (h : HandsIn x y i t output now) (hx : x.Sound)
    (hy : y.Sound) (ht : x.task? t.id = some t) :
    u ∈ y.openTasks id ↔ u ∈ x.openTasks id ∧ u ≠ t := by
  rw [hy.mem_openTasks, hx.mem_openTasks]
  by_cases hid : u.id = t.id
  · rw [hid, h.task, ht]
    constructor
    · rintro ⟨hu, -, hopen⟩
      rw [← Option.some.inj hu] at hopen
      cases hopen
    · rintro ⟨⟨hu, -⟩, hne⟩
      exact absurd (Option.some.inj hu).symm hne
  · rw [h.tasks u.id hid]
    have hne : u ≠ t := fun h => hid (congrArg Task.id h)
    simp [hne]

/-- A completion that is written leaves the tokens where they are if other tasks are open at the node. -/
theorem handsIn_of_commits (hx : x.store.Sound) (ho : Occupied x.store)
    (ht : t ∈ x.store.openTasks id) (hi : x.store.instance? id = some i)
    (hothers : ¬ x.store.Alone t) (hc : x.Commits e (.complete t.id output)) :
    (∃ now, HandsIn x.store (x.serve e (.complete t.id output)).store i t output now) ∧
      x.acts e (.complete t.id output) = [] := by
  obtain ⟨st, j, d, now, hj, hactive, -, hopens⟩ := stepped_completion hx ht hc
  obtain rfl : i = j := Option.some.inj (hi.symm.trans hj)
  rw [if_neg hothers] at hopens
  refine ⟨⟨now, handsIn_of_committed (ho id i hi hactive) ?_⟩, acts_of_stays rfl st hopens⟩
  have hfollow := st.follow
  rw [hopens] at hfollow
  have hstep : (.ok (completion i t output now) : Except EngineError Step) = .ok st.step :=
    congrArg Prod.fst hfollow
  rw [Except.ok.inj hstep]
  exact st.committed

/-! ### The last completion -/

/-- A completion after which one token leaves the node of the task, as these variables tell it. -/
structure LeavesOnce (e : Engine) (x : Session) (i : Instance) (t : Task) (output : Variables)
    (vars : Variables) (y : Session) extends
    Stepped e x (.complete t.id output) (completeOpening e t.id output) y where
  definition : Definition
  node : Node
  targets : List String
  now : Instant
  /-- What the tokens do once the node is left. -/
  rest : List Act
  resolves : Resolves e x.world i.definitionId definition
  walks : opens = .walks definition [.leave t.node] ((completion i t output now).depart t.node)
  found : definition.node? t.node = some node
  vars_eq : (completion i t output now).record.vars = vars
  routed : (route e.evaluator node vars).1 = .ok targets
  /-- The walk goes on with these targets. -/
  goes : (trail e definition ⟨0, [.leave t.node], (completion i t output now).depart t.node⟩ before)[1]? =
    some ⟨0, targets.map .enter, leave node targets ((completion i t output now).depart t.node)⟩
  acts_eq : x.acts e (.complete t.id output) = .leaves t.node :: rest
  /-- The node is not left again, unless a token enters it anew or is released there. -/
  once : departuresFrom t.node rest ≤ entriesAt t.node rest + (releasedAt t.node rest).length

/-- A walk that begins as a token leaves a node goes on with the targets of its route. -/
theorem advance_leaves {d : Definition} {s s' : Step} {a a' : Ambient}
    (h : advance e d ⟨0, [.leave n], s⟩ a = (.ok s', a')) :
    ∃ node targets rest, d.node? n = some node ∧
      (route e.evaluator node s.record.vars).1 = .ok targets ∧
      (trail e d ⟨0, [.leave n], s⟩ a)[1]? = some ⟨0, targets.map .enter, leave node targets s⟩ ∧
      Engine.acts e d ⟨0, [.leave n], s⟩ a = .leaves n :: rest ∧
      departuresFrom n rest ≤ entriesAt n rest + (releasedAt n rest).length := by
  rw [advance] at h
  split at h <;> rename_i hm
  · rename_i y a₁
    obtain ⟨act, hdoes, hacts⟩ := acts_cons hm
    cases hdoes with
    | @leaves _ _ _ _ node targets hnode htargets =>
      have hrest := departs_acts (e := e) (d := d) n ⟨0, targets.map .enter, leave node targets s⟩ a₁
      unfold Departs at hrest
      rw [count_map_enter, Nat.zero_add] at hrest
      refine ⟨node, targets, _, hnode, htargets, ?_, hacts, hrest⟩
      rw [trail_cons hm, trail]
      rfl
  · cases (move_none hm).1
  · cases h

theorem leavesOnce_of_commits (hx : x.store.Sound) (ht : t ∈ x.store.openTasks id)
    (hi : x.store.instance? id = some i) (hlast : x.store.Alone t)
    (hc : x.Commits e (.complete t.id output)) :
    Nonempty (LeavesOnce e x i t output (i.vars.union output)
      (x.serve e (.complete t.id output))) := by
  obtain ⟨st, j, d, now, hj, -, hresolves, hopens⟩ := stepped_completion hx ht hc
  obtain rfl : i = j := Option.some.inj (hi.symm.trans hj)
  rw [if_pos hlast] at hopens
  have hfollow := st.follow
  rw [hopens] at hfollow
  obtain ⟨node, targets, rest, hnode, htargets, hgoes, hacts, honce⟩ := advance_leaves hfollow
  exact ⟨{ st with
    definition := d
    node, targets, now, rest
    resolves := hresolves
    walks := hopens
    found := hnode
    vars_eq := rfl
    routed := htargets
    goes := hgoes
    acts_eq := (acts_of_walks rfl st hopens).trans hacts
    once := honce }⟩

/-! ### One after another -/

theorem overridden_concat (vars : Variables) (l : List (Task × Variables)) (p : Task × Variables) :
    vars.overridden ((l ++ [p]).map Prod.snd) = (vars.overridden (l.map Prod.snd)).union p.2 := by
  rw [List.map_append]
  exact List.foldl_append

/-- Completes tasks one after another. -/
def completeEach (e : Engine) (x : Session) (l : List (Task × Variables)) : Session :=
  l.foldl (fun x p => x.serve e (.complete p.1.id p.2)) x

theorem completeEach_concat (l : List (Task × Variables)) (p : Task × Variables) :
    x.completeEach e (l ++ [p]) = (x.completeEach e l).serve e (.complete p.1.id p.2) :=
  List.foldl_append

/-- An instance that has come so far: its tokens are where they were, these tasks are left at a node, and
the variables are these. -/
structure Pausing (id : Uuid) (n : String) (i : Instance) (left : List Task) (vars : Variables)
    (x : Session) : Prop where
  sound : x.store.Sound
  occupied : Occupied x.store
  stored : ∃ updatedAt revision, x.store.instance? id = some { i with vars, updatedAt, revision }
  left : ∀ t, t ∈ left ↔ t ∈ x.store.openTasks id ∧ t.node = n

namespace Pausing

variable {left : List Task} {vars : Variables}

theorem begin (hx : x.world.Reached) (hi : x.store.instance? id = some i)
    (hleft : ∀ t, t ∈ left ↔ t ∈ x.store.openTasks id ∧ t.node = n) :
    Pausing id n i left i.vars x :=
  ⟨sound_of_reached hx, occupied_of_reached hx, ⟨i.updatedAt, i.revision, hi⟩, hleft⟩

/-- The next task is not alone at its node as long as another one is left there. -/
theorem not_alone (h : Pausing id n i (t :: left) vars x) (hdistinct : (t :: left).Nodup)
    (hleft : left ≠ []) : ¬ x.store.Alone t := by
  obtain ⟨u, hu⟩ := List.exists_mem_of_ne_nil left hleft
  obtain ⟨ht, htn⟩ := (h.left t).1 List.mem_cons_self
  obtain ⟨huopen, hun⟩ := (h.left u).1 (List.mem_cons_of_mem _ hu)
  have hne : u ≠ t := fun hut => (List.nodup_cons.1 hdistinct).1 (hut ▸ hu)
  intro halone
  exact (h.sound.alone_iff ht).1 halone u huopen hne (hun.trans htn.symm)

/-- The last task of a node is alone there. -/
theorem alone (h : Pausing id n i [t] vars x) : x.store.Alone t := by
  obtain ⟨ht, htn⟩ := (h.left t).1 List.mem_cons_self
  rw [h.sound.alone_iff ht]
  intro u hu hne hnode
  exact hne (List.mem_singleton.1 ((h.left u).2 ⟨hu, hnode.trans htn⟩))

/-- A completion after which tasks are left at the node leaves the instance where it is. -/
theorem complete (h : Pausing id n i (t :: left) vars x) (hdistinct : (t :: left).Nodup)
    (hleft : left ≠ []) (hc : x.Commits e (.complete t.id output)) :
    Pausing id n i left (vars.union output) (x.serve e (.complete t.id output)) := by
  obtain ⟨ht, htn⟩ := (h.left t).1 List.mem_cons_self
  obtain ⟨updatedAt, revision, hj⟩ := h.stored
  obtain ⟨⟨now, hhands⟩, -⟩ :=
    handsIn_of_commits h.sound h.occupied ht hj (h.not_alone hdistinct hleft) hc
  have hsound := sound_serve (e := e) (r := .complete t.id output) h.sound
  have hid := h.sound.instances hj
  change i.id = id at hid
  refine ⟨hsound, occupied_serve h.sound h.occupied,
    ⟨now, revision + 1, hid ▸ hhands.record⟩, fun u => ?_⟩
  · rw [hhands.mem_openTasks h.sound hsound (h.sound.mem_openTasks.1 ht).1]
    have hcons := h.left u
    rw [List.mem_cons] at hcons
    constructor
    · intro hu
      have hne : u ≠ t := fun hut => (List.nodup_cons.1 hdistinct).1 (hut ▸ hu)
      obtain ⟨hopen, hnode⟩ := hcons.1 (Or.inr hu)
      exact ⟨⟨hopen, hne⟩, hnode⟩
    · rintro ⟨⟨hopen, hne⟩, hnode⟩
      exact (hcons.2 ⟨hopen, hnode⟩).resolve_left hne

end Pausing

theorem pausing_of_prefix {l earlier later : List (Task × Variables)} (hx : x.world.Reached)
    (hi : x.store.instance? id = some i) (hdistinct : (l.map Prod.fst).Nodup)
    (hall : ∀ t, t ∈ l.map Prod.fst ↔ t ∈ x.store.openTasks id ∧ t.node = n)
    (hcommits : ∀ earlier p later, l = earlier ++ p :: later →
      (x.completeEach e earlier).Commits e (.complete p.1.id p.2))
    (hl : l = earlier ++ later) (hlater : later ≠ []) :
    Pausing id n i (later.map Prod.fst) (i.vars.overridden (earlier.map Prod.snd))
      (x.completeEach e earlier) := by
  -- from the end: whether a completion moves a token depends on what is left after it
  induction earlier using List.reverseRecOn generalizing later with
  | nil =>
    rw [hl] at hall
    exact .begin hx hi hall
  | append_singleton earlier p ih =>
    have hsplit : l = earlier ++ p :: later := by rw [hl, List.append_assoc, List.singleton_append]
    have hnodup : (p.1 :: later.map Prod.fst).Nodup := by
      rw [hsplit, List.map_append] at hdistinct
      exact hdistinct.of_append_right
    rw [completeEach_concat, overridden_concat]
    exact (ih hsplit (List.cons_ne_nil _ _)).complete hnodup (by simpa using hlater)
      (hcommits earlier p later hsplit)

/-- The tasks of one node are completed in any order, with any outputs. Every completion but the last
one closes its task, hands in its output and changes nothing else, and no token moves; the last one lets
one token leave the node, on the route that the variables tell with all outputs handed in. -/
theorem siblings_leave_once {l : List (Task × Variables)} (hx : x.world.Reached)
    (hi : x.store.instance? id = some i) (hdistinct : (l.map Prod.fst).Nodup)
    (hall : ∀ t, t ∈ l.map Prod.fst ↔ t ∈ x.store.openTasks id ∧ t.node = n)
    (hcommits : ∀ earlier p later, l = earlier ++ p :: later →
      (x.completeEach e earlier).Commits e (.complete p.1.id p.2))
    (earlier : List (Task × Variables)) (p : Task × Variables) (later : List (Task × Variables))
    (hl : l = earlier ++ p :: later) :
    let y := x.completeEach e earlier
    let z := y.serve e (.complete p.1.id p.2)
    ∃ updatedAt revision,
      let j := { i with vars := i.vars.overridden (earlier.map Prod.snd), updatedAt, revision }
      y.store.instance? id = some j ∧
        (later ≠ [] → (∃ now, HandsIn y.store z.store j p.1 p.2 now) ∧
          y.acts e (.complete p.1.id p.2) = []) ∧
        (later = [] →
          Nonempty (LeavesOnce e y j p.1 p.2 (i.vars.overridden (l.map Prod.snd)) z)) := by
  intro y z
  have hpausing : Pausing id n i ((p :: later).map Prod.fst)
      (i.vars.overridden (earlier.map Prod.snd)) y :=
    pausing_of_prefix hx hi hdistinct hall hcommits hl (List.cons_ne_nil _ _)
  obtain ⟨ht, -⟩ := (hpausing.left p.1).1 List.mem_cons_self
  obtain ⟨updatedAt, revision, hj⟩ := hpausing.stored
  have hc := hcommits earlier p later hl
  refine ⟨updatedAt, revision, hj, fun hne => ?_, ?_⟩
  · have hnodup : ((p :: later).map Prod.fst).Nodup := by
      rw [hl, List.map_append] at hdistinct
      exact hdistinct.of_append_right
    exact handsIn_of_commits hpausing.sound hpausing.occupied ht hj
      (hpausing.not_alone hnodup (by simpa using hne)) hc
  · rintro rfl
    rw [hl, overridden_concat]
    exact leavesOnce_of_commits hpausing.sound ht hj hpausing.alone hc

section Panel

/-- A vote of two people. -/
def panel : Definition :=
  { id := "panel", version := 1, name := none, description := none, reminder := none
    timeoutSeconds := none
    nodes := [
      ⟨"start", none, .start, none, [.plain "vote"]⟩,
      ⟨"vote", none, .task ["ann", "bob"] (some "per_assignee") none, none, [.plain "end"]⟩,
      ⟨"end", none, .stop, none, []⟩] }

/-- The session in which both of them have yet to vote. -/
def convened : Session := history plainEngine countedIds [.deploy panel, .start "panel" ∅]

def ballot (taskId : Uuid) (who vote : String) : Task × Variables :=
  (.create taskId ⟨0⟩ "vote" [who] ⟨0, 0⟩, Dict.ofList [("vote", .string vote)])

/-- They vote in another order than their tasks were created in. -/
def ballots : List (Task × Variables) := [ballot ⟨2⟩ "bob" "no", ballot ⟨1⟩ "ann" "yes"]

theorem mem_ballots (t : Task) :
    t ∈ ballots.map Prod.fst ↔ t ∈ convened.store.openTasks ⟨0⟩ ∧ t.node = "vote" := by
  have htasks : convened.store.tasksOf ⟨0⟩ =
      [(ballot ⟨1⟩ "ann" "yes").1, (ballot ⟨2⟩ "bob" "no").1] := by cbv
  rw [Store.openTasks, List.mem_toFinset, htasks]
  constructor
  · intro ht
    simp only [ballots, List.map_cons, List.map_nil, List.mem_cons, List.not_mem_nil, or_false] at ht
    rcases ht with rfl | rfl <;> exact ⟨by decide, rfl⟩
  · rintro ⟨ht, -⟩
    have hmem := (List.mem_filter.1 ht).1
    simp only [List.mem_cons, List.not_mem_nil, or_false] at hmem
    rcases hmem with rfl | rfl <;> decide

theorem commits_ballots (earlier : List (Task × Variables)) (p : Task × Variables)
    (later : List (Task × Variables)) (hl : ballots = earlier ++ p :: later) :
    (convened.completeEach plainEngine earlier).Commits plainEngine (.complete p.1.id p.2) := by
  have hok : ∀ {x : Session} {r : Request}, (x.result plainEngine r).isOk = true →
      x.Commits plainEngine r := by
    intro x r h
    left
    cases hr : x.result plainEngine r with
    | ok u => rfl
    | error err =>
      rw [hr] at h
      cases h
  rcases earlier with _ | ⟨q, _ | ⟨q', earlier⟩⟩
  · cases hl
    exact hok (by cbv)
  · cases hl
    exact hok (by cbv)
  · have hlength := congrArg List.length hl
    simp [ballots] at hlength

/-- Bob's vote moves no token, and Ann's lets one leave the node with both of them. -/
theorem siblings_leave_once_panel :
    convened.world.Reached ∧ ∃ i, convened.store.instance? ⟨0⟩ = some i ∧
      convened.acts plainEngine (.complete ⟨2⟩ (ballot ⟨2⟩ "bob" "no").2) = [] ∧
      ∃ j, Nonempty (LeavesOnce plainEngine
        (convened.completeEach plainEngine [ballot ⟨2⟩ "bob" "no"]) j (ballot ⟨1⟩ "ann" "yes").1
        (ballot ⟨1⟩ "ann" "yes").2 (i.vars.overridden (ballots.map Prod.snd))
        (convened.completeEach plainEngine ballots)) := by
  have hreached := reached_history plainEngine countedIds [.deploy panel, .start "panel" ∅]
  have hstored : (convened.store.instance? ⟨0⟩).isSome = true := by cbv
  obtain ⟨i, hi⟩ := Option.isSome_iff_exists.1 hstored
  have hdistinct : (ballots.map Prod.fst).Nodup := by decide
  obtain ⟨_, _, -, hfirst, -⟩ := siblings_leave_once hreached hi hdistinct mem_ballots commits_ballots
    [] (ballot ⟨2⟩ "bob" "no") [ballot ⟨1⟩ "ann" "yes"] rfl
  obtain ⟨_, _, -, -, hlast⟩ := siblings_leave_once hreached hi hdistinct mem_ballots commits_ballots
    [ballot ⟨2⟩ "bob" "no"] (ballot ⟨1⟩ "ann" "yes") [] rfl
  exact ⟨hreached, i, hi, (hfirst (List.cons_ne_nil _ _)).2, _, hlast rfl⟩

end Panel

end Session

end Workflow
