import Workflow.Proofs.Fitting

/-!
What a completion makes of an instance, apart from any order. The variables that are handed in are put
in the place of older ones, the task gives way to the tasks that its token creates, and if no other task
is open at its node, the tokens come to the rest that the net of the instance comes to once the node has
let its token go (`completed_of_ok`).
-/
namespace Workflow

open Relation Function
open Engine Engine.Action

/-- A step whose instance is active once it is settled was not changed by that. -/
theorem Engine.Step.settled_of_isActive {s : Step} (h : s.settled.record.isActive = true) :
    s.settled = s := by
  unfold settled at h ⊢
  split at h
  · cases h
  · rename_i hgoing
    rw [if_neg hgoing]

/-- The net of an instance between two steps. -/
def Instance.net (born : Multiset String) (i : Instance) : Net := ⟨i.spots, born, 0⟩

namespace Store

variable {s : Store} {t : Task}

/-- The nodes of the open tasks of an instance. -/
def openNodes (s : Store) (id : Uuid) : Multiset String := (s.openTasks id).val.map Task.node

/-- Whether no other open task is at the node of a task. -/
def Alone (s : Store) (t : Task) : Prop := othersOpen t (s.tasksOf t.instanceId) = false

instance : Decidable (s.Alone t) := inferInstanceAs (Decidable (_ = false))

theorem Sound.alone_iff {id : Uuid} (hs : s.Sound) (ht : t ∈ s.openTasks id) :
    s.Alone t ↔ ∀ v ∈ s.openTasks id, v ≠ t → v.node ≠ t.node := by
  obtain ⟨hfound, rfl, -⟩ := hs.mem_openTasks.1 ht
  have hsame : ∀ {v}, v ∈ s.openTasks t.instanceId → (v ≠ t ↔ v.id ≠ t.id) := by
    intro v hv
    refine not_congr ⟨congrArg Task.id, fun hid => ?_⟩
    have hv := (hs.mem_openTasks.1 hv).1
    rw [hid, hfound] at hv
    exact (Option.some.inj hv).symm
  have hopen : ∀ {v}, v ∈ s.openTasks t.instanceId ↔ v ∈ s.tasksOf t.instanceId ∧ v.isOpen = true := by
    intro v
    rw [openTasks, List.mem_toFinset, List.mem_filter]
  simp only [Alone, othersOpen, List.any_eq_false, Bool.and_eq_true, bne_iff_ne, beq_iff_eq]
  constructor
  · exact fun h v hv hne hnode => h v (hopen.1 hv).1 ⟨⟨(hsame hv).1 hne, hnode⟩, (hopen.1 hv).2⟩
  · rintro h v hv ⟨⟨hne, hnode⟩, hopened⟩
    have hv := hopen.2 ⟨hv, hopened⟩
    exact h v hv ((hsame hv).2 hne) hnode

end Store

namespace Session

variable {e : Engine} {d : Definition} {count : String → ℕ} {x : Session} {id : Uuid} {t : Task}
  {output : Variables}

/-! ### Open tasks -/

/-- Once a task is written as completed, the created tasks are open instead of it. -/
theorem mem_openTasks_of_committed {x y : Store} {c : Commit} {now : Time.Instant} (hx : x.Sound)
    (hy : y.Sound) (hc : x.Committed c y) (ho : x.Orderly c) (hid : c.record.id = id)
    (hupdated : c.updated = [handedIn t output now]) (hopened : ∀ v ∈ c.created, v.isOpen = true)
    (ht : x.task? t.id = some t) (v : Task) :
    v ∈ y.openTasks id ↔ v ∈ x.openTasks id ∧ v ≠ t ∨ v ∈ c.created := by
  rw [hy.mem_openTasks, hx.mem_openTasks]
  constructor
  · rintro ⟨hfound, howner, hopen⟩
    rcases hc.task?_cases hfound with ⟨hv, -⟩ | ⟨hv, -⟩ | ⟨hv, hne⟩
    · rw [ho.closed v hv] at hopen
      cases hopen
    · exact Or.inr hv
    · refine Or.inl ⟨⟨hv, howner, hopen⟩, ?_⟩
      rintro rfl
      exact hne (handedIn v output now) (hupdated ▸ List.mem_singleton_self _) rfl
  · rintro (⟨⟨hfound, howner, hopen⟩, hne⟩ | hv)
    · refine ⟨hc.task?_of_kept (fun u hu huv => hne ?_) hfound, howner, hopen⟩
      rw [hupdated] at hu
      rw [List.mem_singleton.1 hu] at huv
      exact Option.some.inj (hfound.symm.trans (huv ▸ ht))
    · exact ⟨hc.task?_of_created ho.distinct hv, (hc.fresh v hv).1.trans hid, hopened v hv⟩

theorem openNodes_of_tasks {x y : Store} {ts : List Task} (ht : t ∈ x.openTasks id)
    (hts : ts.Nodup) (hfresh : ∀ v ∈ ts, v ∉ x.openTasks id)
    (h : ∀ v, v ∈ y.openTasks id ↔ v ∈ x.openTasks id ∧ v ≠ t ∨ v ∈ ts) :
    t.node ::ₘ y.openNodes id = x.openNodes id + (ts.map Task.node : List String) := by
  have hdisjoint : Disjoint ((x.openTasks id).erase t) ts.toFinset :=
    Finset.disjoint_left.2 fun v hv hnew =>
      hfresh v (List.mem_toFinset.1 hnew) (Finset.mem_of_mem_erase hv)
  have htasks : y.openTasks id = ((x.openTasks id).erase t).disjUnion ts.toFinset hdisjoint := by
    ext v
    rw [h v, Finset.mem_disjUnion, Finset.mem_erase, List.mem_toFinset, and_comm]
  have hval : (y.openTasks id).val = (x.openTasks id).val.erase t + (ts : Multiset Task) := by
    rw [htasks]
    change ((x.openTasks id).erase t).val + ts.toFinset.val = _
    rw [Finset.erase_val, List.toFinset_val, hts.dedup]
  rw [Store.openNodes, Store.openNodes, hval, Multiset.map_add, ← Multiset.cons_add,
    ← Multiset.map_cons Task.node, Multiset.cons_erase ht, Multiset.map_coe]

/-! ### The rest -/

/-- A definition whose tokens take the same ways whatever the variables are, with as many tasks created
at a node each time. -/
structure Plain (e : Engine) (d : Definition) (count : String → ℕ) : Prop where
  mints : e.registry.Mints
  steady : e.registry.Steady d count
  unguarded : d.Unguarded
  unhandled : d.Unhandled
  ordered : d.JoinsOrdered

/-- A session in which an instance waits where its definition in force has it wait. -/
structure Ready (e : Engine) (d : Definition) (id : Uuid) (x : Session) : Prop extends
    Descending e d id x where
  housed : Housed x.supply x.store
  fitting : Fitting d id x.store

theorem RunsOn.ready {s : Supply} {earlier later : List Request} (hd : Plain e d count)
    (h : RunsOn e s d id earlier later)
    (hdistinct : (history e s (earlier ++ later)).supply.Distinct) :
    Ready e d id (history e s (earlier ++ later)) :=
  ⟨h.descending, housed_history hd.mints.draws _, h.fitting hd.mints hd.unguarded hdistinct⟩

theorem Ready.complete (hd : Plain e d count) (hx : Ready e d id x) {taskId : Uuid}
    (hdistinct : (x.serve e (.complete taskId output)).supply.Distinct) :
    Ready e d id (x.serve e (.complete taskId output)) where
  toDescending := hx.toDescending.serve (fun _ hmem => by cases List.mem_singleton.1 hmem)
    (fun _ _ hstart => nomatch hstart)
  housed := housed_serve hd.mints.draws hx.sound hx.housed
  fitting := fitting_serve hd.mints hd.unguarded hx.toInForce hx.housed hdistinct hx.fitting

/-- How a completion lets the tokens of an instance come to rest. -/
structure Settles (d : Definition) (count : String → ℕ) (t : Task) (output : Variables) (store : Store)
    (i : Instance) (s : Step) : Prop where
  vars : s.record.vars = i.vars.union output
  /-- Where other tasks are open at the node no token moves. -/
  stays : ¬ store.Alone t → s.created = []
  steps : ∀ born, ReflTransGen (Net.Step d count) ((i.net born).letGoIf (store.Alone t) t.node)
    (s.net born)
  still : ∀ born, (s.net born).Still d

/-- What a completion leaves of the instance of its task. -/
structure Completed (d : Definition) (count : String → ℕ) (id : Uuid) (t : Task) (output : Variables)
    (x y : Store) (i : Instance) (s : Step) : Prop extends Settles d count t output x i s where
  stored : x.instance? id = some i
  active : i.isActive = true
  going : s.record.isActive = true
  written : y.instance? id = some { s.settled.commit.record with
    revision := s.settled.commit.record.revision + 1 }
  tasks : ∀ v, v ∈ y.openTasks id ↔ v ∈ x.openTasks id ∧ v ≠ t ∨ v ∈ s.created
  fresh : ∀ v ∈ s.created, v ∉ x.openTasks id
  nodes : t.node ::ₘ y.openNodes id = x.openNodes id + (s.created.map Task.node : List String)

/-- An instance that is active after a completion has what the step left. -/
theorem Completed.of_isActive {x y : Store} {i j : Instance} {s : Step}
    (h : Completed d count id t output x y i s) (hj : y.instance? id = some j)
    (hactive : j.isActive = true) : j.vars = s.record.vars ∧ j.spots = s.record.spots := by
  have hsame := Option.some.inj (hj.symm.trans h.written)
  rw [hsame] at hactive
  rw [hsame, Step.settled_of_isActive (s := s) hactive]
  exact ⟨rfl, rfl⟩

/-- Whether another task is alone at its node after a completion. -/
theorem Completed.alone_iff {x y : Store} {i : Instance} {s : Step} {u : Task}
    (h : Completed d count id t output x y i s) (hy : y.Sound) (hu : u ∈ x.openTasks id)
    (hne : t ≠ u) :
    y.Alone u ↔ (∀ v ∈ x.openTasks id, v ≠ t → v ≠ u → v.node ≠ u.node) ∧
      ∀ v ∈ s.created, v.node ≠ u.node := by
  rw [hy.alone_iff ((h.tasks u).2 (Or.inl ⟨hu, hne.symm⟩))]
  constructor
  · intro hall
    refine ⟨fun v hv hvt hvu => hall v ((h.tasks v).2 (Or.inl ⟨hv, hvt⟩)) hvu,
      fun v hv => hall v ((h.tasks v).2 (Or.inr hv)) ?_⟩
    rintro rfl
    exact h.fresh v hv hu
  · rintro ⟨hold, hnew⟩ v hv hvu
    rcases (h.tasks v).1 hv with ⟨hv, hvt⟩ | hv
    · exact hold v hv hvt hvu
    · exact hnew v hv

/-- A token that leaves the node of a completed task lets the net come to rest. -/
theorem advance_depart {d' : Definition} {i : Instance} {now : Time.Instant} {s : Step}
    {a a' : Ambient} {base : String → Prop} (hd : Plain e d count) (hgoes : d.GoesOn)
    (hsame : d'.anytime = d.anytime) (htask : d.IsTask t.node) (hspot : i.spots t.node = ⟨true, none⟩)
    (hfits : ((completion i t output now).depart t.node).record.Fits d
      (((completion i t output now).depart t.node).Busy base))
    (h : follow e (.walks d' [.leave t.node] ((completion i t output now).depart t.node)) a =
      (.ok s, a')) (born : Multiset String) :
    ReflTransGen (Net.Step d count) ((i.net born).letGo t.node) (s.net born) ∧
      (s.net born).Still d := by
  let x : Walk := ⟨0, [.leave t.node], (completion i t output now).depart t.node⟩
  have hx : x.Fits d' base := by
    refine ⟨hfits.of_anytime hsame.symm, fun n hn => ?_⟩
    cases List.mem_singleton.1 hn
    rw [Definition.ways_of_anytime hsame]
    exact ways_ne_nil_of_isTask hgoes htask
  have hnet : x.net born = (i.net born).letGo t.node := by
    refine Net.ext ?_ (add_zero _) rfl
    change ((completion i t output now).depart t.node).record.spots = _
    rw [spots_depart]
    change update i.spots t.node ⟨false, (i.spots t.node).arrivals⟩ = _
    rw [hspot]
    rfl
  obtain ⟨-, hsteps, hstill⟩ := advance_net (hd.unguarded.of_anytime hsame) (hgoes.of_anytime hsame)
    (hd.ordered.of_anytime hsame) (Registry.Steady.of_anytime hd.steady hsame) hx h born
  rw [hnet] at hsteps
  exact ⟨hsteps.lift (fun x => x) fun _ _ hstep => Net.Step.of_anytime hsame hstep,
    hstill.of_anytime hsame⟩

/-- How the step of a completion that is written opens. -/
theorem stepped_completion (hx : x.store.Sound) (ht : t ∈ x.store.openTasks id)
    (hc : x.Commits e (.complete t.id output)) :
    ∃ (st : Stepped e x (.complete t.id output) (completeOpening e t.id output)
        (x.serve e (.complete t.id output))) (i : Instance) (d : Definition) (now : Time.Instant),
      x.store.instance? id = some i ∧ i.isActive = true ∧ Resolves e x.world i.definitionId d ∧
        st.opens = if x.store.Alone t then
            .walks d [.leave t.node] ((completion i t output now).depart t.node)
          else .stays (completion i t output now) := by
  obtain ⟨hfound, rfl, -⟩ := hx.mem_openTasks.1 ht
  obtain ⟨st⟩ := stepped_of_commits (r := .complete t.id output) rfl hc
  obtain ⟨u, i, d, now, hu, -, hi, hactive, hresolves, hopens⟩ := completeOpening_ok st.run
  obtain rfl : u = t := Option.some.inj (hu.symm.trans hfound)
  refine ⟨st, i, d, now, hi, hactive, hresolves, hopens.trans ?_⟩
  change _ = if othersOpen u (x.world.store.tasksOf u.instanceId) = false then _ else _
  cases othersOpen u (x.world.store.tasksOf u.instanceId) <;> rfl

theorem settles_of_follow {d' : Definition} {i : Instance} {now : Time.Instant} {o : Opening}
    {s : Step} {a a' : Ambient} (hd : Plain e d count) (hx : Ready e d id x)
    (ht : t ∈ x.store.openTasks id) (hi : x.store.instance? id = some i) (hactive : i.isActive = true)
    (hsame : d'.anytime = d.anytime) (h : follow e o a = (.ok s, a'))
    (ho : o = if x.store.Alone t then
        .walks d' [.leave t.node] ((completion i t output now).depart t.node)
      else .stays (completion i t output now)) :
    Settles d count t output x.store i s := by
  have hname := hx.belongs i hi
  split at ho <;> rename_i hlast <;> subst ho
  · have hfit := hx.fitting i hi hname hactive
    obtain ⟨htask, hspot⟩ := hfit.spot (Store.busy_of_mem_openTasks ht)
    obtain ⟨-, rfl, -⟩ := hx.sound.mem_openTasks.1 ht
    have hnet := advance_depart hd hx.goesOn hsame htask hspot (fits_depart hx.sound hi hlast hfit) h
    refine ⟨advance_vars (hd.unhandled.of_anytime hsame) h, fun hothers => absurd hlast hothers,
      fun born => ?_, fun born => (hnet born).2⟩
    rw [Net.letGoIf, if_pos hlast]
    exact (hnet born).1
  · cases h
    refine ⟨rfl, fun _ => rfl, fun born => ?_,
      fun born => still_of_starvedJoin?_eq_none (hx.unstarved i hi hname hactive)⟩
    have hnet : (completion i t output now).net born = i.net born := Net.ext rfl (add_zero _) rfl
    rw [Net.letGoIf, if_neg hlast, hnet]

/-- A completion that succeeds comes to the rest of the net. -/
theorem completed_of_ok (hd : Plain e d count) (hx : Ready e d id x) (ht : t ∈ x.store.openTasks id)
    (hok : x.result e (.complete t.id output) = .ok ())
    (hdistinct : (x.serve e (.complete t.id output)).supply.Distinct) :
    ∃ i s, Completed d count id t output x.store (x.serve e (.complete t.id output)).store i s := by
  obtain ⟨hfound, -, -⟩ := hx.sound.mem_openTasks.1 ht
  obtain ⟨st, i, d', now, hi, hactive, hresolves, hopens⟩ :=
    stepped_completion hx.sound ht (Or.inl hok)
  have horderly := (st.opens_store rfl).orderly hx.sound (st.frame hd.mints) hdistinct
  have hsettles := settles_of_follow hd hx ht hi hactive
    (hx.anytime (hx.belongs i hi ▸ hresolves)) st.follow hopens
  have hmoved := follow_moved st.follow
  have hbegin : st.opens.step.record.id = i.id ∧ st.opens.step.record.isActive = i.isActive ∧
      st.opens.step.updated = [handedIn t output now] := by
    rw [hopens]
    split <;> exact ⟨rfl, rfl, rfl⟩
  have hid : st.step.settled.commit.record.id = id :=
    st.step.id_commit.trans (hmoved.id_eq.trans (hbegin.1.trans (hx.sound.instances hi)))
  have hupdated : st.step.settled.commit.updated = [handedIn t output now] :=
    st.step.updated_settled.trans (hmoved.updated.trans hbegin.2.2)
  have hmade : st.step.settled.commit.created = st.step.created := st.step.created_settled
  have hopened : ∀ v ∈ st.step.created, v.isOpen = true := by
    obtain ⟨ts, hcreated, -, hminted⟩ := (st.frame hd.mints).created
    rw [(st.opens_store rfl).created_eq, List.nil_append] at hcreated
    exact hcreated ▸ hminted.1
  have htasks := mem_openTasks_of_committed hx.sound (sound_serve hx.sound) st.committed horderly hid
    hupdated (hmade ▸ hopened) hfound
  rw [hmade] at htasks
  have hfresh : ∀ v ∈ st.step.created, v ∉ x.store.openTasks id := by
    intro v hv hold
    have hnone := (st.committed.fresh v (hmade ▸ hv)).2
    rw [(hx.sound.mem_openTasks.1 hold).1] at hnone
    cases hnone
  exact ⟨i, st.step, hsettles, hi, hactive, hmoved.isActive_eq.trans (hbegin.2.1.trans hactive),
    (st.committed.record _).trans (if_pos hid.symm), htasks, hfresh,
    openNodes_of_tasks ht (hmade ▸ horderly.distinct.of_map) hfresh htasks⟩

end Session

end Workflow
