import Mathlib.Data.Multiset.DershowitzManna
import Mathlib.Data.Set.Finite.Basic
import Workflow.Proofs.Confinement

/-!
Completions go down. No join of an instance starves between two requests (`unstarved_history`), so that
only joins behind the node of a task are released when the task is completed, and all that is created
lies behind that node (`descends_of_commits`). Where there are no cycles, completions come to an end.
-/
namespace Workflow

open Relation
open Engine Engine.Action

/-! ### Open tasks -/

/-- The open tasks of an instance. -/
def Store.openTasks (s : Store) (id : Uuid) : Finset Task :=
  ((s.tasksOf id).filter Task.isOpen).toFinset

theorem Store.Sound.mem_openTasks {s : Store} {id : Uuid} {t : Task} (hs : s.Sound) :
    t ∈ s.openTasks id ↔ s.task? t.id = some t ∧ t.instanceId = id ∧ t.isOpen = true := by
  rw [Store.openTasks, List.mem_toFinset, List.mem_filter, hs.mem_tasksOf, and_assoc]

namespace Definition

variable {d : Definition} {ts us : Finset Task} {t : Task}

/-- The heights of the nodes where tasks are. -/
noncomputable def heights (d : Definition) (ts : Finset Task) : Multiset ℕ :=
  ts.val.map fun t => d.height t.node

theorem heights_eq_add (h : us ⊆ ts) : d.heights ts = d.heights us + d.heights (ts \ us) := by
  rw [heights, heights, heights, ← Multiset.map_add, Finset.sdiff_val,
    add_tsub_cancel_of_le (Finset.val_le_iff.2 h)]

/-- Fewer tasks are lower, or the same. -/
theorem heights_of_subset (h : us ⊆ ts) : d.heights us = d.heights ts ∨
    Multiset.IsDershowitzMannaLT (d.heights us) (d.heights ts) := by
  by_cases hsame : ts \ us = ∅
  · rw [h.antisymm (Finset.sdiff_eq_empty_iff_subset.1 hsame)]
    exact Or.inl rfl
  · refine Or.inr ⟨d.heights us, 0, d.heights (ts \ us), ?_, (add_zero _).symm, heights_eq_add h,
      by simp⟩
    rwa [heights, Ne, Multiset.empty_eq_zero, Multiset.map_eq_zero, Finset.val_eq_zero]

/-- With one task gone and others behind it instead, tasks are lower. -/
theorem Acyclic.heights_lt (hd : d.Acyclic) (ht : t ∈ ts) (hkept : ts.erase t ⊆ us)
    (hnew : ∀ u ∈ us, u ∉ ts.erase t → d.Downstream t.node u.node) :
    Multiset.IsDershowitzMannaLT (d.heights us) (d.heights ts) := by
  refine ⟨d.heights (ts.erase t), d.heights (us \ ts.erase t), d.heights {t}, ?_,
    heights_eq_add hkept, ?_, fun m hm => ?_⟩
  · simp [heights]
  · rw [heights_eq_add (Finset.erase_subset t ts), Finset.sdiff_erase_self ht]
  · obtain ⟨u, hu, rfl⟩ := Multiset.mem_map.1 hm
    obtain ⟨hu, hout⟩ := Finset.mem_sdiff.1 hu
    exact ⟨d.height t.node, by simp [heights], hd.height_lt (hnew u hu hout)⟩

end Definition

/-- What goes down or stays goes down finitely often. -/
theorem finite_of_falls {α : Type} {r : α → α → Prop} (hr : WellFounded r) {m : ℕ → α}
    (hm : ∀ k, m (k + 1) = m k ∨ r (m (k + 1)) (m k)) : {k | r (m (k + 1)) (m k)}.Finite := by
  have hfrom : ∀ a k, m k = a → {j | k ≤ j ∧ r (m (j + 1)) (m j)}.Finite := by
    -- on the value that the sequence has reached; what it falls to is lower
    intro a
    induction a using hr.induction with
    | _ a ih =>
      intro k hk
      by_cases hfalls : ∃ j, k ≤ j ∧ r (m (j + 1)) (m j)
      · -- up to the first fall nothing changes
        classical
        obtain ⟨hle, hfall⟩ := Nat.find_spec hfalls
        have hfirst := fun i hi => Nat.find_min hfalls (m := i) hi
        generalize Nat.find hfalls = j at hle hfall hfirst
        have hsame : ∀ i, k ≤ i → i ≤ j → m i = a := by
          intro i hi
          induction i, hi using Nat.le_induction with
          | base => exact fun _ => hk
          | succ i hi ih' =>
            intro hij
            have hstill := (hm i).resolve_right fun hfall' => hfirst i hij ⟨hi, hfall'⟩
            rw [hstill, ih' (Nat.le_of_succ_le hij)]
        have hrest := ih (m (j + 1)) (hsame j hle (Nat.le_refl j) ▸ hfall) (j + 1) rfl
        refine (hrest.insert j).subset fun i hi => ?_
        rcases Nat.lt_trichotomy i j with hlt | heq | hgt
        · exact absurd hi (hfirst i hlt)
        · exact Or.inl heq
        · exact Or.inr ⟨hgt, hi.2⟩
      · exact Set.finite_empty.subset fun j hj => hfalls ⟨j, hj⟩
  exact (hfrom _ 0 rfl).subset fun k hk => ⟨Nat.zero_le k, hk⟩

namespace Session

variable {e : Engine} {x : Session} {r : Request} {d : Definition} {id : Uuid}

/-! ### Between two requests -/

/-- No join of an instance of a definition starves as long as the instance is active. -/
def Unstarved (d : Definition) (id : Uuid) (store : Store) : Prop :=
  ∀ i, store.instance? id = some i → i.definitionId = d.id → i.isActive = true →
    starvedJoin? d i = none

theorem unstarved_of_change {store store' : Store} (h : Change store store') (hs : store.Sound)
    (hfed : Unstarved d id store) : Unstarved d id store' := by
  intro j hj hname hactive
  obtain ⟨i, hi, hstill⟩ := h.still hs hj
  rcases hstill.joinArrivals with ⟨harrivals, hstate⟩ | ⟨-, hended⟩
  · have hstarved := hfed i hi (hstill.definitionId.symm.trans hname) (hstate.symm.trans hactive)
    rwa [starvedJoin?_congr hstill.currentNodes harrivals]
  · rw [hended] at hactive
    cases hactive

theorem unstarved_of_stepped {opening : Action Opening} {y : Session} (hx : InForce e d x)
    (hr : r.opening? e = some opening) (st : Stepped e x r opening y)
    (hfed : Unstarved d id x.store) : Unstarved d id y.store := by
  intro i hi hname hactive
  obtain ⟨o, before, world, s, after, hrun, hfollow, hcommitted, -⟩ := st
  have hopens := opens_of_run hr hrun
  by_cases hid : id = s.record.id
  · subst hid
    obtain ⟨rfl, hactive', -⟩ := active_of_committed hcommitted hi hactive
    change starvedJoin? d s.record = none
    have hmoved := follow_moved hfollow
    have hname' : o.step.record.definitionId = d.id := hmoved.definitionId_eq.symm.trans hname
    cases o with
    | stays s₀ =>
      -- where other tasks are open no token moves
      cases hfollow
      cases hopens with
      | @stays _ t j output now _ ht hopen hj hactive'' hothers =>
        have hjid : j.id = t.instanceId := hx.sound.instances hj
        rw [show (completion j t output now).record.id = t.instanceId from hjid] at hfed
        exact hfed j hj hname' hactive''
    | walks d' queue s₀ =>
      -- a walk does not end while a join starves
      have hsame := hx.anytime (hname' ▸ resolves_of_opening hx.faithful hr hrun)
      obtain ⟨y, -, -, hstarved, rfl⟩ := advance_keeps (P := fun _ _ => True)
        (fun _ _ => trivial) trivial hfollow
      rwa [Definition.starvedJoin?_of_anytime hsame] at hstarved
  · rw [instance?_of_committed hcommitted hid] at hi
    exact hfed i hi hname hactive

theorem unstarved_serve (hx : InForce e d x) (hfed : Unstarved d id x.store) :
    Unstarved d id (x.serve e r).store := by
  cases hr : r.opening? e with
  | none =>
    have hchanges := serve_changes (x := x) hr
    exact (changes_keep hchanges unstarved_of_change hx.sound hfed).2
  | some opening =>
    rcases serve_stepping (x := x) hr with hsame | ⟨⟨st⟩⟩
    · rwa [hsame]
    · exact unstarved_of_stepped hx hr st hfed

/-! ### One completion -/

/-- Whether a request writes its step: it succeeds, or tells of a token that found no way out. -/
def Commits (e : Engine) (x : Session) (r : Request) : Prop :=
  x.result e r = .ok () ∨ ∃ id n, x.result e r = .error (.routing id n)

theorem stepped_of_commits {opening : Action Opening} (hr : r.opening? e = some opening)
    (h : x.Commits e r) : Nonempty (Stepped e x r opening (x.serve e r)) := by
  rcases serve_result (x := x) hr with ⟨⟨err, hresult, hunwritten⟩, -⟩ | ⟨st, -⟩
  · rcases h with hok | ⟨id, n, hrouting⟩
    · rw [hresult] at hok
      cases hok
    · rw [hresult] at hrouting
      exact absurd (Except.error.inj hrouting) (hunwritten.not_routing hr id n)
  · exact ⟨st⟩

/-- A task is closed, all others stay as they are, and what is new lies behind its node. -/
structure Descends (d : Definition) (t : Task) (store store' : Store) : Prop where
  opened : store.task? t.id = some t ∧ t.isOpen = true
  closed : ∃ u, store'.task? t.id = some u ∧ u.isOpen = false
  kept : ∀ id u, id ≠ t.id → store.task? id = some u → store'.task? id = some u
  created : ∀ id u, store.task? id = none → store'.task? id = some u →
    u.instanceId = t.instanceId ∧ d.Downstream t.node u.node

/-- Once the last task of a node is completed, its token creates tasks behind the node only. -/
theorem created_behind {d' : Definition} {i : Instance} {t : Task} {output : Variables}
    {now : Time.Instant} {s : Step} {a a' : Ambient} (hsame : d'.anytime = d.anytime)
    (hi : starvedJoin? d i = none)
    (h : follow e (.walks d' [.leave t.node] ((completion i t output now).depart t.node)) a =
      (.ok s, a')) {u : Task} (hu : u ∈ s.created) : d.Downstream t.node u.node := by
  have hcovers : (Region.below d' t.node).Covers ((completion i t output now).depart t.node) := by
    refine Region.below_covers (i := i) ((Definition.starvedJoin?_of_anytime hsame i).trans hi) fun n hn => ?_
    have hne : n ≠ t.node := fun hnt => hn (hnt ▸ .refl)
    exact ⟨NameSet.mem_erase.trans (and_iff_right hne), rfl, Iff.rfl⟩
  obtain ⟨⟨y, hy, rfl⟩, -⟩ := advance_confined
    (fun token htoken => List.mem_singleton.1 htoken ▸ ReflTransGen.refl) hcovers h
  rcases hy.created u hu with hnone | hentered
  · cases hnone
  · change TransGen d'.Leads t.node u.node at hentered
    rwa [Definition.leads_of_anytime hsame] at hentered

theorem descends_of_commits {taskId : Uuid} {output : Variables} {t : Task} (hx : InForce e d x)
    (hfed : Unstarved d t.instanceId x.store)
    (hname : ∀ i, x.store.instance? t.instanceId = some i → i.definitionId = d.id)
    (ht : x.store.task? taskId = some t) (hc : x.Commits e (.complete taskId output)) :
    Descends d t x.store (x.serve e (.complete taskId output)).store := by
  obtain ⟨o, before, world, s, after, hrun, hfollow, hcommitted, -⟩ := stepped_of_commits rfl hc
  obtain ⟨t', i, d', now, ht', hopen, hi, hactive, hd', hopens⟩ := completeOpening_ok hrun
  obtain rfl : t' = t := Option.some.inj (ht'.symm.trans ht)
  have hid : t'.id = taskId := hx.sound.tasks ht
  have hiid : i.id = t'.instanceId := hx.sound.instances hi
  have hsame : d'.anytime = d.anytime := hx.anytime (hname i hi ▸ hd')
  have hstarved : starvedJoin? d i = none := hfed i hi (hname i hi) hactive
  have hmoved := follow_moved hfollow
  have hcreated : ∀ u ∈ s.created, d.Downstream t'.node u.node := by
    intro u hu
    split at hopens
    · subst hopens
      cases hfollow
      cases hu
    · subst hopens
      exact created_behind hsame hstarved hfollow hu
  have hbegin : o.step.record.id = i.id ∧ o.step.updated = [handedIn t' output now] := by
    rw [hopens]
    split <;> exact ⟨rfl, rfl⟩
  have hupdated : s.settled.commit.updated = [handedIn t' output now] := by
    rw [← hbegin.2, ← hmoved.updated, ← s.updated_settled]
    rfl
  have howner : s.settled.commit.record.id = t'.instanceId := by
    rw [← hiid, ← hbegin.1, ← hmoved.id_eq, ← s.id_settled]
    rfl
  have hmade : s.settled.commit.created = s.created := s.created_settled
  refine ⟨⟨hid ▸ ht, hopen⟩, ?_, fun key u hne hu => ?_, fun key u hnone hu => ?_⟩
  · rcases hcommitted.tasks t'.id with ⟨u, hu, -, hsome⟩ | ⟨hne, -⟩
    · rw [hupdated] at hu
      rw [List.mem_singleton.1 hu] at hsome
      exact ⟨_, hsome, rfl⟩
    · exact absurd rfl (hne (handedIn t' output now) (hupdated ▸ List.mem_singleton_self _))
  · refine hcommitted.task?_of_kept (fun v hv hvid => hne ?_) hu
    rw [hupdated] at hv
    rw [← hvid, List.mem_singleton.1 hv]
    rfl
  · rcases hcommitted.task?_cases hu with ⟨hmem, hkey⟩ | ⟨hmem, -⟩ | ⟨hold, -⟩
    · rw [hupdated] at hmem
      rw [← hkey, List.mem_singleton.1 hmem, show (handedIn t' output now).id = taskId from hid,
        ht] at hnone
      cases hnone
    · exact ⟨(hcommitted.fresh u hmem).1.trans howner, hcreated u (hmade ▸ hmem)⟩
    · rw [hnone] at hold
      cases hold

/-! ### Whose step a request writes -/

/-- Whether a request is to write a step of an instance. -/
def Steps (x : Session) (id : Uuid) : Request → Prop
  | .start _ _ => x.supply.fresh.1 = id
  | .complete taskId _ => ∃ t, x.store.task? taskId = some t ∧ t.instanceId = id
  | .retry id' => id' = id
  | _ => False

theorem steps_of_stepped {opening : Action Opening} {y : Session} (hs : x.store.Sound)
    (hr : r.opening? e = some opening) (st : Stepped e x r opening y) :
    x.Steps st.step.record.id r := by
  obtain ⟨o, before, world, s, after, hrun, hfollow, -, -⟩ := st
  change x.Steps s.record.id r
  rw [(follow_moved hfollow).id_eq]
  cases r with
  | start name vars =>
    cases hr
    obtain ⟨d, start, now, -, -, -, rfl⟩ := startOpening_ok hrun
    rfl
  | complete taskId output =>
    cases hr
    obtain ⟨t, i, d, now, ht, -, hi, -, -, rfl⟩ := completeOpening_ok hrun
    refine ⟨t, ht, (hs.instances hi).symm.trans ?_⟩
    split <;> rfl
  | retry id' =>
    cases hr
    obtain ⟨i, f, d, now, hi, -, -, -, rfl⟩ := retryOpening_ok hrun
    rw [pickUp_eq]
    exact (hs.instances hi).symm
  | deploy d => cases hr
  | updateVariables id vars => cases hr
  | terminate id => cases hr
  | tick tolerance now => cases hr

/-- An instance stays with its definition, unless another one is started under its id. -/
theorem definitionId_serve {n : String} (hs : x.store.Sound)
    (hstart : ∀ name vars, r = .start name vars → x.supply.fresh.1 ≠ id)
    (hname : ∀ i, x.store.instance? id = some i → i.definitionId = n) :
    ∀ i, (x.serve e r).store.instance? id = some i → i.definitionId = n := by
  intro j hj
  rcases serve_origin hs hj with ⟨i, hi, hsame⟩ | ⟨name, vars, rfl, st, rfl⟩
  · exact hsame.definitionId.trans (hname i hi)
  · exact absurd (steps_of_stepped hs rfl st) (hstart name vars rfl)

/-! ### All completions -/

theorem openTasks_of_change {store store' : Store} (h : Change store store') (hs : store.Sound) :
    store'.openTasks id ⊆ store.openTasks id := by
  have hs' := h.sound hs
  cases h with
  | defines d => exact Finset.Subset.refl _
  | sets vars hi hactive => exact Finset.Subset.refl _
  | closes ending hi hactive hcommitted =>
    intro t ht
    obtain ⟨hfound, howner, hopen⟩ := hs'.mem_openTasks.1 ht
    rcases hcommitted.task?_cases hfound with ⟨hmem, -⟩ | ⟨hmem, -⟩ | ⟨hold, -⟩
    · rw [(orderly_closing hs hi).closed t hmem] at hopen
      cases hopen
    · cases hmem
    · exact hs.mem_openTasks.2 ⟨hold, howner, hopen⟩

/-- A request that writes no step of an instance opens no tasks of it. -/
theorem openTasks_serve (hs : x.store.Sound) (h : ¬ (x.Steps id r ∧ x.Commits e r)) :
    (x.serve e r).store.openTasks id ⊆ x.store.openTasks id := by
  cases hr : r.opening? e with
  | none =>
    exact (changes_keep (P := fun store => store.openTasks id ⊆ x.store.openTasks id)
      (serve_changes (x := x) hr)
      (fun hchange hs hsub => (openTasks_of_change hchange hs).trans hsub) hs
      (Finset.Subset.refl _)).2
  | some opening =>
    rcases serve_result (x := x) hr with ⟨-, hsame⟩ | ⟨st, hresult⟩
    · rw [hsame]
    have hcommits : x.Commits e r := by
      rw [Commits, hresult]
      exact st.step.report_eq.imp_right fun ⟨n, _, hn⟩ => ⟨_, n, hn⟩
    have hother : st.step.record.id ≠ id := fun hid =>
      h ⟨hid ▸ steps_of_stepped hs hr st, hcommits⟩
    intro t ht
    obtain ⟨hfound, howner, hopen⟩ := (sound_serve hs).mem_openTasks.1 ht
    rcases st.committed.task?_cases hfound with ⟨hmem, -⟩ | ⟨hmem, -⟩ | ⟨hold, -⟩
    · have hclosed := ((st.opens_store hr).closes_own hs (follow_moved st.follow) hmem).1
      rw [hclosed] at hopen
      cases hopen
    · have hid := (st.committed.fresh t hmem).1
      rw [howner, st.step.id_commit] at hid
      exact absurd hid.symm hother
    · exact hs.mem_openTasks.2 ⟨hold, howner, hopen⟩

theorem Descends.heights_lt {t : Task} {store store' : Store} (h : Descends d t store store')
    (hs : store.Sound) (hs' : store'.Sound) (hd : d.Acyclic) :
    Multiset.IsDershowitzMannaLT (d.heights (store'.openTasks t.instanceId))
      (d.heights (store.openTasks t.instanceId)) := by
  refine hd.heights_lt (hs.mem_openTasks.2 ⟨h.opened.1, rfl, h.opened.2⟩) (fun u hu => ?_)
    fun u hu hout => ?_
  · obtain ⟨hne, hu⟩ := Finset.mem_erase.1 hu
    obtain ⟨hfound, howner, hopen⟩ := hs.mem_openTasks.1 hu
    refine hs'.mem_openTasks.2 ⟨h.kept u.id u (fun hid => hne ?_) hfound, howner, hopen⟩
    exact Option.some.inj ((hid ▸ hfound).symm.trans h.opened.1)
  · obtain ⟨hfound, howner, hopen⟩ := hs'.mem_openTasks.1 hu
    cases hold : store.task? u.id with
    | none => exact (h.created u.id u hold hfound).2
    | some v =>
      by_cases hid : u.id = t.id
      · obtain ⟨w, hw, hclosed⟩ := h.closed
        rw [← hid, hfound] at hw
        rw [Option.some.inj hw, hclosed] at hopen
        cases hopen
      · -- an older task is still the same
        have hsame : v = u := Option.some.inj ((h.kept u.id v hid hold).symm.trans hfound)
        have hmem : u ∈ store.openTasks t.instanceId :=
          hs.mem_openTasks.2 ⟨hsame ▸ hold, howner, hopen⟩
        exact absurd (Finset.mem_erase.2 ⟨fun hut => hid (congrArg Task.id hut), hmem⟩) hout

/-- An instance that was started while a definition was in force that no other took the place of. -/
structure RunsOn (e : Engine) (s : Supply) (d : Definition) (id : Uuid)
    (earlier later : List Request) : Prop where
  stored : (history e s earlier).store.definition? d.id = some d
  absent : (history e s earlier).store.instance? id = none
  stands : d.Stands later
  belongs : ∀ i, (history e s (earlier ++ later)).store.instance? id = some i → i.definitionId = d.id

/-- A session in which an instance of a definition in force has no starving joins. -/
structure Descending (e : Engine) (d : Definition) (id : Uuid) (x : Session) : Prop extends
    InForce e d x where
  unstarved : Unstarved d id x.store
  belongs : ∀ i, x.store.instance? id = some i → i.definitionId = d.id

theorem RunsOn.descending {s : Supply} {earlier later : List Request}
    (h : RunsOn e s d id earlier later) : Descending e d id (history e s (earlier ++ later)) := by
  obtain ⟨hforce, hfed⟩ := InForce.induction (P := fun x => Unstarved d id x.store)
    (fun hx hfed => unstarved_serve hx hfed) h.stored h.stands
    (fun i hi => by rw [h.absent] at hi; cases hi)
  exact ⟨hforce, hfed, h.belongs⟩

theorem Descending.serve (hx : Descending e d id x) (hr : d.Stands [r])
    (hstart : ∀ name vars, r = .start name vars → x.supply.fresh.1 ≠ id) :
    Descending e d id (x.serve e r) :=
  ⟨hx.toInForce.serve hr, unstarved_serve hx.toInForce hx.unstarved,
    definitionId_serve hx.sound hstart hx.belongs⟩

/-- The sessions of an endless sequence of requests. -/
def along (e : Engine) (x : Session) (f : ℕ → Request) : ℕ → Session
  | 0 => x
  | k + 1 => (along e x f k).serve e (f k)

/-- Whether a request completes a task of an instance and is written. -/
def CompletesOne (e : Engine) (x : Session) (id : Uuid) (r : Request) : Prop :=
  x.Commits e r ∧ ∃ taskId output t, r = .complete taskId output ∧
    x.store.task? taskId = some t ∧ t.instanceId = id

theorem Descending.heights_lt (hx : Descending e d id x) (hd : d.Acyclic)
    (hr : x.CompletesOne e id r) :
    Multiset.IsDershowitzMannaLT (d.heights ((x.serve e r).store.openTasks id))
      (d.heights (x.store.openTasks id)) := by
  obtain ⟨hcommits, taskId, output, t, rfl, ht, rfl⟩ := hr
  exact (descends_of_commits hx.toInForce hx.unstarved hx.belongs ht hcommits).heights_lt hx.sound
    (sound_serve hx.sound) hd

/-- A completion that is written leaves open tasks behind the node of its task instead of the task
itself. Where a process has no cycles, there is thus no endless sequence of them on one instance, as
long as nobody retries and whatever else is asked meanwhile. -/
theorem completions_descend {s : Supply} {earlier later : List Request} (hd : d.Acyclic)
    (h : RunsOn e s d id earlier later) :
    (∀ taskId output t, (history e s (earlier ++ later)).store.task? taskId = some t →
      t.instanceId = id → (history e s (earlier ++ later)).Commits e (.complete taskId output) →
        Descends d t (history e s (earlier ++ later)).store
          ((history e s (earlier ++ later)).serve e (.complete taskId output)).store) ∧
    ∀ f : ℕ → Request, (∀ k, f k ≠ .retry id) → (∀ k, d.Stands [f k]) →
      (∀ k name vars, f k = .start name vars →
        (along e (history e s (earlier ++ later)) f k).supply.fresh.1 ≠ id) →
      {k | (along e (history e s (earlier ++ later)) f k).CompletesOne e id (f k)}.Finite := by
  have hx := h.descending
  generalize history e s (earlier ++ later) = x at hx ⊢
  constructor
  · rintro taskId output t ht rfl hcommits
    exact descends_of_commits hx.toInForce hx.unstarved hx.belongs ht hcommits
  · intro f hretry hstands hstart
    have hall : ∀ k, Descending e d id (along e x f k) := by
      intro k
      induction k with
      | zero => exact hx
      | succ k ih => exact ih.serve (hstands k) (hstart k)
    have hfalls := finite_of_falls Multiset.wellFounded_isDershowitzMannaLT
      (m := fun k => d.heights ((along e x f k).store.openTasks id)) fun k => by
        by_cases hone : (along e x f k).CompletesOne e id (f k)
        · exact Or.inr ((hall k).heights_lt hd hone)
        · refine Definition.heights_of_subset (openTasks_serve (hall k).sound ?_)
          rintro ⟨hsteps, hcommits⟩
          cases hf : f k with
          | start name vars =>
            rw [hf] at hsteps
            exact hstart k name vars hf hsteps
          | complete taskId output =>
            rw [hf] at hsteps
            obtain ⟨t, ht, howner⟩ := hsteps
            exact hone ⟨hcommits, taskId, output, t, hf, ht, howner⟩
          | retry id' =>
            rw [hf] at hsteps
            exact hretry k (hf.trans (congrArg Request.retry hsteps))
          | _ =>
            rw [hf] at hsteps
            exact hsteps.elim
    exact hfalls.subset fun k hk => (hall k).heights_lt hd hk

section Gathering

/-- Two tasks with a join between them, which waits for one token more than there is. -/
def gathering : Definition :=
  { id := "gathering", version := 1, name := none, description := none, reminder := none
    timeoutSeconds := none
    nodes := [
      ⟨"start", none, .start, none, [.plain "draft"]⟩,
      ⟨"draft", none, .task ["ann"] none none, none, [.plain "gather"]⟩,
      ⟨"gather", none, .join (some 2), none, [.plain "publish"]⟩,
      ⟨"publish", none, .task ["bob"] none none, none, [.plain "end"]⟩,
      ⟨"end", none, .stop, none, []⟩] }

theorem acyclic_gathering : gathering.Acyclic :=
  Definition.acyclic_of_rank
    (fun id => if id = "start" then 4 else if id = "draft" then 3 else if id = "gather" then 2
      else if id = "publish" then 1 else 0) (by decide)

theorem runsOn_gathering : RunsOn plainEngine countedIds gathering ⟨0⟩ [.deploy gathering]
    [.start "gathering" ∅] where
  stored := by cbv
  absent := by cbv
  stands d' hmem _ := by simp at hmem
  belongs i hi := by
    have hname : ((history plainEngine countedIds
        [.deploy gathering, .start "gathering" ∅]).store.instance? ⟨0⟩).map Instance.definitionId =
      some gathering.id := by cbv
    change (history plainEngine countedIds
      [.deploy gathering, .start "gathering" ∅]).store.instance? ⟨0⟩ = some i at hi
    rw [hi] at hname
    exact Option.some.inj hname

/-- The first completion releases the join, so that the second task is there. -/
theorem complete_gathering :
    (history plainEngine countedIds [.deploy gathering, .start "gathering" ∅]).result plainEngine
        (.complete ⟨1⟩ ∅) = .ok () ∧
      (((history plainEngine countedIds [.deploy gathering, .start "gathering" ∅]).serve plainEngine
        (.complete ⟨1⟩ ∅)).store.task? ⟨2⟩).map Task.node = some "publish" := by
  have hrun : (fun out : (Except EngineError Unit × Ambient) × World =>
      (out.1.1.isOk, (out.2.store.task? ⟨2⟩).map Task.node)) (Action.run
        (history plainEngine countedIds [.deploy gathering, .start "gathering" ∅]).world
        (history plainEngine countedIds [.deploy gathering, .start "gathering" ∅]).ambient
        (Request.perform plainEngine (.complete ⟨1⟩ ∅))) = (true, some "publish") := by
    simp only [history, List.foldl, serve, Request.perform, Engine.start, Engine.complete, carryOut]
    rw [follow_eq_followFor plainEngine 12]
    cbv
  obtain ⟨hok, hnode⟩ := Prod.mk.inj hrun
  refine ⟨?_, hnode⟩
  unfold result
  generalize Action.run _ _ _ = out at hok
  obtain ⟨⟨_ | _, a⟩, w⟩ := out
  · cases hok
  · rfl

/-- No order in which tasks are completed goes on for ever. -/
theorem completions_descend_gathering :
    gathering.Acyclic ∧
      RunsOn plainEngine countedIds gathering ⟨0⟩ [.deploy gathering] [.start "gathering" ∅] ∧
      (∃ t, t.node = "draft" ∧ Descends gathering t
        (history plainEngine countedIds [.deploy gathering, .start "gathering" ∅]).store
        ((history plainEngine countedIds [.deploy gathering, .start "gathering" ∅]).serve plainEngine
          (.complete ⟨1⟩ ∅)).store) ∧
      (((history plainEngine countedIds [.deploy gathering, .start "gathering" ∅]).serve plainEngine
        (.complete ⟨1⟩ ∅)).store.task? ⟨2⟩).map Task.node = some "publish" ∧
      ∀ order : ℕ → Uuid, {k | (along plainEngine
        (history plainEngine countedIds [.deploy gathering, .start "gathering" ∅])
        (fun k => .complete (order k) ∅) k).CompletesOne plainEngine ⟨0⟩
          (.complete (order k) ∅)}.Finite := by
  have hboth := completions_descend acyclic_gathering runsOn_gathering
  have htask : ((history plainEngine countedIds
      [.deploy gathering, .start "gathering" ∅]).store.task? ⟨1⟩).map
        (fun t => (t.node, t.instanceId)) = some ("draft", ⟨0⟩) := by cbv
  obtain ⟨t, ht, hsame⟩ := Option.map_eq_some_iff.1 htask
  obtain ⟨hnode, howner⟩ := Prod.mk.inj hsame
  refine ⟨acyclic_gathering, runsOn_gathering, ⟨t, hnode, ?_⟩, complete_gathering.2, fun order => ?_⟩
  · exact hboth.1 ⟨1⟩ ∅ t ht howner (Or.inl complete_gathering.1)
  · exact hboth.2 (fun k => .complete (order k) ∅) (by rintro _ ⟨⟩)
      (fun _ _ hmem => by cases List.mem_singleton.1 hmem) (by rintro _ _ _ ⟨⟩)

end Gathering

end Session

end Workflow
