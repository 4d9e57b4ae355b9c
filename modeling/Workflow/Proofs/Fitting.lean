import Workflow.Proofs.Confluence
import Workflow.Proofs.Descent
import Workflow.Proofs.Whereabouts

/-!
What waits in the instances of a definition without guards. As long as the definition is in force, an
active instance of it counts tokens at joins only, has tasks open at task nodes that it lists, and has
no token that is stuck (`fitting_serve`).
-/
namespace Workflow

open Relation
open Engine Engine.Action

/-- What fits goes on to fit where no token moved and no task was opened. -/
theorem Instance.Fits.congr {d : Definition} {busy busy' : String → Prop} {i j : Instance}
    (h : i.Fits d busy) (hnodes : j.currentNodes = i.currentNodes)
    (harrivals : j.joinArrivals = i.joinArrivals) (hfailure : j.failure = i.failure)
    (hbusy : ∀ n, busy' n → busy n) : j.Fits d busy' where
  joins n hn := h.joins n (harrivals ▸ hn)
  tasks n hn := (h.tasks n (hbusy n hn)).imp_right fun hlisted => hnodes ▸ hlisted
  going := hfailure.trans h.going

theorem Instance.Fits.of_anytime {d d' : Definition} {busy : String → Prop} {i : Instance}
    (hsame : d'.anytime = d.anytime) (h : i.Fits d' busy) : i.Fits d busy where
  joins n hn := Definition.isJoin_of_anytime hsame (h.joins n hn)
  tasks n hn := (h.tasks n hn).imp_left (Definition.isTask_of_anytime hsame)
  going := h.going

/-- Where a task is open no tokens arrived at a join. -/
theorem Instance.Fits.spot {d : Definition} {busy : String → Prop} {i : Instance} {n : String}
    (h : i.Fits d busy) (hn : busy n) : d.IsTask n ∧ i.spots n = ⟨true, none⟩ := by
  obtain ⟨htask, hlisted⟩ := h.tasks n hn
  refine ⟨htask, Spot.mk.injEq .. ▸ ⟨hlisted, ?_⟩⟩
  rw [Option.eq_none_iff_forall_ne_some]
  intro k hk
  exact htask.ne_of_isJoin (h.joins n (by rw [Dict.contains, hk]; rfl)) rfl

theorem Store.busy_of_mem_openTasks {s : Store} {id : Uuid} {t : Task} (h : t ∈ s.openTasks id) :
    s.Busy id t.node := by
  rw [openTasks, List.mem_toFinset, List.mem_filter] at h
  exact ⟨t, h.1, h.2, rfl⟩

namespace Session

variable {e : Engine} {d d' : Definition} {x y : Session} {r : Request} {id : Uuid}
  {store store' : Store} {i : Instance} {t : Task} {n : String} {output : Variables}
  {now : Time.Instant}

/-- As long as an instance of the definition is active, all that waits in it fits. -/
def Fitting (d : Definition) (id : Uuid) (store : Store) : Prop :=
  ∀ i, store.instance? id = some i → i.definitionId = d.id → i.isActive = true →
    i.Fits d (store.Busy id)

theorem Older.busy {updated : List Task} (h : Older store id updated n) : store.Busy id n := by
  obtain ⟨t, ht, -, hopen, hnode⟩ := h
  exact ⟨t, ht, hopen, hnode⟩

/-- Once the last task of a node is completed, none is open there. -/
theorem not_older_of_last (hs : store.Sound) (hi : store.instance? t.instanceId = some i)
    (hlast : othersOpen t (store.tasksOf t.instanceId) = false) :
    ¬ Older store i.id (completion i t output now).updated t.node := by
  rintro ⟨u, hu, hout, hopen, hnode⟩
  have hne : u.id ≠ t.id := fun hid =>
    hout (handedIn t output now) (List.mem_singleton_self _) hid.symm
  rw [show i.id = t.instanceId from hs.instances hi] at hu
  have hother : othersOpen t (store.tasksOf t.instanceId) = true :=
    List.any_eq_true.2 ⟨u, hu, by simp [hne, hnode, hopen]⟩
  rw [hlast] at hother
  cases hother

theorem fits_completion (hs : store.Sound) (hi : store.instance? t.instanceId = some i)
    (hfits : i.Fits d (store.Busy t.instanceId)) :
    (completion i t output now).record.Fits d
      ((completion i t output now).Busy (Older store i.id (completion i t output now).updated)) := by
  refine hfits.congr rfl rfl rfl fun n hn => ?_
  rcases hn with holder | ⟨u, hu, -⟩
  · rw [← hs.instances hi]
    exact holder.busy
  · cases hu

/-- What fits goes on to fit when the last task of a node is completed. -/
theorem fits_depart (hs : store.Sound) (hi : store.instance? t.instanceId = some i)
    (hlast : othersOpen t (store.tasksOf t.instanceId) = false)
    (hfits : i.Fits d (store.Busy t.instanceId)) :
    ((completion i t output now).depart t.node).record.Fits d
      (((completion i t output now).depart t.node).Busy
        (Older store i.id (completion i t output now).updated)) := by
  have hcompletion : (completion i t output now).record.Fits d _ := fits_completion hs hi hfits
  refine ⟨hcompletion.joins, fun n hn => ?_, hcompletion.going⟩
  obtain ⟨htask, hlisted⟩ := hcompletion.tasks n hn
  refine ⟨htask, NameSet.mem_erase.2 ⟨?_, hlisted⟩⟩
  rintro rfl
  rcases hn with holder | ⟨u, hu, -⟩
  · exact not_older_of_last hs hi hlast holder
  · cases hu

theorem fitting_of_change (h : Change store store') (hs : store.Sound)
    (hfits : Fitting d id store) : Fitting d id store' := by
  intro i hi hname hactive
  cases h with
  | defines d => exact hfits i hi hname hactive
  | @sets id' j now vars hj hactive' =>
    rw [Store.instance?_putInstance] at hi
    split at hi
    · rename_i hid
      cases hi
      have hjid : j.id = id' := hs.instances hj
      have hold := hfits j (by rw [hid, hjid]; exact hj) hname hactive'
      exact hold.congr rfl rfl rfl fun n hn => hn
    · exact hfits i hi hname hactive
  | @closes _ id' j now ending hj hactive' hcommitted =>
    rw [hcommitted.record] at hi
    split at hi
    · cases hi
      cases ending <;> cases hactive
    · rename_i hne
      refine (hfits i hi hname hactive).congr rfl rfl rfl fun n hn => ?_
      exact (hcommitted.busy_iff_of_ne (orderly_closing hs hj) hs hne).1 hn

/-- A definition in force lets every token that is not at an end go on. -/
theorem InForce.goesOn (hx : InForce e d x) : d.GoesOn :=
  Definition.goesOn_of_check (hx.faithful.checked hx.stored)

theorem ways_ne_nil_of_isTask (hd : d.GoesOn) (hn : d.IsTask n) : d.ways n ≠ [] := by
  obtain ⟨m, assignees, handler, reminder, hm, hkind⟩ := hn
  exact hd n m hm (by rw [hkind]; rfl)

/-- Whether what an opening takes up fits the definition, and its tokens can go on. -/
structure OpensFitting (d : Definition) (store : Store) (o : Opening) : Prop where
  record : o.step.record.Fits d (o.step.Busy (Older store o.step.record.id o.step.updated))
  queue : ∀ n, .leave n ∈ o.queue → d.ways n ≠ []

theorem opensFitting_of_run {opening : Action Opening} {o : Opening} {w : World} {a a' : Ambient}
    (hx : InForce e d x) (hhoused : Housed x.supply x.store)
    (hfits : Fitting d o.step.record.id x.store) (hr : r.opening? e = some opening)
    (hrun : Action.run x.world a opening = ((.ok o, a'), w))
    (hname : o.step.record.definitionId = d.id)
    (hnew : ∀ name vars, r = .start name vars → x.store.instance? o.step.record.id = none) :
    OpensFitting d x.store o := by
  cases r with
  | start name vars =>
    cases hr
    obtain ⟨d', start, now, -, -, -, rfl⟩ := startOpening_ok hrun
    refine ⟨⟨(fun n hn => nomatch hn), fun n hn => ?_, rfl⟩, fun n hn => ?_⟩
    · -- nobody has a task of an instance that is not there
      rcases hn with ⟨t, ht, -⟩ | ⟨t, ht, -⟩
      · obtain ⟨htask, howner⟩ := hx.sound.mem_tasksOf.1 ht
        obtain ⟨i, hi⟩ := hhoused.housed htask
        rw [howner] at hi
        cases (hnew name vars rfl).symm.trans hi
      · cases ht
    · cases List.mem_singleton.1 hn
  | complete taskId output =>
    cases hr
    obtain ⟨t, i, d', now, ht, hopen, hi, hactive, -, hopens⟩ := completeOpening_ok hrun
    have hiid : i.id = t.instanceId := hx.sound.instances hi
    split at hopens <;> rename_i hothers <;> subst hopens
    · have hold : i.Fits d (x.store.Busy i.id) := hfits i (hiid ▸ hi) hname hactive
      rw [hiid] at hold
      exact ⟨fits_completion hx.sound hi hold, fun n hn => nomatch hn⟩
    · have hold : i.Fits d (x.store.Busy i.id) := hfits i (hiid ▸ hi) hname hactive
      rw [hiid] at hold
      refine ⟨fits_depart hx.sound hi (Bool.eq_false_of_not_eq_true hothers) hold, fun n hn => ?_⟩
      cases List.mem_singleton.1 hn
      refine ways_ne_nil_of_isTask hx.goesOn (hold.tasks t.node ⟨t, ?_, hopen, rfl⟩).1
      exact hx.sound.mem_tasksOf.2 ⟨by rwa [hx.sound.tasks ht], rfl⟩
  | retry id =>
    -- there is nothing to take up again where no token got stuck
    cases hr
    obtain ⟨i, f, d', now, hi, hactive, hf, -, rfl⟩ := retryOpening_ok hrun
    rw [pickUp_eq] at hfits hname
    have hold := hfits i (show x.store.instance? i.id = some i from (hx.sound.instances hi).symm ▸ hi)
      hname hactive
    cases hf.symm.trans hold.going
  | deploy d => cases hr
  | updateVariables id vars => cases hr
  | terminate id => cases hr
  | tick tolerance now => cases hr

/-- What comes of an opening that fits the definition fits it too. -/
theorem follow_fits {o : Opening} {s : Step} {a a' : Ambient} (hd : d.Unguarded) (hgoes : d.GoesOn)
    (ho : OpensFitting d store o)
    (hsame : ∀ d' queue s, o = .walks d' queue s → d'.anytime = d.anytime)
    (h : follow e o a = (.ok s, a')) :
    s.record.Fits d (s.Busy (Older store s.record.id s.updated)) := by
  have hmoved := follow_moved h
  rw [hmoved.id_eq, hmoved.updated]
  cases o with
  | stays s =>
    cases h
    exact ho.record
  | walks d' queue s₀ =>
    have hsame := hsame d' queue s₀ rfl
    have hbegin : Walk.Fits d' (Older store s₀.record.id s₀.updated) ⟨0, queue, s₀⟩ :=
      ⟨ho.record.of_anytime hsame.symm, fun n hn => Definition.ways_of_anytime hsame ▸ ho.queue n hn⟩
    obtain ⟨y, hy, -, -, rfl⟩ := advance_keeps
      (P := fun _ y => y.Fits d' (Older store s₀.record.id s₀.updated))
      (fun hmove hP => hmove.fits (hd.of_anytime hsame) (hgoes.of_anytime hsame) hP) hbegin h
    exact hy.record.of_anytime hsame

theorem fitting_of_stepped {opening : Action Opening} (hm : e.registry.Mints) (hd : d.Unguarded)
    (hx : InForce e d x) (hhoused : Housed x.supply x.store) (hgrows : x.supply.Grows y.supply)
    (hdistinct : y.supply.Distinct) (hr : r.opening? e = some opening)
    (st : Stepped e x r opening y) (hfits : Fitting d id x.store) : Fitting d id y.store := by
  intro i hi hname hactive
  have horderly := (st.opens_store hr).orderly hx.sound (st.frame hm) hdistinct
  by_cases hid : id = st.step.record.id
  · subst hid
    obtain ⟨rfl, hactive', -⟩ := active_of_committed st.committed hi hactive
    have hmoved := follow_moved st.follow
    have hname' : st.opens.step.record.definitionId = d.id := hmoved.definitionId_eq.symm.trans hname
    have hopens : OpensFitting d x.store st.opens := by
      refine opensFitting_of_run hx hhoused (hmoved.id_eq ▸ hfits) hr st.run hname' ?_
      rintro name vars rfl
      cases hr
      exact hmoved.id_eq ▸ st.absent_of_start hm.draws hhoused hgrows hdistinct
    have hstep := follow_fits hd hx.goesOn hopens (fun d' queue s hwalks => by
      have hresolves := resolves_of_opening hx.faithful hr (hwalks ▸ st.run)
      rw [hwalks] at hname'
      exact hx.anytime (hname' ▸ hresolves)) st.follow
    exact hstep.congr rfl rfl rfl fun n hn => (busy_of_committed hx.sound horderly st.committed n).1 hn
  · rw [instance?_of_committed st.committed hid] at hi
    refine (hfits i hi hname hactive).congr rfl rfl rfl fun n hn => ?_
    exact (st.committed.busy_iff_of_ne horderly hx.sound
      (fun h => hid (h.trans st.step.id_commit))).1 hn

/-- What waits in an active instance goes on to fit as long as its definition is in force. -/
theorem fitting_serve (hm : e.registry.Mints) (hd : d.Unguarded) (hx : InForce e d x)
    (hhoused : Housed x.supply x.store) (hdistinct : (x.serve e r).supply.Distinct)
    (hfits : Fitting d id x.store) : Fitting d id (x.serve e r).store := by
  cases hr : r.opening? e with
  | none =>
    exact (changes_keep (P := Fitting d id) (serve_changes (x := x) hr)
      (fun hchange hs hfits => fitting_of_change hchange hs hfits) hx.sound hfits).2
  | some opening =>
    rcases serve_stepping (x := x) hr with hsame | ⟨⟨st⟩⟩
    · rwa [hsame]
    · exact fitting_of_stepped hm hd hx hhoused (grows_serve hm.draws x r) hdistinct hr st hfits

/-- All that waits in an instance that was started under a definition without guards fits. -/
theorem RunsOn.fitting {s : Supply} {earlier later : List Request} (hm : e.registry.Mints)
    (hd : d.Unguarded) (h : RunsOn e s d id earlier later)
    (hdistinct : (history e s (earlier ++ later)).supply.Distinct) :
    Fitting d id (history e s (earlier ++ later)).store := by
  obtain ⟨-, -, hfits⟩ := InForce.induction (e := e) (s := s) (d := d)
    (P := fun x => Housed x.supply x.store ∧ (x.supply.Distinct → Fitting d id x.store))
    (fun {x r} hx hP => ⟨housed_serve hm.draws hx.sound hP.1, fun hdistinct =>
      fitting_serve hm hd hx hP.1 hdistinct (hP.2 (hdistinct.of_grows (grows_serve hm.draws x r)))⟩)
    h.stored h.stands
    ⟨housed_history hm.draws _, fun _ i hi => by rw [h.absent] at hi; cases hi⟩
  exact hfits hdistinct

end Session

end Workflow
