import Workflow.Proofs.Confinement
import Workflow.Proofs.Effects

/-!
Where the tokens and tasks of an instance are. As long as a definition stays in force, whatever waits in
an instance that was started from it waits at a node that the start node leads to, and so do its tasks
(`whereabouts_serve`).
-/
namespace Workflow

open Engine Engine.Action Engine.Attempt

/-- Whether all that waits in an instance waits at certain nodes. -/
structure Instance.Within (R : String → Prop) (i : Instance) : Prop where
  listed : ∀ n, n ∈ i.currentNodes → R n
  arrived : ∀ n, i.joinArrivals.contains n = true → R n
  stuck : ∀ n, i.StuckAt n → R n

/-- An instance of a definition that was not there in an earlier store. -/
structure StartedSince (older : Store) (d : Definition) (store : Store) (i : Instance) : Prop where
  absent : older.instance? i.id = none
  stored : store.instance? i.id = some i
  belongs : i.definitionId = d.id

/-- Requests about instances of a definition that were not there in an earlier store. -/
inductive Request.About (older : Store) (d : Definition) (store : Store) : Request → Prop where
  | start (vars : Variables) : About older d store (.start d.id vars)
  | operation {r i} (hi : StartedSince older d store i) (hr : r.Concerns store i.id) :
    About older d store r
  | tick (tolerance : Time.Span) (now : Time.Instant) : About older d store (.tick tolerance now)

namespace Engine

/-! ### Walks -/

/-- The tokens that an opening lets move. -/
def Opening.queue : Opening → List Token
  | stays _ => []
  | walks _ queue _ => queue

/-- Whether all that an opening takes up is at certain nodes. -/
structure Opening.Within (R : String → Prop) (o : Opening) : Prop where
  record : o.step.record.Within R
  updated : ∀ t ∈ o.step.updated, R t.node
  queue : ∀ t ∈ o.queue, R t.node

variable {e : Engine} {d d' : Definition} {s s' : Step} {a a' : Ambient}

theorem Confined.within {g : Region d} {x : Walk} (hx : Confined g s x)
    (hs : s.record.Within g.left) : x.step.record.Within g.left := by
  refine ⟨fun n hn => ?_, fun n hn => ?_, fun n hn => ?_⟩ <;> by_contra hout <;>
    have hagrees := hx.outside n hout
  · exact hout (hs.listed n (hagrees.listed.1 hn))
  · exact hout (hs.arrived n (hagrees.arrived ▸ hn))
  · exact hout (hs.stuck n (hagrees.stuck.1 hn))

/-- Tokens that start from nodes behind the start node stay there, and no join elsewhere is released. -/
theorem fromStart_covers {queue : List Token} (hsame : d'.anytime = d.anytime)
    (ho : (Opening.walks d' queue s).Within d.FromStart) :
    s.record.Within (Region.fromStart d').left ∧ (∀ t ∈ queue, (Region.fromStart d').Allows t) ∧
      (Region.fromStart d').Covers s := by
  have hall : ∀ {n}, d.FromStart n → d'.FromStart n := Definition.fromStart_of_anytime hsame.symm
  refine ⟨⟨fun n hn => hall (ho.record.listed n hn), fun n hn => hall (ho.record.arrived n hn),
    fun n hn => hall (ho.record.stuck n hn)⟩, fun t ht => ?_,
    Region.covers_of_listed fun n hn => hall (ho.record.listed n hn)⟩
  have hnode := hall (ho.queue t ht)
  cases t <;> exact hnode

/-- Where a step comes to rest that took up what is behind the start node. -/
theorem follow_within {o : Opening} (ho : o.Within d.FromStart)
    (hsame : ∀ d' queue s, o = .walks d' queue s → d'.anytime = d.anytime)
    (hcreated : o.step.created = []) (h : follow e o a = (.ok s', a')) :
    s'.record.Within d.FromStart ∧ ∀ t ∈ s'.created, d.FromStart t.node := by
  cases o with
  | stays s =>
    cases h
    refine ⟨ho.record, fun t ht => ?_⟩
    exact absurd (hcreated ▸ ht) List.not_mem_nil
  | walks d' queue s =>
    have hsame := hsame d' queue s rfl
    have hback : ∀ {n}, d'.FromStart n → d.FromStart n := Definition.fromStart_of_anytime hsame
    obtain ⟨hwithin, hqueue, hcovers⟩ := fromStart_covers hsame ho
    obtain ⟨⟨y, hy, rfl⟩, -⟩ := advance_confined hqueue hcovers h
    obtain ⟨hlisted, harrived, hstuck⟩ := hy.within hwithin
    refine ⟨⟨fun n hn => hback (hlisted n hn), fun n hn => hback (harrived n hn),
      fun n hn => hback (hstuck n hn)⟩, fun t ht => ?_⟩
    rcases hy.created t ht with hold | hentered
    · rw [show s.created = [] from hcreated] at hold
      cases hold
    · exact hback hentered

end Engine

namespace Session

variable {e : Engine} {x y : Session} {r : Request} {d : Definition} {older : Store}

/-! ### Instances and the ids drawn for them -/

/-- The ids of the instances in the store have been drawn, and tasks belong to instances. -/
structure Housed (supply : Supply) (store : Store) : Prop where
  drawn : ∀ {id i}, store.instance? id = some i → ∃ p, p < supply.drawn ∧ supply.ids p = id
  housed : ∀ {id t}, store.task? id = some t → ∃ i, store.instance? t.instanceId = some i

namespace Housed

variable {supply supply' : Supply} {store store' : Store} {id : Uuid}

theorem grows (h : Housed supply store) (hs : supply.Grows supply') : Housed supply' store := by
  refine ⟨fun hi => ?_, h.housed⟩
  obtain ⟨p, hp, rfl⟩ := h.drawn hi
  exact ⟨p, Nat.lt_of_lt_of_le hp hs.drawn, by rw [hs.ids]⟩

theorem rewrites (h : Housed supply store) (hw : store.Rewrites id store')
    (hid : ∃ p, p < supply.drawn ∧ supply.ids p = id) : Housed supply store' := by
  obtain ⟨i, hi, -⟩ := hw.record
  refine ⟨fun {id' j} hj => ?_, fun {key t} ht => ?_⟩
  · by_cases hsame : id' = id
    · exact hsame ▸ hid
    · rw [hw.instances id' hsame] at hj
      exact h.drawn hj
  · by_cases howner : t.instanceId = id
    · exact ⟨i, howner ▸ hi⟩
    · rw [hw.instances _ howner]
      by_cases hsame : store'.task? key = store.task? key
      · exact h.housed (hsame ▸ ht)
      · obtain ⟨-, u, hu, hown⟩ := hw.tasks key hsame
        rw [Option.some.inj (ht.symm.trans hu)] at howner
        exact absurd hown howner

theorem change (h : Housed supply store) (hc : Change store store') (hs : store.Sound) :
    Housed supply store' := by
  cases hc with
  | defines d => exact ⟨h.drawn, h.housed⟩
  | @sets id i now vars hi hactive =>
    have hexpects : store.Expects { i with vars := i.vars.union vars, updatedAt := now } :=
      hs.toKeyed.expects hi rfl rfl
    refine h.rewrites hexpects.rewrites ?_
    have hdrawn := h.drawn hi
    rwa [← hs.instances hi] at hdrawn
  | @closes _ id i now ending hi hactive hcommitted =>
    refine h.rewrites (hcommitted.rewrites (orderly_closing hs hi).owner) ?_
    have hdrawn := h.drawn hi
    rwa [← hs.instances hi] at hdrawn

end Housed

/-- The supply in which a step is written has drawn the ids that its opening drew. -/
theorem Stepped.grows {opening : Action Opening} (hdraws : e.registry.Draws)
    (st : Stepped e x r opening y) : st.before.supply.Grows y.supply := by
  have hfollow := (regular_follow hdraws st.opens st.before).1
  rw [st.follow] at hfollow
  rwa [st.supply]

/-- A step that was started has the next id of the supply. -/
theorem Stepped.id_start {name : String} {vars : Variables} (hdraws : e.registry.Draws)
    (st : Stepped e x (.start name vars) (startOpening e name vars) y) :
    st.step.record.id = x.supply.ids x.supply.drawn ∧ x.supply.drawn < y.supply.drawn := by
  obtain ⟨d, start, now, -, -, hdrawn, hopens⟩ := startOpening_ok st.run
  refine ⟨?_, Nat.lt_of_lt_of_le hdrawn (st.grows hdraws).drawn⟩
  rw [(follow_moved st.follow).id_eq, hopens]
  rfl

/-- The id of a step that is written has been drawn. -/
theorem Stepped.drawn {opening : Action Opening} (hdraws : e.registry.Draws) (hs : x.store.Sound)
    (h : Housed x.supply x.store) (hgrows : x.supply.Grows y.supply) (hr : r.opening? e = some opening)
    (st : Stepped e x r opening y) :
    ∃ p, p < y.supply.drawn ∧ y.supply.ids p = st.step.record.id := by
  by_cases hstart : ∃ name vars, r = .start name vars
  · obtain ⟨name, vars, rfl⟩ := hstart
    cases hr
    obtain ⟨hid, hlt⟩ := st.id_start hdraws
    exact ⟨x.supply.drawn, hlt, by rw [hid, hgrows.ids]⟩
  · obtain ⟨i, hi, -⟩ := st.known hr hs fun name vars h => hstart ⟨name, vars, h⟩
    obtain ⟨p, hp, hsame⟩ := (h.grows hgrows).drawn hi
    exact ⟨p, hp, hsame.trans (follow_moved st.follow).id_eq.symm⟩

theorem housed_serve (hdraws : e.registry.Draws) (hs : x.store.Sound)
    (h : Housed x.supply x.store) : Housed (x.serve e r).supply (x.serve e r).store := by
  have hgrows := grows_serve hdraws x r
  cases hr : r.opening? e with
  | none =>
    exact ((changes_keep (P := Housed x.supply) (serve_changes (x := x) hr)
      (fun hchange hs h => h.change hchange hs) hs h).2).grows hgrows
  | some opening =>
    rcases serve_stepping (x := x) hr with hsame | ⟨⟨st⟩⟩
    · exact (hsame ▸ h).grows hgrows
    · refine (h.grows hgrows).rewrites (st.committed.rewrites fun t ht => st.closes_own hr hs ht) ?_
      rw [st.step.id_commit]
      exact st.drawn hdraws hs h hgrows hr

theorem housed_history (hdraws : e.registry.Draws) {s : Supply} (rs : List Request) :
    Housed (history e s rs).supply (history e s rs).store := by
  induction rs using List.reverseRecOn with
  | nil => exact ⟨(fun hi => nomatch hi), (fun ht => nomatch ht)⟩
  | append_singleton rs r ih =>
    rw [history_concat]
    exact housed_serve hdraws (sound_history rs) ih

/-! ### From request to request -/

/-- All that waits in instances of a definition that were started since an earlier session, and all
their tasks, are behind its start node. -/
def Whereabouts (older : Store) (d : Definition) (store : Store) : Prop :=
  ∀ i, StartedSince older d store i →
    i.Within d.FromStart ∧ ∀ t ∈ store.tasksOf i.id, d.FromStart t.node

section Openings

variable {o : Opening} {w : World} {a a' : Ambient} {i : Instance}

theorem startOpening_within {vars : Variables} (hx : InForce e d x)
    (h : Action.run x.world a (startOpening e d.id vars) = ((.ok o, a'), w)) :
    o.Within d.FromStart ∧ o.step.record.definitionId = d.id := by
  obtain ⟨d', start', now, hd, hstart, -, rfl⟩ := startOpening_ok h
  have hsame := hx.anytime hd
  refine ⟨⟨⟨?_, ?_, ?_⟩, ?_, ?_⟩, Definition.id_of_anytime hsame⟩
  · exact fun n hn => absurd hn (NameSet.not_mem_empty n)
  · exact fun n hn => nomatch hn
  · exact fun n hn => nomatch hn.choose_spec.1
  · exact fun t ht => nomatch ht
  · intro t ht
    rw [List.mem_singleton.1 ht]
    exact Definition.fromStart_of_anytime hsame ⟨start', hstart, .refl⟩

theorem completeOpening_within {taskId : Uuid} {output : Variables} (hx : InForce e d x)
    (hwhere : Whereabouts older d x.store) (hi : StartedSince older d x.store i)
    (howns : ∀ t, x.store.task? taskId = some t → t.instanceId = i.id)
    (h : Action.run x.world a (completeOpening e taskId output) = ((.ok o, a'), w)) :
    o.Within d.FromStart ∧ o.step.record.definitionId = d.id := by
  obtain ⟨hwithin, htasks⟩ := hwhere i hi
  obtain ⟨t, j, d', now, ht, -, hj, -, -, hopens⟩ := completeOpening_ok h
  have howner : t.instanceId = i.id := howns t ht
  obtain rfl : j = i := Option.some.inj (hj.symm.trans (howner ▸ hi.stored))
  have hnode : d.FromStart t.node := by
    refine htasks t (hx.sound.mem_tasksOf.2 ⟨?_, howner⟩)
    rwa [hx.sound.tasks ht]
  have hupdated : ∀ u ∈ (completion j t output now).updated, d.FromStart u.node := by
    intro u hu
    rw [List.mem_singleton.1 hu]
    exact hnode
  split at hopens <;> subst hopens
  · exact ⟨⟨⟨hwithin.listed, hwithin.arrived, hwithin.stuck⟩, hupdated,
      fun u hu => nomatch hu⟩, hi.belongs⟩
  · refine ⟨⟨⟨fun n hn => ?_, hwithin.arrived, hwithin.stuck⟩, hupdated, fun u hu => ?_⟩,
      hi.belongs⟩
    · exact hwithin.listed n (NameSet.mem_erase.1 hn).2
    · rw [List.mem_singleton.1 hu]
      exact hnode

theorem retryOpening_within (hwhere : Whereabouts older d x.store)
    (hi : StartedSince older d x.store i)
    (h : Action.run x.world a (retryOpening e i.id) = ((.ok o, a'), w)) :
    o.Within d.FromStart ∧ o.step.record.definitionId = d.id := by
  obtain ⟨hwithin, -⟩ := hwhere i hi
  obtain ⟨j, f, d', now, hj, -, hf, -, rfl⟩ := retryOpening_ok h
  obtain rfl : j = i := Option.some.inj (hj.symm.trans hi.stored)
  rw [pickUp_eq]
  refine ⟨⟨⟨fun n hn => ?_, hwithin.arrived, (fun n hn => nomatch hn.choose_spec.1)⟩,
    (fun u hu => nomatch hu), fun u hu => ?_⟩, hi.belongs⟩
  · exact hwithin.listed n (mem_foldl_erase.1 hn).2
  · obtain ⟨n, hn, rfl⟩ := List.mem_map.1 hu
    exact hwithin.stuck n ⟨f, hf, hn⟩

/-- What the opening of a request about such an instance takes up. -/
theorem opening_within {opening : Action Opening} (hx : InForce e d x)
    (hwhere : Whereabouts older d x.store) (hr : r.opening? e = some opening)
    (habout : r.About older d x.store)
    (h : Action.run x.world a opening = ((.ok o, a'), w)) :
    o.Within d.FromStart ∧ o.step.record.definitionId = d.id := by
  cases habout with
  | start vars =>
    cases hr
    exact startOpening_within hx h
  | @operation _ i hi hconcerns =>
    cases r with
    | complete taskId output =>
      cases hr
      exact completeOpening_within hx hwhere hi hconcerns h
    | retry id =>
      cases hr
      cases hconcerns
      exact retryOpening_within hwhere hi h
    | start name vars => exact hconcerns.elim
    | deploy d => cases hr
    | updateVariables id vars => cases hr
    | terminate id => cases hr
    | tick tolerance now => cases hr
  | tick tolerance now => cases hr

end Openings

/-- A step of an instance that was started from the definition is one of a request about it. -/
theorem about_of_stepped {opening : Action Opening} (hx : InForce e d x)
    (hr : r.opening? e = some opening) (st : Stepped e x r opening y)
    (hnew : older.instance? st.step.record.id = none)
    (hname : st.step.record.definitionId = d.id) : r.About older d x.store := by
  have hmoved := follow_moved st.follow
  rw [hmoved.id_eq] at hnew
  rw [hmoved.definitionId_eq] at hname
  have hrun := st.run
  generalize st.opens = o at hrun hnew hname
  cases r with
  | start name vars =>
    cases hr
    obtain ⟨d', start, now, hd, -, -, rfl⟩ := startOpening_ok hrun
    have hid : d'.id = d.id := hname
    rw [hx.faithful.id_of_resolves hd] at hid
    exact hid ▸ .start vars
  | complete taskId output =>
    cases hr
    obtain ⟨t, i, d', now, ht, -, hi, -, -, hopens⟩ := completeOpening_ok hrun
    have hrecord : o.step.record.id = i.id ∧ o.step.record.definitionId = i.definitionId := by
      rw [hopens]
      split <;> exact ⟨rfl, rfl⟩
    have howner : i.id = t.instanceId := hx.sound.instances hi
    refine .operation (i := i) ⟨hrecord.1 ▸ hnew, howner ▸ hi, hrecord.2 ▸ hname⟩ fun u hu => ?_
    rw [Option.some.inj (hu.symm.trans ht), howner]
  | retry id =>
    cases hr
    obtain ⟨i, f, d', now, hi, -, -, -, rfl⟩ := retryOpening_ok hrun
    rw [pickUp_eq] at hnew hname
    have hid : i.id = id := hx.sound.instances hi
    exact .operation (i := i) ⟨hnew, hid ▸ hi, hname⟩ hid.symm
  | deploy d => cases hr
  | updateVariables id vars => cases hr
  | terminate id => cases hr
  | tick tolerance now => cases hr

theorem Change.exists_task {store store' : Store} {id : Uuid} {t : Task} (h : Change store store')
    (hs : store.Sound) (ht : store'.task? id = some t) :
    ∃ u, store.task? id = some u ∧ u.instanceId = t.instanceId ∧ u.node = t.node := by
  cases h with
  | defines d => exact ⟨t, ht, rfl, rfl⟩
  | sets vars hi hactive => exact ⟨t, ht, rfl, rfl⟩
  | @closes _ id' i now ending hi hactive hcommitted =>
    rcases hcommitted.task?_cases ht with ⟨hmem, rfl⟩ | ⟨hmem, -⟩ | ⟨hold, -⟩
    · obtain ⟨u, hu, rfl⟩ := List.mem_map.1 hmem
      exact ⟨u, (hs.mem_tasksOf.1 (List.mem_filter.1 hu).1).1, rfl, rfl⟩
    · cases hmem
    · exact ⟨t, hold, rfl, rfl⟩

theorem whereabouts_of_change {store store' : Store} (h : Change store store') (hs : store.Sound)
    (hwhere : Whereabouts older d store) : Whereabouts older d store' := by
  intro j hj
  obtain ⟨i, hi, hstill⟩ := h.still hs hj.stored
  have hid : i.id = j.id := hs.instances hi
  obtain ⟨⟨hlisted, harrived, hstuck⟩, htasks⟩ := hwhere i
    ⟨hid ▸ hj.absent, hid ▸ hi, hstill.definitionId.symm.trans hj.belongs⟩
  refine ⟨⟨fun n hn => hlisted n (hstill.currentNodes ▸ hn), fun n hn => ?_, fun n hn => ?_⟩,
    fun t ht => ?_⟩
  · rcases hstill.joinArrivals with ⟨hsame, -⟩ | ⟨hnone, -⟩
    · exact harrived n (hsame ▸ hn)
    · rw [hnone] at hn
      cases hn
  · refine hstuck n ?_
    rwa [Instance.StuckAt, ← hstill.failure]
  · obtain ⟨ht, howner⟩ := (h.sound hs).mem_tasksOf.1 ht
    obtain ⟨u, hu, hsame, hnode⟩ := h.exists_task hs ht
    rw [← hnode]
    refine htasks u (hs.mem_tasksOf.2 ⟨?_, hsame.trans (howner.trans hid.symm)⟩)
    rwa [hs.tasks hu]

/-- A step that was started belongs to no stored instance, as no id was drawn twice. -/
theorem Stepped.absent_of_start {name : String} {vars : Variables} (hdraws : e.registry.Draws)
    (hhoused : Housed x.supply x.store) (hgrows : x.supply.Grows y.supply)
    (st : Stepped e x (.start name vars) (startOpening e name vars) y) (hd : y.supply.Distinct) :
    x.store.instance? st.step.record.id = none := by
  obtain ⟨hid, hlt⟩ := st.id_start hdraws
  rw [hid, Option.eq_none_iff_forall_ne_some]
  intro i hi
  obtain ⟨p, hp, hsame⟩ := hhoused.drawn hi
  rw [← hgrows.ids] at hsame
  exact Nat.ne_of_lt hp (hd p x.supply.drawn (Nat.lt_trans hp hlt) hlt hsame)

theorem Step.within_settled {R : String → Prop} {s : Step} (h : s.record.Within R) :
    s.settled.record.Within R := by
  unfold Step.settled
  split
  · exact ⟨h.listed, (fun n hn => nomatch hn), h.stuck⟩
  · exact h

/-- What a request about an instance writes is behind the start node, and so is what its instance had. -/
theorem within_of_stepped {opening : Action Opening} (hdraws : e.registry.Draws) (hx : InForce e d x)
    (hhoused : Housed x.supply x.store) (hgrows : x.supply.Grows y.supply)
    (hd : y.supply.Distinct) (hwhere : Whereabouts older d x.store)
    (hr : r.opening? e = some opening) (st : Stepped e x r opening y)
    (hnew : older.instance? st.step.record.id = none)
    (hname : st.step.record.definitionId = d.id) :
    st.step.record.Within d.FromStart ∧ (∀ t ∈ st.step.created, d.FromStart t.node) ∧
      (∀ t ∈ st.step.updated, d.FromStart t.node) ∧
      ∀ t ∈ x.store.tasksOf st.step.record.id, d.FromStart t.node := by
  have hmoved := follow_moved st.follow
  obtain ⟨hopens, hopening⟩ := opening_within hx hwhere hr (about_of_stepped hx hr st hnew hname) st.run
  obtain ⟨hrecord, hcreated⟩ := follow_within hopens (fun d' queue s hwalks => by
    have hresolves := resolves_of_opening hx.faithful hr (hwalks ▸ st.run)
    rw [hwalks] at hopening
    exact hx.anytime (hopening ▸ hresolves)) (st.opens_store hr).created_eq st.follow
  refine ⟨hrecord, hcreated, fun t ht => hopens.updated t (hmoved.updated ▸ ht), fun t ht => ?_⟩
  by_cases hstart : ∃ name vars, r = .start name vars
  · obtain ⟨name, vars, rfl⟩ := hstart
    cases hr
    -- no task is older than its instance
    obtain ⟨ht, howner⟩ := hx.sound.mem_tasksOf.1 ht
    obtain ⟨i, hi⟩ := hhoused.housed ht
    rw [howner, st.absent_of_start hdraws hhoused hgrows hd] at hi
    cases hi
  · obtain ⟨i, hi, hknown⟩ := st.known hr hx.sound fun name vars h => hstart ⟨name, vars, h⟩
    have hsame : st.opens.step.record.definitionId = i.definitionId := by rw [hknown]
    have hid : i.id = st.opens.step.record.id := hx.sound.instances hi
    refine (hwhere i ⟨?_, hid ▸ hi, hsame.symm.trans hopening⟩).2 t ?_
    · rw [hid, ← hmoved.id_eq, hnew]
    · rwa [hid, ← hmoved.id_eq]

/-- An instance keeps to what is behind the start node as long as its definition is in force. -/
theorem whereabouts_serve (hdraws : e.registry.Draws) (hx : InForce e d x)
    (hhoused : Housed x.supply x.store) (hd : (x.serve e r).supply.Distinct)
    (hwhere : Whereabouts older d x.store) : Whereabouts older d (x.serve e r).store := by
  cases hr : r.opening? e with
  | none =>
    exact (changes_keep (P := Whereabouts older d) (serve_changes (x := x) hr)
      (fun hchange hs hw => whereabouts_of_change hchange hs hw) hx.sound hwhere).2
  | some opening =>
    rcases serve_stepping (x := x) hr with hsame | ⟨⟨st⟩⟩
    · rwa [hsame]
    intro j hj
    by_cases hid : j.id = st.step.record.id
    · have hj' := record_of_committed st.committed (hid ▸ hj.stored)
      have hname : st.step.record.definitionId = d.id := by
        rw [← hj.belongs, hj']
        change _ = st.step.settled.record.definitionId
        rw [st.step.record_settled]
      obtain ⟨hwithin, hcreated, hupdated, hold⟩ := within_of_stepped hdraws hx hhoused
        (grows_serve hdraws x r) hd hwhere hr st (hid ▸ hj.absent) hname
      obtain ⟨hlisted, harrived, hstuck⟩ := Step.within_settled hwithin
      refine ⟨by rw [hj']; exact ⟨hlisted, harrived, hstuck⟩, fun t ht => ?_⟩
      obtain ⟨ht, howner⟩ := (sound_serve hx.sound).mem_tasksOf.1 ht
      rcases st.committed.task?_cases ht with ⟨hmem, -⟩ | ⟨hmem, -⟩ | ⟨hkept, -⟩
      · exact hupdated t (st.step.updated_settled ▸ hmem)
      · exact hcreated t (st.step.created_settled ▸ hmem)
      · exact hold t (hx.sound.mem_tasksOf.2 ⟨hkept, howner.trans hid⟩)
    · -- the step is one of another instance
      have hstored := hj.stored
      rw [instance?_of_committed st.committed hid] at hstored
      obtain ⟨hwithin, htasks⟩ := hwhere j ⟨hj.absent, hstored, hj.belongs⟩
      refine ⟨hwithin, fun t ht => ?_⟩
      obtain ⟨ht, howner⟩ := (sound_serve hx.sound).mem_tasksOf.1 ht
      rcases st.committed.task?_cases ht with ⟨hmem, -⟩ | ⟨hmem, -⟩ | ⟨hold, -⟩
      · exact absurd (howner.symm.trans ((st.closes_own hr hx.sound hmem).1.trans st.step.id_commit)) hid
      · exact absurd (howner.symm.trans ((st.committed.fresh t hmem).1.trans st.step.id_commit)) hid
      · exact htasks t (hx.sound.mem_tasksOf.2 ⟨hold, howner⟩)

end Session

end Workflow
