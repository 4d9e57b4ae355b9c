import Mathlib
import Workflow.Proofs.Failures

/-!
Where the tokens of an instance wait, and that they do not wait for nothing. Every node that an active
instance lists has an open task, counted arrivals or a token stuck at it (`Justified`), and not all of
them are joins, because a walk does not end while a join starves (`Step.Live`).
-/
namespace Workflow

open Time (Instant)
open Engine Engine.Action

/-- Whether a token that found no way out waits at a node. -/
def Instance.StuckAt (i : Instance) (node : String) : Prop :=
  ∃ f, i.failure = some f ∧ node ∈ f.nodes

/-- Whether something waits at a node: an open task, tokens at a join, or a token that got stuck. -/
def Waits (busy : String → Prop) (i : Instance) (node : String) : Prop :=
  busy node ∨ i.joinArrivals.contains node = true ∨ i.StuckAt node

theorem Waits.imp {busy busy' : String → Prop} {i i' : Instance} {node : String}
    (h : Waits busy i node) (hbusy : busy node → busy' node)
    (harrived : i.joinArrivals.contains node = true → i'.joinArrivals.contains node = true)
    (hstuck : i.StuckAt node → i'.StuckAt node) : Waits busy' i' node := by
  rcases h with h | h | h
  · exact Or.inl (hbusy h)
  · exact Or.inr (Or.inl (harrived h))
  · exact Or.inr (Or.inr (hstuck h))

/-- Something waits at every node that the instance lists. -/
def Justified (busy : String → Prop) (i : Instance) : Prop :=
  ∀ n, n ∈ i.currentNodes → Waits busy i n

/-- At some node that the instance lists, there is a task to complete or a token to retry. -/
def Live (busy : String → Prop) (i : Instance) : Prop :=
  ∃ n, n ∈ i.currentNodes ∧ (busy n ∨ i.StuckAt n)

theorem Dict.contains_insert {κ α : Type} [Key κ] [DecidableEq κ] (d : Dict κ α) (k k' : κ) (a : α) :
    (d.insert k a).contains k' = (decide (k' = k) || d.contains k') := by
  rw [contains, get?_insert]
  by_cases h : k' = k <;> simp [h, contains]

theorem Dict.contains_erase {κ α : Type} [Key κ] [DecidableEq κ] (d : Dict κ α) (k k' : κ) :
    (d.erase k).contains k' = (!decide (k' = k) && d.contains k') := by
  rw [contains, get?_erase]
  by_cases h : k' = k <;> simp [h, contains]

namespace Engine

variable {e : Engine} {d : Definition} {n : Node} {s s' : Step} {base : String → Prop}
  {supply supply' : Supply}

/-! ### During a walk -/

/-- Whether an open task waits at a node, given the nodes where older ones do. -/
def Step.Busy (base : String → Prop) (s : Step) (node : String) : Prop :=
  base node ∨ ∃ t ∈ s.created, t.isOpen = true ∧ t.node = node

theorem mem_failureWith {node node' : String} {now : Instant} {f : Option Failure} :
    node' ∈ (Step.failureWith node now f).nodes ↔
      node' = node ∨ ∃ g, f = some g ∧ node' ∈ g.nodes := by
  have hearlier : (∃ g, f = some g ∧ node' ∈ g.nodes) ↔
      node' ∈ (f.map Failure.nodes).getD [] := by
    cases f <;> simp
  rw [hearlier]
  unfold Step.failureWith
  generalize (f.map Failure.nodes).getD [] = earlier
  by_cases hnode : node ∈ earlier
  · have hin : node' = node → node' ∈ earlier := fun h => h ▸ hnode
    simpa [hnode] using hin
  · simp [hnode, or_comm]

theorem stuckAt_flag {node : String} :
    (s.flag n.id).record.StuckAt node ↔ node = n.id ∨ s.record.StuckAt node := by
  unfold Instance.StuckAt
  rw [← @mem_failureWith n.id node s.now]
  constructor
  · rintro ⟨f, hf, hmem⟩
    cases hf
    exact hmem
  · exact fun hmem => ⟨_, rfl, hmem⟩

theorem Entry.justified {more : List Token} (hr : e.registry.Mints)
    (h : Entry e d n supply s s' more supply') (hs : Justified (s.Busy base) s.record) :
    Justified (s'.Busy base) s'.record := by
  cases h with
  | passes hk => exact hs
  | ends hk => exact hs
  | idles hk hh hts => exact hs
  | @parks _ _ _ _ _ ts _ hk hh hts hne hown =>
    intro m hm
    rcases NameSet.mem_insert.1 hm with rfl | hm
    · obtain ⟨t, rest, rfl⟩ := List.exists_cons_of_ne_nil hne
      have hopen := ((hr _ _ hh).mints hts).1 t (List.mem_cons_self ..)
      exact Or.inl (Or.inr ⟨t, by simp, hopen, (hown t (List.mem_cons_self ..)).2⟩)
    · apply (hs m hm).imp _ (fun h => h) fun h => h
      rintro (hbase | ⟨t, ht, hopen, hnode⟩)
      · exact Or.inl hbase
      · exact Or.inr ⟨t, List.mem_append_left _ ht, hopen, hnode⟩
  | fires hk hfull =>
    intro m hm
    obtain ⟨hne, hm⟩ := NameSet.mem_erase.1 hm
    refine (hs m hm).imp (fun h => h) (fun harrived => ?_) fun h => h
    change ((s.record.joinArrivals.insert _ _).erase _).contains m = true
    simp [Dict.contains_erase, Dict.contains_insert, hne, harrived]
  | gathers hk hshort =>
    intro m hm
    have harrivals : ∀ v, (s.record.joinArrivals.contains m = true ∨ m = n.id) →
        (s.record.joinArrivals.insert n.id v).contains m = true := by
      intro v h
      rcases h with h | h <;> simp [Dict.contains_insert, h]
    rcases NameSet.mem_insert.1 hm with rfl | hm
    · exact Or.inr (Or.inl (harrivals _ (Or.inr rfl)))
    · exact (hs m hm).imp (fun h => h) (fun h => harrivals _ (Or.inl h)) fun h => h

theorem justified_leave (targets : List String) (hs : Justified (s.Busy base) s.record) :
    Justified ((leave n targets s).Busy base) (leave n targets s).record := by
  unfold leave
  split
  · intro m hm
    rcases NameSet.mem_insert.1 hm with rfl | hm
    · exact Or.inr (Or.inr (stuckAt_flag.2 (Or.inl rfl)))
    · exact (hs m hm).imp (fun h => h) (fun h => h) fun h => stuckAt_flag.2 (Or.inr h)
  · exact hs

theorem justified_release (join : String) (hs : Justified (s.Busy base) s.record) :
    Justified ((s.release join).Busy base) (s.release join).record := by
  intro m hm
  obtain ⟨hne, hm⟩ := NameSet.mem_erase.1 hm
  refine (hs m hm).imp (fun h => h) (fun harrived => ?_) fun h => h
  change (s.record.joinArrivals.erase join).contains m = true
  simp [Dict.contains_erase, hne, harrived]

/-- A node that a move takes off the list loses all that waited there for the same reason, and what a
move adds is listed. -/
theorem Move.justified {x y : Walk} (hr : e.registry.Mints) (h : Move e d supply x supply' y)
    (hx : Justified (x.step.Busy base) x.step.record) :
    Justified (y.step.Busy base) y.step.record := by
  cases h with
  | enters hn hentry => exact hentry.justified hr hx
  | leaves hn htargets => exact justified_leave _ hx
  | releases hstarved => exact justified_release _ hx

/-- Where no join starves, an instance that lists nodes does not only list waiting joins. -/
theorem exists_live_of_starvedJoin?_eq_none {i : Instance} (h : starvedJoin? d i = none)
    (hi : i.currentNodes.isEmpty = false) :
    ∃ n, n ∈ i.currentNodes ∧ i.joinArrivals.contains n = false := by
  by_cases hlive : ∃ n, n ∈ i.currentNodes ∧ i.joinArrivals.contains n = false
  · exact hlive
  · have hjoin : ∀ n, n ∈ i.currentNodes → i.joinArrivals.contains n = true := fun n hn => by
      simpa using fun hne => hlive ⟨n, hn, hne⟩
    obtain ⟨n, hn⟩ : ∃ n, n ∈ i.currentNodes := by
      by_cases hsome : ∃ n, n ∈ i.currentNodes
      · exact hsome
      · rw [NameSet.isEmpty_iff.2 fun k hk => hsome ⟨k, hk⟩] at hi
        cases hi
    -- nothing that moves is left to reach a join, so that every waiting join starves
    have hnone : liveNodes i = [] := by
      refine List.filter_eq_nil_iff.2 fun m hm => ?_
      simp [isWaitingJoin, hjoin m (NameSet.mem_toList.1 hm)]
    have hstarved : n ∈ starvedJoins d i := by
      unfold starvedJoins waitingJoins
      rw [hnone]
      simp [isReachedBy, isWaitingJoin, hn, hjoin n hn]
    unfold starvedJoin? at h
    rw [Option.or_eq_none_iff] at h
    rw [List.head?_eq_none_iff.1 h.2] at hstarved
    cases hstarved

theorem Justified.live {busy : String → Prop} {i : Instance} (hj : Justified busy i)
    (h : starvedJoin? d i = none) (hi : i.currentNodes.isEmpty = false) : Live busy i := by
  obtain ⟨n, hn, hfree⟩ := exists_live_of_starvedJoin?_eq_none h hi
  rcases hj n hn with hbusy | harrived | hstuck
  · exact ⟨n, hn, Or.inl hbusy⟩
  · rw [hfree] at harrived
    cases harrived
  · exact ⟨n, hn, Or.inr hstuck⟩

/-- What waits at the listed nodes of an instance, and that not all of them are joins. -/
structure AtRest (busy : String → Prop) (i : Instance) : Prop where
  justified : Justified busy i
  live : Live busy i

theorem AtRest.congr {busy busy' : String → Prop} {i : Instance} (h : AtRest busy i)
    (hbusy : ∀ n, busy' n ↔ busy n) : AtRest busy' i := by
  obtain rfl : busy' = busy := by
    funext n
    exact propext (hbusy n)
  exact h

/-- A step comes to rest unless it leaves its instance without tokens. -/
theorem follow_atRest {o : Opening} {a a' : Ambient} (hr : e.registry.Mints)
    (h : follow e o a = (.ok s, a')) (ho : Justified (o.step.Busy base) o.step.record)
    (hlive : ∀ s, o = .stays s → Live (s.Busy base) s.record)
    (hs : s.record.currentNodes.isEmpty = false) : AtRest (s.Busy base) s.record := by
  cases o with
  | stays s₀ =>
    cases h
    exact ⟨ho, hlive _ rfl⟩
  | walks d queue s₀ =>
    obtain ⟨y, hy, -, hstarved, rfl⟩ := advance_keeps
      (P := fun _ x => Justified (x.step.Busy base) x.step.record)
      (fun hm hx => hm.justified hr hx) ho h
    exact ⟨hy, Justified.live hy hstarved hs⟩

end Engine

/-! ### From step to step -/

namespace Session

variable {e : Engine} {store : Store} {supply supply' : Supply} {o : Opening}

/-- Whether a task of an instance is open at a node that is not among the updated ones. -/
def Older (store : Store) (id : Uuid) (updated : List Task) (node : String) : Prop :=
  ∃ t ∈ store.tasksOf id, (∀ u ∈ updated, u.id ≠ t.id) ∧ t.isOpen = true ∧ t.node = node

/-- Every active instance of a store is at rest. -/
def Rests (store : Store) : Prop :=
  ∀ id i, store.instance? id = some i → i.isActive = true → AtRest (store.Busy id) i

theorem mem_foldl_erase {ns : List String} {s : NameSet} {n : String} :
    n ∈ ns.foldl NameSet.erase s ↔ n ∉ ns ∧ n ∈ s := by
  induction ns generalizing s with
  | nil => simp
  | cons m ns ih =>
    rw [List.foldl_cons, ih, NameSet.mem_erase, List.mem_cons, not_or]
    tauto

section Completion

variable {id : Uuid} {t : Task} {i : Instance} {n : String} (output : Variables) (now : Instant)

/-- A task that is open besides the completed one is older than the completion. -/
theorem older_of_ne {u : Task} (hs : store.Sound) (hi : store.instance? t.instanceId = some i)
    (hu : u ∈ store.tasksOf t.instanceId) (hne : u.id ≠ t.id) (hopen : u.isOpen = true) :
    Older store i.id (completion i t output now).updated u.node := by
  have hid : i.id = t.instanceId := hs.instances hi
  refine ⟨u, ?_, fun v hv => ?_, hopen, rfl⟩
  · rwa [hid]
  · obtain rfl : v = handedIn t output now := by
      simpa [completion, Step.update, Step.begin] using hv
    exact hne.symm

/-- Where others are open at the node of a completed task, and at every other node, what was busy
stays so. -/
theorem older_of_busy (hs : store.Sound) (ht : store.task? id = some t)
    (hi : store.instance? t.instanceId = some i)
    (hn : n = t.node → othersOpen t (store.tasksOf t.instanceId) = true)
    (h : store.Busy t.instanceId n) :
    Older store i.id (completion i t output now).updated n := by
  obtain ⟨u, hu, hopen, rfl⟩ := h
  by_cases hsame : u.id = t.id
  · have hut : u = t := by
      have hfound := (hs.mem_tasksOf.1 hu).1
      rw [hsame, hs.tasks ht, ht] at hfound
      exact (Option.some.inj hfound).symm
    have hothers := hn (congrArg Task.node hut)
    obtain ⟨v, hv, hother⟩ := List.any_eq_true.1 hothers
    simp only [Bool.and_eq_true, bne_iff_ne, ne_eq, beq_iff_eq] at hother
    rw [hut, ← hother.1.2]
    exact older_of_ne output now hs hi hv hother.1.1 hother.2
  · exact older_of_ne output now hs hi hu hsame hopen

end Completion

theorem Opens.justified (h : Opens e store supply o supply') (hs : store.Sound)
    (hrest : Rests store) :
    Justified (o.step.Busy (Older store o.step.record.id o.step.updated)) o.step.record := by
  cases h with
  | starts hstart hdrawn =>
    intro n hn
    exact absurd hn (NameSet.not_mem_empty n)
  | @stays id t i output now _ ht hopen hi hactive hothers =>
    intro n hn
    rcases (hrest _ _ hi hactive).justified n hn with hbusy | hrest
    · have holder := older_of_busy output now hs ht hi (fun _ => hothers) hbusy
      exact Or.inl (Or.inl holder)
    · exact Or.inr hrest
  | @leaves d id t i output now _ ht hopen hi hactive hlast =>
    intro n hn
    obtain ⟨hne, hn⟩ := NameSet.mem_erase.1 hn
    rcases (hrest _ _ hi hactive).justified n hn with hbusy | hrest
    · have holder := older_of_busy output now hs ht hi (fun h => absurd h hne) hbusy
      exact Or.inl (Or.inl holder)
    · exact Or.inr hrest
  | @retries d id i f now _ hi hactive hf =>
    rw [Opening.step, pickUp_eq]
    intro n hn
    obtain ⟨hout, hn⟩ := mem_foldl_erase.1 hn
    rcases (hrest _ _ hi hactive).justified n hn with ⟨t, ht, hopen, hnode⟩ | harrived | hstuck
    · have holder : Older store i.id [] n := by
        rw [hs.instances hi]
        exact ⟨t, ht, fun _ hu => absurd hu List.not_mem_nil, hopen, hnode⟩
      exact Or.inl (Or.inl holder)
    · exact Or.inr (Or.inl harrived)
    · -- the nodes of the failure are the ones that are no longer listed
      obtain ⟨g, hg, hmem⟩ := hstuck
      rw [hf] at hg
      cases hg
      exact absurd hmem hout

theorem Opens.live {s : Step} (h : Opens e store supply (.stays s) supply') (hs : store.Sound)
    (hrest : Rests store) : Live (s.Busy (Older store s.record.id s.updated)) s.record := by
  cases h with
  | @stays id t i output now _ ht hopen hi hactive hothers =>
    obtain ⟨n, hn, hbusy | hstuck⟩ := (hrest _ _ hi hactive).live
    · have holder := older_of_busy output now hs ht hi (fun _ => hothers) hbusy
      exact ⟨n, hn, Or.inl (Or.inl holder)⟩
    · exact ⟨n, hn, Or.inr hstuck⟩

section Written

variable {x y : Store} {s : Step} {i : Instance} (hs : x.Sound)
  (ho : x.Orderly s.settled.commit) (hc : x.Committed s.settled.commit y)
include hc

/-- The instance of a step as the store has it afterwards. -/
theorem record_of_committed (hi : y.instance? s.record.id = some i) :
    i = { s.settled.record with updatedAt := s.now, revision := s.record.revision + 1 } := by
  rw [hc.record, if_pos s.id_commit.symm] at hi
  rw [← Option.some.inj hi]
  unfold Step.settled
  split <;> rfl

theorem instance?_of_committed {id : Uuid} (hne : id ≠ s.record.id) :
    y.instance? id = x.instance? id := by
  rw [hc.record, if_neg fun h => hne (h.trans s.id_commit)]

theorem active_of_committed (hi : y.instance? s.record.id = some i) (hactive : i.isActive = true) :
    i = { s.record with updatedAt := s.now, revision := s.record.revision + 1 } ∧
      s.record.isActive = true ∧ s.record.currentNodes.isEmpty = false := by
  have hrecord := record_of_committed hc hi
  by_cases hdone : (s.record.isActive && s.record.currentNodes.isEmpty) = true
  · rw [Step.settled, if_pos hdone] at hrecord
    rw [hrecord] at hactive
    cases hactive
  · rw [Step.settled, if_neg hdone] at hrecord
    have hstep : s.record.isActive = true := by
      rw [hrecord] at hactive
      exact hactive
    exact ⟨hrecord, hstep, by simpa [hstep] using hdone⟩

include hs ho

theorem busy_of_committed (n : String) :
    y.Busy s.record.id n ↔ s.Busy (Older x s.record.id s.updated) n := by
  have h := hc.busy_iff ho hs (n := n)
  rw [show s.settled.commit.record.id = s.record.id from s.id_settled,
    show s.settled.commit.updated = s.updated from s.updated_settled,
    show s.settled.commit.created = s.created from s.created_settled] at h
  exact h

/-- A step that came to rest is written at rest. -/
theorem atRest_of_committed (hi : y.instance? s.record.id = some i) (hactive : i.isActive = true)
    (h : s.record.currentNodes.isEmpty = false →
      AtRest (s.Busy (Older x s.record.id s.updated)) s.record) :
    AtRest (y.Busy s.record.id) i := by
  obtain ⟨hrecord, -, hsome⟩ := active_of_committed hc hi hactive
  have hrest := (h hsome).congr (busy_of_committed hs ho hc)
  rw [hrecord]
  exact ⟨hrest.justified, hrest.live⟩

end Written

theorem rests_of_change {x y : Store} (h : Change x y) (hs : x.Sound) (hrest : Rests x) :
    Rests y := by
  intro id i hi hactive
  cases h with
  | defines d => exact hrest id i hi hactive
  | @sets id' j now vars hj hactive' =>
    rw [Store.instance?_putInstance] at hi
    split at hi
    · rename_i hid
      cases hi
      have hjid : j.id = id' := hs.instances hj
      have hold := hrest id' j hj hactive'
      rw [hid.trans hjid]
      exact ⟨hold.justified, hold.live⟩
    · exact hrest id i hi hactive
  | @closes _ id' j now ending hj hactive' hcommitted =>
    rw [hcommitted.record] at hi
    split at hi
    · cases hi
      cases ending <;> cases hactive
    · rename_i hne
      have hold := hrest id i hi hactive
      apply hold.congr
      intro n
      exact hcommitted.busy_iff_of_ne (orderly_closing hs hj) hs hne

theorem rests_of_stepped {x y : Session} {r : Request} {opening : Action Opening}
    (hm : e.registry.Mints) (hr : r.opening? e = some opening) (st : Stepped e x r opening y)
    (hs : x.store.Sound) (hd : y.supply.Distinct) (hrest : Rests x.store) : Rests y.store := by
  have hopens := st.opens_store hr
  have hframe := st.frame hm
  have horderly := hopens.orderly hs hframe hd
  intro id i hi hactive
  by_cases hid : id = st.step.record.id
  · subst hid
    refine atRest_of_committed hs horderly st.committed hi hactive fun hsome => ?_
    rw [hframe.id_eq, hframe.updated]
    refine follow_atRest hm st.follow (hopens.justified hs hrest) (fun s hstays => ?_) hsome
    rw [hstays] at hopens ⊢
    exact hopens.live hs hrest
  · have hne : id ≠ st.step.settled.commit.record.id := st.step.id_commit.symm ▸ hid
    rw [instance?_of_committed st.committed hid] at hi
    have hold := hrest id i hi hactive
    apply hold.congr
    intro n
    exact st.committed.busy_iff_of_ne horderly hs hne

/-- Every active instance of a history is at rest. -/
theorem rests_history {s : Supply} {rs : List Request} (hm : e.registry.Mints)
    (hd : (history e s rs).supply.Distinct) : Rests (history e s rs).store :=
  (history_keeps hm (fun _ _ hi => nomatch hi) rests_of_change
    (fun hr st hs hd hrest => rests_of_stepped hm hr st hs hd hrest) hd).2

/-! ### What applies to an instance at rest -/

/-- A request that is not turned away for the state of its task or instance. -/
def Applies (e : Engine) (x : Session) (r : Request) : Prop :=
  ∀ cause, x.result e r ≠ .error (.state cause)

section Timely

variable {α : Type} {w : World} {a : Ambient}

/-- An error that does not lie in the state of a task or an instance. -/
def Timely (err : EngineError) : Prop := ∀ cause, err ≠ .state cause

theorem timely_of_regular {x : Attempt α} (hx : Attempt.Regular x) (err : EngineError)
    (h : (x a).1 = .error err) : Timely err :=
  fun cause herr => (hx a).2 cause (herr ▸ h)

theorem timely_definition (name : String) : FailsWith Timely w a (definition e name) := by
  intro err h cause herr
  rw [result_definition, lookedUp, herr] at h
  split at h
  · cases h
  · split at h
    · cases h
    · rename_i d _
      cases hcheck : check e d <;> rw [hcheck] at h <;> cases h

theorem timely_finish (s : Step) : FailsWith Timely w a (finish e s) := by
  unfold finish commit
  refine failsWith_lift_bind (timely_of_regular (regular_notifyFailures _ _)) fun _ _ =>
    failsWith_lift_bind (timely_of_regular regular_settle) fun s _ =>
      failsWith_bind ?_ fun _ _ _ _ =>
        failsWith_lift_bind (timely_of_regular (Attempt.regular_remark _)) fun _ _ => ?_
  · exact failsWith_bind (failsWith_ask _) fun _ _ _ _ => failsWith_bind
      (failsWith_accepted fun _ _ h => nomatch h) fun _ _ _ _ =>
        failsWith_lift_bind (timely_of_regular (Attempt.regular_remark _)) fun _ _ =>
          failsWith_pure _
  · split
    · exact failsWith_throw fun _ h => nomatch h
    · exact failsWith_pure _

theorem timely_follow (o : Opening) (err : EngineError) (h : (follow e o a).1 = .error err) :
    Timely err := by
  cases o with
  | stays s => cases h
  | walks d queue s =>
    rcases hrun : advance e d ⟨0, queue, s⟩ a with ⟨r, a'⟩
    have hfail : advance e d ⟨0, queue, s⟩ a = (.error err, a') := by
      rw [hrun]
      exact congrArg (·, a') (by rw [← h, follow, hrun])
    obtain ⟨y, -, hhalt⟩ := advance_halt (P := fun _ => True) (fun _ _ => trivial) trivial hfail
    intro cause
    cases hhalt <;> exact fun h => nomatch h

theorem timely_carryOut {opening : Action Opening} (ho : FailsWith Timely w a opening) :
    FailsWith Timely w a (carryOut e opening) :=
  failsWith_bind ho fun o _ _ _ => failsWith_lift_bind (timely_follow o) fun s _ =>
    failsWith_bind (timely_finish s) fun _ _ _ _ => failsWith_pure _

theorem timely_completeOpening {t : Task} {i : Instance} (output : Variables)
    (ht : w.store.task? t.id = some t) (hopen : t.isOpen = true)
    (hi : w.store.instance? t.instanceId = some i) (hactive : i.isActive = true) :
    FailsWith Timely w a (completeOpening e t.id output) := by
  rcases openTask_cases w a t.id with ⟨u, hu, -, htask⟩ | ⟨err, hclosed, -⟩
  · obtain rfl : u = t := Option.some.inj (hu.symm.trans ht)
    refine failsWith_bind_ok htask (failsWith_lift_bind (fun _ h => nomatch h) fun _ _ =>
      failsWith_lift_bind (fun _ h => nomatch h) fun _ a₁ => ?_)
    rcases activeInstance_cases w a₁ u.instanceId with ⟨j, -, -, hinstance⟩ | ⟨err, hclosed, -⟩
    · refine failsWith_bind_ok hinstance (failsWith_bind (timely_definition _) fun _ _ _ _ =>
        failsWith_lift_bind (fun _ h => nomatch h) fun _ _ =>
          failsWith_lift_bind (fun _ h => nomatch h) fun _ _ =>
            failsWith_lift_bind (timely_of_regular (Attempt.regular_notify _ _)) fun _ _ =>
              failsWith_bind_ok run_tasks ?_)
      split
      · exact failsWith_lift_bind (fun _ h => nomatch h) fun _ _ => failsWith_pure _
      · exact failsWith_pure _
    · rw [hclosed i hi] at hactive
      cases hactive
  · rw [hclosed t ht] at hopen
    cases hopen

theorem timely_retryOpening {id : Uuid} {i : Instance} {f : Failure}
    (hi : w.store.instance? id = some i) (hactive : i.isActive = true) (hf : i.failure = some f) :
    FailsWith Timely w a (retryOpening e id) := by
  rcases activeInstance_cases w a id with ⟨j, hj, -, hinstance⟩ | ⟨err, hclosed, -⟩
  · obtain rfl : j = i := Option.some.inj (hj.symm.trans hi)
    refine failsWith_bind_ok hinstance ?_
    rw [hf]
    exact failsWith_bind (timely_definition _) fun _ _ _ _ =>
      failsWith_lift_bind (fun _ h => nomatch h) fun _ _ => failsWith_pure _
  · rw [hclosed i hi] at hactive
    cases hactive

/-- To complete an open task of an active instance is never untimely. -/
theorem applies_complete {x : Session} {t : Task} {i : Instance} (output : Variables)
    (ht : x.store.task? t.id = some t) (hopen : t.isOpen = true)
    (hi : x.store.instance? t.instanceId = some i) (hactive : i.isActive = true) :
    x.Applies e (.complete t.id output) := fun cause hresult =>
  failsWith_within (failsWith_discard (timely_carryOut
    (timely_completeOpening output ht hopen hi hactive))) _ hresult cause rfl

theorem applies_retry {x : Session} {id : Uuid} {i : Instance} {f : Failure}
    (hi : x.store.instance? id = some i) (hactive : i.isActive = true) (hf : i.failure = some f) :
    x.Applies e (.retry id) := fun cause hresult =>
  failsWith_discard (timely_carryOut (timely_retryOpening hi hactive hf)) _ hresult cause rfl

end Timely

/-- What an active instance waits for, and that it can go on. -/
structure WaitsToGoOn (e : Engine) (x : Session) (id : Uuid) (i : Instance) : Prop where
  listed : i.currentNodes.isEmpty = false
  justified : ∀ n, n ∈ i.currentNodes →
    x.store.Busy id n ∨ i.joinArrivals.contains n = true ∨ i.StuckAt n
  live : ∃ n, n ∈ i.currentNodes ∧ (x.store.Busy id n ∨ i.StuckAt n)
  goesOn : (∃ t ∈ x.store.tasksOf id, t.isOpen = true ∧
    ∀ output, x.Applies e (.complete t.id output)) ∨ x.Applies e (.retry id)

/-- In every history, an active instance waits at nodes where there is something to wait for, not only
at joins, and some completion or a retry applies to it. -/
theorem active_waitsToGoOn {s : Supply} {rs : List Request} {id : Uuid} {i : Instance}
    (hm : e.registry.Mints) (hd : (history e s rs).supply.Distinct)
    (hi : (history e s rs).store.instance? id = some i) (hactive : i.isActive = true) :
    (history e s rs).WaitsToGoOn e id i := by
  have hs : (history e s rs).store.Sound :=
    (history_keeps (P := fun _ => True) hm trivial (fun _ _ _ => trivial)
      (fun _ _ _ _ _ => trivial) hd).1
  obtain ⟨hjustified, n, hn, hlive⟩ := rests_history hm hd id i hi hactive
  generalize history e s rs = x at *
  refine ⟨?_, hjustified, ⟨n, hn, hlive⟩, ?_⟩
  · cases hempty : i.currentNodes.isEmpty with
    | true => exact absurd hn (NameSet.isEmpty_iff.1 hempty n)
    | false => rfl
  · rcases hlive with ⟨t, ht, hopen, -⟩ | ⟨f, hf, -⟩
    · obtain ⟨hfound, howner⟩ := hs.mem_tasksOf.1 ht
      exact Or.inl ⟨t, ht, hopen, fun output =>
        applies_complete output hfound hopen (howner ▸ hi) hactive⟩
    · exact Or.inr (applies_retry hi hactive hf)

section Desk

/-- One task between start and end. -/
def desk : Definition :=
  { id := "desk", version := 1, name := none, description := none, reminder := none
    timeoutSeconds := none
    nodes := [
      ⟨"start", none, .start, none, [.plain "work"]⟩,
      ⟨"work", none, .task ["ann"] none none, none, [.plain "end"]⟩,
      ⟨"end", none, .stop, none, []⟩] }

/-- An instance that was just started waits for its task. -/
theorem active_waitsToGoOn_desk :
    ∃ i, (history plainEngine countedIds [.deploy desk, .start "desk" ∅]).store.instance? ⟨0⟩ =
        some i ∧ i.isActive = true ∧
      (history plainEngine countedIds [.deploy desk, .start "desk" ∅]).WaitsToGoOn
        plainEngine ⟨0⟩ i := by
  have hactive : ((history plainEngine countedIds [.deploy desk, .start "desk" ∅]).store.instance?
      ⟨0⟩).map Instance.isActive = some true := by cbv
  have hdrawn : (history plainEngine countedIds
      [.deploy desk, .start "desk" ∅]).supply.drawn = 2 := by cbv
  obtain ⟨i, hi, hactive⟩ := Option.map_eq_some_iff.1 hactive
  exact ⟨i, hi, hactive, active_waitsToGoOn plainEngine_mints
    (distinct_countedIds (by omega) hdrawn) hi hactive⟩

end Desk

end Session

end Workflow
