import Mathlib
import Workflow.Proofs.Effects
import Workflow.Proofs.Mirror

/-!
Operations on one instance that take turns, call by call. The revision of the instance makes them
serializable as long as no task is completed twice (`serializable_iff`): a completion looks at its task
before it loads the instance, so that it may miss another completion of the task in between.
-/
namespace Workflow

open Engine Engine.Action Session

/-! ### Taking turns -/

/-- How an operation ends, and what its engine has noted down by then. -/
abbrev Outcome := Except EngineError Unit × Ambient

/-- A request that is served with a clock and a source of ids of its own. -/
structure Operation where
  request : Request
  ambient : Ambient

def Operation.script (e : Engine) (o : Operation) : Script Outcome := o.request.perform e o.ambient

/-- Scripts that take turns at a world, and those of them that have written, in order. -/
structure Interleaving (ι : Type) where
  world : World
  scripts : ι → Script Outcome
  writers : List ι

section Turns

variable {ι : Type} [DecidableEq ι]

/-- A script makes its next call. -/
def Interleaving.turn (x : Interleaving ι) (k : ι) : Interleaving ι :=
  match x.scripts k with
  | .done _ => x
  | .call c next =>
    { world := (x.world.answer c).2
      scripts := fun j => if j = k then next (x.world.answer c).1 else x.scripts j
      writers := if x.world.accepts c then x.writers ++ [k] else x.writers }

/-- Operations that set out from a world and take turns as scheduled. -/
def interleave (e : Engine) (ops : ι → Operation) (w : World) (schedule : List ι) :
    Interleaving ι :=
  schedule.foldl Interleaving.turn ⟨w, fun k => (ops k).script e, []⟩

theorem interleave_concat (e : Engine) (ops : ι → Operation) (w : World) (schedule : List ι) (k : ι) :
    interleave e ops w (schedule ++ [k]) = (interleave e ops w schedule).turn k := by
  rw [interleave, List.foldl_append]
  rfl

end Turns

section Serial

variable {ι : Type}

/-- The outcomes of operations that run one after another, and the world after them. -/
def inTurn (e : Engine) (ops : ι → Operation) (w : World) : List ι → List Outcome × World
  | [] => ([], w)
  | k :: ks =>
    let first := ((ops k).script e).run w
    let rest := inTurn e ops first.2 ks
    (first.1 :: rest.1, rest.2)

theorem inTurn_concat (e : Engine) (ops : ι → Operation) (w : World) (ks : List ι) (k : ι) :
    inTurn e ops w (ks ++ [k]) =
      ((inTurn e ops w ks).1 ++ [(((ops k).script e).run (inTurn e ops w ks).2).1],
        (((ops k).script e).run (inTurn e ops w ks).2).2) := by
  induction ks generalizing w with
  | nil => rfl
  | cons j ks ih =>
    rw [List.cons_append, inTurn, inTurn]
    simp only [ih, List.cons_append]

/-- No two of these operations complete the same task. -/
def CompletesOnce (ops : ι → Operation) (ks : List ι) : Prop :=
  ∀ j ∈ ks, ∀ k ∈ ks, ∀ taskId, (ops j).request.Completes taskId → (ops k).request.Completes taskId →
    j = k

theorem CompletesOnce.of_append {ops : ι → Operation} {ks ls : List ι}
    (h : CompletesOnce ops (ks ++ ls)) : CompletesOnce ops ks :=
  fun j hj k hk => h j (List.mem_append_left _ hj) k (List.mem_append_left _ hk)

/-- What the operations that wrote have done is what they do when they run one after another in the
order of their writes. -/
structure Serializable [DecidableEq ι] (e : Engine) (ops : ι → Operation) (w : World)
    (schedule : List ι) : Prop where
  world : (interleave e ops w schedule).world =
    (inTurn e ops w (interleave e ops w schedule).writers).2
  outcomes : (interleave e ops w schedule).writers.map (interleave e ops w schedule).scripts =
    (inTurn e ops w (interleave e ops w schedule).writers).1.map .done

end Serial

/-! ### Calls -/

/-- Calls that change nothing but an instance, given what is in the cache. -/
def Call.Harmless (cache : Cache) : Call → Prop
  | saveDefinition _ => False
  | remember k v => cache.get? k = some v
  | acquire => False
  | release => False
  | _ => True

namespace World

variable {w : World} {c : Call}

theorem answer_of_harmless (hc : c.Harmless w.cache) (h : w.accepts c = false) :
    (w.answer c).2 = w := by
  cases hwritten : c.written? with
  | some i => exact answer_of_not_accepts hwritten h
  | none =>
    cases c with
    | remember k v =>
      have hput : w.cache.put k v = w.cache := congrArg Cache.mk (Dict.insert_of_get? hc)
      change { w with cache := w.cache.put k v } = w
      rw [hput]
    | saveDefinition d => exact hc.elim
    | acquire => exact hc.elim
    | release => exact hc.elim
    | saveInstance i => cases hwritten
    | commit c => cases hwritten
    | _ => rfl

theorem keyed_answer (w : World) (c : Call) (hk : w.store.Keyed) : (w.answer c).2.store.Keyed := by
  cases hc : c.written? with
  | some i =>
    rcases w.answer_write hc with hsame | hwrote
    · rwa [hsame]
    · exact hwrote.keyed hk
  | none =>
    cases c with
    | saveDefinition d => exact ⟨hk.instances, hk.tasks⟩
    | saveInstance i => cases hc
    | commit c => cases hc
    | _ => exact hk

/-- Each write that is accepted adds one to the revisions. -/
theorem revisions_answer (c : Call) :
    (w.answer c).2.store.revisions = w.store.revisions + if w.accepts c then 1 else 0 := by
  cases haccepts : w.accepts c with
  | true =>
    obtain ⟨i, -, hwrote⟩ := wrote_of_accepts haccepts
    rw [if_pos rfl, ← Store.revisions_putInstance hwrote.expects, Store.revisions,
      hwrote.instances]
    rfl
  | false =>
    have hsame : (w.answer c).2.store.instances = w.store.instances := by
      cases hc : c.written? with
      | some i => rw [answer_of_not_accepts hc haccepts]
      | none => cases c <;> first | rfl | cases hc
    rw [Store.revisions, hsame]
    simp [Store.revisions]

end World

/-! ### Standings -/

section Standing

variable {ι : Type} {e : Engine} {ops : ι → Operation} {id : Uuid} {start : UInt64} {w w' : World}
  {writers : List ι} {j k : ι} {s : Script Outcome}

/-- An operation on an instance loads that first, or a task that it is to complete. -/
theorem Operation.loads_or_checks (o : Operation) {store : Store}
    (h : o.request.Concerns store id) : (o.script e).Loads id ∨
      ∃ taskId, o.request.Completes taskId ∧ (o.script e).Checks taskId := by
  obtain ⟨request, ambient⟩ := o
  cases request with
  | complete taskId output =>
    exact Or.inr ⟨taskId, ⟨output, rfl⟩, checks_complete taskId output ambient⟩
  | updateVariables id' vars =>
    cases h
    exact Or.inl (loads_updateVariables id vars ambient)
  | retry id' =>
    cases h
    exact Or.inl (loads_retry id ambient)
  | terminate id' =>
    cases h
    exact Or.inl (loads_terminate id ambient)
  | deploy d => exact h.elim
  | start definitionId vars => exact h.elim
  | tick tolerance now => exact h.elim

/-- How far an operation has come, and what it knows of the world: nothing yet, a task as it is, a task
that was closed since or completed by another one, the instance as it is, or the instance as it was some
writes ago. -/
inductive Standing (e : Engine) (ops : ι → Operation) (id : Uuid) (start : UInt64) (w : World)
    (writers : List ι) (k : ι) (s : Script Outcome) : Prop
  | waits (h : s = (ops k).script e)
  | checked {taskId : Uuid} {t : Task} {next : _ → Script Outcome}
    (hr : (ops k).request.Completes taskId)
    (hscript : (ops k).script e = .call (.loadTask taskId) next)
    (ht : w.store.task? taskId = some t) (hs : s = next (.ok (some t))) (hloads : s.Loads id)
  | late {taskId : Uuid} (hr : (ops k).request.Completes taskId) (hloads : s.Loads id)
    (h : (∀ i, w.store.instance? id = some i → i.isActive = false) ∨
      ∃ j ∈ writers, j ≠ k ∧ (ops j).request.Completes taskId)
  | twice {taskId : Uuid} {j : ι} (hr : (ops k).request.Completes taskId) (hj : j ∈ writers)
    (hne : j ≠ k) (h : (ops j).request.Completes taskId)
  | abreast {i : Instance} (hi : w.store.instance? id = some i) (hactive : i.isActive = true)
    (hover : s.WritesOver id i.revision) (hrun : s.run w = ((ops k).script e).run w)
  | behind {n : Nat} (hn : n < writers.length)
    (hover : s.WritesOver id (start + UInt64.ofNat n))
  | ended {outcome : Outcome} (h : s = .done outcome)

namespace Standing

variable {c : Call} {next : c.Answer → Script Outcome}

/-- The instance is loaded as it is, or the operation ends. -/
theorem of_loads (hk : w.store.Keyed) (hloads : (Script.call c next).Loads id)
    (hrun : ∀ i, w.store.instance? id = some i → i.isActive = true →
      (Script.call c next).run w = ((ops k).script e).run w ∨
        Standing e ops id start w writers k (next (w.answer c).1)) :
    Standing e ops id start w writers k (next (w.answer c).1) := by
  obtain ⟨next', hcall, hnext⟩ := hloads
  cases hcall
  rcases hnext (w.answer (.loadInstance id)).1 with ⟨i, hr, hactive, hover⟩ | ⟨v, hv⟩
  · have hi : w.store.instance? id = some i := Except.ok.inj hr
    rw [hk.instances hi] at hover
    rcases hrun i hi hactive with hsame | hstanding
    · exact .abreast hi hactive hover hsame
    · exact hstanding
  · exact .ended hv

theorem of_writesOver {revision : UInt64} (hover : (Script.call c next).WritesOver id revision) :
    (next (w.answer c).1).WritesOver id revision ∨ ∃ outcome, next (w.answer c).1 = .done outcome := by
  rw [Script.WritesOver] at hover
  split at hover
  · exact Or.inr (hover.2.2 w)
  · exact Or.inl (hover w)

/-- An answer that changes nothing keeps an operation as well informed as it was. -/
theorem read (h : Standing e ops id start w writers k (.call c next)) (hk : w.store.Keyed)
    (hconcerns : (ops k).request.Concerns w.store id) (hsame : (w.answer c).2 = w) :
    Standing e ops id start w writers k (next (w.answer c).1) := by
  cases h with
  | waits h =>
    rcases (ops k).loads_or_checks (e := e) hconcerns with hloads | ⟨taskId, hr, hchecks⟩
    · rw [← h] at hloads
      exact of_loads hk hloads fun _ _ _ => Or.inl (congrArg (Script.run w) h)
    · obtain ⟨next', hscript, hnext⟩ := hchecks
      have hcall := h.trans hscript
      cases hcall
      rcases hnext (w.answer (.loadTask taskId)).1 with ⟨t, hr', hopen, hloads⟩ | ⟨v, hv⟩
      · have ht : w.store.task? taskId = some t := Except.ok.inj hr'
        obtain ⟨output, hrequest⟩ := hr
        rw [hrequest] at hconcerns
        rw [hconcerns t ht] at hloads
        exact .checked ⟨output, hrequest⟩ h.symm ht (congrArg next' hr') hloads
      · exact .ended hv
  | checked hr hscript ht hs hloads =>
    refine of_loads hk hloads fun _ _ _ => Or.inl ?_
    rw [hs, hscript, ← ht]
    rfl
  | late hr hloads h =>
    refine of_loads hk hloads fun i hi hactive => Or.inr ?_
    rcases h with hclosed | ⟨j, hj, hne, h⟩
    · rw [hclosed i hi] at hactive
      cases hactive
    · exact .twice hr hj hne h
  | twice hr hj hne h => exact .twice hr hj hne h
  | abreast hi hactive hover hrun =>
    rcases of_writesOver (w := w) hover with hover | ⟨outcome, hdone⟩
    · refine .abreast hi hactive hover (Eq.trans ?_ hrun)
      change _ = Script.run (w.answer c).2 (next (w.answer c).1)
      rw [hsame]
    · exact .ended hdone
  | behind hn hover =>
    rcases of_writesOver (w := w) hover with hover | ⟨outcome, hdone⟩
    · exact .behind hn hover
    · exact .ended hdone
  | ended h => cases h

/-- The write of another operation leaves those behind that have loaded the instance. -/
theorem passed {i : Instance} (h : Standing e ops id start w writers j s) (hne : k ≠ j)
    (heffect : Effect (ops k).request id w.store w'.store) (hi : w.store.instance? id = some i)
    (hactive : i.isActive = true) (hrevision : i.revision = start + UInt64.ofNat writers.length) :
    Standing e ops id start w' (writers ++ [k]) j s := by
  have hlast : k ∈ writers ++ [k] := List.mem_append_right _ (List.mem_singleton_self k)
  cases h with
  | waits h => exact .waits h
  | checked hr hscript ht hs hloads =>
    rcases heffect.task_cases ht with ht | hcompletes | hclosed
    · exact .checked hr hscript ht hs hloads
    · exact .late hr hloads (Or.inr ⟨k, hlast, hne, hcompletes⟩)
    · exact .late hr hloads (Or.inl hclosed)
  | late hr hloads h =>
    rcases h with hclosed | ⟨l, hl, hne', h⟩
    · rw [hclosed i hi] at hactive
      cases hactive
    · exact .late hr hloads (Or.inr ⟨l, List.mem_append_left _ hl, hne', h⟩)
  | twice hr hl hne' h => exact .twice hr (List.mem_append_left _ hl) hne' h
  | abreast hi' hactive' hover hrun =>
    rw [Option.some.inj (hi'.symm.trans hi), hrevision] at hover
    exact .behind (by simp) hover
  | behind hn hover =>
    refine .behind ?_ hover
    rw [List.length_append]
    omega
  | ended h => exact .ended h

theorem not_accepts_of_loads (h : (Script.call c next).Loads id) : w.accepts c = false := by
  obtain ⟨next', hcall, -⟩ := h
  cases hcall
  rfl

theorem ofNat_add_ne {m n : Nat} (hmn : m < n) (hn : n < 2 ^ 64) :
    start + UInt64.ofNat m ≠ start + UInt64.ofNat n := by
  intro h
  have hnat := congrArg UInt64.toNat ((UInt64.add_right_inj start).1 h)
  rw [UInt64.toNat_ofNat', UInt64.toNat_ofNat', Nat.mod_eq_of_lt hn,
    Nat.mod_eq_of_lt (Nat.lt_trans hmn hn)] at hnat
  omega

/-- Only an operation that knows the instance as it is gets a write accepted, which ends it. Run all at
once it does the same. -/
theorem writes (h : Standing e ops id start w writers k (.call c next))
    (haccepts : w.accepts c = true) (hconcerns : (ops k).request.Concerns w.store id)
    (hrevision : ∀ i, w.store.instance? id = some i →
      i.revision = start + UInt64.ofNat writers.length)
    (hthere : writers ≠ [] → ∃ i, w.store.instance? id = some i) (hn : writers.length < 2 ^ 64)
    (honce : CompletesOnce ops (writers ++ [k])) :
    ∃ i i' outcome, w.store.instance? id = some i ∧ i.isActive = true ∧ c.written? = some i' ∧
      i'.id = id ∧ i'.revision = i.revision ∧ next (w.answer c).1 = .done outcome ∧
        ((ops k).script e).run w = (outcome, (w.answer c).2) := by
  have hloaded : ∀ {id}, ¬ (Script.call c next).Loads id := by
    intro id hloads
    rw [not_accepts_of_loads hloads] at haccepts
    cases haccepts
  obtain ⟨i', hwritten, hwrote⟩ := World.wrote_of_accepts haccepts
  cases h with
  | waits h =>
    rcases (ops k).loads_or_checks (e := e) hconcerns with hloads | ⟨taskId, hr, next', hscript, -⟩
    · exact absurd (h ▸ hloads) hloaded
    · have hcall := h.trans hscript
      cases hcall
      cases haccepts
  | checked hr hscript ht hs hloads => exact absurd hloads hloaded
  | late hr hloads h => exact absurd hloads hloaded
  | twice hr hj hne h =>
    -- the one case in which an operation knows the instance but not its task
    exact absurd (honce _ (List.mem_append_left _ hj) k (by simp) _ h hr) hne
  | abreast hi hactive hover hrun =>
    rw [Script.WritesOver, hwritten] at hover
    obtain ⟨hid, hsame, hlast⟩ := hover
    obtain ⟨outcome, hdone⟩ := hlast w
    refine ⟨_, i', outcome, hi, hactive, hwritten, hid, hsame, hdone, ?_⟩
    rw [← hrun]
    change Script.run (w.answer c).2 (next (w.answer c).1) = _
    rw [hdone]
    rfl
  | behind hlt hover =>
    -- the instance has moved on, and the revision tells
    rw [Script.WritesOver, hwritten] at hover
    obtain ⟨hid, hsame, -⟩ := hover
    obtain ⟨i, hi⟩ := hthere (List.ne_nil_of_length_pos (by omega))
    have hstored := hwrote.expects.stored i (hid ▸ hi)
    rw [hsame, hrevision i hi] at hstored
    exact absurd hstored.symm (ofNat_add_ne hlt hn)
  | ended h => cases h

end Standing

end Standing

/-! ### Runs -/

section Run

variable {ι : Type} [DecidableEq ι] {e : Engine} {ops : ι → Operation} {id : Uuid} {start : UInt64}
  {w : World} {x : Interleaving ι}

/-- An interleaving in which the operations that wrote have done what they do one after another. -/
structure InStep (e : Engine) (ops : ι → Operation) (id : Uuid) (start : UInt64) (w : World)
    (x : Interleaving ι) : Prop where
  keyed : x.world.store.Keyed
  definitions : x.world.store.definitions = w.store.definitions
  cache : x.world.cache = w.cache
  revision : ∀ i, x.world.store.instance? id = some i →
    i.revision = start + UInt64.ofNat x.writers.length
  there : x.writers ≠ [] → ∃ i, x.world.store.instance? id = some i
  concerns : ∀ k, (ops k).request.Concerns x.world.store id
  harmless : ∀ k, (x.scripts k).All
    (fun v => v.store.definitions = w.store.definitions ∧ v.cache = w.cache)
    (Call.Harmless w.cache) fun _ => True
  world : x.world = (inTurn e ops w x.writers).2
  outcomes : x.writers.map x.scripts = (inTurn e ops w x.writers).1.map .done
  standing : ∀ k, Standing e ops id start x.world x.writers k (x.scripts k)

namespace InStep

variable {k : ι} {c : Call} {next : c.Answer → Script Outcome}

theorem turn_eq (hk : x.scripts k = .call c next) : x.turn k =
    { world := (x.world.answer c).2
      scripts := fun j => if j = k then next (x.world.answer c).1 else x.scripts j
      writers := if x.world.accepts c then x.writers ++ [k] else x.writers } := by
  rw [Interleaving.turn, hk]

omit [DecidableEq ι] in
/-- The script that has written is done, so that no other turn is that of a writer. -/
theorem not_mem_writers (h : InStep e ops id start w x) (hk : x.scripts k = .call c next) :
    k ∉ x.writers := by
  intro hmem
  have hscript := List.mem_map_of_mem (f := x.scripts) hmem
  rw [h.outcomes, hk] at hscript
  obtain ⟨outcome, -, hdone⟩ := List.mem_map.1 hscript
  cases hdone

theorem map_scripts (h : InStep e ops id start w x) (hk : x.scripts k = .call c next)
    (s : Script Outcome) :
    (x.writers.map fun j => if j = k then s else x.scripts j) = x.writers.map x.scripts :=
  List.map_congr_left fun j hj => if_neg fun (hjk : j = k) => h.not_mem_writers hk (hjk ▸ hj)

theorem harmless_next (h : InStep e ops id start w x) (hk : x.scripts k = .call c next) (j : ι) :
    (if j = k then next (x.world.answer c).1 else x.scripts j).All
      (fun v => v.store.definitions = w.store.definitions ∧ v.cache = w.cache)
      (Call.Harmless w.cache) fun _ => True := by
  by_cases hj : j = k
  · have hall := h.harmless k
    rw [hk] at hall
    rw [if_pos hj]
    exact hall.2 x.world ⟨h.definitions, h.cache⟩
  · rw [if_neg hj]
    exact h.harmless j

theorem turn_of_not_accepts (h : InStep e ops id start w x) (hk : x.scripts k = .call c next)
    (haccepts : x.world.accepts c = false) : InStep e ops id start w (x.turn k) := by
  have hharmless : c.Harmless x.world.cache := by
    have hall := h.harmless k
    rw [hk] at hall
    rw [h.cache]
    exact hall.1
  have hsame := World.answer_of_harmless hharmless haccepts
  rw [turn_eq hk, hsame, haccepts]
  simp only [Bool.false_eq_true, if_false]
  refine ⟨h.keyed, h.definitions, h.cache, h.revision, h.there, h.concerns, h.harmless_next hk,
    h.world, (h.map_scripts hk _).trans h.outcomes, fun j => ?_⟩
  by_cases hj : j = k
  · subst hj
    have hstanding := h.standing j
    rw [hk] at hstanding
    simpa using hstanding.read h.keyed (h.concerns j) hsame
  · simpa [hj] using h.standing j

theorem turn_of_accepts (h : InStep e ops id start w x) (hk : x.scripts k = .call c next)
    (haccepts : x.world.accepts c = true) (hn : x.writers.length < 2 ^ 64)
    (honce : CompletesOnce ops (x.writers ++ [k])) : InStep e ops id start w (x.turn k) := by
  have hstanding := h.standing k
  rw [hk] at hstanding
  obtain ⟨i, i', outcome, hi, hactive, hwritten, hid, hrevision, hdone, hrun⟩ :=
    hstanding.writes haccepts (h.concerns k) h.revision h.there hn honce
  obtain ⟨i'', hwritten', hwrote⟩ := World.wrote_of_accepts haccepts
  obtain rfl : i'' = i' := Option.some.inj (hwritten'.symm.trans hwritten)
  have hstore : (x.world.answer c).2.store.instance? id =
      some { i'' with revision := i''.revision + 1 } := by
    rw [Store.instance?, hwrote.instances]
    have hput : (x.world.store.putInstance i'').instance? id = _ := Store.instance?_putInstance
    rw [if_pos hid.symm] at hput
    exact hput
  have heffect : Effect (ops k).request id x.world.store (x.world.answer c).2.store := by
    have hserve := effect_serve (e := e) (x := ⟨x.world, (ops k).ambient⟩) h.keyed (h.concerns k)
    have hend : (Session.serve e ⟨x.world, (ops k).ambient⟩ (ops k).request).store =
        (((ops k).script e).run x.world).2.store := rfl
    rw [hend, hrun] at hserve
    exact hserve
  -- run all at once from here, the operation does what it has done in turns
  have hserial : ((ops k).script e).run (inTurn e ops w x.writers).2 =
      (outcome, (x.world.answer c).2) := h.world ▸ hrun
  rw [turn_eq hk, haccepts]
  simp only [if_true]
  refine ⟨hwrote.keyed h.keyed, hwrote.definitions.trans h.definitions, hwrote.cache.trans h.cache,
    fun j hj => ?_, fun _ => ⟨_, hstore⟩, fun j => heffect.concerns (h.concerns j),
    h.harmless_next hk, ?_, ?_, fun j => ?_⟩
  · rw [Option.some.inj (hj.symm.trans hstore)]
    change i''.revision + 1 = _
    rw [hrevision, h.revision i hi, List.length_append, List.length_singleton, UInt64.ofNat_add,
      UInt64.add_assoc]
    rfl
  · rw [inTurn_concat, hserial]
  · rw [inTurn_concat, hserial, List.map_append, List.map_append, h.map_scripts hk, h.outcomes]
    simp [hdone]
  · by_cases hj : j = k
    · simp only [if_pos hj]
      exact .ended hdone
    · simp only [if_neg hj]
      exact (h.standing j).passed (Ne.symm hj) heffect hi hactive (h.revision i hi)

/-- Each turn keeps an interleaving in step, as long as no task is completed twice. -/
theorem turn (h : InStep e ops id start w x) (hn : (x.turn k).writers.length < 2 ^ 64)
    (honce : CompletesOnce ops (x.turn k).writers) : InStep e ops id start w (x.turn k) := by
  cases hk : x.scripts k with
  | done outcome => rwa [Interleaving.turn, hk]
  | call c next =>
    cases haccepts : x.world.accepts c with
    | false => exact h.turn_of_not_accepts hk haccepts
    | true =>
      rw [turn_eq hk, haccepts] at hn honce
      simp only [if_true, List.length_append] at hn
      simp only [if_true] at honce
      exact h.turn_of_accepts hk haccepts (by omega) honce

end InStep

theorem writers_turn (x : Interleaving ι) (k : ι) : ∃ ks, (x.turn k).writers = x.writers ++ ks := by
  cases hk : x.scripts k with
  | done outcome => exact ⟨[], by rw [Interleaving.turn, hk, List.append_nil]⟩
  | call c next =>
    rw [InStep.turn_eq hk]
    cases x.world.accepts c with
    | true => exact ⟨[k], rfl⟩
    | false => exact ⟨[], (List.append_nil _).symm⟩

theorem harmless_script (hr : e.registry.Draws) (hm : Mirrored e w) (o : Operation)
    (h : o.request.Concerns w.store id) : (o.script e).All
      (fun v => v.store.definitions = w.store.definitions ∧ v.cache = w.cache)
      (Call.Harmless w.cache) fun _ => True := by
  have hp : Allows e (fun v => v.store.definitions = w.store.definitions ∧ v.cache = w.cache)
      (Call.Harmless w.cache) := by
    refine ⟨fun c hc => by cases c <;> trivial, fun hcaches {v n d} hv hd => hm hcaches n d ?_⟩
    rwa [Store.definition?, ← hv.1]
  have hobeys : Obeys (fun v => v.store.definitions = w.store.definitions ∧ v.cache = w.cache)
      (Call.Harmless w.cache) (o.request.perform e) := by
    obtain ⟨request, ambient⟩ := o
    cases request with
    | complete taskId output =>
      exact obeys_within (obeys_discard
        (obeys_carryOut hr (obeys_completeOpening hp) fun _ => trivial))
    | updateVariables id' vars => exact obeys_updateVariables hp fun _ => trivial
    | retry id' => exact obeys_discard (obeys_carryOut hr (obeys_retryOpening hp) fun _ => trivial)
    | terminate id' =>
      exact obeys_bind (obeys_lift Attempt.regular_now) fun _ => obeys_close hp fun _ => trivial
    | deploy d => exact h.elim
    | start definitionId vars => exact h.elim
    | tick tolerance now => exact h.elim
  exact (hobeys o.ambient).imp (fun _ h => h) (fun _ h => h) fun _ _ => trivial

theorem keyed_history {s : Supply} (hr : e.registry.Draws) (rs : List Request) :
    (history e s rs).world.store.Keyed := by
  induction rs using List.reverseRecOn with
  | nil => exact Store.sound_empty.toKeyed
  | append_singleton rs r ih =>
    rw [history_concat]
    exact (serve_keeps (I := fun w => w.store.Keyed) hr World.keyed_answer _ r ih).2

/-- As long as no task is completed twice, operations on an instance stay in step. -/
theorem inStep_interleave (hr : e.registry.Draws) (hm : Mirrored e w) (hk : w.store.Keyed)
    (hops : ∀ k, (ops k).request.Concerns w.store id) {schedule : List ι}
    (hn : (interleave e ops w schedule).writers.length < 2 ^ 64)
    (honce : CompletesOnce ops (interleave e ops w schedule).writers) :
    InStep e ops id (((w.store.instance? id).map Instance.revision).getD 0) w
      (interleave e ops w schedule) := by
  induction schedule using List.reverseRecOn with
  | nil =>
    refine ⟨hk, rfl, rfl, fun i hi => ?_, fun h => absurd rfl h, hops,
      fun k => harmless_script hr hm (ops k) (hops k), rfl, rfl, fun k => .waits rfl⟩
    have hi' : w.store.instance? id = some i := hi
    rw [hi']
    exact (UInt64.add_zero _).symm
  | append_singleton schedule k ih =>
    rw [interleave_concat] at hn honce ⊢
    obtain ⟨ks, hks⟩ := writers_turn (interleave e ops w schedule) k
    refine (ih ?_ ?_).turn hn honce
    · rw [hks, List.length_append] at hn
      omega
    · rw [hks] at honce
      exact honce.of_append

/-- The revisions tell how many operations have written. -/
theorem revisions_interleave (schedule : List ι) :
    (interleave e ops w schedule).world.store.revisions =
      w.store.revisions + UInt64.ofNat (interleave e ops w schedule).writers.length := by
  induction schedule using List.reverseRecOn with
  | nil => exact (UInt64.add_zero _).symm
  | append_singleton schedule k ih =>
    rw [interleave_concat]
    cases hk : (interleave e ops w schedule).scripts k with
    | done outcome => rwa [Interleaving.turn, hk]
    | call c next =>
      rw [InStep.turn_eq hk]
      simp only [World.revisions_answer, ih]
      cases (interleave e ops w schedule).world.accepts c with
      | true => simp [UInt64.ofNat_add, UInt64.add_assoc]
      | false => simp

end Run

/-! ### One after another -/

section InTurn

variable {ι : Type} {e : Engine} {ops : ι → Operation} {id : Uuid} {taskId : Uuid} {w : World}

theorem effect_script (hk : w.store.Keyed) (k : ι) (hr : (ops k).request.Concerns w.store id) :
    Effect (ops k).request id w.store (((ops k).script e).run w).2.store :=
  effect_serve (e := e) (x := ⟨w, (ops k).ambient⟩) hk hr

omit e ops id taskId w in
theorem add_revisions {store store' : Store}
    (h : store' = store ∨ store'.revisions = store.revisions + 1) (n : Nat) :
    ∃ m ≤ n + 1, store'.revisions + UInt64.ofNat n = store.revisions + UInt64.ofNat m := by
  rcases h with rfl | hadded
  · exact ⟨n, Nat.le_succ n, rfl⟩
  · refine ⟨n + 1, Nat.le_refl _, ?_⟩
    rw [hadded, UInt64.ofNat_add, UInt64.add_assoc, UInt64.add_comm 1]
    rfl

/-- Operations that run one after another add at most one each to the revisions. -/
theorem revisions_inTurn (hk : w.store.Keyed) (hops : ∀ k, (ops k).request.Concerns w.store id)
    (ks : List ι) : ∃ n ≤ ks.length,
      (inTurn e ops w ks).2.store.revisions = w.store.revisions + UInt64.ofNat n := by
  induction ks generalizing w with
  | nil => exact ⟨0, Nat.le_refl 0, (UInt64.add_zero _).symm⟩
  | cons k ks ih =>
    have heffect := effect_script (e := e) hk k (hops k)
    obtain ⟨n, hn, hrest⟩ := ih (heffect.keyed hk) fun j => heffect.concerns (hops j)
    obtain ⟨m, hm, hadded⟩ := add_revisions heffect.revisions n
    exact ⟨m, Nat.le_trans hm (Nat.succ_le_succ hn), hrest.trans hadded⟩

/-- An operation that is to complete a closed task adds nothing to the revisions. -/
theorem revisions_inTurn_of_closed {t : Task} {k : ι} {ks : List ι} (hk : w.store.Keyed)
    (hops : ∀ k, (ops k).request.Concerns w.store id) (hmem : k ∈ ks)
    (hr : (ops k).request.Completes taskId) (ht : w.store.task? taskId = some t)
    (hclosed : t.isOpen = false) : ∃ n < ks.length,
      (inTurn e ops w ks).2.store.revisions = w.store.revisions + UInt64.ofNat n := by
  induction ks generalizing w t with
  | nil => exact absurd hmem List.not_mem_nil
  | cons l ks ih =>
    have heffect := effect_script (e := e) hk l (hops l)
    have hkeyed := heffect.keyed hk
    have hconcerns := fun j => heffect.concerns (hops j)
    rcases List.mem_cons.1 hmem with rfl | hmem
    · obtain ⟨n, hn, hrest⟩ := revisions_inTurn (e := e) hkeyed hconcerns ks
      rw [heffect.eq_of_closed hr ht hclosed] at hrest
      exact ⟨n, Nat.lt_succ_of_le hn, hrest⟩
    · obtain ⟨u, hu, hclosed⟩ := heffect.closed ht hclosed
      obtain ⟨n, hn, hrest⟩ := ih hkeyed hconcerns hmem hu hclosed
      obtain ⟨m, hm, hadded⟩ := add_revisions heffect.revisions n
      exact ⟨m, by rw [List.length_cons]; omega, hrest.trans hadded⟩

/-- Of two completions of one task at most one adds to the revisions. -/
theorem revisions_inTurn_of_twice {j k : ι} {ks : List ι} (hk : w.store.Keyed)
    (hops : ∀ k, (ops k).request.Concerns w.store id) (hne : j ≠ k) (hj : j ∈ ks) (hmem : k ∈ ks)
    (hrj : (ops j).request.Completes taskId) (hrk : (ops k).request.Completes taskId) :
    ∃ n < ks.length,
      (inTurn e ops w ks).2.store.revisions = w.store.revisions + UInt64.ofNat n := by
  induction ks generalizing w with
  | nil => exact absurd hj List.not_mem_nil
  | cons l ks ih =>
    have heffect := effect_script (e := e) hk l (hops l)
    have hkeyed := heffect.keyed hk
    have hconcerns := fun j => heffect.concerns (hops j)
    -- the first completion closes the task, so that there is nothing left to do for the other one
    have hfirst : ∀ {i}, i ∈ ks → (ops i).request.Completes taskId →
        (ops l).request.Completes taskId → ∃ n < (l :: ks).length,
          (inTurn e ops w (l :: ks)).2.store.revisions = w.store.revisions + UInt64.ofNat n := by
      intro i hi hri hrl
      rcases heffect.closes hrl with hsame | ⟨t, ht, hclosed⟩
      · obtain ⟨n, hn, hrest⟩ := revisions_inTurn (e := e) hkeyed hconcerns ks
        rw [hsame] at hrest
        exact ⟨n, Nat.lt_succ_of_le hn, hrest⟩
      · obtain ⟨n, hn, hrest⟩ :=
          revisions_inTurn_of_closed (e := e) hkeyed hconcerns hi hri ht hclosed
        obtain ⟨m, hm, hadded⟩ := add_revisions heffect.revisions n
        exact ⟨m, by rw [List.length_cons]; omega, hrest.trans hadded⟩
    by_cases hjl : j = l
    · subst hjl
      exact hfirst ((List.mem_cons.1 hmem).resolve_left (Ne.symm hne)) hrk hrj
    by_cases hkl : k = l
    · subst hkl
      exact hfirst ((List.mem_cons.1 hj).resolve_left hne) hrj hrk
    obtain ⟨n, hn, hrest⟩ := ih hkeyed hconcerns ((List.mem_cons.1 hj).resolve_left hjl)
      ((List.mem_cons.1 hmem).resolve_left hkl)
    obtain ⟨m, hm, hadded⟩ := add_revisions heffect.revisions n
    exact ⟨m, by rw [List.length_cons]; omega, hrest.trans hadded⟩

end InTurn

/-- Operations on an instance that take turns are serializable just if no two of them that wrote
complete the same task. -/
theorem serializable_iff {ι : Type} [DecidableEq ι] {e : Engine} {s : Supply} {rs : List Request}
    {ops : ι → Operation} {id : Uuid} {schedule : List ι} (hr : e.registry.Draws)
    (hops : ∀ k, (ops k).request.Concerns (history e s rs).store id)
    (hn : (interleave e ops (history e s rs).world schedule).writers.length < 2 ^ 64) :
    Serializable e ops (history e s rs).world schedule ↔
      CompletesOnce ops (interleave e ops (history e s rs).world schedule).writers := by
  have hm := mirrored_history (e := e) (s := s) rs
  have hk := keyed_history (s := s) hr rs
  constructor
  · intro hserializable j hj k hk' taskId hrj hrk
    by_contra hne
    -- one after another, fewer of them would have written
    obtain ⟨n, hlt, hserial⟩ := revisions_inTurn_of_twice (e := e) hk hops hne hj hk' hrj hrk
    rw [← hserializable.world, revisions_interleave] at hserial
    exact Standing.ofNat_add_ne hlt hn hserial.symm
  · intro honce
    have hinstep := inStep_interleave hr hm hk hops hn honce
    exact ⟨hinstep.world, hinstep.outcomes⟩

section Review

/-- A review by two people. -/
def review : Definition :=
  { id := "review", version := 1, name := none, description := none, reminder := none
    timeoutSeconds := none
    nodes := [
      ⟨"start", none, .start, none, [.plain "review"]⟩,
      ⟨"review", none, .task ["ann", "bob"] (some "per_assignee") none, none, [.plain "end"]⟩,
      ⟨"end", none, .stop, none, []⟩] }

/-- The world in which both tasks of a review are open. -/
def reviewed : World := (history plainEngine countedIds [.deploy review, .start "review" ∅]).world

/-- The completion of a task of the review. -/
def handIn (taskId : Uuid) (verdict : String) : Operation :=
  ⟨.complete taskId (Dict.ofList [("verdict", .string verdict)]), .ofSupply countedIds⟩

def handInEach (second : Bool) : Operation := handIn (if second then ⟨2⟩ else ⟨1⟩) "yes"

def handInTwice (second : Bool) : Operation := handIn ⟨1⟩ (if second then "yes" else "no")

/-- The first operation has loaded everything when the second one runs, and writes last. -/
def overtaken : List Bool :=
  [false, false, false, false, true, true, true, true, true, false]

/-- The first operation has only looked at its task when the second one runs. -/
def overlapped : List Bool :=
  [false, true, true, true, true, true, false, false, false, false]

/-- Completions of different tasks are serializable; here one is refused. -/
theorem serializable_review :
    (∀ k, (handInEach k).request.Concerns reviewed.store ⟨0⟩) ∧
      (interleave plainEngine handInEach reviewed overtaken).writers.length < 2 ^ 64 ∧
        Serializable plainEngine handInEach reviewed overtaken := by
  have hboth : ((interleave plainEngine handInEach reviewed overtaken).writers,
      (reviewed.store.task? ⟨1⟩).map Task.instanceId,
      (reviewed.store.task? ⟨2⟩).map Task.instanceId) = ([true], some ⟨0⟩, some ⟨0⟩) := by cbv
  obtain ⟨hwriters, howners⟩ := Prod.mk.inj hboth
  obtain ⟨hfirst, hsecond⟩ := Prod.mk.inj howners
  have hops : ∀ k, (handInEach k).request.Concerns reviewed.store ⟨0⟩ := by
    intro k t ht
    cases k with
    | true =>
      rw [show reviewed.store.task? ⟨2⟩ = some t from ht] at hsecond
      exact Option.some.inj hsecond
    | false =>
      rw [show reviewed.store.task? ⟨1⟩ = some t from ht] at hfirst
      exact Option.some.inj hfirst
  have hn : (interleave plainEngine handInEach reviewed overtaken).writers.length < 2 ^ 64 := by
    rw [hwriters]
    decide
  refine ⟨hops, hn, (serializable_iff plainEngine_mints.draws hops hn).2 ?_⟩
  change CompletesOnce handInEach (interleave plainEngine handInEach reviewed overtaken).writers
  rw [hwriters]
  intro j hj k hk taskId _ _
  rw [List.mem_singleton.1 hj, List.mem_singleton.1 hk]

/-- Both of two overlapping completions of one task may write, where one after another only the
first one does. -/
theorem not_serializable_review : ¬ Serializable plainEngine handInTwice reviewed overlapped := by
  have hall : ((interleave plainEngine handInTwice reviewed overlapped).writers,
      ((interleave plainEngine handInTwice reviewed overlapped).world.store.instance? ⟨0⟩).map
        Instance.revision,
      ((inTurn plainEngine handInTwice reviewed [true, false]).2.store.instance? ⟨0⟩).map
        Instance.revision) = ([true, false], some 3, some 2) := by cbv
  obtain ⟨hwriters, hrevisions⟩ := Prod.mk.inj hall
  obtain ⟨hturns, hserial⟩ := Prod.mk.inj hrevisions
  intro h
  rw [h.world, hwriters, hserial] at hturns
  cases hturns

end Review

end Workflow
