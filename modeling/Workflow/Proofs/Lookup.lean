import Workflow.Proofs.Atomicity
import Workflow.Proofs.Encoding
import Workflow.Proofs.Mirror
import Workflow.Proofs.Paths

/-!
Looking up definitions. In every history the store has definitions that passed the checks, each under
its id, and the cache has copies of these at most (`faithful_history`). So whoever looks up a definition
finds the one that is stored, apart from the work times of its reminders, which have no part in the way
of tokens.
-/
namespace Workflow

open Engine Engine.Action

/-! ### Apart from work times -/

namespace Definition

variable {d d' : Definition} {a : String}

theorem id_of_anytime (h : d'.anytime = d.anytime) : d'.id = d.id := by
  have hid := congrArg (fun d : Definition => d.id) h
  exact hid

theorem hasNode_anytime : d.anytime.hasNode a = d.hasNode a := by
  rw [hasNode, hasNode, anytime, List.any_map]
  rfl

theorem successors_anytime : d.anytime.successors a = d.successors a := by
  rw [successors, successors, anytime, List.filter_map, List.flatMap_map]
  rfl

theorem leads_of_anytime (h : d'.anytime = d.anytime) : d'.Leads = d.Leads := by
  funext a b
  rw [Leads, Leads, ← successors_anytime (d := d'), h, successors_anytime]

theorem hasNode_of_anytime (h : d'.anytime = d.anytime) : d'.hasNode a = d.hasNode a := by
  rw [← hasNode_anytime, h, hasNode_anytime]

theorem reachableFrom_of_anytime (h : d'.anytime = d.anytime) :
    d'.reachableFrom a = d.reachableFrom a := by
  apply NameSet.ext
  intro b
  rw [mem_reachableFrom, mem_reachableFrom, hasNode_of_anytime h, hasNode_of_anytime h,
    leads_of_anytime h]

theorem starvedJoin?_of_anytime (h : d'.anytime = d.anytime) (i : Instance) :
    starvedJoin? d' i = starvedJoin? d i := by
  simp only [starvedJoin?, starvedJoins, isReachedBy, reachableFrom_of_anytime h]

theorem startNode?_anytime : d.anytime.startNode? = d.startNode?.map Node.anytime := by
  have hkind : ∀ n : Node, n.anytime.kind.isStart = n.kind.isStart := by
    intro n
    cases hk : n.kind <;> simp [Node.anytime, NodeKind.anytime, hk, NodeKind.isStart]
  rw [startNode?, startNode?, anytime, List.find?_map]
  simp only [Function.comp_def, hkind]

theorem startNode?_of_anytime {start : Node} (h : d'.anytime = d.anytime)
    (hs : d'.startNode? = some start) : ∃ start', d.startNode? = some start' ∧ start'.id = start.id := by
  have hsame : d.startNode?.map Node.anytime = d'.startNode?.map Node.anytime := by
    rw [← startNode?_anytime, ← h, startNode?_anytime]
  rw [hs] at hsame
  obtain ⟨start', hs', hstart⟩ := Option.map_eq_some_iff.1 hsame
  have hid := congrArg Node.id hstart
  exact ⟨start', hs', hid⟩

theorem fromStart_of_anytime (h : d'.anytime = d.anytime) (ha : d'.FromStart a) : d.FromStart a := by
  obtain ⟨start, hs, hpath⟩ := ha
  obtain ⟨start', hs', hid⟩ := startNode?_of_anytime h hs
  refine ⟨start', hs', ?_⟩
  rwa [hid, ← leads_of_anytime h]

end Definition

/-! ### Stored definitions and their copies -/

/-- Stored definitions have passed the checks and have the ids that they are stored under, and the cache
has copies of them only, if definitions are to be there. -/
structure Faithful (e : Engine) (w : World) : Prop where
  named : ∀ {n d}, w.store.definition? n = some d → d.id = n
  checked : ∀ {n d}, w.store.definition? n = some d → check e d = .ok ()
  copied : e.config.cacheDefinitions = true → ∀ {n v}, w.cache.get? (definitionKey n) = some v →
    ∃ d, w.store.definition? n = some d ∧ v = d.toValue

namespace Faithful

variable {e : Engine} {w : World} {d : Definition} {n : String}

theorem answer {c : Call} (h : Faithful e w) (hc : c.Mirrors w.store.definitions) :
    Faithful e (w.answer c).2 := by
  have hsame : ∀ n, (w.answer c).2.store.definition? n = w.store.definition? n := fun n => by
    rw [Store.definition?, World.definitions_answer hc, Store.definition?]
  refine ⟨fun hd => h.named (hsame _ ▸ hd), fun hd => h.checked (hsame _ ▸ hd),
    fun hcaches {n v} hv => ?_⟩
  rw [hsame]
  cases hwritten : c.written? with
  | some i =>
    rcases w.answer_write hwritten with hkept | hwrote
    · rw [hkept] at hv
      exact h.copied hcaches hv
    · rw [hwrote.cache] at hv
      exact h.copied hcaches hv
  | none =>
    cases c with
    | remember k v' =>
      change (w.cache.put k v').get? (definitionKey n) = some v at hv
      rw [Cache.get?_put] at hv
      by_cases hk : definitionKey n = k
      · rw [if_pos hk] at hv
        rw [← Option.some.inj hv]
        exact hc n hk.symm
      · rw [if_neg hk] at hv
        exact h.copied hcaches hv
    | saveDefinition d => exact hc.elim
    | saveInstance i => cases hwritten
    | commit c => cases hwritten
    | _ => exact h.copied hcaches hv

theorem defining (h : Faithful e w) (hd : check e d = .ok ()) :
    Faithful e (Engine.defining e w d) := by
  have hget : ∀ n, (Engine.defining e w d).store.definition? n =
      if n = d.id then some d else w.store.definition? n := fun n => Dict.get?_insert _ _ _ _
  refine ⟨fun {n d'} hd' => ?_, fun {n d'} hd' => ?_, fun hcaches {n v} hv => ?_⟩
  · rw [hget] at hd'
    split at hd'
    · rename_i hn
      rw [hn, Option.some.inj hd']
    · exact h.named hd'
  · rw [hget] at hd'
    split at hd'
    · exact Option.some.inj hd' ▸ hd
    · exact h.checked hd'
  · rw [hget]
    simp only [Engine.defining, if_pos hcaches] at hv
    rw [Cache.get?_put] at hv
    by_cases hn : n = d.id
    · rw [if_pos (congrArg definitionKey hn)] at hv
      exact ⟨d, if_pos hn, (Option.some.inj hv).symm⟩
    · rw [if_neg fun hkey => hn (definitionKey_injective hkey)] at hv
      rw [if_neg hn]
      exact h.copied hcaches hv

/-- What is found under a name is what is stored there, apart from work times. -/
theorem exists_of_resolves (h : Faithful e w) (hd : Resolves e w n d) :
    ∃ d', w.store.definition? n = some d' ∧ d.anytime = d'.anytime := by
  cases hd with
  | cached hcaches hv hread =>
    obtain ⟨d', hd', rfl⟩ := h.copied hcaches hv
    exact ⟨d', hd', Definition.anytime_of_ofValue? hread⟩
  | loaded hd hcheck => exact ⟨d, hd, rfl⟩

theorem id_of_resolves (h : Faithful e w) (hd : Resolves e w n d) : d.id = n := by
  obtain ⟨d', hd', hsame⟩ := h.exists_of_resolves hd
  rw [Definition.id_of_anytime hsame, h.named hd']

end Faithful

namespace Session

variable {e : Engine} {x : Session} {r : Request} {d : Definition}

theorem faithful_serve (h : Faithful e x.world) : Faithful e (x.serve e r).world := by
  by_cases hdeploy : ∃ d, r = .deploy d
  · obtain ⟨d, rfl⟩ := hdeploy
    rcases hrun : Action.run x.world x.ambient (deploy e d) with ⟨⟨ret, a'⟩, w'⟩
    rw [serve_eq hrun]
    rcases deploy_cases hrun with ⟨-, rfl⟩ | ⟨-, hd, rfl⟩
    · exact h
    · exact h.defining hd
  · exact (mirrors_serve (fun d hd => hdeploy ⟨d, hd⟩) (fun _ _ hc hw => hw.answer hc) h).2

/-- In every history, definitions are what was deployed, and copies of them. -/
theorem faithful_history {s : Supply} (rs : List Request) :
    Faithful e (history e s rs).world := by
  induction rs using List.reverseRecOn with
  | nil => exact ⟨(fun hd => nomatch hd), (fun hd => nomatch hd), fun _ _ _ hv => nomatch hv⟩
  | append_singleton rs r ih =>
    rw [history_concat]
    exact faithful_serve ih

/-- The tokens of an instance go through the definition that its id leads to. -/
theorem resolves_of_opening {opening : Action Opening} {queue : List Token} {s : Step} {w w' : World}
    {a a' : Ambient} (hw : Faithful e w) (hr : r.opening? e = some opening)
    (h : Action.run w a opening = ((.ok (.walks d queue s), a'), w')) :
    Resolves e w s.record.definitionId d := by
  cases r with
  | start name vars =>
    cases hr
    obtain ⟨d', start, now, hd, -, -, hopens⟩ := startOpening_ok h
    cases hopens
    change Resolves e w d.id d
    rw [hw.id_of_resolves hd]
    exact hd
  | complete taskId output =>
    cases hr
    obtain ⟨t, i, d', now, -, -, -, -, hd, hopens⟩ := completeOpening_ok h
    split at hopens
    · cases hopens
    · cases hopens
      exact hd
  | retry id =>
    cases hr
    obtain ⟨i, f, d', now, -, -, -, hd, hopens⟩ := retryOpening_ok h
    rw [pickUp_eq] at hopens
    cases hopens
    exact hd
  | deploy d => cases hr
  | updateVariables id vars => cases hr
  | terminate id => cases hr
  | tick tolerance now => cases hr

end Session

/-! ### Definitions that stay in force -/

/-- No other definition is deployed in the place of this one. -/
def Definition.Stands (d : Definition) (rs : List Request) : Prop :=
  ∀ d', Request.deploy d' ∈ rs → d'.id = d.id → d' = d

namespace Session

variable {e : Engine} {s : Supply} {x : Session} {r : Request} {d : Definition}

theorem definition?_serve (hd : x.store.definition? d.id = some d) (hr : d.Stands [r]) :
    (x.serve e r).store.definition? d.id = some d := by
  by_cases hdeploy : ∃ d', r = .deploy d'
  · obtain ⟨d', rfl⟩ := hdeploy
    rcases hrun : Action.run x.world x.ambient (deploy e d') with ⟨⟨ret, a'⟩, w'⟩
    rw [serve_eq hrun]
    rcases deploy_cases hrun with ⟨-, rfl⟩ | ⟨-, -, rfl⟩
    · exact hd
    · change (x.store.definitions.insert d'.id d').get? d.id = some d
      rw [Dict.get?_insert]
      split
      · rename_i hid
        rw [hr d' (List.mem_singleton_self _) hid.symm]
      · exact hd
  · have hsame := (mirrors_serve (e := e) (x := x) (I := fun _ => True)
      (fun d hd => hdeploy ⟨d, hd⟩) (fun _ _ _ _ => trivial) trivial).1
    rw [Store.definition?, hsame]
    exact hd

/-- A session in which a definition is in force. -/
structure InForce (e : Engine) (d : Definition) (x : Session) : Prop where
  sound : x.store.Sound
  faithful : Faithful e x.world
  stored : x.store.definition? d.id = some d

namespace InForce

theorem serve (h : InForce e d x) (hr : d.Stands [r]) : InForce e d (x.serve e r) :=
  ⟨sound_serve h.sound, faithful_serve h.faithful, definition?_serve h.stored hr⟩

/-- Whoever looks a definition up finds the one in force, apart from work times. -/
theorem anytime {d' : Definition} (h : InForce e d x) (hd : Resolves e x.world d.id d') :
    d'.anytime = d.anytime := by
  obtain ⟨d'', hd'', hsame⟩ := h.faithful.exists_of_resolves hd
  rw [hsame, Option.some.inj (hd''.symm.trans h.stored)]

/-- What every request keeps while a definition is in force is kept as long as it stands. -/
theorem induction {P : Session → Prop} {earlier later : List Request}
    (hserve : ∀ {x r}, InForce e d x → P x → P (x.serve e r))
    (hd : (history e s earlier).store.definition? d.id = some d) (hl : d.Stands later)
    (h : P (history e s earlier)) :
    InForce e d (history e s (earlier ++ later)) ∧ P (history e s (earlier ++ later)) := by
  induction later using List.reverseRecOn with
  | nil =>
    rw [List.append_nil]
    exact ⟨⟨sound_history earlier, faithful_history earlier, hd⟩, h⟩
  | append_singleton later r ih =>
    rw [← List.append_assoc, history_concat]
    obtain ⟨hforce, hP⟩ := ih fun d' hmem => hl d' (List.mem_append_left _ hmem)
    exact ⟨hforce.serve fun d' hmem => hl d' (List.mem_append_right _ hmem), hserve hforce hP⟩

end InForce

end Session

end Workflow
