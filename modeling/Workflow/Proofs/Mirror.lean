import Workflow.Proofs.History

/-!
Definitions in the cache. An engine that caches definitions keeps there what the store has
(`mirrored_history`), so that looking up a definition changes nothing.
-/
namespace Workflow

open Time (Instant)
open Engine Engine.Action

/-- Every stored definition is in the cache, if definitions are to be there. -/
def Mirrored (e : Engine) (w : World) : Prop :=
  e.config.cacheDefinitions = true → ∀ n d, w.store.definition? n = some d →
    w.cache.get? (definitionKey n) = some d.toValue

theorem definitionKey_injective {n n' : String} (h : definitionKey n = definitionKey n') :
    n = n' := by
  have hlist := congrArg String.toList h
  rw [definitionKey, definitionKey, String.toList_append, String.toList_append] at hlist
  exact String.toList_inj.1 (List.append_cancel_left hlist)

theorem reminderKey_ne_definitionKey (i : Instance) (source : Scheduler.Source)
    (occurrence : Instant) (n : String) :
    Scheduler.reminderKey i source occurrence ≠ definitionKey n := by
  intro h
  have hlist := congrArg String.toList h
  -- the keys begin with different words
  simp [Scheduler.reminderKey, definitionKey, String.toList_append, toString] at hlist

/-- A call that leaves these definitions alone, and that keeps nothing else under keys of definitions. -/
def Call.Mirrors (definitions : Dict String Definition) : Call → Prop
  | saveDefinition _ => False
  | remember k v => ∀ n, k = definitionKey n → ∃ d, definitions.get? n = some d ∧ v = d.toValue
  | _ => True

variable {e : Engine} {w : World} {definitions : Dict String Definition}

theorem World.definitions_answer {c : Call} (h : c.Mirrors definitions) :
    (w.answer c).2.store.definitions = w.store.definitions := by
  cases hc : c.written? with
  | some i =>
    rcases w.answer_write hc with hsame | hwrote
    · rw [hsame]
    · exact hwrote.definitions
  | none =>
    cases c with
    | saveDefinition d => exact h.elim
    | saveInstance i => cases hc
    | commit c => cases hc
    | _ => rfl

theorem Mirrored.answer {c : Call} (h : Mirrored e w) (hc : c.Mirrors w.store.definitions) :
    Mirrored e (w.answer c).2 := by
  intro hcaches n d hd
  rw [Store.definition?, World.definitions_answer hc] at hd
  have hold := h hcaches n d hd
  cases hwritten : c.written? with
  | some i =>
    rcases w.answer_write hwritten with hsame | hwrote
    · rw [hsame, hold]
    · rw [hwrote.cache, hold]
  | none =>
    cases c with
    | remember k v =>
      change (w.cache.put k v).get? (definitionKey n) = _
      rw [Cache.get?_put]
      by_cases hk : definitionKey n = k
      · obtain ⟨d', hd', hv⟩ := hc n hk.symm
        rw [if_pos hk, hv, Option.some.inj (hd'.symm.trans hd)]
      · rw [if_neg hk, hold]
    | saveDefinition d => exact hc.elim
    | saveInstance i => cases hwritten
    | commit c => cases hwritten
    | _ => exact hold

theorem permits_mirrors : Permits e (fun w => w.store.definitions = definitions)
    (Call.Mirrors definitions) where
  reads c hc := by cases c <;> trivial
  keeps _ {w n d} hw hd := by
    intro n' hkey
    rw [← definitionKey_injective hkey, ← hw]
    exact ⟨d, hd, rfl⟩
  commits _ := trivial
  saves _ := trivial
  marks i source occurrence v n hkey :=
    absurd hkey (reminderKey_ne_definitionKey i source occurrence n)
  acquires := trivial
  releases := trivial

/-- A request that deploys nothing leaves the stored definitions alone, and keeps what calls keep that
mirror them. -/
theorem mirrors_serve {x : Session} {r : Request} {I : World → Prop} (hr : ∀ d, r ≠ .deploy d)
    (hI : ∀ w c, c.Mirrors w.store.definitions → I w → I (w.answer c).2) (hx : I x.world) :
    (x.serve e r).store.definitions = x.store.definitions ∧ I (x.serve e r).world := by
  have hpermits : Permits e (fun w => w.store.definitions = x.store.definitions) _ := permits_mirrors
  refine Session.world_serve (I := fun w => w.store.definitions = x.store.definitions ∧ I w)
    hpermits (fun _ hw => hw.1) (fun w c hc hw => ?_) (fun d hd => absurd hd (hr d)) ⟨rfl, hx⟩
  rw [← hw.1] at hc
  exact ⟨(World.definitions_answer hc).trans hw.1, hI w c hc hw.2⟩

theorem mirrored_deploy {a : Ambient} (d : Definition) (h : Mirrored e w) :
    Mirrored e (Action.run w a (deploy e d)).2 := by
  rcases hrun : Action.run w a (deploy e d) with ⟨⟨r, a'⟩, w'⟩
  rcases deploy_cases hrun with ⟨-, rfl⟩ | ⟨-, -, rfl⟩
  · exact h
  intro hcaches n d' hd'
  simp only [defining, if_pos hcaches]
  change (w.store.definitions.insert d.id d).get? n = some d' at hd'
  rw [Dict.get?_insert] at hd'
  rw [Cache.get?_put]
  by_cases hn : n = d.id
  · rw [if_pos hn] at hd'
    rw [if_pos (congrArg definitionKey hn), Option.some.inj hd']
  · rw [if_neg hn] at hd'
    rw [if_neg fun hkey => hn (definitionKey_injective hkey)]
    exact h hcaches n d' hd'

theorem mirrored_serve {x : Session} {r : Request} (h : Mirrored e x.world) :
    Mirrored e (x.serve e r).world := by
  by_cases hdeploy : ∃ d, r = .deploy d
  · obtain ⟨d, rfl⟩ := hdeploy
    exact mirrored_deploy d h
  · exact (mirrors_serve (fun d hd => hdeploy ⟨d, hd⟩) (fun _ _ hc hw => hw.answer hc) h).2

/-- In every history, the cache has the definitions that the store has. -/
theorem mirrored_history {s : Supply} (rs : List Request) : Mirrored e (history e s rs).world := by
  induction rs using List.reverseRecOn with
  | nil => exact fun _ _ _ hd => nomatch hd
  | append_singleton rs r ih =>
    rw [history_concat]
    exact mirrored_serve ih

end Workflow
