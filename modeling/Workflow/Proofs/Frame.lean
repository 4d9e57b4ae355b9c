import Mathlib.Data.List.Nodup
import Workflow.Proofs.Calls
import Workflow.Proofs.Store
import Workflow.Proofs.Traversal

/-!
What a walk leaves alone, and the tasks that it creates: they are open, belong to its instance, and
have ids of their own as long as the supply gives no id twice.
-/
namespace Workflow

open Engine

/-- None of the ids drawn so far was drawn twice. -/
def Supply.Distinct (s : Supply) : Prop :=
  ∀ j k, j < s.drawn → k < s.drawn → s.ids j = s.ids k → j = k

theorem Supply.Distinct.of_grows {s s' : Supply} (h : s'.Distinct) (hs : s.Grows s') :
    s.Distinct := by
  intro j k hj hk hjk
  have hdrawn := hs.drawn
  exact h j k (by omega) (by omega) (by rwa [hs.ids])

/-- Tasks that are open and have ids drawn between two states of a supply, no position used twice. -/
def Minted (s s' : Supply) (ts : List Task) : Prop :=
  (∀ t ∈ ts, t.isOpen = true) ∧ ∃ positions : List Nat, positions.Nodup ∧
    (∀ p ∈ positions, s.drawn ≤ p ∧ p < s'.drawn) ∧ ts.map Task.id = positions.map s.ids

namespace Minted

variable {s s' s'' : Supply} {ts us : List Task}

theorem nil (s s' : Supply) : Minted s s' [] := ⟨by simp, [], List.nodup_nil, by simp, rfl⟩

theorem append (h : Minted s s' ts) (h' : Minted s' s'' us) (hs : s.Grows s')
    (hs' : s'.Grows s'') : Minted s s'' (ts ++ us) := by
  obtain ⟨hopen, ps, hps, hbound, hids⟩ := h
  obtain ⟨hopen', ps', hps', hbound', hids'⟩ := h'
  refine ⟨fun t ht => ?_, ps ++ ps', ?_, fun p hp => ?_, ?_⟩
  · rcases List.mem_append.1 ht with ht | ht
    · exact hopen t ht
    · exact hopen' t ht
  · -- the later ids are drawn at positions behind the earlier ones
    refine List.nodup_append.2 ⟨hps, hps', fun p hp q hq => ?_⟩
    exact Nat.ne_of_lt (Nat.lt_of_lt_of_le (hbound p hp).2 (hbound' q hq).1)
  · rcases List.mem_append.1 hp with hp | hp
    · exact ⟨(hbound p hp).1, Nat.lt_of_lt_of_le (hbound p hp).2 hs'.drawn⟩
    · exact ⟨Nat.le_trans hs.drawn (hbound' p hp).1, (hbound' p hp).2⟩
  · rw [List.map_append, List.map_append, hids, hids', hs.ids]

theorem nodup (h : Minted s s' ts) (hs : s.Grows s') (hd : s'.Distinct) :
    (ts.map Task.id).Nodup := by
  obtain ⟨-, ps, hps, hbound, hids⟩ := h
  rw [hids, ← hs.ids]
  refine List.Nodup.map_on (fun p hp q hq hpq => ?_) hps
  exact hd p q (hbound p hp).2 (hbound q hq).2 hpq

end Minted

/-! ### Task handlers -/

/-- A task handler whose tasks are open and have new ids. -/
structure TaskHandler.Mints (h : TaskHandler) : Prop where
  draws : ∀ earlier x (s : Supply), s.Grows (h earlier x s).2
  mints : ∀ {earlier x s ts s'}, h earlier x s = (.ok ts, s') → Minted s s' ts

theorem TaskHandler.Mints.grows {h : TaskHandler} (hm : h.Mints) {earlier : Nat} {x : Execution}
    {s s' : Supply} {r : Except String (List Task)} (hr : h earlier x s = (r, s')) :
    s.Grows s' := by
  have hdraws := hm.draws earlier x s
  rwa [hr] at hdraws

/-- All task handlers create open tasks with new ids. -/
def Registry.Mints (r : Registry) : Prop :=
  ∀ name h, r.taskHandler name = .ok h → h.Mints

theorem Registry.Mints.draws {r : Registry} (hr : r.Mints) : r.Draws :=
  fun name h hh => (hr name h hh).draws

namespace TaskHandler

theorem mints_single : Mints single where
  draws _ _ s := ⟨rfl, Nat.le_succ s.drawn⟩
  mints {_ _ s _ _} h := by
    cases h
    refine ⟨by simp [Task.create, Task.isOpen], [s.drawn], by simp, by simp, rfl⟩

theorem tasksFor_mints (x : Execution) (groups : List (List String)) (s : Supply) :
    s.Grows (tasksFor x groups s).2 ∧
      Minted s (tasksFor x groups s).2 (tasksFor x groups s).1 := by
  induction groups generalizing s with
  | nil => exact ⟨.refl s, .nil s s⟩
  | cons assignees groups ih =>
    obtain ⟨hgrows, hminted⟩ := ih s.fresh.2
    have hfresh : s.Grows s.fresh.2 := ⟨rfl, Nat.le_succ s.drawn⟩
    have hone : Minted s s.fresh.2 [.create s.fresh.1 x.instanceId x.node.id assignees x.now] :=
      ⟨by simp [Task.create, Task.isOpen], [s.drawn], by simp, by simp [Supply.fresh], rfl⟩
    exact ⟨hfresh.trans hgrows, hone.append hminted hfresh hgrows⟩

theorem mints_perAssignee : Mints perAssignee where
  draws earlier x s := by
    unfold perAssignee
    split
    · exact .refl s
    · exact (tasksFor_mints x _ s).1
  mints {earlier x s ts s'} h := by
    unfold perAssignee at h
    split at h
    · cases h
    · cases h
      exact (tasksFor_mints x _ s).2

end TaskHandler

/-- The handlers of the registry without further ones. -/
theorem Registry.taskHandler_of_standard {r : Registry} {name : Option String} {h : TaskHandler}
    (hr : r.task = standard.task) (hh : r.taskHandler name = .ok h) :
    h = if name.getD defaultName = perAssigneeName then .perAssignee else .single := by
  rw [taskHandler, hr] at hh
  simp only [standard, Dict.ofList, Dict.insertAll, List.foldl, Dict.get?_insert,
    Dict.get?_empty] at hh
  by_cases hper : name.getD defaultName = perAssigneeName
  · simp only [if_pos hper] at hh ⊢
    cases hh
    rfl
  · simp only [if_neg hper] at hh ⊢
    split at hh <;> cases hh
    rename_i hsome
    split at hsome <;> cases hsome
    rfl

/-- The registry without further task handlers creates open tasks with new ids. -/
theorem Registry.mints_of_standard {r : Registry} (hr : r.task = standard.task) : r.Mints := by
  intro name h hh
  rw [taskHandler_of_standard hr hh]
  split
  · exact TaskHandler.mints_perAssignee
  · exact TaskHandler.mints_single

theorem Registry.Mints.withTask {r : Registry} {name : String} {h : TaskHandler} (hr : r.Mints)
    (hh : h.Mints) : (r.withTask name h).Mints := by
  intro name' h' hh'
  unfold taskHandler Registry.withTask at hh'
  rw [Dict.get?_insert] at hh'
  by_cases hname : name'.getD defaultName = name
  · rw [if_pos hname] at hh'
    cases hh'
    exact hh
  · rw [if_neg hname] at hh'
    exact hr name' h' hh'

/-! ### Walks -/

namespace Engine

/-- A step whose instance has been written over in its tokens, variables and failure at most, and that
has only created more tasks. -/
structure Frame (supply : Supply) (s : Step) (supply' : Supply) (s' : Step) : Prop where
  grows : supply.Grows supply'
  record : s'.record = { s.record with
    currentNodes := s'.record.currentNodes
    vars := s'.record.vars
    joinArrivals := s'.record.joinArrivals
    failure := s'.record.failure }
  now : s'.now = s.now
  updated : s'.updated = s.updated
  created : ∃ ts, s'.created = s.created ++ ts ∧ (∀ t ∈ ts, t.instanceId = s.record.id) ∧
    Minted supply supply' ts

namespace Frame

variable {supply supply' supply'' : Supply} {s s' s'' : Step}

theorem of_record (h : s'.record = { s.record with
    currentNodes := s'.record.currentNodes
    vars := s'.record.vars
    joinArrivals := s'.record.joinArrivals
    failure := s'.record.failure })
    (hnow : s'.now = s.now) (hupdated : s'.updated = s.updated) (hcreated : s'.created = s.created) :
    Frame supply s supply s' :=
  ⟨.refl supply, h, hnow, hupdated, [], by simp [hcreated], by simp, .nil supply supply⟩

theorem refl (supply : Supply) (s : Step) : Frame supply s supply s := of_record rfl rfl rfl rfl

theorem id_eq (h : Frame supply s supply' s') : s'.record.id = s.record.id := by rw [h.record]

theorem moved (h : Frame supply s supply' s') : s.Moved s' := by
  obtain ⟨ts, hts, howner, -⟩ := h.created
  exact ⟨h.record, h.now, h.updated, ts, hts, howner⟩

theorem trans (h : Frame supply s supply' s') (h' : Frame supply' s' supply'' s'') :
    Frame supply s supply'' s'' where
  grows := h.grows.trans h'.grows
  record := by rw [h'.record, h.record]
  now := h'.now.trans h.now
  updated := h'.updated.trans h.updated
  created := by
    obtain ⟨ts, hts, howner, hminted⟩ := h.created
    obtain ⟨us, hus, howner', hminted'⟩ := h'.created
    refine ⟨ts ++ us, by rw [hus, hts, List.append_assoc], fun t ht => ?_,
      hminted.append hminted' h.grows h'.grows⟩
    rcases List.mem_append.1 ht with ht | ht
    · exact howner t ht
    · rw [howner' t ht, h.id_eq]

end Frame

section Moves

variable {e : Engine} {d : Definition} {supply supply' : Supply}

theorem Entry.frame {n : Node} {s s' : Step} {more : List Token} (hr : e.registry.Mints)
    (h : Entry e d n supply s s' more supply') : Frame supply s supply' s' := by
  cases h with
  | passes hk => exact .refl supply s
  | ends hk => exact .refl supply s
  | idles hk hh hts =>
    exact ⟨(hr _ _ hh).grows hts, rfl, rfl, rfl, [], by simp, by simp, .nil supply supply'⟩
  | parks hk hh hts hne hown =>
    exact ⟨(hr _ _ hh).grows hts, rfl, rfl, rfl, _, rfl, fun t ht => (hown t ht).1,
      (hr _ _ hh).mints hts⟩
  | fires hk hfull => exact .of_record rfl rfl rfl rfl
  | gathers hk hshort => exact .of_record rfl rfl rfl rfl

theorem frame_leave (n : Node) (targets : List String) (s : Step) (supply : Supply) :
    Frame supply s supply (leave n targets s) := by
  unfold leave
  split
  · exact .of_record rfl rfl rfl rfl
  · exact .refl supply s

theorem Move.frame {x y : Walk} (hr : e.registry.Mints) (h : Move e d supply x supply' y) :
    Frame supply x.step supply' y.step := by
  cases h with
  | @enters id entered queue s n vars s' more supply supply' hn hentry =>
    have hvars : Frame supply s supply (s.setVars vars) := .of_record rfl rfl rfl rfl
    exact hvars.trans (hentry.frame hr)
  | leaves hn htargets => exact frame_leave _ _ _ supply
  | releases hstarved => exact .of_record rfl rfl rfl rfl

theorem follow_frame {o : Opening} {s : Step} {a a' : Ambient} (hr : e.registry.Mints)
    (h : follow e o a = (.ok s, a')) : Frame a.supply o.step a'.supply s := by
  apply follow_keeps (P := fun supply s => Frame a.supply o.step supply s) _ _ h
  · exact fun hm hs => hs.trans (hm.frame hr)
  · exact .refl a.supply o.step

end Moves

end Engine

end Workflow
