import Workflow.Proofs.Waiting

/-!
What a walk leaves behind. A node is taken off the list of nodes where tokens wait for one reason, while
others may still hold there; what waits at a node that is not listed was left behind in this way
(`advance_told`).
-/
namespace Workflow

open Engine

/-- A node that was taken off the list of nodes where tokens wait, and whether something still waited
there afterwards. -/
structure Unparking where
  node : String
  left : Prop

/-- Whether something still waited at a node after it was taken off the list for the last time. -/
def LeftBehind (us : List Unparking) (node : String) : Prop :=
  us.foldl (fun left u => if u.node = node then u.left else left) False

theorem leftBehind_concat {us : List Unparking} {u : Unparking} {node : String} :
    LeftBehind (us ++ [u]) node ↔ if u.node = node then u.left else LeftBehind us node := by
  rw [LeftBehind, List.foldl_append]
  rfl

theorem leftBehind_append_map {ns : List String} {left : String → Prop} {us : List Unparking}
    {node : String} : LeftBehind (us ++ ns.map fun n => ⟨n, left n⟩) node ↔
      (node ∈ ns ∧ left node) ∨ (node ∉ ns ∧ LeftBehind us node) := by
  induction ns generalizing us with
  | nil => simp
  | cons n ns ih =>
    rw [List.map_cons, List.append_cons, ih, leftBehind_concat, List.mem_cons]
    by_cases hn : n = node
    · subst hn
      by_cases hns : n ∈ ns <;> simp [hns]
    · simp [hn, Ne.symm hn]

/-- Something waits at a node that is not listed just if it was left behind there. -/
def Told (waits : String → Prop) (listed : NameSet) (us : List Unparking) : Prop :=
  ∀ n, ¬ n ∈ listed → (waits n ↔ LeftBehind us n)

namespace Told

variable {waits waits' : String → Prop} {listed listed' : NameSet} {us : List Unparking}

theorem keep (h : Told waits listed us)
    (hn : ∀ n, ¬ n ∈ listed' → ¬ n ∈ listed ∧ (waits' n ↔ waits n)) : Told waits' listed' us :=
  fun n hout => (hn n hout).2.trans (h n (hn n hout).1)

/-- A node that is put on the list need not be told of any more. -/
theorem park {n : String} (h : Told waits listed us) (hn : ∀ m, m ≠ n → (waits' m ↔ waits m)) :
    Told waits' (listed.insert n) us := by
  intro m hout
  have hother : ¬ (m = n ∨ m ∈ listed) := fun hm => hout (NameSet.mem_insert.2 hm)
  rw [not_or] at hother
  exact (hn m hother.1).trans (h m hother.2)

theorem unpark {ns : List String} {left : String → Prop} (h : Told waits listed us)
    (hn : ∀ n, n ∉ ns → ¬ n ∈ listed' → ¬ n ∈ listed ∧ (waits' n ↔ waits n))
    (hleft : ∀ n ∈ ns, waits' n ↔ left n) :
    Told waits' listed' (us ++ ns.map fun n => ⟨n, left n⟩) := by
  intro n hout
  rw [leftBehind_append_map]
  by_cases hmem : n ∈ ns
  · simp [hmem, hleft n hmem]
  · have hother := hn n hmem hout
    simpa [hmem] using hother.2.trans (h n hother.1)

end Told

namespace Engine

variable {e : Engine} {d : Definition} {s s' : Step} {base : String → Prop} {us : List Unparking}
  {supply supply' : Supply}

/-! ### During a walk -/

/-- The node that entering one takes off the list. -/
def fills? (d : Definition) (s : Step) (n : Node) : Option String :=
  match n.kind with
  | .join declared =>
    if expectedArrivals d n declared ≤ (s.arrive n.id).1 then some n.id else none
  | _ => none

/-- The node that the next move of a walk takes off the list: a join that is full, or one that
starves. -/
def Walk.unparks? (d : Definition) (x : Walk) : Option String :=
  match x.queue with
  | [] => starvedJoin? d x.step.record
  | .leave _ :: _ => none
  | .enter id :: _ => (d.node? id).bind (fills? d x.step)

/-- With the join its arrivals are gone, so that only tasks and stuck tokens can be left there. -/
def Walk.unparkings (d : Definition) (base : String → Prop) (x : Walk) : List Unparking :=
  (x.unparks? d).toList.map fun n => ⟨n, x.step.Busy base n ∨ x.step.record.StuckAt n⟩

/-- The states of a walk from one on. -/
def trail (e : Engine) (d : Definition) (x : Walk) (a : Ambient) : List Walk :=
  x :: match _h : move e d x a with
    | (.ok (some y), a) => trail e d y a
    | _ => []
  termination_by x.remaining e
  decreasing_by exact remaining_move _h

theorem trail_cons {x y : Walk} {a a' : Ambient} (h : move e d x a = (.ok (some y), a')) :
    trail e d x a = x :: trail e d y a' := by
  rw [trail, h]

theorem trail_last {x : Walk} {a a' : Ambient} (h : move e d x a = (.ok none, a')) :
    trail e d x a = [x] := by
  rw [trail, h]

theorem mem_trail_self (x : Walk) (a : Ambient) : x ∈ trail e d x a := by
  rw [trail]
  exact List.mem_cons_self ..

/-- What waits in a step. -/
def Step.Waits (base : String → Prop) (s : Step) (node : String) : Prop :=
  Workflow.Waits (s.Busy base) s.record node

theorem waits_release {join node : String} : (s.release join).Waits base node ↔
    if node = join then s.Busy base join ∨ s.record.StuckAt join else s.Waits base node := by
  have hcontains : (s.release join).record.joinArrivals.contains node =
      (!decide (node = join) && s.record.joinArrivals.contains node) :=
    Dict.contains_erase _ _ _
  unfold Step.Waits Waits
  rw [hcontains]
  by_cases h : node = join
  · subst h
    rw [if_pos rfl]
    simp only [decide_true, Bool.not_true, Bool.false_and, Bool.false_eq_true, false_or]
    exact Iff.rfl
  · rw [if_neg h]
    simp only [h, decide_false, Bool.not_false, Bool.true_and]
    exact Iff.rfl

theorem waits_arrive {join node : String} (h : node ≠ join) :
    (s.arrive join).2.Waits base node ↔ s.Waits base node := by
  have hcontains : (s.arrive join).2.record.joinArrivals.contains node =
      (decide (node = join) || s.record.joinArrivals.contains node) :=
    Dict.contains_insert _ _ _ _
  unfold Step.Waits Waits
  rw [hcontains]
  simp only [h, decide_false, Bool.false_or]
  exact Iff.rfl

/-- A join that is released need not have been told of before. -/
theorem told_release {join : String}
    (hs : ∀ n, n ≠ join → ¬ n ∈ s.record.currentNodes → (s.Waits base n ↔ LeftBehind us n)) :
    Told ((s.release join).Waits base) (s.release join).record.currentNodes
      (us ++ [join].map fun n => ⟨n, s.Busy base n ∨ s.record.StuckAt n⟩) := by
  intro n hout
  rw [leftBehind_append_map, waits_release]
  by_cases hn : n = join
  · subst hn
    simp
  · have hunlisted : ¬ n ∈ s.record.currentNodes := fun h => hout (NameSet.mem_erase.2 ⟨hn, h⟩)
    rw [if_neg hn, hs n hn hunlisted]
    simp [hn]

theorem told_leave {n : Node} (targets : List String)
    (hs : Told (s.Waits base) s.record.currentNodes us) :
    Told ((leave n targets s).Waits base) (leave n targets s).record.currentNodes us := by
  unfold leave
  split
  · apply hs.park
    intro m hne
    refine or_congr Iff.rfl (or_congr Iff.rfl ?_)
    rw [stuckAt_flag]
    simp [hne]
  · exact hs

theorem fills?_of_not_join {n : Node} (h : ∀ declared, n.kind ≠ .join declared) :
    fills? d s n = none := by
  unfold fills?
  split
  · rename_i declared hjoin
    exact absurd hjoin (h declared)
  · rfl

theorem fills?_of_join {n : Node} {declared : Option UInt32} (hk : n.kind = .join declared) :
    fills? d s n =
      if expectedArrivals d n declared ≤ (s.arrive n.id).1 then some n.id else none := by
  unfold fills?
  rw [hk]

/-- New tasks are all open at the node that was entered. -/
theorem waits_create {n node : String} {ts : List Task} (hown : ∀ t ∈ ts, t.node = n)
    (hne : node ≠ n) : Step.Waits base { s.wait n with created := s.created ++ ts } node ↔
      s.Waits base node := by
  refine or_congr (or_congr Iff.rfl ⟨?_, ?_⟩) Iff.rfl
  · rintro ⟨t, ht, hopen, hnode⟩
    rcases List.mem_append.1 ht with ht | ht
    · exact ⟨t, ht, hopen, hnode⟩
    · exact absurd (hnode.symm.trans (hown t ht)) hne
  · rintro ⟨t, ht, hopen, hnode⟩
    exact ⟨t, List.mem_append_left _ ht, hopen, hnode⟩

theorem Entry.told {n : Node} {more : List Token} (h : Entry e d n supply s s' more supply')
    (hs : Told (s.Waits base) s.record.currentNodes us) :
    Told (s'.Waits base) s'.record.currentNodes
      (us ++ (fills? d s n).toList.map fun m => ⟨m, s.Busy base m ∨ s.record.StuckAt m⟩) := by
  cases h with
  | passes hk =>
    rw [fills?_of_not_join (by rcases hk with hk | hk <;> simp [hk])]
    simpa using hs
  | ends hk =>
    rw [fills?_of_not_join (by simp [hk])]
    simpa using hs
  | idles hk hh hts =>
    rw [fills?_of_not_join (by simp [hk])]
    simpa using hs
  | parks hk hh hts hne hown =>
    rw [fills?_of_not_join (by simp [hk]), Option.toList_none, List.map_nil, List.append_nil]
    apply hs.park
    exact fun m hm => waits_create (fun t ht => (hown t ht).2) hm
  | fires hk hfull =>
    rw [fills?_of_join hk, if_pos hfull]
    -- the arrival counts for the join alone, and goes with it
    apply told_release (s := (s.arrive n.id).2)
    intro m hne hout
    rw [waits_arrive hne]
    exact hs m hout
  | gathers hk hshort =>
    rw [fills?_of_join hk, if_neg hshort, Option.toList_none, List.map_nil, List.append_nil]
    apply hs.park
    intro m hm
    have harrive : (s.arrive n.id).2.Waits base m ↔ s.Waits base m := waits_arrive hm
    exact harrive

theorem Move.told {x y : Walk} (h : Move e d supply x supply' y)
    (hx : Told (x.step.Waits base) x.step.record.currentNodes us) :
    Told (y.step.Waits base) y.step.record.currentNodes (us ++ x.unparkings d base) := by
  cases h with
  | @enters id entered queue s n vars s' more supply supply' hn hentry =>
    have hvars : Told ((s.setVars vars).Waits base) (s.setVars vars).record.currentNodes us := hx
    have hunparks : Walk.unparks? d ⟨entered, .enter id :: queue, s⟩ = fills? d s n :=
      congrArg (Option.bind · (fills? d s)) hn
    rw [Walk.unparkings, hunparks]
    exact hentry.told hvars
  | @leaves id entered queue s n targets supply hn htargets =>
    rw [Walk.unparkings, Walk.unparks?, Option.toList_none, List.map_nil, List.append_nil]
    exact told_leave targets hx
  | releases hstarved =>
    rw [Walk.unparkings, Walk.unparks?, hstarved]
    exact told_release fun n _ hout => hx n hout

/-- At the end of a walk, what waits at a node that is not listed was left behind there. -/
theorem advance_told {x : Walk} {a a' : Ambient} (h : advance e d x a = (.ok s, a'))
    (hx : Told (x.step.Waits base) x.step.record.currentNodes us) :
    Told (s.Waits base) s.record.currentNodes
      (us ++ (trail e d x a).flatMap (Walk.unparkings d base)) := by
  induction x, a using advance.induct e d generalizing us with
  | case1 x a y a₁ hm ih =>
    rw [advance, hm] at h
    rw [trail_cons hm, List.flatMap_cons, ← List.append_assoc]
    exact ih h ((move_cases hm).told hx)
  | case2 x a a₁ hm =>
    rw [advance, hm] at h
    cases h
    obtain ⟨hqueue, hstarved, -⟩ := move_none hm
    -- a walk that is at its end takes nothing more off the list
    have hlast : x.unparkings d base = [] := by
      rw [Walk.unparkings, Walk.unparks?, hqueue, hstarved]
      rfl
    rw [trail_last hm, List.flatMap_cons, hlast]
    simpa using hx
  | case3 x a err a₁ hm =>
    rw [advance, hm] at h
    cases h

/-- A failure names some node. -/
def Marked (i : Instance) : Prop := ∀ f, i.failure = some f → f.nodes ≠ []

theorem Marked.exists_stuckAt {i : Instance} (h : Marked i) {f : Failure}
    (hf : i.failure = some f) : ∃ n, i.StuckAt n := by
  obtain ⟨n, ns, hns⟩ := List.exists_cons_of_ne_nil (h f hf)
  exact ⟨n, f, hf, by simp [hns]⟩

theorem Move.marked {x y : Walk} (h : Move e d supply x supply' y) (hx : Marked x.step.record) :
    Marked y.step.record := by
  cases h with
  | enters hn hentry => cases hentry <;> exact hx
  | @leaves id entered queue s n targets supply hn htargets =>
    change Marked (leave n targets s).record
    unfold leave
    split
    · intro f hf
      have hnode : n.id ∈ f.nodes := by
        cases hf
        exact mem_failureWith.2 (Or.inl rfl)
      exact List.ne_nil_of_mem hnode
    · exact hx
  | releases hstarved => exact hx

end Engine

end Workflow
