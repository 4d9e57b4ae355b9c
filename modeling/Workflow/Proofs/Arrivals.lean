import Workflow.Proofs.Budget
import Workflow.Proofs.Confinement

/-!
What becomes of the tokens that arrive at a join. Each arrival is used up by a firing or a release, or
still counts at the end of the walk, and a token leaves the join for each firing and each release
(`advance_conserves`).
-/
namespace Workflow.Engine

/-! ### What happened at one node -/

namespace Act

def entersAt (n : String) : Act → Bool
  | enters m _ => m == n
  | _ => false

/-- How many tokens a node lets go as a starved join. -/
def released? (n : String) : Act → Option UInt32
  | releases m arrivals => if m = n then some arrivals else none
  | _ => none

end Act

def entriesAt (n : String) (did : List Act) : Nat := did.countP (Act.entersAt n)

def firingsAt (n : String) (did : List Act) : Nat := did.count (.enters n true)

def departuresFrom (n : String) (did : List Act) : Nat := did.count (.leaves n)

/-- The numbers of tokens that a node lets go as a starved join, one by one. -/
def releasedAt (n : String) (did : List Act) : List Nat :=
  (did.filterMap (Act.released? n)).map UInt32.toNat

section Tally

variable (n : String) (did later : List Act)

theorem entriesAt_append : entriesAt n (did ++ later) = entriesAt n did + entriesAt n later :=
  List.countP_append

theorem firingsAt_append : firingsAt n (did ++ later) = firingsAt n did + firingsAt n later :=
  List.count_append

theorem departuresFrom_append :
    departuresFrom n (did ++ later) = departuresFrom n did + departuresFrom n later :=
  List.count_append

theorem releasedAt_append :
    releasedAt n (did ++ later) = releasedAt n did ++ releasedAt n later := by
  rw [releasedAt, List.filterMap_append, List.map_append]
  rfl

variable (m : String) (full : Bool) (arrivals : UInt32)

theorem entriesAt_enters : entriesAt n [.enters m full] = if m = n then 1 else 0 := by
  simp [entriesAt, Act.entersAt]

theorem firingsAt_enters : firingsAt n [.enters m full] = if m = n ∧ full = true then 1 else 0 := by
  rw [firingsAt, List.count_singleton]
  cases full <;> simp

theorem departuresFrom_leaves : departuresFrom n [.leaves m] = if m = n then 1 else 0 := by
  rw [departuresFrom, List.count_singleton]
  simp

theorem releasedAt_releases :
    releasedAt n [.releases m arrivals] = if m = n then [arrivals.toNat] else [] := by
  unfold releasedAt
  by_cases h : m = n <;> simp [h, Act.released?]

end Tally

variable {e : Engine} {d : Definition} {n : Node} {declared : Option UInt32} {s s' : Step}
  {x y z : Walk} {a a' : Ambient} {supply supply' : Supply}

/-! ### Departures -/

theorem Entry.count_queued {j : String} {more : List Token}
    (h : Entry e d n supply s s' more supply') :
    more.count (.leave j) ≤ if n.id = j then 1 else 0 := by
  split
  · calc more.count (.leave j) = (more.filter Token.isLeave).count (.leave j) :=
        (List.count_filter rfl).symm
      _ ≤ (more.filter Token.isLeave).length := List.count_le_length
      _ ≤ 1 := h.brings.2
  · rename_i hne
    refine (List.count_eq_zero.2 fun hj => hne ?_).le
    cases h.queued hj
    rfl

/-- What leaves a node from some state on was about to leave it, or came there or was released there. -/
def Departs (j : String) (x : Walk) (did : List Act) : Prop :=
  departuresFrom j did ≤ x.queue.count (.leave j) + entriesAt j did + (releasedAt j did).length

theorem Departs.cons {j : String} {act : Act} {did : List Act} (hlater : Departs j y did)
    (h : departuresFrom j [act] + y.queue.count (.leave j) ≤
      x.queue.count (.leave j) + entriesAt j [act] + (releasedAt j [act]).length) :
    Departs j x (act :: did) := by
  unfold Departs at hlater ⊢
  rw [← List.singleton_append, departuresFrom_append, entriesAt_append, releasedAt_append,
    List.length_append]
  omega

theorem count_map_enter (targets : List String) (j : String) :
    (targets.map Token.enter).count (.leave j) = 0 :=
  List.count_eq_zero.2 (by simp)

theorem Does.departs {j : String} {act : Act} {did : List Act} (h : Does e d x act y)
    (hy : Departs j y did) : Departs j x (act :: did) := by
  apply hy.cons
  cases h with
  | @enters id entered queue s m vars s' more _ _ hlt hn hentry =>
    have hmore := hentry.count_queued (j := j)
    rw [(node?_spec hn).2] at hmore
    rw [entriesAt_enters, List.count_append, List.count_cons_of_ne (by simp)]
    calc 0 + (queue.count (.leave j) + more.count (.leave j))
        ≤ queue.count (.leave j) + if id = j then 1 else 0 := by omega
      _ ≤ _ := Nat.le_add_right _ _
  | @leaves id entered queue s m targets hn htargets =>
    rw [departuresFrom_leaves, List.count_append, count_map_enter, List.count_cons]
    by_cases hid : id = j <;> simp [hid, Nat.add_comm, entriesAt, Act.entersAt]
  | @releases join entered s hstarved =>
    rw [releasedAt_releases, List.count_singleton]
    by_cases hjoin : join = j <;> simp [hjoin, departuresFrom]

theorem Departs.of_act {j : String} (x : Walk) : Departs j x (x.act? e d).toList := by
  obtain ⟨entered, queue, s⟩ := x
  unfold Walk.act?
  rcases queue with _ | ⟨id | id, queue⟩
  · cases starvedJoin? d s.record <;> exact Nat.zero_le _
  · by_cases hlt : entered < e.config.maxVisits.toNat
    · simp only [if_pos hlt]
      exact Nat.zero_le _
    · simp only [if_neg hlt]
      exact Nat.zero_le _
  · change departuresFrom j [.leaves id] ≤ (Token.leave id :: queue).count (.leave j) + 0 + 0
    rw [departuresFrom_leaves, List.count_cons]
    by_cases hid : id = j <;> simp [hid]

theorem departs_acts (j : String) (x : Walk) (a : Ambient) : Departs j x (acts e d x a) :=
  acts_induction .of_act Does.departs x a

/-! ### What a join waits for -/

/-- How many tokens a join waits for, counted in 32 bits. -/
def expectation (d : Definition) (n : Node) (declared : Option UInt32) : Nat :=
  max 1 (declared.elim (min (d.incomingCount n.id) (UInt32.size - 1)) UInt32.toNat)

theorem toNat_expectedArrivals :
    (expectedArrivals d n declared).toNat = expectation d n declared := by
  have hfits : min (d.incomingCount n.id) (UInt32.size - 1) < UInt32.size :=
    Nat.lt_of_le_of_lt (Nat.min_le_right _ _) (by decide)
  have hdeclared : (declared.getD (UInt32.ofNat (min (d.incomingCount n.id) (UInt32.size - 1)))).toNat =
      declared.elim (min (d.incomingCount n.id) (UInt32.size - 1)) UInt32.toNat := by
    cases declared with
    | none => exact Nat.mod_eq_of_lt hfits
    | some k => rfl
  rw [expectation, ← hdeclared, expectedArrivals]
  split
  · rename_i hzero
    rw [hzero]
    rfl
  · rename_i hpos
    have : (declared.getD (UInt32.ofNat (min (d.incomingCount n.id) (UInt32.size - 1)))).toNat ≠ 0 :=
      fun h => hpos (UInt32.toNat_inj.1 h)
    omega

/-- How many tokens a node has counted as a join. -/
def arrivedAt (s : Step) (n : String) : Nat := ((s.record.joinArrivals.get? n).getD 0).toNat

/-- Below its expectation a counter cannot overflow. -/
theorem toNat_arrive (h : arrivedAt s n.id < expectation d n declared) :
    (s.arrive n.id).1.toNat = arrivedAt s n.id + 1 := by
  have hlt : (expectedArrivals d n declared).toNat < UInt32.size := UInt32.toNat_lt _
  rw [toNat_expectedArrivals] at hlt
  change (((s.record.joinArrivals.get? n.id).getD 0) + 1).toNat = _
  rw [UInt32.toNat_add]
  exact Nat.mod_eq_of_lt (Nat.lt_of_le_of_lt h hlt)

theorem full_iff (h : arrivedAt s n.id < expectation d n declared) :
    expectedArrivals d n declared ≤ (s.arrive n.id).1 ↔
      arrivedAt s n.id + 1 = expectation d n declared := by
  rw [UInt32.le_iff_toNat_le, toNat_arrive h, toNat_expectedArrivals]
  omega

/-- An entry makes a join fire just if one more arrival is all that it waits for. -/
theorem fills?_beq (hk : n.kind = .join declared)
    (hs : arrivedAt s n.id < expectation d n declared) :
    (fills? d s n == some n.id) = decide (arrivedAt s n.id + 1 = expectation d n declared) := by
  rw [fills?_of_join hk]
  by_cases hfull : arrivedAt s n.id + 1 = expectation d n declared
  · rw [if_pos ((full_iff hs).2 hfull), decide_eq_true hfull]
    exact beq_self_eq_true _
  · rw [if_neg (fun h => hfull ((full_iff hs).1 h)), decide_eq_false hfull]
    rfl

theorem arrivedAt_release : arrivedAt (s.release n.id) n.id = 0 := by
  unfold arrivedAt Step.release
  rw [Dict.get?_erase, if_pos rfl]
  rfl

/-- A token that enters a join makes it fire, or is counted and waits. -/
theorem Entry.arrival {more : List Token} (h : Entry e d n supply s s' more supply')
    (hk : n.kind = .join declared) (hs : arrivedAt s n.id < expectation d n declared) :
    (arrivedAt s n.id + 1 = expectation d n declared ∧ arrivedAt s' n.id = 0 ∧
      more = [.leave n.id]) ∨
    (arrivedAt s n.id + 1 < expectation d n declared ∧ arrivedAt s' n.id = arrivedAt s n.id + 1 ∧
      more = [] ∧ n.id ∈ s'.record.currentNodes) := by
  cases h with
  | passes hk' => rcases hk' with hk' | hk' <;> cases hk.symm.trans hk'
  | ends hk' => cases hk.symm.trans hk'
  | idles hk' hh hts => cases hk.symm.trans hk'
  | parks hk' hh hts hne hown => cases hk.symm.trans hk'
  | fires hk' hfull =>
    cases hk.symm.trans hk'
    exact Or.inl ⟨(full_iff hs).1 hfull, arrivedAt_release, rfl⟩
  | gathers hk' hshort =>
    cases hk.symm.trans hk'
    have hcount : arrivedAt ((s.arrive n.id).2.wait n.id) n.id = arrivedAt s n.id + 1 := by
      rw [← toNat_arrive hs]
      unfold arrivedAt Step.wait Step.arrive
      rw [Dict.get?_insert_self]
      rfl
    have hne : arrivedAt s n.id + 1 ≠ expectation d n declared := fun h =>
      hshort ((full_iff hs).2 h)
    exact Or.inr ⟨Nat.lt_of_le_of_ne hs hne, hcount, rfl, NameSet.mem_insert.2 (Or.inl rfl)⟩

/-! ### The balance of one join -/

/-- What an entry leaves alone at the other nodes. -/
theorem Entry.elsewhere {m : Node} {more : List Token} {j : String}
    (h : Entry e d m supply s s' more supply') (hj : j ≠ m.id) :
    arrivedAt s' j = arrivedAt s j ∧ (j ∈ s.record.currentNodes → j ∈ s'.record.currentNodes) ∧
      more.count (.leave j) = 0 := by
  have hmore : [Token.leave m.id].count (.leave j) = 0 :=
    List.count_eq_zero.2 (by simpa using hj)
  have harrive : arrivedAt (s.arrive m.id).2 j = arrivedAt s j := by
    unfold arrivedAt Step.arrive
    rw [Dict.get?_insert, if_neg hj]
  have hwait : ∀ {t : Step}, j ∈ t.record.currentNodes → j ∈ (t.wait m.id).record.currentNodes :=
    fun hin => NameSet.mem_insert.2 (Or.inr hin)
  cases h with
  | passes hk => exact ⟨rfl, id, hmore⟩
  | ends hk => exact ⟨rfl, id, rfl⟩
  | idles hk hh hts => exact ⟨rfl, id, hmore⟩
  | parks hk hh hts hne hown => exact ⟨rfl, hwait, rfl⟩
  | fires hk hfull =>
    have herase : arrivedAt ((s.arrive m.id).2.release m.id) j = arrivedAt (s.arrive m.id).2 j := by
      unfold arrivedAt Step.release
      rw [Dict.get?_erase, if_neg hj]
    exact ⟨herase.trans harrive, fun hin => NameSet.mem_erase.2 ⟨hj, hin⟩, hmore⟩
  | gathers hk hshort => exact ⟨harrive, hwait, rfl⟩

/-- What a walk did to a join between two of its states. -/
structure Balanced (n : Node) (expected : Nat) (x : Walk) (did : List Act) (y : Walk) : Prop where
  counted : arrivedAt x.step n.id + entriesAt n.id did =
    expected * firingsAt n.id did + (releasedAt n.id did).sum + arrivedAt y.step n.id
  below : arrivedAt y.step n.id < expected
  left : x.queue.count (.leave n.id) + firingsAt n.id did + (releasedAt n.id did).length =
    departuresFrom n.id did + y.queue.count (.leave n.id)
  listed : (0 < arrivedAt x.step n.id → n.id ∈ x.step.record.currentNodes) ∨ 0 < entriesAt n.id did →
    0 < arrivedAt y.step n.id → n.id ∈ y.step.record.currentNodes

namespace Balanced

variable {expected : Nat} {did later : List Act}

theorem refl (h : arrivedAt x.step n.id < expected) : Balanced n expected x [] x where
  counted := by simp [entriesAt, firingsAt, releasedAt]
  below := h
  left := by simp [firingsAt, releasedAt, departuresFrom]
  listed := fun h => h.resolve_right (Nat.lt_irrefl 0)

theorem trans (h : Balanced n expected x did y) (h' : Balanced n expected y later z) :
    Balanced n expected x (did ++ later) z where
  counted := by
    have hfirst := h.counted
    have hsecond := h'.counted
    rw [entriesAt_append, firingsAt_append, releasedAt_append, List.sum_append, Nat.mul_add]
    omega
  below := h'.below
  left := by
    have hfirst := h.left
    have hsecond := h'.left
    rw [firingsAt_append, releasedAt_append, departuresFrom_append, List.length_append]
    omega
  listed := by
    rw [entriesAt_append]
    intro hx
    apply h'.listed
    -- a token that came before is listed halfway, and a later one has the second part list it
    rcases hx with hx | hx
    · exact Or.inl (h.listed (Or.inl hx))
    · rcases Nat.eq_zero_or_pos (entriesAt n.id later) with hzero | hpos
      · refine Or.inl (h.listed (Or.inr ?_))
        omega
      · exact Or.inr hpos

theorem of_firing (hfull : arrivedAt x.step n.id + 1 = expected) (hcount : arrivedAt y.step n.id = 0)
    (hleft : y.queue.count (.leave n.id) = x.queue.count (.leave n.id) + 1) :
    Balanced n expected x [.enters n.id true] y where
  counted := by
    rw [entriesAt_enters, firingsAt_enters, if_pos rfl, if_pos ⟨rfl, rfl⟩, hcount, hfull, Nat.mul_one]
    rfl
  below := by omega
  left := by
    rw [firingsAt_enters, if_pos ⟨rfl, rfl⟩, hleft]
    exact (Nat.zero_add _).symm
  listed := fun _ hpos => absurd (hcount ▸ hpos) (Nat.lt_irrefl 0)

theorem of_gathering (hshort : arrivedAt x.step n.id + 1 < expected)
    (hcount : arrivedAt y.step n.id = arrivedAt x.step n.id + 1)
    (hleft : y.queue.count (.leave n.id) = x.queue.count (.leave n.id))
    (hin : n.id ∈ y.step.record.currentNodes) : Balanced n expected x [.enters n.id false] y where
  counted := by
    rw [entriesAt_enters, firingsAt_enters, if_pos rfl, if_neg (by simp), hcount, Nat.mul_zero]
    exact (Nat.zero_add _).symm
  below := hcount ▸ hshort
  left := by
    rw [firingsAt_enters, if_neg (by simp), hleft]
    exact (Nat.zero_add _).symm
  listed := fun _ _ => hin

theorem of_release {arrivals : UInt32} (hx : arrivedAt x.step n.id < expected)
    (harrivals : arrivals.toNat = arrivedAt x.step n.id) (hcount : arrivedAt y.step n.id = 0)
    (hleft : y.queue.count (.leave n.id) = x.queue.count (.leave n.id) + 1) :
    Balanced n expected x [.releases n.id arrivals] y where
  counted := by
    rw [releasedAt_releases, if_pos rfl, List.sum_singleton, harrivals, hcount]
    exact (Nat.zero_add _).symm
  below := hcount ▸ Nat.zero_lt_of_lt hx
  left := by
    rw [releasedAt_releases, if_pos rfl, hleft]
    exact (Nat.zero_add _).symm
  listed := fun _ hpos => absurd (hcount ▸ hpos) (Nat.lt_irrefl 0)

/-- Whatever happens at another node leaves the balance as it is. -/
theorem of_elsewhere {act : Act} (hx : arrivedAt x.step n.id < expected)
    (hact : entriesAt n.id [act] = 0 ∧ firingsAt n.id [act] = 0 ∧ releasedAt n.id [act] = [])
    (hcount : arrivedAt y.step n.id = arrivedAt x.step n.id)
    (hleft : x.queue.count (.leave n.id) = departuresFrom n.id [act] + y.queue.count (.leave n.id))
    (hlisted : n.id ∈ x.step.record.currentNodes → n.id ∈ y.step.record.currentNodes) :
    Balanced n expected x [act] y := by
  obtain ⟨hentries, hfirings, hreleased⟩ := hact
  refine ⟨?_, hcount ▸ hx, ?_, fun h hpos => hlisted ?_⟩
  · rw [hentries, hfirings, hreleased, hcount]
    exact (Nat.zero_add _).symm
  · rw [hfirings, hreleased, hleft]
    rfl
  · rw [hentries] at h
    exact h.resolve_right (Nat.lt_irrefl 0) (hcount ▸ hpos)

end Balanced

theorem node?_of_mem (hunique : (d.nodes.map Node.id).Nodup) (hn : n ∈ d.nodes) :
    d.node? n.id = some n := by
  obtain ⟨m, hm⟩ : ∃ m, d.node? n.id = some m := by
    apply Option.isSome_iff_exists.1
    exact List.find?_isSome.2 ⟨n, hn, by simp⟩
  obtain ⟨hmem, hid⟩ := node?_spec hm
  rw [hm, List.inj_on_of_nodup_map hunique hmem hn hid]

theorem mem_currentNodes_leave {m : Node} {targets : List String} {j : String}
    (h : j ∈ s.record.currentNodes) : j ∈ (leave m targets s).record.currentNodes := by
  unfold leave
  split
  · exact NameSet.mem_insert.2 (Or.inr h)
  · exact h

/-- What one act does to a join. -/
theorem Does.balanced {act : Act} (h : Does e d x act y) (hnode : d.node? n.id = some n)
    (hk : n.kind = .join declared) (hx : arrivedAt x.step n.id < expectation d n declared) :
    Balanced n (expectation d n declared) x [act] y := by
  cases h with
  | @enters id entered queue s m vars s' more _ _ hlt hn hentry =>
    have hid := (node?_spec hn).2
    by_cases hne : id = n.id
    · subst hne
      obtain rfl : n = m := Option.some.inj (hnode.symm.trans hn)
      -- the variables that the flow handler sets have no part in what is counted
      have hvars : arrivedAt (s.setVars vars) n.id = arrivedAt s n.id := rfl
      rw [fills?_beq hk hx]
      rcases hentry.arrival hk (hvars ▸ hx) with ⟨hfull, hcount, rfl⟩ | ⟨hshort, hcount, rfl, hin⟩
      · rw [decide_eq_true (hvars ▸ hfull)]
        exact .of_firing hfull hcount (by simp)
      · rw [decide_eq_false (Nat.ne_of_lt (hvars ▸ hshort))]
        exact .of_gathering hshort hcount (by simp) hin
    · obtain ⟨hcount, hlisted, hmore⟩ := hentry.elsewhere (j := n.id) (hid ▸ Ne.symm hne)
      -- a flow handler may run there, but no token of this join moves
      refine .of_elsewhere hx ⟨?_, ?_, rfl⟩ hcount ?_ hlisted
      · rw [entriesAt_enters, if_neg hne]
      · rw [firingsAt_enters, if_neg fun h => hne h.1]
      · simp [departuresFrom, hmore]
  | @leaves id entered queue s m targets hn htargets =>
    refine .of_elsewhere hx ⟨rfl, rfl, rfl⟩ ?_ ?_ mem_currentNodes_leave
    · unfold arrivedAt
      rw [joinArrivals_leave]
    · rw [List.count_append, count_map_enter, List.count_cons, departuresFrom_leaves]
      by_cases hid : id = n.id <;> simp [hid, Nat.add_comm]
  | @releases join entered s hstarved =>
    by_cases hne : join = n.id
    · subst hne
      exact .of_release hx rfl arrivedAt_release (by simp)
    · refine .of_elsewhere hx ⟨rfl, rfl, ?_⟩ ?_ ?_ fun hin => NameSet.mem_erase.2 ⟨Ne.symm hne, hin⟩
      · rw [releasedAt_releases, if_neg hne]
      · unfold arrivedAt Step.release
        rw [Dict.get?_erase, if_neg (Ne.symm hne)]
      · simp [departuresFrom, hne]

theorem advance_balanced (hnode : d.node? n.id = some n) (hk : n.kind = .join declared)
    (hx : arrivedAt x.step n.id < expectation d n declared) (h : advance e d x a = (.ok s, a')) :
    ∃ y, Balanced n (expectation d n declared) x (acts e d x a) y ∧ y.queue = [] ∧ y.step = s := by
  induction x, a using advance.induct e d with
  | case1 x a y a₁ hm ih =>
    rw [advance, hm] at h
    obtain ⟨act, hdoes, hacts⟩ := acts_cons hm
    have hfirst := hdoes.balanced hnode hk hx
    obtain ⟨z, hlater, hend⟩ := ih hfirst.below h
    rw [hacts]
    exact ⟨z, hfirst.trans hlater, hend⟩
  | case2 x a a₁ hm =>
    rw [advance, hm] at h
    cases h
    obtain ⟨hqueue, hstarved, -⟩ := move_none hm
    have hacts : acts e d x a = [] := by
      rw [acts_of_stops (stops_of_none hm), Walk.act?, hqueue, hstarved]
      rfl
    exact ⟨x, hacts ▸ .refl hx, hqueue, rfl⟩
  | case3 x a err a₁ hm =>
    rw [advance, hm] at h
    cases h

/-- Where ids are unique, a join that counts fewer tokens than it waits for uses up each further one in
a firing or a release, or still counts it at the end of the walk; a token leaves it for each firing and
each release, besides those that were about to leave it; and it is listed if it counts one that came. -/
theorem advance_conserves {queue : List Token} (hunique : (d.nodes.map Node.id).Nodup)
    (hn : n ∈ d.nodes) (hk : n.kind = .join declared)
    (hbelow : arrivedAt s n.id < expectation d n declared)
    (h : advance e d ⟨0, queue, s⟩ a = (.ok s', a')) :
    let did := acts e d ⟨0, queue, s⟩ a
    arrivedAt s n.id + entriesAt n.id did =
        expectation d n declared * firingsAt n.id did + (releasedAt n.id did).sum +
          arrivedAt s' n.id ∧
      arrivedAt s' n.id < expectation d n declared ∧
      departuresFrom n.id did =
        queue.count (.leave n.id) + firingsAt n.id did + (releasedAt n.id did).length ∧
      (0 < entriesAt n.id did → 0 < arrivedAt s' n.id → n.id ∈ s'.record.currentNodes) := by
  have hnode : d.node? n.id = some n := node?_of_mem hunique hn
  obtain ⟨y, hbalanced, hqueue, rfl⟩ := advance_balanced hnode hk hbelow h
  refine ⟨hbalanced.counted, hbalanced.below, ?_, fun hentered => hbalanced.listed (Or.inr hentered)⟩
  have hleft := hbalanced.left
  rw [hqueue, List.count_nil, Nat.add_zero] at hleft
  exact hleft.symm

section Meeting

open Session

def meet : Node := ⟨"meet", none, .join (some 2), none, [.plain "end"]⟩

/-- Three tokens come to a join that waits for two. -/
def meeting : Definition :=
  { id := "meeting", version := 1, name := none, description := none, reminder := none
    timeoutSeconds := none
    nodes := [
      ⟨"start", none, .start, none, [.plain "meet", .plain "meet", .plain "meet"]⟩,
      meet,
      ⟨"end", none, .stop, none, []⟩] }

def meetingStart : Step := .begin (.create ⟨0⟩ "meeting" 1 ∅ ⟨0, 0⟩) ⟨0, 0⟩

def meetingActs : List Act :=
  acts plainEngine meeting ⟨0, [.enter "start"], meetingStart⟩ (.ofSupply countedIds)

/-- The join fires for two of them, and the third one is released. -/
theorem advance_conserves_meeting :
    (entriesAt "meet" meetingActs, firingsAt "meet" meetingActs, releasedAt "meet" meetingActs) =
        (3, 1, [1]) ∧
      ∃ s' a', advance plainEngine meeting ⟨0, [.enter "start"], meetingStart⟩
          (.ofSupply countedIds) = (.ok s', a') ∧
        arrivedAt meetingStart "meet" + entriesAt "meet" meetingActs =
          expectation meeting meet (some 2) * firingsAt "meet" meetingActs +
            (releasedAt "meet" meetingActs).sum + arrivedAt s' "meet" ∧
        departuresFrom "meet" meetingActs =
          0 + firingsAt "meet" meetingActs + (releasedAt "meet" meetingActs).length := by
  refine ⟨by cbv, ?_⟩
  have hok : (advance plainEngine meeting ⟨0, [.enter "start"], meetingStart⟩
      (.ofSupply countedIds)).1.isOk = true := by cbv
  rcases hrun : advance plainEngine meeting ⟨0, [.enter "start"], meetingStart⟩
    (.ofSupply countedIds) with ⟨_ | s', a'⟩
  · rw [hrun] at hok
    cases hok
  · obtain ⟨hcounted, -, hleft, -⟩ := advance_conserves (n := meet) (by decide) (by simp [meeting])
      rfl (by decide) hrun
    exact ⟨s', a', rfl, hcounted, hleft⟩

end Meeting

end Workflow.Engine
