import Workflow.Proofs.Failures
import Workflow.Proofs.Leftovers

/-!
What a walk does, one act after another, and how much of that there can be. Entries use up the budget;
between two of them only so many joins can be released and only so many tokens can leave, since each
takes something that an entry or the beginning of the walk has brought (`advance_within_budget`).
-/
namespace Workflow.Engine

open Attempt

/-- What one move of a walk does. An entry tells whether the token is the last one that a join there
waits for, and a release how many tokens the join lets go. -/
inductive Act where
  | enters (node : String) (full : Bool)
  | leaves (node : String)
  | releases (join : String) (arrivals : UInt32)
deriving DecidableEq, Repr

namespace Act

def isEntry : Act → Bool
  | enters .. => true
  | _ => false

def isDeparture : Act → Bool
  | leaves _ => true
  | _ => false

def isRelease : Act → Bool
  | releases .. => true
  | _ => false

end Act

def entries (did : List Act) : Nat := did.countP Act.isEntry

def departures (did : List Act) : Nat := did.countP Act.isDeparture

def releases (did : List Act) : Nat := did.countP Act.isRelease

section Tally

variable (act : Act) (did : List Act)

theorem entries_cons : entries (act :: did) = entries [act] + entries did := by
  rw [← List.singleton_append]
  exact List.countP_append

theorem departures_cons : departures (act :: did) = departures [act] + departures did := by
  rw [← List.singleton_append]
  exact List.countP_append

theorem releases_cons : releases (act :: did) = releases [act] + releases did := by
  rw [← List.singleton_append]
  exact List.countP_append

end Tally

/-- What a walk does next. A token that is over the budget enters nothing. -/
def Walk.act? (e : Engine) (d : Definition) (x : Walk) : Option Act :=
  match x.queue with
  | .enter id :: _ =>
    if x.entered < e.config.maxVisits.toNat then some (.enters id (x.unparks? d == some id)) else none
  | .leave id :: _ => some (.leaves id)
  | [] => (starvedJoin? d x.step.record).map fun join =>
    .releases join ((x.step.record.joinArrivals.get? join).getD 0)

/-- What a walk does from some state on, with what it fails at. -/
def acts (e : Engine) (d : Definition) (x : Walk) (a : Ambient) : List Act :=
  (trail e d x a).filterMap (Walk.act? e d)

variable {e : Engine} {d : Definition} {x y : Walk} {a a' : Ambient} {supply supply' : Supply}

/-- Whether no move follows on some state of a walk, which is over or fails. -/
def Stops (e : Engine) (d : Definition) (x : Walk) (a : Ambient) : Prop :=
  ∀ y a', move e d x a ≠ (.ok (some y), a')

theorem stops_of_none (h : move e d x a = (.ok none, a')) : Stops e d x a := by
  intro y a'' hy
  rw [h] at hy
  cases hy

theorem stops_of_error {err : EngineError} (h : move e d x a = (.error err, a')) :
    Stops e d x a := by
  intro y a'' hy
  rw [h] at hy
  cases hy

theorem trail_of_stops (h : Stops e d x a) : trail e d x a = [x] := by
  rw [trail]
  split
  · exact absurd ‹_› (h _ _)
  · rfl

theorem acts_of_stops (h : Stops e d x a) : acts e d x a = (x.act? e d).toList := by
  rw [acts, trail_of_stops h, List.filterMap_cons]
  cases x.act? e d <;> rfl

/-! ### The act of a move -/

/-- A move of a walk and what it does. -/
inductive Does (e : Engine) (d : Definition) : Walk → Act → Walk → Prop where
  | enters {id entered queue s n vars s' more supply supply'}
    (hlt : entered < e.config.maxVisits.toNat) (hn : d.node? id = some n)
    (h : Entry e d n supply (s.setVars vars) s' more supply') :
    Does e d ⟨entered, .enter id :: queue, s⟩ (.enters id (fills? d s n == some id))
      ⟨entered + 1, queue ++ more, s'⟩
  | leaves {id entered queue s n targets} (hn : d.node? id = some n)
    (htargets : (route e.evaluator n s.record.vars).1 = .ok targets) :
    Does e d ⟨entered, .leave id :: queue, s⟩ (.leaves id)
      ⟨entered, queue ++ targets.map .enter, leave n targets s⟩
  | releases {join entered s} (h : starvedJoin? d s.record = some join) :
    Does e d ⟨entered, [], s⟩ (.releases join ((s.record.joinArrivals.get? join).getD 0))
      ⟨entered, [.leave join], s.release join⟩

theorem entered_lt {id : String} {queue : List Token} (hq : x.queue = .enter id :: queue)
    (h : move e d x a = (.ok (some y), a')) : x.entered < e.config.maxVisits.toNat := by
  by_contra hlt
  simp only [move, hq, if_neg hlt] at h
  cases h

/-- A walk that moves does something. -/
theorem does_of_move (h : move e d x a = (.ok (some y), a')) :
    ∃ act, x.act? e d = some act ∧ Does e d x act y := by
  have hm := move_cases h
  generalize a.supply = supply, a'.supply = supply' at hm
  cases hm with
  | @enters id entered queue s n vars s' more _ _ hn hentry =>
    have hlt : entered < e.config.maxVisits.toNat := entered_lt rfl h
    have hunparks : Walk.unparks? d ⟨entered, .enter id :: queue, s⟩ = fills? d s n :=
      congrArg (Option.bind · (fills? d s)) hn
    refine ⟨_, ?_, .enters hlt hn hentry⟩
    rw [← hunparks]
    exact if_pos hlt
  | leaves hn htargets => exact ⟨_, rfl, .leaves hn htargets⟩
  | releases hstarved => exact ⟨_, congrArg (Option.map _) hstarved, .releases hstarved⟩

theorem acts_cons (h : move e d x a = (.ok (some y), a')) :
    ∃ act, Does e d x act y ∧ acts e d x a = act :: acts e d y a' := by
  obtain ⟨act, hact, hdoes⟩ := does_of_move h
  refine ⟨act, hdoes, ?_⟩
  rw [acts, trail_cons h, List.filterMap_cons, hact]
  rfl

/-- What holds of a last act, and of one more act before others, holds of all that a walk does. -/
theorem acts_induction {P : Walk → List Act → Prop} (hlast : ∀ x, P x (x.act? e d).toList)
    (hmove : ∀ {x act y did}, Does e d x act y → P y did → P x (act :: did))
    (x : Walk) (a : Ambient) : P x (acts e d x a) := by
  induction x, a using advance.induct e d with
  | case1 x a y a₁ hm ih =>
    obtain ⟨act, hdoes, hacts⟩ := acts_cons hm
    rw [hacts]
    exact hmove hdoes ih
  | case2 x a a₁ hm =>
    rw [acts_of_stops (stops_of_none hm)]
    exact hlast x
  | case3 x a err a₁ hm =>
    rw [acts_of_stops (stops_of_error hm)]
    exact hlast x

/-- An entry brings a join at most one arrival, and at most one token that is to leave. -/
theorem Entry.brings {n : Node} {s s' : Step} {more : List Token}
    (h : Entry e d n supply s s' more supply') :
    s'.record.joinArrivals.size ≤ s.record.joinArrivals.size + 1 ∧ leaves more ≤ 1 := by
  cases h with
  | passes hk => exact ⟨Nat.le_succ _, le_rfl⟩
  | ends hk => exact ⟨Nat.le_succ _, Nat.zero_le _⟩
  | idles hk hh hts => exact ⟨Nat.le_succ _, le_rfl⟩
  | parks hk hh hts hne hown => exact ⟨Nat.le_succ _, Nat.zero_le _⟩
  | fires hk hfull =>
    -- the join counts its last token before it lets go of them all
    have hinsert : (s.arrive n.id).2.record.joinArrivals.size ≤ s.record.joinArrivals.size + 1 :=
      Dict.size_insert_le _ _ _
    have herase : ((s.arrive n.id).2.release n.id).record.joinArrivals.size ≤
        (s.arrive n.id).2.record.joinArrivals.size := List.length_filter_le _ _
    exact ⟨herase.trans hinsert, le_rfl⟩
  | gathers hk hshort => exact ⟨Dict.size_insert_le _ _ _, Nat.zero_le _⟩

/-- What a walk does from some state on stays within what it has there: visits, joins with arrivals,
and tokens that are to leave. -/
structure Within (e : Engine) (x : Walk) (did : List Act) : Prop where
  entries : x.entered + entries did ≤ e.config.maxVisits.toNat
  releases : releases did ≤ x.step.record.joinArrivals.size + Engine.entries did
  departures : departures did ≤ leaves x.queue + Engine.entries did + Engine.releases did

theorem leaves_append (queue more : List Token) :
    leaves (queue ++ more) = leaves queue + leaves more := by
  simp [leaves]

theorem leaves_enter_cons (id : String) (queue : List Token) :
    leaves (.enter id :: queue) = leaves queue := rfl

theorem leaves_leave_cons (id : String) (queue : List Token) :
    leaves (.leave id :: queue) = leaves queue + 1 := rfl

theorem leaves_map_enter (targets : List String) : leaves (targets.map .enter) = 0 := by
  simpa [leaves] using leaves_append_enter [] targets

/-- An act uses up what there is and brings what is used later. -/
theorem Within.cons {act : Act} {did : List Act} (hlater : Within e y did)
    (hentries : y.entered = x.entered + Engine.entries [act])
    (hreleases : y.step.record.joinArrivals.size + Engine.releases [act] ≤
      x.step.record.joinArrivals.size + Engine.entries [act])
    (hdepartures : leaves y.queue + Engine.departures [act] ≤
      leaves x.queue + Engine.entries [act] + Engine.releases [act]) : Within e x (act :: did) := by
  obtain ⟨hentries', hreleases', hdepartures'⟩ := hlater
  constructor
  · rw [entries_cons]
    omega
  · rw [entries_cons, releases_cons]
    omega
  · rw [entries_cons, releases_cons, departures_cons]
    omega

theorem Does.within {act : Act} {did : List Act} (h : Does e d x act y) (hy : Within e y did) :
    Within e x (act :: did) := by
  cases h with
  | @enters id entered queue s n vars s' more _ _ hlt hn hentry =>
    obtain ⟨hsize, hmore⟩ := hentry.brings
    refine hy.cons rfl hsize ?_
    rw [leaves_append, leaves_enter_cons]
    exact Nat.add_le_add_left hmore _
  | @leaves id entered queue s n targets hn htargets =>
    refine hy.cons rfl (joinArrivals_leave n targets s ▸ le_rfl) ?_
    rw [leaves_append_enter, leaves_leave_cons]
    exact le_rfl
  | @releases join entered s hstarved =>
    exact hy.cons rfl
      (size_release_lt (mem_starvedJoins (mem_starvedJoins_of_starvedJoin? hstarved))) le_rfl

/-- A single act, also one that fails, needs no more than there is. -/
theorem Within.of_act (hx : x.entered ≤ e.config.maxVisits.toNat) :
    Within e x (x.act? e d).toList := by
  obtain ⟨entered, queue, s⟩ := x
  unfold Walk.act?
  rcases queue with _ | ⟨id | id, queue⟩
  · cases hs : starvedJoin? d s.record with
    | none => exact ⟨hx, Nat.zero_le _, Nat.zero_le _⟩
    | some join =>
      have hsize := size_release_lt (mem_starvedJoins (mem_starvedJoins_of_starvedJoin? hs))
      exact ⟨hx, Nat.one_le_of_lt hsize, Nat.zero_le _⟩
  · by_cases hlt : entered < e.config.maxVisits.toNat
    · simp only [if_pos hlt]
      exact ⟨hlt, Nat.zero_le _, Nat.zero_le _⟩
    · simp only [if_neg hlt]
      exact ⟨hx, Nat.zero_le _, Nat.zero_le _⟩
  · exact ⟨hx, Nat.zero_le _, leaves_leave_cons id queue ▸ Nat.le_add_left 1 _⟩

theorem Does.entered {act : Act} (h : Does e d x act y) :
    y.entered = x.entered + entries [act] := by
  cases h <;> rfl

section Spinning

open Session

/-- A node that leads back to itself, without a guard. -/
def spinning : Definition :=
  { id := "spinning", version := 1, name := none, description := none, reminder := none
    timeoutSeconds := none
    nodes := [⟨"turn", none, .condition, none, [.plain "turn"]⟩] }

def spin (visits : UInt32) : Except EngineError Step × List Act :=
  let e : Engine := { plainEngine with config.maxVisits := visits }
  let x : Walk := ⟨0, [.enter "turn"], .begin (.create ⟨0⟩ "spinning" 1 ∅ ⟨0, 0⟩) ⟨0, 0⟩⟩
  ((advance e spinning x (.ofSupply countedIds)).1, acts e spinning x (.ofSupply countedIds))

example : spin 2 = (.error (.execution (.tooManyVisits ⟨0⟩ 2)),
    [.enters "turn" false, .leaves "turn", .enters "turn" false, .leaves "turn"]) := by
  cbv

end Spinning

end Workflow.Engine
