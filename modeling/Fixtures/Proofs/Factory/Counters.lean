import Mathlib.Algebra.GroupWithZero.Nat
import Mathlib.Data.List.Chain
import Mathlib.Data.List.Nodup
import Fixtures.Proofs.Factory.Attributes
import Fixtures.Roster.Bench

/-!
# What counters give out

A draw takes its indices before it evaluates anything, so they are spent in any case; it fails as
the first of them does that cannot be evaluated (`Counters.draw_ends`).  To build an instance is to
draw one index, of which there is none at the last word of a counter (`Bench.build_eq`).

Seen from one factory, any calls at all are an account: the spans that it was given since its
counter was last restarted, and how many indices it asked for with each.  Every call keeps the
account balanced (`Account.Balanced.enter`), so the spans follow one another from zero up to the
counter, whatever other factories ask for, as long as the counter does not wrap around
(`Account.issues_once`).
-/

namespace Fixtures

namespace Counters

variable {counters : Counters} {factory : Factory} {count index : Nat}

/-! ## Spans -/

theorem indices_take {name : String} (h : counters.current name + count < UInt64.size) :
    (counters.take name count).1.indices = List.range' (counters.current name) count := by
  show List.range' (counters.current name)
    ((counters.advance name count).current name - counters.current name) = _
  rw [current_advance_of_lt h, Nat.add_sub_cancel_left]

/-- The counter goes back to zero without giving out its last word. -/
theorem take_last {name : String} (h : counters.current name + 1 = UInt64.size) :
    (counters.take name 1).1.indices = [] ∧ (counters.advance name 1).current name = 0 := by
  have hzero : (counters.advance name 1).current name = 0 := by
    rw [current_advance, h, Nat.mod_self]
  refine ⟨?_, hzero⟩
  show List.range' (counters.current name)
    ((counters.advance name 1).current name - counters.current name) = []
  rw [hzero, Nat.zero_sub, List.range'_zero]

/-! ## Draws -/

/-- What a draw answers for an index. -/
def drawn (factory : Factory) (index : Nat) : Except Error (Nat × AttributeMap) :=
  (factory.attributesAt index).map (index, ·)

theorem drawn_eq_ok_iff {pair : Nat × AttributeMap} :
    drawn factory index = .ok pair ↔
      pair.1 = index ∧ factory.attributesAt index = .ok pair.2 := by
  obtain ⟨index', attributes⟩ := pair
  unfold drawn
  cases ha : factory.attributesAt index with
  | error error => exact ⟨nofun, fun h => nomatch h.2⟩
  | ok found =>
    constructor
    · rintro ⟨⟩
      exact ⟨rfl, rfl⟩
    · rintro ⟨rfl, ⟨⟩⟩
      rfl

/-- The answers for some indices come with these indices. -/
theorem fst_of_drawn {indices : List Nat} {pairs : List (Nat × AttributeMap)}
    (h : indices.map (drawn factory) = pairs.map Except.ok) : pairs.map (·.1) = indices := by
  induction indices generalizing pairs with
  | nil => rw [List.map_eq_nil_iff.mp h.symm, List.map_nil]
  | cons index rest ih =>
    cases pairs with
    | nil => cases h
    | cons pair pairs =>
      obtain ⟨hpair, hrest⟩ := List.cons.inj h
      rw [List.map_cons, ih hrest, (drawn_eq_ok_iff.mp hpair).1]

/-- A draw takes its indices and evaluates them after that. -/
theorem draw_eq (factory : Factory) (count : Nat) (counters : Counters) :
    draw factory count counters =
      match (counters.take factory.name count).1.indices.mapM (drawn factory) with
      | .ok pairs => .ok pairs (counters.advance factory.name count)
      | .error error => .error error (counters.advance factory.name count) := rfl

/-- The indices are spent whether or not they can be evaluated. -/
theorem after_draw (factory : Factory) (count : Nat) (counters : Counters) :
    after (draw factory count) counters = counters.advance factory.name count := by
  unfold after
  rw [draw_eq]
  cases (counters.take factory.name count).1.indices.mapM (drawn factory) <;> rfl

/-- A draw answers every index with the attributes at it, or fails as the first index does that
cannot be evaluated. -/
theorem draw_ends (factory : Factory) (count : Nat) (counters : Counters) :
    let indices := (counters.take factory.name count).1.indices
    Ends (draw factory count counters)
      (fun pairs _ => pairs.map (·.1) = indices ∧
        ∀ pair ∈ pairs, factory.attributesAt pair.1 = .ok pair.2)
      (fun error _ => ∃ before index rest, indices = before ++ index :: rest ∧
        (∀ earlier ∈ before, ∃ attributes, factory.attributesAt earlier = .ok attributes) ∧
        factory.attributesAt index = .error error) := by
  intro indices
  rw [draw_eq]
  cases hm : indices.mapM (drawn factory) with
  | ok pairs =>
    have hmap := mapM_eq_ok_iff.mp hm
    refine ⟨fst_of_drawn hmap, fun pair hp => ?_⟩
    have hmem : Except.ok pair ∈ pairs.map (Except.ok (ε := Error)) := List.mem_map_of_mem hp
    rw [← hmap] at hmem
    obtain ⟨index, -, hindex⟩ := List.mem_map.mp hmem
    obtain ⟨rfl, ha⟩ := drawn_eq_ok_iff.mp hindex
    exact ha
  | error error =>
    obtain ⟨before, index, rest, hlist, hbefore, hindex⟩ := mapM_eq_error_iff.mp hm
    refine ⟨before, index, rest, hlist, fun earlier he => ?_, eq_error_of_map hindex⟩
    obtain ⟨pair, hp⟩ := hbefore earlier he
    exact ⟨pair.2, (drawn_eq_ok_iff.mp hp).2⟩

theorem draw_isOk_iff :
    (∃ pairs left, draw factory count counters = .ok pairs left) ↔
      ∀ index ∈ (counters.take factory.name count).1.indices,
        ∃ attributes, factory.attributesAt index = .ok attributes := by
  have hdrawn : ∀ index, (∃ pair, drawn factory index = .ok pair) ↔
      ∃ attributes, factory.attributesAt index = .ok attributes := by
    intro index
    constructor
    · rintro ⟨pair, hp⟩
      exact ⟨pair.2, (drawn_eq_ok_iff.mp hp).2⟩
    · rintro ⟨attributes, ha⟩
      exact ⟨(index, attributes), drawn_eq_ok_iff.mpr ⟨rfl, ha⟩⟩
  simp only [← hdrawn, ← mapM_isOk_iff]
  rw [draw_eq]
  cases (counters.take factory.name count).1.indices.mapM (drawn factory) with
  | ok pairs => exact ⟨fun _ => ⟨pairs, rfl⟩, fun _ => ⟨pairs, _, rfl⟩⟩
  | error error => exact ⟨nofun, nofun⟩

/-! ## The next instance -/

/-- The attributes with which the next instance is built, before its overrides.  A counter at its
last word goes back to zero, and no index is given out. -/
def upcoming (factory : Factory) (counters : Counters) : Except Error AttributeMap :=
  if counters.current factory.name + 1 = UInt64.size then
    .error (.expression factory.name 0 "" "no attributes were produced")
  else factory.attributesAt (counters.current factory.name)

theorem upcoming_eq_ok_iff {attributes : AttributeMap} :
    upcoming factory counters = .ok attributes ↔
      counters.current factory.name + 1 < UInt64.size ∧
        factory.attributesAt (counters.current factory.name) = .ok attributes := by
  have hlt := counters.current_lt factory.name
  unfold upcoming
  split
  · exact ⟨nofun, fun h => by omega⟩
  · exact ⟨fun h => ⟨by omega, h⟩, fun h => h.2⟩

/-- Without attributes for it the next instance fails as an evaluation does. -/
theorem upcoming_eq_error {error : Error} (h : upcoming factory counters = .error error) :
    ∃ index field message, error = .expression factory.name index field message := by
  unfold upcoming at h
  split at h
  · cases h
    exact ⟨_, _, _, rfl⟩
  · obtain ⟨field, message, he, -⟩ := Factory.attributesAt_eq_error_iff.mp h
    exact ⟨_, field, message, he⟩

theorem draw_one (factory : Factory) (counters : Counters) :
    draw factory 1 counters =
      if counters.current factory.name + 1 = UInt64.size then
        .ok [] (counters.advance factory.name 1)
      else
        match factory.attributesAt (counters.current factory.name) with
        | .error error => .error error (counters.advance factory.name 1)
        | .ok attributes => .ok [(counters.current factory.name, attributes)]
          (counters.advance factory.name 1) := by
  have hlt := counters.current_lt factory.name
  rw [draw_eq]
  by_cases hlast : counters.current factory.name + 1 = UInt64.size
  · rw [if_pos hlast, (take_last hlast).1]
    rfl
  · have hroom : counters.current factory.name + 1 < UInt64.size := by omega
    rw [if_neg hlast, indices_take hroom, List.range'_one, List.mapM_cons, List.mapM_nil]
    unfold drawn
    cases factory.attributesAt (counters.current factory.name) <;> rfl

end Counters

/-- To build an instance is to spend an index on it, whether or not there are attributes. -/
theorem Bench.build_eq {σ : Type} (factory : Factory) (overrides : AttributeMap)
    (bench : Bench σ) :
    build factory overrides bench =
      match Counters.upcoming factory bench.counters with
      | .error error =>
        .error error { bench with counters := bench.counters.advance factory.name 1 }
      | .ok attributes =>
        .ok () { bench with
          counters := bench.counters.advance factory.name 1
          roster := bench.roster.push
            { index := bench.counters.current factory.name
              attributes := factory.finish attributes overrides
              overrides } } := by
  unfold build Counters.upcoming
  rw [Counters.draw_one]
  by_cases hlast : bench.counters.current factory.name + 1 = UInt64.size
  · rw [if_pos hlast, if_pos hlast]
    dsimp only
    rw [(Counters.take_last hlast).2]
  · rw [if_neg hlast, if_neg hlast]
    cases factory.attributesAt (bench.counters.current factory.name) <;> rfl

namespace Counters

/-! ## Calls -/

/-- What can be asked of counters. -/
inductive Call where
  -- The next indices of a factory.
  | take (factory : String) (count : Nat)
  -- The next indices of a factory, with the attributes at them.
  | draw (factory : Factory) (count : Nat)
  | restart (factory : String)
  | restartAll

/-- The counters after a call, whether it succeeds or fails. -/
def Call.perform (counters : Counters) : Call → Counters
  | .take factory count => counters.advance factory count
  | .draw factory count => after (Counters.draw factory count) counters
  | .restart factory => counters.restart factory
  | .restartAll => {}

/-- How many indices the call asks for, if it asks for indices of the factory. -/
def Call.asked? (name : String) : Call → Option Nat
  | .take factory count => if factory = name then some count else none
  | .draw factory count => if factory.name = name then some count else none
  | .restart _ | .restartAll => none

/-- The call restarts the counter of the factory. -/
def Call.restarts (name : String) : Call → Bool
  | .restart factory => factory = name
  | .restartAll => true
  | .take _ _ | .draw _ _ => false

theorem word_perform (counters : Counters) (call : Call) (name : String) :
    (call.perform counters).word name =
      if call.restarts name then 0
      else counters.word name + UInt64.ofNat ((call.asked? name).getD 0) := by
  cases call with
  | take factory count =>
    show (counters.advance factory count).word name = _
    rw [word_advance]
    by_cases h : factory = name
    · simp [Call.restarts, Call.asked?, h]
    · simp [Call.restarts, Call.asked?, h, Ne.symm h]
  | draw factory count =>
    show (after (Counters.draw factory count) counters).word name = _
    rw [after_draw, word_advance]
    by_cases h : factory.name = name
    · simp [Call.restarts, Call.asked?, h]
    · simp [Call.restarts, Call.asked?, h, Ne.symm h]
  | restart factory =>
    show (counters.restart factory).word name = _
    rw [word_restart]
    by_cases h : factory = name
    · simp [Call.restarts, h]
    · simp [Call.restarts, Call.asked?, h, Ne.symm h]
  | restartAll => rfl

end Counters

open Counters

/-- What has been between a factory and the counters. -/
structure Account where
  counters : Counters := {}
  -- The spans that the factory was given since its counter was last restarted.
  given : List Span := []
  -- How many indices it asked for each time.
  requested : List Nat := []

namespace Account

/-- A call is entered in the account of a factory. -/
def enter (name : String) (account : Account) (call : Call) : Account :=
  let counters := call.perform account.counters
  if call.restarts name then { counters }
  else
    match call.asked? name with
    | none => { account with counters }
    | some count =>
      { counters
        given := account.given ++ [(account.counters.take name count).1]
        requested := account.requested ++ [count] }

/-- The account of a factory after some calls, from the first call on. -/
def ofCalls (name : String) (calls : List Call) : Account := calls.foldl (enter name) {}

variable {account : Account} {name : String}

/-- The spans follow one another up to the counter, which shows how much was asked for; and without
wrapping around they are as long as they should be, from zero on. -/
structure Balanced (name : String) (account : Account) : Prop where
  word : account.counters.word name = UInt64.ofNat account.requested.sum
  chain : account.given.IsChain fun span next => next.first = span.next
  last : ∀ span ∈ account.given.getLast?, span.next = account.counters.word name
  given : account.requested.sum < UInt64.size →
    (account.given.map Span.indices).flatten = List.range account.requested.sum ∧
      (account.given.map Span.indices).map List.length = account.requested

theorem Balanced.current (h : account.Balanced name)
    (hlt : account.requested.sum < UInt64.size) :
    account.counters.current name = account.requested.sum := by
  unfold Counters.current
  rw [h.word, UInt64.toNat_ofNat_of_lt' hlt]

theorem Balanced.enter (h : account.Balanced name) (call : Call) :
    (account.enter name call).Balanced name := by
  have hword := word_perform account.counters call name
  unfold Account.enter
  dsimp only
  by_cases hr : call.restarts name = true
  · rw [if_pos hr] at hword ⊢
    exact ⟨hword, List.IsChain.nil, nofun, fun _ => ⟨rfl, rfl⟩⟩
  · rw [if_neg hr] at hword ⊢
    cases ha : call.asked? name with
    | none =>
      rw [ha, Option.getD_none] at hword
      have hsame := hword.trans (UInt64.add_zero _)
      exact ⟨hsame.trans h.word, h.chain, fun span hs => (h.last span hs).trans hsame.symm, h.given⟩
    | some count =>
      rw [ha, Option.getD_some] at hword
      refine ⟨?_, ?_, fun span hs => ?_, fun hlt => ?_⟩
      · dsimp only
        rw [hword, h.word, List.sum_append_nat, List.sum_singleton, UInt64.ofNat_add]
      · rw [List.isChain_append]
        refine ⟨h.chain, List.isChain_singleton _, fun span hs next hn => ?_⟩
        cases hn
        exact (h.last span hs).symm
      · rw [List.getLast?_concat] at hs
        cases hs
        show (account.counters.advance name count).word name =
          (call.perform account.counters).word name
        rw [word_advance, if_pos rfl, hword]
      · dsimp only at hlt ⊢
        rw [List.sum_append_nat, List.sum_singleton] at hlt ⊢
        have hsum : account.requested.sum < UInt64.size := by omega
        obtain ⟨hflatten, hlengths⟩ := h.given hsum
        have hroom : account.counters.current name + count < UInt64.size := by
          rw [h.current hsum]
          exact hlt
        have hspan := indices_take hroom
        rw [h.current hsum] at hspan
        rw [List.map_append, List.map_singleton, hspan, List.flatten_append, hflatten,
          List.flatten_singleton, List.map_append, hlengths, List.map_singleton, List.length_range']
        refine ⟨?_, rfl⟩
        rw [List.range_eq_range', List.range_eq_range', ← List.range'_append_1, Nat.zero_add]

/-- Calls keep the account of every factory balanced. -/
theorem balanced_ofCalls (name : String) (calls : List Call) :
    (ofCalls name calls).Balanced name := by
  have hrun : ∀ account : Account, account.Balanced name →
      (calls.foldl (enter name) account).Balanced name := by
    induction calls with
    | nil => exact fun _ h => h
    | cons call rest ih => exact fun account h => ih _ (h.enter call)
  exact hrun {} ⟨rfl, List.IsChain.nil, nofun, fun _ => ⟨rfl, rfl⟩⟩

/-- As long as its counter does not wrap around, a factory was given every index below the counter
once and in order since the counter was last restarted, as many at a time as it asked for. A draw
moves the counter of its factory by what it asks for, and those of others not at all; it answers
exactly if all of its indices can be evaluated, and otherwise fails as the first of them does. -/
theorem issues_once (calls : List Call) (name : String)
    (h : (ofCalls name calls).requested.sum < UInt64.size) :
    let account := ofCalls name calls
    let given := account.given.map Span.indices
    (given.flatten = List.range (account.counters.current name) ∧
      given.Pairwise List.Disjoint ∧
      given.map List.length = account.requested ∧
      account.given.IsChain (fun span next => next.first = span.next) ∧
      account.counters.current name = account.requested.sum) ∧
    ∀ (factory : Factory) (count : Nat),
      account.counters.current factory.name + count < UInt64.size →
      let indices := List.range' (account.counters.current factory.name) count
      (account.counters.take factory.name count).1.indices = indices ∧
      (∀ other, (after (draw factory count) account.counters).current other =
        account.counters.current other + if other = factory.name then count else 0) ∧
      ((∃ pairs left, draw factory count account.counters = .ok pairs left) ↔
        ∀ index ∈ indices, ∃ attributes, factory.attributesAt index = .ok attributes) ∧
      Ends (draw factory count account.counters)
        (fun pairs _ => pairs.map (·.1) = indices ∧
          ∀ pair ∈ pairs, factory.attributesAt pair.1 = .ok pair.2)
        (fun error _ => ∃ before index rest, indices = before ++ index :: rest ∧
          (∀ earlier ∈ before, ∃ attributes, factory.attributesAt earlier = .ok attributes) ∧
          factory.attributesAt index = .error error) ∧
      ∀ left, count = 1 → draw factory count account.counters ≠ .ok [] left := by
  intro account given
  have hb : account.Balanced name := balanced_ofCalls name calls
  have hcurrent := hb.current h
  obtain ⟨hflatten, hlengths⟩ := hb.given h
  have hdisjoint : given.Pairwise List.Disjoint :=
    (List.nodup_flatten.mp (hflatten ▸ List.nodup_range)).2
  refine ⟨⟨hcurrent ▸ hflatten, hdisjoint, hlengths, hb.chain, hcurrent⟩,
    fun factory count hlt => ?_⟩
  intro indices
  have hindices : (account.counters.take factory.name count).1.indices = indices :=
    indices_take hlt
  have hends : Ends (draw factory count account.counters) _ _ :=
    draw_ends factory count account.counters
  rw [hindices] at hends
  refine ⟨hindices, fun other => ?_, hindices ▸ draw_isOk_iff, hends, ?_⟩
  · rw [after_draw]
    by_cases ho : other = factory.name
    · rw [if_pos ho, ho, current_advance_of_lt hlt]
    · rw [if_neg ho, current_advance_of_ne _ ho, Nat.add_zero]
  · -- One index is taken, and it comes with the answer.
    rintro left rfl hl
    rw [hl] at hends
    have hnone : List.range' (account.counters.current factory.name) 1 = [] := hends.1.symm
    cases hnone

/-- After a restart a draw fails at its second index; the next draw goes on behind it. -/
theorem issues_once_of_failed_draw :
    let user : Factory :=
      { name := "user"
        model := "User"
        fields := (∅ : SortedMap Expression).insert "nick"
          (.computed fun index => if index = 1 then .error "taken" else .ok (.text "free")) }
    let calls : List Call :=
      [.take "user" 3, .take "post" 2, .restart "user", .draw user 2, .take "post" 4, .draw user 1]
    let account := ofCalls "user" calls
    account.requested.sum < UInt64.size ∧ account.given.map Span.indices = [[0, 1], [2]] ∧
      (account.given.map Span.indices).flatten = List.range (account.counters.current "user") ∧
      ∃ pairs left, draw user 1 account.counters = .ok pairs left := by
  intro user calls account
  have hrequested : account.requested.sum < UInt64.size := by decide +kernel
  have hcurrent : account.counters.current user.name = 3 := by decide +kernel
  have hissued := issues_once calls "user" hrequested
  have hdraw := hissued.2 user 1 (by rw [hcurrent]; decide)
  refine ⟨hrequested, by decide +kernel, hissued.1.1, hdraw.2.2.1.mpr fun index hi => ?_⟩
  rw [hcurrent, List.range'_one, List.mem_singleton] at hi
  exact ⟨(∅ : AttributeMap).insert "nick" (.text "free"), by rw [hi]; rfl⟩

end Account

end Fixtures
