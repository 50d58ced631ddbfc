import Fixtures.Proofs.Block.Step
import Fixtures.Proofs.Roster.Failures
import Fixtures.Proofs.Unnoticed
import Fixtures.Store.Database

/-!
# Rejected declarations

A declaration is rejected if its name stands for nothing, its arguments do not fit the name, or it
is unclear which instance it means.  It leaves the block as it was, with one exception: arguments
that do not fit leave an empty roster for a factory that had none (`Block.mention`).  Nothing that
comes later notices an empty roster, so the run goes on as if the declaration had not been written,
and only its context knows one factory more (`Block.declare_rejected`).
-/

namespace Fixtures

/-- The declaration itself is not acceptable, as opposed to one that fails when it is carried
out. -/
def Error.isRejection : Error → Bool
  | .unknownAccessor _ | .invalidDeclaration _ _ | .uniquenessViolation _ _ => true
  | .unknownFactory _ | .ambiguousAccess _ _ | .noSuchAccessor _ | .notPersisted _
  | .linkResolution _ _ _ | .expression _ _ _ _ | .store _ | .settings _ => false

/-! ## Operations that reject nothing -/

/-- An operation that may fail, but not as a rejection. -/
def Accepting {σ α : Type} (operation : EStateM Error σ α) : Prop :=
  ∀ state, Ends (operation state) (fun _ _ => True) fun error _ => error.isRejection = false

namespace Bench

variable {σ : Type} {factory : Factory}

/-- How a declaration of `name` can be rejected on a bench: by arguments that do not fit, or by
several instances none of which is the singleton. -/
def Rejected (name : String) (bench : Bench σ) (error : Error) : Prop :=
  (∃ fault, error = .invalidDeclaration name fault) ∨
    2 ≤ bench.roster.size ∧ error = .uniquenessViolation bench.roster.factory bench.roster.size

/-- The operation rejects before it has done anything. -/
def RejectsFirst (name : String) {α : Type} (operation : EStateM Error (Bench σ) α) : Prop :=
  ∀ bench, Ends (operation bench) (fun _ _ => True) fun error left =>
    error.isRejection = true → left = bench ∧ Rejected name bench error

theorem rejectsFirst_of_accepting {name : String} {α : Type}
    {operation : EStateM Error (Bench σ) α} (h : Accepting operation) :
    RejectsFirst name operation := fun bench =>
  (h bench).mono (fun _ _ _ => trivial) fun error left hf hr => by
    rw [hf] at hr
    cases hr

variable [RecordStore σ]

/-- No instance rejects anything. -/
theorem accepting_compositional :
    Compositional (σ := σ) factory fun _ operation => Accepting operation :=
  failsOnly_compositional fun error he => by
    cases error with
    | noSuchAccessor | expression | store => rfl
    | _ => cases he

theorem rejectsFirst_declareSingleton (name : String) (overrides : Option AttributeMap)
    (saved : Bool) : RejectsFirst name (declareSingleton (σ := σ) factory overrides saved) := by
  intro bench
  show Ends ((if bench.roster.singleton = none ∧ 2 ≤ bench.roster.size then _ else _ :
    EStateM Error (Bench σ) Nat) bench) _ _
  by_cases hu : bench.roster.singleton = none ∧ 2 ≤ bench.roster.size
  · rw [if_pos hu]
    exact fun _ => ⟨rfl, Or.inr ⟨hu.2, rfl⟩⟩
  · rw [if_neg hu]
    -- Once it is clear which position is meant, nothing is rejected any more.
    exact rejectsFirst_of_accepting (accepting_compositional.touch _ overrides saved
      (Mark.singleton _) (FailsOnly.pure _)) bench

theorem rejectsFirst_declare (name : String) (form : Form) (arguments : Arguments) :
    RejectsFirst name (declare (σ := σ) factory name form arguments) := by
  have hsingleton : ∀ overrides, RejectsFirst name
      (do return [← declareSingleton (σ := σ) factory overrides !form.isHash] :
        EStateM Error (Bench σ) (List Nat)) := fun overrides bench =>
    (rejectsFirst_declareSingleton name overrides _ bench).bind fun _ _ _ => trivial
  -- The cases are those of `declare`: two singletons, two faults, and three collections.
  unfold declare
  dsimp only
  split
  · exact hsingleton none
  · exact hsingleton (some _)
  · exact fun bench _ => ⟨rfl, Or.inl ⟨_, rfl⟩⟩
  · exact fun bench _ => ⟨rfl, Or.inl ⟨_, rfl⟩⟩
  · exact fun bench => trivial
  · exact rejectsFirst_of_accepting (accepting_compositional.declareCollection _ _)
  · exact rejectsFirst_of_accepting (accepting_compositional.declareCollection _ _)

end Bench

/-! ## Empty rosters -/

namespace Block

variable {σ : Type}

/-- The block, with an empty roster for a factory that has none. -/
def mention (name : String) (block : Block σ) : Block σ :=
  { block with rosters := block.rosters.insertNew name { factory := name } }

theorem workshop_mention (block : Block σ) (name : String) :
    (block.mention name).workshop = block.workshop := rfl

theorem store_mention (block : Block σ) (name : String) :
    (block.mention name).store = block.store := rfl

theorem mention_of_some {block : Block σ} {name : String} {roster : Roster}
    (h : block.rosters.get? name = some roster) : block.mention name = block := by
  unfold mention SortedMap.insertNew SortedMap.contains
  rw [h]
  rfl

theorem get?_mention (block : Block σ) (name other : String) :
    (block.mention name).rosters.get? other =
      if other = name then some (block.bench name).roster else block.rosters.get? other :=
  SortedMap.get?_insertNew ..

@[simp] theorem bench_mention (block : Block σ) (name other : String) :
    (block.mention name).bench other = block.bench other := by
  unfold bench
  rw [get?_mention]
  by_cases h : other = name
  · rw [if_pos h, h]
    rfl
  · rw [if_neg h]
    rfl

/-- To take the bench of a factory and put it back as it is mentions the factory. -/
theorem setBench_bench (block : Block σ) (name : String) :
    block.setBench name (block.bench name) = block.mention name := by
  have hr : block.rosters.insert name (block.bench name).roster =
      (block.mention name).rosters := by
    apply SortedMap.ext
    intro other
    rw [SortedMap.get?_insert, get?_mention]
  show ({ block with rosters := block.rosters.insert name (block.bench name).roster } : Block σ) = _
  rw [hr]
  rfl

theorem setBench_mention (block : Block σ) (name other : String) (bench : Bench σ) :
    (block.mention name).setBench other bench = (block.setBench other bench).mention name := by
  have hr : (block.mention name).rosters.insert other bench.roster =
      ((block.setBench other bench).mention name).rosters := by
    apply SortedMap.ext
    intro key
    rw [SortedMap.get?_insert, get?_mention, get?_mention]
    show _ = if key = name then _ else (block.rosters.insert other bench.roster).get? key
    rw [SortedMap.get?_insert]
    by_cases hn : key = name
    · rw [if_pos hn, if_pos hn]
      by_cases ho : key = other
      · rw [if_pos ho, ← hn, ho, bench_setBench]
      · rw [if_neg ho, ← hn]
        show _ = some (((block.rosters.insert other bench.roster).get? key).getD _)
        rw [SortedMap.get?_insert_of_ne _ _ ho]
        rfl
    · rw [if_neg hn, if_neg hn]
  show ({ block with
    workshop := { block.workshop with counters := bench.counters }
    rosters := (block.mention name).rosters.insert other bench.roster
    store := bench.store } : Block σ) = _
  rw [hr]
  rfl

theorem get?_mention_of_some {block : Block σ} {other : String} {roster : Roster}
    (h : block.rosters.get? other = some roster) (name : String) :
    (block.mention name).rosters.get? other = some roster := by
  rw [get?_mention]
  by_cases hn : other = name
  · rw [if_pos hn, ← hn]
    unfold bench
    rw [h]
    rfl
  · rw [if_neg hn, h]

/-- An empty roster has no instance that could have a record. -/
theorem recordId?_mention (block : Block σ) (name other : String) (position : Nat) :
    (block.mention name).recordId? other position = block.recordId? other position := by
  unfold recordId?
  cases hr : block.rosters.get? other with
  | some roster => rw [get?_mention_of_some hr]
  | none =>
    rw [get?_mention]
    by_cases hn : other = name
    · rw [if_pos hn, ← hn]
      unfold bench
      rw [hr]
      rfl
    · rw [if_neg hn, hr]

/-! ## Statements that come later -/

variable {name : String}

theorem linkedId_mention (link : Link) (other : String) (position : Nat) :
    Unnoticed (fun _ => True) (mention (σ := σ) name) (linkedId link other position) := by
  apply Unnoticed.of_result
  intro block
  unfold linkedId
  rw [recordId?_mention]
  cases block.recordId? other position <;> rfl

variable [RecordStore σ]

theorem declare_mention (statement : String) (arguments : Arguments) :
    Unnoticed (fun _ => True) (mention (σ := σ) name) (declare statement arguments) := by
  apply Unnoticed.of_result
  intro block
  rw [declare_eq, declare_eq, workshop_mention]
  cases block.workshop.resolveName statement with
  | error error => rfl
  | ok resolved =>
    dsimp only
    cases block.workshop.catalog.factory resolved.1 with
    | error error => rfl
    | ok factory =>
      dsimp only
      rw [bench_mention]
      cases Bench.declare factory statement resolved.2 arguments (block.bench resolved.1) with
      | ok positions bench =>
        dsimp only
        rw [setBench_mention]
        rfl
      | error error bench =>
        dsimp only
        rw [setBench_mention]
        rfl

/-- To change an instance of an empty roster fails in the same words as without the roster. -/
theorem revise_mention (other : String) (position : Nat) (changes : AttributeMap) :
    Unnoticed (fun _ => True) (mention (σ := σ) name) (revise other position changes) := by
  apply Unnoticed.of_result
  intro block
  rw [revise_eq, revise_eq]
  cases hr : block.rosters.get? other with
  | none =>
    rw [get?_mention]
    by_cases hn : other = name
    · rw [if_pos hn, ← hn]
      unfold bench
      rw [hr]
      rfl
    · rw [if_neg hn, hr]
      rfl
  | some roster =>
    have hm := get?_mention_of_some hr name
    rw [hm]
    dsimp only
    cases roster.instance? position with
    | none => rfl
    | some item =>
      have hw : ∀ left : Instance × σ,
          (block.mention name).withInstance other roster position left =
            (block.withInstance other roster position left).mention name := by
        intro left
        rw [withInstance_eq_setBench hm, withInstance_eq_setBench hr, bench_mention,
          setBench_mention]
      rw [store_mention]
      dsimp only
      cases Instance.revise changes (item, block.store) with
      | ok answer left => exact congrArg (EStateM.Result.ok ()) (hw left)
      | error error left => exact congrArg (EStateM.Result.error error) (hw left)

theorem insertRecord_mention (model : String) (attributes : AttributeMap) :
    Unnoticed (fun _ => True) (mention (σ := σ) name) (insertRecord model attributes) := by
  apply Unnoticed.of_result
  intro block
  unfold insertRecord
  rw [store_mention]
  cases RecordStore.insert model attributes block.store <;> rfl

theorem mention_compositional :
    Compositional (σ := σ) fun _ operation =>
      Unnoticed (fun _ => True) (mention name) operation where
  pure := Unnoticed.pure
  bind := Unnoticed.bind
  read hr hn := Unnoticed.get_bind (fun block => hr _ block (workshop_mention block name)) hn
  answer result := Unnoticed.of_result fun _ => by cases result <;> rfl
  linkedId := linkedId_mention
  key _ _ _ _ := revise_mention _ _ _
  join := insertRecord_mention

theorem perform_mention (statement : Statement) :
    Unnoticed (fun _ => True) (mention (σ := σ) name) (perform statement) :=
  mention_compositional.perform declare_mention (Unnoticed.of_result fun _ => rfl)

/-- A run does not notice an empty roster. -/
theorem performAll_mention (attempts : List Attempt) (block : Block σ) :
    performAll attempts (block.mention name) =
      carry (mention name) (performAll attempts block) := by
  induction attempts generalizing block with
  | nil => rfl
  | cons attempt rest ih =>
    have hp : perform attempt.statement (block.mention name) =
        carry (mention name) (perform attempt.statement block) :=
      (perform_mention attempt.statement block trivial).result
    rw [performAll_cons, performAll_cons, hp]
    cases perform attempt.statement block with
    | ok outcome left => exact ih left
    | error error left =>
      show (if attempt.caught then performAll rest (left.mention name) else _) = _
      by_cases hc : attempt.caught
      · rw [if_pos hc]
        dsimp only
        rw [if_pos hc]
        exact ih left
      · rw [if_neg hc]
        dsimp only
        rw [if_neg hc]
        rfl

/-! ## Rejected declarations -/

/-- A rejected declaration leaves the block as it was, unless its arguments did not fit and the
factory had no roster, which is an empty one then. -/
theorem left_of_rejected {statement : String} {arguments : Arguments} {block left : Block σ}
    {error : Error} (h : declare statement arguments block = .error error left)
    (hr : error.isRejection = true) :
    left = block ∨
      ∃ factory form fault, error = .invalidDeclaration statement fault ∧
        block.workshop.resolveName statement = .ok (factory, form) ∧
        block.rosters.get? factory = none ∧ left = block.mention factory := by
  rw [declare_eq] at h
  cases hn : block.workshop.resolveName statement with
  | error error' =>
    rw [hn] at h
    cases h
    exact Or.inl rfl
  | ok resolved =>
    obtain ⟨factoryName, form⟩ := resolved
    rw [hn] at h
    dsimp only at h
    cases hf : block.workshop.catalog.factory factoryName with
    | error error' =>
      rw [hf] at h
      cases h
      exact Or.inl rfl
    | ok factory =>
      rw [hf] at h
      dsimp only at h
      have hd : Ends (Bench.declare factory statement form arguments (block.bench factoryName))
          (fun _ _ => True) fun error left => error.isRejection = true →
            left = block.bench factoryName ∧
              Bench.Rejected statement (block.bench factoryName) error :=
        Bench.rejectsFirst_declare statement form arguments (block.bench factoryName)
      cases hb : Bench.declare factory statement form arguments (block.bench factoryName) with
      | ok positions bench =>
        rw [hb] at h
        cases h
      | error error' bench =>
        rw [hb] at h hd
        cases h
        obtain ⟨rfl, hwhy⟩ := hd hr
        rw [setBench_bench]
        cases hroster : block.rosters.get? factoryName with
        | some roster =>
          rw [mention_of_some hroster]
          exact Or.inl rfl
        | none =>
          rcases hwhy with ⟨fault, rfl⟩ | ⟨hsize, -⟩
          · exact Or.inr ⟨factoryName, form, fault, rfl, rfl, hroster, rfl⟩
          · -- A factory without roster has no instances to be in doubt about.
            unfold bench at hsize
            rw [hroster] at hsize
            change 2 ≤ 0 at hsize
            omega

/-- A rejected declaration that is caught changes nothing, and the run goes on as if it had not been
written, with one exception: if the arguments did not fit and the factory had no roster, it has an
empty one now.  In that case too the run goes on as it would have, and in what it leaves the factory
has an empty roster unless it has got another. -/
theorem declare_rejected {statement : String} {arguments : Arguments} {block left : Block σ}
    {error : Error} (h : declare statement arguments block = .error error left)
    (hr : error.isRejection = true) (rest : List Attempt) :
    (left = block ∧
      performAll (⟨.declare statement arguments, true⟩ :: rest) block = performAll rest block) ∨
    ∃ factory form fault, error = .invalidDeclaration statement fault ∧
      block.workshop.resolveName statement = .ok (factory, form) ∧
      block.rosters.get? factory = none ∧ left = block.mention factory ∧
      performAll (⟨.declare statement arguments, true⟩ :: rest) block =
        carry (mention factory) (performAll rest block) := by
  have hrest : performAll (⟨.declare statement arguments, true⟩ :: rest) block =
      performAll rest left := by
    have hp : perform (.declare statement arguments) block = .error error left := bind_of_error h
    rw [performAll_cons, hp]
    rfl
  rcases left_of_rejected h hr with rfl | ⟨factory, form, fault, he, hn, hroster, rfl⟩
  · exact Or.inl ⟨rfl, hrest⟩
  · rw [performAll_mention] at hrest
    exact Or.inr ⟨factory, form, fault, he, hn, hroster, rfl, hrest⟩

/-- A number of singletons is asked for. The declaration is rejected, and yet the factory is a
declared one for the context: all of its names are bound, where without the declaration none is. -/
theorem declare_mentions :
    let user : Factory := { name := "user", model := "User" }
    let workshop : Workshop := { catalog := (∅ : Catalog).register user }
    let rejected : Attempt := ⟨.declare "user" (.count 2), true⟩
    let block : Block Database := start workshop {}
    Ends (declare "user" (.count 2) block) (fun _ _ => False) (fun error left =>
        error = .invalidDeclaration "user" (.counted 2) ∧ left.rosters ≠ block.rosters) ∧
      (workshop.run .listed ({} : Database) [rejected]).1.toOption.map (·.accessors) =
        some ["user", "user_", "users", "users_"] ∧
      (workshop.run .listed ({} : Database) []).1.toOption.map (·.accessors) = some [] := by
  decide +kernel

/-- It is unclear which of two instances is to be the singleton, and the collection declared next
is the one that would have been declared anyway. -/
theorem declare_rejected_of_several :
    let user : Factory := { name := "user", model := "User" }
    let workshop : Workshop := { catalog := (∅ : Catalog).register user }
    let block : Block Database :=
      after (performAll [⟨.declare "users" (.count 2), false⟩]) (start workshop {})
    let rest : List Attempt := [⟨.declare "users" (.count 1), false⟩]
    Ends (declare "user" .none block) (fun _ _ => False)
        (fun error _ => error = .uniquenessViolation "user" 2) ∧
      performAll (⟨.declare "user" .none, true⟩ :: rest) block = performAll rest block := by
  intro user workshop block rest
  have he : Ends (declare "user" .none block) (fun _ _ => False)
      (fun error _ => error = .uniquenessViolation "user" 2) := by decide +kernel
  refine ⟨he, ?_⟩
  cases hd : declare "user" .none block with
  | ok ref left =>
    rw [hd] at he
    exact he.elim
  | error error left =>
    rw [hd] at he
    cases he
    rcases declare_rejected hd rfl rest with ⟨-, hrest⟩ | ⟨_, _, _, hne, -⟩
    · exact hrest
    · cases hne

end Block

end Fixtures
