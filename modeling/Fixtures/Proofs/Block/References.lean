import Fixtures.Proofs.Block.ReadBack
import Fixtures.Proofs.Block.WellFormed
import Fixtures.Proofs.History.Lasting
import Fixtures.Proofs.Roster.Answers

/-!
# References stay valid

What a declaration has answered can be used for as long as the block goes on: the positions of a
reference keep their instances, and the instances that the declaration saved keep the keys of their
records (`Block.references_last`).  So a link between two such references finds every instance and
every key that it needs; it fails for want of an association, or because the store refuses to
write.
-/

namespace Fixtures

open DatabaseBacked

namespace Block

variable {σ : Type}

def instance? (block : Block σ) (name : String) (position : Nat) : Option Instance :=
  (block.rosters.get? name).bind (·.instance? position)

theorem instance?_bench (block : Block σ) (name : String) (position : Nat) :
    (block.bench name).roster.instance? position = block.instance? name position := by
  unfold bench instance?
  cases block.rosters.get? name <;> rfl

theorem record?_eq_instance? (block : Block σ) (name : String) (position : Nat) :
    block.record? name position = (block.instance? name position).bind (·.record) := by
  unfold record? instance? Roster.record?
  cases block.rosters.get? name <;> rfl

variable {block left made : Block σ} {link : Link}

theorem linkedId_of_isSome {name : String} {position : Nat}
    (h : (block.record? name position).isSome = true) (link : Link) :
    ∃ id, linkedId link name position block = .ok id block := by
  obtain ⟨record, hr⟩ := Option.isSome_iff_exists.mp h
  exact ⟨record.id, linkedId_of_some (by rw [recordId?_eq, hr]; rfl) link⟩

variable [RecordStore σ]

/-! ## References that a run has answered -/

/-- In the course of a run a declaration answers the reference, and leaves the block as it is
then. -/
def Answered (workshop : Workshop) (store : σ) (attempts : List Attempt) (arguments : Arguments)
    (ref : Ref) (made : Block σ) : Prop :=
  ∃ before name caught rest block, attempts = before ++ ⟨.declare name arguments, caught⟩ :: rest ∧
    performAll before (start workshop store) = .ok () block ∧
      declare name arguments block = .ok ref made

/-- In the course of a run a declaration that saves answers the reference. -/
def AnsweredSaved (workshop : Workshop) (store : σ) (attempts : List Attempt) (ref : Ref) : Prop :=
  ∃ arguments made, Answered workshop store attempts arguments ref made ∧
    ref.form.saves arguments = true

/-- A run goes on from what its declaration has left. -/
theorem Answered.after_eq {workshop : Workshop} {store : σ} {attempts : List Attempt}
    {arguments : Arguments} {ref : Ref} (h : Answered workshop store attempts arguments ref made) :
    ∃ rest, after (performAll attempts) (start workshop store) = after (performAll rest) made := by
  obtain ⟨before, name, caught, rest, block, rfl, hb, hd⟩ := h
  refine ⟨rest, ?_⟩
  have hp : perform (.declare name arguments) block = .ok (.declared ref) made := bind_of_ok hd
  have hc := performAll_cons ⟨.declare name arguments, caught⟩ rest block
  have ha := performAll_append before (⟨.declare name arguments, caught⟩ :: rest)
    (start workshop store)
  rw [hp] at hc
  rw [bind_of_ok hb, hc] at ha
  unfold after
  rw [ha]

theorem answered_of_ends {workshop : Workshop} {store : σ} (before : List Attempt)
    {rest : List Attempt} {name : String} {caught : Bool} {arguments : Arguments} {ref : Ref}
    (h : Ends ((performAll before >>= fun _ => declare name arguments) (start workshop store))
      (fun answer _ => answer = ref) fun _ _ => False) :
    ∃ made, Answered workshop store (before ++ ⟨.declare name arguments, caught⟩ :: rest) arguments
      ref made := by
  cases hr : (performAll before >>= fun _ => declare name arguments) (start workshop store) with
  | ok answer made =>
    rw [hr] at h
    obtain ⟨_, block, hb, hd⟩ := bind_eq_ok_iff.mp hr
    exact ⟨made, before, name, caught, rest, block, rfl, hb, h ▸ hd⟩
  | error error left =>
    rw [hr] at h
    exact h.elim

/-- A declaration that succeeds has an instance at each of its positions, and a record where it
saves. -/
theorem has_of_declare {name : String} {arguments : Arguments} {ref : Ref}
    (hw : block.WellFormed) (hd : declare name arguments block = .ok ref left) {position : Nat}
    (hp : position ∈ ref.positions) :
    ∃ item, left.instance? ref.factory position = some item ∧
      (ref.form.saves arguments = true → ∃ record, item.record = some record) := by
  obtain ⟨factory, bench, -, hf, hb, rfl⟩ := declare_eq_ok hd
  have ha : Bench.Answers (ref.form.saves arguments)
      (Bench.declare factory name ref.form arguments) (block.bench ref.factory) :=
    Bench.answers_declare name ref.form arguments (hw.bench ref.factory)
  unfold Bench.Answers at ha
  rw [hb] at ha
  obtain ⟨item, hi, hs⟩ := ha position hp
  refine ⟨item, ?_, fun hsaves => Option.isSome_iff_exists.mp (hs hsaves)⟩
  unfold instance? setBench
  rw [SortedMap.get?_insert_self]
  exact hi

/-! ## Links between saved instances -/

/-- A change of a saved instance fails only if the store refuses it. -/
theorem revise_ends_of_isSome {name : String} {position : Nat}
    (h : (block.record? name position).isSome = true) (changes : AttributeMap) :
    Ends (revise name position changes block) (fun _ _ => True)
      fun error _ => ∃ refusal, error = .store refusal := by
  rw [revise_eq]
  unfold record? Roster.record? at h
  cases hr : block.rosters.get? name with
  | none =>
    rw [hr] at h
    cases h
  | some roster =>
    rw [hr, Option.bind_some] at h
    dsimp only
    cases hi : roster.instance? position with
    | none =>
      rw [hi] at h
      cases h
    | some item =>
      rw [hi, Option.bind_some] at h
      obtain ⟨record, hrecord⟩ := Option.isSome_iff_exists.mp h
      dsimp only
      rw [Instance.revise_of_some changes block.store hrecord]
      cases RecordStore.replace record (record.attributes.overlay changes) block.store with
      | ok found store => trivial
      | error refusal store => exact ⟨refusal, rfl⟩

theorem insertRecord_ends (model : String) (attributes : AttributeMap) (block : Block σ) :
    Ends (insertRecord model attributes block) (fun _ _ => True)
      fun error _ => ∃ refusal, error = .store refusal := by
  unfold insertRecord
  cases RecordStore.insert model attributes block.store with
  | ok record store => trivial
  | error refusal store => exact ⟨refusal, rfl⟩

/-- Of a pair of saved instances, each has its key to give and a record to change. -/
theorem linkPair_ends (resolution : Resolution) {pair : Nat × Nat} (hs : link.IsSaved block)
    (hp : pair ∈ link.pairs) :
    Ends (linkPair link resolution pair block) (fun _ _ => True)
      fun error _ => ∃ refusal, error = .store refusal := by
  have hsome := isSome_of_mem_pairs hs hp
  have hgive : ∀ (giver holder : Side) (field : String),
      Ends (giveKey link (giver.of (ends link pair)) (holder.of (ends link pair)) field block)
        (fun _ _ => True) fun error _ => ∃ refusal, error = .store refusal := by
    intro giver holder field
    obtain ⟨id, hid⟩ := linkedId_of_isSome (hsome giver) link
    unfold giveKey
    rw [bind_of_ok hid]
    exact revise_ends_of_isSome (hsome holder) _
  cases hk : resolution.association.kind with
  | belongsTo =>
    rw [linkPair_of_belongsTo hk]
    exact hgive _ _ _
  | hasOne =>
    rw [linkPair_of_has (Or.inl hk)]
    exact hgive _ _ _
  | hasMany =>
    rw [linkPair_of_has (Or.inr hk)]
    exact hgive _ _ _
  | manyToMany through key key' =>
    rw [linkPair_of_manyToMany hk]
    obtain ⟨id, hid⟩ := linkedId_of_isSome (hsome resolution.owner) link
    obtain ⟨id', hid'⟩ := linkedId_of_isSome (hsome resolution.owner.other) link
    unfold join
    rw [bind_of_ok hid, bind_of_ok hid']
    exact insertRecord_ends _ _ _

variable [DatabaseBacked σ]

theorem LinkStep.isSaved (h : LinkStep block left) (hn : (database block.store).Numbered)
    (hs : link.IsSaved block) : (database left.store).Numbered ∧ link.IsSaved left := by
  obtain ⟨name, position, hr⟩ := h.recordStep hn
  exact ⟨hr.numbered, fun p hp => hr.isSome (hs.1 p hp), fun p hp => hr.isSome (hs.2 p hp)⟩

theorem linkPairs_ends (resolution : Resolution) {pairs : List (Nat × Nat)}
    (hn : (database block.store).Numbered) (hs : link.IsSaved block)
    (hp : ∀ pair ∈ pairs, pair ∈ link.pairs) :
    Ends (linkPairs link resolution pairs block) (fun _ _ => True)
      fun error _ => ∃ refusal, error = .store refusal := by
  induction pairs generalizing block with
  | nil => trivial
  | cons pair rest ih =>
    have hk : (database (after (linkPair link resolution pair) block).store).Numbered ∧
        link.IsSaved (after (linkPair link resolution pair) block) := by
      apply Moves.keeps (P := fun left => (database left.store).Numbered ∧ link.IsSaved left) _
        ⟨hn, hs⟩
      apply ((Compositional.of_moves fun _ _ h => h).linkPair link resolution pair).mono
      intro before left hstep hb
      exact hstep.isSaved hb.1 hb.2
    -- Writing for the first pair, failing or not, leaves the others as saved as they were.
    have hends := (linkPair_ends resolution hs (hp pair List.mem_cons_self)).and
      (Ends.of_after (P := fun left => (database left.store).Numbered ∧ link.IsSaved left) hk)
    apply Ends.bind (hends.mono (fun _ _ h => h.2) fun _ _ h => h.1)
    intro _ left h
    exact ih h.1 h.2 fun pair hmem => hp pair (List.mem_cons_of_mem _ hmem)

/-- Why a link between saved instances fails: the choice of its association does, or the store
refuses a write.  Nothing that the link looks for is missing. -/
structure LinkFailure (catalog : Catalog) (source target : Factory) (via : Option String)
    (error : Error) : Prop where
  cause : catalog.resolveLink source target via = .error error ∨ ∃ refusal, error = .store refusal
  found : error.isMissingAccessor = false
  persisted : ∀ source target name position,
    error ≠ .linkResolution source target (.notPersisted name position)

theorem link_ends {source target : Factory}
    (hs : block.workshop.catalog.factory? link.source.factory = some source)
    (ht : block.workshop.catalog.factory? link.target.factory = some target)
    (hn : (database block.store).Numbered) (hsaved : link.IsSaved block) :
    Ends (Block.link link block) (fun _ _ => True)
      fun error _ => LinkFailure block.workshop.catalog source target link.via error := by
  rw [link_of_factories hs ht]
  cases hc : block.workshop.catalog.chooseAssociation source target link.via with
  | error fault =>
    refine ⟨Or.inl ?_, rfl, fun _ _ name position he => ?_⟩
    · unfold Catalog.resolveLink
      rw [hc]
    · cases he
      exact Catalog.chooseAssociation_error hc name position rfl
  | ok resolution =>
    have hmem : ∀ pair ∈ resolution.written link.pairs, pair ∈ link.pairs := by
      intro pair hp
      unfold Resolution.written at hp
      split at hp
      · exact mem_of_mem_firstPerHolder hp
      · exact hp
    apply Ends.bind (Ends.mono (linkPairs_ends resolution hn hsaved hmem) (fun _ _ h => h) _)
    · intro _ _ _
      trivial
    · rintro error left ⟨refusal, rfl⟩
      exact ⟨Or.inr ⟨refusal, rfl⟩, rfl, fun _ _ _ _ he => by cases he⟩

/-! ## References over a run -/

section

variable {workshop : Workshop} {store : σ} {attempts : List Attempt} {arguments : Arguments}
  {ref : Ref}

theorem Answered.lasts (h : Answered workshop store attempts arguments ref made)
    (hn : (database store).Numbered) {position : Nat} (hp : position ∈ ref.positions) :
    ∃ item item', made.instance? ref.factory position = some item ∧
      (after (performAll attempts) (start workshop store)).instance? ref.factory position =
        some item' ∧
      item.Lasts item' ∧
        (ref.form.saves arguments = true → ∃ record, item.record = some record) := by
  obtain ⟨rest, hafter⟩ := h.after_eq
  obtain ⟨before, name, caught, _, block, -, hb, hd⟩ := h
  have hw : block.WellFormed := by
    rw [← after_of_ok hb]
    exact wellFormed_kept.performAll before (start_wellFormed workshop store)
  have hmade : (database made.store).Numbered := by
    have hblock := numbered_performAll before (start workshop store) hn
    rw [after_of_ok hb] at hblock
    have hall := numbered_performAll [⟨.declare name arguments, caught⟩] block hblock
    have hp : perform (.declare name arguments) block = .ok (.declared ref) made := bind_of_ok hd
    unfold after at hall
    rw [performAll_cons, hp] at hall
    exact hall
  obtain ⟨item, hi, hs⟩ := has_of_declare hw hd hp
  rw [hafter]
  obtain ⟨item', hi', hl⟩ := lasts_performAll rest made hmade (ref.factory, position) item hi
  exact ⟨item, item', hi, hi', hl, hs⟩

theorem AnsweredSaved.isSome (h : AnsweredSaved workshop store attempts ref)
    (hn : (database store).Numbered) {position : Nat} (hp : position ∈ ref.positions) :
    ((after (performAll attempts) (start workshop store)).record? ref.factory position).isSome =
      true := by
  obtain ⟨arguments, made, ha, hs⟩ := h
  obtain ⟨item, item', -, hi', hl, hr⟩ := ha.lasts hn hp
  obtain ⟨record, hrecord⟩ := hr hs
  obtain ⟨record', hrecord', -⟩ := hl.record record hrecord
  rw [record?_eq_instance?, hi', Option.bind_some, hrecord']
  rfl

/-- In every later state of a run, the positions of a reference have the instances that they had
when it was answered, and if the declaration saved these, their records have the same model and key
as then.  Two references that were answered for saved instances can be linked, unless there is no
one association to use or the store refuses a write. -/
theorem references_last (workshop : Workshop) (store : σ) (attempts : List Attempt)
    (hr : (database store).Reachable) :
    let left := after (performAll attempts) (start workshop store)
    (∀ arguments ref made, Answered workshop store attempts arguments ref made →
      ∀ position ∈ ref.positions, ∃ item item',
        made.instance? ref.factory position = some item ∧
        left.instance? ref.factory position = some item' ∧ item'.index = item.index ∧
        (ref.form.saves arguments = true → ∃ record record', item.record = some record ∧
          item'.record = some record' ∧ record'.model = record.model ∧ record'.id = record.id)) ∧
    ∀ link source target, AnsweredSaved workshop store attempts link.source →
      AnsweredSaved workshop store attempts link.target →
      left.workshop.catalog.factory? link.source.factory = some source →
      left.workshop.catalog.factory? link.target.factory = some target →
        Ends (Block.link link left) (fun _ _ => True)
          fun error _ => LinkFailure left.workshop.catalog source target link.via error := by
  have hn := hr.numbered
  intro left
  refine ⟨fun arguments ref made ha position hp => ?_, fun link source target hsa hta hs ht => ?_⟩
  · obtain ⟨item, item', hi, hi', hl, hsaved⟩ := ha.lasts hn hp
    refine ⟨item, item', hi, hi', hl.index, fun hsaves => ?_⟩
    obtain ⟨record, hrecord⟩ := hsaved hsaves
    obtain ⟨record', hrecord', hk⟩ := hl.record record hrecord
    exact ⟨record, record', hrecord, hrecord', congrArg Prod.fst hk, congrArg Prod.snd hk⟩
  · exact link_ends hs ht (numbered_performAll attempts (start workshop store) hn)
      ⟨fun position hp => hsa.isSome hn hp, fun position hp => hta.isSome hn hp⟩

/-- The store refuses the key that a post is to take, and nothing else is amiss. -/
theorem references_last_of_refused :
    let user : Factory := { name := "user", model := "User" }
    let post : Factory := { name := "post", model := "Post" }
    let author : Association :=
      { name := "author", kind := .belongsTo, targetModel := "User", foreignKey := "authorId" }
    let workshop : Workshop :=
      { catalog := (((∅ : Catalog).register user).register post).registerSchema
          (({ model := "Post" } : Schema).add author) }
    let store : Journal Database := { store := {}, refusedReplaces := [0] }
    let attempts : List Attempt :=
      [⟨.declare "user" .none, false⟩, ⟨.declare "posts" (.count 2), false⟩]
    let link : Link :=
      { source := ⟨"post", .collection, [0, 1]⟩, target := ⟨"user", .singleton, [0]⟩ }
    let left := after (performAll attempts) (start workshop store)
    (∃ made item item', Answered workshop store attempts .none link.target made ∧
      made.instance? "user" 0 = some item ∧ left.instance? "user" 0 = some item' ∧
        item'.index = item.index) ∧
    Ends (Block.link link left) (fun _ _ => False)
      fun error _ => LinkFailure left.workshop.catalog post user none error := by
  intro user post author workshop store attempts link left
  obtain ⟨hpositions, hlink⟩ := references_last workshop store attempts Database.Reachable.start
  have hc : left.workshop.catalog = workshop.catalog :=
    performAll_catalog (by decide +kernel)
  have hpost : workshop.catalog.factory? "post" = some post := SortedMap.get?_insert_self ..
  have huser : workshop.catalog.factory? "user" = some user :=
    (SortedMap.get?_insert_of_ne _ post (by decide)).trans (SortedMap.get?_insert_self ..)
  obtain ⟨made, hmade⟩ : ∃ made, Answered workshop store attempts .none link.target made :=
    answered_of_ends [] (by decide +kernel)
  obtain ⟨made', hmade'⟩ : ∃ made, Answered workshop store attempts (.count 2) link.source made :=
    answered_of_ends [⟨.declare "user" .none, false⟩] (by decide +kernel)
  refine ⟨?_, ?_⟩
  · obtain ⟨item, item', hi, hi', hx, -⟩ := hpositions _ _ made hmade 0 List.mem_cons_self
    exact ⟨made, item, item', hmade, hi, hi', hx⟩
  · have hfails : Ends (Block.link link left) (fun _ _ => False) fun _ _ => True := by
      decide +kernel
    have hends := hlink link post user ⟨_, made', hmade', rfl⟩ ⟨_, made, hmade, rfl⟩ (hc ▸ hpost)
      (hc ▸ huser)
    exact (hfails.and hends).mono (fun _ _ h => h.1) fun _ _ h => h.2

end

end Block

end Fixtures
