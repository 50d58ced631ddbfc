import Fixtures.Proofs.Block.Step
import Fixtures.Proofs.Link.Reverse
import Fixtures.Store.Database

/-!
# Links in both directions, carried out

A link and its reverse write the same keys and joining records in the same order, and where one
fails, the other fails at the same pair (`Block.link_reverse`).
-/

namespace Fixtures

/-- The errors that the two directions of a link may end in: the same, or the same with its sides
swapped. -/
inductive Error.Reversed : Error → Error → Prop
  | same (error : Error) : Reversed error error
  | link (source target : String) {fault fault' : LinkFault} (h : fault.Reversed fault') :
      Reversed (.linkResolution source target fault) (.linkResolution target source fault')

/-- The same answer, or else errors of the two directions, and the same state in either case. -/
inductive Matching {σ α : Type} :
    EStateM.Result Error σ α → EStateM.Result Error σ α → Prop
  | ok (answer : α) (left : σ) : Matching (.ok answer left) (.ok answer left)
  | error {error error' : Error} (h : error.Reversed error') (left : σ) :
      Matching (.error error left) (.error error' left)

namespace Matching

variable {σ α β : Type}

theorem refl (result : EStateM.Result Error σ α) : Matching result result := by
  cases result with
  | ok answer left => exact ok answer left
  | error error left => exact Matching.error (Error.Reversed.same error) left

theorem bind {first first' : EStateM Error σ α} {next next' : α → EStateM Error σ β} {state : σ}
    (h : Matching (first state) (first' state))
    (hn : ∀ answer left, Matching (next answer left) (next' answer left)) :
    Matching ((first >>= next) state) ((first' >>= next') state) := by
  generalize hf : first state = result at h
  generalize hf' : first' state = result' at h
  cases h with
  | ok answer left =>
    rw [bind_of_ok hf, bind_of_ok hf']
    exact hn answer left
  | error he left =>
    rw [bind_of_error hf, bind_of_error hf']
    exact Matching.error he left

end Matching

namespace Block

variable {σ : Type}

/-! ## Writing for one pair -/

/-- The two instances of a pair, each as the name of its factory with a position. -/
def ends (link : Link) (pair : Nat × Nat) : (String × Nat) × (String × Nat) :=
  ((link.source.factory, pair.1), (link.target.factory, pair.2))

theorem ends_reverse (link : Link) (pair : Nat × Nat) :
    ends link.reverse pair.swap = (ends link pair).swap := rfl

theorem linkedId_of_some {name : String} {position : Nat} {block : Block σ} {id : Int}
    (h : block.recordId? name position = some id) (link : Link) :
    linkedId link name position block = .ok id block := by
  unfold linkedId
  rw [h]

theorem linkedId_of_none {name : String} {position : Nat} {block : Block σ}
    (h : block.recordId? name position = none) (link : Link) :
    linkedId link name position block =
      .error (.linkResolution link.source.factory link.target.factory
        (.notPersisted name position)) block := by
  unfold linkedId
  rw [h]

theorem linkedId_reverse (link : Link) (name : String) (position : Nat) (block : Block σ) :
    Matching (linkedId link name position block) (linkedId link.reverse name position block) := by
  unfold linkedId
  cases block.recordId? name position with
  | some id => exact Matching.ok id block
  | none => exact Matching.error (Error.Reversed.link _ _ (LinkFault.Reversed.same _)) block

variable [RecordStore σ]

/-- Writes the key of one instance into another. -/
def giveKey (link : Link) (giver holder : String × Nat) (field : String) :
    EStateM Error (Block σ) Unit := do
  let id ← linkedId link giver.1 giver.2
  revise holder.1 holder.2 (SortedMap.insert ∅ field (.int id))

/-- Inserts a record that joins two instances. -/
def join (link : Link) (owner other : String × Nat) (through ownerKey otherKey : String) :
    EStateM Error (Block σ) Unit := do
  let ownerId ← linkedId link owner.1 owner.2
  let otherId ← linkedId link other.1 other.2
  insertRecord through
    (((∅ : AttributeMap).insert ownerKey (.int ownerId)).insert otherKey (.int otherId))

variable {link : Link} {resolution resolution' : Resolution}

theorem linkPair_of_belongsTo (h : resolution.association.kind = .belongsTo) (pair : Nat × Nat) :
    linkPair (σ := σ) link resolution pair =
      giveKey link (resolution.owner.other.of (ends link pair))
        (resolution.owner.of (ends link pair)) resolution.association.foreignKey := by
  unfold linkPair giveKey ends
  dsimp only
  rw [h]
  cases resolution.owner <;> rfl

theorem linkPair_of_has
    (h : resolution.association.kind = .hasOne ∨ resolution.association.kind = .hasMany)
    (pair : Nat × Nat) :
    linkPair (σ := σ) link resolution pair =
      giveKey link (resolution.owner.of (ends link pair))
        (resolution.owner.other.of (ends link pair)) resolution.association.foreignKey := by
  unfold linkPair giveKey ends
  dsimp only
  -- Both kinds let the other model keep the key.
  rcases h with h | h <;> rw [h] <;> cases resolution.owner <;> rfl

theorem linkPair_of_manyToMany {through key key' : String}
    (h : resolution.association.kind = .manyToMany through key key') (pair : Nat × Nat) :
    linkPair (σ := σ) link resolution pair =
      join link (resolution.owner.of (ends link pair)) (resolution.owner.other.of (ends link pair))
        through key key' := by
  unfold linkPair join ends
  dsimp only
  rw [h]
  cases resolution.owner <;> rfl

theorem giveKey_reverse (giver holder : String × Nat) (field : String) (block : Block σ) :
    Matching (giveKey link giver holder field block)
      (giveKey link.reverse giver holder field block) :=
  Matching.bind (linkedId_reverse link giver.1 giver.2 block) fun _ _ => Matching.refl _

theorem join_reverse (owner other : String × Nat) (through key key' : String) (block : Block σ) :
    Matching (join link owner other through key key' block)
      (join link.reverse owner other through key key' block) := by
  apply Matching.bind (linkedId_reverse link owner.1 owner.2 block)
  intro ownerId left
  apply Matching.bind (linkedId_reverse link other.1 other.2 left)
  intro otherId left
  exact Matching.refl _

/-- Joining from the other end asks for the keys in the other order, and writes the same record. -/
theorem join_inverse {key key' : String} (hk : key ≠ key') (owner other : String × Nat)
    (through : String) (block : Block σ) :
    Matching (join link owner other through key key' block)
      (join link.reverse other owner through key' key block) := by
  unfold join
  cases ho : block.recordId? owner.1 owner.2 with
  | none =>
    rw [bind_of_error (linkedId_of_none ho link)]
    -- Each direction complains about the instance that it asks first.
    cases ht : block.recordId? other.1 other.2 with
    | none =>
      rw [bind_of_error (linkedId_of_none ht link.reverse)]
      exact Matching.error (Error.Reversed.link _ _ (LinkFault.Reversed.notPersisted _ _ _ _)) block
    | some otherId =>
      rw [bind_of_ok (linkedId_of_some ht link.reverse),
        bind_of_error (linkedId_of_none ho link.reverse)]
      exact Matching.error (Error.Reversed.link _ _ (LinkFault.Reversed.same _)) block
  | some ownerId =>
    rw [bind_of_ok (linkedId_of_some ho link)]
    cases ht : block.recordId? other.1 other.2 with
    | none =>
      rw [bind_of_error (linkedId_of_none ht link),
        bind_of_error (linkedId_of_none ht link.reverse)]
      exact Matching.error (Error.Reversed.link _ _ (LinkFault.Reversed.same _)) block
    | some otherId =>
      rw [bind_of_ok (linkedId_of_some ht link), bind_of_ok (linkedId_of_some ht link.reverse),
        bind_of_ok (linkedId_of_some ho link.reverse), SortedMap.insert_comm _ _ _ hk]
      exact Matching.refl _

theorem linkPair_reverse (h : resolution.Reversed resolution') (pair : Nat × Nat)
    (block : Block σ) :
    Matching (linkPair link resolution pair block)
      (linkPair link.reverse resolution' pair.swap block) := by
  cases h with
  | flipped =>
    -- The owner and the pair change sides together, so every instance keeps its part.
    have ho : resolution.flip.owner.of (ends link.reverse pair.swap) =
        resolution.owner.of (ends link pair) := by
      rw [ends_reverse]
      exact resolution.owner.other_of_swap _
    have ht : resolution.flip.owner.other.of (ends link.reverse pair.swap) =
        resolution.owner.other.of (ends link pair) := by
      rw [ends_reverse]
      exact resolution.owner.other.other_of_swap _
    cases hk : resolution.association.kind with
    | belongsTo =>
      have hk' : resolution.flip.association.kind = .belongsTo := hk
      rw [linkPair_of_belongsTo hk, linkPair_of_belongsTo hk', ho, ht]
      exact giveKey_reverse _ _ _ block
    | hasOne =>
      have hk' : resolution.flip.association.kind = .hasOne := hk
      rw [linkPair_of_has (Or.inl hk), linkPair_of_has (Or.inl hk'), ho, ht]
      exact giveKey_reverse _ _ _ block
    | hasMany =>
      have hk' : resolution.flip.association.kind = .hasMany := hk
      rw [linkPair_of_has (Or.inr hk), linkPair_of_has (Or.inr hk'), ho, ht]
      exact giveKey_reverse _ _ _ block
    | manyToMany through key key' =>
      have hk' : resolution.flip.association.kind = .manyToMany through key key' := hk
      rw [linkPair_of_manyToMany hk, linkPair_of_manyToMany hk', ho, ht]
      exact join_reverse _ _ _ _ _ block
  | inverse h =>
    cases h with
    | holder hf hs hk =>
      rw [linkPair_of_belongsTo hf, linkPair_of_has hs, ends_reverse, hk]
      exact giveKey_reverse _ _ _ block
    | provider hf hs hk =>
      rw [linkPair_of_has hf, linkPair_of_belongsTo hs, ends_reverse, hk]
      exact giveKey_reverse _ _ _ block
    | joined hf hs hk =>
      rw [linkPair_of_manyToMany hf, linkPair_of_manyToMany hs, ends_reverse]
      exact join_inverse hk _ _ _ block

theorem linkPairs_reverse (h : resolution.Reversed resolution') (pairs : List (Nat × Nat))
    (block : Block σ) :
    Matching (linkPairs link resolution pairs block)
      (linkPairs link.reverse resolution' (pairs.map Prod.swap) block) := by
  induction pairs generalizing block with
  | nil => exact Matching.refl _
  | cons pair rest ih =>
    exact Matching.bind (linkPair_reverse h pair block) fun _ left => ih left

/-! ## Links -/

theorem link_of_factories {block : Block σ} {source target : Factory}
    (hs : block.workshop.catalog.factory? link.source.factory = some source)
    (ht : block.workshop.catalog.factory? link.target.factory = some target) :
    Block.link link block =
      match block.workshop.catalog.chooseAssociation source target link.via with
      | .error fault => .error (.linkResolution source.name target.name fault) block
      | .ok resolution =>
        (linkPairs link resolution (resolution.written link.pairs) >>= fun _ =>
          pure (resolution.written link.pairs).length) block := by
  rw [link_eq, Catalog.factory_eq_ok_iff.mpr hs]
  dsimp only
  rw [Catalog.factory_eq_ok_iff.mpr ht]
  dsimp only
  unfold Catalog.resolveLink
  cases block.workshop.catalog.chooseAssociation source target link.via with
  | error fault => rfl
  | ok resolution =>
    dsimp only
    cases hp : linkPairs link resolution (resolution.written link.pairs) block with
    | ok answer left =>
      rw [bind_of_ok hp]
      rfl
    | error error left => rw [bind_of_error hp]

/-- A declaration in some block answers the reference. -/
def IsDeclared (σ : Type) [RecordStore σ] (ref : Ref) : Prop :=
  ∃ name arguments, ∃ before left : Block σ, declare name arguments before = .ok ref left

theorem IsDeclared.fitting {ref : Ref} (h : IsDeclared σ ref) : ref.Fitting := by
  obtain ⟨name, arguments, block, left, hd⟩ := h
  obtain ⟨factory, bench, -, -, hb, -⟩ := declare_eq_ok hd
  intro hf
  have hone : ∀ overrides, ∀ positions, (do return [← Bench.declareSingleton factory overrides
      (!ref.form.isHash)] : EStateM Error (Bench σ) (List Nat)) (block.bench ref.factory) =
        .ok positions bench → ∃ position, positions = [position] := by
    intro overrides positions hb
    obtain ⟨position, middle, -, hp⟩ := bind_eq_ok_iff.mp hb
    cases hp
    exact ⟨position, rfl⟩
  unfold Bench.declare at hb
  rw [hf] at hb
  cases arguments with
  | none => exact hone none _ hb
  | count number => cases hb
  | overrides maps =>
    rcases maps with _ | ⟨map, _ | ⟨map', maps⟩⟩
    · cases hb
    · exact hone (some map) _ hb
    · cases hb

/-- Linking what two declarations answered comes to the same in both directions, if nothing but the
direction could make a difference to the choice of the association. -/
theorem link_reverse (block : Block σ) (link : Link) (source target : Factory)
    (hs : block.workshop.catalog.factory? link.source.factory = some source)
    (ht : block.workshop.catalog.factory? link.target.factory = some target)
    (hds : IsDeclared σ link.source) (hdt : IsDeclared σ link.target)
    (h : block.workshop.catalog.Reversible source target link.via) :
    Matching (Block.link link block) (Block.link link.reverse block) := by
  have hs' : block.workshop.catalog.factory? link.reverse.source.factory = some target := ht
  have ht' : block.workshop.catalog.factory? link.reverse.target.factory = some source := hs
  have hchosen := Catalog.chooseAssociation_reverse h
  rw [link_of_factories hs ht, link_of_factories hs' ht',
    Link.pairs_reverse hds.fitting hdt.fitting]
  show Matching _ (match block.workshop.catalog.chooseAssociation target source link.via with
    | .error fault => _
    | .ok resolution => _)
  generalize block.workshop.catalog.chooseAssociation source target link.via = chosen at hchosen
  generalize block.workshop.catalog.chooseAssociation target source link.via = chosen' at hchosen
  cases hchosen with
  | error hf => exact Matching.error (Error.Reversed.link _ _ hf) block
  | ok hr =>
    dsimp only
    rw [hr.written, List.length_map]
    exact Matching.bind (linkPairs_reverse hr _ block) fun _ _ => Matching.refl _

/-- Only posts have an association, and the key is written whichever way the link goes. -/
theorem link_reverse_of_belongsTo :
    let user : Factory := { name := "user", model := "User" }
    let post : Factory := { name := "post", model := "Post" }
    let author : Association :=
      { name := "author", kind := .belongsTo, targetModel := "User", foreignKey := "authorId" }
    let workshop : Workshop :=
      { catalog := (((∅ : Catalog).register user).register post).registerSchema
          (({ model := "Post" } : Schema).add author) }
    let store : Database := { }
    let attempts : List Attempt := [⟨.declare "user" .none, false⟩, ⟨.declare "post" .none, false⟩]
    let block := after (performAll attempts) (start workshop store)
    let link : Link := { source := ⟨"post", .singleton, [0]⟩, target := ⟨"user", .singleton, [0]⟩ }
    Ends (Block.link link block) (fun written _ => written = 1) (fun _ _ => False) ∧
      Matching (Block.link link block) (Block.link link.reverse block) := by
  intro user post author workshop store attempts block link
  have hc : block.workshop.catalog = workshop.catalog := by
    apply performAll_steps (P := fun block => block.workshop.catalog = workshop.catalog)
    · intro before left hs hb
      exact hs.catalog.trans hb
    · intro attempt ha before hb
      rw [List.mem_cons, List.mem_singleton] at ha
      rcases ha with rfl | rfl <;> exact hb
    · exact start_catalog workshop store
  have hd : ∀ name ref, Ends (declare name .none (start workshop store))
      (fun answer _ => answer = ref) (fun _ _ => False) → IsDeclared Database ref := by
    intro name ref he
    cases hr : declare name .none (start workshop store) with
    | ok answer left =>
      rw [hr] at he
      exact ⟨name, .none, start workshop store, left, he ▸ hr⟩
    | error error left =>
      rw [hr] at he
      exact he.elim
  refine ⟨by decide +kernel, link_reverse block link post user ?_ ?_ ?_ ?_ ?_⟩
  · rw [hc]
    exact SortedMap.get?_insert_self ..
  · rw [hc]
    exact (SortedMap.get?_insert_of_ne _ post (by decide)).trans (SortedMap.get?_insert_self ..)
  · exact hd "post" _ (by decide +kernel)
  · exact hd "user" _ (by decide +kernel)
  · rw [hc]
    exact Catalog.Reversible.oneSided rfl rfl (Or.inr (by decide +kernel))

end Block

end Fixtures
