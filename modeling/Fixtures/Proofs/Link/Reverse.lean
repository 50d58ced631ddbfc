import Fixtures.Link.Resolution
import Mathlib.Data.List.Zip

/-!
# Links in both directions

Turning a link around swaps its pairs, and with them the side that an association belongs to.  When
nothing but the direction tells two associations apart, both directions choose the same one, or else
two that are inverse to each other (`Catalog.chooseAssociation_reverse`).
-/

namespace Fixtures

/-! ## Pairs -/

namespace Side

theorem other_of_swap {α : Type} (side : Side) (pair : α × α) :
    side.other.of pair.swap = side.of pair := by
  cases side <;> rfl

end Side

def Link.reverse (link : Link) : Link :=
  { source := link.target, target := link.source, via := link.via }

/-- A reference by a form of the singleton is to one instance. -/
def Ref.Fitting (ref : Ref) : Prop :=
  ref.form.isCollection = false → ∃ position, ref.positions = [position]

theorem Link.pairs_reverse {link : Link} (hs : link.source.Fitting) (ht : link.target.Fitting) :
    link.reverse.pairs = link.pairs.map Prod.swap := by
  unfold pairs reverse
  dsimp only
  cases hcs : link.source.form.isCollection with
  | false =>
    obtain ⟨position, hp⟩ := hs hcs
    rw [hp, Bool.and_false, Bool.false_and, if_neg Bool.false_ne_true, if_neg Bool.false_ne_true,
      List.flatMap_singleton, List.map_map]
    exact List.map_eq_flatMap.symm
  | true =>
    cases hct : link.target.form.isCollection with
    | false =>
      obtain ⟨position, hp⟩ := ht hct
      rw [hp, Bool.and_false, Bool.false_and, if_neg Bool.false_ne_true, if_neg Bool.false_ne_true,
        List.flatMap_singleton, List.map_flatMap]
      exact List.map_eq_flatMap
    | true => rw [Bool.and_self, if_pos rfl, if_pos rfl, List.zip_swap]

theorem firstPerHolder_map (holder : Nat × Nat → Nat) (change : Nat × Nat → Nat × Nat)
    (seen : List Nat) (pairs : List (Nat × Nat)) :
    firstPerHolder holder seen (pairs.map change) =
      (firstPerHolder (fun pair => holder (change pair)) seen pairs).map change := by
  induction pairs generalizing seen with
  | nil => rfl
  | cons pair rest ih =>
    rw [List.map_cons]
    unfold firstPerHolder
    by_cases h : holder (change pair) ∈ seen
    · rw [if_pos h, if_pos h, ih]
    · rw [if_neg h, if_neg h, ih, List.map_cons]

/-! ## Associations -/

/-- Two associations that describe one relation from its two ends. -/
inductive Association.Inverse (first second : Association) : Prop
  | holder (hf : first.kind = .belongsTo) (hs : second.kind = .hasOne ∨ second.kind = .hasMany)
      (hk : first.foreignKey = second.foreignKey)
  | provider (hf : first.kind = .hasOne ∨ first.kind = .hasMany) (hs : second.kind = .belongsTo)
      (hk : first.foreignKey = second.foreignKey)
  | joined {through key key' : String} (hf : first.kind = .manyToMany through key key')
      (hs : second.kind = .manyToMany through key' key) (hk : key ≠ key')

namespace Resolution

/-- The same association, found from the other direction. -/
def flip (resolution : Resolution) : Resolution :=
  { resolution with owner := resolution.owner.other }

/-- What the two directions of a link may choose. -/
inductive Reversed : Resolution → Resolution → Prop
  | flipped (resolution : Resolution) : Reversed resolution resolution.flip
  | inverse {first second : Association} (h : first.Inverse second) :
      Reversed ⟨.source, first⟩ ⟨.source, second⟩

variable {resolution resolution' : Resolution}

theorem Reversed.holder? (h : Reversed resolution resolution') :
    resolution'.holder? = resolution.holder?.map Side.other := by
  cases h with
  | flipped =>
    unfold flip Resolution.holder? Association.keyOwner
    dsimp only
    cases resolution.association.kind <;> rfl
  | inverse h =>
    unfold Resolution.holder? Association.keyOwner
    dsimp only
    cases h with
    | holder hf hs hk => rcases hs with hs | hs <;> rw [hf, hs] <;> rfl
    | provider hf hs hk => rcases hf with hf | hf <;> rw [hf, hs] <;> rfl
    | joined hf hs hk =>
      rw [hf, hs]
      rfl

theorem Reversed.written (h : Reversed resolution resolution') (pairs : List (Nat × Nat)) :
    resolution'.written (pairs.map Prod.swap) = (resolution.written pairs).map Prod.swap := by
  unfold Resolution.written
  rw [h.holder?]
  cases resolution.holder? with
  | none => rfl
  | some side =>
    dsimp only [Option.map_some]
    rw [firstPerHolder_map]
    simp only [Side.other_of_swap]

end Resolution

/-! ## Choosing -/

/-- The faults that the two directions of a link may end in. -/
inductive LinkFault.Reversed : LinkFault → LinkFault → Prop
  | same (fault : LinkFault) : Reversed fault fault
  | noneNamed (name model model' : String) :
      Reversed (.noneNamed name model model') (.noneNamed name model' model)
  | noneKnown (model model' : String) : Reversed (.noneKnown model model') (.noneKnown model' model)
  | notPersisted (factory factory' : String) (position position' : Nat) :
      Reversed (.notPersisted factory position) (.notPersisted factory' position')

namespace Catalog

variable (catalog : Catalog) (source target : Factory)

theorem named?_source (name : String) : catalog.named? name (source, target) .source =
    match (catalog.schema? source.model).bind (·.association? name) with
    | some association =>
      if association.targetModel = target.model then some ⟨.source, association⟩ else none
    | none => none := rfl

theorem named?_target (name : String) : catalog.named? name (source, target) .target =
    match (catalog.schema? target.model).bind (·.association? name) with
    | some association =>
      if association.targetModel = source.model then some ⟨.target, association⟩ else none
    | none => none := rfl

theorem named?_swap (name : String) (side : Side) :
    catalog.named? name (target, source) side.other =
      (catalog.named? name (source, target) side).map Resolution.flip := by
  cases side with
  | source =>
    show catalog.named? name (target, source) .target = _
    rw [named?_target, named?_source]
    cases (catalog.schema? source.model).bind (·.association? name) with
    | none => rfl
    | some association =>
      dsimp only
      split <;> rfl
  | target =>
    show catalog.named? name (target, source) .source = _
    rw [named?_target, named?_source]
    cases (catalog.schema? target.model).bind (·.association? name) with
    | none => rfl
    | some association =>
      dsimp only
      split <;> rfl

theorem candidates_swap (side : Side) :
    catalog.candidates (target, source) side.other = catalog.candidates (source, target) side := by
  cases side <;> rfl

/-- What makes the direction of a link between two factories irrelevant. -/
inductive Reversible : Option String → Prop
  -- Exactly one of the factories prefers an association to the other.
  | preferred (h : (source.preference? target.name).isSome ≠
      (target.preference? source.name).isSome) : Reversible none
  -- Nothing is preferred, and one of the models has no association to the other.
  | oneSided (hs : source.preference? target.name = none)
      (ht : target.preference? source.name = none)
      (h : catalog.candidates (source, target) .source = [] ∨
        catalog.candidates (source, target) .target = []) : Reversible none
  -- Nothing is preferred, and the models have one association each, inverse to each other.
  | inverse (hs : source.preference? target.name = none)
      (ht : target.preference? source.name = none) {first second : Association}
      (hf : catalog.candidates (source, target) .source = [first])
      (hb : catalog.candidates (source, target) .target = [second])
      (h : first.Inverse second) : Reversible none
  -- The association is named, and one of the models has none of that name to the other.
  | named (name : String) (h : catalog.named? name (source, target) .source = none ∨
      catalog.named? name (source, target) .target = none) : Reversible (some name)

/-- What the two directions choose, or why they find nothing. -/
inductive Chosen : Except LinkFault Resolution → Except LinkFault Resolution → Prop
  | ok {resolution resolution' : Resolution} (h : resolution.Reversed resolution') :
      Chosen (.ok resolution) (.ok resolution')
  | error {fault fault' : LinkFault} (h : fault.Reversed fault') :
      Chosen (.error fault) (.error fault')

variable {catalog source target}

/-- A name that comes from one factory leads to the same association in both directions. -/
theorem chosen_of_preferred {name : String} {side : Side} {via : Option String}
    (h : wanted? source target via = some (name, side))
    (h' : wanted? target source via = some (name, side.other)) :
    Chosen (catalog.chooseAssociation source target via)
      (catalog.chooseAssociation target source via) := by
  unfold chooseAssociation
  rw [h, h']
  dsimp only
  rw [catalog.named?_swap source target name side,
    catalog.named?_swap source target name side.other]
  cases catalog.named? name (source, target) side with
  | some found => exact Chosen.ok (Resolution.Reversed.flipped found)
  | none =>
    cases catalog.named? name (source, target) side.other with
    | some found => exact Chosen.ok (Resolution.Reversed.flipped found)
    | none => exact Chosen.error (LinkFault.Reversed.noneNamed name source.model target.model)

/-- A name that is given both ways is looked up on different sides first, which does not matter if
only one side has it. -/
theorem chosen_of_named {name : String}
    (h : catalog.named? name (source, target) .source = none ∨
      catalog.named? name (source, target) .target = none) :
    Chosen (catalog.chooseAssociation source target (some name))
      (catalog.chooseAssociation target source (some name)) := by
  have hs := catalog.named?_swap source target name .target
  have ht := catalog.named?_swap source target name .source
  change catalog.named? name (target, source) .source = _ at hs
  change catalog.named? name (target, source) .target = _ at ht
  unfold chooseAssociation wanted?
  dsimp only [Side.other]
  rw [hs, ht]
  cases hsource : catalog.named? name (source, target) .source with
  | some found =>
    have htarget := h.resolve_left (by rw [hsource]; exact Option.some_ne_none found)
    rw [htarget]
    exact Chosen.ok (Resolution.Reversed.flipped found)
  | none =>
    cases catalog.named? name (source, target) .target with
    | some found => exact Chosen.ok (Resolution.Reversed.flipped found)
    | none => exact Chosen.error (LinkFault.Reversed.noneNamed name source.model target.model)

/-- Of two lists of associations, one of them empty, both directions take what there is. -/
theorem chosen_of_oneSided (h : catalog.candidates (source, target) .source = [] ∨
      catalog.candidates (source, target) .target = []) :
    Chosen (catalog.unnamed (source, target) [.source, .target])
      (catalog.unnamed (target, source) [.source, .target]) := by
  have hs := catalog.candidates_swap source target .target
  have ht := catalog.candidates_swap source target .source
  change catalog.candidates (target, source) .source = _ at hs
  change catalog.candidates (target, source) .target = _ at ht
  unfold unnamed unnamed unnamed
  rw [hs, ht]
  rcases h with h | h
  · rw [h]
    rcases catalog.candidates (source, target) .target with _ | ⟨first, _ | ⟨second, rest⟩⟩
    · exact Chosen.error (LinkFault.Reversed.noneKnown source.model target.model)
    · exact Chosen.ok (Resolution.Reversed.flipped ⟨.target, first⟩)
    · exact Chosen.error (LinkFault.Reversed.same _)
  -- With one list empty, the order in which the lists are searched is of no account.
  · rw [h]
    rcases catalog.candidates (source, target) .source with _ | ⟨first, _ | ⟨second, rest⟩⟩
    · exact Chosen.error (LinkFault.Reversed.noneKnown source.model target.model)
    · exact Chosen.ok (Resolution.Reversed.flipped ⟨.source, first⟩)
    · exact Chosen.error (LinkFault.Reversed.same _)

theorem chosen_of_inverse {first second : Association}
    (hf : catalog.candidates (source, target) .source = [first])
    (hb : catalog.candidates (source, target) .target = [second]) (h : first.Inverse second) :
    Chosen (catalog.unnamed (source, target) [.source, .target])
      (catalog.unnamed (target, source) [.source, .target]) := by
  have hs := catalog.candidates_swap source target .target
  change catalog.candidates (target, source) .source = _ at hs
  unfold unnamed
  rw [hs, hf, hb]
  exact Chosen.ok (Resolution.Reversed.inverse h)

theorem chooseAssociation_reverse {via : Option String}
    (h : catalog.Reversible source target via) :
    Chosen (catalog.chooseAssociation source target via)
      (catalog.chooseAssociation target source via) := by
  cases h with
  | preferred h =>
    cases hs : source.preference? target.name with
    | some name =>
      cases ht : target.preference? source.name with
      | some name' =>
        rw [hs, ht] at h
        exact absurd rfl h
      | none =>
        -- Both directions know the name from the same factory, which is on opposite sides.
        have hw : wanted? source target none = some (name, Side.source) := by
          unfold wanted?
          rw [hs]
        have hw' : wanted? target source none = some (name, Side.source.other) := by
          unfold wanted?
          rw [ht, hs]
          rfl
        exact chosen_of_preferred hw hw'
    | none =>
      cases ht : target.preference? source.name with
      | none =>
        rw [hs, ht] at h
        exact absurd rfl h
      | some name =>
        have hw : wanted? source target none = some (name, Side.target) := by
          unfold wanted?
          rw [hs, ht]
          rfl
        have hw' : wanted? target source none = some (name, Side.target.other) := by
          unfold wanted?
          rw [ht]
          rfl
        exact chosen_of_preferred hw hw'
  | oneSided hs ht h =>
    unfold chooseAssociation wanted?
    rw [hs, ht]
    exact chosen_of_oneSided h
  | inverse hs ht hf hb h =>
    unfold chooseAssociation wanted?
    rw [hs, ht]
    exact chosen_of_inverse hf hb h
  | named name h => exact chosen_of_named h

end Catalog

end Fixtures
