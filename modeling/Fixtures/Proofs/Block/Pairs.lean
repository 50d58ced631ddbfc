import Fixtures.Proofs.Block.Reverse
import Mathlib.Data.List.Nodup
import Mathlib.Data.List.ProdSigma

/-!
# The pairs of a link between declarations

A declaration of the singleton answers one position, and every declaration answers positions that
increase (`Block.IsDeclared.increasing`).  So a link between two of them pairs nothing twice, and it
pairs the same with its sides swapped, in the same order (`Block.pairs_of_declared`).
-/

namespace Fixtures

theorem nodup_zip {α β : Type} {left : List α} {right : List β} (h : left.Nodup) :
    (left.zip right).Nodup := by
  induction left generalizing right with
  | nil => exact List.nodup_nil
  | cons first left ih =>
    cases right with
    | nil => exact List.nodup_nil
    | cons _ right =>
      obtain ⟨hfirst, hleft⟩ := List.nodup_cons.mp h
      exact List.nodup_cons.mpr ⟨fun hm => hfirst (List.of_mem_zip hm).1, ih hleft⟩

namespace Link

variable {link : Link}

/-- Both sides are declared as collections. -/
def JoinsCollections (link : Link) : Prop :=
  link.source.form.isCollection = true ∧ link.target.form.isCollection = true

theorem pairs_of_collections (h : link.JoinsCollections) :
    link.pairs = link.source.positions.zip link.target.positions := by
  unfold pairs
  rw [h.1, h.2]
  rfl

theorem pairs_of_singleton (h : ¬link.JoinsCollections) :
    link.pairs = link.source.positions ×ˢ link.target.positions := by
  unfold pairs
  rw [if_neg (by rwa [Bool.and_eq_true])]
  rfl

theorem nodup_pairs (hs : link.source.positions.Nodup) (ht : link.target.positions.Nodup) :
    link.pairs.Nodup := by
  by_cases h : link.JoinsCollections
  · rw [pairs_of_collections h]
    exact nodup_zip hs
  · rw [pairs_of_singleton h]
    exact hs.product ht

end Link

namespace Bench

variable {σ : Type} [RecordStore σ] {bench left : Bench σ} {positions : List Nat}

/-- The claimed positions follow each other, whatever was done at them. -/
theorem declareCollection_positions {factory : Factory} {saved : Bool}
    {overrides : List (Option AttributeMap)}
    (h : declareCollection factory overrides saved bench = .ok positions left) :
    positions = List.range' (bench.roster.claimed saved) overrides.length := by
  change (claimFrom factory saved (bench.roster.claimed saved) overrides >>= fun _ =>
      pure (List.range' (bench.roster.claimed saved) overrides.length) :
        EStateM Error (Bench σ) (List Nat))
    { bench with roster := { bench.roster with hasCollection := true } } = _ at h
  obtain ⟨_, _, -, hp⟩ := bind_eq_ok_iff.mp h
  cases hp
  rfl

theorem declare_increasing {factory : Factory} {name : String} {form : Form} {arguments : Arguments}
    (h : declare factory name form arguments bench = .ok positions left)
    (hf : form.isCollection = true) : positions.Pairwise (· < ·) := by
  unfold declare at h
  rw [hf] at h
  cases arguments with
  | none =>
    cases h
    exact List.pairwise_lt_range
  | count number =>
    rw [declareCollection_positions h]
    exact List.pairwise_lt_range' 1
  | overrides maps =>
    rw [declareCollection_positions h]
    exact List.pairwise_lt_range' 1

end Bench

namespace Block

variable {σ : Type} [RecordStore σ]

theorem IsDeclared.increasing {ref : Ref} (h : IsDeclared σ ref) :
    ref.positions.Pairwise (· < ·) := by
  cases hf : ref.form.isCollection with
  | false =>
    obtain ⟨position, hp⟩ := h.fitting hf
    rw [hp]
    exact List.pairwise_singleton _ _
  | true =>
    obtain ⟨name, arguments, block, left, hd⟩ := h
    obtain ⟨factory, bench, -, -, hb, -⟩ := declare_eq_ok hd
    exact Bench.declare_increasing hb hf

theorem IsDeclared.nodup {ref : Ref} (h : IsDeclared σ ref) : ref.positions.Nodup :=
  h.increasing.imp Nat.ne_of_lt

theorem isDeclared_of_ends (name : String) (arguments : Arguments) (block : Block σ) {ref : Ref}
    (h : Ends (declare name arguments block) (fun answer _ => answer = ref) fun _ _ => False) :
    IsDeclared σ ref := by
  cases hd : declare name arguments block with
  | ok answer left =>
    rw [hd] at h
    exact ⟨name, arguments, block, left, h ▸ hd⟩
  | error error left =>
    rw [hd] at h
    exact h.elim

/-- What two declarations answer is linked pair by pair if both are collections, and each with each
otherwise; no pair comes twice, and the reverse link has the same pairs swapped. -/
theorem pairs_of_declared (link : Link) (hs : IsDeclared σ link.source)
    (ht : IsDeclared σ link.target) :
    (link.source.Fitting ∧ link.source.positions.Pairwise (· < ·)) ∧
    (link.target.Fitting ∧ link.target.positions.Pairwise (· < ·)) ∧
    link.pairs.Nodup ∧
    (link.JoinsCollections →
      link.pairs.length = min link.source.positions.length link.target.positions.length ∧
      ∀ i s t : Nat, link.pairs[i]? = some (s, t) ↔
        link.source.positions[i]? = some s ∧ link.target.positions[i]? = some t) ∧
    (¬link.JoinsCollections →
      link.pairs.length = link.source.positions.length * link.target.positions.length ∧
      ∀ s t, (s, t) ∈ link.pairs ↔ s ∈ link.source.positions ∧ t ∈ link.target.positions) ∧
    link.reverse.pairs = link.pairs.map Prod.swap := by
  refine ⟨⟨hs.fitting, hs.increasing⟩, ⟨ht.fitting, ht.increasing⟩,
    Link.nodup_pairs hs.nodup ht.nodup, fun h => ?_, fun h => ?_,
    Link.pairs_reverse hs.fitting ht.fitting⟩
  · rw [Link.pairs_of_collections h]
    exact ⟨List.length_zip, fun i s t => List.getElem?_zip_eq_some⟩
  · rw [Link.pairs_of_singleton h]
    exact ⟨List.length_product _ _, fun s t => List.mem_product⟩

/-- Three posts that were declared after two others, and two users. -/
theorem pairs_of_declared_of_later_posts :
    let link : Link :=
      { source := ⟨"post", .collection, [2, 3, 4]⟩, target := ⟨"user", .collection, [0, 1]⟩ }
    IsDeclared Database link.source ∧ IsDeclared Database link.target ∧
      link.pairs.length = 2 ∧ link.reverse.pairs = [(0, 2), (1, 3)] := by
  intro link
  let workshop : Workshop :=
    { catalog := ((∅ : Catalog).register { name := "user", model := "User" }).register
        { name := "post", model := "Post" } }
  let first : Block Database := start workshop { }
  have hs : IsDeclared Database link.source :=
    isDeclared_of_ends "posts" (.count 3) (after (declare "posts" (.count 2)) first)
      (by decide +kernel)
  have ht : IsDeclared Database link.target :=
    isDeclared_of_ends "users" (.count 2) first (by decide +kernel)
  have h := pairs_of_declared link hs ht
  refine ⟨hs, ht, ?_, ?_⟩
  · exact (h.2.2.2.1 ⟨rfl, rfl⟩).1
  · rw [h.2.2.2.2.2]
    rfl

end Block

end Fixtures
