import Fixtures.Proofs.Roster.Counted

/-!
# Declarations that succeed, counted

As long as declarations succeed, the indices of a roster are consecutive and its saved instances
are the first ones (`Bench.Lined`).  How many are saved follows from the positions that record
forms have claimed and from whether the singleton was declared by a record form, and a declaration
inserts a row for each newly saved instance, in the order of the positions (`Bench.declare_tally`).
-/

namespace Fixtures

def Arguments.asked : Arguments → Nat
  | .none => 0
  | .count number => number
  | .overrides maps => maps.length

/-- The number of positions that a form of a factory asks for with these arguments, among record
forms of the collection, or else among hash forms. -/
def Form.asks (form : Form) (arguments : Arguments) (saved : Bool) : Nat :=
  if form.isCollection = true ∧ form.isHash = !saved then arguments.asked else 0

/-- The form stands for the record of the singleton. -/
def Form.sharesRecord (form : Form) : Bool := !form.isCollection && !form.isHash

namespace Roster

/-- The number of saved instances: those that record forms have claimed, and the first one if the
singleton was declared by a record form. -/
def savedCount (roster : Roster) (shared : Bool) : Nat :=
  max roster.recordsClaimed (if shared then 1 else 0)

/-- The rows that the instances at the positions from `start` to before `stop` make. -/
def rows (roster : Roster) (model : String) (start stop : Nat) : List (String × AttributeMap) :=
  ((roster.instances.take stop).drop start).map fun item => (model, item.attributes)

variable {roster roster' : Roster} {model : String}

theorem rows_self (position : Nat) : roster.rows model position position = [] := by
  unfold rows
  rw [List.drop_take_self, List.map_nil]

theorem rows_succ {position : Nat} {item : Instance} (h : roster.instance? position = some item) :
    roster.rows model position (position + 1) = [(model, item.attributes)] := by
  obtain ⟨hlt, hi⟩ := List.getElem?_eq_some_iff.mp h
  unfold rows
  rw [List.drop_take, List.drop_eq_getElem_cons hlt, hi, Nat.add_sub_cancel_left,
    List.take_succ_cons, List.take_zero, List.map_singleton]

theorem rows_length {start stop : Nat} (h : stop ≤ roster.size) :
    (roster.rows model start stop).length = stop - start := by
  change stop ≤ roster.instances.length at h
  unfold rows
  rw [List.length_map, List.length_drop, List.length_take, Nat.min_eq_left h]

theorem rows_append {start middle stop : Nat} (h : start ≤ middle) (h' : middle ≤ stop) :
    roster.rows model start middle ++ roster.rows model middle stop =
      roster.rows model start stop := by
  unfold rows
  rw [← List.map_append]
  congr 1
  have hm : roster.instances.take middle = (roster.instances.take stop).take middle := by
    rw [List.take_take, Nat.min_eq_left h']
  have hd : (roster.instances.take stop).drop middle =
      ((roster.instances.take stop).drop start).drop (middle - start) := by
    rw [List.drop_drop, Nat.add_sub_cancel' h]
  rw [hm, hd, List.drop_take, List.take_append_drop]

theorem rows_congr {start stop : Nat}
    (h : ∀ p, p < stop → roster'.instance? p = roster.instance? p) :
    roster'.rows model start stop = roster.rows model start stop := by
  -- The rows only depend on the instances before `stop`.
  have ht : roster'.instances.take stop = roster.instances.take stop := by
    apply List.ext_getElem?
    intro p
    rw [List.getElem?_take, List.getElem?_take]
    by_cases hp : p < stop
    · rw [if_pos hp, if_pos hp]
      exact h p hp
    · rw [if_neg hp, if_neg hp]
  unfold rows
  rw [ht]

end Roster

namespace Bench

variable {σ : Type}

/-! ## What is counted -/

/-- Indices are consecutive from `base`, and the first `saved` instances are the saved ones. -/
structure Lined (factory : Factory) (base saved : Nat) (bench : Bench σ) : Prop where
  counter : bench.counters.current factory.name = base + bench.roster.size
  saved_le : saved ≤ bench.roster.size
  outline : ∀ p item, bench.roster.instance? p = some item →
    item.outline = (base + p, decide (p < saved))

/-- What holds after declarations that have succeeded, `shared` telling whether a record form of
the singleton was among them. -/
structure Tallied (factory : Factory) (base : Nat) (shared : Bool) (bench : Bench σ) : Prop where
  counted : bench.roster.Counted
  singleton : shared = true → bench.roster.hasSingleton = true
  lined : Lined factory base (bench.roster.savedCount shared) bench

variable {factory : Factory} {base position : Nat} {bench middle left : Bench (Journal σ)}

/-- Noting that the collection was declared changes nothing that is counted. -/
theorem Tallied.withCollection {shared : Bool} (ht : Tallied factory base shared bench) :
    Tallied factory base shared
      { bench with roster := { bench.roster with hasCollection := true } } :=
  ⟨⟨ht.counted.singleton, ht.counted.size⟩, ht.singleton,
    ⟨ht.lined.counter, ht.lined.saved_le, ht.lined.outline⟩⟩

/-- An instance of the right outline at the right place. -/
theorem Lined.put {saved saved' : Nat} {item : Instance} (hl : Lined factory base saved bench)
    (hat : ∀ p, left.roster.instance? p =
      if p = position then some item else bench.roster.instance? p)
    (hitem : item.outline = (base + position, decide (position < saved')))
    (hothers : ∀ p, p ≠ position → (p < saved ↔ p < saved'))
    (hc : left.counters.current factory.name = base + left.roster.size)
    (hle : saved' ≤ left.roster.size) : Lined factory base saved' left := by
  refine ⟨hc, hle, fun p found hp => ?_⟩
  rw [hat] at hp
  by_cases he : p = position
  · rw [if_pos he] at hp
    cases hp
    rw [he, hitem]
  · rw [if_neg he] at hp
    rw [hl.outline p found hp, decide_eq_decide.mpr (hothers p he)]

/-! ## What declarations did -/

/-- What a declaration did at one position. -/
structure Touched (factory : Factory) (base position saved saved' : Nat)
    (bench left : Bench (Journal σ)) : Prop where
  lined : Lined factory base saved' left
  size : left.roster.size = max bench.roster.size (position + 1)
  others : ∀ p, p ≠ position → left.roster.instance? p = bench.roster.instance? p
  insertions : left.store.insertions =
    bench.store.insertions ++ left.roster.rows factory.model saved saved'

/-- What claiming a number of positions from one on did. -/
structure Claimed (factory : Factory) (base : Nat) (shared saved : Bool) (position count : Nat)
    (bench left : Bench (Journal σ)) : Prop where
  tallied : Tallied factory base shared left
  claimed : left.roster.claimed saved = position + count
  other : left.roster.claimed (!saved) = bench.roster.claimed (!saved)
  singleton : left.roster.singleton = bench.roster.singleton
  others : ∀ p, p < position → left.roster.instance? p = bench.roster.instance? p
  insertions : left.store.insertions = bench.store.insertions ++
    left.roster.rows factory.model (bench.roster.savedCount shared)
      (left.roster.savedCount shared)

theorem claimed_withClaimed_other (roster : Roster) (saved : Bool) (count : Nat) :
    (roster.withClaimed saved count).claimed (!saved) = roster.claimed (!saved) := by
  cases saved <;> rfl

/-- Claiming changes the number of saved instances only if it saves. -/
theorem savedCount_of_claimed {roster roster' : Roster} {saved : Bool}
    (hp : position = roster.claimed saved) (hc : roster'.claimed saved = position + 1)
    (ho : roster'.claimed (!saved) = roster.claimed (!saved)) (shared : Bool) :
    roster'.savedCount shared =
      if saved then max (roster.savedCount shared) (position + 1)
      else roster.savedCount shared := by
  unfold Roster.savedCount
  cases saved with
  | false =>
    change roster'.recordsClaimed = roster.recordsClaimed at ho
    rw [if_neg Bool.false_ne_true, ho]
  | true =>
    change position = roster.recordsClaimed at hp
    change roster'.recordsClaimed = position + 1 at hc
    rw [if_pos rfl, hc]
    omega

/-- Declaring the singleton saves the first instance, if it saves. -/
theorem savedCount_of_singleton {roster roster' : Roster}
    (hr : roster'.recordsClaimed = roster.recordsClaimed) (shared saved : Bool) :
    roster'.savedCount (shared || saved) =
      if saved then max (roster.savedCount shared) (0 + 1) else roster.savedCount shared := by
  unfold Roster.savedCount
  rw [hr]
  cases saved with
  | false => rw [Bool.or_false, if_neg Bool.false_ne_true]
  | true =>
    rw [Bool.or_true, if_pos rfl, if_pos rfl]
    split <;> omega

/-- What one claim and further ones did together. -/
theorem Claimed.trans {shared saved : Bool} {count : Nat}
    (hp : position = bench.roster.claimed saved)
    (h : Claimed factory base shared saved position 1 bench middle)
    (h' : Claimed factory base shared saved (position + 1) count middle left) :
    Claimed factory base shared saved position (count + 1) bench left := by
  have hcount := savedCount_of_claimed hp h.claimed h.other shared
  have hrows : middle.roster.rows factory.model (bench.roster.savedCount shared)
        (middle.roster.savedCount shared) =
      left.roster.rows factory.model (bench.roster.savedCount shared)
        (middle.roster.savedCount shared) := by
    by_cases hlt : bench.roster.savedCount shared < middle.roster.savedCount shared
    · -- Something was saved, which only happens below the next position.
      apply Roster.rows_congr
      intro p hlt'
      refine (h'.others p ?_).symm
      split at hcount <;> omega
    · have he : middle.roster.savedCount shared = bench.roster.savedCount shared := by
        split at hcount <;> omega
      rw [he, Roster.rows_self, Roster.rows_self]
  have hle : bench.roster.savedCount shared ≤ middle.roster.savedCount shared := by
    split at hcount <;> omega
  -- Claims only grow, and with them what is saved.
  have hle' : middle.roster.savedCount shared ≤ left.roster.savedCount shared := by
    have hc := h.claimed
    have hc' := h'.claimed
    have ho' := h'.other
    unfold Roster.savedCount
    cases saved with
    | false =>
      change left.roster.recordsClaimed = middle.roster.recordsClaimed at ho'
      omega
    | true =>
      change middle.roster.recordsClaimed = position + 1 at hc
      change left.roster.recordsClaimed = position + 1 + count at hc'
      omega
  refine ⟨h'.tallied, by rw [h'.claimed]; omega, h'.other.trans h.other,
    h'.singleton.trans h.singleton, fun p hlt => ?_, ?_⟩
  · rw [h'.others p (by omega), h.others p hlt]
  · rw [h'.insertions, h.insertions, hrows, List.append_assoc, Roster.rows_append hle hle']

/-- What a successful declaration did. -/
structure Declared (factory : Factory) (base : Nat) (shared : Bool) (form : Form)
    (arguments : Arguments) (bench : Bench (Journal σ)) (positions : List Nat)
    (left : Bench (Journal σ)) : Prop where
  tallied : Tallied factory base (shared || form.sharesRecord) left
  claimed : ∀ saved, left.roster.claimed saved =
    bench.roster.claimed saved + form.asks arguments saved
  singleton : left.roster.hasSingleton = (bench.roster.hasSingleton || !form.isCollection)
  -- The positions asked for follow those claimed by the same form before.
  positions : form.isCollection = true → arguments ≠ .none →
    positions = List.range' (bench.roster.claimed (!form.isHash)) arguments.asked
  insertions : left.store.insertions = bench.store.insertions ++
    left.roster.rows factory.model (bench.roster.savedCount shared)
      (left.roster.savedCount (shared || form.sharesRecord))

theorem declared_of_none {shared : Bool} {form : Form} (hf : form.isCollection = true)
    (ht : Tallied factory base shared bench) :
    Ends (referToCollection bench)
      (fun positions left => Declared factory base shared form .none bench positions left)
      (fun _ _ => True) := by
  have hshare : form.sharesRecord = false := by
    unfold Form.sharesRecord
    rw [hf]
    rfl
  refine ⟨?_, fun saved => ?_, ?_, fun _ hn => absurd rfl hn, ?_⟩
  · rw [hshare, Bool.or_false]
    exact ht.withCollection
  · unfold Form.asks Arguments.asked
    rw [ite_self, Nat.add_zero]
    cases saved <;> rfl
  · rw [hf, Bool.not_true, Bool.or_false]
    rfl
  · rw [hshare, Bool.or_false]
    exact ((congrArg _ (Roster.rows_self _)).trans (List.append_nil _)).symm

variable [RecordStore σ]

/-! ## One position -/

theorem Prepared.outline_eq {item : Instance} (h : Prepared factory position bench middle item)
    {saved : Nat} (hl : Lined factory base saved bench) (hp : position ≤ bench.roster.size) :
    item.outline = (base + position, decide (position < saved)) := by
  rw [h.outline]
  cases hi : bench.roster.instance? position with
  | some old => exact hl.outline position old hi
  | none =>
    have hle := hl.saved_le
    -- There is no instance at the position, so it is the next one and unsaved.
    have hsize : position = bench.roster.size := by
      apply Nat.le_antisymm hp
      apply Nat.le_of_not_lt
      rw [Roster.lt_size_iff, hi]
      exact Bool.false_ne_true
    rw [Option.map_none, Option.getD_none, hl.counter, hsize, decide_eq_false (by omega)]

/-- An index is spent exactly where an instance is added. -/
theorem Lined.counter_touch {saved : Nat} (hl : Lined factory base saved bench)
    (hp : position ≤ bench.roster.size) {wanted : Bool} {item item' : Instance}
    (hpr : Prepared factory position bench middle item) {marked : Roster}
    (hsv : SavedAt wanted factory position { middle with roster := marked } left item item')
    (hm : marked.instances = middle.roster.instances) :
    left.counters.current factory.name = base + left.roster.size := by
  have hmiddle : left.counters = middle.counters := hsv.counters
  rw [hmiddle, hpr.counters, hpr.size_saved hp hsv hm]
  by_cases hlt : position < bench.roster.size
  · rw [if_pos hlt, hl.counter]
    omega
  · have hroom := hpr.room (Nat.le_of_not_lt hlt)
    rw [if_neg hlt, Counters.current_advance_of_lt hroom, hl.counter]
    omega

/-- Preparing a position, marking it in the roster and saving it. -/
theorem Lined.touch {saved : Nat} (hl : Lined factory base saved bench)
    (hp : position ≤ bench.roster.size) {wanted : Bool} (hw : wanted = true → position ≤ saved)
    {item item' : Instance} (hpr : Prepared factory position bench middle item) {marked : Roster}
    (hsv : SavedAt wanted factory position { middle with roster := marked } left item item')
    (hm : marked.instances = middle.roster.instances) :
    Touched factory base position saved (if wanted then max saved (position + 1) else saved)
      bench left := by
  have hout := hpr.outline_eq hl hp
  have hle := hl.saved_le
  have hat := hpr.instance?_saved hsv hm
  have hsize := hpr.size_saved hp hsv hm
  have hcount := hl.counter_touch hp hpr hsv hm
  have hins : middle.store.insertions = bench.store.insertions :=
    Journal.insertions_of_rewritten hpr.store
  have hothers : ∀ p, p ≠ position → left.roster.instance? p = bench.roster.instance? p :=
    fun p he => by rw [hat, if_neg he]
  cases wanted with
  | false =>
    obtain ⟨hitem, hstore⟩ := hsv.unsaved rfl
    rw [if_neg Bool.false_ne_true]
    refine ⟨hl.put hat (hitem ▸ hout) (fun _ _ => Iff.rfl) hcount (by omega), hsize, hothers, ?_⟩
    rw [hstore, Roster.rows_self, List.append_nil]
    exact hins
  | true =>
    have hle' := hw rfl
    have hs := hsv.saved rfl
    have hitem : item'.outline =
        (base + position, decide (position < max saved (position + 1))) := by
      have hindex : item'.index = base + position := hs.index.trans (congrArg Prod.fst hout)
      have hpersisted : item'.isPersisted = true := hs.isPersisted
      unfold Instance.outline
      rw [hindex, hpersisted, decide_eq_true (by omega)]
    have hbelow : ∀ p, p ≠ position → (p < saved ↔ p < max saved (position + 1)) := by
      intro p he
      omega
    rw [if_pos rfl]
    refine ⟨hl.put hat hitem hbelow hcount (by omega), hsize, hothers, ?_⟩
    have hpers : item.isPersisted = decide (position < saved) := congrArg Prod.snd hout
    by_cases hlt : position < saved
    · rw [decide_eq_true hlt] at hpers
      have hstore : left.store = middle.store := hs.store_of_saved hpers
      rw [hstore, hins, Nat.max_eq_left hlt, Roster.rows_self, List.append_nil]
    · -- The saved instances end just before the position, so its row is the next one.
      have hpos : saved = position := by omega
      rw [decide_eq_false hlt] at hpers
      obtain ⟨created, stored, hinsert, hrew⟩ := hs.store_of_unsaved hpers
      have hattr : item'.attributes = item.attributes := hs.attributes
      have hi : left.roster.instance? position = some item' := by rw [hat, if_pos rfl]
      rw [Journal.insertions_of_rewritten hrew, Journal.insertions_of_insert hinsert, hpos,
        Nat.max_eq_right (Nat.le_succ position), Roster.rows_succ hi, hattr, ← hins]

/-! ## Claiming -/

theorem Tallied.claim {shared saved : Bool} (ht : Tallied factory base shared bench)
    (hp : position = bench.roster.claimed saved) {item item' : Instance}
    (hpr : Prepared factory position bench middle item)
    (hsv : SavedAt saved factory position
      { middle with roster := middle.roster.withClaimed saved (position + 1) } left item item') :
    Claimed factory base shared saved position 1 bench left := by
  have hle : position ≤ bench.roster.size := hp ▸ ht.counted.claimed_le saved
  have hclaimed : left.roster.claimed saved = position + 1 := by
    rw [hsv.puts.marks]
    exact claimed_withClaimed middle.roster saved (position + 1)
  have hother : left.roster.claimed (!saved) = bench.roster.claimed (!saved) := by
    rw [hsv.puts.marks]
    refine (claimed_withClaimed_other middle.roster saved (position + 1)).trans ?_
    rw [hpr.puts.marks]
    rfl
  have hsingleton : left.roster.singleton = bench.roster.singleton := by
    have hm : middle.roster.singleton = bench.roster.singleton := by rw [hpr.puts.marks]
    rw [hsv.puts.marks, ← hm]
    cases saved <;> rfl
  have hcount := savedCount_of_claimed hp hclaimed hother shared
  have hw : saved = true → position ≤ bench.roster.savedCount shared := by
    rintro rfl
    rw [hp]
    exact Nat.le_max_left _ _
  have hto := ht.lined.touch hle hw hpr hsv (withClaimed_instances _ _ _)
  rw [← hcount] at hto
  have hmid := hpr.puts.size hle
  -- Saving changes no mark, so the roster is counted as it was marked.
  have hcounted := ht.counted.withClaimed hp hpr.puts.marks hmid
  have hsize : left.roster.size = (middle.roster.withClaimed saved (position + 1)).size := by
    have hm : (middle.roster.withClaimed saved (position + 1)).size = middle.roster.size := by
      unfold Roster.size
      rw [withClaimed_instances]
    rw [hm, hmid, hto.size]
  refine ⟨⟨hcounted.of_marks hsv.puts.marks hsize, ?_, hto.lined⟩, hclaimed, hother, hsingleton,
    fun p hlt => hto.others p (Nat.ne_of_lt hlt), hto.insertions⟩
  unfold Roster.hasSingleton
  rw [hsingleton]
  exact ht.singleton

theorem claimFrom_tally {shared : Bool} (saved : Bool) (overrides : List (Option AttributeMap))
    (ht : Tallied factory base shared bench) (hp : position = bench.roster.claimed saved) :
    Ends (claimFrom factory saved position overrides bench)
      (fun _ left => Claimed factory base shared saved position overrides.length bench left)
      (fun _ _ => True) := by
  induction overrides generalizing bench position with
  | nil =>
    exact ⟨ht, hp.symm, rfl, rfl, fun _ _ => rfl, by rw [Roster.rows_self, List.append_nil]⟩
  | cons overrides rest ih =>
    have hle : position ≤ bench.roster.size := hp ▸ ht.counted.claimed_le saved
    unfold claimFrom
    apply touch_ends overrides saved hle
      (fun roster => withClaimed_instances roster saved (position + 1))
      (fun _ _ _ _ => trivial) (fun _ _ _ _ _ _ _ => trivial)
    intro middle item left item' hpr hsv
    have hone := ht.claim hp hpr hsv
    exact Ends.mono (ih hone.tallied hone.claimed.symm) (fun _ _ h => hone.trans hp h)
      fun _ _ h => h

/-! ## Declarations -/

variable {shared : Bool} {form : Form} {arguments : Arguments}

theorem declared_of_singleton (overrides : Option AttributeMap) (hf : form.isCollection = false)
    (ht : Tallied factory base shared bench) :
    Ends (declareSingleton factory overrides (!form.isHash) bench)
      (fun position left => Declared factory base shared form arguments bench [position] left)
      (fun _ _ => True) := by
  have h0 := ht.counted.singleton_getD
  show Ends ((if bench.roster.singleton = none ∧ 2 ≤ bench.roster.size then _ else _ :
    EStateM Error (Bench (Journal σ)) Nat) bench) _ _
  by_cases hu : bench.roster.singleton = none ∧ 2 ≤ bench.roster.size
  · rw [if_pos hu]
    trivial
  · have hm : ∀ roster : Roster,
        ({ roster with singleton := some 0 } : Roster).instances = roster.instances := fun _ => rfl
    rw [if_neg hu, h0]
    apply touch_ends overrides _ (Nat.zero_le _) hm (fun _ _ _ _ => trivial)
      (fun _ _ _ _ _ _ _ => trivial)
    intro middle item left item' hpr hsv
    have hshare : form.sharesRecord = !form.isHash := by
      unfold Form.sharesRecord
      rw [hf]
      rfl
    have hmid := hpr.puts.size (Nat.zero_le _)
    have hto := ht.lined.touch (Nat.zero_le _) (fun _ => Nat.zero_le _) hpr hsv rfl
    have hsize : left.roster.size =
        ({ middle.roster with singleton := some 0 } : Roster).size := hto.size.trans hmid.symm
    have hclaimed : ∀ saved, left.roster.claimed saved = bench.roster.claimed saved := by
      intro saved
      have hm : middle.roster.claimed saved = bench.roster.claimed saved := by
        rw [hpr.puts.marks]
        rfl
      rw [hsv.puts.marks, ← hm]
      rfl
    have hrecords : left.roster.recordsClaimed = bench.roster.recordsClaimed := hclaimed true
    have hmarked : left.roster.hasSingleton = true := by rw [hsv.puts.marks]; rfl
    rw [← savedCount_of_singleton hrecords, ← hshare] at hto
    refine ⟨⟨(ht.counted.withSingleton hpr.puts.marks hmid hu).of_marks hsv.puts.marks hsize,
      fun _ => hmarked, hto.lined⟩, fun saved => ?_, ?_, fun hc => ?_, hto.insertions⟩
    · unfold Form.asks
      rw [hclaimed, hf, if_neg (fun h => Bool.false_ne_true h.1), Nat.add_zero]
    · rw [hmarked, hf, Bool.not_false, Bool.or_true]
    · rw [hf] at hc
      cases hc

theorem declared_of_collection (overrides : List (Option AttributeMap))
    (hf : form.isCollection = true) (ha : arguments.asked = overrides.length)
    (ht : Tallied factory base shared bench) :
    Ends (declareCollection factory overrides (!form.isHash) bench)
      (fun positions left => Declared factory base shared form arguments bench positions left)
      (fun _ _ => True) := by
  have hshare : form.sharesRecord = false := by
    unfold Form.sharesRecord
    rw [hf]
    rfl
  have hp : bench.roster.claimed (!form.isHash) =
      ({ bench.roster with hasCollection := true } : Roster).claimed (!form.isHash) := by
    cases form.isHash <;> rfl
  show Ends ((claimFrom factory (!form.isHash) (bench.roster.claimed (!form.isHash)) overrides
    >>= _) { bench with roster := { bench.roster with hasCollection := true } }) _ _
  apply Ends.bind (claimFrom_tally _ overrides ht.withCollection hp)
  intro _ left hc
  refine ⟨?_, fun saved => ?_, ?_, fun _ _ => ?_, ?_⟩
  · rw [hshare, Bool.or_false]
    exact hc.tallied
  · unfold Form.asks
    rw [hf, ha]
    have hclaimed := hc.claimed
    have hother := hc.other
    by_cases hs : form.isHash = !saved
    · rw [if_pos ⟨rfl, hs⟩]
      rw [hs, Bool.not_not] at hclaimed
      exact hclaimed
    -- The other form of the collection has claimed what it had before.
    · have he : saved = form.isHash := (Bool.not_eq_not.mp hs).symm
      rw [if_neg (fun h => hs h.2), he, Nat.add_zero]
      rw [Bool.not_not] at hother
      refine hother.trans ?_
      cases form.isHash <;> rfl
  · unfold Roster.hasSingleton
    rw [hc.singleton, hf, Bool.not_true, Bool.or_false]
  · rw [ha]
  · rw [hshare, Bool.or_false]
    exact hc.insertions

theorem declare_tally (name : String) (form : Form) (arguments : Arguments)
    (ht : Tallied factory base shared bench) :
    Ends (declare factory name form arguments bench)
      (fun positions left => Declared factory base shared form arguments bench positions left)
      (fun _ _ => True) := by
  generalize hd : (declare factory name form arguments :
    EStateM Error (Bench (Journal σ)) (List Nat)) = operation
  unfold declare at hd
  dsimp only at hd
  split at hd <;> subst hd
  · rename_i hf
    exact Ends.bind (declared_of_singleton none hf ht) fun _ _ h => h
  · rename_i overrides hf
    exact Ends.bind (declared_of_singleton (some overrides) hf ht) fun _ _ h => h
  · trivial
  · trivial
  · rename_i hf
    exact declared_of_none hf ht
  · rename_i number hf
    exact declared_of_collection _ hf (List.length_replicate ..).symm ht
  · rename_i maps hf
    exact declared_of_collection _ hf (List.length_map ..).symm ht

end Bench

end Fixtures
