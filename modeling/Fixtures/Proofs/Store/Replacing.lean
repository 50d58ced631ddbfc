import Fixtures.Proofs.Store.Admission

/-!
# Replacing a row again

Of two replacements of one row the second counts, and it is admitted in place of both
(`Database.Numbered.replace_replace`).  A record is settled in a database if writing it there as it
is would change nothing (`Database.Settled`).  What was just written is settled, and it stays so
whatever other rows are replaced.
-/

namespace Fixtures

namespace Table

variable {record other : Record} {rows : List Record}

/-- Of two records with one key the second stays. -/
theorem putRow_putRow (h : other.id = record.id) :
    putRow other (putRow record rows) = putRow other rows := by
  unfold putRow
  rw [List.map_map]
  apply List.map_congr_left
  intro row _
  by_cases hr : row.id = record.id <;> simp [hr, h]

theorem putRow_comm (h : record.id ≠ other.id) :
    putRow other (putRow record rows) = putRow record (putRow other rows) := by
  unfold putRow
  rw [List.map_map, List.map_map]
  apply List.map_congr_left
  intro row _
  by_cases hr : row.id = record.id
  · simp [hr, h]
  · by_cases ho : row.id = other.id <;> simp [hr, ho, Ne.symm h]

end Table

namespace Database

variable {db db' db'' : Database} {record found found' other row : Record} {model : String}
  {attributes attributes' : AttributeMap}

/-! ## Rows in the place of others -/

theorem all_putRow (db : Database) (record : Record) (model : String) :
    (db.putRow record).all model =
      if model = record.model then Table.putRow record (db.all record.model) else db.all model := by
  unfold all
  rw [table_putRow]
  split <;> rfl

theorem putRow_putRow (hm : other.model = record.model)
    (hi : other.id = record.id) : (db.putRow record).putRow other = db.putRow other := by
  have htable := table_putRow db record record.model
  rw [if_pos rfl] at htable
  unfold putRow at htable ⊢
  rw [hm, htable, SortedMap.insert_insert, Table.putRow_putRow hi]

/-- Rows with different keys do not get in each other's place. -/
theorem putRow_comm (h : record.key ≠ other.key) :
    (db.putRow record).putRow other = (db.putRow other).putRow record := by
  have hrecord := table_putRow db record other.model
  have hother := table_putRow db other record.model
  unfold putRow at hrecord hother ⊢
  by_cases hm : record.model = other.model
  · have hid : record.id ≠ other.id := fun hi => h (Prod.ext hm hi)
    rw [if_pos hm.symm] at hrecord
    rw [if_pos hm] at hother
    rw [hrecord, hother, hm, SortedMap.insert_insert, SortedMap.insert_insert,
      Table.putRow_comm hid]
  · rw [if_neg (Ne.symm hm)] at hrecord
    rw [if_neg hm] at hother
    rw [hrecord, hother, SortedMap.insert_comm _ _ _ hm]

theorem mem_all_putRow (h : row ∈ (db.putRow record).all model) :
    row = record ∧ model = record.model ∨ row ∈ db.all model ∧ (model, row.id) ≠ record.key := by
  rw [all_putRow] at h
  split at h
  · rename_i hm
    obtain ⟨old, hold, rfl⟩ := List.mem_map.mp h
    split
    · exact Or.inl ⟨rfl, hm⟩
    · rename_i hid
      exact Or.inr ⟨hm ▸ hold, fun he => hid (congrArg Prod.snd he)⟩
  · rename_i hm
    exact Or.inr ⟨h, fun he => hm (congrArg Prod.fst he)⟩

/-- A row with another key stays. -/
theorem mem_all_putRow_of_ne (h : row ∈ db.all model) (hne : (model, row.id) ≠ record.key) :
    row ∈ (db.putRow record).all model := by
  rw [all_putRow]
  split
  · rename_i hm
    subst hm
    exact List.mem_map.mpr ⟨row, h, if_neg fun hid => hne (Prod.ext rfl hid)⟩
  · exact h

theorem Holds.mem_putRow (h : db.Holds record) :
    record ∈ (db.putRow record).all record.model := by
  obtain ⟨row, hrow, hid⟩ := h
  rw [all_putRow, if_pos rfl]
  exact List.mem_map.mpr ⟨row, hrow, if_pos hid⟩

/-- What a record is checked against are the rows with other keys. -/
theorem isFree_putRow (db : Database) (record : Record) (attributes : AttributeMap) :
    (db.putRow record).IsFree record.model attributes (some record.id) ↔
      db.IsFree record.model attributes (some record.id) := by
  have hkey : ∀ row : Record, some row.id ≠ some record.id → (record.model, row.id) ≠ record.key :=
    fun row hid he => hid (congrArg some (congrArg Prod.snd he))
  constructor
  · intro h field hf row hrow hid
    exact h field hf row (mem_all_putRow_of_ne hrow (hkey row hid)) hid
  · intro h field hf row hrow hid
    rcases mem_all_putRow hrow with ⟨rfl, -⟩ | ⟨hrow, -⟩
    · exact absurd rfl hid
    · exact h field hf row hrow hid

/-! ## Two replacements of one row -/

theorem Numbered.replace_replace (hn : db.Numbered)
    (h : Database.replace record attributes db = .ok found db')
    (h' : Database.replace found attributes' db' = .ok found' db'') :
    Database.replace record attributes' db = .ok found' db'' := by
  have hn' := hn.replace h
  obtain ⟨-, -, hholds, rfl, rfl⟩ := hn.replace_eq_ok_iff.mp h
  obtain ⟨hfills, hfree, -, rfl, rfl⟩ := hn'.replace_eq_ok_iff.mp h'
  have hfree := (isFree_putRow db { record with attributes } attributes').mp hfree
  exact hn.replace_eq_ok_iff.mpr ⟨hfills, hfree, hholds, rfl, putRow_putRow rfl rfl⟩

/-! ## Settled records -/

/-- Writing the record as it is goes through, and changes nothing. -/
def Settled (record : Record) (db : Database) : Prop :=
  Database.replace record record.attributes db = .ok record db

theorem Numbered.settled_of_replace (hn : db.Numbered)
    (h : Database.replace record attributes db = .ok found db') : Settled found db' := by
  have hn' := hn.replace h
  obtain ⟨hfills, hfree, ⟨row, hrow, hid⟩, rfl, rfl⟩ := hn.replace_eq_ok_iff.mp h
  have hholds : db.Holds { record with attributes } := ⟨row, hrow, hid⟩
  have hfree := (isFree_putRow db { record with attributes } attributes).mpr hfree
  exact hn'.replace_eq_ok_iff.mpr
    ⟨hfills, hfree, ⟨_, hholds.mem_putRow, rfl⟩, rfl, (putRow_putRow rfl rfl).symm⟩

/-- A settled record is a row. -/
theorem Settled.mem (h : Settled record db) (hn : db.Numbered) : record ∈ db.all record.model := by
  obtain ⟨-, -, hholds, -, hdb⟩ := hn.replace_eq_ok_iff.mp h
  rw [hdb]
  exact hholds.mem_putRow

/-- The row that another one becomes was checked against the settled one. -/
theorem Settled.replace (h : Settled record db) (hn : db.Numbered)
    (hr : Database.replace other attributes db = .ok found db') (hk : record.key ≠ other.key) :
    Settled record db' := by
  have hn' := hn.replace hr
  have hrecord := h.mem hn
  obtain ⟨hfills, hfree, hholds, -, hdb⟩ := hn.replace_eq_ok_iff.mp h
  obtain ⟨-, hfree', -, rfl, rfl⟩ := hn.replace_eq_ok_iff.mp hr
  refine hn'.replace_eq_ok_iff.mpr ⟨hfills, fun field hf row hrow hid => ?_,
    ⟨record, mem_all_putRow_of_ne hrecord hk, rfl⟩, rfl, ?_⟩
  · rcases mem_all_putRow hrow with ⟨rfl, hm⟩ | ⟨hrow, -⟩
    · rw [hm] at hf hrecord
      intro hs
      exact hfree' field hf record hrecord (fun he => hid he.symm) hs.symm
    · exact hfree field hf row hrow hid
  · have hkey : record.key ≠ ({ other with attributes } : Record).key := hk
    rw [← putRow_comm hkey, ← hdb]

end Database

end Fixtures
