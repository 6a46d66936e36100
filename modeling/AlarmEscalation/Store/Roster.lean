import AlarmEscalation.Record.Basic

/-!
Records kept in ascending order of their identifiers, so that each identifier occurs once.
Main statements: `get?_put`, `get?_erase` and `get?_ofRecords` say what each operation does to the
look-up.
-/
namespace AlarmEscalation

structure Roster where
  records : List AlarmRecord
  ascending : (records.map AlarmRecord.id).Pairwise (· < ·)
deriving DecidableEq

namespace Roster

def empty : Roster := ⟨[], .nil⟩

def count (roster : Roster) : Nat := roster.records.length

def isEmpty (roster : Roster) : Bool := roster.records.isEmpty

def get? (roster : Roster) (id : String) : Option AlarmRecord :=
  roster.records.find? fun r => r.id == id

/-- Puts a record at its place; a record of the same identifier gives way. -/
def place (r : AlarmRecord) : List AlarmRecord → List AlarmRecord
  | [] => [r]
  | s :: rest =>
    if r.id < s.id then r :: s :: rest
    else if r.id = s.id then r :: rest
    else s :: place r rest

theorem mem_place {r x : AlarmRecord} {l : List AlarmRecord} (h : x ∈ place r l) :
    x = r ∨ x ∈ l := by
  induction l with
  | nil => simpa [place] using h
  | cons s rest ih =>
    simp only [place] at h
    split at h
    · simpa using h
    · split at h
      · rcases List.mem_cons.1 h with h | h
        · exact .inl h
        · exact .inr (List.mem_cons_of_mem _ h)
      · rcases List.mem_cons.1 h with h | h
        · exact .inr (h ▸ List.mem_cons_self)
        · exact (ih h).imp id (List.mem_cons_of_mem _)

theorem ascending_place (r : AlarmRecord) {l : List AlarmRecord}
    (h : (l.map AlarmRecord.id).Pairwise (· < ·)) :
    ((place r l).map AlarmRecord.id).Pairwise (· < ·) := by
  induction l with
  | nil => simp [place]
  | cons s rest ih =>
    have hs := List.pairwise_cons.1 h
    simp only [place]
    split
    · rename_i hlt
      refine List.pairwise_cons.2 ⟨fun x hx => ?_, h⟩
      rcases List.mem_cons.1 hx with rfl | hx
      · exact hlt
      · exact String.lt_trans hlt (hs.1 x hx)
    · rename_i hnlt
      split
      · rename_i heq
        exact List.pairwise_cons.2 ⟨fun x hx => heq ▸ hs.1 x hx, hs.2⟩
      · rename_i hne
        refine List.pairwise_cons.2 ⟨fun x hx => ?_, ih hs.2⟩
        obtain ⟨y, hy, rfl⟩ := List.mem_map.1 hx
        rcases mem_place hy with rfl | hy
        · rcases Decidable.em (s.id < y.id) with h' | h'
          · exact h'
          · exact absurd (String.le_antisymm (String.not_lt.1 h') (String.not_lt.1 hnlt)) hne
        · exact hs.1 _ (List.mem_map_of_mem hy)

def put (roster : Roster) (r : AlarmRecord) : Roster :=
  ⟨place r roster.records, ascending_place r roster.ascending⟩

/-- Records in any order, each put at its place. -/
def ofRecords (records : List AlarmRecord) : Roster :=
  records.foldr (fun r roster => roster.put r) empty

def erase (roster : Roster) (id : String) : Roster where
  records := roster.records.filter fun r => r.id != id
  ascending := roster.ascending.sublist (List.filter_sublist.map _)

/-- Other records under the same identifiers. -/
def withRecords (roster : Roster) (records : List AlarmRecord)
    (h : records.map AlarmRecord.id = roster.records.map AlarmRecord.id) : Roster :=
  ⟨records, h ▸ roster.ascending⟩

theorem find?_place (r : AlarmRecord) (id : String) {l : List AlarmRecord}
    (h : (l.map AlarmRecord.id).Pairwise (· < ·)) :
    (place r l).find? (fun x => x.id == id) =
      if id = r.id then some r else l.find? fun x => x.id == id := by
  induction l with
  | nil =>
    by_cases hid : r.id = id
    · simp [place, hid]
    · simp [place, hid, Ne.symm hid]
  | cons s rest ih =>
    have hs := List.pairwise_cons.1 h
    simp only [place]
    split
    · by_cases hid : r.id = id
      · simp [hid]
      · simp [hid, Ne.symm hid]
    · split
      · rename_i heq
        by_cases hid : r.id = id
        · simp [hid]
        · simp [hid, Ne.symm hid, ← heq]
      · rename_i hne
        by_cases hsid : s.id = id
        · have : ¬ id = r.id := fun h' => hne (by rw [hsid, h'])
          simp [hsid, this]
        · simp [hsid, ih hs.2]

theorem get?_put (roster : Roster) (r : AlarmRecord) (id : String) :
    (roster.put r).get? id = if id = r.id then some r else roster.get? id :=
  find?_place r id roster.ascending

theorem get?_ofRecords (records : List AlarmRecord) (id : String) :
    (ofRecords records).get? id = records.find? fun r => r.id == id := by
  induction records with
  | nil => rfl
  | cons r rest ih =>
    change ((ofRecords rest).put r).get? id = _
    rw [get?_put, ih]
    by_cases hid : r.id = id
    · simp [hid]
    · simp [hid, Ne.symm hid]

theorem get?_erase (roster : Roster) (id other : String) :
    (roster.erase id).get? other = if other = id then none else roster.get? other := by
  simp only [get?, erase, List.find?_filter]
  split
  · rename_i h; subst h
    simp
  · rename_i h
    congr 1; funext x
    by_cases hx : x.id = other <;> simp [hx, h]

theorem get?_id {roster : Roster} {id : String} {r : AlarmRecord}
    (h : roster.get? id = some r) : r.id = id := by
  simpa using List.find?_some h

end Roster

end AlarmEscalation
