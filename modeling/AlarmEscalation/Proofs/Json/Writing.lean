import AlarmEscalation.Proofs.Json.Contents

/-! # What is written

The writers put no blanks anywhere, and of all forms of a string they choose one. What they write is
a written form of the contents that they are given. -/
namespace AlarmEscalation.Json

section Values

theorem written_writeString (value : String) : Written (.text value) (writeString value) := by
  simpa only [Written] using writtenString_writeString value

theorem written_writeBool (b : Bool) : Written (.bool b) (writeBool b) := by simp only [Written]

theorem written_writeNat (n : Nat) : Written (.integer n) (writeNat n) := by
  simp only [Written]
  rfl

theorem separated_cons (value : List Char) (values : List (List Char)) :
    separated (value :: values) = value ++ values.flatMap (',' :: ·) := by
  induction values generalizing value with
  | nil => simp [separated]
  | cons next values ih =>
    have h := ih next
    simp only [separated, List.flatMap_cons] at h ⊢
    rw [List.intercalate_cons_cons, h]
    simp

end Values

universe u

variable {ι : Type u} {content : ι → Content} {text : ι → List Char} {items : List ι}

theorem writtenItems_flatMap (h : ∀ x ∈ items, Written (content x) (text x)) :
    WrittenItems false (items.map content) (items.flatMap (fun x => ',' :: text x) ++ [']']) := by
  induction items with
  | nil => simpa only [List.map_nil, WrittenItems] using ⟨[], blanks_nil, rfl⟩
  | cons x items ih =>
    simp only [List.map_cons, WrittenItems]
    refine ⟨[','], [], text x, _, ⟨[], blanks_nil, rfl⟩, blanks_nil, h x (by simp),
      ih fun y hy => h y (by simp [hy]), ?_⟩
    simp

theorem written_writeList (h : ∀ x ∈ items, Written (content x) (text x)) :
    Written (.list (items.map content)) (writeList (items.map text)) := by
  simp only [Written]
  refine ⟨separated (items.map text) ++ [']'], ?_, rfl⟩
  cases items with
  | nil => simpa only [List.map_nil, WrittenItems] using ⟨[], blanks_nil, rfl⟩
  | cons x items =>
    simp only [List.map_cons, WrittenItems, separated_cons]
    refine ⟨[], [], text x, _, rfl, blanks_nil, h x (by simp),
      writtenItems_flatMap fun y hy => h y (by simp [hy]), ?_⟩
    simp [List.flatMap_map]

variable {name : ι → String}

theorem writtenMembers_flatMap (h : ∀ x ∈ items, Written (content x) (text x)) :
    WrittenMembers false (items.map fun x => (name x, content x))
      (items.flatMap (fun x => ',' :: writeMember (name x) (text x)) ++ ['\x7d']) := by
  induction items with
  | nil => simpa only [List.map_nil, WrittenMembers] using ⟨[], blanks_nil, rfl⟩
  | cons x items ih =>
    simp only [List.map_cons, WrittenMembers]
    refine ⟨[','], [], writeString (name x), [], [], text x, _, ⟨[], blanks_nil, rfl⟩, blanks_nil,
      writtenString_writeString _, blanks_nil, blanks_nil, h x (by simp),
      ih fun y hy => h y (by simp [hy]), ?_⟩
    simp [writeMember]

theorem written_writeObject (h : ∀ x ∈ items, Written (content x) (text x)) :
    Written (.mapping (items.map fun x => (name x, content x)))
      (writeObject (items.map fun x => (name x, text x))) := by
  simp only [Written]
  refine ⟨separated (items.map fun x => writeMember (name x) (text x)) ++ ['\x7d'], ?_, ?_⟩
  · cases items with
    | nil => simpa only [List.map_nil, WrittenMembers] using ⟨[], blanks_nil, rfl⟩
    | cons x items =>
      simp only [List.map_cons, WrittenMembers, separated_cons]
      refine ⟨[], [], writeString (name x), [], [], text x, _, rfl, blanks_nil,
        writtenString_writeString _, blanks_nil, blanks_nil, h x (by simp),
        writtenMembers_flatMap fun y hy => h y (by simp [hy]), ?_⟩
      simp [writeMember, List.flatMap_map]
  · rw [writeObject, List.map_map]
    rfl

/-- A written value is a whole document. -/
theorem Written.document {content : Content} {text : List Char} (h : Written content text) :
    WrittenDocument content text :=
  ⟨[], text, [], blanks_nil, h, blanks_nil, by simp⟩

end AlarmEscalation.Json
