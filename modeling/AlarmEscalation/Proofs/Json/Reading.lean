import AlarmEscalation.Json.Decode

/-! # What a reader takes from a text

Where a cursor stands matters only for the errors, so a successful reading is described by the text
before it, what it finds, and the text behind it. `Reads.bind` puts readings together; the steps
that all readers are made of follow. -/
namespace AlarmEscalation.Json

section Relations
variable {α β : Type}

/-- The reader takes `before` down to `after` and finds `a` in it. -/
def Reads (r : Reader α) (before : List Char) (a : α) (after : List Char) : Prop :=
  ∀ line column, ∃ line' column',
    r.run ⟨before.map .char, line, column⟩ = (.ok a, ⟨after.map .char, line', column'⟩)

/-- The reader reports an error in `before`. -/
def Fails (r : Reader α) (before : List Char) : Prop :=
  ∀ line column, ∃ e c, r.run ⟨before.map .char, line, column⟩ = (.error e, c)

/-- The reader reports an error wherever it starts. -/
def Refuses (r : Reader α) : Prop := ∀ c, ∃ e c', r.run c = (.error e, c')

/-- The reader reports an error, or it takes `before` down to `after`. -/
def Settles (r : Reader α) (before after : List Char) : Prop :=
  Fails r before ∨ ∃ a, Reads r before a after

theorem run_bind_of_ok {r : Reader α} {f : α → Reader β} {c c' : Cursor} {a : α}
    (h : r.run c = (.ok a, c')) : (r >>= f).run c = (f a).run c' := by
  change (r.run >>= ExceptT.bindCont f) c = _
  simp only [bind, StateT.bind, h]
  rfl

theorem run_bind_of_error {r : Reader α} {f : α → Reader β} {c c' : Cursor} {e : Error}
    (h : r.run c = (.error e, c')) : (r >>= f).run c = (.error e, c') := by
  change (r.run >>= ExceptT.bindCont f) c = _
  simp only [bind, StateT.bind, h]
  rfl

variable {r : Reader α} {f : α → Reader β} {s t u : List Char} {a : α} {b : β}

/-- One reader in `s` does what another one does in `t`. -/
def Leads (r : Reader α) (s : List Char) (r' : Reader α) (t : List Char) : Prop :=
  ∀ line column, ∃ line' column',
    r.run ⟨s.map .char, line, column⟩ = r'.run ⟨t.map .char, line', column'⟩

theorem Reads.leads (h : Reads r s a t) (f : α → Reader β) : Leads (r >>= f) s (f a) t := by
  intro line column
  obtain ⟨line', column', hr⟩ := h line column
  exact ⟨line', column', run_bind_of_ok hr⟩

theorem Leads.trans {r₁ r₂ r₃ : Reader α} (h : Leads r₁ s r₂ t) (h' : Leads r₂ t r₃ u) :
    Leads r₁ s r₃ u := by
  intro line column
  obtain ⟨line, column, hr⟩ := h line column
  obtain ⟨line', column', hr'⟩ := h' line column
  exact ⟨line', column', hr.trans hr'⟩

theorem Leads.bind {r r' : Reader α} (h : Leads r s r' t) (f : α → Reader β) :
    Leads (r >>= f) s (r' >>= f) t := by
  intro line column
  obtain ⟨line', column', hr⟩ := h line column
  refine ⟨line', column', ?_⟩
  cases hr' : r'.run ⟨t.map .char, line', column'⟩ with
  | mk result c =>
    rw [hr'] at hr
    cases result with
    | error e => rw [run_bind_of_error hr, run_bind_of_error hr']
    | ok a => rw [run_bind_of_ok hr, run_bind_of_ok hr']

theorem Leads.reads {r r' : Reader α} (h : Leads r s r' t) (h' : Reads r' t a u) :
    Reads r s a u := by
  intro line column
  obtain ⟨line, column, hr⟩ := h line column
  obtain ⟨line', column', hr'⟩ := h' line column
  exact ⟨line', column', hr.trans hr'⟩

theorem Leads.fails {r r' : Reader α} (h : Leads r s r' t) (h' : Fails r' t) : Fails r s := by
  intro line column
  obtain ⟨line, column, hr⟩ := h line column
  obtain ⟨e, c, hr'⟩ := h' line column
  exact ⟨e, c, hr.trans hr'⟩

theorem Reads.bind (h : Reads r s a t) (h' : Reads (f a) t b u) : Reads (r >>= f) s b u :=
  (h.leads f).reads h'

theorem Reads.bind_fails (h : Reads r s a t) (h' : Fails (f a) t) : Fails (r >>= f) s :=
  (h.leads f).fails h'

theorem Fails.bind (h : Fails r s) (f : α → Reader β) : Fails (r >>= f) s := by
  intro line column
  obtain ⟨e, c, hr⟩ := h line column
  exact ⟨e, c, run_bind_of_error hr⟩

theorem Refuses.fails (h : Refuses r) (s : List Char) : Fails r s := fun _ _ => h _

theorem Refuses.bind (r : Reader α) (h : ∀ a, Refuses (f a)) : Refuses (r >>= f) := by
  intro c
  cases hr : r.run c with
  | mk result c' =>
    cases result with
    | error e => exact ⟨e, c', run_bind_of_error hr⟩
    | ok a =>
      obtain ⟨e, c'', hf⟩ := h a c'
      exact ⟨e, c'', (run_bind_of_ok hr).trans hf⟩

theorem Settles.bind (h : Settles r s t) (h' : ∀ a, Settles (f a) t u) : Settles (r >>= f) s u := by
  rcases h with hfails | ⟨a, hreads⟩
  · exact .inl (hfails.bind f)
  · rcases h' a with hfails | ⟨b, hreads'⟩
    · exact .inl (hreads.bind_fails hfails)
    · exact .inr ⟨b, hreads.bind hreads'⟩

theorem Leads.settles {r r' : Reader α} (h : Leads r s r' t) (h' : Settles r' t u) :
    Settles r s u := by
  rcases h' with hfails | ⟨a, hreads⟩
  · exact .inl (h.fails hfails)
  · exact .inr ⟨a, h.reads hreads⟩

theorem Reads.bind_settles (h : Reads r s a t) (h' : Settles (f a) t u) : Settles (r >>= f) s u :=
  (h.leads f).settles h'

theorem reads_pure (a : α) (s : List Char) : Reads (pure a) s a s :=
  fun line column => ⟨line, column, rfl⟩

theorem refuses_failWith (place : Cursor → Error) : Refuses (Reader.failWith (α := α) place) :=
  fun c => ⟨place c, c, rfl⟩

theorem refuses_mismatch (m : Decoding.Mismatch) : Refuses (Reader.mismatch (α := α) m) :=
  refuses_failWith _

/-- A reader that looks at the cursor sees the text before it. -/
theorem reads_get {f : Cursor → Reader α}
    (h : ∀ line column, Reads (f ⟨s.map .char, line, column⟩) s a t) :
    Reads (get >>= f) s a t := by
  intro line column
  obtain ⟨line', column', hf⟩ := h line column line column
  refine ⟨line', column', ?_⟩
  rw [← hf]
  rfl

end Relations

/-! ## Glyphs and blanks -/

def isBlank (c : Char) : Bool := c = ' ' || c = '\t' || c = '\r' || c = '\n'

/-- The text consists of blanks. -/
def Blanks (s : List Char) : Prop := ∀ c ∈ s, isBlank c = true

theorem blanks_nil : Blanks [] := by simp [Blanks]

/-- What can follow a number: nothing that would continue it. -/
def Closed (s : List Char) : Prop :=
  ∀ c ∈ s.head?, c.isDigit = false ∧ c ≠ '.' ∧ c ≠ 'e' ∧ c ≠ 'E'

theorem closed_nil : Closed [] := by simp [Closed]

theorem closed_cons {c : Char} {s : List Char}
    (h : (!c.isDigit && c != '.' && c != 'e' && c != 'E') = true) : Closed (c :: s) := by
  simpa [Closed, and_assoc] using h

theorem closed_of_blank {c : Char} (h : isBlank c = true) (s : List Char) : Closed (c :: s) := by
  have hcases : c = ' ' ∨ c = '\t' ∨ c = '\r' ∨ c = '\n' := by simpa [isBlank, or_assoc] using h
  rcases hcases with rfl | rfl | rfl | rfl <;> exact closed_cons (by decide)

theorem Closed.blanks_append {blanks s : List Char} (h : Closed s) (hblanks : Blanks blanks) :
    Closed (blanks ++ s) := by
  cases blanks with
  | nil => exact h
  | cons c rest => exact closed_of_blank (hblanks c (by simp)) _

open Reader

theorem reads_peek (s : List Char) : Reads peek s (s.head?.map .char) s := by
  intro line column
  refine ⟨line, column, ?_⟩
  cases s <;> rfl

theorem reads_skip (c : Char) (s : List Char) : Reads skip (c :: s) () s := by
  intro line column
  by_cases h : c = '\n'
  · subst h
    exact ⟨line + 1, 0, rfl⟩
  · refine ⟨line, column + c.utf8Size, ?_⟩
    have hnext : (⟨(c :: s).map .char, line, column⟩ : Cursor).next =
        ⟨s.map .char, line, column + c.utf8Size⟩ := by
      simp only [Cursor.next, List.map_cons]
      split
      · simp_all
      · simp_all
      · rename_i hrest
        cases hrest
        rfl
    change (Except.ok (), Cursor.next _) = _
    rw [hnext]

theorem afterBlanks_blanks_append {blanks : List Char} (h : Blanks blanks) (s : List Glyph)
    (line column : Nat) : ∃ line' column',
      Cursor.afterBlanks line column (blanks.map .char ++ s) =
        Cursor.afterBlanks line' column' s := by
  induction blanks generalizing line column with
  | nil => exact ⟨line, column, rfl⟩
  | cons c rest ih =>
    have hrest : Blanks rest := fun d hd => h d (by simp [hd])
    have hc : c = ' ' ∨ c = '\t' ∨ c = '\r' ∨ c = '\n' := by
      simpa [isBlank, or_assoc] using h c (by simp)
    rcases hc with rfl | rfl | rfl | rfl <;> exact ih hrest _ _

/-- Blanks before a token are passed over. -/
theorem reads_peekToken {blanks : List Char} (hblanks : Blanks blanks) {s : List Char}
    (hs : ∀ c ∈ s.head?, isBlank c = false) :
    Reads peekToken (blanks ++ s) (s.head?.map .char) s := by
  intro line column
  obtain ⟨line', column', hafter⟩ := afterBlanks_blanks_append hblanks (s.map .char) line column
  have hstop : Cursor.afterBlanks line' column' (s.map .char) = ⟨s.map .char, line', column'⟩ := by
    cases s with
    | nil => rfl
    | cons c rest =>
      have hc : c ≠ ' ' ∧ c ≠ '\t' ∧ c ≠ '\r' ∧ c ≠ '\n' := by
        simpa [isBlank, and_assoc] using hs c (by simp)
      obtain ⟨hspace, htab, hreturn, hline⟩ := hc
      simp only [List.map_cons]
      unfold Cursor.afterBlanks
      split <;> simp_all
  refine ⟨line', column', ?_⟩
  change (Except.ok (Cursor.afterBlanks line column _).rest.head?,
    Cursor.afterBlanks line column _) = _
  simp only [List.map_append, hafter, hstop]
  cases s <;> rfl

theorem reads_peekToken_cons {blanks : List Char} (hblanks : Blanks blanks) {c : Char}
    (hc : isBlank c = false) (s : List Char) :
    Reads peekToken (blanks ++ c :: s) (some (.char c)) (c :: s) :=
  reads_peekToken hblanks (by simpa using hc)

theorem reads_valueStart {blanks : List Char} (hblanks : Blanks blanks) {c : Char}
    (hc : isBlank c = false) (s : List Char) :
    Reads valueStart (blanks ++ c :: s) (.char c) (c :: s) :=
  (reads_peekToken_cons hblanks hc s).bind (reads_pure _ _)

theorem reads_word (letters s : List Char) : Reads (word letters) (letters ++ s) () s := by
  induction letters with
  | nil => exact reads_pure () s
  | cons letter letters ih =>
    refine (reads_peek _).bind ?_
    change Reads (if Glyph.char letter = .char letter then _ else _) _ _ _
    rw [if_pos rfl]
    exact (reads_skip _ _).bind ih

end AlarmEscalation.Json
