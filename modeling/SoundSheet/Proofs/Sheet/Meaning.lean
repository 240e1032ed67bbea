import SoundSheet.Proofs.Bus.Plan
import SoundSheet.Proofs.Sheet.Pass

/-!
# The plain meaning of formulas

A sheet remembers the values of its cells and refuses to come back to a cell
whose formula runs. The plain meaning of a formula knows nothing of this: every
cell in the grid that the formula asks for is evaluated afresh, from its raw
text, whenever it is asked for. `Evaluates` gives the rules. A cell has a plain
value (`PlainValue`) if this comes to an end; a cell on a cycle has none.

Along with the result the rules collect the **reads**: all cells that are asked
for, directly or through other cells. The plain value of a cell hangs on the raw
texts of these cells only (`Evaluates.congr`), and a cell that has a plain value
is not among its own reads (`PlainValue.not_mem_reads`). The latter is why such
a cell never meets a mark that its own evaluation has put, so that remembered
values and marks make no difference to it (`Runs.agrees`).

So in whatever order cells are asked for, the value that is stored for a cell
with a plain value is the plain value (`Runs.faithful`). Buses are left out of
account in this, since a cell that is evaluated twice opens two buses. For the
same reason the formulas must not tell buses apart (`IgnoreBuses`), and hence
the host of their scripts must not: one that compares the buses of two voices
would find one bus where a value is remembered and two where it is not. The
hosts of the script language do not (`Script.respects_hostDrawing`,
`Script.respects_hostWith`).
-/

namespace SoundSheet

open SoundSheet.Script SoundSheet.Formula SoundSheet.Sheet

/-! ## The rules -/

/-- **Plain evaluation** in a setting, over a grid of raw texts: the plan ends
with the result `r` and asks for the cells `reads`. Nothing is remembered, and a
new bus may bear any number. -/
inductive Evaluates (setting : Setting) (texts : Address → Option String) :
    {α : Type} → Plan α → Except FormulaError α → List Address → Prop
  /-- A plan that is done ends with its value. -/
  | done {α : Type} (a : α) : Evaluates setting texts (.done a) (.ok a) []
  /-- A plan that fails ends with its error. -/
  | fail {α : Type} (e : FormulaError) :
      Evaluates setting texts (α := α) (.fail e) (.error e) []
  /-- A cell outside the grid cannot be read. -/
  | outside {α : Type} {cell : Address} {next : Except FormulaError CellValue → Plan α}
      {r : Except FormulaError α} {reads : List Address} (hcell : texts cell = none)
      (hnext : Evaluates setting texts (next (.error (.outOfBounds cell))) r reads) :
      Evaluates setting texts (.read cell next) r (cell :: reads)
  /-- A cell in the grid is evaluated afresh. -/
  | inside {α : Type} {cell : Address} {next : Except FormulaError CellValue → Plan α}
      {r : Except FormulaError α} {raw : String} {r₁ : Except FormulaError CellValue}
      {reads₁ reads : List Address} (hcell : texts cell = some raw)
      (hformula : Evaluates setting texts (runRaw setting cell raw) r₁ reads₁)
      (hnext : Evaluates setting texts (next (.ok (valueOf r₁))) r reads) :
      Evaluates setting texts (.read cell next) r (cell :: (reads₁ ++ reads))
  /-- A new bus may bear any number. -/
  | openBus {α : Type} {next : BusId → Plan α} {r : Except FormulaError α}
      {reads : List Address} (bus : BusId) (hnext : Evaluates setting texts (next bus) r reads) :
      Evaluates setting texts (.openBus next) r reads
  /-- What scripts leave behind is of no account. -/
  | emit {α : Type} {writes : List Write} {events : List SoundEvent} {next : Plan α}
      {r : Except FormulaError α} {reads : List Address}
      (hnext : Evaluates setting texts next r reads) :
      Evaluates setting texts (.emit writes events next) r reads

/-- **The plain value of a cell**, and the cells that its evaluation reads. -/
def PlainValue (setting : Setting) (texts : Address → Option String) (a : Address)
    (v : CellValue) (reads : List Address) : Prop :=
  ∃ raw r, texts a = some raw ∧ Evaluates setting texts (runRaw setting a raw) r reads
    ∧ v = valueOf r

/-- **A well-founded cell**: its plain evaluation ends. -/
def WellFounded (setting : Setting) (texts : Address → Option String) (a : Address) : Prop :=
  ∃ v reads, PlainValue setting texts a v reads

/-- **The formulas of a grid do not tell buses apart**: the run of each matches
itself. -/
def IgnoreBuses (setting : Setting) (texts : Address → Option String) : Prop :=
  ∀ a raw, texts a = some raw → (runRaw setting a raw).Matches AnyBus (CellValue.Matches AnyBus)
    (runRaw setting a raw)

/-- They do not if the host does not. -/
theorem Script.Host.IgnoresBuses.ignoreBuses {setting : Setting}
    (hhost : setting.host.IgnoresBuses) (texts : Address → Option String) :
    IgnoreBuses setting texts :=
  fun a raw _ => matches_runRaw hhost a raw

/-! ## One meaning -/

section Meaning

variable {setting : Setting} {texts : Address → Option String}

/-- **Plain evaluation has one result**, but for buses, and reads the same
cells. -/
theorem Evaluates.matches (hbuses : IgnoreBuses setting texts) {α : Type} {p : Plan α}
    {r : Except FormulaError α} {reads : List Address} (h : Evaluates setting texts p r reads) :
    ∀ {β : Type} {A : α → β → Prop} {q : Plan β} {r' : Except FormulaError β}
      {reads' : List Address}, p.Matches AnyBus A q → Evaluates setting texts q r' reads' →
        ResultMatches A r r' ∧ reads = reads' := by
  induction h with
  | done a =>
    intro β A q r' reads' hmatch h'
    cases hmatch with
    | done hab =>
      cases h' with
      | done b => exact ⟨.ok hab, rfl⟩
  | fail e =>
    intro β A q r' reads' hmatch h'
    cases hmatch
    cases h'
    exact ⟨.error e, rfl⟩
  | outside hcell _ ih =>
    intro β A q r' reads' hmatch h'
    cases hmatch with
    | read cell hnext =>
      cases h' with
      | outside _ hnext' =>
        obtain ⟨hr, rfl⟩ := ih (hnext _ _ (.error _)) hnext'
        exact ⟨hr, rfl⟩
      | inside hcell' _ _ => exact nomatch hcell.symm.trans hcell'
  | @inside _ cell _ _ raw _ _ _ hcell _ _ ihformula ihnext =>
    intro β A q r' reads' hmatch h'
    cases hmatch with
    | read cell hnext =>
      cases h' with
      | outside hcell' _ => exact nomatch hcell.symm.trans hcell'
      | inside hcell' hformula' hnext' =>
        obtain rfl := Option.some.inj (hcell.symm.trans hcell')
        obtain ⟨hr₁, rfl⟩ := ihformula (hbuses cell raw hcell) hformula'
        obtain ⟨hr, rfl⟩ := ihnext (hnext _ _ (.ok hr₁.valueOf)) hnext'
        exact ⟨hr, rfl⟩
  | openBus bus _ ih =>
    intro β A q r' reads' hmatch h'
    cases hmatch with
    | openBus hnext =>
      cases h' with
      | openBus bus' hnext' => exact ih (hnext _ _ trivial) hnext'
  | emit _ ih =>
    intro β A q r' reads' hmatch h'
    cases hmatch with
    | emit _ _ hnext =>
      cases h' with
      | emit hnext' => exact ih hnext hnext'

/-- **A cell has one plain value**, but for buses. -/
theorem PlainValue.matches (hbuses : IgnoreBuses setting texts) {a : Address} {v w : CellValue}
    {reads reads' : List Address} (h : PlainValue setting texts a v reads)
    (h' : PlainValue setting texts a w reads') : v.Matches AnyBus w ∧ reads = reads' := by
  obtain ⟨raw, r, hraw, hr, rfl⟩ := h
  obtain ⟨raw', r', hraw', hr', rfl⟩ := h'
  obtain rfl := Option.some.inj (hraw.symm.trans hraw')
  obtain ⟨hmatch, hreads⟩ := hr.matches hbuses (hbuses a raw hraw) hr'
  exact ⟨hmatch.valueOf, hreads⟩

/-! ## Reads -/

/-- **Cells that are read have plain values of their own**, and read less. -/
theorem Evaluates.plainValue_of_mem {α : Type} {p : Plan α} {r : Except FormulaError α}
    {reads : List Address} (h : Evaluates setting texts p r reads) {a : Address}
    (ha : a ∈ reads) (htext : (texts a).isSome) :
    ∃ v reads', PlainValue setting texts a v reads' ∧ reads'.length < reads.length := by
  induction h with
  | done a => exact nomatch ha
  | fail e => exact nomatch ha
  | @outside _ cell _ _ reads hcell _ ih =>
    rcases List.mem_cons.mp ha with rfl | ha
    · rw [hcell] at htext
      exact nomatch htext
    · obtain ⟨v, reads', hv, hlt⟩ := ih ha
      exact ⟨v, reads', hv, by rw [List.length_cons]; omega⟩
  | @inside _ cell _ _ raw r₁ reads₁ reads hcell hformula _ ihformula ihnext =>
    have hlen : (cell :: (reads₁ ++ reads)).length = reads₁.length + reads.length + 1 := by simp
    rcases List.mem_cons.mp ha with rfl | ha
    · exact ⟨_, reads₁, ⟨raw, r₁, hcell, hformula, rfl⟩, by omega⟩
    rcases List.mem_append.mp ha with ha | ha
    · obtain ⟨v, reads', hv, hlt⟩ := ihformula ha
      exact ⟨v, reads', hv, by omega⟩
    · obtain ⟨v, reads', hv, hlt⟩ := ihnext ha
      exact ⟨v, reads', hv, by omega⟩
  | openBus bus _ ih => exact ih ha
  | emit _ ih => exact ih ha

/-- **A cell with a plain value does not read itself**, not even through other
cells: it would have to read more than it does. -/
theorem PlainValue.not_mem_reads (hbuses : IgnoreBuses setting texts) {a : Address}
    {v : CellValue} {reads : List Address} (h : PlainValue setting texts a v reads) :
    a ∉ reads := by
  intro ha
  obtain ⟨raw, r, hraw, hr, -⟩ := id h
  obtain ⟨w, reads', hw, hlt⟩ := hr.plainValue_of_mem ha (by rw [hraw]; rfl)
  rw [(h.matches hbuses hw).2] at hlt
  exact Nat.lt_irrefl _ hlt

/-- So the mark that its own evaluation puts is not met. -/
theorem PlainValue.unmarked (hbuses : IgnoreBuses setting texts) {a : Address} {v : CellValue}
    {reads : List Address} (h : PlainValue setting texts a v reads) {s : Sheet}
    (hmarks : ∀ b ∈ reads, s.slot? b ≠ some .evaluating) :
    ∀ b ∈ reads, (s.setSlot a .evaluating).slot? b ≠ some .evaluating := by
  intro b hb
  have hne : a ≠ b := fun heq => h.not_mem_reads hbuses (heq ▸ hb)
  rw [slot?_setSlot_of_ne _ hne]
  exact hmarks b hb

/-- **Only the texts of the cells that are read matter.** -/
theorem Evaluates.congr {α : Type} {p : Plan α} {r : Except FormulaError α}
    {reads : List Address} (h : Evaluates setting texts p r reads)
    {texts' : Address → Option String} (htexts : ∀ a ∈ reads, texts' a = texts a) :
    Evaluates setting texts' p r reads := by
  induction h with
  | done a => exact .done a
  | fail e => exact .fail e
  | outside hcell _ ih =>
    refine .outside ((htexts _ List.mem_cons_self).trans hcell) (ih fun a ha => ?_)
    exact htexts a (List.mem_cons_of_mem _ ha)
  | inside hcell _ _ ihformula ihnext =>
    refine .inside ((htexts _ List.mem_cons_self).trans hcell) (ihformula fun a ha => ?_)
      (ihnext fun a ha => ?_)
    · exact htexts a (List.mem_cons_of_mem _ (List.mem_append_left _ ha))
    · exact htexts a (List.mem_cons_of_mem _ (List.mem_append_right _ ha))
  | openBus bus _ ih => exact .openBus bus (ih htexts)
  | emit _ ih => exact .emit (ih htexts)

theorem PlainValue.congr {a : Address} {v : CellValue} {reads : List Address}
    (h : PlainValue setting texts a v reads) {texts' : Address → Option String}
    (htexts : ∀ b ∈ a :: reads, texts' b = texts b) : PlainValue setting texts' a v reads := by
  obtain ⟨raw, r, hraw, hr, hv⟩ := h
  refine ⟨raw, r, (htexts a List.mem_cons_self).trans hraw, hr.congr fun b hb => ?_, hv⟩
  exact htexts b (List.mem_cons_of_mem _ hb)

end Meaning

/-! ## Remembered values and the plain meaning -/

/-- **A sheet over a grid of raw texts whose stored values are plain values**,
wherever there are any. -/
structure Faithful (setting : Setting) (texts : Address → Option String) (s : Sheet) : Prop where
  /-- The setting is that of the sheet. -/
  setting_eq : s.setting = setting
  /-- The raw texts are those of the sheet. -/
  raw_eq : ∀ a, s.raw? a = texts a
  /-- The stored values are plain values. -/
  value : ∀ a v w reads, s.slot? a = some (.evaluated v) →
    PlainValue setting texts a w reads → v.Matches AnyBus w

section Faithful

variable {setting : Setting} {texts : Address → Option String} {s t : Sheet}

/-- A mark is no value. -/
theorem Faithful.mark (h : Faithful setting texts s) (a : Address) :
    Faithful setting texts (s.setSlot a .evaluating) :=
  ⟨h.setting_eq, fun b => (raw?_setSlot ..).trans (h.raw_eq b),
    fun b v w reads hv hw => h.value b v w reads (slot?_evaluated_of_mark hv) hw⟩

/-- A value that is stored must be the plain one, if there is one. -/
theorem Faithful.store (h : Faithful setting texts s) {a : Address} {v : CellValue}
    (hv : ∀ w reads, PlainValue setting texts a w reads → v.Matches AnyBus w) :
    Faithful setting texts (s.setSlot a (.evaluated v)) := by
  refine ⟨h.setting_eq, fun b => (raw?_setSlot ..).trans (h.raw_eq b),
    fun b v' w reads hv' hw => ?_⟩
  rcases slot?_evaluated_of_store hv' with ⟨rfl, rfl⟩ | ⟨-, hv'⟩
  · exact hv w reads hw
  · exact h.value b v' w reads hv' hw

/-- The run of a cell of the sheet is the run that has the plain meaning. -/
theorem Faithful.matches_runRaw (h : Faithful setting texts s)
    (hbuses : IgnoreBuses setting texts) {a : Address} {raw : String}
    (hraw : texts a = some raw) :
    (runRaw s.setting a raw).Matches AnyBus (CellValue.Matches AnyBus)
      (runRaw setting a raw) := by
  rw [h.setting_eq]
  exact hbuses a raw hraw

/-- **A plan that has a plain meaning and meets no mark ends as its plain
meaning says**, and what it stores are plain values. -/
theorem Runs.agrees (hbuses : IgnoreBuses setting texts) {α : Type} {p : Plan α}
    {r : Except FormulaError α} (h : Runs p s r t) :
    ∀ {β : Type} {A : α → β → Prop} {q : Plan β} {r' : Except FormulaError β}
      {reads : List Address}, p.Matches AnyBus A q → Evaluates setting texts q r' reads →
        (∀ a ∈ reads, s.slot? a ≠ some .evaluating) → Faithful setting texts s →
          ResultMatches A r r' ∧ Faithful setting texts t := by
  induction h with
  | done a s =>
    intro β A q r' reads hmatch hplain _ hs
    cases hmatch with
    | done hab =>
      cases hplain with
      | done b => exact ⟨.ok hab, hs⟩
  | fail e s =>
    intro β A q r' reads hmatch hplain _ hs
    cases hmatch
    cases hplain
    exact ⟨.error e, hs⟩
  | outside hcell _ ih =>
    intro β A q r' reads hmatch hplain hmarks hs
    cases hmatch with
    | read cell hnext =>
      cases hplain with
      | outside _ hnext' =>
        exact ih (hnext _ _ (.error _)) hnext'
          (fun a ha => hmarks a (List.mem_cons_of_mem _ ha)) hs
      | inside hcell' _ _ =>
        rw [slot?_eq_none_iff, hs.raw_eq, hcell'] at hcell
        exact nomatch hcell
  | marked hcell _ _ =>
    intro β A q r' reads hmatch hplain hmarks hs
    -- the cell is among the reads, and none of these is marked
    cases hmatch with
    | read cell hnext =>
      cases hplain with
      | outside => exact absurd hcell (hmarks _ List.mem_cons_self)
      | inside => exact absurd hcell (hmarks _ List.mem_cons_self)
  | @known _ _ _ s _ _ v hcell _ ih =>
    intro β A q r' reads hmatch hplain hmarks hs
    cases hmatch with
    | read cell hnext =>
      cases hplain with
      | outside hcell' _ =>
        rw [← hs.raw_eq, ← slot?_eq_none_iff, hcell] at hcell'
        exact nomatch hcell'
      | inside hcell' hformula' hnext' =>
        -- what is remembered is what plain evaluation finds out again
        have hv := hs.value _ _ _ _ hcell ⟨_, _, hcell', hformula', rfl⟩
        refine ih (hnext _ _ (.ok hv)) hnext' (fun a ha => hmarks a ?_) hs
        exact List.mem_cons_of_mem _ (List.mem_append_right _ ha)
  | @fresh _ cell _ s s₁ _ _ raw _ hcell hraw hformula _ ihformula ihnext =>
    intro β A q r' reads hmatch hplain hmarks hs
    cases hmatch with
    | read cell hnext =>
      cases hplain with
      | outside hcell' _ =>
        rw [← hs.raw_eq, ← slot?_eq_none_iff, hcell] at hcell'
        exact nomatch hcell'
      | @inside _ _ _ _ raw' r₁' reads₁ _ hcell' hformula' hnext' =>
        obtain rfl : raw = raw' := Option.some.inj (hraw.symm.trans ((hs.raw_eq _).trans hcell'))
        have hplain₁ : PlainValue setting texts cell (valueOf r₁') reads₁ :=
          ⟨raw, r₁', hcell', hformula', rfl⟩
        -- the formula of the cell runs with the cell marked, but does not read it
        have hmarks₁ := hplain₁.unmarked hbuses fun a ha =>
          hmarks a (List.mem_cons_of_mem _ (List.mem_append_left _ ha))
        obtain ⟨hr₁, hs₁⟩ :=
          ihformula (hs.matches_runRaw hbuses hcell') hformula' hmarks₁ (hs.mark cell)
        have hstore := hs₁.store fun w reads' hw =>
          hr₁.valueOf.trans_anyBus (hplain₁.matches hbuses hw).1
        refine ihnext (hnext _ _ (.ok hr₁.valueOf)) hnext' (fun a ha => ?_) hstore
        rw [Ne, (hformula.fills.setSlot hcell _).slot?_evaluating_iff]
        exact hmarks a (List.mem_cons_of_mem _ (List.mem_append_right _ ha))
  | openBus _ ih =>
    intro β A q r' reads hmatch hplain hmarks hs
    cases hmatch with
    | openBus hnext =>
      cases hplain with
      | openBus bus hnext' =>
        exact ih (hnext _ _ trivial) hnext' hmarks ⟨hs.setting_eq, hs.raw_eq, hs.value⟩
  | emit _ ih =>
    intro β A q r' reads hmatch hplain hmarks hs
    cases hmatch with
    | emit _ _ hnext =>
      cases hplain with
      | emit hnext' => exact ih hnext hnext' hmarks ⟨hs.setting_eq, hs.raw_eq, hs.value⟩

/-- **Whatever is run, what it stores for well-founded cells are plain values**,
if no well-founded cell is marked when the run starts. -/
theorem Runs.faithful (hbuses : IgnoreBuses setting texts) {α : Type} {p : Plan α}
    {r : Except FormulaError α} (h : Runs p s r t)
    (hmarks : ∀ a, s.slot? a = some .evaluating → ¬WellFounded setting texts a)
    (hs : Faithful setting texts s) : Faithful setting texts t := by
  induction h with
  | done a s => exact hs
  | fail e s => exact hs
  | outside _ _ ih => exact ih hmarks hs
  | marked _ _ ih => exact ih hmarks hs
  | known _ _ ih => exact ih hmarks hs
  | openBus _ ih => exact ih hmarks ⟨hs.setting_eq, hs.raw_eq, hs.value⟩
  | emit _ ih => exact ih hmarks ⟨hs.setting_eq, hs.raw_eq, hs.value⟩
  | @fresh _ cell _ s s₁ _ _ raw r₁ hcell hraw hformula _ ihformula ihnext =>
    -- after the hop the marks are those from before
    have hmarksAfter : ∀ a, (s₁.setSlot cell (.evaluated (valueOf r₁))).slot? a
        = some .evaluating → ¬WellFounded setting texts a := by
      intro a ha
      exact hmarks a (((hformula.fills.setSlot hcell _).slot?_evaluating_iff a).mp ha)
    refine ihnext hmarksAfter ?_
    by_cases hwf : WellFounded setting texts cell
    · -- a well-founded cell is run in full view of marks that it does not meet
      obtain ⟨v, reads, hv⟩ := hwf
      obtain ⟨raw', r', hraw', hr', rfl⟩ := id hv
      obtain rfl : raw = raw' := Option.some.inj (hraw.symm.trans ((hs.raw_eq _).trans hraw'))
      have hunmet : ∀ a ∈ reads, s.slot? a ≠ some .evaluating := by
        intro a ha hmark
        have htext : (texts a).isSome := by
          rw [← hs.raw_eq, ← isSome_slot?, hmark]
          rfl
        obtain ⟨w, reads', hw, -⟩ := hr'.plainValue_of_mem ha htext
        exact hmarks a hmark ⟨w, reads', hw⟩
      obtain ⟨hr₁, hs₁⟩ := hformula.agrees hbuses (hs.matches_runRaw hbuses hraw') hr'
        (hv.unmarked hbuses hunmet) (hs.mark cell)
      exact hs₁.store fun w reads' hw => hr₁.valueOf.trans_anyBus (hv.matches hbuses hw).1
    · -- for any other cell there is nothing to store that would be wrong
      have hmarksWithin : ∀ a, (s.setSlot cell .evaluating).slot? a = some .evaluating →
          ¬WellFounded setting texts a := by
        intro a ha
        by_cases heq : cell = a
        · exact heq ▸ hwf
        · rw [slot?_setSlot_of_ne _ heq] at ha
          exact hmarks a ha
      exact (ihformula hmarksWithin (hs.mark cell)).store
        fun w reads hw => absurd ⟨w, reads, hw⟩ hwf

end Faithful

end SoundSheet
