import SoundSheet.Proofs.Sheet.Meaning

/-!
# Plain evaluation, carried out

The rules of plain evaluation leave open which number a new bus bears. When it
is carried out, every bus that is opened gets the next number, so that no two
calls share one. A cell that is asked for twice is evaluated twice, and if it
holds a beat, two buses are opened for it.

The hops from cell to cell are counted, and a cell that needs more of them than
there are gets no value. What comes out otherwise is a plain value by the rules
(`exists_plainValue_of_lookAfresh`).
-/

namespace SoundSheet

open SoundSheet.Script SoundSheet.Formula SoundSheet.Sheet

/-- **Carries out a plan afresh**, where `look` evaluates the cells that it asks
for, and the number is the one for the next bus. -/
def Plan.runAfresh (look : Address → BusId → Option (Except FormulaError CellValue × BusId))
    {α : Type} : Plan α → BusId → Option (Except FormulaError α × BusId)
  | done a, bus => some (.ok a, bus)
  | fail e, bus => some (.error e, bus)
  | read cell next, bus =>
    match look cell bus with
    | some (answer, bus) => (next answer).runAfresh look bus
    | none => none
  | openBus next, bus => (next bus).runAfresh look (bus + 1)
  | emit _ _ next, bus => next.runAfresh look bus

/-- **Evaluates a cell afresh** over a grid of raw texts, with so many hops from
cell to cell. -/
def lookAfresh (setting : Setting) (texts : Address → Option String) (hops : Nat) (a : Address)
    (bus : BusId) : Option (Except FormulaError CellValue × BusId) :=
  match texts a with
  | none => some (.error (.outOfBounds a), bus)
  | some raw =>
    match hops with
    | 0 => none
    | hops + 1 =>
      ((runRaw setting a raw).runAfresh (lookAfresh setting texts hops) bus).map
        fun (r, bus) => (.ok (valueOf r), bus)

variable {setting : Setting} {texts : Address → Option String}

/-- What an answer to a lookup has to be by the rules: a plain value, or that
the cell is outside of the grid. -/
def IsPlainAnswer (setting : Setting) (texts : Address → Option String) (a : Address) :
    Except FormulaError CellValue → Prop
  | .ok v => ∃ reads, PlainValue setting texts a v reads
  | .error e => texts a = none ∧ e = .outOfBounds a

/-- **A plan is carried out by the rules**, if its lookups are answered by
them. -/
theorem exists_evaluates_of_runAfresh
    {look : Address → BusId → Option (Except FormulaError CellValue × BusId)}
    (hlook : ∀ a bus answer bus', look a bus = some (answer, bus') →
      IsPlainAnswer setting texts a answer) {α : Type} (p : Plan α) :
    ∀ {bus bus' : BusId} {r : Except FormulaError α}, p.runAfresh look bus = some (r, bus') →
      ∃ reads, Evaluates setting texts p r reads := by
  induction p with
  | done a =>
    intro bus bus' r h
    cases h
    exact ⟨[], .done a⟩
  | fail e =>
    intro bus bus' r h
    cases h
    exact ⟨[], .fail e⟩
  | read cell next ih =>
    intro bus bus' r h
    rw [Plan.runAfresh] at h
    cases hcell : look cell bus with
    | none =>
      rw [hcell] at h
      exact nomatch h
    | some found =>
      obtain ⟨answer, between⟩ := found
      rw [hcell] at h
      obtain ⟨reads, hnext⟩ := ih answer h
      have hanswer := hlook _ _ _ _ hcell
      cases answer with
      | error e =>
        obtain ⟨houtside, rfl⟩ := hanswer
        exact ⟨_, .outside houtside hnext⟩
      | ok v =>
        obtain ⟨_, raw, r₁, hraw, hformula, rfl⟩ := hanswer
        exact ⟨_, .inside hraw hformula hnext⟩
  | openBus next ih =>
    intro bus bus' r h
    obtain ⟨reads, hnext⟩ := ih bus h
    exact ⟨reads, .openBus bus hnext⟩
  | emit writes events next ih =>
    intro bus bus' r h
    obtain ⟨reads, hnext⟩ := ih h
    exact ⟨reads, .emit hnext⟩

/-- **So is a lookup**, whatever number of hops it is given. -/
theorem isPlainAnswer_of_lookAfresh (hops : Nat) : ∀ {a : Address} {bus bus' : BusId}
    {answer : Except FormulaError CellValue},
    lookAfresh setting texts hops a bus = some (answer, bus') →
      IsPlainAnswer setting texts a answer := by
  induction hops with
  | zero =>
    intro a bus bus' answer h
    rw [lookAfresh] at h
    split at h
    next htext =>
      cases h
      exact ⟨htext, rfl⟩
    next => exact nomatch h
  | succ hops ih =>
    intro a bus bus' answer h
    rw [lookAfresh] at h
    split at h
    next htext =>
      cases h
      exact ⟨htext, rfl⟩
    next raw htext =>
      obtain ⟨⟨r, between⟩, hrun, heq⟩ := Option.map_eq_some_iff.mp h
      cases heq
      obtain ⟨reads, hformula⟩ := exists_evaluates_of_runAfresh (fun _ _ _ _ => ih) _ hrun
      exact ⟨reads, raw, r, htext, hformula, rfl⟩

/-- **A value that is found afresh is a plain value.** -/
theorem exists_plainValue_of_lookAfresh {hops : Nat} {a : Address} {bus bus' : BusId}
    {v : CellValue} (h : lookAfresh setting texts hops a bus = some (.ok v, bus')) :
    ∃ reads, PlainValue setting texts a v reads :=
  isPlainAnswer_of_lookAfresh hops h

end SoundSheet
