import SoundSheet.Proofs.Bus.Plan
import SoundSheet.Proofs.Sheet.Pass

/-!
# Passes up to a renaming of buses

A pass opens buses for the beats and sequences of a sheet, and their numbers
hang on how many buses there were before. Nothing else does. Two sheets with the
same raw texts in the same setting that are evaluated side by side stay the same
but for a relation `R` between their buses (`Runs.exists_matches`), as long as
`R` relates the buses that they open at the same time and the host respects `R`.
What scripts queue on the way is the same to the letter, whatever was queued
before (`Sheet.QueueAlike`).

For two passes from scratch such a relation is at hand: it relates the buses
that are opened in the same place (`Shifted`), and it is one to one. So a host
that treats buses as mere names gives both sheets the same values up to a
renaming of buses (`sameValues_pass`).
-/

namespace SoundSheet

open SoundSheet.Script SoundSheet.Formula SoundSheet.Sheet

/-! ## Sheets that match -/

/-- **Slots that match**: both are in the same state, with matching values. -/
inductive Slot.Matches (R : BusId → BusId → Prop) : Slot → Slot → Prop
  | unevaluated : Matches R .unevaluated .unevaluated
  | evaluating : Matches R .evaluating .evaluating
  | evaluated {v w : CellValue} (h : v.Matches R w) : Matches R (.evaluated v) (.evaluated w)

/-- **Sheets that match along `R`**: the same raw texts in the same setting,
slots that match, and buses to come that are related. -/
structure Sheet.Matches (R : BusId → BusId → Prop) (s t : Sheet) : Prop where
  /-- The raw texts are the same. -/
  raw : ∀ a, t.raw? a = s.raw? a
  /-- The setting is the same. -/
  setting : t.setting = s.setting
  /-- The slots match. -/
  slot : ∀ a, Option.Rel (Slot.Matches R) (s.slot? a) (t.slot? a)
  /-- The buses that are opened from now on are related. -/
  bus : ∀ k, R (s.board.fresh + k) (t.board.fresh + k)

namespace Sheet.Matches

variable {R : BusId → BusId → Prop} {s t : Sheet}

theorem slot?_eq_none (h : s.Matches R t) {a : Address} (ha : s.slot? a = none) :
    t.slot? a = none := by
  have hrel := h.slot a
  rw [ha] at hrel
  generalize t.slot? a = y at hrel
  cases hrel
  rfl

theorem exists_slot? (h : s.Matches R t) {a : Address} {x : Slot} (ha : s.slot? a = some x) :
    ∃ y, t.slot? a = some y ∧ x.Matches R y := by
  have hrel := h.slot a
  rw [ha] at hrel
  generalize t.slot? a = y at hrel
  cases hrel with
  | some hxy => exact ⟨_, rfl, hxy⟩

/-- Slots that match may be put on a cell of both sheets. -/
theorem setSlot (h : s.Matches R t) (a : Address) {x y : Slot} (hxy : x.Matches R y) :
    (s.setSlot a x).Matches R (t.setSlot a y) := by
  refine ⟨fun b => ?_, h.setting, fun b => ?_, h.bus⟩
  · rw [raw?_setSlot, raw?_setSlot, h.raw]
  · rw [slot?_setSlot, slot?_setSlot]
    have hrel := h.slot b
    by_cases hab : a = b
    · rw [if_pos hab, if_pos hab]
      generalize s.slot? b = u at hrel
      generalize t.slot? b = w at hrel
      cases hrel with
      | none => exact .none
      | some _ => exact .some hxy
    · rwa [if_neg hab, if_neg hab]

/-- Both sheets open a bus. -/
theorem openBus (h : s.Matches R t) :
    Sheet.Matches R { s with board := s.board.openBus } { t with board := t.board.openBus } := by
  refine ⟨h.raw, h.setting, h.slot, fun k => ?_⟩
  have hfresh : ∀ board : Switchboard, board.openBus.fresh + k = board.fresh + (k + 1) := by
    intro board
    show (board.buses.push []).size + k = board.buses.size + (k + 1)
    rw [Array.size_push]
    omega
  rw [hfresh, hfresh]
  exact h.bus (k + 1)

/-- Scripts leave the same behind on both sheets. -/
theorem emit (h : s.Matches R t) {writes : List Write} {events : List SoundEvent} :
    Sheet.Matches R { s with writes := s.writes ++ writes, events := s.events ++ events }
      { t with writes := t.writes ++ writes, events := t.events ++ events } :=
  ⟨h.raw, h.setting, h.slot, h.bus⟩

end Sheet.Matches

/-- **The same is queued side by side**: from `s` on to `t` the writes that are
added are those that are added from `s'` on to `t'`. -/
def Sheet.QueueAlike (s s' t t' : Sheet) : Prop :=
  ∃ writes, t.writes = s.writes ++ writes ∧ t'.writes = s'.writes ++ writes

namespace Sheet.QueueAlike

variable {s s' t t' u u' : Sheet}

/-- Where no write is added, the same is queued. -/
theorem of_writes_eq (h : t.writes = s.writes) (h' : t'.writes = s'.writes) :
    QueueAlike s s' t t' :=
  ⟨[], by rw [h, List.append_nil], by rw [h', List.append_nil]⟩

theorem trans (h : QueueAlike s s' t t') (h' : QueueAlike t t' u u') :
    QueueAlike s s' u u' := by
  obtain ⟨first, hs, hs'⟩ := h
  obtain ⟨second, ht, ht'⟩ := h'
  refine ⟨first ++ second, ?_, ?_⟩
  · rw [ht, hs, List.append_assoc]
  · rw [ht', hs', List.append_assoc]

end Sheet.QueueAlike

/-! ## Runs side by side -/

/-- **Plans that match run alike on sheets that match.** -/
theorem Runs.exists_matches {R : BusId → BusId → Prop} {α : Type} {p : Plan α} {s t : Sheet}
    {r : Except FormulaError α} (h : Runs p s r t) :
    ∀ {β : Type} {A : α → β → Prop} {q : Plan β} {s' : Sheet}, s.host.Respects R →
      p.Matches R A q → s.Matches R s' →
        ∃ r' t', Runs q s' r' t' ∧ ResultMatches A r r' ∧ t.Matches R t'
          ∧ QueueAlike s s' t t' := by
  induction h with
  | done a s =>
    intro β A q s' hhost hmatch hs
    cases hmatch with
    | @done _ b hab => exact ⟨_, _, .done b s', .ok hab, hs, .of_writes_eq rfl rfl⟩
  | fail e s =>
    intro β A q s' hhost hmatch hs
    cases hmatch
    exact ⟨_, _, .fail e s', .error e, hs, .of_writes_eq rfl rfl⟩
  | outside hcell _ ih =>
    intro β A q s' hhost hmatch hs
    cases hmatch with
    | read _ hnext =>
      obtain ⟨r', t', hrun, hr, ht⟩ := ih hhost (hnext _ _ (.error _)) hs
      exact ⟨r', t', .outside (hs.slot?_eq_none hcell) hrun, hr, ht⟩
  | marked hcell _ ih =>
    intro β A q s' hhost hmatch hs
    cases hmatch with
    | read _ hnext =>
      obtain ⟨y, hcell', hy⟩ := hs.exists_slot? hcell
      cases hy
      obtain ⟨r', t', hrun, hr, ht⟩ := ih hhost (hnext _ _ (.error _)) hs
      exact ⟨r', t', .marked hcell' hrun, hr, ht⟩
  | known hcell _ ih =>
    intro β A q s' hhost hmatch hs
    cases hmatch with
    | read _ hnext =>
      obtain ⟨y, hcell', hy⟩ := hs.exists_slot? hcell
      cases hy with
      | evaluated hvw =>
        obtain ⟨r', t', hrun, hr, ht⟩ := ih hhost (hnext _ _ (.ok hvw)) hs
        exact ⟨r', t', .known hcell' hrun, hr, ht⟩
  | @fresh _ cell _ s s₁ t _ raw r₁ hcell hraw hformula _ ihformula ihnext =>
    intro β A q s' hhost hmatch hs
    cases hmatch with
    | read _ hnext =>
      obtain ⟨y, hcell', hy⟩ := hs.exists_slot? hcell
      cases hy
      -- the cell has the same raw text on both sheets, and its run matches itself
      have hself : (runRaw s.setting cell raw).Matches R (CellValue.Matches R)
          (runRaw s'.setting cell raw) := by
        rw [hs.setting]
        exact matches_runRaw hhost cell raw
      obtain ⟨r₁', s₁', hformula', hr₁, hs₁, hqueue⟩ :=
        ihformula hhost hself (hs.setSlot cell .evaluating)
      have hvalue : (valueOf r₁).Matches R (valueOf r₁') := hr₁.valueOf
      have hhost₁ : s₁.host.Respects R := hformula.fills.host ▸ hhost
      obtain ⟨r', t', hrun, hr, ht, hlater⟩ :=
        ihnext hhost₁ (hnext _ _ (.ok hvalue)) (hs₁.setSlot cell (.evaluated hvalue))
      -- to store the value of the cell queues nothing
      have hlater : QueueAlike s₁ s₁' t t' := hlater
      exact ⟨r', t', .fresh hcell' ((hs.raw cell).trans hraw) hformula' hrun, hr, ht,
        hqueue.trans hlater⟩
  | openBus _ ih =>
    intro β A q s' hhost hmatch hs
    cases hmatch with
    | openBus hnext =>
      obtain ⟨r', t', hrun, hr, ht⟩ := ih hhost (hnext _ _ (hs.bus 0)) hs.openBus
      exact ⟨r', t', .openBus hrun, hr, ht⟩
  | emit _ ih =>
    intro β A q s' hhost hmatch hs
    cases hmatch with
    | emit writes events hnext =>
      obtain ⟨r', t', hrun, hr, ht, hqueue⟩ := ih hhost hnext hs.emit
      exact ⟨r', t', .emit hrun, hr, ht, .trans ⟨_, rfl, rfl⟩ hqueue⟩

namespace Sheet

section Matches

variable {R : BusId → BusId → Prop} {s t : Sheet}

theorem matches_lookup (hhost : s.host.Respects R) (h : s.Matches R t) (a : Address) :
    (s.lookup a).2.Matches R (t.lookup a).2 ∧ QueueAlike s t (s.lookup a).2 (t.lookup a).2 := by
  obtain ⟨r', t', hrun, -, ht⟩ := (runs_lookup a s).exists_matches hhost (.lookup a) h
  rw [lookup_eq_perform a t, hrun.perform_eq]
  exact ht

theorem matches_visit (cells : List Address) :
    ∀ {s t : Sheet}, s.host.Respects R → s.Matches R t →
      (s.visit cells).Matches R (t.visit cells)
        ∧ QueueAlike s t (s.visit cells) (t.visit cells) := by
  induction cells with
  | nil => exact fun _ h => ⟨h, .of_writes_eq rfl rfl⟩
  | cons a cells ih =>
    intro s t hhost h
    obtain ⟨hlookup, hqueue⟩ := matches_lookup hhost h a
    obtain ⟨hvisit, hlater⟩ := ih ((fills_lookup a s).host ▸ hhost) hlookup
    exact ⟨hvisit, hqueue.trans hlater⟩

end Matches

/-! ## Passes from scratch -/

/-- **Two sheets to be evaluated side by side**: the same raw texts in the same
shape and setting. -/
structure SameTexts (s t : Sheet) : Prop where
  /-- The raw texts are the same. -/
  raw : ∀ a, t.raw? a = s.raw? a
  /-- The rows are as many. -/
  rows : t.grid.rows = s.grid.rows
  /-- The columns are as many. -/
  cols : t.grid.cols = s.grid.cols
  /-- The setting is the same. -/
  setting : t.setting = s.setting

/-- **Passes of sheets with the same texts match** along every relation that
relates the buses they open, and the same is queued in them. -/
theorem matches_pass {R : BusId → BusId → Prop} {s t : Sheet} (h : s.SameTexts t)
    (hhost : s.host.Respects R) (hbus : ∀ k, R (s.board.fresh + k) (t.board.fresh + k)) :
    s.pass.Matches R t.pass ∧ QueueAlike s t s.pass t.pass := by
  have hstart : s.forgetValues.Matches R t.forgetValues := by
    refine ⟨fun a => ?_, h.setting, fun a => ?_, hbus⟩
    · rw [raw?_forgetValues, raw?_forgetValues, h.raw]
    · rw [slot?_forgetValues, slot?_forgetValues, h.raw]
      cases s.raw? a with
      | none => exact .none
      | some raw => exact .some .unevaluated
  have haddresses : t.grid.addresses = s.grid.addresses := by
    rw [Grid.addresses, h.rows, h.cols, ← Grid.addresses]
  rw [pass, pass, haddresses]
  exact matches_visit s.grid.addresses hhost hstart

/-- **Buses opened in the same place**, after `n` buses and after `m`. -/
def Shifted (n m : Nat) : BusId → BusId → Prop :=
  fun a b => ∃ k, a = n + k ∧ b = m + k

theorem biUnique_shifted (n m : Nat) : Relator.BiUnique (Shifted n m) := by
  constructor
  · rintro a b c ⟨k, rfl, rfl⟩ ⟨k', rfl, hk⟩
    rw [Nat.add_left_cancel hk]
  · rintro a b c ⟨k, rfl, rfl⟩ ⟨k', hk, rfl⟩
    rw [Nat.add_left_cancel hk]

/-- **The same stored values up to a renaming of buses**: one renaming for the
whole grid. -/
def SameValues (s t : Sheet) : Prop :=
  ∃ R, Relator.BiUnique R ∧ ∀ a, Option.Rel (CellValue.Matches R) (s.value? a) (t.value? a)

theorem Matches.value?_rel {R : BusId → BusId → Prop} {s t : Sheet} (h : s.Matches R t)
    (a : Address) : Option.Rel (CellValue.Matches R) (s.value? a) (t.value? a) := by
  have hrel := h.slot a
  unfold value?
  generalize s.slot? a = x at hrel
  generalize t.slot? a = y at hrel
  cases hrel with
  | none => exact .none
  | some hxy =>
    cases hxy with
    | unevaluated => exact .none
    | evaluating => exact .none
    | evaluated hvw => exact .some hvw

/-- **Passes from scratch give the same values**, whatever buses there were
before. -/
theorem sameValues_pass {s t : Sheet} (h : s.SameTexts t) (hhost : s.host.RespectsRenaming) :
    s.pass.SameValues t.pass := by
  have hunique := biUnique_shifted s.board.fresh t.board.fresh
  exact ⟨_, hunique, (matches_pass h (hhost _ hunique) fun k => ⟨k, rfl, rfl⟩).1.value?_rel⟩

/-- **Passes from scratch queue the same**, whatever buses there were before. -/
theorem queueAlike_pass {s t : Sheet} (h : s.SameTexts t) (hhost : s.host.RespectsRenaming) :
    QueueAlike s t s.pass t.pass :=
  (matches_pass h (hhost _ (biUnique_shifted s.board.fresh t.board.fresh))
    fun k => ⟨k, rfl, rfl⟩).2

end Sheet

end SoundSheet
