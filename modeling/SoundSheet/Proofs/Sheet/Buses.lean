import SoundSheet.Proofs.Bus.Origin
import SoundSheet.Proofs.Sheet.Orderly

/-!
# One bus for each trigger

A pass computes every cell once, so a beat or a sequence opens one bus, and all
voices that name its cell are bound to that bus, wherever they stand in the
grid. A voice whose trigger is a call of its own has a bus to itself. And the
buses are new ones: nobody has subscribed to them yet, and no value from before
the pass has them.

While a pass is under way, a bus that the running formula has opened is held by
no cell (`Sheet.Private`). It will be held by the one cell whose formula that
is, as soon as the formula has ended. What a run does to the buses is the
relation `Opens`; that the cells share their buses as they should is the
invariant `Sheet.Shares`. Both go by the origin of the bus of a value that is
stored (`BusOrigin`).
-/

namespace SoundSheet

open SoundSheet.Script SoundSheet.Formula SoundSheet.Sheet

/-! ## The switchboard -/

namespace Switchboard

@[simp] theorem fresh_openBus (b : Switchboard) : b.openBus.fresh = b.fresh + 1 :=
  Array.size_push _

/-- A new bus has no listeners, and neither has one that is not there. -/
@[simp] theorem listeners_openBus (b : Switchboard) (bus : BusId) :
    b.openBus.listeners bus = b.listeners bus := by
  unfold listeners openBus
  rw [Array.getElem?_push]
  split
  · next h => rw [h, Array.getElem?_eq_none (Nat.le_refl _)]; rfl
  · rfl

theorem listeners_of_fresh_le {b : Switchboard} {bus : BusId} (h : b.fresh ≤ bus) :
    b.listeners bus = [] := by
  unfold listeners
  rw [Array.getElem?_eq_none h]
  rfl

theorem fresh_setListeners (b : Switchboard) (bus : BusId) (listeners : List Listener) :
    (b.setListeners bus listeners).fresh = b.fresh :=
  Array.size_setIfInBounds

end Switchboard

/-- A value that triggers a bus has it. -/
theorem CellValue.bus?_of_triggerBus? {v : CellValue} {bus : BusId}
    (h : v.triggerBus? = some bus) : v.bus? = some bus := by
  unfold bus?
  split
  · exact nomatch h
  · exact h

namespace Sheet

/-! ## Who holds a bus -/

/-- The cell has this value. -/
abbrev Has (s : Sheet) (a : Address) (v : CellValue) : Prop :=
  s.slot? a = some (.evaluated v)

/-- **The cell holds the bus**: it has a value with it. -/
def Holds (s : Sheet) (a : Address) (bus : BusId) : Prop :=
  ∃ v, s.Has a v ∧ v.bus? = some bus

/-- All buses that cells hold have been opened. -/
def HoldsOpened (s : Sheet) : Prop :=
  ∀ a bus, s.Holds a bus → bus < s.board.fresh

/-- **A bus that no cell holds**, opened when there were `n` buses already. -/
structure Private (s : Sheet) (n : Nat) (bus : BusId) : Prop where
  /-- It is not among the first `n` buses. -/
  le : n ≤ bus
  /-- It has been opened. -/
  lt : bus < s.board.fresh
  /-- No cell holds it. -/
  unheld : ∀ a, ¬s.Holds a bus

theorem HoldsOpened.mark {s : Sheet} (h : s.HoldsOpened) (a : Address) :
    (s.setSlot a .evaluating).HoldsOpened := by
  intro b bus hbus
  obtain ⟨v, hv, hbus⟩ := hbus
  exact h b bus ⟨v, slot?_evaluated_of_mark hv, hbus⟩

/-- A cell that is marked has no value that could be lost. -/
theorem Has.store {s : Sheet} {a b : Address} {v w : CellValue}
    (hslot : s.slot? a = some .evaluating) (h : s.Has b w) :
    (s.setSlot a (.evaluated v)).Has b w := by
  have hab : a ≠ b := by
    rintro rfl
    exact nomatch hslot.symm.trans h
  rwa [Has, slot?_setSlot_of_ne _ hab]

end Sheet

/-- The bus of a value that is about to be stored is one that a cell holds as
its trigger, or it is private. -/
theorem BusOrigin.held {s : Sheet} {n : Nat} {argument? : Option Argument} {v : CellValue}
    (h : BusOrigin s.Has (s.Private n) argument? v) {bus : BusId} (hbus : v.bus? = some bus) :
    (∃ a w, s.Has a w ∧ w.triggerBus? = some bus) ∨ s.Private n bus := by
  cases h with
  | none h => exact nomatch h.symm.trans hbus
  | own h hopened =>
    rw [CellValue.bus?_of_triggerBus? h] at hbus
    exact .inr (Option.some.inj hbus ▸ hopened)
  | shared _ _ hread htrigger =>
    obtain rfl := Option.some.inj hbus
    exact .inl ⟨_, _, hread, htrigger⟩
  | nested _ hopened => exact .inr (Option.some.inj hbus ▸ hopened)

/-- A formula that fails leads to a value without a bus. -/
theorem BusOrigin.valueOf {K : Address → CellValue → Prop} {O : BusId → Prop}
    {argument? : Option Argument} {r : Except FormulaError CellValue}
    (h : ∀ v, r = .ok v → BusOrigin K O argument? v) :
    BusOrigin K O argument? (Sheet.valueOf r) := by
  cases r with
  | error e => exact .none rfl
  | ok v => exact h v rfl

/-! ## What a run does to the buses -/

/-- **From `s` to `t` some buses have been opened**, and the cells hold only
those that cells have held in `s` and such as were opened. -/
structure Opens (s t : Sheet) : Prop where
  /-- No bus is closed. -/
  fresh_le : s.board.fresh ≤ t.board.fresh
  /-- Listeners stay, and new buses have none. -/
  listeners : ∀ bus, t.board.listeners bus = s.board.listeners bus
  /-- All buses that cells hold have been opened. -/
  opened : t.HoldsOpened
  /-- A bus that was there before is held by a cell now if one has held it
  then. -/
  held : ∀ a bus, t.Holds a bus → (∃ b, s.Holds b bus) ∨ s.board.fresh ≤ bus

namespace Opens

variable {s t u : Sheet}

theorem refl (hs : s.HoldsOpened) : Opens s s :=
  ⟨Nat.le_refl _, fun _ => rfl, hs, fun a _ h => .inl ⟨a, h⟩⟩

theorem trans (h : Opens s t) (h' : Opens t u) : Opens s u := by
  refine ⟨h.fresh_le.trans h'.fresh_le, fun bus => (h'.listeners bus).trans (h.listeners bus),
    h'.opened, fun a bus hbus => ?_⟩
  rcases h'.held a bus hbus with ⟨b, hb⟩ | hle
  · exact h.held b bus hb
  · exact .inr (h.fresh_le.trans hle)

/-- **A value that is stored after the run of its formula** brings in a bus of
that run or one that another cell holds already. -/
theorem store {a : Address} {v : CellValue} {argument? : Option Argument}
    (h : Opens (s.setSlot a .evaluating) t)
    (hv : BusOrigin t.Has (t.Private s.board.fresh) argument? v) :
    Opens s (t.setSlot a (.evaluated v)) := by
  have hmark : ∀ b bus, t.Holds b bus → (∃ c, s.Holds c bus) ∨ s.board.fresh ≤ bus := by
    intro b bus hbus
    refine (h.held b bus hbus).imp_left fun ⟨c, w, hw, hbus⟩ => ?_
    exact ⟨c, w, slot?_evaluated_of_mark hw, hbus⟩
  refine ⟨h.fresh_le, h.listeners, fun b bus hbus => ?_, fun b bus hbus => ?_⟩
  · obtain ⟨w, hw, hbus⟩ := hbus
    rcases slot?_evaluated_of_store hw with ⟨-, rfl⟩ | ⟨-, hw⟩
    · rcases hv.held hbus with ⟨c, w, hw, htrigger⟩ | hprivate
      · exact h.opened c bus ⟨w, hw, CellValue.bus?_of_triggerBus? htrigger⟩
      · exact hprivate.lt
    · exact h.opened b bus ⟨w, hw, hbus⟩
  · obtain ⟨w, hw, hbus⟩ := hbus
    rcases slot?_evaluated_of_store hw with ⟨-, rfl⟩ | ⟨-, hw⟩
    · rcases hv.held hbus with ⟨c, w, hw, htrigger⟩ | hprivate
      · exact hmark c bus ⟨w, hw, CellValue.bus?_of_triggerBus? htrigger⟩
      · exact .inr hprivate.le
    · exact hmark b bus ⟨w, hw, hbus⟩

end Opens

/-- **What a run does to the buses, and what it ends with**: what its plan
ensures if cells are answered with the values that they have in the end, and
buses are private in the end. -/
theorem Runs.opens {α : Type} {p : Plan α} {s t : Sheet} {r : Except FormulaError α}
    (h : Runs p s r t) (hhost : s.host.ReturnsNoMusic) (hs : s.HoldsOpened) :
    Opens s t ∧ ∀ n, n ≤ s.board.fresh → ∀ (P : α → Prop) (a : α), r = .ok a →
      p.Ensures t.Has (t.Private n) P → P a := by
  induction h with
  | done a s =>
    refine ⟨.refl hs, fun n _ P b hb hp => ?_⟩
    cases hb
    cases hp with
    | done h => exact h
  | fail e s => exact ⟨.refl hs, fun n _ P b hb _ => nomatch hb⟩
  | outside _ _ ih | marked _ _ ih =>
    obtain ⟨hopens, hend⟩ := ih hhost hs
    refine ⟨hopens, fun n hn P b hb hp => ?_⟩
    cases hp with
    | read h => exact hend n hn P b hb (h _ fun v hv => nomatch hv)
  | known hcell hnext ih =>
    obtain ⟨hopens, hend⟩ := ih hhost hs
    refine ⟨hopens, fun n hn P b hb hp => ?_⟩
    cases hp with
    | read h =>
      refine hend n hn P b hb (h _ fun v hv => ?_)
      cases hv
      exact hnext.fills.slot?_evaluated hcell
  | @fresh _ cell _ s s₁ t _ raw r₁ hcell hraw hformula hnext ihformula ihnext =>
    obtain ⟨hopens₁, hend₁⟩ := ihformula hhost (hs.mark cell)
    have hmark := (hformula.fills.slot?_evaluating_iff cell).mpr (slot?_setSlot_self _ hcell)
    have horigin : BusOrigin s₁.Has (s₁.Private s.board.fresh)
        ((body? raw).bind sourceArgument?) (valueOf r₁) :=
      .valueOf fun v hv => hend₁ _ (Nat.le_refl _) _ v hv (ensures_runRaw hhost cell raw)
    have hopens₂ := hopens₁.store horigin
    have hhost₂ : (s₁.setSlot cell (.evaluated (valueOf r₁))).host.ReturnsNoMusic := by
      have : s₁.host = s.host := hformula.fills.host
      show s₁.host.ReturnsNoMusic
      rwa [this]
    obtain ⟨hopens, hend⟩ := ihnext hhost₂ hopens₂.opened
    refine ⟨hopens₂.trans hopens, fun n hn P b hb hp => ?_⟩
    cases hp with
    | read h =>
      refine hend n (hn.trans hopens₂.fresh_le) P b hb (h _ fun v hv => ?_)
      cases hv
      exact hnext.fills.slot?_evaluated (slot?_setSlot_self _ hmark)
  | @openBus _ _ s t _ hnext ih =>
    have hle : s.board.fresh ≤ s.board.openBus.fresh := by
      rw [Switchboard.fresh_openBus]
      exact Nat.le_succ _
    obtain ⟨hopens, hend⟩ := ih hhost fun a bus hbus => Nat.lt_of_lt_of_le (hs a bus hbus) hle
    have hfresh := hopens.fresh_le
    refine ⟨⟨hle.trans hfresh, fun bus => ?_, hopens.opened, fun a bus hbus => ?_⟩,
      fun n hn P b hb hp => ?_⟩
    · exact (hopens.listeners bus).trans (Switchboard.listeners_openBus _ _)
    · exact (hopens.held a bus hbus).imp_right hle.trans
    · cases hp with
      | openBus h =>
        refine hend n (hn.trans hle) P b hb (h _ ⟨hn, ?_, fun a ha => ?_⟩)
        · rw [Switchboard.fresh_openBus] at hfresh
          exact hfresh
        · -- held by a cell are older buses and those to come
          rcases hopens.held a _ ha with ⟨c, hc⟩ | hle
          · exact Nat.lt_irrefl _ (hs c _ hc)
          · rw [Switchboard.fresh_openBus] at hle
            exact Nat.lt_irrefl _ hle
  | @emit _ _ _ _ s t _ hnext ih =>
    obtain ⟨hopens, hend⟩ := ih hhost hs
    refine ⟨⟨hopens.fresh_le, hopens.listeners, hopens.opened, hopens.held⟩,
      fun n hn P b hb hp => ?_⟩
    cases hp with
    | emit h => exact hend n hn P b hb h

/-- **The bus of a value that a formula leads to** is private, or it is one that
the voice shares. -/
theorem Runs.busOrigin {a : Address} {raw : String} {s t : Sheet}
    {r : Except FormulaError CellValue} {setting : Setting}
    (h : Runs (runRaw setting a raw) s r t) (hsetting : setting.host.ReturnsNoMusic)
    (hhost : s.host.ReturnsNoMusic) (hs : s.HoldsOpened) :
    BusOrigin t.Has (t.Private s.board.fresh) ((body? raw).bind sourceArgument?) (valueOf r) :=
  .valueOf fun v hv =>
    (h.opens hhost hs).2 _ (Nat.le_refl _) _ v hv (ensures_runRaw hsetting a raw)

/-! ## Sharing -/

namespace Sheet

/-- **The cells share their buses as they should**: no two of them trigger one
bus, and a voice is bound to the bus of the cell that it names, or to one that
no other cell holds. -/
structure Shares (s : Sheet) : Prop where
  /-- Different cells trigger different buses. -/
  distinct : ∀ a b v w bus, s.Has a v → s.Has b w → v.triggerBus? = some bus →
    w.triggerBus? = some bus → a = b
  /-- Every voice is bound as its formula says. -/
  bound : ∀ a voice, s.Has a (.music (.audio voice)) → ∃ raw, s.raw? a = some raw
    ∧ BusOrigin s.Has (fun bus => ∀ b, s.Holds b bus → b = a)
        ((body? raw).bind sourceArgument?) (.music (.audio voice))

namespace Shares

variable {s t : Sheet}

/-- Without values there is nothing to share. -/
theorem ofAllUnevaluated (h : s.AllUnevaluated) : s.Shares :=
  ⟨fun a _ _ _ _ ha _ _ _ => (nomatch h a _ ha), fun a _ ha => nomatch h a _ ha⟩

/-- Sharing is a matter of values and raw texts. -/
theorem congr (h : s.Shares) (hslot : t.slot? = s.slot?) (hraw : t.raw? = s.raw?) :
    t.Shares := by
  have hhas : t.Has = s.Has := by
    funext a v
    rw [Has, Has, hslot]
  refine ⟨hhas ▸ h.distinct, fun a voice ha => ?_⟩
  rw [hhas] at ha
  obtain ⟨raw, hrawa, horigin⟩ := h.bound a voice ha
  refine ⟨raw, hraw ▸ hrawa, ?_⟩
  unfold Holds at horigin ⊢
  rwa [hhas]

/-- A cell without a value may be marked. -/
theorem mark (h : s.Shares) {a : Address} (ha : s.slot? a = some .unevaluated) :
    (s.setSlot a .evaluating).Shares := by
  have hhas : (s.setSlot a .evaluating).Has = s.Has := by
    funext b v
    refine propext ⟨slot?_evaluated_of_mark, fun hb => ?_⟩
    have hab : a ≠ b := by
      rintro rfl
      exact nomatch ha.symm.trans hb
    rwa [Has, slot?_setSlot_of_ne _ hab]
  refine ⟨hhas ▸ h.distinct, fun b voice hb => ?_⟩
  rw [hhas] at hb
  obtain ⟨raw, hraw, horigin⟩ := h.bound b voice hb
  refine ⟨raw, (raw?_setSlot ..).trans hraw, ?_⟩
  unfold Holds at horigin ⊢
  rwa [hhas]

/-- **A value may be stored** if its bus is private or one that the voice
shares. -/
theorem store (h : s.Shares) {a : Address} (hslot : s.slot? a = some .evaluating)
    {raw : String} (hraw : s.raw? a = some raw) {n : Nat} {v : CellValue}
    (hv : BusOrigin s.Has (s.Private n) ((body? raw).bind sourceArgument?) v) :
    (s.setSlot a (.evaluated v)).Shares := by
  -- the bus that the new value triggers is triggered by no other
  have hnew : ∀ {b w bus}, v.triggerBus? = some bus → s.Has b w → w.triggerBus? ≠ some bus :=
    fun htrigger hw hbus =>
      (hv.opened htrigger).unheld _ ⟨_, hw, CellValue.bus?_of_triggerBus? hbus⟩
  refine ⟨fun b c w w' bus hw hw' hbus hbus' => ?_, fun b voice hb => ?_⟩
  · rcases slot?_evaluated_of_store hw with ⟨rfl, rfl⟩ | ⟨-, hw⟩
    · rcases slot?_evaluated_of_store hw' with ⟨rfl, -⟩ | ⟨-, hw'⟩
      · rfl
      · exact absurd hbus' (hnew hbus hw')
    · rcases slot?_evaluated_of_store hw' with ⟨rfl, rfl⟩ | ⟨-, hw'⟩
      · exact absurd hbus (hnew hbus' hw)
      · exact h.distinct b c w w' bus hw hw' hbus hbus'
  rcases slot?_evaluated_of_store hb with ⟨rfl, rfl⟩ | ⟨-, hb⟩
  · refine ⟨raw, (raw?_setSlot ..).trans hraw, ?_⟩
    rcases hv.voice_cases with ⟨name, cell, w, hargument, hname, hread, hbus⟩
      | ⟨source, hargument, hopened⟩
    · exact .shared hargument hname (hread.store hslot) hbus
    · refine .nested hargument fun c hc => ?_
      obtain ⟨w, hw, hbus⟩ := hc
      rcases slot?_evaluated_of_store hw with ⟨rfl, -⟩ | ⟨-, hw⟩
      · rfl
      · exact absurd ⟨w, hw, hbus⟩ (hopened.unheld c)
  · obtain ⟨rawb, hrawb, horigin⟩ := h.bound b voice hb
    refine ⟨rawb, (raw?_setSlot ..).trans hrawb, ?_⟩
    rcases horigin.voice_cases with ⟨name, cell, w, hargument, hname, hread, hbus⟩
      | ⟨source, hargument, honly⟩
    · exact .shared hargument hname (hread.store hslot) hbus
    · refine .nested hargument fun c hc => ?_
      obtain ⟨w, hw, hbus⟩ := hc
      rcases slot?_evaluated_of_store hw with ⟨rfl, rfl⟩ | ⟨-, hw⟩
      · -- the new value would have to share the bus with a cell that triggers it
        rcases hv.held hbus with ⟨d, w, hw, htrigger⟩ | hprivate
        · obtain rfl := honly d ⟨w, hw, CellValue.bus?_of_triggerBus? htrigger⟩
          obtain rfl := Slot.evaluated.inj (Option.some.inj (hw.symm.trans hb))
          exact nomatch htrigger
        · exact absurd ⟨_, hb, rfl⟩ (hprivate.unheld b)
      · exact honly c ⟨w, hw, hbus⟩

end Shares

end Sheet

/-- **A run keeps the cells sharing their buses as they should.** -/
theorem Runs.shares {α : Type} {p : Plan α} {s t : Sheet} {r : Except FormulaError α}
    (h : Runs p s r t) (hhost : s.host.ReturnsNoMusic) (hs : s.HoldsOpened)
    (hshares : s.Shares) : t.Shares := by
  induction h with
  | done a s => exact hshares
  | fail e s => exact hshares
  | outside _ _ ih => exact ih hhost hs hshares
  | marked _ _ ih => exact ih hhost hs hshares
  | known _ _ ih => exact ih hhost hs hshares
  | @fresh _ cell _ s s₁ _ _ raw r₁ hcell hraw hformula _ ihformula ihnext =>
    have hmark := (hformula.fills.slot?_evaluating_iff cell).mpr (slot?_setSlot_self _ hcell)
    have hraw₁ : s₁.raw? cell = some raw := by
      rw [hformula.fills.raw, raw?_setSlot]
      exact hraw
    have horigin := hformula.busOrigin hhost hhost (hs.mark cell)
    have hopens := (hformula.opens hhost (hs.mark cell)).1.store horigin
    have hhost₁ : s₁.host = s.host := hformula.fills.host
    refine ihnext ?_ hopens.opened ?_
    · show s₁.host.ReturnsNoMusic
      rwa [hhost₁]
    · exact (ihformula hhost (hs.mark cell) (hshares.mark hcell)).store hmark hraw₁ horigin
  | @openBus _ _ s _ _ _ ih =>
    refine ih hhost (fun a bus hbus => ?_) (hshares.congr rfl rfl)
    show bus < s.board.openBus.fresh
    rw [Switchboard.fresh_openBus]
    exact Nat.lt_succ_of_lt (hs a bus hbus)
  | emit _ ih => exact ih hhost hs (hshares.congr rfl rfl)

end SoundSheet
