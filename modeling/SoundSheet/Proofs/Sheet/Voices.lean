import SoundSheet.Proofs.Sheet.Buses

/-!
# Voices after an evaluation

An evaluation of all cells ends with a pass, and a pass starts without values.
So afterwards the cells share the buses of this last pass as they should
(`Sheet.Shares`), and these were opened after all those that cells have held
before.

What cells held before has been opened on whatever way the sheet has come about,
if no host has ever returned a musical object: `Sheet.Accounted` holds of a new
sheet and is kept by every operation. The main statement puts both together
(`dealsBuses_evaluateAll`).
-/

namespace SoundSheet

open SoundSheet.Script SoundSheet.Formula

namespace Sheet

/-! ## Passes -/

theorem board_storeAll (writes : List Write) :
    ∀ s : Sheet, (storeAll writes s).2.board = s.board := by
  induction writes with
  | nil => exact fun _ => rfl
  | cons w writes ih =>
    intro s
    rw [storeAll_cons]
    refine (ih _).trans ?_
    rcases s.store_eq_or w with hstore | hstore
    · rw [hstore]
    · rw [hstore]
      rfl

/-- Without values no bus is held. -/
theorem AllUnevaluated.holdsOpened {s : Sheet} (h : s.AllUnevaluated) : s.HoldsOpened := by
  intro a bus hbus
  obtain ⟨v, hv, -⟩ := hbus
  exact nomatch h a _ hv

section Pass

variable {s u : Sheet} (hhost : s.host.ReturnsNoMusic)

include hhost

theorem opens_pass : Opens s.forgetValues s.pass :=
  (s.runs_pass.opens hhost s.allUnevaluated_forgetValues.holdsOpened).1

/-- **After a pass the cells share their buses as they should.** -/
theorem shares_pass : s.pass.Shares :=
  s.runs_pass.shares hhost s.allUnevaluated_forgetValues.holdsOpened
    (.ofAllUnevaluated s.allUnevaluated_forgetValues)

/-- Passes whose writes are stored open buses and close none. -/
theorem Rewritten.board (h : Rewritten s u) :
    u.host.ReturnsNoMusic ∧ s.board.fresh ≤ u.board.fresh := by
  induction h with
  | refl => exact ⟨hhost, Nat.le_refl _⟩
  | @pass u _ ih =>
    obtain ⟨hu, hfresh⟩ := ih
    have hboard : u.pass.storeWrites.2.board = u.pass.board := board_storeAll u.pass.writes _
    have hsetting : u.pass.storeWrites.2.setting = u.setting :=
      (setting_storeAll u.pass.writes _).trans u.fills_pass.setting
    refine ⟨?_, ?_⟩
    · rw [show u.pass.storeWrites.2.host = u.host from congrArg Setting.host hsetting]
      exact hu
    · rw [hboard]
      exact hfresh.trans (opens_pass hu).fresh_le

end Pass

/-! ## Operations -/

/-- **A sheet whose buses are accounted for**: its host returns no musical
object, and the buses that its cells hold have been opened. -/
structure Accounted (s : Sheet) : Prop where
  /-- Its host returns no musical object. -/
  host : s.host.ReturnsNoMusic
  /-- All buses that cells hold have been opened. -/
  opened : s.HoldsOpened

namespace Accounted

variable {s : Sheet}

/-- A sheet with fewer values holds fewer buses. -/
theorem congr {t : Sheet} (h : s.Accounted) (hhost : t.host = s.host)
    (hhas : ∀ a v, t.Has a v → s.Has a v) (hfresh : s.board.fresh ≤ t.board.fresh) :
    t.Accounted := by
  refine ⟨hhost ▸ h.host, fun a bus hbus => ?_⟩
  obtain ⟨v, hv, hbus⟩ := hbus
  exact Nat.lt_of_lt_of_le (h.opened a bus ⟨v, hhas a v hv, hbus⟩) hfresh

theorem ofAllUnevaluated (h : s.AllUnevaluated) (hhost : s.host.ReturnsNoMusic) :
    s.Accounted :=
  ⟨hhost, h.holdsOpened⟩

theorem runs (h : s.Accounted) {α : Type} {p : Plan α} {t : Sheet} {r : Except FormulaError α}
    (hrun : Runs p s r t) : t.Accounted := by
  refine ⟨?_, (hrun.opens h.host h.opened).1.opened⟩
  rw [hrun.fills.host]
  exact h.host

theorem evaluateAll (h : s.host.ReturnsNoMusic) : s.evaluateAll.Accounted := by
  obtain ⟨u, hu, heq⟩ := s.exists_rewritten_evaluateAll
  obtain ⟨hhost, -⟩ := hu.board h
  have hpass := (ofAllUnevaluated u.allUnevaluated_forgetValues hhost).runs u.runs_pass
  rw [heq]
  exact hpass.congr rfl (fun _ _ hv => hv) (Nat.le_refl _)

theorem evaluateCell (h : s.Accounted) (a : Address) : (s.evaluateCell a).2.Accounted := by
  rcases s.evaluateCell_cases a with hsame | ⟨raw, slot, r₁, s₁, -, -, hformula, hstore⟩
  · rw [hsame]
    exact h
  have hopened := h.opened.mark a
  have horigin := hformula.busOrigin h.host h.host hopened
  rw [hstore]
  refine ⟨?_, ((hformula.opens h.host hopened).1.store horigin).opened⟩
  show s₁.host.ReturnsNoMusic
  rw [hformula.fills.host]
  exact h.host

/-- **Every operation keeps the buses accounted for**, if it brings in no host
that returns a musical object. -/
theorem apply (h : s.Accounted) (op : Operation)
    (hop : ∀ host, op = .setHost host → host.ReturnsNoMusic) : (op.apply s).Accounted := by
  cases op with
  | reset rows cols => exact .ofAllUnevaluated (s.allUnevaluated_reset rows cols) h.host
  | setRows rows evaluate =>
    cases evaluate with
    | false => exact .ofAllUnevaluated (s.allUnevaluated_setRows rows) h.host
    | true =>
      show (s.setRows rows).evaluateAll.Accounted
      exact .evaluateAll h.host
  | enter a text =>
    show ((s.enter a text).toOption.getD s).Accounted
    rcases s.enter_cases a text with hout | hin
    · rw [hout]
      exact h
    · rw [hin]
      refine h.congr rfl (fun b v hb => ?_) (Nat.le_refl _)
      obtain ⟨cell, hcell, hslot⟩ := Option.map_eq_some_iff.mp hb
      rcases unevaluated_or_get?_of_enter hcell with hnew | hold
      · rw [hnew] at hslot
        exact nomatch hslot
      · exact Option.map_eq_some_iff.mpr ⟨cell, hold, hslot⟩
  | setHost host => exact ⟨hop host rfl, h.opened⟩
  | evaluateCell a => exact h.evaluateCell a
  | ask q =>
    obtain ⟨α, p, r, t, writes, hrun, heq⟩ := s.exists_runs_answer q
    show (s.answer q).Accounted
    rw [heq]
    exact (h.runs hrun).congr rfl (fun _ _ hv => hv) (Nat.le_refl _)
  | evaluateAll => exact .evaluateAll h.host
  | subscribe bus l =>
    refine h.congr rfl (fun _ _ hv => hv) (Nat.le_of_eq ?_)
    exact (Switchboard.fresh_setListeners _ _ _).symm
  | trigger bus value =>
    refine h.congr rfl (fun _ _ hv => hv) (Nat.le_of_eq ?_)
    exact (Switchboard.fresh_setListeners _ _ _).symm
  | setTempo _ | setTime _ | takeEvents => exact h.congr rfl (fun _ _ hv => hv) (Nat.le_refl _)

theorem operateAll (ops : List Operation) : ∀ {s : Sheet}, s.Accounted →
    (∀ host, .setHost host ∈ ops → host.ReturnsNoMusic) → (s.operateAll ops).Accounted := by
  induction ops with
  | nil => exact fun h _ => h
  | cons op ops ih =>
    intro s h hops
    refine ih (h.apply op fun host heq => hops host ?_) fun host hmem => hops host ?_
    · exact heq ▸ List.mem_cons_self
    · exact List.mem_cons_of_mem _ hmem

end Accounted

/-! ## The buses of an evaluation -/

/-- **How the evaluation of all cells deals out buses**, when it leads from `s`
to `t`. -/
structure DealsBuses (s t : Sheet) : Prop where
  /-- The beats and sequences of different cells have different buses. -/
  distinct : ∀ a b v w bus, t.value? a = some v → t.value? b = some w →
    v.triggerBus? = some bus → w.triggerBus? = some bus → a = b
  /-- A voice whose second argument is a cell is bound to the bus of the beat or
  sequence in that cell. -/
  shared : ∀ a raw name cell voice, t.raw? a = some raw →
    (body? raw).bind sourceArgument? = some (.cell name) → Address.parse? name = some cell →
      t.value? a = some (.music (.audio voice)) →
        ∃ w, t.value? cell = some w ∧ w.triggerBus? = some voice.source
  /-- A voice whose second argument is a call has a bus that no other cell
  holds. -/
  nested : ∀ a raw source voice, t.raw? a = some raw →
    (body? raw).bind sourceArgument? = some (.call source) →
      t.value? a = some (.music (.audio voice)) →
        ∀ b v, t.value? b = some v → v.bus? = some voice.source → b = a
  /-- There are no other voices. -/
  bound : ∀ a voice, t.value? a = some (.music (.audio voice)) →
    ∃ raw, t.raw? a = some raw
      ∧ ((∃ name cell, (body? raw).bind sourceArgument? = some (.cell name)
          ∧ Address.parse? name = some cell)
        ∨ ∃ source, (body? raw).bind sourceArgument? = some (.call source))
  /-- The buses have no listeners, and no cell has held them before. -/
  new : ∀ a v bus, t.value? a = some v → v.bus? = some bus →
    t.board.listeners bus = [] ∧ ∀ b w, s.value? b = some w → w.bus? ≠ some bus

/-- **Each evaluation gives each trigger cell one bus that all its voices
share.** -/
theorem dealsBuses_evaluateAll (rows cols : Nat) (host : Host) (ops : List Operation)
    (hhost : host.ReturnsNoMusic) (hops : ∀ h, .setHost h ∈ ops → h.ReturnsNoMusic) :
    DealsBuses ((Sheet.new rows cols host).operateAll ops)
      ((Sheet.new rows cols host).operateAll ops).evaluateAll := by
  have hnew : (Sheet.new rows cols host).Accounted :=
    .ofAllUnevaluated (allUnevaluated_reset (Sheet.new rows cols host) rows cols) hhost
  have hs := hnew.operateAll ops hops
  generalize (Sheet.new rows cols host).operateAll ops = s at hs
  obtain ⟨u, hu, heq⟩ := s.exists_rewritten_evaluateAll
  obtain ⟨huhost, hfresh⟩ := hu.board hs.host
  have hopens := opens_pass huhost
  have hshares := shares_pass huhost
  rw [heq]
  have hbound : ∀ a raw voice, u.pass.raw? a = some raw →
      u.pass.Has a (.music (.audio voice)) →
        (∃ name cell w, (body? raw).bind sourceArgument? = some (.cell name)
            ∧ Address.parse? name = some cell ∧ u.pass.Has cell w
            ∧ w.triggerBus? = some voice.source)
          ∨ ∃ source, (body? raw).bind sourceArgument? = some (.call source)
            ∧ ∀ b, u.pass.Holds b voice.source → b = a := by
    intro a raw voice hraw hvoice
    obtain ⟨raw', hraw', horigin⟩ := hshares.bound a voice hvoice
    obtain rfl := Option.some.inj (hraw.symm.trans hraw')
    exact horigin.voice_cases
  refine ⟨fun a b v w bus hv hw => ?_, fun a raw name cell voice hraw hargument hname hvoice => ?_,
    fun a raw source voice hraw hargument hvoice b v hv hbus => ?_, fun a voice hvoice => ?_,
    fun a v bus hv hbus => ?_⟩
  · exact hshares.distinct a b v w bus (value?_eq_some_iff.mp hv) (value?_eq_some_iff.mp hw)
  · rcases hbound a raw voice hraw (value?_eq_some_iff.mp hvoice) with
      ⟨name', cell', w, hargument', hname', hread, hbus⟩ | ⟨source, hargument', -⟩
    · cases hargument.symm.trans hargument'
      obtain rfl := Option.some.inj (hname.symm.trans hname')
      exact ⟨w, value?_eq_some_iff.mpr hread, hbus⟩
    · cases hargument.symm.trans hargument'
  · rcases hbound a raw voice hraw (value?_eq_some_iff.mp hvoice) with
      ⟨name, cell, w, hargument', -⟩ | ⟨source', -, honly⟩
    · cases hargument.symm.trans hargument'
    · exact honly b ⟨v, value?_eq_some_iff.mp hv, hbus⟩
  · obtain ⟨raw, hraw, horigin⟩ := hshares.bound a voice (value?_eq_some_iff.mp hvoice)
    refine ⟨raw, hraw, ?_⟩
    rcases horigin.voice_cases with ⟨name, cell, w, hargument, hname, -⟩ | ⟨source, hargument, -⟩
    · exact .inl ⟨name, cell, hargument, hname⟩
    · exact .inr ⟨source, hargument⟩
  · -- before the last pass no cell holds a bus, so this one is later than all from before
    have hle : u.board.fresh ≤ bus := by
      rcases hopens.held a bus ⟨v, value?_eq_some_iff.mp hv, hbus⟩ with ⟨b, w, hw, -⟩ | hle
      · exact nomatch u.allUnevaluated_forgetValues b _ hw
      · exact hle
    refine ⟨(hopens.listeners bus).trans (Switchboard.listeners_of_fresh_le hle),
      fun b w hw hbus' => ?_⟩
    have hlt := hs.opened b bus ⟨w, value?_eq_some_iff.mp hw, hbus'⟩
    exact absurd hlt (Nat.not_lt.mpr (hfresh.trans hle))

/-- A sheet with a voice above the beat that it names, evaluated once. -/
def voiceAboveBeat : Sheet :=
  (Sheet.new 0 0 plainHost).operateAll
    [.setRows [["=AUDIO(440, A2)"], ["=BEAT(120, x)"]] true]

/-- Evaluated once more, the voice is bound to the new bus of the beat. -/
theorem dealsBuses_voiceAboveBeat :
    plainHost.ReturnsNoMusic
      ∧ (∀ h, .setHost h ∈ [Operation.setRows [["=AUDIO(440, A2)"], ["=BEAT(120, x)"]] true] →
          h.ReturnsNoMusic)
      ∧ DealsBuses voiceAboveBeat voiceAboveBeat.evaluateAll
      ∧ voiceAboveBeat.evaluateAll.value? ⟨0, 0⟩ = some (.music (.audio ⟨440, "sine", 1⟩))
      ∧ ∃ w, voiceAboveBeat.evaluateAll.value? ⟨1, 0⟩ = some w ∧ w.triggerBus? = some 1 := by
  have hhost : plainHost.ReturnsNoMusic := returnsNoMusic_plainHost
  have hops : ∀ h, .setHost h ∈ [Operation.setRows [["=AUDIO(440, A2)"], ["=BEAT(120, x)"]] true] →
      h.ReturnsNoMusic := by
    intro h hmem
    exact nomatch List.mem_singleton.mp hmem
  have hdeals : DealsBuses voiceAboveBeat voiceAboveBeat.evaluateAll :=
    dealsBuses_evaluateAll 0 0 plainHost _ hhost hops
  have hvoice : voiceAboveBeat.evaluateAll.value? ⟨0, 0⟩
      = some (.music (.audio ⟨440, "sine", 1⟩)) := by decide +kernel
  refine ⟨hhost, hops, hdeals, hvoice, ?_⟩
  exact hdeals.shared ⟨0, 0⟩ "=AUDIO(440, A2)" _ ⟨1, 0⟩ _ rfl rfl rfl hvoice

end Sheet

end SoundSheet
