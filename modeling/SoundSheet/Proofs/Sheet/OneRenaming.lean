import SoundSheet.Proofs.Sheet.Buses
import SoundSheet.Proofs.Sheet.Renaming

/-!
# One renaming for the whole grid

Two sheets with the same raw texts may have been evaluated in different orders,
and then their buses bear different numbers. Suppose that the values of each
cell match when buses are left out of account. Then one renaming of the buses
makes all of them match at once, provided that both sheets share their buses as
they should (`sameValues_of_shares`).

For which cells have a bus in common is told by raw texts and values alone. A
value that triggers its bus is the source of it, and a voice has its bus from
the cell that its formula names (`Sheet.source?`), unless a call in the formula
has opened the bus for the voice, and then no other cell has it
(`Shares.source_cases`). So cells that have one bus on one sheet have one bus on
the other.
-/

namespace SoundSheet

open SoundSheet.Script SoundSheet.Formula SoundSheet.Sheet

namespace CellValue.Matches

variable {R : BusId → BusId → Prop} {v w : CellValue}

/-- Of two values that match, both trigger a bus or none does. -/
theorem isSome_triggerBus? (h : v.Matches R w) :
    v.triggerBus?.isSome = w.triggerBus?.isSome := by
  have hrel := h.triggerBus?_rel
  generalize v.triggerBus? = x at hrel
  generalize w.triggerBus? = y at hrel
  cases hrel <;> rfl

/-- **Values that match, buses apart, match along every relation** between their
buses. -/
theorem of_anyBus (h : v.Matches AnyBus w)
    (hbus : ∀ b d, v.bus? = some b → w.bus? = some d → R b d) : v.Matches R w := by
  cases h with
  | plain h => exact .plain h
  | beat b _ => exact .beat b (hbus _ _ rfl rfl)
  | sequence s _ => exact .sequence s (hbus _ _ rfl rfl)
  | audio v _ => exact .audio v (hbus _ _ rfl rfl)

end CellValue.Matches

namespace Sheet

/-! ## Sources -/

/-- The cell that a formula which calls for a voice names as its source. -/
def namedSource? (s : Sheet) (a : Address) : Option Address :=
  match ((s.raw? a).bind body?).bind sourceArgument? with
  | some (.cell name) => Address.parse? name
  | _ => none

/-- **The cell that a value in a cell has its bus from**: the cell itself if the
value triggers the bus, and else the one that the formula names. -/
def source? (s : Sheet) (a : Address) (v : CellValue) : Option Address :=
  if v.triggerBus?.isSome then some a else s.namedSource? a

/-- The source is a matter of raw texts and of values up to their buses. -/
theorem source?_eq_of_matches {s t : Sheet} (hraw : t.raw? = s.raw?) {R : BusId → BusId → Prop}
    {v w : CellValue} (h : v.Matches R w) (a : Address) : t.source? a w = s.source? a v := by
  rw [source?, source?, namedSource?, namedSource?, hraw, h.isSome_triggerBus?]

variable {s t : Sheet}

/-- **A value with a bus has it from its source, which triggers it, or no other
cell has it.** -/
theorem Shares.source_cases (h : s.Shares) {a : Address} {v : CellValue} (ha : s.Has a v)
    {bus : BusId} (hbus : v.bus? = some bus) :
    (∃ c w, s.source? a v = some c ∧ s.Has c w ∧ w.triggerBus? = some bus)
      ∨ (s.source? a v = none ∧ ∀ b, s.Holds b bus → b = a) := by
  unfold CellValue.bus? at hbus
  split at hbus
  · next voice =>
    obtain rfl := Option.some.inj hbus
    obtain ⟨raw, hraw, horigin⟩ := h.bound a voice ha
    have hsource : s.source? a (.music (.audio voice)) = s.namedSource? a := rfl
    rw [hsource, namedSource?, hraw, Option.bind_some]
    rcases horigin.voice_cases with ⟨name, c, w, hargument, hname, hw, htrigger⟩
      | ⟨source, hargument, honly⟩
    · rw [hargument]
      exact .inl ⟨c, w, hname, hw, htrigger⟩
    · rw [hargument]
      exact .inr ⟨rfl, honly⟩
  · refine .inl ⟨a, v, ?_, ha, hbus⟩
    rw [source?, hbus]
    rfl

/-- So a source that there is has a value that triggers the bus. -/
theorem Shares.has_source (h : s.Shares) {a c : Address} {v : CellValue} (ha : s.Has a v)
    {bus : BusId} (hbus : v.bus? = some bus) (hc : s.source? a v = some c) :
    ∃ w, s.Has c w ∧ w.triggerBus? = some bus := by
  rcases h.source_cases ha hbus with ⟨c', w, hc', hw, htrigger⟩ | ⟨hnone, -⟩
  · obtain rfl := Option.some.inj (hc.symm.trans hc')
    exact ⟨w, hw, htrigger⟩
  · exact nomatch hc.symm.trans hnone

/-! ## Buses that go together -/

/-- **Buses go together** if a cell has the one on the one sheet and the other
on the other. -/
def BusesTogether (s t : Sheet) (b d : BusId) : Prop :=
  ∃ a v w, s.Has a v ∧ t.Has a w ∧ v.bus? = some b ∧ w.bus? = some d

/-- **Cells that have one bus on one sheet have one bus on the other.** -/
theorem eq_of_busesTogether (hs : s.Shares) (ht : t.Shares) (hraw : t.raw? = s.raw?)
    (hmatch : ∀ a v w, s.Has a v → t.Has a w → v.Matches AnyBus w) {b d d' : BusId}
    (h : s.BusesTogether t b d) (h' : s.BusesTogether t b d') : d = d' := by
  obtain ⟨a, v, w, hv, hw, hb, hd⟩ := h
  obtain ⟨a', v', w', hv', hw', hb', hd'⟩ := h'
  have heq : a = a' → d = d' := by
    rintro rfl
    obtain rfl : w = w' := Slot.evaluated.inj (Option.some.inj (hw.symm.trans hw'))
    exact Option.some.inj (hd.symm.trans hd')
  rcases hs.source_cases hv hb with ⟨c, u, hc, hu, htrigger⟩ | ⟨-, honly⟩
  · rcases hs.source_cases hv' hb' with ⟨c', u', hc', hu', htrigger'⟩ | ⟨-, honly⟩
    · -- the source is the same on the one sheet, hence on the other
      obtain rfl := hs.distinct c c' u u' b hu hu' htrigger htrigger'
      have hsource := (source?_eq_of_matches hraw (hmatch a v w hv hw) a).trans hc
      have hsource' := (source?_eq_of_matches hraw (hmatch a' v' w' hv' hw') a').trans hc'
      obtain ⟨x, hx, hxd⟩ := ht.has_source hw hd hsource
      obtain ⟨x', hx', hxd'⟩ := ht.has_source hw' hd' hsource'
      obtain rfl : x = x' := Slot.evaluated.inj (Option.some.inj (hx.symm.trans hx'))
      exact Option.some.inj (hxd.symm.trans hxd')
    · exact heq (honly a ⟨v, hv, hb⟩)
  · exact heq (honly a' ⟨v', hv', hb'⟩).symm

/-- **One renaming for the whole grid.** Two sheets with the same raw texts
whose cells share their buses as they should have the same values up to a
renaming of buses, if the values of each cell are the same up to buses. -/
theorem sameValues_of_shares (hs : s.Shares) (ht : t.Shares) (hraw : t.raw? = s.raw?)
    (hvalues : ∀ a, Option.Rel (CellValue.Matches AnyBus) (s.value? a) (t.value? a)) :
    s.SameValues t := by
  have hmatch : ∀ a v w, s.Has a v → t.Has a w → v.Matches AnyBus w := by
    intro a v w hv hw
    have hrel := hvalues a
    rw [value?_eq_some_iff.mpr hv, value?_eq_some_iff.mpr hw] at hrel
    cases hrel with
    | some h => exact h
  have hmatch' : ∀ a v w, t.Has a v → s.Has a w → v.Matches AnyBus w :=
    fun a v w hv hw => (hmatch a w v hw hv).symm_anyBus
  have hswap : ∀ {b d}, s.BusesTogether t b d → t.BusesTogether s d b :=
    fun ⟨a, v, w, hv, hw, hb, hd⟩ => ⟨a, w, v, hw, hv, hd, hb⟩
  refine ⟨s.BusesTogether t, ⟨fun b d b' h h' => ?_, fun b d d' h h' => ?_⟩, fun a => ?_⟩
  · exact eq_of_busesTogether ht hs hraw.symm hmatch' (hswap h) (hswap h')
  · exact eq_of_busesTogether hs ht hraw hmatch h h'
  · have hrel := hvalues a
    cases hv : s.value? a with
    | none =>
      rw [hv] at hrel
      generalize t.value? a = y at hrel ⊢
      cases hrel
      exact .none
    | some v =>
      cases hw : t.value? a with
      | none =>
        rw [hv, hw] at hrel
        exact nomatch hrel
      | some w =>
        have hhas := value?_eq_some_iff.mp hv
        have hhas' := value?_eq_some_iff.mp hw
        exact .some ((hmatch a v w hhas hhas').of_anyBus
          fun b d hb hd => ⟨a, v, w, hhas, hhas', hb, hd⟩)

end Sheet

end SoundSheet
