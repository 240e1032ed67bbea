import SoundSheet.Proofs.Bus.Course

/-!
# Triggers come to an end

The step by step course of a fan-out has no bound on it. It ends all the same,
and ends with what `triggerAll` computes (`exists_steps_fanOut`): a listener
that is subscribed comes out of the program of another one, so its rank is
lower, and a nested fan-out is over listeners of lower rank than those of the
fan-out around it.

Together with what holds at every moment of the course (`Course.Regular`) this
tells all about a trigger (`Switchboard.trigger_course`): who is called, by
which fan-out, in which order, and who is on the bus afterwards.
-/

namespace SoundSheet

namespace Course

/-- **Where a course leads**: steps from `c` reach a moment with these fan-outs
under way, when the calls of the result have been made and its listeners are on
the bus, all of a rank below a bound. -/
def Leads (c : Course) (active : List ActiveFanOut) (result : List Call × List Listener)
    (bound : Nat) : Prop :=
  ∃ c', Steps c c' ∧ c'.active = active ∧ c'.calls = c.calls ++ result.1
    ∧ c'.listeners = result.2 ∧ ∀ l ∈ result.2, l.rank < bound

/-- The calls and listeners of a fan-out are those that a function says, for
listeners of a rank below a bound. -/
def FansOut (fan : Bool → List Listener → List Call × List Listener) (bound : Nat) : Prop :=
  ∀ (c : Course) (value : Bool), (∀ l ∈ c.listeners, l.rank < bound) →
    (c.trigger value).Leads c.active (fan value c.listeners) bound

variable {fan : Bool → List Listener → List Call × List Listener} {bound : Nat}

/-- Courses follow each other. -/
theorem Leads.trans {c c' : Course} {active : List ActiveFanOut}
    {result : List Call × List Listener} (calls : List Call) (hsteps : Steps c c')
    (hcalls : c'.calls = c.calls ++ calls) (h : c'.Leads active result bound) :
    c.Leads active (calls ++ result.1, result.2) bound := by
  obtain ⟨c'', hsteps', hactive, hcalls', hrest⟩ := h
  refine ⟨c'', hsteps.trans hsteps', hactive, ?_, hrest⟩
  rw [hcalls', hcalls, List.append_assoc]

theorem calls_subscribe (c : Course) (l : Listener) : (c.subscribe l).calls = c.calls := by
  simp [calls, subscribe, BusEvent.call?]

theorem calls_trigger (c : Course) (value : Bool) : (c.trigger value).calls = c.calls := by
  simp [calls, trigger, BusEvent.call?]

theorem listeners_subscribe (c : Course) (l : Listener) :
    (c.subscribe l).listeners = c.listeners ++ [l] := by
  simp [listeners, subscribe]

/-- **What a listener does** leads to where `Action.run` says. -/
theorem leads_action (hfan : FansOut fan bound) (f : ActiveFanOut)
    (outer : List ActiveFanOut) : ∀ (a : Action) (c : Course),
      c.active = { f with current := a } :: outer → a.rank ≤ bound →
        (∀ l ∈ c.listeners, l.rank < bound) →
          c.Leads ({ f with current := .done } :: outer) (a.run fan c.listeners) bound := by
  intro a
  induction a with
  | done =>
    exact fun c hactive _ hranks => ⟨c, .refl, hactive, (List.append_nil _).symm, rfl, hranks⟩
  | subscribe label on off next _ _ ih =>
    intro c hactive hrank hranks
    have hrank' : max (max on.rank off.rank + 1) next.rank ≤ bound := hrank
    let c₁ : Course := { c with active := { f with current := next } :: outer }
    have hstep : c.step = some (c₁.subscribe ⟨label, on, off⟩) := by rw [step, hactive]
    have hlisteners := c₁.listeners_subscribe ⟨label, on, off⟩
    have hnew : (⟨label, on, off⟩ : Listener).rank < bound := by
      show max on.rank off.rank < bound
      omega
    have hnext := ih (c₁.subscribe ⟨label, on, off⟩) rfl (by omega) (by
      intro l hl
      rw [hlisteners] at hl
      rcases List.mem_append.mp hl with hl | hl
      · exact hranks l hl
      · exact List.mem_singleton.mp hl ▸ hnew)
    rw [hlisteners] at hnext
    exact .trans [] (.single hstep)
      ((c₁.calls_subscribe _).trans (List.append_nil _).symm) hnext
  | trigger value next ih =>
    intro c hactive hrank hranks
    let c₁ : Course := { c with active := { f with current := next } :: outer }
    have hstep : c.step = some (c₁.trigger value) := by rw [step, hactive]
    obtain ⟨c₂, hsteps, hactive₂, hcalls₂, hlisteners₂, hranks₂⟩ := hfan c₁ value hranks
    rw [calls_trigger] at hcalls₂
    have hnext := ih c₂ hactive₂ hrank (by rw [hlisteners₂]; exact hranks₂)
    rw [hlisteners₂] at hnext
    exact .trans _ (.head hstep hsteps) hcalls₂ hnext

/-- **The calls of a fan-out** lead to where `callAll` says. -/
theorem leads_callAll (hfan : FansOut fan bound) (outer : List ActiveFanOut) (number : Nat)
    (value : Bool) : ∀ (remaining called : List Subscription) (c : Course),
      c.active = ⟨number, value, called, .done, remaining⟩ :: outer →
        (∀ sub ∈ remaining, sub.listener.rank ≤ bound) →
          (∀ l ∈ c.listeners, l.rank < bound) →
            c.Leads (⟨number, value, called ++ remaining, .done, []⟩ :: outer)
              (callAll fan value (remaining.map Subscription.listener) c.listeners) bound := by
  intro remaining
  induction remaining with
  | nil =>
    intro called c hactive _ hranks
    rw [List.append_nil]
    exact ⟨c, .refl, hactive, (List.append_nil _).symm, rfl, hranks⟩
  | cons sub rest ih =>
    intro called c hactive hremaining hranks
    let f : ActiveFanOut := ⟨number, value, called, .done, sub :: rest⟩
    have hstep : c.step = some (c.call f sub rest outer) := by rw [step, hactive]
    have hrank : (sub.listener.action value).rank ≤ bound := by
      refine Nat.le_trans ?_ (hremaining sub List.mem_cons_self)
      rw [Listener.action, Listener.rank]
      cases value with
      | true => exact Nat.le_max_left _ _
      | false => exact Nat.le_max_right _ _
    have haction := leads_action hfan ⟨number, value, called ++ [sub], .done, rest⟩ outer
      (sub.listener.action value) (c.call f sub rest outer) rfl hrank hranks
    obtain ⟨c₁, hsteps, hactive₁, hcalls₁, hlisteners₁, hranks₁⟩ := haction
    have hrest := ih (called ++ [sub]) c₁ hactive₁
      (fun s hs => hremaining s (List.mem_cons_of_mem _ hs)) (by rw [hlisteners₁]; exact hranks₁)
    rw [hlisteners₁, List.append_assoc] at hrest
    have hcalls : c₁.calls = c.calls ++ (⟨sub.listener.label, value⟩
        :: ((sub.listener.action value).run fan c.listeners).1) := by
      rw [hcalls₁]
      simp [calls, call, BusEvent.call?, f]
      rfl
    exact .trans _ (.head hstep hsteps) hcalls hrest

/-- **A fan-out** leads to where `fanOut` says, if there is room for the ranks
of the listeners: those that it calls subscribe listeners of a lower rank
only. -/
theorem fansOut_fanOut : ∀ room : Nat, FansOut (fanOut room) room := by
  intro room
  induction room with
  | zero =>
    intro c value hranks
    have hbus : c.bus = [] := by
      refine List.eq_nil_iff_forall_not_mem.mpr fun sub hsub => ?_
      exact Nat.not_lt_zero _ (hranks sub.listener (List.mem_map_of_mem hsub))
    have hstep : (c.trigger value).step
        = some ((c.trigger value).finish ⟨c.started, value, [], .done, []⟩ c.active) := by
      rw [step, trigger, hbus]
    refine ⟨_, .single hstep, rfl, (List.append_nil _).symm, ?_, hranks⟩
    rw [fanOut, listeners, listeners, hbus]
    rfl
  | succ room ih =>
    intro c value hranks
    have hall := leads_callAll ih c.active c.started value c.bus [] (c.trigger value) rfl
      (fun sub hsub => Nat.le_of_lt_succ (hranks _ (List.mem_map_of_mem hsub)))
      (fun l hl => absurd hl List.not_mem_nil)
    obtain ⟨c₁, hsteps, hactive, hcalls, hlisteners, hadded⟩ := hall
    have hstep : c₁.step = some (c₁.finish ⟨c.started, value, c.bus, .done, []⟩ c.active) := by
      rw [step, hactive]
      rfl
    refine ⟨_, hsteps.tail hstep, rfl, hcalls, ?_, fun l hl => ?_⟩
    · show (c.bus ++ c₁.bus).map Subscription.listener = _
      rw [List.map_append]
      exact congrArg (c.listeners ++ ·) hlisteners
    · rcases List.mem_append.mp hl with hl | hl
      · exact hranks l hl
      · exact Nat.lt_succ_of_lt (hadded l hl)

end Course

/-! ## The room for a trigger -/

/-- The room of a trigger is enough for all listeners of the bus. -/
theorem rank_lt_fanOutRoom : ∀ {listeners : List Listener} {l : Listener}, l ∈ listeners →
    l.rank < fanOutRoom listeners
  | _ :: _, _, .head _ => Nat.lt_of_lt_of_le (Nat.lt_succ_self _) (Nat.le_max_left _ _)
  | _ :: _, _, .tail _ hl => Nat.lt_of_lt_of_le (rank_lt_fanOutRoom hl) (Nat.le_max_right _ _)

/-! ## A trigger from start to end -/

/-- **A trigger loses no listener and calls none twice.** It comes to an end. By
then the fan-out has called the listeners that were on the bus, each once and in
order, and the fan-outs nested in it have called none of these: whom they have
called was subscribed before they started. On the bus are the listeners from
before and then all that were subscribed meanwhile, in this order. -/
theorem Switchboard.trigger_course (s : Switchboard) (bus : BusId) (value : Bool) :
    ∃ c : Course,
      Course.Steps ((Course.ofListeners (s.listeners bus)).trigger value) c
      ∧ c.step = none
      ∧ s.trigger bus value = (c.calls, s.setListeners bus c.listeners)
      ∧ c.callsBy 0 = (subscriptions (s.listeners bus)).map (·, value)
      ∧ (∀ fan sub value', .called fan sub value' ∈ c.log → fan ≠ 0 →
          sub ∉ subscriptions (s.listeners bus)
          ∧ ∃ list, [.subscribed sub, .started fan value' list].Sublist c.log)
      ∧ c.log.filterMap BusEvent.start? = List.range c.started
      ∧ c.bus.map Subscription.number = List.range c.subscribed
      ∧ c.bus = subscriptions (s.listeners bus) ++ c.added := by
  let c₀ := Course.ofListeners (s.listeners bus)
  have hlisteners : c₀.listeners = s.listeners bus := listener_subscriptions _
  obtain ⟨c, hsteps, hactive, hcalls, hend, -⟩ :=
    Course.fansOut_fanOut (fanOutRoom c₀.listeners) c₀ value fun _ hl => rank_lt_fanOutRoom hl
  rw [hlisteners] at hcalls hend
  have hregular := (Course.regular_trigger (s.listeners bus) value).steps hsteps
  have hbus : Course.gathered c.active c.bus = c.bus := by rw [hactive]; rfl
  have hfirst : .started 0 value (subscriptions (s.listeners bus)) ∈ c.log := by
    exact (Course.log_prefix hsteps).subset (List.mem_singleton_self _)
  refine ⟨c, hsteps, by rw [Course.step, hactive]; rfl, ?_, ?_,
    fun fan sub value' hcalled hfan => ?_, hregular.starts, hbus ▸ hregular.numbers,
    hbus ▸ hregular.order⟩
  · rw [trigger, triggerAll]
    show _ = (c.calls, _)
    rw [hcalls, hend]
    rfl
  · refine (hregular.ended 0 value _ hfirst).resolve_left fun hmem => ?_
    rw [hactive] at hmem
    exact nomatch hmem
  · obtain ⟨list, hstarted, hsub⟩ := hregular.listed fan sub value' hcalled
    obtain ⟨hnone, hbefore⟩ := hregular.later fan value' list hstarted hfan sub hsub
    exact ⟨hnone, list, hbefore⟩

end SoundSheet
